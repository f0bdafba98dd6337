/-
This file builds the tree of a YAML document from its tokens. A node has a tag, which is written at
it or follows from its text, and aliases are replaced by the nodes that they name; an alias inside
the collection that it names has a tag of its own. A text holds one document at most.
-/
import GuidedMigration.Yaml.Plain
import GuidedMigration.Yaml.Token

namespace GuidedMigration.Yaml

open Text

/-- What a tag says about a node. -/
inductive Tag where
  | null
  | bool
  | int
  | float
  | binary
  | timestamp
  | omap
  | pairs
  | set
  | str
  | seq
  | map
  | merge
  | value
  /-- The tag of an alias inside the collection that it names. -/
  | enclosing
  | other
  deriving DecidableEq

/-- What the addresses of the known tags start with. -/
def tagStart : Text := "tag:yaml.org,2002:".toList

/-- The known tags by the ends of their addresses. -/
def knownTags : List (Text × Tag) :=
  [("null".toList, .null), ("bool".toList, .bool), ("int".toList, .int), ("float".toList, .float),
    ("binary".toList, .binary), ("timestamp".toList, .timestamp), ("omap".toList, .omap),
    ("pairs".toList, .pairs), ("set".toList, .set), ("str".toList, .str), ("seq".toList, .seq),
    ("map".toList, .map), ("merge".toList, .merge), ("value".toList, .value)]

/-- The tag with an address. -/
def Tag.ofAddress (address : Text) : Tag :=
  match dropPrefix? tagStart address with
  | some name => (knownTags.lookup name).getD .other
  | none => .other

/-- The tag of a plain scalar. -/
def Tag.ofPlain (text : Text) : Tag :=
  match Plain.kind text with
  | .null => .null
  | .bool => .bool
  | .int => .int
  | .float => .float
  | .timestamp => .timestamp
  | .merge => .merge
  | .value => .value
  | .text => .str

/-- A node of a document. -/
inductive Node where
  | scalar (tag : Tag) (text : Text)
  | sequence (tag : Tag) (items : List Node)
  | mapping (tag : Tag) (entries : List (Node × Node))

namespace Node

/-- The empty node. -/
def empty : Node := .scalar .null []

/-- What is known behind a node: the tokens behind it and the nodes that have names. -/
structure Rest where
  tokens : List Token
  anchors : List (Text × Node)

/-- The tokens without the first one. -/
def Rest.next (rest : Rest) : Rest := { rest with tokens := rest.tokens.drop 1 }

/-- The handles of tags and what they stand for. -/
abbrev Handles := List (Text × Text)

/-- The handles that need no directive. -/
def usualHandles : Handles := [(['!'], ['!']), (['!', '!'], tagStart)]

/-- What stands before a node: its name and the address of its tag. -/
structure Properties where
  anchor : Option Text
  tag : Option Text

/-- The address that a handle and a suffix stand for. -/
def addressOf (handles : Handles) (handle : Option Text) (suffix : Text) : Except Fault Text :=
  match handle with
  | none => .ok suffix
  | some handle => match handles.lookup handle with
    | some start => .ok (start ++ suffix)
    | none => .error .malformed

/-- The properties before a node, in either order. -/
def properties (handles : Handles) (rest : Rest) : Except Fault (Properties × Rest) := do
  match rest.tokens with
  | .anchor name :: .tag handle suffix :: tokens
  | .tag handle suffix :: .anchor name :: tokens =>
    let address ← addressOf handles handle suffix
    .ok (⟨some name, some address⟩, { rest with tokens := tokens })
  | .anchor name :: tokens => .ok (⟨some name, none⟩, { rest with tokens := tokens })
  | .tag handle suffix :: tokens =>
    let address ← addressOf handles handle suffix
    .ok (⟨none, some address⟩, { rest with tokens := tokens })
  | _ => .ok (⟨none, none⟩, rest)

/-- The tag at a node, unless none is written or it is left open by an exclamation mark alone. -/
def Properties.written? (properties : Properties) : Option Tag :=
  (properties.tag.filter (· != ['!'])).map Tag.ofAddress

/-- The tag of a scalar. -/
def scalarTag (properties : Properties) (text : Text) (isPlain : Bool) : Tag :=
  match properties.written? with
  | some tag => tag
  | none => if isPlain || properties.tag.isSome then Tag.ofPlain text else .str

/-- What is known behind a node with a name. -/
def Rest.named (anchor : Option Text) (node : Node) (rest : Rest) : Node × Rest :=
  match anchor with
  | none => (node, rest)
  | some name => (node, { rest with anchors := (name, node) :: rest.anchors })

/-- What is known behind the properties of a node: its name, which must be new, stands for the node
itself until the node has been read. -/
def Rest.opened (anchor : Option Text) (rest : Rest) : Except Fault Rest :=
  match anchor with
  | none => .ok rest
  | some name =>
    if (rest.anchors.lookup name).isSome then .error .malformed
    else .ok { rest with anchors := (name, .scalar .enclosing []) :: rest.anchors }

/-- Whether the first token is one of some tokens. -/
def Rest.isAt (tokens : List Token) (rest : Rest) : Bool := rest.tokens.head?.any tokens.contains

/-- Where a node stands, which tells which collections it may be. -/
inductive Setting where
  /-- Inside brackets. -/
  | flow
  /-- Outside of brackets. -/
  | block
  /-- The key or the value of a block mapping, where the items of a list need no indentation. -/
  | entry
  deriving DecidableEq

mutual

/-- One node. -/
def read : Nat → Handles → Setting → Rest → Except Fault (Node × Rest)
  | 0, _, _, _ => .error .malformed
  | fuel + 1, handles, setting, rest =>
    match rest.tokens with
    | .alias name :: tokens => match rest.anchors.lookup name with
      | some node => .ok (node, { rest with tokens := tokens })
      | none => .error .malformed
    | _ => do
      let (properties, rest) ← properties handles rest
      let rest ← rest.opened properties.anchor
      let list := (properties.written?).getD .seq
      let mapping := (properties.written?).getD .map
      match rest.tokens with
      | .scalar text isPlain :: _ =>
        .ok (rest.next.named properties.anchor (.scalar (scalarTag properties text isPlain) text))
      | .flowSequence :: _ => do
        let (items, rest) ← flowItems fuel handles true rest.next
        .ok (rest.named properties.anchor (.sequence list items))
      | .flowMapping :: _ => do
        let (entries, rest) ← flowEntries fuel handles true rest.next
        .ok (rest.named properties.anchor (.mapping mapping entries))
      | .blockEntry :: _ =>
        if setting = .entry then do
          let (items, rest) ← blockItems fuel handles false rest
          .ok (rest.named properties.anchor (.sequence list items))
        else emptyNode properties rest
      | .blockSequence :: _ =>
        if setting = .flow then emptyNode properties rest
        else do
          let (items, rest) ← blockItems fuel handles true rest.next
          .ok (rest.named properties.anchor (.sequence list items))
      | .blockMapping :: _ =>
        if setting = .flow then emptyNode properties rest
        else do
          let (entries, rest) ← blockEntries fuel handles rest.next
          .ok (rest.named properties.anchor (.mapping mapping entries))
      | _ => emptyNode properties rest

/-- The empty node, which must have a property. Its text counts as plain. -/
def emptyNode (properties : Properties) (rest : Rest) : Except Fault (Node × Rest) :=
  if properties.anchor.isSome || properties.tag.isSome then
    .ok (rest.named properties.anchor (.scalar (scalarTag properties [] true) []))
  else .error .malformed

/-- A node, or the empty node if one of some tokens comes first. -/
def readUnless : Nat → Handles → Setting → List Token → Rest → Except Fault (Node × Rest)
  | 0, _, _, _, _ => .error .malformed
  | fuel + 1, handles, setting, stops, rest =>
    if rest.isAt stops then .ok (.empty, rest) else read fuel handles setting rest

/-- The items of a block list. One that is `indented` has an end. -/
def blockItems : Nat → Handles → Bool → Rest → Except Fault (List Node × Rest)
  | 0, _, _, _ => .error .malformed
  | fuel + 1, handles, indented, rest =>
    if rest.isAt [.blockEntry] then do
      let stops : List Token := if indented then [.blockEntry, .blockEnd]
        else [.blockEntry, .key, .value, .blockEnd]
      let (item, rest) ← readUnless fuel handles .block stops rest.next
      let (items, rest) ← blockItems fuel handles indented rest
      .ok (item :: items, rest)
    else if !indented then .ok ([], rest)
    else if rest.isAt [.blockEnd] then .ok ([], rest.next)
    else .error .malformed

/-- The entries of a block mapping. -/
def blockEntries : Nat → Handles → Rest → Except Fault (List (Node × Node) × Rest)
  | 0, _, _ => .error .malformed
  | fuel + 1, handles, rest =>
    if rest.isAt [.key] then do
      let stops : List Token := [.key, .value, .blockEnd]
      let (key, rest) ← readUnless fuel handles .entry stops rest.next
      let (value, rest) ←
        if rest.isAt [.value] then readUnless fuel handles .entry stops rest.next
        else .ok (.empty, rest)
      let (entries, rest) ← blockEntries fuel handles rest
      .ok ((key, value) :: entries, rest)
    else if rest.isAt [.blockEnd] then .ok ([], rest.next)
    else .error .malformed

/-- The items of a list in brackets; all but the first stand behind a comma. -/
def flowItems : Nat → Handles → Bool → Rest → Except Fault (List Node × Rest)
  | 0, _, _, _ => .error .malformed
  | fuel + 1, handles, isFirst, rest =>
    if rest.isAt [.flowSequenceEnd] then .ok ([], rest.next)
    else if !isFirst && !rest.isAt [.flowEntry] then .error .malformed
    else do
      let rest := if isFirst then rest else rest.next
      if rest.isAt [.key] then do
        let (key, rest) ←
          readUnless fuel handles .flow [.value, .flowEntry, .flowSequenceEnd] rest.next
        let (value, rest) ←
          if rest.isAt [.value] then
            readUnless fuel handles .flow [.flowEntry, .flowSequenceEnd] rest.next
          else .ok (.empty, rest)
        let (items, rest) ← flowItems fuel handles false rest
        .ok (.mapping .map [(key, value)] :: items, rest)
      else if rest.isAt [.flowSequenceEnd] then .ok ([], rest.next)
      else do
        let (item, rest) ← read fuel handles .flow rest
        let (items, rest) ← flowItems fuel handles false rest
        .ok (item :: items, rest)

/-- The entries of a mapping in braces; all but the first stand behind a comma. -/
def flowEntries : Nat → Handles → Bool → Rest → Except Fault (List (Node × Node) × Rest)
  | 0, _, _, _ => .error .malformed
  | fuel + 1, handles, isFirst, rest =>
    if rest.isAt [.flowMappingEnd] then .ok ([], rest.next)
    else if !isFirst && !rest.isAt [.flowEntry] then .error .malformed
    else do
      let rest := if isFirst then rest else rest.next
      if rest.isAt [.key] then do
        let (key, rest) ←
          readUnless fuel handles .flow [.value, .flowEntry, .flowMappingEnd] rest.next
        let (value, rest) ←
          if rest.isAt [.value] then
            readUnless fuel handles .flow [.flowEntry, .flowMappingEnd] rest.next
          else .ok (.empty, rest)
        let (entries, rest) ← flowEntries fuel handles false rest
        .ok ((key, value) :: entries, rest)
      else if rest.isAt [.flowMappingEnd] then .ok ([], rest.next)
      else do
        let (key, rest) ← read fuel handles .flow rest
        let (entries, rest) ← flowEntries fuel handles false rest
        .ok ((key, .empty) :: entries, rest)

end

/-! ### Documents -/

/-- The handles that the directives of a document give, and the tokens behind them. -/
def directives (handles : Handles) (hasVersion : Bool) :
    List Token → Except Fault (Handles × List Token)
  | .version major :: tokens =>
    if hasVersion || numberOf major != 1 then .error .malformed else directives handles true tokens
  | .tagHandle handle start :: tokens =>
    if (handles.lookup handle).isSome then .error .malformed
    else directives ((handle, start) :: handles) hasVersion tokens
  | .directive :: tokens => directives handles hasVersion tokens
  | tokens => .ok (handles, tokens)

/-- Whether a token is a directive. -/
def isDirective : Token → Bool
  | .version _ => true
  | .tagHandle _ _ => true
  | .directive => true
  | _ => false

/-- The content of a document whose start was written. -/
def content (fuel : Nat) (handles : Handles) (tokens : List Token) : Except Fault (Node × Rest) :=
  match tokens with
  | [] => .ok (.empty, ⟨[], []⟩)
  | token :: _ =>
    if isDirective token || token = .documentStart || token = .documentEnd then
      .ok (.empty, ⟨tokens, []⟩)
    else read fuel handles .block ⟨tokens, []⟩

/-- The root of the document in a text; nothing if the text holds none. -/
def ofText? (text : Text) : Except Fault (Option Node) := do
  let tokens ← tokensOf text
  let fuel := 4 * tokens.length + 8
  match tokens with
  | [] => .ok none
  | first :: _ =>
    let (node, rest) ←
      if isDirective first || first = .documentStart then do
        let (handles, tokens) ← directives [] false tokens
        match tokens with
        | .documentStart :: tokens => content fuel (handles ++ usualHandles) tokens
        | _ => .error .malformed
      else read fuel usualHandles .block ⟨tokens, []⟩
    if rest.tokens.all (· = .documentEnd) then .ok (some node) else .error .malformed

end Node

end GuidedMigration.Yaml
