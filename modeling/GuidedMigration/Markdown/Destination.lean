/-
This file reads the parts of a link that stand behind its text: the destination, in angle brackets
or with balanced parentheses, and the title. It also brings labels into the form in which they are
compared.
-/
import GuidedMigration.Markdown.Address
import GuidedMigration.Markdown.Entity

namespace GuidedMigration.Markdown

open Text

/-! ### Destinations -/

/-- A destination in angle brackets, from behind the opening bracket on, and the text behind it. -/
def bracketed? : Text → Option (Text × Text)
  | [] => none
  | '>' :: rest => some ([], rest)
  | '\\' :: char :: rest => (bracketed? rest).map fun (inner, behind) =>
      ('\\' :: char :: inner, behind)
  | char :: rest =>
    if char = '\n' || char = '<' then none
    else (bracketed? rest).map fun (inner, behind) => (char :: inner, behind)

/-- A destination without brackets and the text behind it; `depth` parentheses are open. -/
def balanced? : Nat → Text → Option (Text × Text)
  | depth, [] => if depth = 0 then some ([], []) else none
  | depth, '\\' :: char :: rest =>
    if char = ' ' then if depth = 0 then some ([], '\\' :: char :: rest) else none
    else (balanced? depth rest).map fun (inner, behind) => ('\\' :: char :: inner, behind)
  | depth, char :: rest =>
    if char.toNat ≤ 32 || char.toNat = 127 || (char = ')' && depth = 0) then
      if depth = 0 then some ([], char :: rest) else none
    else if char = '(' && depth = 32 then none
    else
      let depth := if char = '(' then depth + 1 else if char = ')' then depth - 1 else depth
      (balanced? depth rest).map fun (inner, behind) => (char :: inner, behind)

/-- The destination at the start of a text, its escapes resolved, and the text behind it. -/
def destination? (text : Text) : Option (Text × Text) :=
  match text with
  | '<' :: rest => (bracketed? rest).map fun (inner, behind) => (unescape inner, behind)
  | _ => match balanced? 0 text with
    | some ([], _) => none
    | some (inner, behind) => some (unescape inner, behind)
    | none => none

/-- An address in its final form, if it may be linked to. -/
def linkable? (address : Text) : Option Text :=
  let final := Address.normalize address
  if Address.isAllowed final then some final else none

/-! ### Titles -/

/-- The mark that closes a title, by the one that opens it. -/
def titleEnd? (opening : Char) : Option Char :=
  if opening = '"' || opening = '\'' then some opening
  else if opening = '(' then some ')'
  else none

/-- The end of a title in a text. -/
inductive TitleEnd where
  /-- The title is closed; it has so many characters, and the text behind it follows. -/
  | closed (size : Nat) (behind : Text)
  /-- The text ends within the title, of which it has so many characters. -/
  | unfinished (size : Nat)
  /-- There is no title. -/
  | none

/-- The end of a title of which `size` characters were read. -/
def titleBody (stop : Char) : Nat → Text → TitleEnd
  | size, [] => .unfinished size
  | size, '\\' :: _ :: rest => titleBody stop (size + 2) rest
  | size, char :: rest =>
    if char = stop then .closed size rest
    else if char = '(' && stop = ')' then .none
    else titleBody stop (size + 1) rest

/-- The text behind a title that stands at the start of a text. -/
def behindTitle? (text : Text) : Option Text :=
  match text with
  | opening :: rest => match titleEnd? opening with
    | some stop => match titleBody stop 0 rest with
      | .closed _ behind => some behind
      | _ => none
    | none => none
  | [] => none

/-! ### Labels -/

/-- A label in the form in which labels are compared: blanks collapsed and case ignored. -/
def normalizeLabel (label : Text) : Text := upper (lower (joinWith [' '] (Text.words label)))

/-- The definitions of a document: the target of a label. -/
abbrev Definitions := List (Text × Text)

/-- The definitions with one more, unless its label is defined. -/
def Definitions.add (label target : Text) (definitions : Definitions) : Definitions :=
  if (definitions.lookup label).isSome then definitions else definitions ++ [(label, target)]

end GuidedMigration.Markdown
