/-
This file reads YAML texts into values: it turns the tree of a document into a value by the tags of
its nodes. The entries of a mapping under the merge key are written to the mapping before its own.

Of several faults the outermost counts: the nodes are checked level by level, each collection from
left to right, before the value is put together.
-/
import GuidedMigration.Yaml.Leaf

namespace GuidedMigration.Yaml

open Text

namespace Node

/-- The tag of a node. -/
def tag : Node → Tag
  | .scalar tag _ => tag
  | .sequence tag _ => tag
  | .mapping tag _ => tag

mutual

/-- The text of a node that is read as a scalar; a mapping has the text at its key `=`. -/
def text? : Node → Option Text
  | .scalar _ text => some text
  | .sequence _ _ => none
  | .mapping _ entries => textAmong? entries

/-- The text at the key `=` of a mapping. -/
def textAmong? : List (Node × Node) → Option Text
  | [] => none
  | (key, value) :: rest => if key.tag = .value then text? value else textAmong? rest

end

/-! ### Merge keys -/

/-- What is wrong with a node that gives no entries under a merge key. -/
def unmerged (node : Node) : Fault := if node.tag = .enclosing then .endless else .malformed

/-- A key of a mapping; the key `=` is a text there. -/
def asKey : Node → Node
  | .scalar .value text => .scalar .str text
  | .sequence .value items => .sequence .str items
  | .mapping .value entries => .mapping .str entries
  | key => key

/-- The entries of a mapping that are not under the merge key. -/
def ownEntries (entries : List (Node × Node)) : List (Node × Node) :=
  (entries.filter fun (key, _) => key.tag != .merge).map fun (key, value) => (asKey key, value)

mutual

/-- The entries under the merge keys of a mapping, in order. -/
def merged : List (Node × Node) → Except Fault (List (Node × Node))
  | [] => .ok []
  | (key, value) :: rest =>
    if key.tag = .merge then do
      let first ← mergedFrom value
      let later ← merged rest
      .ok (first ++ later)
    else merged rest

/-- The entries that a value under the merge key gives: those of a mapping, or those of the mappings
of a list, the last one first. -/
def mergedFrom : Node → Except Fault (List (Node × Node))
  | .scalar tag text => .error (unmerged (.scalar tag text))
  | .sequence _ items => mergedFromEach items
  | .mapping _ entries => do
    let inherited ← merged entries
    .ok (inherited ++ ownEntries entries)

/-- The entries that the mappings of a list give, the last one first. -/
def mergedFromEach : List Node → Except Fault (List (Node × Node))
  | [] => .ok []
  | .mapping _ entries :: rest => do
    let inherited ← merged entries
    let later ← mergedFromEach rest
    .ok (later ++ (inherited ++ ownEntries entries))
  | node :: _ => .error (unmerged node)

end

/-- The entries of a mapping, those under merge keys first. -/
def entriesOf : Node → Except Fault (List (Node × Node))
  | .mapping _ entries => do
    let inherited ← merged entries
    .ok (inherited ++ ownEntries entries)
  | _ => .error .malformed

/-! ### Levels -/

/-- The scalar that a node is; nothing if its tag is one of a collection. -/
def scalar? (node : Node) : Except Fault (Option Scalar) :=
  if node.tag.isCollection then .ok none
  else match node.text? with
    | some text => (node.tag.scalar text).map some
    | none => .error .malformed

/-- The scalar that a key is; a collection is none, not even the one that the key stands in. -/
def key (node : Node) : Except Fault Scalar := do
  if node.tag = .enclosing then .error .malformed
  else match ← node.scalar? with
    | some leaf => .ok leaf
    | none => .error .malformed

/-- The one entry of a mapping in a list of pairs. -/
def pair : Node → Except Fault (Node × Node)
  | .mapping _ [entry] => .ok entry
  | _ => .error .malformed

/-- The items of a list. -/
def itemsOf : Node → Except Fault (List Node)
  | .sequence _ items => .ok items
  | _ => .error .malformed

/-- A node if it is a collection, which is checked later; scalars are checked at once. -/
def deferred (node : Node) : Except Fault (List Node) := do
  match ← node.scalar? with
  | some _ => .ok []
  | none => .ok [node]

/-- Checks what stands directly in a collection and gives the collections among it. -/
def checkParts (node : Node) : Except Fault (List Node) :=
  match node.tag with
  | .seq => do
    let items ← itemsOf node
    let later ← items.mapM deferred
    .ok later.flatten
  | .omap | .pairs => do
    let items ← itemsOf node
    let later ← items.mapM fun item => do
      let (key, value) ← pair item
      let keys ← deferred key
      let values ← deferred value
      .ok (keys ++ values)
    .ok later.flatten
  | _ => do
    let entries ← entriesOf node
    let later ← entries.mapM fun (name, value) => do
      let _ ← key name
      deferred value
    .ok later.flatten

/-- Checks collections and, after all of them, the collections in them, down to a depth. -/
def checkLevels : Nat → List Node → Except Fault Unit
  | _, [] => .ok ()
  | 0, _ :: _ => .error .malformed
  | depth + 1, nodes => do
    let later ← nodes.mapM checkParts
    checkLevels depth later.flatten

/-! ### Values -/

/-- The members of a set, each once. -/
def members (scalars : List Scalar) : List Scalar :=
  scalars.foldl (fun found scalar => if found.any (·.same scalar) then found else found ++ [scalar])
    []

/-- The value of a node, down to a depth. -/
def value : Nat → Node → Except Fault Value
  | 0, _ => .error .malformed
  | depth + 1, node => do
    match ← node.scalar? with
    | some leaf => .ok (.scalar leaf)
    | none => match node.tag with
      | .seq => do
        let items ← itemsOf node
        let values ← items.mapM (value depth)
        .ok (.list values)
      | .omap | .pairs => do
        let items ← itemsOf node
        let values ← items.mapM fun item => do
          let (key, value') ← pair item
          let key ← value depth key
          let value' ← value depth value'
          .ok (.list [key, value'])
        .ok (.list values)
      | .set => do
        let entries ← entriesOf node
        let keys ← entries.mapM fun (name, _) => key name
        .ok (.set (members keys))
      | _ => do
        let entries ← entriesOf node
        let values ← entries.mapM fun (name, content) => do
          let name ← key name
          let content ← value depth content
          .ok (name, content)
        .ok (.map (Mapping.ofEntries values))

end Node

/-- The value of the document in a text; the empty value if the text holds none. Each level of the
document takes at least one character, so that the length of the text bounds its depth. -/
def read (text : Text) : Except Fault Value := do
  match ← Node.ofText? text with
  | none => .ok .null
  | some node =>
    let depth := text.length + 2
    let later ← node.deferred
    Node.checkLevels depth later
    node.value depth

end GuidedMigration.Yaml
