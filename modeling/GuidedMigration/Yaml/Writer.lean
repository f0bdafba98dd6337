/-
This file writes a value as a YAML document in block style. Every entry of a mapping and every item
of a list starts a line of its own; mappings are indented by two columns, and a list that is the
value of a key stands at the column of the key. Mappings keep the order of their keys. Empty
collections are written in brackets.
-/
import GuidedMigration.Text.Base64
import GuidedMigration.Yaml.ScalarText

namespace GuidedMigration.Yaml

open Text

/-- The parts of a text of at most `size + 1` characters each. -/
def chunks (size : Nat) : Nat → Text → List Text
  | 0, _ => []
  | fuel + 1, text =>
    if text.isEmpty then []
    else text.take (size + 1) :: chunks size fuel (text.drop (size + 1))

/-- Bytes as they stand in a document: a tag and lines of base 64. -/
def writeBytes (indent : Nat) (octets : List UInt8) : Text :=
  if octets.isEmpty then "!!binary \"\"".toList
  else
    let digits := Base64.encode octets
    "!!binary |".toList ++ (chunks 75 digits.length digits).flatMap (lineStart indent ++ ·)

/-- A scalar as it stands in a document. -/
def writeScalar (fold : Bool) (indent column : Nat) : Scalar → Text
  | .text word => writeText fold indent column word
  | .bytes octets => writeBytes indent octets
  | other => foldPlain fold indent column ' ' (writeAtom other)

/-- Whether a key can stand before its colon: it is one line, not empty and not too long. -/
def isSimpleKey : Scalar → Bool
  | .text word => !word.isEmpty && !word.any isBreak && word.length + 5 < 128
  | .bytes _ => false
  | other => (writeAtom other).length + tagLength other < 128

/-- A set of scalars as the lines of its members, each with an empty value. -/
def writeMembers (indent : Nat) (members : List Scalar) : List Text :=
  members.map fun member =>
    if isSimpleKey member then
      writeScalar false (indent + 2) indent member ++ ": null".toList
    else
      ['?', ' '] ++ writeScalar true (indent + 2) (indent + 2) member ++ lineStart indent ++
        ": null".toList

mutual

/-- A value behind a key and its colon, which end at `column`; the key starts at `indent`. -/
def writeAfterKey (indent column : Nat) : Value → Text
  | .scalar leaf => ' ' :: writeScalar true (indent + 2) (column + 1) leaf
  | .list [] => " []".toList
  | .list items => (writeItems indent items).flatMap (lineStart indent ++ ·)
  | .set [] => " !!set \x7b\x7d".toList
  | .set members =>
    " !!set".toList ++ (writeMembers (indent + 2) members).flatMap (lineStart (indent + 2) ++ ·)
  | .map [] => " \x7b\x7d".toList
  | .map entries => (writeEntries (indent + 2) entries).flatMap (lineStart (indent + 2) ++ ·)

/-- A value behind a dash or a lone colon at `indent`; its first line goes on there. -/
def writeInline (indent : Nat) : Value → Text
  | .scalar leaf => ' ' :: writeScalar true (indent + 2) (indent + 2) leaf
  | .list [] => " []".toList
  | .list items => ' ' :: joinWith (lineStart (indent + 2)) (writeItems (indent + 2) items)
  | .set [] => " !!set \x7b\x7d".toList
  | .set members =>
    " !!set".toList ++ (writeMembers (indent + 2) members).flatMap (lineStart (indent + 2) ++ ·)
  | .map [] => " \x7b\x7d".toList
  | .map entries => ' ' :: joinWith (lineStart (indent + 2)) (writeEntries (indent + 2) entries)

/-- The items of a list at `indent`, each without the break and the spaces before it. -/
def writeItems (indent : Nat) : List Value → List Text
  | [] => []
  | item :: rest => ('-' :: writeInline indent item) :: writeItems indent rest

/-- The entries of a mapping at `indent`, each without the break and the spaces before it. -/
def writeEntries (indent : Nat) : List (Scalar × Value) → List Text
  | [] => []
  | (key, value) :: rest =>
    (if isSimpleKey key then
      let written := writeScalar false (indent + 2) indent key
      written ++ [':'] ++ writeAfterKey indent (indent + written.length + 1) value
    else
      ['?', ' '] ++ writeScalar true (indent + 2) (indent + 2) key ++ lineStart indent ++ [':'] ++
        writeInline indent value) :: writeEntries indent rest

end

/-- Whether a scalar alone in a document needs a mark behind it, since its end would be open. -/
def isOpenEnded : Scalar → Bool
  | .text word => Plain.kind word = .text && fitsPlain word
  | .bytes _ => false
  | _ => true

/-- A value as a YAML document. -/
def write : Value → Text
  | .scalar leaf =>
    writeScalar true 2 0 leaf ++ ['\n'] ++ if isOpenEnded leaf then ['.', '.', '.', '\n'] else []
  | .list [] => ['[', ']', '\n']
  | .list items => joinLines (writeItems 0 items) ++ ['\n']
  | .set [] => "!!set \x7b\x7d\n".toList
  | .set members => "!!set\n".toList ++ joinLines (writeMembers 0 members) ++ ['\n']
  | .map [] => ['\x7b', '\x7d', '\n']
  | .map entries => joinLines (writeEntries 0 entries) ++ ['\n']

end GuidedMigration.Yaml
