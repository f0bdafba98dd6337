/-
This file knows the three ways in which a guide leaves a value open: a placeholder proper, which is
a dollar sign and a name in braces, a name in angle brackets, and a name after `YOUR_`. The last two
are turned into the first; placeholders are found and filled in at every text of a value, but never
in a key.
-/
import GuidedMigration.Text.Character
import GuidedMigration.Value.Basic

namespace GuidedMigration.Placeholder

open Text

/-! ### Recognising -/

/-- The characters a placeholder's name may start with. -/
def isNameStart (char : Char) : Bool := isAsciiLetter char || char = '_'

/-- The characters a placeholder's name may hold. -/
def isNameChar (char : Char) : Bool := isAsciiAlnum char || char = '_'

/-- Recognises a dollar sign and a name in braces. -/
def token : Recogniser Text := fun _ text => match text with
  | '$' :: '\x7b' :: rest =>
    let name := rest.takeWhile isNameChar
    if name.head?.any isNameStart && startsWith ['\x7d'] (rest.drop name.length) then
      some (name, name.length + 3)
    else none
  | _ => none

/-- The characters a name in angle brackets may hold. -/
def isAngleChar (char : Char) : Bool :=
  isAsciiAlnum char || char = ' ' || char = '_' || char = '.' || char = '-'

/-- Recognises a name in angle brackets. -/
def angleToken : Recogniser Text := fun _ text => match text with
  | '<' :: rest =>
    let name := rest.takeWhile isAngleChar
    if name.head?.any isAsciiLetter && startsWith ['>'] (rest.drop name.length) then
      some (name, name.length + 2)
    else none
  | _ => none

/-- The characters a name after `YOUR_` may hold. -/
def isYourChar (char : Char) : Bool := isAsciiUpper char || isAsciiDigit char || char = '_'

/-- Recognises a whole word made of `YOUR_` and a name. -/
def yourToken : Recogniser Text := fun before text =>
  if before.any isWord then none
  else match dropPrefix? ['Y', 'O', 'U', 'R', '_'] text with
    | some rest =>
      let name := rest.takeWhile isYourChar
      if name.isEmpty || ((rest.drop name.length).head?).any isWord then none
      else some (name, name.length + 5)
    | none => none

/-! ### Names -/

/-- A text with every run of characters that satisfy `inRun` written as one `mark`. -/
def squeeze (inRun : Char → Bool) (mark : Char) : Bool → Text → Text
  | _, [] => []
  | within, char :: text =>
    if inRun char then
      if within then squeeze inRun mark true text else mark :: squeeze inRun mark true text
    else char :: squeeze inRun mark false text

/-- The placeholder name for a phrase: its letters and digits in capitals, with one underscore for
whatever stands between them. -/
def nameOf (phrase : Text) : Text :=
  (trimWhile (· = '_') (squeeze (!isAsciiAlnum ·) '_' false phrase)).map asciiUpper

/-- The placeholder of a name. -/
def ofName (name : Text) : Text := '$' :: '\x7b' :: name ++ ['\x7d']

/-! ### Texts -/

/-- A text with names in angle brackets and after `YOUR_` turned into placeholders. -/
def normalize (text : Text) : Text :=
  replaceFound yourToken ofName (replaceFound angleToken (ofName ∘ nameOf) text)

/-- Whether a text holds an open value in any of the three ways. -/
def isOpen (text : Text) : Bool :=
  (findFirst? token text).isSome || (findFirst? angleToken text).isSome ||
    (findFirst? yourToken text).isSome

/-- The names of the placeholders in a text. -/
def namesInText (text : Text) : List Text := findAll token text

/-- Values to fill in, by placeholder name. -/
abbrev Values := List (Text × Text)

/-- The value captured for a name. -/
def Values.get? (name : Text) (values : Values) : Option Text := List.lookup name values

/-- The values with one more written to them: in place if the name is there. -/
def Values.put (name value : Text) : Values → Values
  | [] => [(name, value)]
  | (other, old) :: rest =>
    if other = name then (other, value) :: rest else (other, old) :: Values.put name value rest

/-- The values with others written over them. -/
def Values.update (values others : Values) : Values :=
  others.foldl (fun merged (name, value) => merged.put name value) values

/-- A text with every placeholder filled in for which there is a value. -/
def fillText (values : Values) (text : Text) : Text :=
  replaceFound token (fun name => (values.get? name).getD (ofName name)) text

end Placeholder

namespace Value

/-! ### Values -/

mutual

/-- A value with `change` applied to every text in it that is not a key. -/
def mapTexts (change : Text → Text) : Value → Value
  | .scalar (.text word) => .scalar (.text (change word))
  | .scalar leaf => .scalar leaf
  | .list items => .list (mapTextsList change items)
  | .set members => .set members
  | .map entries => .map (mapTextsEntries change entries)

/-- The items with `change` applied to every text in them. -/
def mapTextsList (change : Text → Text) : List Value → List Value
  | [] => []
  | item :: rest => mapTexts change item :: mapTextsList change rest

/-- The entries with `change` applied to every text in their values. -/
def mapTextsEntries (change : Text → Text) : List (Scalar × Value) → List (Scalar × Value)
  | [] => []
  | (key, value) :: rest => (key, mapTexts change value) :: mapTextsEntries change rest

end

mutual

/-- The texts of a value that are not keys, in order. -/
def texts : Value → List Text
  | .scalar (.text word) => [word]
  | .scalar _ => []
  | .list items => textsList items
  | .set _ => []
  | .map entries => textsEntries entries

/-- The texts of the items, in order. -/
def textsList : List Value → List Text
  | [] => []
  | item :: rest => texts item ++ textsList rest

/-- The texts of the entries' values, in order. -/
def textsEntries : List (Scalar × Value) → List Text
  | [] => []
  | (_, value) :: rest => texts value ++ textsEntries rest

end

/-- A value with every open place turned into a placeholder. -/
def normalize (value : Value) : Value := value.mapTexts Placeholder.normalize

/-- The names of the placeholders in a value, each once. -/
def placeholders (value : Value) : List Text :=
  (value.texts.flatMap Placeholder.namesInText).eraseDups

/-- A value with every placeholder filled in for which there is a value. -/
def fill (values : Placeholder.Values) (value : Value) : Value :=
  value.mapTexts (Placeholder.fillText values)

end Value

namespace Mapping

/-- A mapping with every open place turned into a placeholder. -/
def normalize (mapping : Mapping) : Mapping :=
  Value.mapTextsEntries Placeholder.normalize mapping

/-- The names of the placeholders in a mapping, each once. -/
def placeholders (mapping : Mapping) : List Text :=
  ((Value.textsEntries mapping).flatMap Placeholder.namesInText).eraseDups

/-- A mapping with every placeholder filled in for which there is a value. -/
def fill (values : Placeholder.Values) (mapping : Mapping) : Mapping :=
  Value.mapTextsEntries (Placeholder.fillText values) mapping

end Mapping

end GuidedMigration
