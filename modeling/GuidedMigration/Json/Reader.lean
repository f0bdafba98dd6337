/-
This file reads JSON texts. The members of an object keep the order of their names; of two members
with one name the later datum counts. Besides the numbers of the standard, `NaN` and the infinities
are read. A fault names its reason and the place where reading stopped, which is held as the text
that was left there.
-/
import GuidedMigration.Json.Datum
import GuidedMigration.Number.Numeral
import GuidedMigration.Text.Character

namespace GuidedMigration.Json

open Text

/-- Why a text is not JSON. -/
inductive Reason where
  | value
  | name
  | comma
  | colon
  | extra
  | unterminated
  | controlCharacter
  | escape
  | unicodeEscape
  | byteOrderMark

/-- The wording of a reason. -/
def Reason.message : Reason → Text
  | .value => "Expecting value".toList
  | .name => "Expecting property name enclosed in double quotes".toList
  | .comma => "Expecting ',' delimiter".toList
  | .colon => "Expecting ':' delimiter".toList
  | .extra => "Extra data".toList
  | .unterminated => "Unterminated string starting at".toList
  | .controlCharacter => "Invalid control character at".toList
  | .escape => "Invalid \\escape".toList
  | .unicodeEscape => "Invalid \\uXXXX escape".toList
  | .byteOrderMark => "Unexpected UTF-8 BOM (decode using utf-8-sig)".toList

/-- What can go wrong: the text is not JSON from some place on, or it writes an integer that has
more digits than are read. -/
inductive Fault where
  | malformed (reason : Reason) (rest : Text)
  | longInteger (refusal : LongInteger)

/-- The wording of a reason and of a place: its line and column, counted from one, and its offset.
-/
def placeMessage (text : Text) (reason : Reason) (rest : Text) : Text :=
  let offset := text.length - rest.length
  let before := text.take offset
  let line := (before.filter (· = '\n')).length + 1
  let column := (before.reverse.takeWhile (· != '\n')).length + 1
  reason.message ++ ": line ".toList ++ ofNat line ++ " column ".toList ++ ofNat column ++
    " (char ".toList ++ ofNat offset ++ [')']

/-! ### Strings -/

/-- A text without the blanks of JSON at its start. -/
def skipBlanks (text : Text) : Text :=
  text.dropWhile fun char => char = ' ' || char = '\t' || char = '\n' || char = '\r'

/-- The value of four hexadecimal digits with at least one more character behind them. -/
def fourDigits? : Text → Option (Nat × Text)
  | first :: second :: third :: fourth :: rest =>
    if [first, second, third, fourth].all isHexDigit then
      some (((hexValue first * 16 + hexValue second) * 16 + hexValue third) * 16 +
        hexValue fourth, rest)
    else none
  | _ => none

/-- The character of a simple escape. -/
def escaped? (char : Char) : Option Char :=
  if char = '"' || char = '\\' || char = '/' then some char
  else if char = 'b' then some (Char.ofNat 8)
  else if char = 'f' then some (Char.ofNat 12)
  else if char = 'n' then some '\n'
  else if char = 'r' then some '\r'
  else if char = 't' then some '\t'
  else none

/-- The low half of a surrogate pair behind its high half. -/
def lowSurrogate? : Text → Except Fault (Option (Nat × Text))
  | '\\' :: 'u' :: rest =>
    if rest.length ≤ 4 then .ok none
    else match fourDigits? rest with
      | some (code, more) =>
        if 0xDC00 ≤ code && code ≤ 0xDFFF then .ok (some (code, more)) else .ok none
      | none => .error (.malformed .unicodeEscape ('u' :: rest))
  | _ => .ok none

/-- The point with a code: half of a surrogate pair, or a character. -/
def Point.ofCode (code : Nat) : Point :=
  if between : firstHalf ≤ code ∧ code < firstHalf + 2048 then
    .half ⟨code - firstHalf, by omega⟩
  else .char (Char.ofNat code)

/-- The point of an escape by code; `text` follows the letter u. Two escapes that are the halves of
a surrogate pair write one character, and a half without the other one is a point of its own. -/
def unicodeEscape (text : Text) : Except Fault (Point × Text) :=
  if text.length ≤ 4 then .error (.malformed .unicodeEscape ('u' :: text))
  else match fourDigits? text with
    | none => .error (.malformed .unicodeEscape ('u' :: text))
    | some (code, rest) =>
      if 0xD800 ≤ code && code ≤ 0xDBFF then do
        match ← lowSurrogate? rest with
        | some (low, more) =>
          .ok (.char (Char.ofNat (0x10000 + (code - 0xD800) * 0x400 + (low - 0xDC00))), more)
        | none => .ok (.ofCode code, rest)
      else .ok (.ofCode code, rest)

/-- The points of a string up to its closing quote. `start` is the text from the opening quote on;
`fuel` is at least the length of the text. -/
def stringBody (start : Text) : Nat → Text → Except Fault (Word × Text)
  | 0, _ => .error (.malformed .unterminated start)
  | _ + 1, [] => .error (.malformed .unterminated start)
  | fuel + 1, char :: text =>
    if char = '"' then .ok ([], text)
    else if char = '\\' then
      match text with
      | [] => .error (.malformed .unterminated start)
      | 'u' :: rest => do
        let (decoded, rest) ← unicodeEscape rest
        let (body, rest) ← stringBody start fuel rest
        .ok (decoded :: body, rest)
      | mark :: rest => match escaped? mark with
        | some decoded => do
          let (body, rest) ← stringBody start fuel rest
          .ok (.char decoded :: body, rest)
        | none => .error (.malformed .escape (char :: text))
    else if char.toNat < 32 then .error (.malformed .controlCharacter (char :: text))
    else do
      let (body, rest) ← stringBody start fuel text
      .ok (.char char :: body, rest)

/-! ### Numbers -/

/-- The digits of the whole part of a number: a zero alone, or digits that start with another. -/
def wholeDigits? (text : Text) : Option (Text × Text) :=
  match text with
  | '0' :: rest => some (['0'], rest)
  | _ =>
    let digits := text.takeWhile isAsciiDigit
    if digits.isEmpty then none else some (digits, text.drop digits.length)

/-- The digits behind a decimal point, if there are any. -/
def fractionDigits (text : Text) : Option (Text × Text) :=
  match text with
  | '.' :: rest =>
    let digits := rest.takeWhile isAsciiDigit
    if digits.isEmpty then none else some (digits, rest.drop digits.length)
  | _ => none

/-- The exponent of a number, if there is one. -/
def exponent? (text : Text) : Option (Int × Text) :=
  match text with
  | mark :: rest =>
    if mark = 'e' || mark = 'E' then
      let (negative, rest) := match rest with
        | '+' :: more => (false, more)
        | '-' :: more => (true, more)
        | _ => (false, rest)
      let digits := rest.takeWhile isAsciiDigit
      if digits.isEmpty then none
      else
        let size : Int := numberOf digits
        some (if negative then -size else size, rest.drop digits.length)
    else none
  | [] => none

/-- A number behind its sign. -/
def number? (negative : Bool) (text : Text) : Option (Except Fault (Datum × Text)) := do
  let (whole, rest) ← wholeDigits? text
  let fraction? := fractionDigits rest
  let rest := (fraction?.map (·.2)).getD rest
  let exponent? := exponent? rest
  let rest := (exponent?.map (·.2)).getD rest
  if fraction?.isNone && exponent?.isNone then
    if LongInteger.limit < whole.length then some (.error (.longInteger ⟨whole.length⟩))
    else
      let size : Int := numberOf whole
      some (.ok (.int (if negative then -size else size), rest))
  else
    let fraction := (fraction?.map (·.1)).getD []
    let power := (exponent?.map (·.1)).getD 0 - fraction.length
    some (.ok (.double (Double.ofDecimal negative (numberOf (whole ++ fraction)) power), rest))

/-! ### Data -/

/-- The names with a datum of their own. -/
def literals : List (Text × Datum) :=
  [("null".toList, .null), ("true".toList, .bool true), ("false".toList, .bool false),
    ("NaN".toList, .double .notNumber), ("Infinity".toList, .double (.infinity false)),
    ("-Infinity".toList, .double (.infinity true))]

/-- A datum that is neither a string, an array nor an object. -/
def simpleDatum (text : Text) : Except Fault (Datum × Text) :=
  match literals.findSome? fun (name, datum) => (dropPrefix? name text).map (datum, ·) with
  | some found => .ok found
  | none =>
    let found := match text with
      | '-' :: rest => number? true rest
      | _ => number? false text
    found.getD (.error (.malformed .value text))

mutual

/-- One datum at the start of a text, and the text behind it. -/
def readDatum : Nat → Text → Except Fault (Datum × Text)
  | 0, text => .error (.malformed .value text)
  | fuel + 1, text => match text with
    | '"' :: rest => do
      let (body, rest) ← stringBody text (rest.length + 1) rest
      .ok (.string body, rest)
    | '\x7b' :: rest =>
      match skipBlanks rest with
      | '\x7d' :: more => .ok (.object [], more)
      | more => readMembers fuel [] more
    | '[' :: rest =>
      match skipBlanks rest with
      | ']' :: more => .ok (.array [], more)
      | more => readItems fuel [] more
    | _ => simpleDatum text

/-- The members of an object up to its closing brace, after those already read. -/
def readMembers : Nat → Members → Text → Except Fault (Datum × Text)
  | 0, _, text => .error (.malformed .name text)
  | fuel + 1, done, text => match text with
    | '"' :: rest => do
      let (name, rest) ← stringBody text (rest.length + 1) rest
      match skipBlanks rest with
      | ':' :: rest =>
        let (datum, rest) ← readDatum fuel (skipBlanks rest)
        let done := Members.put name datum done
        match skipBlanks rest with
        | '\x7d' :: rest => .ok (.object done, rest)
        | ',' :: rest => readMembers fuel done (skipBlanks rest)
        | rest => .error (.malformed .comma rest)
      | rest => .error (.malformed .colon rest)
    | _ => .error (.malformed .name text)

/-- The items of an array up to its closing bracket, after those already read, last first. -/
def readItems : Nat → List Datum → Text → Except Fault (Datum × Text)
  | 0, _, text => .error (.malformed .value text)
  | fuel + 1, done, text => do
    let (datum, rest) ← readDatum fuel text
    match skipBlanks rest with
    | ']' :: rest => .ok (.array (datum :: done).reverse, rest)
    | ',' :: rest => readItems fuel (datum :: done) (skipBlanks rest)
    | rest => .error (.malformed .comma rest)

end

/-- The datum that a text writes in JSON. -/
def read (text : Text) : Except Fault Datum :=
  if text.head?.any (·.toNat = 0xFEFF) then .error (.malformed .byteOrderMark text)
  else do
    let (datum, rest) ← readDatum (text.length + 1) (skipBlanks text)
    match skipBlanks rest with
    | [] => .ok datum
    | rest => .error (.malformed .extra rest)

end GuidedMigration.Json
