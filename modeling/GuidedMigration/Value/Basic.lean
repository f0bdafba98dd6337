/-
This file defines the values that configuration documents are made of: scalars, lists, sets and
mappings. A mapping keeps its keys in the order in which they were first written, and its keys are
scalars. Two keys are the same when they stand for the same scalar, where a truth value stands for
zero or one and a whole double for the integer it equals; a mapping holds a key once, and writing to
a key that it holds changes the value and not the place.

It also merges one mapping over another. Mappings merge key by key at every depth; a list or a
scalar replaces what the key held; the empty value never replaces anything. Keys that only the first
mapping holds stay, in their places.
-/
import GuidedMigration.Number.Numeral

namespace GuidedMigration

/-- A value without parts. Dates and times are held as their text. -/
inductive Scalar where
  | null
  | bool (truth : Bool)
  | int (number : Int)
  | double (number : Double)
  | text (text : Text)
  | date (text : Text)
  | moment (text : Text)
  | bytes (bytes : List UInt8)
  deriving DecidableEq

/-- A value of a configuration document. -/
inductive Value where
  | scalar (scalar : Scalar)
  | list (items : List Value)
  | set (members : List Scalar)
  | map (entries : List (Scalar × Value))

/-- A mapping: its entries in the order in which their keys were first written. -/
abbrev Mapping := List (Scalar × Value)

namespace Scalar

/-- The scalar that a key stands for. -/
def identity : Scalar → Scalar
  | .bool truth => .int (if truth then 1 else 0)
  | .double number => match number.toInt? with
    | some whole => .int whole
    | none => .double number
  | other => other

/-- Whether a scalar is an integer that is too long to be written. -/
def isLongInteger : Scalar → Bool
  | .int number => LongInteger.isLong number
  | _ => false

/-- Whether two scalars are the same key. -/
def same (left right : Scalar) : Bool := left.identity = right.identity

theorem same_refl (scalar : Scalar) : scalar.same scalar = true := by simp [same]

theorem same_comm (left right : Scalar) : left.same right = right.same left := by
  simp [same, eq_comm]

theorem same_trans {first second third : Scalar} (left : first.same second = true)
    (right : second.same third = true) : first.same third = true := by
  simp_all [same]

end Scalar

namespace Mapping

/-- The value at a key. -/
def get? (key : Scalar) : Mapping → Option Value
  | [] => none
  | (other, value) :: rest => if other.same key then some value else get? key rest

/-- Whether a mapping holds a key. -/
def has (key : Scalar) (mapping : Mapping) : Bool := (get? key mapping).isSome

/-- A mapping with a value written to a key: in place if the key is there, at the end otherwise. -/
def put (key : Scalar) (value : Value) : Mapping → Mapping
  | [] => [(key, value)]
  | (other, old) :: rest =>
    if other.same key then (other, value) :: rest else (other, old) :: put key value rest

/-- The mapping that writes the entries in order. -/
def ofEntries (entries : List (Scalar × Value)) : Mapping :=
  entries.foldl (fun mapping (key, value) => put key value mapping) []

@[simp] theorem get?_put_same (key : Scalar) (value : Value) (mapping : Mapping) :
    get? key (put key value mapping) = some value := by
  induction mapping with
  | nil => simp [put, get?, Scalar.same_refl]
  | cons entry rest inductionHypothesis =>
    obtain ⟨other, old⟩ := entry
    by_cases same : other.same key = true
    · simp [put, get?, same]
    · simp [put, get?, same, inductionHypothesis]

theorem get?_put_of_not_same {key target : Scalar} (value : Value) (mapping : Mapping)
    (different : target.same key = false) :
    get? key (put target value mapping) = get? key mapping := by
  induction mapping with
  | nil => simp [put, get?, different]
  | cons entry rest inductionHypothesis =>
    obtain ⟨other, old⟩ := entry
    by_cases same : other.same target = true
    · have away : other.same key = false := by
        cases found : other.same key with
        | false => rfl
        | true =>
          have back : target.same key = true :=
            Scalar.same_trans (by rw [Scalar.same_comm]; exact same) found
          rw [back] at different
          exact different
      simp [put, get?, same, away]
    · simp [put, get?, same, inductionHypothesis]

end Mapping

namespace Value

/-- The empty value. -/
abbrev null : Value := .scalar .null

/-- A text as a value. -/
abbrev text (text : Text) : Value := .scalar (.text text)

/-- An integer as a value. -/
abbrev int (number : Int) : Value := .scalar (.int number)

/-- A truth value as a value. -/
abbrev bool (truth : Bool) : Value := .scalar (.bool truth)

/-- A mapping with texts for keys. -/
def record (entries : List (String × Value)) : Value :=
  .map (entries.map fun (key, value) => (.text key.toList, value))

/-- Something that may be missing as a value. -/
def optional {Given : Type} (encode : Given → Value) : Option Given → Value
  | some given => encode given
  | none => null

/-- A list of texts as a value. -/
def ofTexts (items : List Text) : Value := .list (items.map text)

/-- A mapping of texts to texts as a value. -/
def ofTextMap (entries : List (Text × Text)) : Value :=
  .map (entries.map fun (key, value) => (.text key, text value))

/-- Whether a value is the empty value. -/
def isNull : Value → Bool
  | .scalar .null => true
  | _ => false

/-- Whether a value counts as present: the empty value, zero, false, the empty text and collections
without members do not. -/
def isTruthy : Value → Bool
  | .scalar .null => false
  | .scalar (.bool truth) => truth
  | .scalar (.int number) => number != 0
  | .scalar (.double number) => !number.isZero
  | .scalar (.text word) => !word.isEmpty
  | .scalar (.bytes bytes) => !bytes.isEmpty
  | .scalar _ => true
  | .list items => !items.isEmpty
  | .set members => !members.isEmpty
  | .map entries => !entries.isEmpty

mutual

/-- Whether two values agree: scalars that are the same key, lists that agree place by place, and
mappings with the same keys and agreeing values in any order. -/
def agrees : Value → Value → Bool
  | .scalar left, .scalar right => left.same right
  | .list left, .list right => agreesList left right
  | .set left, .set right =>
    left.length = right.length && left.all fun member => right.any (·.same member)
  | .map left, .map right => left.length = right.length && agreesMap left right
  | _, _ => false

/-- Whether two lists agree place by place. -/
def agreesList : List Value → List Value → Bool
  | [], [] => true
  | left :: lefts, right :: rights => agrees left right && agreesList lefts rights
  | _, _ => false

/-- Whether every entry of the first mapping agrees with the second. -/
def agreesMap : List (Scalar × Value) → Mapping → Bool
  | [], _ => true
  | (key, left) :: lefts, rights =>
    (match Mapping.get? key rights with
      | some right => agrees left right
      | none => false) && agreesMap lefts rights

end

mutual

/-- Whether an integer that is too long to be written stands anywhere in a value, keys included. -/
def holdsLongInteger : Value → Bool
  | .scalar leaf => leaf.isLongInteger
  | .list items => holdsLongIntegerList items
  | .set members => members.any Scalar.isLongInteger
  | .map entries => holdsLongIntegerMap entries

/-- Whether an integer that is too long to be written stands in an item. -/
def holdsLongIntegerList : List Value → Bool
  | [] => false
  | item :: rest => holdsLongInteger item || holdsLongIntegerList rest

/-- Whether an integer that is too long to be written is a key or stands in the value at one. -/
def holdsLongIntegerMap : List (Scalar × Value) → Bool
  | [] => false
  | (key, value) :: rest =>
    key.isLongInteger || holdsLongInteger value || holdsLongIntegerMap rest

end

/-- What a value is called in messages. -/
def typeName : Value → Text
  | .scalar .null => "NoneType".toList
  | .scalar (.bool _) => "bool".toList
  | .scalar (.int _) => "int".toList
  | .scalar (.double _) => "float".toList
  | .scalar (.text _) => "str".toList
  | .scalar (.date _) => "date".toList
  | .scalar (.moment _) => "datetime".toList
  | .scalar (.bytes _) => "bytes".toList
  | .list _ => "list".toList
  | .set _ => "set".toList
  | .map _ => "dict".toList

end Value

/-! ### Merging -/

mutual

/-- What a key holds after a value is merged over what it held before. -/
def Value.mergeOver (old : Option Value) : Value → Value
  | .map entries => match old with
    | some (.map base) => .map (Mapping.merge base entries)
    | _ => .map entries
  | .scalar .null => old.getD .null
  | .scalar leaf => .scalar leaf
  | .list items => .list items
  | .set members => .set members

/-- The mapping `base` with the entries merged over it. -/
def Mapping.merge (base : Mapping) : List (Scalar × Value) → Mapping
  | [] => base
  | (key, value) :: rest =>
    Mapping.merge (Mapping.put key (Value.mergeOver (Mapping.get? key base) value) base) rest

end

end GuidedMigration
