/-
This file reads the dates and times that a plain scalar may hold: a year, a month and a day, and
possibly hours, minutes, seconds with a fraction, and an offset from universal time. It also checks
them against the calendar and writes them in one fixed form.
-/
import GuidedMigration.Text.Character
import GuidedMigration.Value.Basic

namespace GuidedMigration.Yaml

open Text

/-- The parts of a date or time as they are written. -/
structure Timestamp where
  year : Text
  month : Text
  day : Text
  clock : Option (Text × Text × Text)
  fraction : Text
  zone : Option (Option (Char × Text × Text))

namespace Timestamp

/-- Between `least` and `most` digits at the start of a text, as many as there are. -/
def digits? (least most : Nat) (text : Text) : Option (Text × Text) :=
  let found := (text.takeWhile isAsciiDigit).take most
  if found.length < least then none else some (found, text.drop found.length)

/-- The offset at the end of a time: nothing, `Z`, or a sign with hours and possibly minutes. -/
def zone? (text : Text) : Option (Option (Option (Char × Text × Text))) :=
  if text.isEmpty then some none
  else match text.dropWhile isSpaceOrTab with
    | ['Z'] => some (some none)
    | sign :: rest =>
      if sign = '+' || sign = '-' then
        match digits? 1 2 rest with
        | some (hours, []) => some (some (some (sign, hours, [])))
        | some (hours, ':' :: more) => match digits? 2 2 more with
          | some (minutes, []) => some (some (some (sign, hours, minutes)))
          | _ => none
        | _ => none
      else none
    | [] => none

/-- The time of day behind a date. -/
def clock? (text : Text) : Option (Text × Text × Text × Text) := do
  let (hour, rest) ← digits? 1 2 text
  let rest ← dropPrefix? [':'] rest
  let (minute, rest) ← digits? 2 2 rest
  let rest ← dropPrefix? [':'] rest
  let (second, rest) ← digits? 2 2 rest
  pure (hour, minute, second, rest)

/-- The mark between a date and a time: the letter T, or spaces and tabs. -/
def dropClockMark? : Text → Option Text
  | char :: rest =>
    if char = 'T' || char = 't' then some rest
    else if isSpaceOrTab char then some (rest.dropWhile isSpaceOrTab)
    else none
  | [] => none

/-- Reads a date or time. -/
def read? (text : Text) : Option Timestamp := do
  let (year, rest) ← digits? 4 4 text
  let rest ← dropPrefix? ['-'] rest
  let (month, rest) ← digits? 1 2 rest
  let rest ← dropPrefix? ['-'] rest
  let (day, rest) ← digits? 1 2 rest
  if rest.isEmpty then pure ⟨year, month, day, none, [], none⟩
  else
    let rest ← dropClockMark? rest
    let (hour, minute, second, rest) ← clock? rest
    let (fraction, rest) := match rest with
      | '.' :: more => (more.takeWhile isAsciiDigit, more.dropWhile isAsciiDigit)
      | _ => ([], rest)
    let zone ← zone? rest
    pure ⟨year, month, day, some (hour, minute, second), fraction, zone⟩

/-- Whether a plain scalar is taken for a date or time: a date alone must have two digits in its
month and in its day. -/
def isPlain (text : Text) : Bool :=
  match read? text with
  | some stamp => stamp.clock.isSome || (stamp.month.length = 2 && stamp.day.length = 2)
  | none => false

/-! ### The calendar -/

/-- What is wrong with a date or time. -/
inductive Fault where
  | year (number : Nat)
  | month
  | day
  | hour
  | minute
  | second
  | offset

/-- The wording of a fault. -/
def Fault.message : Fault → Text
  | .year number => "year ".toList ++ ofNat number ++ " is out of range".toList
  | .month => "month must be in 1..12".toList
  | .day => "day is out of range for month".toList
  | .hour => "hour must be in 0..23".toList
  | .minute => "minute must be in 0..59".toList
  | .second => "second must be in 0..59".toList
  | .offset => ("offset must be a timedelta strictly between " ++
      "-timedelta(hours=24) and timedelta(hours=24).").toList

/-- Whether a year has a leap day. -/
def isLeap (year : Nat) : Bool := year % 4 = 0 && (year % 100 != 0 || year % 400 = 0)

/-- The number of days of a month. -/
def daysIn (year month : Nat) : Nat :=
  if month = 2 then (if isLeap year then 29 else 28)
  else if month = 4 || month = 6 || month = 9 || month = 11 then 30
  else 31

/-- A number with at least `width` digits. -/
def padded (width number : Nat) : Text := padLeft width '0' (ofNat number)

/-- The date, checked and written. -/
def dateText (stamp : Timestamp) : Except Fault Text :=
  let year := numberOf stamp.year
  let month := numberOf stamp.month
  let day := numberOf stamp.day
  if year = 0 then .error (.year year)
  else if month = 0 || 12 < month then .error .month
  else if day = 0 || daysIn year month < day then .error .day
  else .ok (padded 4 year ++ ['-'] ++ padded 2 month ++ ['-'] ++ padded 2 day)

/-- The offset, checked and written. -/
def zoneText : Option (Option (Char × Text × Text)) → Except Fault Text
  | none => .ok []
  | some none => .ok "+00:00".toList
  | some (some (sign, hours, minutes)) =>
    let total := numberOf hours * 60 + numberOf minutes
    if 24 * 60 ≤ total then .error .offset
    else
      let sign := if total = 0 then '+' else sign
      .ok (sign :: padded 2 (total / 60) ++ [':'] ++ padded 2 (total % 60))

/-- The six digits of a fraction of a second, cut or filled up with zeros. -/
def microseconds (fraction : Text) : Text :=
  let six := fraction.take 6
  six ++ List.replicate (6 - six.length) '0'

/-- A date or time as a scalar. -/
def toScalar (stamp : Timestamp) : Except Fault Scalar :=
  match stamp.clock with
  | none => stamp.dateText.map .date
  | some (hour, minute, second) => do
    let zone ← zoneText stamp.zone
    let date ← stamp.dateText
    let hour := numberOf hour
    let minute := numberOf minute
    let second := numberOf second
    if 24 ≤ hour then throw .hour
    if 60 ≤ minute then throw .minute
    if 60 ≤ second then throw .second
    let micro := microseconds stamp.fraction
    let fraction := if micro.all (· = '0') then [] else '.' :: micro
    pure (.moment (date ++ ['T'] ++ padded 2 hour ++ [':'] ++ padded 2 minute ++ [':'] ++
      padded 2 second ++ fraction ++ zone))

end Timestamp

end GuidedMigration.Yaml
