/-
This file says what comes of a change to the destination: which path it was about, what kind of
change it was, how its place was found, and whether it was made, was not needed, or failed.
-/
import GuidedMigration.Text.Basic

namespace GuidedMigration

/-- Whether a change was made. -/
inductive Status where
  | applied
  | skipped
  | failed
  deriving DecidableEq

/-- The name of a status. -/
def Status.name : Status → Text
  | .applied => "applied".toList
  | .skipped => "skipped".toList
  | .failed => "failed".toList

/-- The statuses. -/
def Status.all : List Status := [.applied, .skipped, .failed]

/-- The status with a name. -/
def Status.ofName? (name : Text) : Option Status := all.find? (·.name = name)

/-- The status of a change that was made or was not needed. -/
def Status.ofChanged (changed : Bool) : Status := if changed then .applied else .skipped

/-- What comes of a change. -/
structure Outcome where
  path : Text
  primitive : Text
  strategy : Text
  status : Status
  detail : Text := []
  deriving DecidableEq

end GuidedMigration
