/-
This file holds a migration while it runs: its settings and directories, the tree of files, what the
guides have contributed so far, and the warnings, the journal and the queue of packages that it
leaves. An action on a session gives a result or a failure, and the session that it leaves; what was
done before a failure stays done.
-/
import GuidedMigration.Config.Accumulator
import GuidedMigration.Settings.Basic
import GuidedMigration.Target.Outcome
import GuidedMigration.Target.Role

namespace GuidedMigration

/-- An entry of the journal: an outcome and the phase it belongs to. -/
structure JournalEntry where
  phase : Int
  outcome : Outcome
  deriving DecidableEq

/-- A running migration. -/
structure Session where
  settings : Settings
  source : Path
  destination : Path
  tree : Tree
  /-- The values that are known for placeholders. -/
  values : Placeholder.Values
  contributions : Config.Contributions := []
  phase : Int := 0
  /-- Whether open values in configuration blocks are turned into placeholders. -/
  normalizes : Bool := false
  warnings : List Text := []
  errors : List Text := []
  journal : List JournalEntry := []
  /-- The packages that are still to be installed. -/
  packages : List Text := []

/-- An action on a session. -/
abbrev Migration := ExceptT Failure (StateM Session)

namespace Session

/-- A session that starts. -/
def start (settings : Settings) (values : Placeholder.Values) (tree : Tree) : Session :=
  { settings := settings
    source := Path.ofText settings.source
    destination := Path.ofText settings.destination
    tree := tree
    values := values }

/-- The directory of the guides. -/
def guides (session : Session) : Path := session.source.child session.settings.guides

/-- The path of the template. -/
def templatePath (session : Session) : Path :=
  session.destination.child session.settings.template

/-- The path of the local document. -/
def localPath (session : Session) : Path :=
  session.destination.child session.settings.localDocument

/-- The path of a role. -/
def pathOf (role : Role) (session : Session) : Path :=
  role.path session.settings.rolePaths session.destination

/-- A session with a warning added. -/
def warn (message : Text) (session : Session) : Session :=
  { session with warnings := session.warnings ++ [message] }

/-- A session with an outcome added to its journal. -/
def record (outcome : Outcome) (session : Session) : Session :=
  { session with journal := session.journal ++ [⟨session.phase, outcome⟩] }

/-- The outcome of something that failed. -/
def failedOutcome (what : Text) (failure : Failure) : Outcome :=
  ⟨(failure.path?.map Path.toText).getD [], what, ['-'], .failed, failure.message⟩

/-- A session in which something failed: a warning and an entry in the journal say so. -/
def noteFailure (what : Text) (failure : Failure) (session : Session) : Session :=
  (session.warn (what ++ [':', ' '] ++ failure.message)).record (failedOutcome what failure)

/-- A queue with a package at its end, unless it is queued already. -/
def enqueue (queued : List Text) (package : Text) : List Text :=
  if queued.contains package then queued else queued ++ [package]

/-- A session with packages added to its queue, each once. -/
def queue (packages : List Text) (session : Session) : Session :=
  { session with packages := packages.foldl enqueue session.packages }

/-- A session with those packages at the end of its queue that it did not hold before. -/
def install (packages : List Text) (session : Session) : Session :=
  { session with packages := session.packages ++ packages.filter (!session.packages.contains ·) }

end Session

namespace Migration

/-- An action on the files of a session. -/
def onFiles {Answer : Type} (action : Files Answer) : Migration Answer := fun session =>
  let (result, tree) := action session.tree
  (result, { session with tree := tree })

/-- A result that may be a failure. -/
def ofResult {Answer : Type} (result : Except Failure Answer) : Migration Answer := fun session =>
  (result, session)

/-- What a session says. -/
def ask {Answer : Type} (question : Session → Answer) : Migration Answer := fun session =>
  (.ok (question session), session)

/-- A change of a session that cannot fail. -/
def change (update : Session → Session) : Migration Unit := fun session =>
  (.ok (), update session)

/-- Adds the outcome of an action on files to the journal. -/
def recorded (action : Files Outcome) : Migration Outcome := do
  let outcome ← onFiles action
  change (·.record outcome)
  pure outcome

/-- Runs an action; a recoverable failure is noted under a name and goes no further. -/
def recovering (what : Text) (action : Migration Unit) : Migration Unit := fun session =>
  match action session with
  | (.ok (), after) => (.ok (), after)
  | (.error failure, after) =>
    if failure.isRecoverable then (.ok (), after.noteFailure what failure)
    else (.error failure, after)

/-- Runs an action with open values turned into placeholders or not, and then as before. -/
def normalizing {Answer : Type} (normalizes : Bool) (action : Migration Answer) :
    Migration Answer := fun session =>
  let (result, after) := action { session with normalizes := normalizes }
  (result, { after with normalizes := session.normalizes })

end Migration

end GuidedMigration
