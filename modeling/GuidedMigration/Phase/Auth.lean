/-
This file runs the second phase: it follows the guide to authentication that the first guide points
to and the guides of the providers named there, removes the policy that allows everything once there
is a better one, and writes the configuration documents.
-/
import GuidedMigration.Phase.Scaffold

namespace GuidedMigration.Phase.Auth

open Text

/-- The guide to authentication. -/
def guideName : Text := "Auth.md".toList

/-- What is copied for authentication, with where it goes. -/
def criticalFiles : List (Text × Text) :=
  [("packages-core/backend/src/plugins/helper/auth-helper.ts".toList,
      "packages/backend/src/plugins/helper/auth-helper.ts".toList),
    ("packages-core/app/src/cookieAuth.ts".toList, "packages/app/src/cookieAuth.ts".toList),
    ("packages-core/backend/src/plugins/permission.ts".toList,
      "packages/backend/src/plugins/permission.ts".toList),
    ("packages-core/backend/src/plugins/database".toList,
      "packages/backend/src/plugins/database".toList)]

/-- The policy of permissions below the destination. -/
def permissionPolicy : Text := "packages/backend/src/plugins/permission.ts".toList

/-- The target of a link without the place on its page. -/
def withoutFragment (target : Text) : Text := target.takeWhile (· != '#')

/-- The guide to authentication that a guide points to: the target of its first link to one, or the
usual one if a section speaks of authentication. -/
def referenceIn (guides : Path) (document : Document) : Option Path :=
  match document.links.find? fun link =>
      (Path.ofText (withoutFragment link.target)).name = guideName with
  | some link => some (guides.child (withoutFragment link.target))
  | none =>
    let speaksOf (part : Section) : Bool :=
      let text := lower part.content
      occursIn (lower guideName) text || occursIn "authentication".toList text
    if document.sections.any speaksOf then some (guides.child guideName) else none

/-- The guide to authentication that the first guide points to. -/
def findGuide : Migration (Option Path) := do
  let guides ← Migration.ask (·.guides)
  let document ← Migration.guideAt (guides.child readme)
  pure (referenceIn guides document)

/-- Makes sure that the first phase is complete, by running it if the settings allow. -/
def ensureScaffold : PhasePart Unit := do
  let findings ← PhasePart.check Phase.auth.prerequisites
  if !findings.isOk then
    let settings ← PhasePart.ask (·.settings)
    if !settings.autoPrerequisites then
      throw (.prerequisite (.scaffoldIncomplete findings.failed))
    let report ← PhasePart.onSession Scaffold.run
    PhasePart.note fun own => { own with prerequisite := some report }
    PhasePart.onSession (Migration.change fun session =>
      { session with phase := Phase.auth.number })
    if !report.success then throw (.prerequisite .scaffoldFailed)

/-- Copies files that may be missing. -/
def copyEach (session : Session) : List (Text × Text) → Migration Unit
  | [] => pure ()
  | (source, destination) :: rest => do
    let _ ← Migration.recorded (Target.copyPath session.source session.destination
      ⟨session.settings.excluded, [], true⟩ source destination)
    copyEach session rest

/-- Runs the guide to authentication, copies what it needs, and gives the providers it names. -/
def configure (guide : Path) : Migration (List ProviderReference) := do
  let document ← Migration.runGuide guide false []
  let session ← Migration.ask id
  copyEach session criticalFiles
  pure document.providers

/-- Runs the guides of providers. One that is missing leaves a warning. -/
def configureProviders (guides : Path) : List ProviderReference → Migration Unit
  | [] => pure ()
  | reference :: rest => do
    let path := guides.child reference.file
    if ← Migration.onFiles (Files.exists? path) then
      let _ ← Migration.runGuide path true []
    else
      Migration.change (·.warn ("provider document ".toList ++ reference.file ++
        " referenced but not found".toList))
    configureProviders guides rest

/-- Writes the configuration that has been contributed. -/
def flush : Migration Unit := do
  let session ← Migration.ask id
  let _ ← Migration.onFiles
    (session.contributions.flush session.templatePath session.localPath)

/-- Removes the policy that allows everything if there is another one, and writes the
configuration. -/
def applyPolicy : Migration Unit := do
  let session ← Migration.ask id
  if ← Migration.onFiles (Files.exists? (session.destination.child permissionPolicy)) then
    Migration.guarded "remove allow-all policy".toList
      (Target.delete (session.pathOf .backendEntry)
        (Code.registrationPatterns Executor.allowAllPolicy) "remove-registration".toList)
  flush

/-- Findings, and those on the two configuration documents if there are to be two. -/
def withParity (session : Session) (findings : Findings) : Except Failure Findings :=
  if session.contributions.isDual then do
    let parity ← Check.parity session.tree session.templatePath session.localPath
    .ok (findings.append parity)
  else .ok findings

/-- The findings on what the phase leaves behind. -/
def findings (session : Session) : Except Failure Findings := do
  let findings ←
    Check.checkAll session.tree session.destination (Phase.auth.markers session.settings)
  withParity session findings

/-- The steps of the phase from the guide to authentication on. -/
def follow (guide : Path) : PhasePart Unit := do
  let providers ←
    PhasePart.step "Configuring authentication".toList (PhasePart.onSession (configure guide))
  let guides ← PhasePart.ask (·.guides)
  PhasePart.step "Configuring auth providers".toList
    (PhasePart.onSession (configureProviders guides providers))
  PhasePart.step "Applying permission policy".toList (PhasePart.onSession applyPolicy)
  PhasePart.advance
  let findings ← PhasePart.check findings
  PhasePart.conclude findings
  let summary := "auth configured from ".toList ++ guide.name ++ " with ".toList ++
    Text.ofNat providers.length ++ " provider(s)".toList
  PhasePart.note fun report => { report with summary := summary }

/-- The steps of the phase. -/
def body : PhasePart Unit := do
  PhasePart.step "Checking scaffold markers".toList ensureScaffold
  match ← PhasePart.step "Parsing documentation".toList (PhasePart.onSession findGuide) with
  | some guide => follow guide
  | none =>
    let summary := "no authentication referenced in Readme".toList
    PhasePart.note fun report => { report with summary := summary }
    PhasePart.advance
    let findings ← PhasePart.check Scaffold.findings
    PhasePart.conclude findings

/-- Runs the phase. -/
def run : Migration PhaseReport := Phase.auth.runWith body

end GuidedMigration.Phase.Auth
