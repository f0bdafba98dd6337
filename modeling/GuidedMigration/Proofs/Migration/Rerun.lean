/-
This file shows what it means for a guide to be run again. A guide that neither copies nor deletes
leaves every file as it is when it is run a second time, exactly if all the code that it inserts is
still there after the first run. Each fragment is looked for before it is inserted; but a fragment
that is inserted later may come to stand between the lines of an earlier one, which is then no
longer found and is inserted once more.
-/
import GuidedMigration.Proofs.Migration.Planned
import GuidedMigration.Proofs.Migration.Rest

namespace GuidedMigration

open GuidedMigration.Tree

/-! ### What a guide merges -/

namespace Setup

variable {setup : Setup} {edit : Edit} {fragment : Mapping}

theorem isKeyed_openFragment (keyed : Mapping.isKeyed fragment = true) :
    Mapping.isKeyed (setup.openFragment fragment) = true := by
  rw [openFragment]
  split
  · rw [Mapping.isKeyed_normalize, keyed]
  · exact keyed

theorem isKeyed_of_mem_updateEdits {hint : Text} {step : Step} {target : Option Text}
    (member : edit ∈ setup.updateEdits hint step target) (merges : edit.fragment? = some fragment) :
    Mapping.isKeyed fragment = true := by
  rcases exists_of_mem_updateEdits member with ⟨_, written, read, rfl⟩ | ⟨_, _, _, rfl⟩
  · obtain rfl := Option.some.inj merges
    exact isKeyed_openFragment (Config.isKeyed_blockMapping read)
  · cases merges

theorem isKeyed_of_mem_instructionEdits {hint : Text} {instruction : Instruction}
    (member : edit ∈ setup.instructionEdits hint instruction)
    (merges : edit.fragment? = some fragment) : Mapping.isKeyed fragment = true := by
  rw [instructionEdits] at member
  split at member
  · exact isKeyed_of_mem_updateEdits member merges
  · obtain ⟨text, -, rfl⟩ := List.mem_map.mp member
    simp [Edit.fragment?] at merges
  · simp at member

theorem isKeyed_of_mem_blockEdits {executorHint label hint : Text} {block : CodeBlock}
    (member : edit ∈ setup.blockEdits executorHint block label hint)
    (merges : edit.fragment? = some fragment) : Mapping.isKeyed fragment = true := by
  rcases exists_of_mem_blockEdits member with
    ⟨written, read, rfl | rfl⟩ | ⟨_, _, _, rfl⟩ | ⟨_, _, rfl⟩
  · obtain rfl := Option.some.inj merges
    exact Config.isKeyed_blockMapping read
  · obtain rfl := Option.some.inj merges
    exact isKeyed_openFragment (Config.isKeyed_blockMapping read)
  · cases merges
  · cases merges

/-- Every fragment that a guide merges is keyed. -/
theorem areKeyed_guideEdits (setup : Setup) (hint : Text) (path : Path) (document : Document) :
    Edit.AreKeyed (setup.guideEdits hint path document) := by
  intro fragment listed
  obtain ⟨edit, member, merges⟩ := List.mem_filterMap.mp listed
  obtain ⟨task, -, among⟩ := List.mem_flatMap.mp member
  cases task with
  | instruction asked => exact isKeyed_of_mem_instructionEdits among merges
  | block block => exact isKeyed_of_mem_blockEdits among merges

end Setup

namespace Migration

/-! ### The guide itself -/

variable {session : Session} {path : Path} {normalizes : Bool} {hint : Text} {document : Document}

/-- What is found to be a file stands there as one. -/
theorem standing_of_isFile? {tree : Tree} (found : tree.isFile? path = .ok true) :
    tree.standing path = .file := by
  rw [isFile?] at found
  cases look : tree.look path with
  | error fault => simp [look, Except.map] at found
  | ok node =>
    rw [look] at found
    match node with
    | none => simp [Except.map] at found
    | some .directory => simp [Except.map] at found
    | some (.file bytes) =>
      obtain ⟨reached, held⟩ := standing_of_look look
      exact standing_eq_file.mpr ⟨reached, bytes, held⟩

/-- A guide that is read is a file. -/
theorem standing_of_readGuide {tree : Tree} {settings : Settings}
    (read : readGuide tree settings path = .ok document) : tree.standing path = .file := by
  rw [readGuide] at read
  split at read
  · exact nomatch read
  · exact nomatch read
  · rename_i found
    exact standing_of_isFile? found

/-- A guide is read again where the file is the same. -/
theorem readGuide_congr {before after : Tree} {settings : Settings} {bytes : Utf8.Bytes}
    (stands : before.standing path = .file) (again : after.standing path = .file)
    (held : before.find? (spelled path) = some (.file bytes))
    (still : after.find? (spelled path) = some (.file bytes)) :
    readGuide after settings path = readGuide before settings path := by
  have there (tree : Tree) (stands : tree.standing path = .file)
      (held : tree.find? (spelled path) = some (.file bytes)) : tree.isFile? path = .ok true := by
    rw [isFile?, look_of_place (standing_eq_file.mp stands).1, held]
    rfl
  rw [readGuide, readGuide, there before stands held, there after again still,
    read_of_file stands held, read_of_file again still]

/-! ### A second run -/

/-- The session that a guide leaves. -/
def sessionAfter (path : Path) (normalizes : Bool) (hint : Text) (session : Session) : Session :=
  (runGuide path normalizes hint session).2

/-- Whether a guide runs to its end. -/
def completes (path : Path) (normalizes : Bool) (hint : Text) (session : Session) : Bool :=
  (runGuide path normalizes hint session).1.isOk

theorem exists_of_completes (done : completes path normalizes hint session = true) :
    ∃ document, (runGuide path normalizes hint session).1 = .ok document := by
  rw [completes] at done
  cases outcome : (runGuide path normalizes hint session).1 with
  | ok document => exact ⟨document, rfl⟩
  | error failure => simp [outcome, Except.isOk, Except.toBool] at done

/-- A guide that leaves its own file alone does the same edits when it is run again. -/
theorem follows_twice (first : (runGuide path normalizes hint session).1 = .ok document)
    (second : completes path normalizes hint (sessionAfter path normalizes hint session) = true)
    (adds : addsOnly document = true)
    (away : ∀ edit ∈ (setupFor normalizes session).guideEdits hint path document,
      spelled edit.path ≠ spelled path) :
    (sessionAfter path normalizes hint session).Follows
      ((setupFor normalizes session).guideEdits hint path document)
      (sessionAfter path normalizes hint (sessionAfter path normalizes hint session)) := by
  have follows := follows_runGuide first adds
  obtain ⟨again, ok⟩ := exists_of_completes second
  have read := (exists_of_runGuide first).1
  have stands := standing_of_readGuide read
  obtain ⟨-, bytes, held⟩ := standing_eq_file.mp stands
  have grows := Edit.grows_applyAll ((setupFor normalizes session).guideEdits hint path document)
    session.tree
  have same : readGuide (sessionAfter path normalizes hint session).tree
      (sessionAfter path normalizes hint session).settings path = .ok document := by
    have settings : (sessionAfter path normalizes hint session).settings = session.settings :=
      congrArg Setup.settings follows.setup
    have tree : (sessionAfter path normalizes hint session).tree = _ := follows.tree
    rw [settings, tree, ← read]
    exact readGuide_congr stands ((grows.standing (by simp [IsSettled, stands])).trans stands) held
      (Edit.find?_applyAll_of_ne away held)
  obtain rfl : again = document :=
    Except.ok.inj ((exists_of_runGuide ok).1.symm.trans same)
  have setup : setupFor normalizes (sessionAfter path normalizes hint session) =
      setupFor normalizes session := by
    rw [setupFor, sessionAfter, follows.setup, setupFor]
  have further := follows_runGuide ok adds
  rw [setup] at further
  exact further

/-- A guide that only adds leaves every file as it is when it is run a second time, exactly if all
the code that it inserts is there after the first time. -/
theorem rerun_keeps_files_iff {documents : Mapping → Prop} {manifests : Json.Datum → Prop}
    (first : (runGuide path normalizes hint session).1 = .ok document)
    (second : completes path normalizes hint (sessionAfter path normalizes hint session) = true)
    (adds : addsOnly document = true) (rooted : session.tree.IsRooted)
    (away : ∀ edit ∈ (setupFor normalizes session).guideEdits hint path document,
      spelled edit.path ≠ spelled path)
    (apart : Edit.AreApart ((setupFor normalizes session).guideEdits hint path document))
    (loadBack : Edit.LoadBack documents manifests
      ((setupFor normalizes session).guideEdits hint path document) session.tree) :
    let once := sessionAfter path normalizes hint session
    (∀ place, (sessionAfter path normalizes hint once).tree.fileAt? place =
        once.tree.fileAt? place) ↔
      ∀ edit ∈ (setupFor normalizes session).guideEdits hint path document,
        edit.isThere once.tree = true := by
  have once : (sessionAfter path normalizes hint session).tree = _ :=
    (follows_runGuide first adds).tree
  have twice := (follows_twice first second adds away).tree
  intro reached
  rw [twice, once]
  exact Edit.applyAll_rest_iff rooted apart loadBack
    (Setup.areKeyed_guideEdits _ hint path document)

/-! ### Two small guides -/

/-- A session over a guide and an application with one source file. -/
def smallSession (guide source : Text) : Session :=
  .start { source := "src".toList, destination := "dst".toList } []
    ⟨[(["", "src"].map String.toList, .directory),
      (["", "src", "g.md"].map String.toList, .file (Utf8.encode guide)),
      (["", "dst"].map String.toList, .directory),
      (["", "dst", "packages"].map String.toList, .directory),
      (["", "dst", "packages", "app"].map String.toList, .directory),
      (["", "dst", "packages", "app", "src"].map String.toList, .directory),
      (["", "dst", "packages", "app", "src", "App.tsx"].map String.toList,
        .file (Utf8.encode source))]⟩

/-- Where the guide is. -/
def smallPath : Path := .ofText "src/g.md".toList

/-- Where the source file is. -/
def sourcePlace : Path.Place :=
  ["", "dst", "packages", "app", "src", "App.tsx"].map String.toList

/-- The guide of a session over a small one. -/
def smallDocument (session : Session) : Document :=
  (readGuide session.tree session.settings smallPath).toOption.getD
    ⟨[], [], [], [], [], [], [], [], []⟩

theorem runGuide_smallDocument (done : completes smallPath false [] session = true) :
    (runGuide smallPath false [] session).1 = .ok (smallDocument session) := by
  obtain ⟨document, ok⟩ := exists_of_completes done
  rw [ok, smallDocument, (exists_of_runGuide ok).1]
  rfl

set_option maxRecDepth 100000

/-- A guide with a constant that ends in a route, and then a second route. -/
def partedSession : Session :=
  smallSession
    ("# G\n\n```tsx\nconst pages = (\n  <Route path=\"/a\" />\n);\n```\n\n" ++
      "```tsx\n<Route path=\"/b\" />\n```\n").toList
    "import x from 'x';\nconst app = createApp();\n".toList

/-- The second route goes into the constant, which the second run does not find and inserts
again. -/
theorem rerun_inserts_parted_constant :
    let once := sessionAfter smallPath false [] partedSession
    completes smallPath false [] partedSession = true ∧
      completes smallPath false [] once = true ∧ addsOnly (smallDocument partedSession) = true ∧
      (sessionAfter smallPath false [] once).tree.fileAt? sourcePlace ≠
        once.tree.fileAt? sourcePlace := by
  decide +kernel

/-- A guide with a route and a configuration that is not there yet. -/
def restingSession : Session :=
  smallSession
    "# G\n\n```tsx\n<Route path=\"/b\" />\n```\n\n```yaml\na: b\n```\n".toList
    "import x from 'x';\nconst app = createApp();\n".toList

/-- What its configuration says. -/
def smallFragment : Mapping := [(.text "a".toList, .scalar (.text "b".toList))]

/-- The edits of the guide. -/
def restingEdits : List Edit :=
  [.insert (.ofText "dst/packages/app/src/App.tsx".toList) "<Route path=\"/b\" />".toList .route,
    .merge (.ofText "dst/app-config.yaml".toList) smallFragment]

theorem guideEdits_resting :
    (setupFor false restingSession).guideEdits [] smallPath (smallDocument restingSession) =
      restingEdits := by
  decide +kernel

theorem loadBack_resting :
    Edit.LoadBack (fun document => document = [] ∨ document = smallFragment) (fun _ => False)
      restingEdits restingSession.tree where
  documentsFaithful := by
    refine ⟨fun document among => ?_, fun document among path => ?_,
      fun document other left right agreeing => ?_⟩
    · rcases among with rfl | rfl <;> decide +kernel
    · refine @Config.mappingOf_congr smallPath _ _ ?_ path
      rcases among with rfl | rfl <;> exact eq_ok_of_toOption (by decide +kernel)
    · rcases left with rfl | rfl <;> rcases right with rfl | rfl
      · rfl
      · exact absurd agreeing (by decide)
      · exact absurd agreeing (by decide)
      · rfl
  merged := by
    intro document among fragment listed
    obtain rfl : fragment = smallFragment := List.mem_singleton.mp listed
    rcases among with rfl | rfl <;> exact .inr (by decide)
  empty := .inl rfl
  documentsHeld := by
    have free : ∀ edit ∈ restingEdits, edit.fragment? = none ∨
        restingSession.tree.fileAt? (spelled edit.path) = none := by decide
    intro edit member merges bytes held
    rw [(free edit member).resolve_left merges] at held
    simp at held
  manifestsFaithful _ among := nomatch among
  extended _ _ _ _ _ among := nomatch among
  manifestsHeld := by
    have none' : ∀ edit ∈ restingEdits, edit.sections? = none := by decide
    exact fun edit member adds => absurd (none' edit member) adds

/-- The route and the configuration are found again. -/
theorem rerun_keeps_route_and_configuration :
    let once := sessionAfter smallPath false [] restingSession
    ∀ place, (sessionAfter smallPath false [] once).tree.fileAt? place =
      once.tree.fileAt? place := by
  obtain ⟨first, second, adds, there⟩ : completes smallPath false [] restingSession = true ∧
      completes smallPath false [] (sessionAfter smallPath false [] restingSession) = true ∧
      addsOnly (smallDocument restingSession) = true ∧ ∀ edit ∈ restingEdits,
        edit.isThere (sessionAfter smallPath false [] restingSession).tree = true := by
    decide +kernel
  have away : ∀ edit ∈ restingEdits, spelled edit.path ≠ spelled smallPath := by decide
  have apart : Edit.AreApart restingEdits := ⟨by decide, by decide⟩
  have loadBack := loadBack_resting
  rw [← guideEdits_resting] at away apart loadBack there
  exact (rerun_keeps_files_iff (runGuide_smallDocument first) second adds
    (isRooted_of_entries (by decide)) away apart loadBack).mpr there

end Migration

end GuidedMigration
