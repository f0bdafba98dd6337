/-
This file says which guides of providers the second phase runs. Of the files that the links of the
guide to authentication lead to, those that stand in the directory of the guides are run, each once.
One that stands further below is not: a reference keeps the name of a file alone, and the name is
looked up in the directory of the guides.
-/
import GuidedMigration.Phase.Auth
import GuidedMigration.Proofs.Migration.Isolation
import GuidedMigration.Proofs.Migration.Containment
import GuidedMigration.Proofs.Target.Accounted
import GuidedMigration.Proofs.Text.Scan
import GuidedMigration.Proofs.Yaml.Keyed
import Mathlib.Data.List.Nodup

namespace GuidedMigration

namespace Text

variable {Found : Type} {recognise : Recogniser Found} {occurrence : Found}

/-- What a scan finds has been recognised. -/
theorem exists_of_mem_findAll {text : Text} (found : occurrence ∈ findAll recognise text) :
    ∃ before rest length, recognise before rest = some (occurrence, length) := by
  rw [mem_findAll, scan] at found
  generalize (0 : Nat) = skip, (none : Option Char) = before at found
  induction text generalizing skip before with
  | nil => cases skip <;> cases found
  | cons char text inductionHypothesis =>
    cases skip with
    | succ skip => exact inductionHypothesis skip (some char) found
    | zero =>
      rw [scanFrom] at found
      split at found
      · rename_i other length here
        rcases List.mem_cons.mp found with same | behind
        · cases same
          exact ⟨before, _, length, here⟩
        · exact inductionHypothesis _ _ behind
      · rcases List.mem_cons.mp found with same | behind
        · cases same
        · exact inductionHypothesis _ _ behind

theorem length_le_of_endsWith {final text : Text} (ends : endsWith final text = true) :
    final.length ≤ text.length := by
  rw [endsWith, startsWith] at ends
  obtain ⟨rest, starts⟩ := Option.isSome_iff_exists.mp ends
  have whole := congrArg List.length (dropPrefix?_eq_some starts)
  rw [List.length_reverse, List.length_append, List.length_reverse] at whole
  omega

end Text

/-! ### References -/

namespace Guide

open Text

variable {links : List Link} {text file : Text} {reference : ProviderReference}

/-- Whether something is the name of a file: a part of a path that has no slash and does not lead
up. -/
structure IsFileName (file : Text) : Prop where
  isPart : Path.isPart file = true
  clean : '/' ∉ file
  level : file ≠ Path.up

theorem isFileName_of_length (long : 2 < file.length) (clean : '/' ∉ file) : IsFileName file := by
  refine ⟨?_, clean, ?_⟩
  · rw [Path.isPart, Bool.and_eq_true, Bool.not_eq_true', List.isEmpty_eq_false_iff, bne_iff_ne]
    constructor <;> rintro rfl <;> simp at long
  · rintro rfl
    simp [Path.up] at long

/-- Whether a name may be that of the guide of a provider: it has the ending and something before
it. -/
def IsProviderName (name : Text) : Prop :=
  endsWith providerEnding name = true ∧ providerEnding.length < name.length

theorem isFileName_of_providerTarget? {target : Text} (found : providerTarget? target = some file) :
    IsFileName file := by
  rw [providerTarget?] at found
  split at found
  · rename_i ends
    obtain rfl := Option.some.inj found
    have long := length_le_of_endsWith ends
    refine isFileName_of_length (Nat.lt_of_lt_of_le (by decide) long) ?_
    rw [lastPart] at long ⊢
    cases last : ((splitOn '/' (target.takeWhile (· != '#'))).filter
        fun part => !part.isEmpty && part != ['.']).getLast? with
    | none => simp
    | some part => exact not_mem_of_mem_splitOn (List.mem_filter.mp (List.mem_of_getLast? last)).1
  · cases found

theorem isFileName_of_providerWord (found : file ∈ findAll providerWord text) :
    IsFileName file := by
  obtain ⟨before, rest, length, here⟩ := exists_of_mem_findAll found
  rw [providerWord] at here
  split at here
  · rename_i holds
    simp only [Bool.and_eq_true, decide_eq_true_eq] at holds
    obtain ⟨rfl, -⟩ := Prod.mk.inj (Option.some.inj here)
    refine isFileName_of_length ?_ ?_
    · rw [List.length_append]
      exact Nat.lt_of_lt_of_le (by omega) (Nat.le_add_right _ _)
    · rw [List.mem_append, not_or]
      exact ⟨not_mem_of_all List.all_takeWhile (by decide), by decide⟩
  · cases here

/-- The files of references are those with something before the ending, each once. -/
theorem files_referencesOf (files : List Text) :
    (referencesOf files).map (·.file) = files.eraseDups.filter
      fun file => !(file.take (file.length - providerEnding.length)).isEmpty := by
  rw [referencesOf, List.map_filterMap, ← List.filterMap_eq_filter]
  refine List.filterMap_congr fun file _ => ?_
  rw [Option.guard]
  dsimp only
  cases (file.take (file.length - providerEnding.length)).isEmpty <;> rfl

theorem nodup_files : ((providerReferences links text).map (·.file)).Nodup := by
  rw [providerReferences, files_referencesOf]
  exact (nodup_eraseDups _).filter _

theorem isFileName_of_mem (member : reference ∈ providerReferences links text) :
    IsFileName reference.file := by
  have named := List.mem_map_of_mem (f := (·.file)) member
  rw [providerReferences, files_referencesOf, List.mem_filter, List.mem_eraseDups,
    List.mem_append, List.mem_filterMap] at named
  obtain ⟨⟨link, -, found⟩ | found, -⟩ := named
  · exact isFileName_of_providerTarget? found
  · exact isFileName_of_providerWord found

/-- The name of a file that a link leads to is referred to, if it may be that of a guide. -/
theorem exists_reference {link : Link} (member : link ∈ links)
    (named : IsProviderName (lastPart (link.target.takeWhile (· != '#')))) :
    ∃ reference ∈ providerReferences links text,
      reference.file = lastPart (link.target.takeWhile (· != '#')) := by
  have found : lastPart (link.target.takeWhile (· != '#')) ∈
      (providerReferences links text).map (·.file) := by
    rw [providerReferences, files_referencesOf, List.mem_filter, List.mem_eraseDups]
    refine ⟨List.mem_append_left _ (List.mem_filterMap.mpr ⟨link, member, ?_⟩), ?_⟩
    · rw [providerTarget?]
      exact if_pos named.1
    · have longer := named.2
      rw [Bool.not_eq_true', List.isEmpty_eq_false_iff, ← List.length_pos_iff, List.length_take]
      omega
  exact List.mem_map.mp found

end Guide

/-! ### Paths of guides -/

namespace Tree

open Text

variable {tree : Tree} {guides : Path} {place : Path.Place} {target file : Text}

/-- The name of a file is a path of its own. -/
theorem ofText_of_isFileName (named : Guide.IsFileName file) : Path.ofText file = ⟨[], [file]⟩ := by
  have written : Path.IsWritten ⟨[], [file]⟩ :=
    ⟨.inl rfl, List.forall_mem_singleton.mpr named.isPart,
      List.forall_mem_singleton.mpr named.clean⟩
  exact Path.ofText_toText written

theorem child_of_isFileName (named : Guide.IsFileName file) :
    guides.child file = ⟨guides.root, guides.parts ++ [file]⟩ := by
  rw [Path.child, ofText_of_isFileName named]
  rfl

theorem spelled_child (named : Guide.IsFileName file) :
    spelled (guides.child file) = spelled guides ++ [file] := by
  rw [child_of_isFileName named]
  exact Files.spelled_append guides file named.level

/-- A file that a path leads to in a directory can be reached by its name alone. -/
theorem standing_child (rooted : tree.IsRooted)
    (relative : (Path.ofText target).isAbsolute = false)
    (named : Guide.IsFileName (Path.ofText target).name)
    (stands : tree.standing (guides.child target) = .file)
    (inside : (spelled (guides.child target)).dropLast = spelled guides) :
    spelled (guides.child target) = spelled guides ++ [(Path.ofText target).name] ∧
      tree.standing (guides.child (Path.ofText target).name) = .file := by
  -- The path of the target: that of the guides, some parts of its own, and the name.
  have some' : (Path.ofText target).parts ≠ [] := by
    intro none'
    have isPart := named.isPart
    rw [Path.name, none'] at isPart
    cases isPart
  have parts := Files.parts_eq_of_name some'
  generalize (Path.ofText target).parts.dropLast = above at parts
  generalize (Path.ofText target).name = name at named parts
  have path : guides.child target = ⟨guides.root, guides.parts ++ above ++ [name]⟩ := by
    rw [Path.child, Path.join, if_neg (by simp [relative]), parts, List.append_assoc]
  obtain ⟨reached, bytes, held⟩ := standing_eq_file.mp stands
  have open' : tree.standing (guides.child target) ≠ .barred := by simp [stands]
  have whole := isNamed_of_standing open'
  rw [path] at reached held inside whole ⊢
  have spelling : spelled ⟨guides.root, guides.parts ++ above ++ [name]⟩ =
      spelled ⟨guides.root, guides.parts ++ above⟩ ++ [name] :=
    Files.spelled_append ⟨guides.root, guides.parts ++ above⟩ name named.level
  rw [spelling, List.dropLast_concat] at inside
  rw [inside] at spelling
  rw [spelling] at held reached
  refine ⟨spelling, ?_⟩
  -- The walk to the file goes through the directory of the guides.
  have walked : tree.walk (start guides) (guides.parts ++ (above ++ [name])) =
      .ok (spelled guides ++ [name]) := by
    rw [← List.append_assoc]
    exact (walk_of_place reached).2
  have fits := (short_of_walk walked (by simp : name ∈ _)).resolve_left named.level
  have open' : tree.find? (spelled guides) = some .directory := rooted.above (by rw [held]; simp)
  rw [walk_append] at walked
  cases outer : tree.walk (start guides) guides.parts with
  | error cause =>
    rw [outer] at walked
    cases walked
  | ok directory =>
    obtain rfl : directory = spelled guides := walk_eq_follow outer
    have onward : tree.walk (start guides) (guides.parts ++ [name]) =
        .ok (spelled guides ++ [name]) := by
      rw [walk_append, outer]
      dsimp only
      rw [walk_cons, kindAt?_eq_directory.mpr open']
      dsimp only
      rw [if_neg named.level, if_neg (Nat.not_lt.mpr fits), walk]
    have shorter : (guides.parts ++ [name]).Sublist (guides.parts ++ above ++ [name]) :=
      (List.sublist_append_left guides.parts above).append_right [name]
    have possible := isNamed_of_sublist shorter whole
    rw [child_of_isFileName named, standing_of_walk possible onward,
      kindAt?_eq_file.mpr ⟨bytes, held⟩]
    rfl

end Tree

namespace Phase.Auth

open Migration GuidedMigration.Tree Text

/-! ### Runs of the guides of providers -/

/-- What becomes of a session when references to guides of providers have their turn one after the
other, with the paths of the guides that are run. A missing one leaves a warning; one that fails
ends it. -/
inductive Visits (guides : Path) :
    List ProviderReference → Session → List Path → Except Failure Unit → Session → Prop
  | nil (session : Session) : Visits guides [] session [] (.ok ()) session
  | run {reference : ProviderReference} {rest : List ProviderReference}
      {before between after : Session} {document : Document} {runs : List Path}
      {result : Except Failure Unit}
      (there : before.tree.exists? (guides.child reference.file) = .ok true)
      (ran : runGuide (guides.child reference.file) true [] before = (.ok document, between))
      (later : Visits guides rest between runs result after) :
      Visits guides (reference :: rest) before (guides.child reference.file :: runs) result after
  | stopped {reference : ProviderReference} {rest : List ProviderReference}
      {before after : Session} {failure : Failure}
      (there : before.tree.exists? (guides.child reference.file) = .ok true)
      (ran : runGuide (guides.child reference.file) true [] before = (.error failure, after)) :
      Visits guides (reference :: rest) before [guides.child reference.file] (.error failure) after
  | missing {reference : ProviderReference} {rest : List ProviderReference}
      {before after : Session} {runs : List Path} {result : Except Failure Unit}
      (absent : before.tree.exists? (guides.child reference.file) = .ok false)
      (later : Visits guides rest (before.warn ("provider document ".toList ++ reference.file ++
        " referenced but not found".toList)) runs result after) :
      Visits guides (reference :: rest) before runs result after
  | unseen {reference : ProviderReference} {rest : List ProviderReference} {before : Session}
      {fault : FileFault}
      (failed : before.tree.exists? (guides.child reference.file) = .error fault) :
      Visits guides (reference :: rest) before [] (.error (.file fault)) before

variable {guides guide : Path} {references : List ProviderReference}
  {reference : ProviderReference} {before after session reached : Session} {runs : List Path}
  {result : Except Failure Unit}

/-- The turn of a reference and then those of the others. -/
theorem configureProviders_cons (guides : Path) (reference : ProviderReference)
    (rest : List ProviderReference) (before : Session) :
    configureProviders guides (reference :: rest) before =
      match before.tree.exists? (guides.child reference.file) with
      | .error fault => (.error (.file fault), before)
      | .ok false => configureProviders guides rest (before.warn ("provider document ".toList ++
          reference.file ++ " referenced but not found".toList))
      | .ok true => match runGuide (guides.child reference.file) true [] before with
        | (.ok _, between) => configureProviders guides rest between
        | (.error failure, after) => (.error failure, after) := by
  rw [configureProviders]
  dsimp only
  have asked : onFiles (Files.exists? (guides.child reference.file)) before =
      ((before.tree.exists? (guides.child reference.file)).mapError .file, before) := by
    rw [onFiles, Files.exists?, Files.ask]
    cases before.tree.exists? (guides.child reference.file) <;> rfl
  rw [bind_apply, asked]
  cases before.tree.exists? (guides.child reference.file) with
  | error fault => rfl
  | ok there =>
    cases there with
    | false => rfl
    | true =>
      dsimp only [Except.mapError]
      rw [if_pos rfl, bind_apply]
      generalize runGuide (guides.child reference.file) true [] before = outcome
      obtain ⟨result, between⟩ := outcome
      cases result <;> rfl

/-- The step of the phase is such a sequence of turns. -/
theorem visits_iff : (∃ runs, Visits guides references before runs result after) ↔
    configureProviders guides references before = (result, after) := by
  constructor
  · rintro ⟨runs, visits⟩
    induction visits with
    | nil session => rfl
    | run there ran later inductionHypothesis =>
      rw [configureProviders_cons, there]
      dsimp only
      rw [ran]
      exact inductionHypothesis
    | stopped there ran =>
      rw [configureProviders_cons, there]
      dsimp only
      rw [ran]
    | missing absent later inductionHypothesis =>
      rw [configureProviders_cons, absent]
      exact inductionHypothesis
    | unseen failed => rw [configureProviders_cons, failed]
  · intro ran
    induction references generalizing before with
    | nil =>
      cases ran
      exact ⟨[], .nil _⟩
    | cons reference rest inductionHypothesis =>
      rw [configureProviders_cons] at ran
      cases looked : before.tree.exists? (guides.child reference.file) with
      | error fault =>
        rw [looked] at ran
        cases ran
        exact ⟨[], .unseen looked⟩
      | ok there =>
        rw [looked] at ran
        cases there with
        | false =>
          obtain ⟨runs, later⟩ := inductionHypothesis ran
          exact ⟨runs, .missing looked later⟩
        | true =>
          dsimp only at ran
          cases outcome : runGuide (guides.child reference.file) true [] before with
          | mk answer between =>
            rw [outcome] at ran
            cases answer with
            | error failure =>
              cases ran
              exact ⟨_, .stopped looked outcome⟩
            | ok document =>
              obtain ⟨runs, later⟩ := inductionHypothesis ran
              exact ⟨_, .run looked outcome later⟩

/-- What is run are guides that are referred to, in their order. -/
theorem Visits.sublist (visits : Visits guides references before runs result after) :
    runs.Sublist (references.map fun reference => guides.child reference.file) := by
  induction visits with
  | nil session => exact .slnil
  | run there ran later inductionHypothesis => exact inductionHypothesis.cons_cons _
  | stopped there ran => exact (List.nil_sublist _).cons_cons _
  | missing absent later inductionHypothesis => exact inductionHypothesis.cons _
  | unseen failed => exact List.nil_sublist _

/-- A guide that is there is run, unless the step fails. -/
theorem Visits.mem (visits : Visits guides references before runs result after)
    (done : result = .ok ()) (sound : before.tree.IsSound) (member : reference ∈ references)
    (stands : before.tree.standing (guides.child reference.file) = .file) :
    guides.child reference.file ∈ runs := by
  induction visits with
  | nil session => cases member
  | @run first rest before between after document runs result there ran later inductionHypothesis =>
    rcases List.mem_cons.mp member with rfl | behind
    · exact List.mem_cons_self
    · have stays := writesWithin_runGuide (guides.child first.file) true [] before sound
      rw [ran] at stays
      have settled : before.tree.IsSettled (guides.child reference.file) := by
        simp [IsSettled, stands]
      exact List.mem_cons_of_mem _ (inductionHypothesis done (stays.evolves.sound sound) behind
        ((stays.evolves.grows.standing settled).trans stands))
  | stopped there ran => cases done
  | missing absent later inductionHypothesis =>
    rcases List.mem_cons.mp member with rfl | behind
    · rw [exists?_of_file stands] at absent
      cases absent
    · exact inductionHypothesis done sound behind stands
  | unseen failed => cases done

/-- The paths of the guides that are run lead to different places in the directory of the guides. -/
theorem Visits.places {links : List Link} {text : Text}
    (visits : Visits guides (Guide.providerReferences links text) before runs result after) :
    (runs.map spelled).Nodup ∧ ∀ place ∈ runs.map spelled, place.dropLast = spelled guides := by
  have places : ((Guide.providerReferences links text).map fun reference =>
      guides.child reference.file).map spelled =
      ((Guide.providerReferences links text).map (·.file)).map fun file =>
        spelled guides ++ [file] := by
    rw [List.map_map, List.map_map]
    exact List.map_congr_left fun reference member => spelled_child (Guide.isFileName_of_mem member)
  have within := visits.sublist.map spelled
  rw [places] at within
  refine ⟨within.nodup (List.Nodup.map (fun left right same => ?_) Guide.nodup_files),
    fun place member => ?_⟩
  · exact (List.cons.inj (List.append_cancel_left same)).1
  · obtain ⟨file, -, rfl⟩ := List.mem_map.mp (within.subset member)
    rw [List.dropLast_concat]

/-! ### Links of the guide to authentication -/

theorem writesWithin_copyEach (session : Session) (files : List (Text × Text)) :
    WritesWithin (fun _ => True) (copyEach session files) := by
  induction files with
  | nil => exact .pure ()
  | cons file files inductionHypothesis =>
    refine WritesWithin.bind (.recorded fun tree sound => ?_) fun _ => inductionHypothesis
    exact (Target.behaves_copyPath _ _ _ _ _ tree sound).evolves.mono fun _ _ => trivial

/-- The references of a guide are those of its links and of a text. -/
theorem providers_of_documentOf {settings : Settings} {path : Path} {text : Text}
    {document : Document} (read : documentOf settings path text = .ok document) :
    document.providers = Guide.providerReferences document.links text := by
  rw [documentOf] at read
  split at read
  · cases read
  · split at read
    · rename_i made
      obtain rfl := Except.ok.inj read
      rw [Document.ofText] at made
      obtain ⟨sections, -, made⟩ := exists_of_bind_ok made
      obtain ⟨preamble, -, made⟩ := exists_of_bind_ok made
      obtain rfl := Except.ok.inj made
      rfl
    · cases read

/-- What the step before gives are the references of the guide to authentication. -/
theorem exists_of_configure {providers : List ProviderReference} (sound : session.tree.IsSound)
    (ran : configure guide session = (.ok providers, reached)) :
    ∃ document text, readGuide session.tree session.settings guide = .ok document ∧
      providers = Guide.providerReferences document.links text ∧
      reached.tree.IsSound ∧ session.tree.Grows reached.tree := by
  have writes : WritesWithin (fun _ => True) (configure guide) :=
    (writesWithin_runGuide guide false []).bind fun document => (WritesWithin.ask id).bind
      fun session => (writesWithin_copyEach session criticalFiles).bind fun _ => .pure _
  have evolves := (writes session sound).evolves
  rw [ran] at evolves
  rw [configure, bind_apply] at ran
  cases outcome : runGuide guide false [] session with
  | mk result between =>
    rw [outcome] at ran
    cases result with
    | error failure => cases ran
    | ok document =>
      obtain ⟨read, -⟩ := exists_of_runGuide (congrArg Prod.fst outcome)
      obtain ⟨text, -, made⟩ := exists_of_readGuide read
      refine ⟨document, text, read, ?_, evolves.sound sound, evolves.grows⟩
      rw [← providers_of_documentOf made]
      dsimp only at ran
      rw [bind_ask_apply, bind_apply] at ran
      cases copied : copyEach (id between) criticalFiles between with
      | mk result after =>
        rw [copied] at ran
        cases result with
        | error failure => cases ran
        | ok answer => exact (Except.ok.inj (congrArg Prod.fst ran)).symm

/-- Whether the target of a link leads to the guide of a provider: it is relative, its name is that
of such a guide, and a file stands there. -/
structure LeadsToProvider (tree : Tree) (guides : Path) (target : Text) (place : Path.Place) :
    Prop where
  relative : (Path.ofText (withoutFragment target)).isAbsolute = false
  named : Guide.IsProviderName (Path.ofText (withoutFragment target)).name
  stands : tree.standing (guides.child (withoutFragment target)) = .file
  spelled : spelled (guides.child (withoutFragment target)) = place

/-- Of the guides of providers that the guide to authentication links to, those that stand in the
directory of the guides are run, each once, unless the step fails. One that stands further below is
not run. -/
theorem runs_linked_in_directory {providers : List ProviderReference}
    (sound : session.tree.IsSound)
    (ran : configure guide session = (.ok providers, reached)) :
    ∃ document runs, readGuide session.tree session.settings guide = .ok document ∧
      Visits guides providers reached runs (configureProviders guides providers reached).1
        (configureProviders guides providers reached).2 ∧
      ∀ link ∈ document.links, ∀ place, LeadsToProvider session.tree guides link.target place →
        (runs.map spelled).count place ≤ 1 ∧
        (place.dropLast ≠ spelled guides → place ∉ runs.map spelled) ∧
        (place.dropLast = spelled guides →
          (configureProviders guides providers reached).1 = .ok () →
          (runs.map spelled).count place = 1) := by
  obtain ⟨document, text, read, rfl, sound', grows⟩ := exists_of_configure sound ran
  obtain ⟨runs, visits⟩ := visits_iff.mpr (rfl :
    configureProviders guides (Guide.providerReferences document.links text) reached = (_, _))
  obtain ⟨distinct, within⟩ := visits.places
  refine ⟨document, runs, read, visits, fun link member place leads =>
    ⟨List.nodup_iff_count_le_one.mp distinct _,
      fun outside among => outside (within _ among), fun inside done => ?_⟩⟩
  obtain ⟨relative, named, stands, rfl⟩ := leads
  obtain ⟨reference, referred, file⟩ := Guide.exists_reference member named
  have fileName := Guide.isFileName_of_mem referred
  rw [file] at fileName
  obtain ⟨spelling, direct⟩ := standing_child sound.rooted relative fileName stands inside
  have settled : session.tree.IsSettled
      (guides.child (Path.ofText (withoutFragment link.target)).name) := by
    simp [IsSettled, direct]
  have among := visits.mem done sound' referred (by
    rw [file]
    exact (grows.standing settled).trans direct)
  refine List.count_eq_one_of_mem distinct (List.mem_map.mpr ⟨_, among, ?_⟩)
  rw [file, spelling]
  exact spelled_child fileName

/-! ### A guide with one link -/

/-- A session over a guide to authentication with a link, and the guide of a provider in a directory
below that of the guides. -/
def linkingSession (link : Text) (below : List String) : Session :=
  .start { source := "src".toList, destination := "dst".toList } []
    ⟨[(["", "src"].map String.toList, .directory),
      (["", "src", "docs"].map String.toList, .directory),
      (["", "src", "docs", "providers"].map String.toList, .directory),
      (["", "src", "docs", "Auth.md"].map String.toList,
        .file (Utf8.encode ("[Google](".toList ++ link ++ [')']))),
      ((["", "src", "docs"] ++ below ++ ["GoogleAuth.md"]).map String.toList, .file []),
      (["", "dst"].map String.toList, .directory)]⟩

/-- The guide of the provider stands in the directory of the guides. -/
def directSession : Session := linkingSession "GoogleAuth.md".toList []

/-- The guide of the provider stands further below. -/
def nestedSession : Session := linkingSession "providers/GoogleAuth.md".toList ["providers"]

/-- The directory of the guides. -/
def docsPath : Path := .ofText "src/docs".toList

/-- The path of the guide to authentication. -/
def authPath : Path := .ofText "src/docs/Auth.md".toList

/-- The reference that the link makes. -/
def googleReference : ProviderReference := ⟨"Google".toList, "GoogleAuth.md".toList⟩

set_option maxRecDepth 100000

/-- A guide in the directory is run once. -/
theorem runs_direct_guide :
    ∃ reached runs after, configure authPath directSession = (.ok [googleReference], reached) ∧
      Visits docsPath [googleReference] reached runs (.ok ()) after ∧
      (runs.map spelled).count (["", "src", "docs", "GoogleAuth.md"].map String.toList) = 1 := by
  have ran : configure authPath directSession = (.ok [googleReference], _) :=
    eq_mk_of_toOption (by decide +kernel)
  have done : (configureProviders docsPath [googleReference]
      (configure authPath directSession).2).1 = .ok () := eq_ok_of_toOption (by decide +kernel)
  have leads : LeadsToProvider directSession.tree docsPath "GoogleAuth.md".toList
      (["", "src", "docs", "GoogleAuth.md"].map String.toList) :=
    ⟨rfl, ⟨by decide, by decide⟩, by decide +kernel, by decide⟩
  obtain ⟨document, runs, read, visits, linked⟩ := @runs_linked_in_directory docsPath authPath _ _ _
    (isSound_of_entries (by decide) (by decide)) ran
  have targets : (readGuide directSession.tree directSession.settings authPath).toOption.map
      (fun document => document.links.map (·.target)) = some ["GoogleAuth.md".toList] := by
    decide +kernel
  rw [read] at targets
  obtain ⟨link, alone, target⟩ := List.map_eq_singleton_iff.mp (Option.some.inj targets)
  have member : link ∈ document.links := alone ▸ List.mem_singleton_self link
  rw [done] at visits
  exact ⟨_, runs, _, ran, visits,
    (linked link member _ (by rwa [target])).2.2 (by decide) done⟩

/-- A guide further below is not run: it is looked for in the directory, where it is not. -/
theorem nested_guide_not_run :
    LeadsToProvider nestedSession.tree docsPath "providers/GoogleAuth.md".toList
      (["", "src", "docs", "providers", "GoogleAuth.md"].map String.toList) ∧
    ∃ document reached after,
      readGuide nestedSession.tree nestedSession.settings authPath = .ok document ∧
      document.links.map (·.target) = ["providers/GoogleAuth.md".toList] ∧
      configure authPath nestedSession = (.ok [googleReference], reached) ∧
      configureProviders docsPath [googleReference] reached = (.ok (), after) ∧
      ∀ runs, Visits docsPath [googleReference] reached runs (.ok ()) after →
        ["", "src", "docs", "providers", "GoogleAuth.md"].map String.toList ∉
          runs.map spelled := by
  refine ⟨⟨rfl, ⟨by decide, by decide⟩, by decide +kernel, by decide⟩, ?_⟩
  have ran : configure authPath nestedSession = (.ok [googleReference], _) :=
    eq_mk_of_toOption (by decide +kernel)
  have done : (configureProviders docsPath [googleReference]
      (configure authPath nestedSession).2).1 = .ok () := eq_ok_of_toOption (by decide +kernel)
  have targets : (readGuide nestedSession.tree nestedSession.settings authPath).toOption.map
      (fun document => document.links.map (·.target)) =
      some ["providers/GoogleAuth.md".toList] := by decide +kernel
  obtain ⟨document, read, own⟩ := Option.map_eq_some_iff.mp targets
  refine ⟨document, _, _, eq_ok_of_toOption read, own, ran, Prod.ext done rfl,
    fun runs visits among => ?_⟩
  have listed := (visits.sublist.map spelled).subset among
  rw [List.map_singleton, List.map_singleton, List.mem_singleton] at listed
  exact absurd listed (by decide)

end Phase.Auth

end GuidedMigration
