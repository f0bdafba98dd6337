/-
This file says which source each setting comes from, and how reading the settings can fail. The
file, the environment and the overrides are laid over each other, and each of them names a setting
once at most, so that the last of them that names a setting has it its way.

A wrong value is reported as such. What is not is a file that is no mapping, or a mapping with a key
that is no text: the sources are laid over it as if it were one. Nor is a tag that calls a text a
truth value or a time when it is none, or an empty text a number, nor a number that is too large:
that they fit is taken for granted.
-/
import GuidedMigration.Proofs.Tree.Reading
import GuidedMigration.Proofs.Value.Congruence
import GuidedMigration.Proofs.Yaml.Keyed
import GuidedMigration.Settings.Basic

namespace GuidedMigration.Settings

variable {given : Mapping} {settings : Settings}

/-! ### Settings by name -/

/-- Whether a setting is what is given for its name, once that has been read, or its default if
nothing is given. -/
def Takes {Read : Type} (given : Text → Option Value) (name : String) (usual : Read)
    (read : Value → Field.Checked Read) (taken : Read) : Prop :=
  match given name.toList with
  | some value => read value = .ok taken
  | none => taken = usual

/-- The settings that are used where nothing is given. -/
def usual : Settings := {}

/-- Whether every setting is what is given for its name, or its default. -/
structure IsGiven (given : Text → Option Value) (settings : Settings) : Prop where
  application : Takes given "app_name" usual.application Field.text settings.application
  ledger : Takes given "db_url" usual.ledger Field.text settings.ledger
  dialect : Takes given "parser_config" usual.dialect Field.text settings.dialect
  deepest :
    Takes given "max_section_level" usual.deepest (Field.integerBetween 2 6) settings.deepest
  source : Takes given "source_dir" usual.source Field.text settings.source
  destination : Takes given "dest_dir" usual.destination Field.text settings.destination
  guides : Takes given "docs_dir" usual.guides Field.text settings.guides
  template : Takes given "template_config" usual.template Field.text settings.template
  localDocument : Takes given "local_config" usual.localDocument Field.text settings.localDocument
  valuesFile : Takes given "values_file" usual.valuesFile Field.text? settings.valuesFile
  excluded : Takes given "excluded_dirs" usual.excluded Field.texts settings.excluded
  optionalAssets :
    Takes given "optional_assets" usual.optionalAssets Field.texts settings.optionalAssets
  rolePaths : Takes given "role_paths" usual.rolePaths Field.textMap settings.rolePaths
  essentialDependencies :
    Takes given "essential_dependencies" usual.essentialDependencies Field.textMap
      settings.essentialDependencies
  autoPrerequisites :
    Takes given "auto_prerequisites" usual.autoPrerequisites Field.truth
      settings.autoPrerequisites
  logLevel : Takes given "log_level" usual.logLevel Field.text settings.logLevel

/-- Only what is given for the names of settings matters. -/
theorem IsGiven.congr {first second : Text → Option Value}
    (agree : ∀ name ∈ names, first name = second name) (isGiven : IsGiven first settings) :
    IsGiven second settings := by
  have takes {Read : Type} {name : String} {usual taken : Read} {read : Value → Field.Checked Read}
      (member : name.toList ∈ names) (held : Takes first name usual read taken) :
      Takes second name usual read taken := by
    rwa [Takes, ← agree _ member]
  exact ⟨takes (by decide) isGiven.application, takes (by decide) isGiven.ledger,
    takes (by decide) isGiven.dialect, takes (by decide) isGiven.deepest,
    takes (by decide) isGiven.source, takes (by decide) isGiven.destination,
    takes (by decide) isGiven.guides, takes (by decide) isGiven.template,
    takes (by decide) isGiven.localDocument, takes (by decide) isGiven.valuesFile,
    takes (by decide) isGiven.excluded, takes (by decide) isGiven.optionalAssets,
    takes (by decide) isGiven.rolePaths, takes (by decide) isGiven.essentialDependencies,
    takes (by decide) isGiven.autoPrerequisites, takes (by decide) isGiven.logLevel⟩

theorem field_eq_ok_iff {Read : Type} {name : String} {usual taken : Read}
    {read : Value → Field.Checked Read} :
    field given name usual read = .ok taken ↔
      Takes (fun name => given.get? (.text name)) name usual read taken := by
  rw [field, Takes]
  cases given.get? (.text name.toList) with
  | none => exact ⟨fun same => (Except.ok.inj same).symm, congrArg _ ∘ Eq.symm⟩
  | some value =>
    dsimp only
    cases read value <;> simp [Field.below]

/-- Values make the settings that they give, if each of them can be read, and otherwise none. -/
theorem ofValues_eq_ok_iff :
    ofValues given = .ok settings ↔ IsGiven (fun name => given.get? (.text name)) settings := by
  unfold ofValues
  extract_lets usual application ledger dialect deepest source destination guides template
    localDocument valuesFile excluded optionalAssets rolePaths essentialDependencies
    autoPrerequisites logLevel faults
  constructor
  · intro done
    split at done
    · cases done
    · simp only [bind_ok_iff] at done
      obtain ⟨_, applicationRead, _, ledgerRead, _, dialectRead, _, deepestRead, _, sourceRead,
        _, destinationRead, _, guidesRead, _, templateRead, _, localDocumentRead, _, valuesFileRead,
        _, excludedRead, _, optionalAssetsRead, _, rolePathsRead, _, essentialDependenciesRead,
        _, autoPrerequisitesRead, _, logLevelRead, same⟩ := done
      obtain rfl := Except.ok.inj same
      exact ⟨field_eq_ok_iff.mp applicationRead, field_eq_ok_iff.mp ledgerRead,
        field_eq_ok_iff.mp dialectRead, field_eq_ok_iff.mp deepestRead,
        field_eq_ok_iff.mp sourceRead, field_eq_ok_iff.mp destinationRead,
        field_eq_ok_iff.mp guidesRead, field_eq_ok_iff.mp templateRead,
        field_eq_ok_iff.mp localDocumentRead, field_eq_ok_iff.mp valuesFileRead,
        field_eq_ok_iff.mp excludedRead, field_eq_ok_iff.mp optionalAssetsRead,
        field_eq_ok_iff.mp rolePathsRead, field_eq_ok_iff.mp essentialDependenciesRead,
        field_eq_ok_iff.mp autoPrerequisitesRead, field_eq_ok_iff.mp logLevelRead⟩
  · intro isGiven
    have applicationRead : application = .ok settings.application :=
      field_eq_ok_iff.mpr isGiven.application
    have ledgerRead : ledger = .ok settings.ledger := field_eq_ok_iff.mpr isGiven.ledger
    have dialectRead : dialect = .ok settings.dialect := field_eq_ok_iff.mpr isGiven.dialect
    have deepestRead : deepest = .ok settings.deepest := field_eq_ok_iff.mpr isGiven.deepest
    have sourceRead : source = .ok settings.source := field_eq_ok_iff.mpr isGiven.source
    have destinationRead : destination = .ok settings.destination :=
      field_eq_ok_iff.mpr isGiven.destination
    have guidesRead : guides = .ok settings.guides := field_eq_ok_iff.mpr isGiven.guides
    have templateRead : template = .ok settings.template := field_eq_ok_iff.mpr isGiven.template
    have localDocumentRead : localDocument = .ok settings.localDocument :=
      field_eq_ok_iff.mpr isGiven.localDocument
    have valuesFileRead : valuesFile = .ok settings.valuesFile :=
      field_eq_ok_iff.mpr isGiven.valuesFile
    have excludedRead : excluded = .ok settings.excluded := field_eq_ok_iff.mpr isGiven.excluded
    have optionalAssetsRead : optionalAssets = .ok settings.optionalAssets :=
      field_eq_ok_iff.mpr isGiven.optionalAssets
    have rolePathsRead : rolePaths = .ok settings.rolePaths := field_eq_ok_iff.mpr isGiven.rolePaths
    have essentialDependenciesRead : essentialDependencies = .ok settings.essentialDependencies :=
      field_eq_ok_iff.mpr isGiven.essentialDependencies
    have autoPrerequisitesRead : autoPrerequisites = .ok settings.autoPrerequisites :=
      field_eq_ok_iff.mpr isGiven.autoPrerequisites
    have logLevelRead : logLevel = .ok settings.logLevel := field_eq_ok_iff.mpr isGiven.logLevel
    clear_value application ledger dialect deepest source destination guides template localDocument
      valuesFile excluded optionalAssets rolePaths essentialDependencies autoPrerequisites logLevel
    subst applicationRead ledgerRead dialectRead deepestRead sourceRead destinationRead guidesRead
      templateRead localDocumentRead valuesFileRead excludedRead optionalAssetsRead rolePathsRead
      essentialDependenciesRead autoPrerequisitesRead logLevelRead
    rfl

/-! ### One source over another -/

variable {name : Text} {later earlier : Mapping}

theorem same_text_iff {key : Scalar} : key.same (.text name) = true ↔ key = .text name := by
  rw [Scalar.same, decide_eq_true_eq]
  exact Scalar.identity_eq_text

theorem get?_cons_text {key : Scalar} {value : Value} {rest : Mapping} :
    Mapping.get? (.text name) ((key, value) :: rest) =
      if key = .text name then some value else rest.get? (.text name) := by
  rw [Mapping.get?]
  simp only [same_text_iff]

theorem get?_put_text {key : Scalar} {value : Value} {mapping : Mapping} :
    (mapping.put key value).get? (.text name) =
      if key = .text name then some value else mapping.get? (.text name) := by
  split
  · rename_i same
    rw [same, Mapping.get?_put_same]
  · rename_i other
    exact Mapping.get?_put_of_not_same value mapping
      (Bool.eq_false_iff.mpr (mt same_text_iff.mp other))

theorem get?_text_of_not_mem {mapping : Mapping} (missing : .text name ∉ mapping.map Prod.fst) :
    mapping.get? (.text name) = none := by
  induction mapping with
  | nil => rfl
  | cons entry rest inductionHypothesis =>
    rw [List.map_cons, List.mem_cons, not_or] at missing
    rw [get?_cons_text, if_neg (Ne.symm missing.1), inductionHypothesis missing.2]

/-- A later source that names each setting once has it its way; the rest is as it was. -/
theorem get?_overlay (distinct : (later.map Prod.fst).Nodup) :
    (overlay later earlier).get? (.text name) =
      (later.get? (.text name)).or (earlier.get? (.text name)) := by
  induction later generalizing earlier with
  | nil => rfl
  | cons entry rest inductionHypothesis =>
    obtain ⟨key, value⟩ := entry
    obtain ⟨fresh, distinct⟩ := List.nodup_cons.mp distinct
    rw [overlay, List.foldl_cons, ← overlay, inductionHypothesis distinct, get?_put_text,
      get?_cons_text]
    split
    · rename_i same
      rw [get?_text_of_not_mem (same ▸ fresh)]
      rfl
    · rfl

/-- Whether all keys of a mapping are texts. -/
def IsNamed (mapping : Mapping) : Prop := ∀ entry ∈ mapping, isName entry.1 = true

theorem isNamed_cons {entry : Scalar × Value} {rest : Mapping} :
    IsNamed (entry :: rest) ↔ isName entry.1 = true ∧ IsNamed rest := List.forall_mem_cons

theorem isNamed_put {key : Scalar} (named : isName key = true) (value : Value) (mapping : Mapping) :
    IsNamed (mapping.put key value) ↔ IsNamed mapping := by
  induction mapping with
  | nil => exact isNamed_cons.trans (and_iff_right named)
  | cons entry rest inductionHypothesis =>
    obtain ⟨other, old⟩ := entry
    rw [Mapping.put]
    split
    · rw [isNamed_cons, isNamed_cons]
    · rw [isNamed_cons, isNamed_cons, inductionHypothesis]

/-- A source whose keys are texts brings in no other key and removes none. -/
theorem isNamed_overlay (named : IsNamed later) :
    IsNamed (overlay later earlier) ↔ IsNamed earlier := by
  induction later generalizing earlier with
  | nil => rfl
  | cons entry rest inductionHypothesis =>
    obtain ⟨isText, named⟩ := isNamed_cons.mp named
    rw [overlay, List.foldl_cons, ← overlay, inductionHypothesis named]
    exact isNamed_put isText entry.2 earlier

/-! ### The sources -/

variable {environment : List (Text × Text)} {overrides entries : Mapping}

theorem environmentValues_eq (environment : List (Text × Text)) : environmentValues environment =
    names.filterMap fun name => (fromEnvironment? environment name).map (.text name, ·) := rfl

theorem isNamed_environmentValues (environment : List (Text × Text)) :
    IsNamed (environmentValues environment) := by
  intro entry member
  obtain ⟨name, -, found⟩ := List.mem_filterMap.mp member
  obtain ⟨value, -, rfl⟩ := Option.map_eq_some_iff.mp found
  rfl

/-- The values by name that a function gives to some names. -/
theorem get?_filterMap (held : Text → Option Value) (names : List Text) :
    Mapping.get? (.text name) (names.filterMap fun name => (held name).map (.text name, ·)) =
      if name ∈ names then held name else none := by
  induction names with
  | nil => rfl
  | cons first rest inductionHypothesis =>
    cases found : held first with
    | none =>
      rw [List.filterMap_cons_none (by rw [found]; rfl), inductionHypothesis]
      by_cases same : name = first
      · rw [same, if_pos List.mem_cons_self, found, ite_self]
      · simp [same]
    | some value =>
      rw [List.filterMap_cons_some (by rw [found]; rfl), get?_cons_text, inductionHypothesis]
      by_cases same : first = name
      · subst same
        simp [found]
      · simp [same, Ne.symm same]

/-- An environment gives each setting one value at most. -/
theorem nodup_environmentValues (environment : List (Text × Text)) :
    ((environmentValues environment).map Prod.fst).Nodup := by
  have part (names : List Text) :
      ((names.filterMap fun name =>
        (fromEnvironment? environment name).map (Scalar.text name, ·)).map Prod.fst).Sublist
          (names.map Scalar.text) := by
    induction names with
    | nil => exact .slnil
    | cons first rest inductionHypothesis =>
      cases found : fromEnvironment? environment first with
      | none =>
        rw [List.filterMap_cons_none (by rw [found]; rfl)]
        exact inductionHypothesis.cons _
      | some value =>
        rw [List.filterMap_cons_some (by rw [found]; rfl)]
        exact inductionHypothesis.cons_cons _
  exact (part names).nodup (by decide)

/-- The overrides that have a value. -/
def setOverrides (overrides : Mapping) : Mapping := overrides.filter fun (_, value) => !value.isNull

theorem get?_setOverrides (distinct : (overrides.map Prod.fst).Nodup) :
    (setOverrides overrides).get? (.text name) =
      (overrides.get? (.text name)).filter (!·.isNull) := by
  induction overrides with
  | nil => rfl
  | cons entry rest inductionHypothesis =>
    obtain ⟨key, value⟩ := entry
    obtain ⟨fresh, distinct⟩ := List.nodup_cons.mp distinct
    have behind := inductionHypothesis distinct
    rw [setOverrides, List.filter_cons, ← setOverrides, get?_cons_text]
    by_cases empty : value.isNull = true
    · rw [if_neg (by simp [empty]), behind]
      split
      · rename_i same
        rw [get?_text_of_not_mem (same ▸ fresh), Option.filter_some, empty]
        rfl
      · rfl
    · rw [if_pos (by simp [empty]), get?_cons_text]
      split
      · rw [Option.filter_some, if_pos (by simp [empty])]
      · exact behind

/-- What is first given for a name: by an override that has a value, by a variable of the
environment that is not empty, or by the file. -/
def firstGiven (overrides : Mapping) (environment : List (Text × Text)) (entries : Mapping)
    (name : Text) : Option Value :=
  ((overrides.get? (.text name)).filter (!·.isNull)).or
    ((fromEnvironment? environment name).or (entries.get? (.text name)))

/-- The sources laid over each other. -/
def layered (overrides : Mapping) (environment : List (Text × Text)) (entries : Mapping) :
    Mapping :=
  overlay (setOverrides overrides) (overlay (environmentValues environment) entries)

theorem get?_layered (distinct : (overrides.map Prod.fst).Nodup) (member : name ∈ names) :
    (layered overrides environment entries).get? (.text name) =
      firstGiven overrides environment entries name := by
  have kept : ((setOverrides overrides).map Prod.fst).Nodup :=
    (List.filter_sublist.map Prod.fst).nodup distinct
  rw [layered, get?_overlay kept, get?_overlay (nodup_environmentValues environment),
    get?_setOverrides distinct, environmentValues_eq, get?_filterMap, if_pos member, firstGiven]

theorem isNamed_layered (named : IsNamed overrides) :
    IsNamed (layered overrides environment entries) ↔ IsNamed entries := by
  have kept : IsNamed (setOverrides overrides) := fun entry member =>
    named entry (List.mem_filter.mp member).1
  rw [layered, isNamed_overlay kept, isNamed_overlay (isNamed_environmentValues environment)]

/-! ### The file -/

variable {tree : Tree} {content : Option Text}

/-- The place of the file with the settings, in the working directory. -/
def filePlace : Path.Place := Tree.here ++ [fileName]

/-- Whether the file with the settings has a content, or is not there. -/
def Holds (tree : Tree) (content : Option Text) : Prop :=
  tree.find? filePlace = content.map fun text => .file (Utf8.encode text)

theorem place_fileName (tree : Tree) : tree.place (.ofText fileName) = .ok filePlace := by
  have path : Path.ofText fileName = ⟨[], [fileName]⟩ := by decide
  have walked : tree.walk (Tree.start ⟨[], [fileName]⟩) [fileName] = .ok filePlace := by
    show tree.walk Tree.here [fileName] = _
    rw [Tree.walk, Tree.find?_of_isGround rfl, if_neg (by decide), if_neg (by decide)]
    rfl
  rw [path, Tree.place_of_isNamed (by decide), walked]

/-- The value of a content: an empty mapping where there is none or one that counts as absent. -/
def valueOf : Option Text → Except Yaml.Fault Value
  | none => .ok (.map [])
  | some text => (Yaml.read (Text.unifyNewlines text)).map fun value =>
      if value.isTruthy then value else .map []

/-- The failure that a fault of the content is. -/
def faultFailure : Yaml.Fault → Failure
  | .malformed | .endless => .value .configuration
  | fault => .yaml fault

theorem fileValue_of_holds (holds : Holds tree content) :
    fileValue tree = (valueOf content).mapError faultFailure := by
  have found : tree.exists? (.ofText fileName) = .ok content.isSome := by
    rw [Tree.exists?, Tree.look, place_fileName]
    dsimp only
    rw [holds, Except.map, Option.isSome_map]
  rw [fileValue, found]
  cases content with
  | none => rfl
  | some text =>
    have held : tree.read (.ofText fileName) = .ok (Text.unifyNewlines text) := by
      have bytes : tree.bytes (.ofText fileName) = .ok (Utf8.encode text) := by
        have file : tree.find? filePlace = some (.file (Utf8.encode text)) := holds
        simp [Tree.bytes, place_fileName, bind, Except.bind, file]
      rw [← Tree.textOf_encode, Tree.read, bytes]
      rfl
    rw [Option.isSome_some, held, valueOf]
    dsimp only [bind, Except.bind]
    cases Yaml.read (Text.unifyNewlines text) with
    | ok value => rfl
    | error fault => cases fault <;> rfl

/-! ### Reading the settings -/

/-- Whether a content either gives settings or is refused for a wrong value: it is a mapping with
texts for keys, or it cannot be read, but not because a tag calls a text a truth value or a time
that is none, or an empty text a number, nor because a number is too large. -/
def IsUsable (content : Option Text) : Prop :=
  match valueOf content with
  | .ok (.map entries) => IsNamed entries
  | .ok _ => False
  | .error fault => fault ≠ .truth ∧ fault ≠ .moment ∧ fault ≠ .noDigits ∧ fault ≠ .tooLarge

theorem isValue_faultFailure {fault : Yaml.Fault} : (faultFailure fault).isValue = true ↔
    fault ≠ .truth ∧ fault ≠ .moment ∧ fault ≠ .noDigits ∧ fault ≠ .tooLarge := by
  cases fault <;> simp [faultFailure, Failure.isValue, Yaml.Fault.isValue]

theorem read_eq_ok_iff :
    read given = .ok settings ↔ IsNamed given ∧ ofValues given = .ok settings := by
  rw [read]
  by_cases named : IsNamed given
  · rw [if_pos (List.all_eq_true.mpr named), and_iff_right named]
    cases ofValues given <;> simp
  · rw [if_neg (mt List.all_eq_true.mp named)]
    exact iff_of_false nofun fun made => named made.1

/-- Values by name fail to make settings for another reason than that one of them is wrong, exactly
if not all names are texts. -/
theorem read_fails_otherwise_iff :
    (∃ failure, read given = .error failure ∧ failure.isValue = false) ↔ ¬ IsNamed given := by
  rw [read]
  by_cases named : IsNamed given
  · rw [if_pos (List.all_eq_true.mpr named)]
    refine iff_of_false ?_ (not_not_intro named)
    rintro ⟨failure, failed, other⟩
    cases made : ofValues given with
    | ok settings => simp [made] at failed
    | error faults =>
      rw [made] at failed
      rw [← Except.error.inj failed] at other
      cases other
  · rw [if_neg (mt List.all_eq_true.mp named)]
    exact iff_of_true ⟨_, rfl, rfl⟩ named

/-- What becomes of a content, by what kind of value it is. -/
theorem load_of_holds (holds : Holds tree content) (environment : List (Text × Text))
    (overrides : Mapping) :
    (∃ entries, valueOf content = .ok (.map entries) ∧
      load tree environment overrides = read (layered overrides environment entries)) ∨
    (∃ value what, valueOf content = .ok value ∧ (∀ entries, value ≠ .map entries) ∧
      load tree environment overrides = .error (.mismatch what)) ∨
    (∃ fault, valueOf content = .error fault ∧
      load tree environment overrides = .error (faultFailure fault)) := by
  rw [load, fileValue_of_holds holds]
  cases valueOf content with
  | error fault => exact .inr (.inr ⟨fault, rfl, rfl⟩)
  | ok value =>
    dsimp only [Except.mapError, bind, Except.bind]
    cases value with
    | map entries => exact .inl ⟨entries, rfl, rfl⟩
    | scalar atom => exact .inr (.inl ⟨_, _, rfl, nofun, rfl⟩)
    | list items => exact .inr (.inl ⟨_, _, rfl, nofun, rfl⟩)
    | set members => exact .inr (.inl ⟨_, _, rfl, nofun, rfl⟩)

/-- Settings are read exactly if the file is a mapping with texts for keys, or is not there, and
what is first given for each setting can be read. -/
theorem load_eq_ok_iff (holds : Holds tree content) (named : IsNamed overrides)
    (distinct : (overrides.map Prod.fst).Nodup) :
    load tree environment overrides = .ok settings ↔
      ∃ entries, valueOf content = .ok (.map entries) ∧ IsNamed entries ∧
        IsGiven (firstGiven overrides environment entries) settings := by
  have agree (entries : Mapping) : ∀ name ∈ names,
      (layered overrides environment entries).get? (.text name) =
        firstGiven overrides environment entries name := fun name => get?_layered distinct
  rcases load_of_holds holds environment overrides with
    ⟨entries, written, same⟩ | ⟨value, what, written, other, failed⟩ | ⟨fault, faulty, failed⟩
  · rw [same, read_eq_ok_iff, isNamed_layered named, ofValues_eq_ok_iff]
    constructor
    · rintro ⟨texts, isGiven⟩
      exact ⟨entries, written, texts, isGiven.congr (agree entries)⟩
    · rintro ⟨others, written', texts, isGiven⟩
      obtain rfl : entries = others := by simpa [written] using written'
      exact ⟨texts, isGiven.congr fun name member => (agree entries name member).symm⟩
  · rw [failed]
    refine iff_of_false nofun ?_
    rintro ⟨entries, written', -⟩
    exact other entries (Except.ok.inj (written.symm.trans written'))
  · rw [failed]
    refine iff_of_false nofun ?_
    rintro ⟨entries, written, -⟩
    cases faulty.symm.trans written

/-- Settings fail to be read for another reason than that a value is wrong, exactly if the file is
not usable, whatever the environment and the overrides are. -/
theorem load_fails_otherwise_iff (holds : Holds tree content) (named : IsNamed overrides) :
    (∃ failure, load tree environment overrides = .error failure ∧ failure.isValue = false) ↔
      ¬ IsUsable content := by
  rw [IsUsable]
  rcases load_of_holds holds environment overrides with
    ⟨entries, written, same⟩ | ⟨value, what, written, other, failed⟩ | ⟨fault, faulty, failed⟩
  · rw [written, same, read_fails_otherwise_iff, isNamed_layered named]
  · rw [written, failed]
    refine iff_of_true ⟨_, rfl, rfl⟩ ?_
    cases value with
    | map entries => exact absurd rfl (other entries)
    | _ => exact id
  · rw [faulty, failed]
    dsimp only
    rw [← isValue_faultFailure, Bool.not_eq_true]
    constructor
    · rintro ⟨failure, same, other⟩
      exact Except.error.inj same ▸ other
    · exact fun other => ⟨_, rfl, other⟩

/-- Where settings come from, and how they fail to be read. What is read gives each setting what is
first given for it, or its default. What is not read is refused for a wrong value, unless the file
is not usable; then the failure is of another kind, and always so. -/
theorem load_from_sources (holds : Holds tree content) (named : IsNamed overrides)
    (distinct : (overrides.map Prod.fst).Nodup) (environment : List (Text × Text)) :
    (∀ settings, load tree environment overrides = .ok settings ↔
      ∃ entries, valueOf content = .ok (.map entries) ∧ IsNamed entries ∧
        IsGiven (firstGiven overrides environment entries) settings) ∧
    ((∃ failure, load tree environment overrides = .error failure ∧ failure.isValue = false) ↔
      ¬ IsUsable content) :=
  ⟨fun _ => load_eq_ok_iff holds named distinct, load_fails_otherwise_iff holds named⟩

/-- A tree with nothing but a file with settings. -/
def settingsTree (text : Text) : Tree := ⟨[(filePlace, .file (Utf8.encode text))]⟩

theorem load_from_three_sources :
    let text := "docs_dir: guides\nmax_section_level: 4\n".toList
    let environment := [("MDMIGRATE_DEST_DIR".toList, "from-env".toList)]
    let overrides : Mapping :=
      [(.text "source_dir".toList, .text "cli-src".toList), (.text "dest_dir".toList, .null)]
    Holds (settingsTree text) (some text) ∧ IsNamed overrides ∧
      (overrides.map Prod.fst).Nodup ∧
      ∃ settings, load (settingsTree text) environment overrides = .ok settings ∧
        (settings.source, settings.destination, settings.guides, settings.deepest) =
          ("cli-src".toList, "from-env".toList, "guides".toList, 4) ∧
        ∃ entries, valueOf (some text) = .ok (.map entries) ∧ IsNamed entries ∧
          IsGiven (firstGiven overrides environment entries) settings := by
  intro text environment overrides
  have holds : Holds (settingsTree text) (some text) := rfl
  have named : IsNamed overrides := by simp [overrides, IsNamed, isName]
  have distinct : (overrides.map Prod.fst).Nodup := by decide
  have made : (load (settingsTree text) environment overrides).toOption.map (fun settings =>
      (settings.source, settings.destination, settings.guides, settings.deepest)) =
        some ("cli-src".toList, "from-env".toList, "guides".toList, 4) := by decide +kernel
  obtain ⟨settings, done, taken⟩ := Option.map_eq_some_iff.mp made
  have done := eq_ok_of_toOption done
  exact ⟨holds, named, distinct, settings, done, taken,
    ((load_from_sources holds named distinct environment).1 settings).mp done⟩

/-- A file that is a list makes the settings fail, and not for a wrong value. -/
theorem load_fails_otherwise_of_list :
    Holds (settingsTree "- a\n".toList) (some "- a\n".toList) ∧
      ∃ failure, load (settingsTree "- a\n".toList) [] [] = .error failure ∧
        failure.isValue = false := by
  have holds : Holds (settingsTree "- a\n".toList) (some "- a\n".toList) := rfl
  have named : IsNamed [] := List.forall_mem_nil _
  have read : valueOf (some "- a\n".toList) = .ok (.list [.scalar (.text "a".toList)]) :=
    eq_ok_of_toOption (by decide +kernel)
  have unusable : ¬ IsUsable (some "- a\n".toList) := by
    rw [IsUsable, read]
    exact id
  exact ⟨holds, (load_fails_otherwise_iff holds named).mpr unusable⟩

end GuidedMigration.Settings
