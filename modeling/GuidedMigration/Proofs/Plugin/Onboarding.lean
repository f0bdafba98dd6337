/-
This file follows the fragment that brings entries into the catalog until its placeholders have been
filled in. The names of the placeholders are made from the numbers of the repositories, and no two
of them are the same. Each name therefore leads back to what its own repository says, and since
filling in goes over a text once, that may itself look like a placeholder.
-/
import GuidedMigration.Plugin.Catalog
import GuidedMigration.Proofs.Value.Congruence
import GuidedMigration.Proofs.Value.Filled
import GuidedMigration.Proofs.Value.OpenForm
import GuidedMigration.Proofs.Yaml.BasicDocument
import GuidedMigration.Value.Display

namespace GuidedMigration

/-! ### Texts without placeholders -/

namespace Placeholder

open Text

variable {before : Option Char} {text rest : Text}

theorem isName_append {name : Text} (named : isName name = true)
    (all : rest.all isNameChar = true) : isName (name ++ rest) = true := by
  cases name with
  | nil => cases named
  | cons first name =>
    rw [isName, Bool.and_eq_true] at named ⊢
    exact ⟨named.1, by rw [List.all_append, named.2, all]; rfl⟩

theorem isSome_token_iff : (token before text).isSome = true ↔
    ∃ name, isName name = true ∧ ofName name <+: text := by
  rw [Option.isSome_iff_exists]
  constructor
  · rintro ⟨⟨name, length⟩, found⟩
    obtain ⟨named, -, rest, cut⟩ := token_eq_some.mp found
    exact ⟨name, named, rest, cut.symm⟩
  · rintro ⟨name, named, rest, cut⟩
    exact ⟨_, token_eq_some.mpr ⟨named, rfl, rest, cut.symm⟩⟩

theorem namesInText_eq_nil : namesInText text = [] ↔ IsBare token none text [] := by
  rw [← not_iff_not, ← isSome_findFirst?_iff, findFirst?, ← namesInText, List.isSome_head?]

/-- A text without placeholders stays as it is. -/
theorem fillText_eq_self (closed : namesInText text = []) (values : Values) :
    fillText values text = text := by
  rw [fillText, replaceFound, scan_of_isBare (namesInText_eq_nil.mp closed), List.flatMap_map]
  exact List.flatMap_singleton' text

/-- The names of the placeholders in a value, in order. -/
def namesIn (value : Value) : List Text := value.texts.flatMap namesInText

/-- A part without a mark does not reach over that mark. -/
theorem prefix_of_prefix_append {part : Text} {mark : Char} (outside : mark ∉ part)
    (begins : part <+: text ++ mark :: rest) : part <+: text := by
  obtain ⟨behind, cut⟩ := begins
  rcases List.append_eq_append_iff.mp cut with ⟨more, whole, -⟩ | ⟨more, longer, further⟩
  · exact ⟨more, whole.symm⟩
  · cases more with
    | nil => exact ⟨[], by rw [longer, List.append_nil, List.append_nil]⟩
    | cons first more =>
      obtain ⟨rfl, -⟩ := List.cons.inj further
      exact absurd (longer ▸ List.mem_append_right text List.mem_cons_self) outside

/-- No placeholder that begins in a text without any reaches over a slash. -/
theorem isBare_token_slash (bare : IsBare token before text []) (rest : Text) :
    IsBare token before text ('/' :: rest) := by
  induction text generalizing before with
  | nil => exact isBare_nil
  | cons char text inductionHypothesis =>
    obtain ⟨missing, further⟩ := isBare_cons.mp bare
    refine isBare_cons.mpr ⟨Option.not_isSome_iff_eq_none.mp fun found => ?_,
      inductionHypothesis further⟩
    obtain ⟨name, named, begins⟩ := isSome_token_iff.mp found
    have outside : '/' ∉ ofName name := by
      have inName : '/' ∉ name := not_mem_of_all (Bool.and_eq_true _ _ ▸ named).2 (by decide)
      simp [ofName, inName]
    have within : ofName name <+: char :: text := prefix_of_prefix_append outside begins
    rw [List.append_nil] at missing
    exact Option.not_isSome_iff_eq_none.mpr missing (isSome_token_iff.mpr ⟨name, named, within⟩)

/-- A text without placeholders can stand in a path. -/
theorem namesInText_path (left right : Text) (outsideLeft : '$' ∉ left)
    (closed : namesInText text = []) (outsideRight : '$' ∉ right) :
    namesInText (left ++ text ++ '/' :: right) = [] := by
  have bareText : IsBare token (lastChar none left) text [] := by
    -- What stands in front of a placeholder does not matter.
    have bare := namesInText_eq_nil.mp closed
    cases text with
    | nil => exact isBare_nil
    | cons char text => exact isBare_cons.mpr (isBare_cons.mp bare)
  have slash : '$' ∉ '/' :: right := by simp [outsideRight]
  rw [namesInText_eq_nil, isBare_append, isBare_append, List.append_nil]
  exact ⟨⟨isBare_token_of_all outsideLeft none _, isBare_token_slash bareText right⟩,
    isBare_token_of_all slash _ []⟩

end Placeholder

/-! ### Names -/

namespace Catalog

open Text Placeholder

variable {number other start : Nat} {repositories : List Repository}

/-- The names of all placeholders begin alike. -/
theorem exists_repositoryName : ∃ mark : Text, isName mark = true ∧ ∀ number part,
    repositoryName number part = mark ++ (ofNat number ++ '_' :: part.toList) :=
  ⟨"CATALOG_REPO_".toList, by decide, fun _ _ => List.append_assoc _ _ _⟩

theorem isName_repositoryName {part : String} (inPart : part.toList.all isNameChar = true) :
    isName (repositoryName number part) = true := by
  obtain ⟨mark, named, spelled⟩ := exists_repositoryName
  have digits : (ofNat number).all isNameChar = true := List.all_eq_true.mpr fun char member => by
    rw [isNameChar, isAsciiAlnum, isAsciiDigit_of_mem_ofNat member, Bool.or_true, Bool.true_or]
  rw [spelled]
  refine isName_append named ?_
  rw [List.all_append, List.all_cons, digits, inPart]
  rfl

/-- The name of a placeholder tells the number of the repository and the part. -/
theorem repositoryName_injective {part otherPart : String}
    (same : repositoryName number part = repositoryName other otherPart) :
    number = other ∧ part = otherPart := by
  obtain ⟨mark, -, spelled⟩ := exists_repositoryName
  rw [spelled, spelled] at same
  have behind := List.append_cancel_left same
  have digits (number : Nat) : (ofNat number).all isAsciiDigit = true :=
    List.all_eq_true.mpr fun _ => isAsciiDigit_of_mem_ofNat
  have numeral : ofNat number = ofNat other := by
    have run := congrArg (List.takeWhile isAsciiDigit) behind
    rwa [takeWhile_append_of_head (digits number) rfl,
      takeWhile_append_of_head (digits other) rfl] at run
  rw [numeral] at behind
  refine ⟨?_, String.toList_injective (List.cons.inj (List.append_cancel_left behind)).2⟩
  rw [← numberOf_ofNat number, numeral, numberOf_ofNat]

/-! ### Locations -/

variable {name : Text} {values : Values}

/-- The location that a repository has in a catalog: its own address and what is taken from it. -/
def Repository.location (repository : Repository) : Value :=
  Value.record [("type", .text "url".toList), ("target", .text repository.url),
    ("rules", .list [Value.record [("allow", .text repository.rules)]])]

theorem namesInText_target (closed : namesInText name = []) :
    namesInText ("../../templates/".toList ++ name ++ "/template.yaml".toList) = [] :=
  namesInText_path "../../templates/".toList "template.yaml".toList (by decide) closed (by decide)

theorem namesIn_templateLocation (closed : namesInText name = []) :
    namesIn (templateLocation name) = [] := by
  have texts : (templateLocation name).texts = ["file".toList,
      "../../templates/".toList ++ name ++ "/template.yaml".toList, "Template".toList] := rfl
  have kind : namesInText "file".toList = [] := by decide
  have allowed : namesInText "Template".toList = [] := by decide
  rw [namesIn, texts, List.flatMap_cons, List.flatMap_cons, List.flatMap_singleton, kind, allowed,
    namesInText_target closed]
  rfl

theorem namesIn_localLocation : namesIn localLocation = [] := by decide

theorem namesIn_repositoryLocation (number : Nat) : namesIn (repositoryLocation number) =
      [repositoryName number "URL", repositoryName number "RULES"] := by
  have texts : (repositoryLocation number).texts = ["url".toList,
      ofName (repositoryName number "URL"), ofName (repositoryName number "RULES")] := rfl
  have kind : namesInText "url".toList = [] := by decide
  have named (part : String) (inPart : part.toList.all isNameChar = true) :
      namesInText (ofName (repositoryName number part)) = [repositoryName number part] := by
    have named : isName (repositoryName number part) = true := isName_repositoryName inPart
    rw [namesInText_ofName (Bool.and_eq_true _ _ ▸ named).2, if_pos named]
  rw [namesIn, texts, List.flatMap_cons, List.flatMap_cons, List.flatMap_singleton, kind,
    named "URL" (by decide), named "RULES" (by decide)]
  rfl

theorem fill_templateLocation (closed : namesInText name = []) (values : Values) :
    (templateLocation name).fill values = templateLocation name := by
  have kind : fillText values "file".toList = "file".toList := fillText_eq_self (by decide) values
  have allowed : fillText values "Template".toList = "Template".toList :=
    fillText_eq_self (by decide) values
  simp only [templateLocation, Value.record, Value.fill, List.map_cons, List.map_nil,
    Value.mapTexts, Value.mapTextsEntries, Value.mapTextsList, kind, allowed,
    fillText_eq_self (namesInText_target closed)]

theorem fill_localLocation (values : Values) : localLocation.fill values = localLocation := by
  have kind : fillText values "file".toList = "file".toList := fillText_eq_self (by decide) values
  have target : fillText values "../../catalog-info.yaml".toList =
      "../../catalog-info.yaml".toList := fillText_eq_self (by decide) values
  simp only [localLocation, Value.record, Value.fill, List.map_cons, List.map_nil, Value.mapTexts,
    Value.mapTextsEntries, kind, target]

/-- The placeholders of a location stand for what is known of the repository with its number. -/
theorem fill_repositoryLocation {repository : Repository} {values : Values}
    (address : values.get? (repositoryName number "URL") = some repository.url)
    (kinds : values.get? (repositoryName number "RULES") = some repository.rules) :
    (repositoryLocation number).fill values = repository.location := by
  have kind : fillText values "url".toList = "url".toList := fillText_eq_self (by decide) values
  have filled (part : String) (inPart : part.toList.all isNameChar = true) {given : Text}
      (known : values.get? (repositoryName number part) = some given) :
      fillText values (ofName (repositoryName number part)) = given := by
    have named : isName (repositoryName number part) = true := isName_repositoryName inPart
    rw [fillText_ofName _ (Bool.and_eq_true _ _ ▸ named).2, if_pos named, known, Option.getD_some]
  simp only [repositoryLocation, Repository.location, Value.record, Value.fill, List.map_cons,
    List.map_nil, Value.mapTexts, Value.mapTextsEntries, Value.mapTextsList, kind,
    filled "URL" (by decide) address, filled "RULES" (by decide) kinds]

/-! ### Values -/

theorem names_repositoryValues (start : Nat) (repositories : List Repository) :
    (repositoryValues start repositories).map Prod.fst =
      (List.range repositories.length).flatMap fun index =>
        [repositoryName (start + index) "URL", repositoryName (start + index) "RULES"] := by
  induction repositories generalizing start with
  | nil => rfl
  | cons repository rest inductionHypothesis =>
    rw [repositoryValues, List.map_cons, List.map_cons, inductionHypothesis, List.length_cons,
      List.range_succ_eq_map, List.flatMap_cons, List.flatMap_map]
    simp only [Nat.succ_eq_add_one, Nat.add_assoc, Nat.add_comm 1]
    rfl

/-- The names of later repositories are other names. -/
theorem repositoryName_not_mem (earlier : number < start) (part : String) :
    repositoryName number part ∉ (repositoryValues start repositories).map Prod.fst := by
  rw [names_repositoryValues, List.mem_flatMap]
  rintro ⟨index, -, member⟩
  have later : number ≠ start + index := Nat.ne_of_lt (Nat.lt_add_right index earlier)
  simp only [List.mem_cons, List.not_mem_nil, or_false] at member
  rcases member with same | same
  · exact later (repositoryName_injective same).1
  · exact later (repositoryName_injective same).1

theorem repositoryName_ne (number other : Nat) :
    repositoryName number "URL" ≠ repositoryName other "RULES" := fun same =>
  absurd (repositoryName_injective same).2 (by decide)

/-- No two of the values have the same name. -/
theorem nodup_repositoryValues (start : Nat) (repositories : List Repository) :
    ((repositoryValues start repositories).map Prod.fst).Nodup := by
  induction repositories generalizing start with
  | nil => exact List.nodup_nil
  | cons repository rest inductionHypothesis =>
    rw [repositoryValues, List.map_cons, List.map_cons, List.nodup_cons, List.nodup_cons,
      List.mem_cons, not_or]
    exact ⟨⟨repositoryName_ne start start, repositoryName_not_mem (Nat.lt_succ_self start) "URL"⟩,
      repositoryName_not_mem (Nat.lt_succ_self start) "RULES", inductionHypothesis (start + 1)⟩

/-- The names made from the number of a repository lead to what is known of that repository. -/
theorem get?_repositoryValues {index : Nat} (inside : index < repositories.length) :
    (repositoryValues start repositories).get? (repositoryName (start + index) "URL") =
        some repositories[index].url ∧
      (repositoryValues start repositories).get? (repositoryName (start + index) "RULES") =
        some repositories[index].rules := by
  induction repositories generalizing start index with
  | nil => cases inside
  | cons repository rest inductionHypothesis =>
    simp only [repositoryValues, Values.get?_cons]
    cases index with
    | zero =>
      rw [Nat.add_zero, if_pos rfl, if_neg (repositoryName_ne start start).symm, if_pos rfl]
      exact ⟨rfl, rfl⟩
    | succ index =>
      have other {part first : String} :
          repositoryName (start + (index + 1)) part ≠ repositoryName start first := fun same =>
        absurd (repositoryName_injective same).1 (by omega)
      rw [if_neg other, if_neg other, if_neg other, if_neg other,
        show start + (index + 1) = start + 1 + index by omega]
      exact inductionHypothesis (Nat.lt_of_succ_lt_succ inside)

/-! ### The fragment -/

variable {modes : List Mode} {templates : List Text}

/-- The locations that a catalog is to have in the end: those of the templates, of the local
descriptor, and of the repositories, in order. -/
def onboardedLocations (modes : List Mode) (repositories : List Repository)
    (templates : List Text) : List Value :=
  templates.map templateLocation ++ (if modes.contains .locally then [localLocation] else []) ++
    if modes.contains .remote then repositories.map Repository.location else []

theorem values_fragment : (fragment modes repositories templates).2 =
    if modes.contains .remote then repositoryValues 1 repositories else [] := by
  rw [fragment]
  split <;> rfl

theorem namesIn_locations (closed : ∀ name ∈ templates, namesInText name = []) :
    (locations modes repositories templates).flatMap namesIn =
      (fragment modes repositories templates).2.map Prod.fst := by
  have ofTemplates : (templates.map templateLocation).flatMap namesIn = [] := by
    rw [List.flatMap_map, List.flatMap_eq_nil_iff]
    exact fun name member => namesIn_templateLocation (closed name member)
  have ofDescriptor : (if modes.contains .locally then [localLocation] else []).flatMap namesIn =
      [] := by
    split
    · rw [List.flatMap_singleton, namesIn_localLocation]
    · rfl
  rw [locations, List.flatMap_append, List.flatMap_append, ofTemplates, ofDescriptor,
    values_fragment]
  split
  · simp only [List.flatMap_map, namesIn_repositoryLocation, names_repositoryValues, Nat.add_comm 1]
    rfl
  · rfl

theorem fill_locations (closed : ∀ name ∈ templates, namesInText name = []) :
    (locations modes repositories templates).map
        (Value.fill (fragment modes repositories templates).2) =
      onboardedLocations modes repositories templates := by
  rw [locations, onboardedLocations, List.map_append, List.map_append, List.map_map]
  congr 1
  · congr 1
    · exact List.map_congr_left fun name member => fill_templateLocation (closed name member) _
    · split
      · rw [List.map_singleton, fill_localLocation]
      · rfl
  · rw [values_fragment]
    split
    · refine List.ext_getElem (by simp) fun index inside _ => ?_
      simp only [List.length_map, List.length_range] at inside
      have known := @get?_repositoryValues 1 repositories index inside
      rw [Nat.add_comm] at known
      simpa using fill_repositoryLocation known.1 known.2
    · rfl

theorem textsList_eq_flatMap (items : List Value) :
    Value.textsList items = items.flatMap Value.texts := by
  induction items with
  | nil => rfl
  | cons item rest inductionHypothesis =>
    rw [Value.textsList, List.flatMap_cons, inductionHypothesis]

/-- The fragment that brings everything into the catalog is left out if there is nothing to bring,
and otherwise holds the locations, perhaps with a search that is off. -/
theorem fragment_eq (modes : List Mode) (repositories : List Repository) (templates : List Text) :
    (locations modes repositories templates = [] ∧
      (fragment modes repositories templates).1 = []) ∨
    (locations modes repositories templates ≠ [] ∧ ∃ search : Mapping,
      Value.textsEntries search = [] ∧ (fragment modes repositories templates).1 =
        [(.text "catalog".toList, .map ((.text "locations".toList,
          .list (locations modes repositories templates)) :: search))]) := by
  rw [fragment]
  split
  · exact .inl ⟨List.isEmpty_iff.mp ‹_›, rfl⟩
  · refine .inr ⟨fun nothing => ‹¬_› (List.isEmpty_iff.mpr nothing), ?_⟩
    split
    · exact ⟨_, rfl, rfl⟩
    · exact ⟨[], rfl, rfl⟩

/-- Filling in the fragment with the values that come with it, which are those of its placeholders,
each under a name of its own, gives every location that the catalog is to have. What a repository
says of itself stands there as it is, whatever it looks like. -/
theorem onboarding_round_trip (modes : List Mode) (repositories : List Repository)
    (templates : List Text) (closed : ∀ name ∈ templates, namesInText name = []) :
    let (onboarding, values) := fragment modes repositories templates
    (onboarding = [] ↔ onboardedLocations modes repositories templates = []) ∧
      onboarding.placeholders = values.map Prod.fst ∧ (values.map Prod.fst).Nodup ∧
      (onboarding ≠ [] →
        (Value.map (onboarding.fill values)).follow? ["catalog".toList, "locations".toList] =
          some (.list (onboardedLocations modes repositories templates))) := by
  have distinct : ((fragment modes repositories templates).2.map Prod.fst).Nodup := by
    rw [values_fragment]
    split
    · exact nodup_repositoryValues 1 repositories
    · exact List.nodup_nil
  have names := @namesIn_locations repositories modes templates closed
  have filled := @fill_locations repositories modes templates closed
  dsimp only
  obtain ⟨nothing, empty⟩ | ⟨something, search, silent, whole⟩ :=
    fragment_eq modes repositories templates
  · rw [nothing] at names filled
    rw [empty, ← filled, ← names]
    exact ⟨⟨fun _ => rfl, fun _ => rfl⟩, rfl, List.nodup_nil, fun other => absurd rfl other⟩
  · refine ⟨?_, ?_, distinct, fun _ => ?_⟩
    · rw [whole, ← filled, List.map_eq_nil_iff]
      exact iff_of_false (List.cons_ne_nil _ _) something
    · have texts : Value.textsEntries (fragment modes repositories templates).1 =
          (locations modes repositories templates).flatMap Value.texts := by
        simp [whole, Value.textsEntries, Value.texts, silent, textsList_eq_flatMap]
      rw [Mapping.placeholders, texts, List.flatMap_assoc, ← eraseDups_eq_self distinct, ← names]
      rfl
    · have lists : Value.mapTextsList (fillText (fragment modes repositories templates).2) _ =
          onboardedLocations modes repositories templates :=
        (Value.mapTextsList_eq_map _ _).trans filled
      rw [whole, ← lists]
      rfl

/-- Two repositories whose addresses and kinds of entries are written like the placeholders of each
other are brought into the catalog with a template and the local descriptor. -/
theorem onboarding_of_lookalike_repositories :
    let first : Repository := ⟨"$\x7bCATALOG_REPO_2_URL\x7d".toList, "Component".toList⟩
    let second : Repository :=
      ⟨"https://github.com/org/b".toList, "$\x7bCATALOG_REPO_1_RULES\x7d".toList⟩
    let templates := ["service".toList]
    let (onboarding, values) := fragment [.remote, .locally] [first, second] templates
    (∀ name ∈ templates, namesInText name = []) ∧ onboarding ≠ [] ∧
      onboarding.placeholders = ["CATALOG_REPO_1_URL".toList, "CATALOG_REPO_1_RULES".toList,
        "CATALOG_REPO_2_URL".toList, "CATALOG_REPO_2_RULES".toList] ∧
      (Value.map (onboarding.fill values)).follow? ["catalog".toList, "locations".toList] =
        some (.list [templateLocation "service".toList, localLocation, first.location,
          second.location]) := by
  intro first second templates
  have closed : ∀ name ∈ templates, namesInText name = [] := by decide
  have whole := onboarding_round_trip [.remote, .locally] [first, second] templates closed
  have filled : (fragment [.remote, .locally] [first, second] templates).1 ≠ [] :=
    mt whole.1.mp (List.cons_ne_nil _ _)
  exact ⟨closed, filled, whole.2.1, whole.2.2.2 filled⟩

end Catalog

end GuidedMigration
