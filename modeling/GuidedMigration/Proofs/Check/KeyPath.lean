/-
This file compares the two uses of key paths: listing those of a document, and looking one up. The
list writes out the keys of every trail, of whatever kind they are, and leaves an empty key in front
of the others out; a search cuts the path at its dots and takes each part as a text. So a path leads
back along the trail that it was written for exactly if the trail is spelled: its keys are texts
without dots, and if the first one is empty it is the only one.

Where all trails are spelled, a search finds the listed paths and no others, and two documents pass
the check of their key paths exactly if they have the same trails.
-/
import GuidedMigration.Check.Expectation
import GuidedMigration.Proofs.Config.Parity

namespace GuidedMigration

open Text Value

/-! ### Trails and paths -/

/-- A key that is the same as a text is the text. -/
theorem Scalar.eq_text_of_identity {key : Scalar} {word : Text}
    (same : key.identity = .text word) : key = .text word := by
  cases key with
  | double number =>
    rw [identity] at same
    split at same <;> cases same
  | bool _ => cases same
  | _ => exact same

namespace Trail

/-- The trail that a search for a path follows. -/
def ofPath (path : Text) : Trail := (splitOn '.' path).map .text

/-- A trail written with a dot between any two keys. -/
def joined (trail : Trail) : Text := joinWith ['.'] (trail.map Scalar.display)

/-- Whether all keys of a trail are texts without dots. -/
def IsDotless (trail : Trail) : Prop := ∀ key ∈ trail, key.IsDotless

/-- Whether all keys of a trail are texts without dots, and the first one is not empty unless it is
the only one. -/
def IsSpelled (trail : Trail) : Prop :=
  trail.IsDotless ∧ (trail.head? = some (.text []) → trail.length = 1)

variable {trail : Trail} {path : Text}

theorem ofPath_ne_nil (path : Text) : ofPath path ≠ [] := by
  simpa [ofPath] using splitOn_ne_nil '.' path

theorem isDotless_ofPath (path : Text) : (ofPath path).IsDotless := by
  intro key member
  obtain ⟨word, part, rfl⟩ := List.mem_map.mp member
  exact ⟨word, rfl, not_mem_of_mem_splitOn part⟩

theorem joined_ofPath (path : Text) : (ofPath path).joined = path := by
  have shown : (ofPath path).map Scalar.display = splitOn '.' path := by
    rw [ofPath, List.map_map]
    exact List.map_id _
  rw [joined, shown, joinWith_splitOn]

theorem IsDotless.tail {key : Scalar} (dotless : IsDotless (key :: trail)) : IsDotless trail :=
  fun other member => dotless other (List.mem_cons_of_mem key member)

theorem IsDotless.map_display (dotless : trail.IsDotless) :
    (trail.map Scalar.display).map Scalar.text = trail := by
  rw [List.map_map]
  refine (List.map_congr_left fun key member => ?_).trans (List.map_id trail)
  obtain ⟨word, rfl, -⟩ := dotless key member
  rfl

theorem ofPath_joined (dotless : trail.IsDotless) (nonempty : trail ≠ []) :
    ofPath trail.joined = trail := by
  rw [ofPath, joined, splitOn_joinWith (by simpa using nonempty), dotless.map_display]
  intro part member
  obtain ⟨key, held, rfl⟩ := List.mem_map.mp member
  obtain ⟨word, rfl, clean⟩ := dotless key held
  exact clean

/-- No other trail has the same keys as the one that a search follows. -/
theorem eq_ofPath_of_identity {written : Trail}
    (same : written.map Scalar.identity = (ofPath path).map Scalar.identity) :
    written = ofPath path := by
  have texts : (ofPath path).map Scalar.identity = ofPath path := by
    rw [ofPath, List.map_map]
    rfl
  rw [texts] at same
  rw [← same]
  refine (List.map_id written).symm.trans (List.map_congr_left fun key member => ?_)
  obtain ⟨word, named, -⟩ := isDotless_ofPath path _ (same ▸ List.mem_map_of_mem member)
  exact (Scalar.eq_text_of_identity named).trans named.symm

/-- A path is cut into no more parts than the trail has keys that it was written for. -/
theorem length_ofPath_dotted_le (dotless : trail.IsDotless) (nonempty : trail ≠ []) :
    (ofPath (dotted [] trail)).length ≤ trail.length := by
  induction trail with
  | nil => exact absurd rfl nonempty
  | cons key trail inductionHypothesis =>
    obtain ⟨word, rfl, clean⟩ := dotless key List.mem_cons_self
    have behind := IsDotless.tail dotless
    rw [dotted, List.isEmpty_nil, if_pos rfl, Scalar.display]
    by_cases empty : word = []
    · subst empty
      by_cases last : trail = []
      · subst last
        simp [dotted, ofPath, splitOn]
      · exact Nat.le_succ_of_le (inductionHypothesis behind last)
    · rw [ofPath, splitOn_dotted behind empty, splitOn_of_not_mem clean]
      simp

/-- A path leads back along the trail that it was written for exactly if the trail is spelled. -/
theorem ofPath_dotted_iff (nonempty : trail ≠ []) :
    ofPath (dotted [] trail) = trail ↔ trail.IsSpelled := by
  obtain ⟨key, trail, rfl⟩ := List.exists_cons_of_ne_nil nonempty
  constructor
  · intro back
    have dotless : IsDotless (key :: trail) := back ▸ isDotless_ofPath _
    refine ⟨dotless, fun empty => ?_⟩
    obtain rfl : key = .text [] := Option.some.inj empty
    by_cases last : trail = []
    · rw [last]
      rfl
    · have short := length_ofPath_dotted_le (IsDotless.tail dotless) last
      have whole := congrArg List.length back
      have same : dotted [] (.text [] :: trail) = dotted [] trail := rfl
      rw [same, List.length_cons] at whole
      omega
  · rintro ⟨dotless, only⟩
    obtain ⟨word, rfl, clean⟩ := dotless key List.mem_cons_self
    have behind := IsDotless.tail dotless
    by_cases empty : word = []
    · subst empty
      obtain rfl : trail = [] := by simpa using only rfl
      rfl
    · rw [dotted, List.isEmpty_nil, if_pos rfl, Scalar.display, ofPath,
        splitOn_dotted behind empty, splitOn_of_not_mem clean, List.map_append,
        behind.map_display]
      rfl

theorem IsSpelled.dotted_eq_joined (spelled : trail.IsSpelled) (nonempty : trail ≠ []) :
    dotted [] trail = trail.joined := by
  rw [← joined_ofPath (dotted [] trail), (ofPath_dotted_iff nonempty).mpr spelled]

end Trail

/-! ### Looking up -/

namespace Value

theorem follow?_eq_behind (parts : List Text) (value : Value) :
    value.follow? parts = behind (parts.map .text) (some value) := by
  induction parts generalizing value with
  | nil => simp [follow?]
  | cons part parts inductionHypothesis =>
    match value with
    | .map entries =>
      rw [follow?, List.map_cons, behind_cons, child_map]
      cases Mapping.get? (.text part) entries with
      | none => simp
      | some held => exact inductionHypothesis held
    | .scalar _ => simp [follow?, child]
    | .list _ => simp [follow?, child]
    | .set _ => simp [follow?, child]

end Value

namespace Mapping

variable {document first second : Mapping} {trail : Trail} {path : Text}

/-- A search finds a path if the document binds the trail that it follows. -/
theorem isSome_lookUp?_iff :
    ((Value.map document).lookUp? path).isSome = true ↔ document.Binds (Trail.ofPath path) := by
  rw [lookUp?, follow?_eq_behind]
  rfl

theorem binds_of_mem_trails (keyed : isKeyed document = true) (member : trail ∈ trails document) :
    document.Binds trail := isSome_at?_of_mem_trails keyed member

/-- A trail that a search follows is bound only if it is written in the document. -/
theorem mem_trails_of_binds_ofPath (bound : document.Binds (Trail.ofPath path)) :
    Trail.ofPath path ∈ trails document := by
  obtain ⟨key, rest, shape⟩ := List.exists_cons_of_ne_nil (Trail.ofPath_ne_nil path)
  rw [Binds, shape] at bound
  obtain ⟨written, member, same⟩ := mem_trails_of_isSome_at? bound
  rw [← shape] at same
  exact Trail.eq_ofPath_of_identity same ▸ member

/-- The trails of a document with plain keys are spelled. -/
theorem isSpelled_of_plain (keys : KeysIn Scalar.IsPlain document)
    (member : trail ∈ trails document) : trail.IsSpelled := by
  have plain := allowed_of_mem_trails keys member
  refine ⟨fun key held => (plain key held).isDotless, fun empty => ?_⟩
  obtain ⟨word, same, filled, -⟩ := plain _ (List.mem_of_mem_head? empty)
  exact absurd (Scalar.text.inj same).symm filled

/-- Whether a search in a document finds its key paths and no others. -/
def FindsKeyPaths (document : Mapping) : Prop :=
  ∀ path, ((Value.map document).lookUp? path).isSome = true ↔
    path ∈ (Value.map document).keyPaths

/-- A search finds the key paths and no others unless a trail that is not spelled gets in the way:
its path must be found all the same, and if it can be followed, the path that leads along it must
be listed all the same. -/
theorem findsKeyPaths_iff (keyed : isKeyed document = true) :
    document.FindsKeyPaths ↔ ∀ trail ∈ trails document, ¬trail.IsSpelled →
      ((Value.map document).lookUp? (trail.dotted [])).isSome = true ∧
        (trail.IsDotless → trail.joined ∈ (Value.map document).keyPaths) := by
  constructor
  · intro finds trail member _
    refine ⟨(finds _).mpr (mem_keyPaths.mpr ⟨trail, member, rfl⟩), fun dotless => ?_⟩
    rw [← finds, isSome_lookUp?_iff, Trail.ofPath_joined dotless (ne_nil_of_mem_trails member)]
    exact binds_of_mem_trails keyed member
  · intro others path
    constructor
    · intro found
      have member := mem_trails_of_binds_ofPath (isSome_lookUp?_iff.mp found)
      by_cases spelled : (Trail.ofPath path).IsSpelled
      · refine mem_keyPaths.mpr ⟨Trail.ofPath path, member, ?_⟩
        rw [spelled.dotted_eq_joined (Trail.ofPath_ne_nil path), Trail.joined_ofPath]
      · rw [← Trail.joined_ofPath path]
        exact (others _ member spelled).2 (Trail.isDotless_ofPath path)
    · intro listed
      obtain ⟨trail, member, rfl⟩ := mem_keyPaths.mp listed
      by_cases spelled : trail.IsSpelled
      · have back := (Trail.ofPath_dotted_iff (ne_nil_of_mem_trails member)).mpr spelled
        rw [isSome_lookUp?_iff, back]
        exact binds_of_mem_trails keyed member
      · exact (others trail member spelled).1

/-- Where all trails are spelled, documents with the same key paths have the same trails. -/
theorem binds_of_sameKeyPaths (secondKeyed : isKeyed second = true)
    (firstSpelled : ∀ trail ∈ trails first, trail.IsSpelled)
    (secondSpelled : ∀ trail ∈ trails second, trail.IsSpelled)
    (same : Config.SameKeyPaths first second) (bound : first.Binds trail) : second.Binds trail := by
  by_cases root : trail = []
  · subst root
    rfl
  obtain ⟨key, rest, rfl⟩ := List.exists_cons_of_ne_nil root
  obtain ⟨written, member, equal⟩ := mem_trails_of_isSome_at? bound
  obtain ⟨other, otherMember, alike⟩ :=
    mem_keyPaths.mp ((same _).mp (mem_keyPaths.mpr ⟨written, member, rfl⟩))
  obtain rfl : other = written := by
    rw [← (Trail.ofPath_dotted_iff (ne_nil_of_mem_trails otherMember)).mpr
      (secondSpelled other otherMember), alike,
      (Trail.ofPath_dotted_iff (ne_nil_of_mem_trails member)).mpr (firstSpelled written member)]
  have held := binds_of_mem_trails secondKeyed otherMember
  rwa [Binds, at?, behind_of_identity equal] at held

theorem mem_keyPaths_of_sameTrails (firstKeyed : isKeyed first = true)
    (firstSpelled : ∀ trail ∈ trails first, trail.IsSpelled)
    (same : Config.SameTrails first second) (listed : path ∈ (Value.map first).keyPaths) :
    path ∈ (Value.map second).keyPaths := by
  obtain ⟨trail, member, rfl⟩ := mem_keyPaths.mp listed
  have back :=
    (Trail.ofPath_dotted_iff (ne_nil_of_mem_trails member)).mpr (firstSpelled trail member)
  have held := binds_of_mem_trails firstKeyed member
  rw [← back, Binds, same] at held
  exact mem_keyPaths.mpr ⟨trail, back ▸ mem_trails_of_binds_ofPath held, rfl⟩

/-- Where all trails are spelled, the same key paths are the same trails. -/
theorem sameKeyPaths_iff_sameTrails (firstKeyed : isKeyed first = true)
    (secondKeyed : isKeyed second = true)
    (firstSpelled : ∀ trail ∈ trails first, trail.IsSpelled)
    (secondSpelled : ∀ trail ∈ trails second, trail.IsSpelled) :
    Config.SameKeyPaths first second ↔ Config.SameTrails first second := by
  constructor
  · intro same trail
    exact Bool.eq_iff_iff.mpr ⟨binds_of_sameKeyPaths secondKeyed firstSpelled secondSpelled same,
      binds_of_sameKeyPaths firstKeyed secondSpelled firstSpelled fun path => (same path).symm⟩
  · intro same path
    exact ⟨mem_keyPaths_of_sameTrails firstKeyed firstSpelled same,
      mem_keyPaths_of_sameTrails secondKeyed secondSpelled fun trail => (same trail).symm⟩

end Mapping

/-! ### The check of key paths -/

namespace Check

variable {tree : Tree} {template locals : Path} {first second : Mapping}

/-- A template and the local document that stands beside it, as the tree holds them. -/
structure HoldsPair (tree : Tree) (template locals : Path) (first second : Mapping) : Prop where
  stands : stands tree locals = .ok true
  template : document tree template = .ok first
  locals : document tree locals = .ok second

theorem subset_iff_filter_eq_nil {keys others : List Text} :
    keys.filter (!others.contains ·) = [] ↔ ∀ path ∈ keys, path ∈ others := by
  simp [List.filter_eq_nil_iff]

/-- The check passes if the key paths of both documents are the same, and only then. -/
theorem parity_passes_iff (pair : HoldsPair tree template locals first second) :
    (∃ findings, parity tree template locals = .ok findings ∧ findings.isOk = true) ↔
      Config.SameKeyPaths first second := by
  have missing : Config.SameKeyPaths first second ↔
      (Value.map first).keyPaths.filter (!(Value.map second).keyPaths.contains ·) = [] ∧
        (Value.map second).keyPaths.filter (!(Value.map first).keyPaths.contains ·) = [] := by
    rw [subset_iff_filter_eq_nil, subset_iff_filter_eq_nil, ← forall_and]
    exact forall_congr' fun path => iff_def
  rw [missing, parity, pair.stands]
  simp only [bind, Except.bind, pair.template, pair.locals, Bool.not_true, Bool.false_eq_true,
    if_false]
  generalize (Value.map first).keyPaths.filter _ = onlyFirst
  generalize (Value.map second).keyPaths.filter _ = onlySecond
  cases onlyFirst with
  | cons path paths => simp [Findings.isOk]
  | nil => cases onlySecond <;> simp [Findings.isOk]

/-- When the two uses of key paths agree. The path written for a trail leads back along it exactly
if the trail is spelled. A search finds the listed paths and no others exactly if this holds of the
trails that are not spelled, for which it holds only by chance: their paths must be found, and the
paths that lead along them must be listed. Two documents all of whose trails are spelled have the
same key paths, and pass the check of them, exactly if they have the same trails. -/
theorem keyPaths_agree_iff (firstKeyed : Mapping.isKeyed first = true)
    (secondKeyed : Mapping.isKeyed second = true) :
    (∀ trail : Trail, trail ≠ [] →
      (Trail.ofPath (trail.dotted []) = trail ↔ trail.IsSpelled)) ∧
    (first.FindsKeyPaths ↔ ∀ trail ∈ Mapping.trails first, ¬trail.IsSpelled →
      ((Value.map first).lookUp? (trail.dotted [])).isSome = true ∧
        (trail.IsDotless → trail.joined ∈ (Value.map first).keyPaths)) ∧
    ((∀ trail ∈ Mapping.trails first, trail.IsSpelled) →
      (∀ trail ∈ Mapping.trails second, trail.IsSpelled) →
      (Config.SameKeyPaths first second ↔ Config.SameTrails first second) ∧
      ∀ tree template locals, HoldsPair tree template locals first second →
        ((∃ findings, parity tree template locals = .ok findings ∧ findings.isOk = true) ↔
          Config.SameTrails first second)) := by
  refine ⟨fun trail nonempty => Trail.ofPath_dotted_iff nonempty,
    Mapping.findsKeyPaths_iff firstKeyed, ?_⟩
  intro firstSpelled secondSpelled
  have same := Mapping.sameKeyPaths_iff_sameTrails firstKeyed secondKeyed firstSpelled secondSpelled
  exact ⟨same, fun tree template locals pair => (parity_passes_iff pair).trans same⟩

/-- The pair of documents that two texts write. -/
theorem holdsPair_smallTree {written writtenLocals : Text}
    (templateHeld : (document (Config.Contributions.smallTree written writtenLocals)
      (.ofText "app-config.yaml".toList)).toOption = some first)
    (localsHeld : (document (Config.Contributions.smallTree written writtenLocals)
      (.ofText "app-config.local.yaml".toList)).toOption = some second) :
    HoldsPair (Config.Contributions.smallTree written writtenLocals)
      (.ofText "app-config.yaml".toList) (.ofText "app-config.local.yaml".toList) first second where
  stands := rfl
  template := eq_ok_of_toOption templateHeld
  locals := eq_ok_of_toOption localsHeld

/-- A document with the client of a provider. -/
def clientDocument (number : Int) : Mapping :=
  [(.text "auth".toList, .map [(.text "client".toList, .int number)])]

/-- The key paths of a small document of plain keys are found, and another one that passes the check
beside it has the same trails. -/
theorem keyPaths_agree_in_small_documents :
    Mapping.isKeyed (clientDocument 1) = true ∧ Mapping.isKeyed (clientDocument 2) = true ∧
      (clientDocument 1).FindsKeyPaths ∧
      Config.SameTrails (clientDocument 1) (clientDocument 2) := by
  have keyed (number : Int) : Mapping.isKeyed (clientDocument number) = true := rfl
  have spelled (number : Int) : ∀ trail ∈ Mapping.trails (clientDocument number),
      trail.IsSpelled := by
    refine fun trail => Mapping.isSpelled_of_plain ?_
    simp only [clientDocument, MadeOf, Mapping.MadeOf, and_true]
    exact ⟨⟨_, rfl, by decide, by decide⟩, _, rfl, by decide, by decide⟩
  have pair : HoldsPair (Config.Contributions.smallTree "auth:\n  client: 1\n".toList
      "auth:\n  client: 2\n".toList) _ _ (clientDocument 1) (clientDocument 2) :=
    holdsPair_smallTree (by decide +kernel) (by decide +kernel)
  obtain ⟨-, finds, agree⟩ := keyPaths_agree_iff (keyed 1) (keyed 2)
  refine ⟨keyed 1, keyed 2, finds.mpr fun trail member other => ?_, ?_⟩
  · exact absurd (spelled 1 trail member) other
  · obtain ⟨-, passes⟩ := agree (spelled 1) (spelled 2)
    exact (passes _ _ _ pair).mp ((parity_passes_iff pair).mpr fun path => Iff.rfl)

/-- A document with the number of a port for a key. -/
def portDocument : Mapping := [(.int 8080, .text "x".toList)]

/-- A document with a key inside a mapping. -/
def nestedDocument : Mapping := [(.text "a".toList, .map [(.text "b".toList, .int 1)])]

/-- A document with a dot in a key. -/
def dottedDocument : Mapping := [(.text "a".toList, .int 1), (.text "a.b".toList, .int 2)]

/-- The number of a port is listed as a key path and is not found; and a key with a dot is listed
like a key inside a mapping, so that documents with different trails pass the check. -/
theorem keyPaths_disagree :
    (Mapping.isKeyed portDocument = true ∧ ¬portDocument.FindsKeyPaths) ∧
    (∃ tree template locals findings,
      HoldsPair tree template locals nestedDocument dottedDocument ∧
        parity tree template locals = .ok findings ∧ findings.isOk = true) ∧
    ¬Config.SameTrails nestedDocument dottedDocument := by
  refine ⟨⟨rfl, fun finds => ?_⟩, ?_, fun same => ?_⟩
  · have listed : "8080".toList ∈ (Value.map portDocument).keyPaths :=
      mem_keyPaths.mpr ⟨[.int 8080], by decide, by decide⟩
    exact absurd ((finds _).mpr listed) (by decide)
  · have pair : HoldsPair (Config.Contributions.smallTree "a:\n  b: 1\n".toList
        "a: 1\na.b: 2\n".toList) _ _ nestedDocument dottedDocument :=
      holdsPair_smallTree (by decide +kernel) (by decide +kernel)
    obtain ⟨findings, passed⟩ := (parity_passes_iff pair).mpr fun path => Iff.rfl
    exact ⟨_, _, _, findings, pair, passed⟩
  · exact absurd (same [.text "a".toList, .text "b".toList]) (by decide)

end Check

end GuidedMigration
