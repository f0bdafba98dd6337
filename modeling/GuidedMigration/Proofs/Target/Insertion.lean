/-
This file shows what can be relied on when a fragment of code is inserted, whatever the fragment,
its kind and the content are: a place is found, the fragment is there afterwards and stays where it
is when it is inserted again, and the content has got one block of rows and is otherwise as before.
So the only refusal that an insertion into a file can meet is that the file is missing.

The file also compares the bytes before and after. The text that is read is left as it is but for
one run of characters, however its last line ends, and so are the bytes that the text has. These are
the bytes of the file only if no carriage return is among them: reading turns a carriage return into
a newline, writing does not bring it back, and so an insertion into a file with carriage returns
changes all of its lines.
-/
import GuidedMigration.Proofs.Code.Insertion
import GuidedMigration.Proofs.Migration.Edit
import GuidedMigration.Proofs.Text.Utf8
import GuidedMigration.Proofs.Tree.Copying
import GuidedMigration.Proofs.Tree.Reported

namespace GuidedMigration.Target

open Text Code

variable {path : Path} {tree : Tree} {why : Refusal}

/-- A text that must be there is refused only if nothing stands at its path. -/
theorem eq_of_existing_refused {missing : Refusal}
    (refused : (existing path missing tree).1 = .error (.refused why)) : why = missing := by
  rw [existing, bind_apply, Files.exists?, Files.ask] at refused
  cases found : tree.exists? path with
  | error fault => simp [found] at refused
  | ok there =>
    rw [found] at refused
    cases there with
    | false =>
      have same : (.error (.refused missing) : Except Failure Text) = .error (.refused why) :=
        refused
      injection same with same
      injection same with same
      exact same.symm
    | true =>
      have read : tree.read path = .error (.refused why) := refused
      unfold Tree.read at read
      split at read
      · simp at read
      · split at read <;> simp at read

/-- An insertion into a file is refused only if the file is missing. -/
theorem eq_of_insert_refused {fragment : Text} {primitive : Primitive}
    (refused : (insert path fragment primitive tree).1 = .error (.refused why)) :
    why = .targetMissing path := by
  unfold insert insertAs at refused
  rcases failed_of_bind refused with missing | ⟨old, between, -, refused⟩
  · exact eq_of_existing_refused missing
  · split at refused
    · cases refused
    · obtain ⟨insertion, -, made⟩ := exists_inserted primitive path.name old fragment
      rw [Files.bind_mk_apply] at refused
      dsimp only at refused
      rw [made, Files.bind_mk_apply] at refused
      rcases failed_of_bind refused with refused | ⟨-, between, -, refused⟩
      · obtain ⟨fault, other⟩ := Files.FailsByFault.write path insertion.content between _ refused
        cases other
      · cases refused

/-- A fragment of any kind goes into any content: a place is found, the fragment is held afterwards,
a second insertion leaves the content as it is, and unless the fragment was held before, one block
of rows is added. That it is not found afterwards, or that there is no place for it, is never a
reason to refuse it. -/
theorem inserts_one_block (primitive : Primitive) (content fragment : Text) :
    ∃ insertion, primitive.insert? content fragment = some insertion ∧
      contains insertion.content fragment = true ∧
      (∃ again, primitive.insert? insertion.content fragment = some again ∧
        again.content = insertion.content ∧ again.applied = false ∧
        again.strategy = "present".toList) ∧
      (contains content fragment = true →
        insertion.content = content ∧ insertion.applied = false) ∧
      (contains content fragment = false → insertion.applied = true ∧
        Widens fragment (splitOn '\n' content) (splitOn '\n' insertion.content) ∧
        Widens fragment (lines content) (lines insertion.content)) ∧
      ∀ path tree why, (insert path fragment primitive tree).1 = .error (.refused why) →
        why = .targetMissing path := by
  obtain ⟨insertion, inserted⟩ := primitive.exists_insert? content fragment
  have held : contains insertion.content fragment = true := contains_of_insert? inserted
  have present {content : Text} (held : contains content fragment = true) :
      primitive.insert? content fragment = some ⟨content, none⟩ := by
    rw [Primitive.insert?, Code.insert?, if_pos held]
  refine ⟨insertion, inserted, held, ⟨_, present held, rfl, rfl, rfl⟩, fun before => ?_,
    fun missing => ?_, fun path tree why => eq_of_insert_refused⟩
  · rw [present before] at inserted
    obtain rfl := Option.some.inj inserted
    exact ⟨rfl, rfl⟩
  · obtain ⟨above, block, below, -, -, -, -, applied, -⟩ := exists_of_insert? missing inserted
    exact ⟨applied, widens_splitOn missing inserted, widens_lines missing inserted⟩

end GuidedMigration.Target

/-! ### One run of bytes -/

namespace GuidedMigration

/-- Whether a list is another one with one run of further items in it. -/
def InsertsRun {Item : Type} (old new : List Item) : Prop :=
  ∃ before run behind, old = before ++ behind ∧ new = before ++ run ++ behind

theorem InsertsRun.subset {Item : Type} {old new : List Item} (inserts : InsertsRun old new) :
    old ⊆ new := by
  obtain ⟨before, run, behind, rfl, rfl⟩ := inserts
  intro item member
  rcases List.mem_append.mp member with above | below
  · simp [above]
  · simp [below]

theorem InsertsRun.encode {old new : Text} (inserts : InsertsRun old new) :
    InsertsRun (Utf8.encode old) (Utf8.encode new) := by
  obtain ⟨before, run, behind, rfl, rfl⟩ := inserts
  refine ⟨Utf8.encode before, Utf8.encode run, Utf8.encode behind, ?_, ?_⟩ <;>
    simp only [Utf8.encode, List.flatMap_append]

/-! ### Carriage returns -/

namespace Utf8

/-- A byte of a character below 128 is all of it: the bytes of longer forms are larger. -/
theorem toNat_of_mem_encodeChar {byte : UInt8} {char : Char} (member : byte ∈ encodeChar char)
    (small : byte.toNat < 0x80) : byte.toNat = char.toNat := by
  have valid : char.toNat < 0xD800 ∨ 0xDFFF < char.toNat ∧ char.toNat < 0x110000 := char.valid
  have large {code : Nat} (lower : 0x80 ≤ code) (upper : code < 256)
      (same : byte = UInt8.ofNat code) : byte.toNat = char.toNat := by
    rw [same, toNat_ofNat_of_lt upper] at small
    omega
  rw [encodeChar] at member
  split at member
  · rw [List.mem_singleton.mp member, toNat_ofNat_of_lt (by omega)]
  · split at member
    · simp only [List.mem_cons, List.not_mem_nil, or_false] at member
      rcases member with lead | last
      · exact large (by omega) (by omega) lead
      · exact large (by omega) (by omega) last
    · split at member
      · simp only [List.mem_cons, List.not_mem_nil, or_false] at member
        rcases member with lead | next | last
        · exact large (by omega) (by omega) lead
        · exact large (by omega) (by omega) next
        · exact large (by omega) (by omega) last
      · simp only [List.mem_cons, List.not_mem_nil, or_false] at member
        rcases member with lead | second | third | last
        · exact large (by omega) (by omega) lead
        · exact large (by omega) (by omega) second
        · exact large (by omega) (by omega) third
        · exact large (by omega) (by omega) last

theorem carriage_mem_encode {text : Text} : 0x0D ∈ encode text ↔ '\r' ∈ text := by
  rw [encode, List.mem_flatMap]
  constructor
  · rintro ⟨char, among, member⟩
    have same : '\r' = char := Char.toNat_inj.mp (toNat_of_mem_encodeChar member (by decide))
    rwa [same]
  · intro among
    exact ⟨'\r', among, by decide⟩

end Utf8

/-! ### The text after an insertion -/

namespace Code

open Text

variable {content fragment : Text} {chain : List Locator} {pad : Bool} {insertion : Insertion}
  {mark : Char}

/-- The text is left as it is but for one run of characters. Where the block stands last and the
last line is not closed, the run begins with the newline that closes it. -/
theorem insertsRun_of_insert? (missing : contains content fragment = false)
    (inserted : insert? content fragment chain pad = some insertion) :
    InsertsRun content insertion.content := by
  obtain ⟨above, block, below, rows, -, -, some', -, content'⟩ :=
    exists_of_insert? missing inserted
  rw [content']
  rcases contentRows_cases content with ⟨ends, made, -⟩ | ⟨ends, made, -⟩
  · rw [rows, closed_append] at made
    refine ⟨closed above, closed block, closed below, made, ?_⟩
    rw [ends, if_pos (by simp), joinLines_concat_newline (by simp [some']), closed_append,
      closed_append]
  · by_cases empty : content = []
    · exact ⟨[], _, [], empty, by simp only [List.nil_append, List.append_nil]; rfl⟩
    · rw [if_neg (by simp [empty, ends]), List.append_nil]
      by_cases last : below = []
      · rw [rows, last, List.append_nil] at made
        have more : above ≠ [] := by
          rintro rfl
          exact empty made
        refine ⟨joinLines above, '\n' :: joinLines block, [], ?_, ?_⟩
        · rw [made, List.append_nil]
        · rw [last, List.append_nil, List.append_nil, joinLines_append some',
            ← joinLines_concat_newline more, List.append_assoc, List.singleton_append]
      · rw [rows, joinLines_append last] at made
        refine ⟨closed above, closed block, joinLines below, made, ?_⟩
        rw [joinLines_append last, closed_append]

theorem mem_joinLines {rows : List Text} (member : mark ∈ joinLines rows) :
    mark = '\n' ∨ ∃ row ∈ rows, mark ∈ row := by
  induction rows with
  | nil => cases member
  | cons row rows inductionHypothesis =>
    by_cases more : rows = []
    · rw [more] at member
      exact .inr ⟨row, List.mem_cons_self, member⟩
    · rw [joinLines_cons more, List.mem_append, List.mem_cons] at member
      rcases member with own | newline | behind
      · exact .inr ⟨row, List.mem_cons_self, own⟩
      · exact .inl newline
      · rcases inductionHypothesis behind with newline | ⟨other, among, inside⟩
        · exact .inl newline
        · exact .inr ⟨other, List.mem_cons_of_mem row among, inside⟩

theorem mem_of_mem_splitOn {text row : Text} (among : row ∈ splitOn '\n' text)
    (member : mark ∈ row) : mark ∈ text := by
  obtain ⟨above, below, cut⟩ := List.append_of_mem among
  have part : joinLines [row] <:+: joinLines (splitOn '\n' text) :=
    infix_joinLines ⟨above, below, by rw [cut, List.append_assoc]; rfl⟩
  rw [joinLines_splitOn] at part
  exact part.subset member

theorem mem_of_mem_contentRows {row : Text} (among : row ∈ contentRows content)
    (member : mark ∈ row) : mark ∈ content := by
  refine mem_of_mem_splitOn ?_ member
  rw [contentRows] at among
  split at among
  · exact List.dropLast_subset _ among
  · exact among

/-- A row of a rendered fragment has no characters but those of the fragment and the indentation. -/
theorem mem_of_mem_rendered {indent row : Text} (among : row ∈ rendered fragment indent)
    (member : mark ∈ row) : mark ∈ indent ∨ mark ∈ fragment := by
  obtain ⟨bare, listed, rfl⟩ := List.mem_map.mp among
  split at member
  · cases member
  · refine (List.mem_append.mp member).imp id fun inside => ?_
    rw [splitOn_dedent] at listed
    obtain ⟨old, kept, rfl⟩ := List.mem_map.mp listed
    obtain ⟨left, right, -, -, whole⟩ := exists_trimWhile (· = '\n') fragment
    have own : mark ∈ old := by
      split at inside
      · cases inside
      · exact List.mem_of_mem_drop inside
    rw [whole]
    simp [mem_of_mem_splitOn kept own]

theorem IsIndentAmong.mem {rows : List Text} {indent : Text} (among : IsIndentAmong rows indent)
    (member : mark ∈ indent) : mark = ' ' ∨ ∃ row ∈ rows, mark ∈ row := by
  rcases among with rfl | ⟨row, listed, rfl | rfl⟩
  · cases member
  · exact .inr ⟨row, listed, List.takeWhile_subset _ member⟩
  · rcases List.mem_append.mp member with own | deeper
    · exact .inr ⟨row, listed, List.takeWhile_subset _ own⟩
    · exact .inl (by simpa using deeper)

/-- An insertion brings no characters but those of the fragment and of the content, spaces and
newlines. -/
theorem mem_of_insert? (missing : contains content fragment = false)
    (inserted : insert? content fragment chain pad = some insertion)
    (member : mark ∈ insertion.content) :
    mark = '\n' ∨ mark = ' ' ∨ mark ∈ fragment ∨ mark ∈ content := by
  obtain ⟨locator, anchor, found, -, content'⟩ := insert?_of_not_contains missing inserted
  obtain ⟨above, below, spliced⟩ := splice_eq (contentRows content) anchor fragment pad
  have padded {wanted : Bool} {row : Text} (among : row ∈ padding wanted) : mark ∉ row := by
    cases wanted <;> simp_all [padding]
  rw [content', List.mem_append] at member
  rcases member with joined | ending
  · rcases mem_joinLines joined with newline | ⟨row, among, inside⟩
    · exact .inl newline
    · rw [spliced] at among
      simp only [List.mem_append] at among
      rcases among with (before | (upper | own) | lower) | behind
      · exact .inr (.inr (.inr (mem_of_mem_contentRows (List.mem_of_mem_take before) inside)))
      · exact absurd inside (padded upper)
      · rcases mem_of_mem_rendered own inside with indent | fragment'
        · rcases (isIndentAmong_firstAnchor? found).mem indent with space | ⟨old, listed, own⟩
          · exact .inr (.inl space)
          · exact .inr (.inr (.inr (mem_of_mem_contentRows listed own)))
        · exact .inr (.inr (.inl fragment'))
      · exact absurd inside (padded lower)
      · exact .inr (.inr (.inr (mem_of_mem_contentRows (List.mem_of_mem_drop behind) inside)))
  · split at ending
    · exact .inl (by simpa using ending)
    · cases ending

end Code

/-! ### The file after an insertion -/

namespace Target

open Code Text GuidedMigration.Tree

variable {path : Path} {tree : Tree} {old : Utf8.Bytes} {text : Text}

theorem held_of_bytes (read : tree.bytes path = .ok old) :
    tree.standing path = .file ∧ tree.find? (spelled path) = some (.file old) := by
  have stands := Files.standing_of_bytes read
  obtain ⟨reached, other, held⟩ := standing_eq_file.mp stands
  simp only [Tree.bytes, reached, held, bind, Except.bind, Except.ok.injEq] at read
  exact ⟨stands, read ▸ held⟩

/-- What an insertion does to a file that is a text: nothing if the text holds the fragment, and
otherwise the text with the fragment is written. -/
theorem insertAs_of_bytes (fragment name : Text) (primitive : Primitive)
    (read : tree.bytes path = .ok old) (valid : Utf8.decode old = .ok text) :
    contains (unifyNewlines text) fragment = true ∧ (∃ outcome, outcome.status = .skipped ∧
        insertAs path fragment name (.ok primitive) tree = (.ok outcome, tree)) ∨
      contains (unifyNewlines text) fragment = false ∧ ∃ outcome insertion,
        primitive.insert? (unifyNewlines text) fragment = some insertion ∧
        outcome.status = .applied ∧ insertAs path fragment name (.ok primitive) tree =
          (.ok outcome, tree.put (spelled path) (.file (Utf8.encode insertion.content))) := by
  obtain ⟨stands, held⟩ := held_of_bytes read
  have seen : textOf old = .ok (unifyNewlines text) := by rw [textOf, valid]
  rw [insertAs, bind_apply, existing_of_file stands held, seen]
  dsimp only
  cases contained : contains (unifyNewlines text) fragment with
  | true => exact .inl ⟨rfl, _, rfl, rfl⟩
  | false =>
    obtain ⟨insertion, found, made⟩ :=
      exists_inserted primitive path.name (unifyNewlines text) fragment
    refine .inr ⟨rfl, ⟨path.toText, name, insertion.strategy, .applied,
      changeLabel (unifyNewlines text) insertion.content⟩, insertion, found, rfl, ?_⟩
    rw [if_neg Bool.false_ne_true, Files.bind_mk_apply]
    dsimp only
    rw [made, Files.bind_mk_apply]
    dsimp only
    rw [bind_apply, Files.write_of_file stands]
    rfl

/-- Whatever fragment of whatever kind goes into a file that is a text: the file is written if and
only if the fragment was missing, and then what it would have been without carriage returns got one
run of bytes. So a file without carriage returns is as before but for that run, and a file with
some is not, unless the fragment itself brings one. -/
theorem inserts_run_iff_no_carriage (fragment name : Text) (primitive : Primitive)
    (read : tree.bytes path = .ok old) (valid : Utf8.decode old = .ok text) :
    ∃ outcome new, insertAs path fragment name (.ok primitive) tree =
        (.ok outcome, tree.put (spelled path) (.file new)) ∧
      (outcome.status = .applied ↔ contains (unifyNewlines text) fragment = false) ∧
      (outcome.status ≠ .applied → new = old) ∧
      (outcome.status = .applied → InsertsRun (Utf8.encode (unifyNewlines text)) new ∧
        (0x0D ∉ old → InsertsRun old new) ∧
        ('\r' ∉ fragment → InsertsRun old new → 0x0D ∉ old)) := by
  obtain ⟨-, held⟩ := held_of_bytes read
  have whole : Utf8.encode text = old := Utf8.encode_of_decode valid
  rcases insertAs_of_bytes fragment name primitive read valid with
    ⟨contained, outcome, skipped, done⟩ | ⟨missing, outcome, insertion, found, applied, done⟩
  · refine ⟨outcome, old, ?_, ?_, fun _ => rfl, fun applied => ?_⟩
    · rw [done, put_of_find? held]
    · simp [skipped, contained]
    · simp [skipped] at applied
  · have run : InsertsRun (unifyNewlines text) insertion.content :=
      insertsRun_of_insert? missing found
    refine ⟨outcome, _, done, by simp [applied, missing], fun other => absurd applied other,
      fun _ => ⟨run.encode, fun clean => ?_, fun cleanFragment among => ?_⟩⟩
    · rw [← whole, Utf8.carriage_mem_encode] at clean
      rw [unifyNewlines_of_not_mem clean] at run
      rw [← whole]
      exact run.encode
    · intro carriage
      have kept := Utf8.carriage_mem_encode.mp (among.subset carriage)
      rcases mem_of_insert? missing found kept with newline | space | inside | inside
      · exact absurd newline (by decide)
      · exact absurd space (by decide)
      · exact cleanFragment inside
      · exact not_mem_unifyNewlines text inside

/-- A source file with an import statement and a call, and what ends their lines. -/
def twoLineSource (ending : String) : Utf8.Bytes :=
  Utf8.encode ("import a from 'a';" ++ ending ++ "run();" ++ ending).toList

/-- A tree in which that is the only file. -/
def twoLineTree (ending : String) : Tree :=
  ⟨[([[], "x.ts".toList], .file (twoLineSource ending))]⟩

/-- The path of the file. -/
def twoLinePath : Path := .ofText "x.ts".toList

/-- The import statement that goes into the file. -/
def secondImport : Text := "import b from 'b';".toList

/-- An import statement goes between two lines that end in newlines. -/
theorem inserts_run_between_newlines :
    (twoLineTree "\n").bytes twoLinePath = .ok (twoLineSource "\n") ∧ ∃ outcome new,
      insertAs twoLinePath secondImport "import".toList (.ok .importStatement) (twoLineTree "\n") =
        (.ok outcome, (twoLineTree "\n").put (spelled twoLinePath) (.file new)) ∧
      outcome.status = .applied ∧ InsertsRun (twoLineSource "\n") new := by
  have read : (twoLineTree "\n").bytes twoLinePath = .ok (twoLineSource "\n") := by rfl
  refine ⟨read, ?_⟩
  obtain ⟨outcome, new, done, missing, -, run⟩ := inserts_run_iff_no_carriage secondImport
    "import".toList .importStatement read (Utf8.decode_encode _)
  have applied : outcome.status = .applied := missing.mpr (by decide +kernel)
  exact ⟨outcome, new, done, applied, (run applied).2.1 (by decide +kernel)⟩

/-- Where the lines end in carriage returns and newlines, the insertion is reported as one added
line, and no line ends as it did. -/
theorem insertion_drops_carriages :
    let (result, after) :=
      insertAs twoLinePath secondImport "import".toList (.ok .importStatement) (twoLineTree "\r\n")
    result.toOption.map (·.status) = some .applied ∧
      result.toOption.map (·.detail) = some "+1 -0".toList ∧
      ∃ new, (after.bytes twoLinePath).toOption = some new ∧
        ¬ InsertsRun (twoLineSource "\r\n") new := by
  refine ⟨by decide +kernel, by decide +kernel,
    Utf8.encode "import a from 'a';\nimport b from 'b';\nrun();\n".toList, by decide +kernel,
    fun run => ?_⟩
  have carriage : 0x0D ∈ twoLineSource "\r\n" := by decide +kernel
  exact absurd (run.subset carriage) (by decide +kernel)

end Target

end GuidedMigration
