/-
This file says when deleting the imports from a module is exact. The parts on the way from a line
that starts with `import` to the first part that names the module go together, unless a semicolon
stands between them; so an import that another one precedes on its line stays, and an import from
another module that no semicolon closes goes with the next import from this one.
-/
import GuidedMigration.Proofs.Code.ImportSweep

namespace GuidedMigration.Code

open Text

/-! ### The way to a module -/

/-- Whether a line starts behind parts. -/
def lineStarts (left : List Part) : Bool := left.getLast?.all Part.endsLine

/-- The place between parts lies on the way from a line that starts with `import` to the first part
that names a module behind `from`, with no semicolon on the way. -/
def OnWay (name : Text) (left right : List Part) : Prop :=
  ∃ start passed, left = start ++ passed ∧ lineStarts start = true ∧
    (passed ++ right).head?.any Part.opens = true ∧ (∀ part ∈ passed, part.names name = false) ∧
    reaches name (passed ++ right) = true

/-- A line starts at the place between parts, or what stands before the place on its line is on the
way to the module. -/
def Exposed (name : Text) (left right : List Part) : Prop :=
  lineStarts left = true ∨ ∃ start last, left = start ++ [last] ∧ last.names name = true ∧
    OnWay name start (last :: right)

/-- A source file from which the imports from a module can be removed by themselves. -/
structure Separate (name : Text) (parts : List Part) : Prop where
  /-- Every import from the module is on the way to it, or it is one for effects alone in front of
  which its line is deleted. -/
  found : ∀ left part right, parts = left ++ part :: right → part.imports name = true →
    OnWay name left (part :: right) ∨ part.runs name = true ∧ Exposed name left (part :: right)
  /-- Nothing else is on the way to the module. -/
  alone : ∀ left part right, parts = left ++ part :: right → OnWay name left (part :: right) →
    part.imports name = true

variable {name : Text} {part : Part} {parts left right : List Part}

theorem lineStarts_concat (left : List Part) (part : Part) :
    lineStarts (left ++ [part]) = part.endsLine := by
  rw [lineStarts, List.getLast?_concat, Option.all_some]

/-- Behind a part, the way begins at a line, or it goes on. -/
theorem onWay_concat (name : Text) (left : List Part) (part : Part) (right : List Part) :
    OnWay name (left ++ [part]) right ↔
      part.endsLine = true ∧ right.head?.any Part.opens = true ∧ reaches name right = true ∨
        OnWay name left (part :: right) ∧ part.names name = false := by
  constructor
  · rintro ⟨start, passed, split, starts, opens, others, reached⟩
    rcases List.eq_nil_or_concat passed with rfl | ⟨passed, last, rfl⟩
    · rw [List.append_nil] at split
      rw [← split, lineStarts_concat] at starts
      exact .inl ⟨starts, opens, reached⟩
    · rw [List.concat_eq_append, ← List.append_assoc] at split
      obtain ⟨rfl, same⟩ := List.append_inj' split rfl
      obtain rfl : part = last := (List.cons.inj same).1
      rw [List.concat_eq_append] at others opens reached
      rw [List.append_assoc] at opens reached
      exact .inr ⟨⟨start, passed, rfl, starts, opens,
        fun other member => others other (List.mem_append_left _ member), reached⟩,
        others part (List.mem_append_right _ List.mem_cons_self)⟩
  · rintro (⟨ends, opens, reached⟩ | ⟨⟨start, passed, rfl, starts, opens, others, reached⟩, other⟩)
    · exact ⟨left ++ [part], [], (List.append_nil _).symm,
        (lineStarts_concat left part).trans ends, opens,
        fun _ member => absurd member List.not_mem_nil, reached⟩
    · refine ⟨start, passed ++ [part], List.append_assoc _ _ _, starts, ?_, ?_, ?_⟩
      · rwa [List.append_assoc]
      · intro next member
        rcases List.mem_append.mp member with inPassed | isPart
        · exact others next inPassed
        · exact List.mem_singleton.mp isPart ▸ other
      · rwa [List.append_assoc]

theorem Part.imports_of_runs (runs : part.runs name = true) : part.imports name = true := by
  cases part with
  | code => exact absurd runs Bool.false_ne_true
  | named => exact absurd runs Bool.false_ne_true
  | run margin source => exact (Bool.and_eq_true_iff.mp runs).1

theorem Part.opens_of_imports (imports : part.imports name = true)
    (names : part.names name = true) : part.opens = true := by
  cases part with
  | code => exact absurd names Bool.false_ne_true
  | named => exact (Bool.and_eq_true_iff.mp imports).1
  | run => exact absurd names Bool.false_ne_true

theorem Part.imports_of_names (opens : part.opens = true) (names : part.names name = true) :
    part.imports name = true := by
  cases part with
  | code => exact absurd names Bool.false_ne_true
  | named lead source =>
    exact Bool.and_eq_true_iff.mpr ⟨opens, (Bool.and_eq_true_iff.mp names).1⟩
  | run => exact absurd names Bool.false_ne_true

/-- The way to the module ends at a part that holds a semicolon. -/
theorem Part.names_of_reaches (semicolon : ';' ∈ part.text)
    (reached : reaches name (part :: right) = true) : part.names name = true := by
  rw [reaches, Bool.and_eq_true, Bool.not_eq_true', Bool.or_eq_true, Bool.and_eq_true,
    Bool.not_eq_true'] at reached
  obtain ⟨clear, names | ⟨clear', -⟩⟩ := reached
  · exact names
  · rcases List.mem_append.mp semicolon with inLead | inNaming
    · exact absurd (clear.symm.trans (List.contains_iff_mem.mpr inLead)) Bool.false_ne_true
    · exact absurd (clear'.symm.trans (List.contains_iff_mem.mpr inNaming)) Bool.false_ne_true

/-! ### What survives -/

/-- A part that is gone matches a filter that drops it, since nothing else can stand for it. -/
theorem eq_filter_cons_of_gone {survivors : List Part} {keep : Part → Bool}
    (sublist : survivors.Sublist right) :
    survivors = (part :: right).filter keep ↔
      keep part = false ∧ survivors = right.filter keep := by
  cases keeps : keep part with
  | false =>
    rw [List.filter_cons_of_neg (by simp [keeps])]
    exact (and_iff_right rfl).symm
  | true =>
    rw [List.filter_cons_of_pos keeps]
    refine iff_of_false (fun same => ?_) fun both => Bool.false_ne_true both.1.symm
    have fewer := (sublist.filter keep).length_le
    rw [same, List.filter_cons_of_pos keeps, List.filter_filter, List.length_cons] at fewer
    simp only [Bool.and_self] at fewer
    exact Nat.not_succ_le_self _ fewer

theorem eq_filter_cons_of_kept {survivors : List Part} {keep : Part → Bool} :
    part :: survivors = (part :: right).filter keep ↔
      keep part = true ∧ survivors = right.filter keep := by
  cases keeps : keep part with
  | true =>
    rw [List.filter_cons_of_pos keeps, List.cons_inj_right]
    exact (and_iff_right rfl).symm
  | false =>
    rw [List.filter_cons_of_neg (by simp [keeps])]
    refine iff_of_false (fun same => ?_) fun both => Bool.false_ne_true both.1
    have member : part ∈ right.filter keep := same ▸ List.mem_cons_self
    exact Bool.false_ne_true (keeps.symm.trans (List.mem_filter.mp member).2)

/-- A part goes if it is on the way to the module, or it imports the module for effects and its line
is deleted in front of it. -/
def Goes (name : Text) (left : List Part) (part : Part) (right : List Part) : Prop :=
  OnWay name left (part :: right) ∨ part.runs name = true ∧ Exposed name left (part :: right)

/-- On the way or where it is deleted in front of a place: what the next place takes over. -/
theorem onWay_or_exposed_concat (name : Text) (left : List Part) (part : Part)
    (right : List Part) :
    OnWay name (left ++ [part]) right ∨ Exposed name (left ++ [part]) right ↔
      part.endsLine = true ∨ OnWay name left (part :: right) := by
  rw [onWay_concat, Exposed, lineStarts_concat]
  constructor
  · rintro ((⟨ends, -⟩ | ⟨way, -⟩) | ends | ⟨start, last, split, -, way⟩)
    · exact .inl ends
    · exact .inr way
    · exact .inl ends
    · obtain ⟨rfl, same⟩ := List.append_inj' split rfl
      obtain rfl : part = last := (List.cons.inj same).1
      exact .inr way
  · rintro (ends | way)
    · exact .inr (.inl ends)
    · cases names : part.names name with
      | true => exact .inr (.inr ⟨left, part, rfl, names, way⟩)
      | false => exact .inl (.inr ⟨way, rfl⟩)

/-- What holds of every part of a file holds of the first and of the others. -/
theorem forall_split_cons (holds : List Part → Part → List Part → Prop) :
    (∀ before next behind, part :: right = before ++ next :: behind →
        holds (left ++ before) next behind) ↔
      holds left part right ∧ ∀ before next behind, right = before ++ next :: behind →
        holds (left ++ [part] ++ before) next behind := by
  constructor
  · intro all
    refine ⟨?_, fun before next behind split => ?_⟩
    · have first := all [] part right rfl
      rwa [List.append_nil] at first
    · rw [List.append_assoc]
      exact all (part :: before) next behind (split ▸ rfl)
  · rintro ⟨first, others⟩ before next behind split
    cases before with
    | nil =>
      obtain ⟨rfl, rfl⟩ := List.cons.inj split
      rwa [List.append_nil]
    | cons head before =>
      obtain ⟨rfl, same⟩ := List.cons.inj split
      have other := others before next behind same
      rwa [List.append_assoc] at other

/-- The survivors behind `left` are those that are no imports just if the imports are the parts that
go. The flags of the sweep and of the strike say what stands before. -/
theorem strike_sweep_eq_filter_iff (left : List Part) (within exposed : Bool)
    (way : OnWay name left parts ↔ within = true ∨
      lineStarts left = true ∧ parts.head?.any Part.opens = true ∧ reaches name parts = true)
    (shown : exposed = true ↔ OnWay name left parts ∨ Exposed name left parts) :
    strike name exposed (sweep name within (lineStarts left) parts) =
        parts.filter (!·.imports name) ↔
      ∀ before part right, parts = before ++ part :: right →
        (Goes name (left ++ before) part right ↔ part.imports name = true) := by
  induction parts generalizing left within exposed with
  | nil => exact iff_of_true rfl fun before part right split => absurd split (by simp)
  | cons part right inductionHypothesis =>
    rw [forall_split_cons fun left part right =>
      Goes name left part right ↔ part.imports name = true]
    have here : (within || lineStarts left && part.opens && reaches name (part :: right)) = true ↔
        OnWay name left (part :: right) := by
      rw [way, List.head?_cons, Option.any_some, Bool.or_eq_true, Bool.and_eq_true,
        Bool.and_eq_true, and_assoc]
    have next := onWay_concat name left part right
    have nextShown := onWay_or_exposed_concat name left part right
    rw [sweep, ← lineStarts_concat left part]
    rw [← lineStarts_concat left part] at next nextShown
    by_cases onWay : OnWay name left (part :: right)
    · have goes : Goes name left part right := .inl onWay
      rw [if_pos (here.mpr onWay), eq_filter_cons_of_gone
        ((strike_sublist name _ _).trans (sweep_sublist name _ _ right)),
        inductionHypothesis _ _ _ ?_ ?_]
      · simp [goes]
      · rw [next]
        simp [onWay, or_comm]
      · rw [nextShown, shown]
        simp [onWay]
    · have further := inductionHypothesis (left ++ [part]) false (lineStarts (left ++ [part]))
        (by rw [next]; simp [onWay]) (by rw [nextShown]; simp [onWay])
      have goes : Goes name left part right ↔ (exposed && part.runs name) = true := by
        rw [Goes, Bool.and_eq_true, shown]
        simp [onWay, and_comm]
      have sublist := (strike_sublist name (lineStarts (left ++ [part])) _).trans
        (sweep_sublist name false (lineStarts (left ++ [part])) right)
      rw [if_neg (fun holds => onWay (here.mp holds)), strike, ← lineStarts_concat left part, goes]
      cases struck : exposed && part.runs name with
      | true =>
        rw [if_pos rfl, eq_filter_cons_of_gone sublist, further]
        simp
      | false =>
        rw [if_neg Bool.false_ne_true, eq_filter_cons_of_kept, further]
        simp

/-- Just the imports from a module are deleted if and only if the file is separate. -/
theorem survivors_eq_filter_iff :
    survivors name parts = parts.filter (!·.imports name) ↔ Separate name parts := by
  have start : OnWay name [] parts ↔ false = true ∨
      lineStarts [] = true ∧ parts.head?.any Part.opens = true ∧ reaches name parts = true := by
    constructor
    · rintro ⟨start, passed, split, -, opens, -, reached⟩
      obtain ⟨rfl, rfl⟩ := List.append_eq_nil_iff.mp split.symm
      exact .inr ⟨rfl, opens, reached⟩
    · rintro (never | ⟨starts, opens, reached⟩)
      · exact absurd never Bool.false_ne_true
      · exact ⟨[], [], rfl, starts, opens, fun _ member => absurd member List.not_mem_nil, reached⟩
  have goes := strike_sweep_eq_filter_iff [] false true start (iff_of_true rfl (.inr (.inl rfl)))
  refine goes.trans ⟨fun exact => ⟨?_, ?_⟩, ?_⟩
  · exact fun left part right split imports => (exact left part right split).mpr imports
  · exact fun left part right split onWay => (exact left part right split).mp (.inl onWay)
  · rintro ⟨found, alone⟩ left part right split
    refine ⟨?_, found left part right split⟩
    rintro (onWay | ⟨runs, -⟩)
    · exact alone left part right split onWay
    · exact Part.imports_of_runs runs

/-! ### One import on a line -/

/-- Whether, from a place on where a line starts or not, every import from a module starts a line
and has the module behind a blank and no semicolon before it, and every other part that starts with
`import` holds a semicolon. -/
def inLines (name : Text) : Bool → List Part → Bool
  | _, [] => true
  | startsLine, part :: right =>
    (!part.imports name || startsLine &&
      (part.names name && !part.lead.contains ';' || part.runs name)) &&
    (!part.opens || part.names name || part.text.contains ';') &&
    inLines name part.endsLine right

theorem inLines_iff (left : List Part) :
    inLines name (lineStarts left) parts = true ↔
      ∀ before part right, parts = before ++ part :: right →
        (part.imports name = true → lineStarts (left ++ before) = true ∧
          (part.names name = true ∧ part.lead.contains ';' = false ∨ part.runs name = true)) ∧
        (part.opens = true → part.names name = true ∨ ';' ∈ part.text) := by
  induction parts generalizing left with
  | nil => exact iff_of_true rfl fun before part right split => absurd split (by simp)
  | cons part right inductionHypothesis =>
    rw [forall_split_cons fun left part _ =>
      (part.imports name = true → lineStarts left = true ∧
        (part.names name = true ∧ part.lead.contains ';' = false ∨ part.runs name = true)) ∧
      (part.opens = true → part.names name = true ∨ ';' ∈ part.text),
      ← inductionHypothesis, lineStarts_concat, inLines]
    cases part.imports name <;> cases part.opens <;> simp

/-- A file with one import on a line, in which semicolons close the imports from other modules, is
separate. -/
theorem Separate.of_inLines (lines : inLines name true parts = true) : Separate name parts := by
  have holds := (inLines_iff []).mp lines
  constructor
  · intro left part right split imports
    obtain ⟨starts, ⟨names, clear⟩ | runs⟩ := (holds left part right split).1 imports
    · refine .inl ⟨left, [], (List.append_nil left).symm, starts,
        Part.opens_of_imports imports names, fun _ member => absurd member List.not_mem_nil, ?_⟩
      rw [List.nil_append, reaches, names, clear]
      rfl
    · exact .inr ⟨runs, .inl starts⟩
  · rintro left part right split ⟨start, passed, rfl, -, opens, others, reached⟩
    -- the first part on the way holds no semicolon, so it is the one that names the module
    cases passed with
    | nil =>
      rw [List.append_nil] at split
      refine Part.imports_of_names opens ?_
      rcases (holds _ _ _ split).2 opens with names | semicolon
      · exact names
      · exact Part.names_of_reaches semicolon reached
    | cons first passed =>
      rw [List.append_assoc, List.cons_append] at split
      have other := others first List.mem_cons_self
      have names : first.names name = true := by
        rcases (holds _ _ _ split).2 opens with names | semicolon
        · exact names
        · exact Part.names_of_reaches semicolon reached
      exact absurd (other.symm.trans names) Bool.false_ne_true

/-! ### What is removed -/

/-- Deleting the imports from a module leaves the text of the surviving parts, and these are all
parts but the imports from the module exactly if the file is separate. -/
theorem removal_exact_iff (plain : name.all (!isQuote ·) = true) (laid : Laid name parts)
    (named : namedByParts name none parts = true) :
    (deletePatterns (fileText parts) (importPatterns name)).1 =
        (if (survivors name parts).length = parts.length then fileText parts
          else collapseBlankLines (fileText (survivors name parts))) ∧
      (survivors name parts = parts.filter (!·.imports name) ↔ Separate name parts) :=
  ⟨deletePatterns_importPatterns plain laid named, survivors_eq_filter_iff⟩

/-- A module named behind a space between single quotes, with a semicolon or without, at the end of
a line. -/
def Source.ofLine (name : Text) (plain : name.all (!isQuote ·) = true) (semicolon : Bool) :
    Source :=
  ⟨[' '], '\'', name, '\'', semicolon, [], true, rfl, rfl, plain, rfl, rfl⟩

/-- A file with an import from another module, a grouped one from `m`, one of `m` for its effects
and a call. -/
def groupedFile : List Part :=
  [.named "import A ".toList (.ofLine "k".toList (by decide) true),
    .named "import \x7b\n  B,\n\x7d ".toList (.ofLine "m".toList (by decide) false),
    .run [] (.ofLine "m".toList (by decide) true),
    .code "main()\n".toList]

theorem removal_exact_in_grouped_file :
    Laid "m".toList groupedFile ∧ namedByParts "m".toList none groupedFile = true ∧
      Separate "m".toList groupedFile ∧
      (deletePatterns (fileText groupedFile) (importPatterns "m".toList)).1 =
        "import A from 'k';\nmain()\n".toList := by
  have laid : Laid "m".toList groupedFile :=
    ⟨⟨by decide, fun _ _ => rfl, fun _ _ => rfl, fun _ _ => rfl⟩, rfl,
      ⟨by decide, fun _ _ => rfl, fun _ _ => rfl, fun _ _ => rfl⟩, rfl,
      ⟨by decide, fun _ _ => rfl, fun _ _ => rfl, rfl⟩, rfl,
      ⟨by decide, fun _ _ => rfl, fun _ _ => rfl, fun _ _ => rfl⟩, rfl, trivial⟩
  have named : namedByParts "m".toList none groupedFile = true := by decide
  have separate : Separate "m".toList groupedFile := .of_inLines (by decide)
  obtain ⟨left, exact⟩ := removal_exact_iff (by decide) laid named
  refine ⟨laid, named, separate, ?_⟩
  rw [left, exact.mpr separate]
  decide

/-- Imports from two modules in lines that no semicolons close. -/
def neighbours : List Part :=
  [.named "import A ".toList (.ofLine "k".toList (by decide) false),
    .named "import B ".toList (.ofLine "m".toList (by decide) false)]

/-- Without a semicolon behind it, an import from another module goes with the next one. -/
theorem removal_takes_neighbour :
    Laid "m".toList neighbours ∧ namedByParts "m".toList none neighbours = true ∧
      fileText (neighbours.filter (!·.imports "m".toList)) = "import A from 'k'\n".toList ∧
      (deletePatterns (fileText neighbours) (importPatterns "m".toList)).1 = [] := by
  refine ⟨⟨⟨by decide, fun _ _ => rfl, fun _ _ => rfl, fun _ _ => rfl⟩, rfl,
    ⟨by decide, fun _ _ => rfl, fun _ _ => rfl, fun _ _ => rfl⟩, rfl, trivial⟩, ?_, ?_, ?_⟩
  · decide
  · decide
  · decide

end GuidedMigration.Code
