/-
This file says what the merged fragments of the contributions have in common, whether the known
values are filled in or not: the two documents that are written differ in their leaves alone. It
then says what building the template and the local document comes down to: if it succeeds, both
documents are there or missing, and what is written follows from them and from the contributions
alone. A document that is read is keyed.
-/
import GuidedMigration.Config.Accumulator
import GuidedMigration.Proofs.Tree.Reading
import GuidedMigration.Proofs.Value.Keyed
import GuidedMigration.Proofs.Yaml.Keyed

namespace GuidedMigration.Config

open Value

/-- Whether a fragment leaves alone what stands at the end of a trail: it holds nothing or the empty
value there, and no leaf on the way. -/
def passesOver (trail : Trail) (fragment : Mapping) : Bool :=
  !Mapping.blocks trail fragment && (Mapping.at? trail fragment).all isNull

namespace Contributions

/-- The values that a contribution knows change no shape, whichever values each contribution has. -/
theorem shape_localFragment (contributions : Contributions) :
    Mapping.shape contributions.localFragment = Mapping.shape contributions.templateFragment := by
  have folded (left right : Mapping) (same : Mapping.shape left = Mapping.shape right) :
      Mapping.shape (contributions.foldl
        (fun document part => Mapping.merge document part.localFragment)
        left) =
      Mapping.shape (contributions.foldl (fun document part => Mapping.merge document part.fragment)
        right) := by
    induction contributions generalizing left right with
    | nil => exact same
    | cons part rest inductionHypothesis =>
      refine inductionHypothesis _ _ ?_
      rw [shape_merge, shape_merge, same, Contribution.localFragment, Mapping.shape_fill]
  exact folded [] [] rfl

theorem isKeyed_templateFragment {contributions : Contributions}
    (keyed : ∀ part ∈ contributions, Mapping.isKeyed part.fragment = true) :
    Mapping.isKeyed contributions.templateFragment = true :=
  Mapping.isKeyed_foldl_merge Contribution.fragment rfl keyed

theorem isKeyed_localFragment {contributions : Contributions}
    (keyed : ∀ part ∈ contributions, Mapping.isKeyed part.fragment = true) :
    Mapping.isKeyed contributions.localFragment = true :=
  Mapping.isKeyed_foldl_merge Contribution.localFragment rfl fun part member => by
    rw [Contribution.localFragment, Mapping.isKeyed_fill, keyed part member]

/-- The local document that is written is keyed. -/
theorem isKeyed_locals {contributions : Contributions} {template locals : Mapping}
    (templateKeyed : Mapping.isKeyed template = true)
    (localsKeyed : Mapping.isKeyed locals = true)
    (keyed : ∀ part ∈ contributions, Mapping.isKeyed part.fragment = true) :
    Mapping.isKeyed (contributions.pairFrom template locals).locals = true :=
  isKeyed_merge (isKeyed_merge (by rw [Mapping.isKeyed_fill, templateKeyed]) localsKeyed)
    (isKeyed_localFragment keyed)

end Contributions

end GuidedMigration.Config

/-! ### What is built -/

namespace GuidedMigration.Config

variable {tree : Tree} {path templatePath localPath : Path} {template locals document : Mapping}
  {contributions : Contributions} {pair : Contributions.Pair}

/-- Reading a document leaves the tree as it is. -/
theorem load_snd (path : Path) (tree : Tree) : (load path tree).2 = tree := by
  rw [load, bind_apply, Files.exists?, Files.ask]
  cases tree.exists? path with
  | error fault => rfl
  | ok there =>
    cases there with
    | false => rfl
    | true =>
      show ((Files.read path >>= fun text => ExceptT.mk (pure (mappingOf path text)) :
        Files Mapping) tree).2 = tree
      rw [bind_apply, Files.read]
      cases tree.read path <;> rfl

theorem load_eq (held : (load path tree).1 = .ok document) :
    load path tree = (.ok document, tree) :=
  Prod.ext held (load_snd path tree)

/-- A document that is read is keyed. -/
theorem isKeyed_load (held : (load path tree).1 = .ok document) :
    Mapping.isKeyed document = true := by
  rw [load, bind_apply, Files.exists?, Files.ask] at held
  cases found : tree.exists? path with
  | error fault => simp [found] at held
  | ok there =>
    rw [found] at held
    cases there with
    | false =>
      obtain rfl : [] = document := Except.ok.inj held
      rfl
    | true =>
      change ((Files.read path >>= fun text => ExceptT.mk (pure (mappingOf path text)) :
        Files Mapping) tree).1 = .ok document at held
      rw [bind_apply, Files.read] at held
      cases read : tree.read path with
      | error failure => simp [read] at held
      | ok text =>
        rw [read] at held
        exact isKeyed_mappingOf held

namespace Contributions

/-- The documents that are there when contributions are built, and the pair that is written. -/
structure Builds (contributions : Contributions) (templatePath localPath : Path) (tree : Tree)
    (template locals : Mapping) (pair : Pair) : Prop where
  templateHeld : (load templatePath tree).1 = .ok template
  localsHeld : (load localPath tree).1 = .ok locals
  built : (contributions.build templatePath localPath tree).1 = .ok (some pair)

namespace Builds

variable (builds : Builds contributions templatePath localPath tree template locals pair)

include builds

theorem templateKeyed : Mapping.isKeyed template = true := isKeyed_load builds.templateHeld

theorem localsKeyed : Mapping.isKeyed locals = true := isKeyed_load builds.localsHeld

/-- What is written follows from the documents that are there. -/
theorem pair_eq : pair = contributions.pairFrom template locals := by
  have built := builds.built
  rw [build] at built
  cases dual : contributions.isDual with
  | false =>
    rw [dual, if_neg Bool.false_ne_true] at built
    exact absurd (Except.ok.inj built) (by simp)
  | true =>
    rw [dual, if_pos rfl, bind_apply, load_eq builds.templateHeld] at built
    dsimp only at built
    rw [bind_apply, load_eq builds.localsHeld] at built
    dsimp only at built
    rw [bind_apply] at built
    cases first : write templatePath (contributions.pairFrom template locals).template tree with
    | mk result after =>
      rw [first] at built
      cases result with
      | error failure => simp at built
      | ok changed =>
        dsimp only at built
        rw [bind_apply] at built
        cases second : write localPath (contributions.pairFrom template locals).locals after with
        | mk result final =>
          rw [second] at built
          cases result with
          | error failure => simp at built
          | ok changed =>
            exact (Option.some.inj (Except.ok.inj built)).symm

end Builds

deriving instance DecidableEq for Pair

/-- A tree with a template and a local document. -/
def smallTree (template locals : Text) : Tree :=
  ⟨[([[], "app-config.yaml".toList], .file (Utf8.encode template)),
    ([[], "app-config.local.yaml".toList], .file (Utf8.encode locals))]⟩

/-- What contributions build from a template and a local document, computed. -/
theorem builds_smallTree {written writtenLocals : Text}
    (templateHeld : (load (.ofText "app-config.yaml".toList)
      (smallTree written writtenLocals)).1.toOption = some template)
    (localsHeld : (load (.ofText "app-config.local.yaml".toList)
      (smallTree written writtenLocals)).1.toOption = some locals)
    (built : (contributions.build (.ofText "app-config.yaml".toList)
      (.ofText "app-config.local.yaml".toList)
      (smallTree written writtenLocals)).1.toOption = some (some pair)) :
    Builds contributions (.ofText "app-config.yaml".toList) (.ofText "app-config.local.yaml".toList)
      (smallTree written writtenLocals) template locals pair :=
  ⟨eq_ok_of_toOption templateHeld, eq_ok_of_toOption localsHeld, eq_ok_of_toOption built⟩

/-- A contribution with a placeholder for which a value is known. -/
def smallContribution : Contribution :=
  ⟨"x".toList, [(.text "x".toList, .text (Placeholder.ofName "N".toList))],
    [("N".toList, "v".toList)]⟩

end Contributions

end GuidedMigration.Config
