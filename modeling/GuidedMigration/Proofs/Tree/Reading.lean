/-
This file shows what is read from a tree, by how a path stands in it: a file gives its text, if its
bytes are one, and nothing else does. A missing document is an empty one only where a file could be
made.
-/
import GuidedMigration.Config.Document
import GuidedMigration.Proofs.Text.Utf8
import GuidedMigration.Proofs.Tree.Writing
import GuidedMigration.Target.Change

namespace GuidedMigration

namespace Tree

/-- The text that the bytes of a file are, with every line break read as a newline. -/
def textOf (bytes : Utf8.Bytes) : Except Failure Text :=
  match Utf8.decode bytes with
  | .error fault => .error (.undecodable fault)
  | .ok text => .ok (Text.unifyNewlines text)

/-- What is written is read, but for the line breaks. -/
theorem textOf_encode (text : Text) :
    textOf (Utf8.encode text) = .ok (Text.unifyNewlines text) := by
  rw [textOf, Utf8.decode_encode]

variable {tree : Tree} {path : Path} {bytes : Utf8.Bytes}

theorem read_of_file (stands : tree.standing path = .file)
    (held : tree.find? (spelled path) = some (.file bytes)) : tree.read path = textOf bytes := by
  obtain ⟨reached, -⟩ := standing_eq_file.mp stands
  have bytes' : tree.bytes path = .ok bytes := by
    simp [Tree.bytes, reached, held, bind, Except.bind]
  rw [read, bytes']
  rfl

theorem read_of_not_file (other : tree.standing path ≠ .file) :
    ∃ failure, tree.read path = .error failure := by
  have failed : ∃ fault, tree.bytes path = .error fault := by
    cases stands : tree.standing path with
    | file => exact absurd stands other
    | lost => exact ⟨_, by simp [Tree.bytes, place_of_lost stands, bind, Except.bind]; rfl⟩
    | vacant =>
      obtain ⟨reached, free⟩ := standing_eq_vacant.mp stands
      exact ⟨_, by simp [Tree.bytes, reached, free, bind, Except.bind]; rfl⟩
    | directory =>
      obtain ⟨reached, held⟩ := standing_eq_directory.mp stands
      exact ⟨_, by simp [Tree.bytes, reached, held, bind, Except.bind]; rfl⟩
    | barred =>
      obtain ⟨fault, -, failed⟩ := place_of_barred stands
      exact ⟨fault, by simp [Tree.bytes, failed, bind, Except.bind]⟩
  obtain ⟨fault, failed⟩ := failed
  exact ⟨.file fault, by rw [read, failed]⟩

theorem exists?_of_file (stands : tree.standing path = .file) : tree.exists? path = .ok true := by
  obtain ⟨reached, bytes, held⟩ := standing_eq_file.mp stands
  rw [exists?, look_of_place reached, held]
  rfl

theorem exists?_of_directory (stands : tree.standing path = .directory) :
    tree.exists? path = .ok true := by
  obtain ⟨reached, held⟩ := standing_eq_directory.mp stands
  rw [exists?, look_of_place reached, held]
  rfl

theorem exists?_of_free (stands : tree.standing path = .vacant ∨ tree.standing path = .lost) :
    tree.exists? path = .ok false := by
  rcases stands with vacant | lost
  · obtain ⟨reached, free⟩ := standing_eq_vacant.mp vacant
    rw [exists?, look_of_place reached, free]
    rfl
  · rw [exists?, look_of_lost lost]
    rfl

theorem exists?_of_barred (stands : tree.standing path = .barred) :
    tree.exists? path = .ok false ∨ ∃ fault, tree.exists? path = .error fault := by
  rcases look_of_barred stands with none' | ⟨fault, failed⟩
  · rw [exists?, none']
    exact .inl rfl
  · rw [exists?, failed]
    exact .inr ⟨fault, rfl⟩

/-- What is there and is no file is a directory. -/
theorem directory_of_exists? (there : tree.exists? path = .ok true)
    (other : tree.standing path ≠ .file) : tree.standing path = .directory := by
  cases stands : tree.standing path with
  | directory => rfl
  | file => exact absurd stands other
  | lost => simp [exists?_of_free (.inr stands)] at there
  | vacant => simp [exists?_of_free (.inl stands)] at there
  | barred => rcases exists?_of_barred stands with free | ⟨fault, failed⟩ <;> simp_all

end Tree

namespace Target

open GuidedMigration.Tree

variable {tree : Tree} {path : Path} {bytes : Utf8.Bytes}

theorem existing_of_file (stands : tree.standing path = .file)
    (held : tree.find? (spelled path) = some (.file bytes)) (missing : Refusal) :
    existing path missing tree = (textOf bytes, tree) := by
  rw [existing, bind_apply, Files.exists?, Files.ask, exists?_of_file stands]
  show Files.read path tree = _
  rw [Files.read, read_of_file stands held]

theorem existing_of_not_file (other : tree.standing path ≠ .file) (missing : Refusal) :
    ∃ failure, existing path missing tree = (.error failure, tree) := by
  rw [existing, bind_apply, Files.exists?, Files.ask]
  cases found : tree.exists? path with
  | error fault => exact ⟨_, rfl⟩
  | ok there =>
    cases there with
    | false => exact ⟨_, rfl⟩
    | true =>
      obtain ⟨failure, failed⟩ := read_of_not_file other
      refine ⟨failure, ?_⟩
      show Files.read path tree = _
      rw [Files.read, failed]

end Target

namespace Config

open GuidedMigration.Tree

variable {tree : Tree} {path : Path} {bytes : Utf8.Bytes}

theorem writeDocument_of_writable {document : Mapping} (writable : isWritable document = true) :
    writeDocument path document = Files.write path (documentText document) := by
  rw [writeDocument, if_pos writable]

theorem writeDocument_of_not_writable {document : Mapping} (long : isWritable document = false) :
    writeDocument path document tree = (.error (.value .unwritableInteger), tree) := by
  rw [writeDocument, long, if_neg Bool.false_ne_true]
  rfl

theorem load_of_file (stands : tree.standing path = .file)
    (held : tree.find? (spelled path) = some (.file bytes)) :
    load path tree = (textOf bytes >>= mappingOf path, tree) := by
  rw [load, bind_apply, Files.exists?, Files.ask, exists?_of_file stands]
  show (Files.read path >>= fun text => ExceptT.mk (pure (mappingOf path text)) : Files Mapping)
    tree = _
  rw [bind_apply, Files.read, read_of_file stands held]
  cases textOf bytes <;> rfl

theorem load_of_free (free : tree.exists? path = .ok false) : load path tree = (.ok [], tree) := by
  rw [load, bind_apply, Files.exists?, Files.ask, free]
  rfl

theorem load_of_error {fault : FileFault} (failed : tree.exists? path = .error fault) :
    load path tree = (.error (.file fault), tree) := by
  rw [load, bind_apply, Files.exists?, Files.ask, failed]

theorem load_of_directory (stands : tree.standing path = .directory) :
    ∃ failure, load path tree = (.error failure, tree) := by
  obtain ⟨failure, failed⟩ := @read_of_not_file tree path (by simp [stands])
  refine ⟨failure, ?_⟩
  rw [load, bind_apply, Files.exists?, Files.ask, exists?_of_directory stands]
  show (Files.read path >>= fun text => ExceptT.mk (pure (mappingOf path text)) : Files Mapping)
    tree = _
  rw [bind_apply, Files.read, failed]

end Config

end GuidedMigration
