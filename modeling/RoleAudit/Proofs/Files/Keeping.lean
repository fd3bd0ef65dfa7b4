import RoleAudit.Proofs.Files.Directories

/-!
# What is on a disk stays as it is

A disk that has only gained directories and empty files holds all that it held, with the same bytes.
Making directories never does more, whatever the path and however it ends.

* `Kept`: the second disk has what is on the first, with the same bytes in its files.
* `Kept.read_eq`: a file that could be read reads as before.
* `Disk.kept_makeDirectories`: making directories keeps what is there, also when it fails.
* `Disk.read_openNew_of_other`: opening a file for writing empties no other file.
-/

namespace RoleAudit.Files

/-- The second disk has what is on the first, and files have the same bytes. -/
structure Kept (d e : Disk) : Prop extends Grown d e where
  bytes : ∀ {n content}, d.node? n = some (.file content) → e.node? n = some (.file content)

namespace Kept

variable {d e f : Disk}

lemma refl (d : Disk) : Kept d d := ⟨Grown.refl d, id⟩

lemma trans (h : Kept d e) (h' : Kept e f) : Kept d f :=
  ⟨h.toGrown.trans h'.toGrown, fun hn => h'.bytes (h.bytes hn)⟩

/-- **A file that could be read reads as before.** -/
theorem read_eq (h : Kept d e) {path : String} {content : List UInt8}
    (hread : d.read path = .ok content) : e.read path = .ok content := by
  unfold Disk.read at hread
  rcases hpath : d.locate path with fault | n | ⟨directory, name⟩ <;> simp only [hpath] at hread
  · cases hread
  · rcases hn : d.node? n with _ | ⟨bytes⟩ | ⟨p, es⟩ | ⟨target⟩ <;> simp only [hn] at hread <;>
      cases hread
    exact Disk.read_of_locate (h.locate_eq_node hpath) (h.bytes hn)
  · cases hread

end Kept

namespace Disk

variable {d : Disk} {directory : Nat} {name : String}

/-- A new entry keeps what is there. -/
lemma Free.kept_attach (h : d.Free directory name) (fresh : Fresh) :
    Kept d (d.attach directory name fresh) :=
  ⟨h.grown_attach fresh, fun hn => h.node?_attach_of_other fresh hn fun _ _ hno => nomatch hno⟩

lemma kept_makeDirectory {path : String} {e : Disk} (h : d.makeDirectory path = .ok e) :
    Kept d e := by
  unfold makeDirectory at h
  split at h
  · split at h <;> cases h
  · cases h
  · cases h
  · next hvacant =>
    cases h
    exact (free_of_locate hvacant).kept_attach .directory

lemma kept_makeLast (d : Disk) (path : String) : Kept d (d.makeLast path).2 := by
  unfold makeLast
  rcases hmade : d.makeDirectory path with fault | e
  · cases fault with
    | nul => exact Kept.refl d
    | refused refusal =>
      simp only
      split <;> exact Kept.refl d
  · exact kept_makeDirectory hmade

/-- The last directory is made when those above it have been tried, if at all. -/
lemma makeDirectoriesFrom_succ (d : Disk) (depth : Nat) (path : String) :
    ∃ first : Option Fault × Disk,
      (first = d.makeDirectoriesFrom depth (above path).1 ∨ first = (none, d)) ∧
        ((d.makeDirectoriesFrom (depth + 1) path).2 = first.2 ∨
          d.makeDirectoriesFrom (depth + 1) path = first.2.makeLast path) := by
  generalize hinner : d.makeDirectoriesFrom depth (above path).1 = inner
  unfold makeDirectoriesFrom
  rw [above_eq]
  dsimp only
  rw [hinner]
  generalize (!(above path).1.isEmpty && !(above path).2.isEmpty &&
    !d.isThere (above path).1) = needed
  refine ⟨if needed = true then inner else (none, d), ?_, ?_⟩
  · split
    · exact Or.inl rfl
    · exact Or.inr rfl
  · generalize (if needed = true then inner else (none, d)) = first
    split
    · split
      · exact Or.inl rfl
      · exact Or.inr rfl
    · split
      · exact Or.inl rfl
      · exact Or.inr rfl
    · exact Or.inl rfl

/-- **Making directories keeps what is there**, also when it fails. -/
theorem kept_makeDirectoriesFrom (d : Disk) (depth : Nat) (path : String) :
    Kept d (d.makeDirectoriesFrom depth path).2 := by
  induction depth generalizing d path with
  | zero => exact Kept.refl d
  | succ depth ih =>
    obtain ⟨first, hfirst, hlast⟩ := d.makeDirectoriesFrom_succ depth path
    have habove : Kept d first.2 := by
      rcases hfirst with rfl | rfl
      · exact ih d (above path).1
      · exact Kept.refl d
    rcases hlast with hlast | hlast
    · rw [hlast]
      exact habove
    · rw [hlast]
      exact habove.trans (first.2.kept_makeLast path)

lemma kept_makeDirectories (d : Disk) (path : String) : Kept d (d.makeDirectories path).2 :=
  d.kept_makeDirectoriesFrom (path.length + 1) path

/-- **Opening a file for writing leaves the others as they are**: what another path reads stays. -/
theorem read_openNew_of_other {path other : String} {n : Nat} {e : Disk} {content : List UInt8}
    (h : d.openNew path = .ok (n, e)) (hother : e.locate other ≠ .ok (.node n))
    (hread : d.read other = .ok content) : e.read other = .ok content := by
  unfold openNew at h
  split at h
  · cases h
  · next hvacant =>
    cases h
    exact ((free_of_locate hvacant).kept_attach .file).read_eq hread
  · next m hnode =>
    rcases hm : d.node? m with _ | ⟨bytes⟩ | ⟨p, es⟩ | ⟨target⟩ <;> rw [hm] at h
    · cases h
    · cases h
      have hemptied := WrittenAt.setContent d n []
      rw [← hemptied.locate_eq] at hother
      rw [← hemptied.read_eq hother, hread]
    · cases h
    · cases h

end Disk

end RoleAudit.Files
