import Mathlib.Data.List.Basic
import RoleAudit.Files.Access

/-!
# Disks that differ in bytes only

Two disks are alike if they have the same directories, entries and links, and files in the same
places, whatever is in the files. Everything but reading has the same result on both: following a
path, looking what it leads to, listing a directory.

* `Alike.locate_eq`, `Alike.list_eq` and their kin: what does not depend on bytes.
* `WrittenAt.setContent`, `WrittenAt.writeAt`: writing into a file changes no other.
* `WrittenAt.read_eq`: every other file reads as before.
-/

namespace RoleAudit.Files

/-- What a node shows without being read. -/
def Node.shape : Node → Node
  | .file _ => .file []
  | .directory parent entries => .directory parent entries
  | .link target => .link target

/-- The disks differ at most in the bytes of files. -/
structure Alike (d e : Disk) : Prop where
  home : d.home = e.home
  homePath : d.homePath = e.homePath
  shape : ∀ n, (d.node? n).map Node.shape = (e.node? n).map Node.shape

namespace Alike

variable {d e f : Disk}

lemma refl (d : Disk) : Alike d d := ⟨rfl, rfl, fun _ => rfl⟩

lemma trans (h : Alike d e) (h' : Alike e f) : Alike d f :=
  ⟨h.home.trans h'.home, h.homePath.trans h'.homePath, fun n => (h.shape n).trans (h'.shape n)⟩

/-! ## Nodes -/

/-- What holds of any node twice, and of any two files, holds of the two nodes of a number. -/
@[elab_as_elim]
lemma node_cases {motive : Option Node → Option Node → Prop} (h : Alike d e) (n : Nat)
    (same : ∀ a, motive a a) (files : ∀ old new, motive (some (.file old)) (some (.file new))) :
    motive (d.node? n) (e.node? n) := by
  have hs := h.shape n
  generalize d.node? n = a at hs ⊢
  generalize e.node? n = b at hs ⊢
  rcases a with _ | a <;> rcases b with _ | b
  · exact same none
  · cases hs
  · cases hs
  · have hab : a.shape = b.shape := Option.some.inj hs
    cases a <;> cases b <;> cases hab
    · exact files _ _
    · exact same _
    · exact same _

lemma entries_eq (h : Alike d e) (n : Nat) : d.entries n = e.entries n := by
  unfold Disk.entries
  exact h.node_cases n (fun _ => rfl) (fun _ _ => rfl)

lemma parent_eq (h : Alike d e) (n : Nat) : d.parent n = e.parent n := by
  unfold Disk.parent
  exact h.node_cases n (fun _ => rfl) (fun _ _ => rfl)

lemma entryKind_eq (h : Alike d e) (n : Nat) : d.entryKind n = e.entryKind n := by
  unfold Disk.entryKind
  exact h.node_cases n (fun _ => rfl) (fun _ _ => rfl)

lemma lookup?_eq (h : Alike d e) (directory : Nat) (name : String) :
    d.lookup? directory name = e.lookup? directory name := by
  unfold Disk.lookup?
  rw [h.entries_eq]

/-! ## Paths -/

lemma arrive_eq (h : Alike d e) (aim : Aim) (asDirectory : Bool) (links directory : Nat)
    (rest : List String) (n : Nat) :
    d.arrive aim asDirectory links directory rest n =
      e.arrive aim asDirectory links directory rest n := by
  unfold Disk.arrive
  exact h.node_cases n (fun _ => rfl) (fun _ _ => rfl)

lemma next_eq (h : Alike d e) (aim : Aim) (asDirectory : Bool) (links directory : Nat)
    (part : String) (rest : List String) :
    d.next aim asDirectory links directory part rest =
      e.next aim asDirectory links directory part rest := by
  unfold Disk.next
  simp only [h.lookup?_eq, h.parent_eq, h.arrive_eq]

/-- **A path leads to the same place.** -/
theorem walk_eq (h : Alike d e) (aim : Aim) (asDirectory : Bool) (links directory : Nat)
    (parts : List String) :
    d.walk aim asDirectory links directory parts =
      e.walk aim asDirectory links directory parts := by
  fun_induction Disk.walk d aim asDirectory links directory parts with
  -- no part is left, the path is at its end, or there are parts to be followed
  | case1 => rw [Disk.walk_nil]
  | case2 _ _ _ _ _ _ hnext => rw [Disk.walk_cons, ← h.next_eq, hnext]
  | case3 _ _ _ _ _ _ _ _ _ hnext ih => rw [Disk.walk_cons, ← h.next_eq, hnext, ih]

theorem locate_eq (h : Alike d e) (path : String) (aim : Aim) :
    d.locate path aim = e.locate path aim := by
  unfold Disk.locate
  rw [h.home, h.walk_eq]

lemma isDirectory_eq (h : Alike d e) (path : String) : d.isDirectory path = e.isDirectory path := by
  unfold Disk.isDirectory
  rw [h.locate_eq]
  rcases e.locate path with fault | n | ⟨directory, name⟩
  · rfl
  · dsimp only
    exact h.node_cases n (fun _ => rfl) (fun _ _ => rfl)
  · rfl

lemma isFile_eq (h : Alike d e) (path : String) : d.isFile path = e.isFile path := by
  unfold Disk.isFile
  rw [h.locate_eq]
  rcases e.locate path with fault | n | ⟨directory, name⟩
  · rfl
  · dsimp only
    exact h.node_cases n (fun _ => rfl) (fun _ _ => rfl)
  · rfl

/-- **A directory has the same listing.** -/
theorem list_eq (h : Alike d e) (path : String) : d.list path = e.list path := by
  unfold Disk.list
  rw [h.locate_eq]
  simp only [h.entries_eq, h.entryKind_eq]

end Alike

/-! ## Writing into a file -/

/-- The disks differ at most in the bytes of the file of one number. -/
structure WrittenAt (n : Nat) (d e : Disk) : Prop extends Alike d e where
  others : ∀ m, m ≠ n → d.node? m = e.node? m

namespace WrittenAt

variable {d e f : Disk} {n : Nat}

lemma refl (n : Nat) (d : Disk) : WrittenAt n d d := ⟨Alike.refl d, fun _ _ => rfl⟩

lemma trans (h : WrittenAt n d e) (h' : WrittenAt n e f) : WrittenAt n d f :=
  ⟨h.toAlike.trans h'.toAlike, fun m hm => (h.others m hm).trans (h'.others m hm)⟩

/-- Other bytes in a file change nothing else. -/
theorem setContent (d : Disk) (n : Nat) (content : List UInt8) :
    WrittenAt n d (d.setContent n content) := by
  unfold Disk.setContent
  split
  · next old hold =>
    have hlt : n < d.nodes.size := (Array.getElem?_eq_some_iff.1 hold).1
    refine ⟨⟨rfl, rfl, ?_⟩, ?_⟩
    · intro m
      unfold Disk.node?
      by_cases hnm : n = m
      · subst hnm
        rw [Array.getElem?_setIfInBounds_self, if_pos hlt, hold]
        rfl
      · rw [Array.getElem?_setIfInBounds_ne hnm]
    · intro m hm
      unfold Disk.node?
      rw [Array.getElem?_setIfInBounds_ne hm.symm]
  · exact refl n d

theorem writeAt (d : Disk) (n offset : Nat) (bytes : List UInt8) :
    WrittenAt n d (d.writeAt n offset bytes) := by
  unfold Disk.writeAt
  by_cases hempty : bytes.isEmpty = true
  · rw [if_pos hempty]
    exact refl n d
  · rw [if_neg hempty]
    exact setContent d n _

/-- **Every other file reads as before.** -/
theorem read_eq (h : WrittenAt n d e) {path : String} (hpath : d.locate path ≠ .ok (.node n)) :
    d.read path = e.read path := by
  unfold Disk.read
  rw [← h.locate_eq]
  rcases hplace : d.locate path with fault | m | ⟨directory, name⟩
  · rfl
  · have hm : m ≠ n := by
      rintro rfl
      exact hpath hplace
    simp only [h.others m hm]
  · rfl

end WrittenAt

namespace Disk

variable {d : Disk} {n : Nat} {old : List UInt8}

/-- Disks with the same nodes and the same home are the same. -/
lemma ext_node? {e : Disk} (hhome : d.home = e.home) (hpath : d.homePath = e.homePath)
    (hnodes : ∀ m, d.node? m = e.node? m) : d = e := by
  obtain ⟨nodes, home, homePath, rooted⟩ := d
  obtain ⟨nodes', home', homePath', rooted'⟩ := e
  have heq : nodes = nodes' := Array.ext_getElem? hnodes
  subst heq
  cases hhome
  cases hpath
  rfl

/-- A path that leads to a file reads as the file's bytes. -/
lemma read_of_locate {path : String} (hpath : d.locate path = .ok (.node n))
    (hn : d.node? n = some (.file old)) : d.read path = .ok old := by
  unfold Disk.read
  simp only [hpath, hn]

/-- What is written into a file is in it. -/
lemma node?_setContent (hn : d.node? n = some (.file old)) (content : List UInt8) :
    (d.setContent n content).node? n = some (.file content) := by
  have hlt : n < d.nodes.size := (Array.getElem?_eq_some_iff.1 hn).1
  unfold Disk.node? at hn
  unfold Disk.setContent
  split
  · unfold Disk.node?
    rw [Array.getElem?_setIfInBounds_self, if_pos hlt]
  · next hno => exact absurd hn (hno old)

/-- Bytes that are written at the end of a file are appended to it. -/
lemma node?_writeAt_end (hn : d.node? n = some (.file old)) (bytes : List UInt8) :
    (d.writeAt n old.length bytes).node? n = some (.file (old ++ bytes)) := by
  have hcontent : d.content n = old := by
    unfold Disk.content
    rw [hn]
  unfold Disk.writeAt
  by_cases hempty : bytes.isEmpty = true
  · rw [if_pos hempty, List.isEmpty_iff.1 hempty, List.append_nil, hn]
  · rw [if_neg hempty, hcontent, node?_setContent hn, List.take_length, Nat.sub_self,
      List.replicate_zero, List.append_nil, List.drop_eq_nil_of_le (Nat.le_add_right _ _),
      List.append_nil]

end Disk

end RoleAudit.Files
