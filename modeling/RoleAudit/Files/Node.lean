import RoleAudit.Files.Path

/-!
# Nodes of a disk

A disk is a table of nodes: files with their bytes, directories with their entries, and symbolic
links with the text they lead to.

`Rooted` is what every disk keeps to: its root and its home are directories, a directory is inside
a directory, and holds each name once, and what stands in it are names. It says nothing about which
nodes can be reached. There is one lemma for each way in which a disk changes: a file gets other
bytes, a directory gets other entries, and a node is put behind the others.
-/

namespace RoleAudit.Files

/-- A node of a disk. Entries lead to nodes by number. -/
inductive Node where
  | file (content : List UInt8)
  | directory (parent : Nat) (entries : List (String × Nat))
  | link (target : String)
  deriving Repr, DecidableEq, Inhabited

/-- What can be put under a name. -/
inductive Fresh where
  /-- An empty file. -/
  | file
  /-- An empty directory. -/
  | directory
  | link (target : String)
  deriving Repr, DecidableEq, Inhabited

/-- The node of something new in a directory. -/
def Fresh.node (directory : Nat) : Fresh → Node
  | file => .file []
  | .directory => .directory directory []
  | link target => .link target

/-- The node of the number is a directory. -/
def IsDirectory (nodes : Array Node) (n : Nat) : Prop :=
  ∃ parent entries, nodes[n]? = some (.directory parent entries)

/-- What holds of the nodes of every disk. -/
structure Rooted (nodes : Array Node) (home : Nat) : Prop where
  root : IsDirectory nodes 0
  home : IsDirectory nodes home
  parent : ∀ {n parent : Nat} {entries : List (String × Nat)},
    nodes[n]? = some (.directory parent entries) → IsDirectory nodes parent
  names : ∀ {n parent : Nat} {entries : List (String × Nat)},
    nodes[n]? = some (.directory parent entries) → (entries.map Prod.fst).Nodup
  isName : ∀ {n parent : Nat} {entries : List (String × Nat)},
    nodes[n]? = some (.directory parent entries) →
      ∀ entry ∈ entries, Path.isName entry.1 = true

namespace Rooted

variable {nodes nodes' : Array Node} {home : Nat}

/-- A table that keeps every directory, with the directory it is in, is rooted as before. -/
theorem of_directories (h : Rooted nodes home)
    (keep : ∀ {n}, IsDirectory nodes n → IsDirectory nodes' n)
    (back : ∀ {n parent : Nat} {entries : List (String × Nat)},
      nodes'[n]? = some (.directory parent entries) →
        IsDirectory nodes parent ∧ (entries.map Prod.fst).Nodup ∧
          ∀ entry ∈ entries, Path.isName entry.1 = true) : Rooted nodes' home where
  root := keep h.root
  home := keep h.home
  parent := fun hn => keep (back hn).1
  names := fun hn => (back hn).2.1
  isName := fun hn => (back hn).2.2

/-- A file with other bytes. -/
theorem setFile (h : Rooted nodes home) {n : Nat} {old : List UInt8}
    (hn : nodes[n]? = some (.file old)) (content : List UInt8) :
    Rooted (nodes.setIfInBounds n (.file content)) home := by
  refine h.of_directories ?_ ?_
  · rintro m ⟨parent, entries, hm⟩
    refine ⟨parent, entries, ?_⟩
    have hne : n ≠ m := by
      rintro rfl
      rw [hn] at hm
      cases hm
    rw [Array.getElem?_setIfInBounds_ne hne, hm]
  · intro m parent entries hm
    have hne : n ≠ m := by
      rintro rfl
      rw [Array.getElem?_setIfInBounds_self] at hm
      split at hm <;> cases hm
    rw [Array.getElem?_setIfInBounds_ne hne] at hm
    exact ⟨h.parent hm, h.names hm, h.isName hm⟩

/-- A directory with other entries. -/
theorem setEntries (h : Rooted nodes home) {n parent : Nat} {entries : List (String × Nat)}
    (hn : nodes[n]? = some (.directory parent entries)) {entries' : List (String × Nat)}
    (names : (entries'.map Prod.fst).Nodup)
    (isName : ∀ entry ∈ entries', Path.isName entry.1 = true) :
    Rooted (nodes.setIfInBounds n (.directory parent entries')) home := by
  refine h.of_directories ?_ ?_
  · rintro m ⟨q, es, hm⟩
    by_cases hnm : n = m
    · subst hnm
      have hlt : n < nodes.size := (Array.getElem?_eq_some_iff.1 hm).1
      exact ⟨parent, entries', by rw [Array.getElem?_setIfInBounds_self, if_pos hlt]⟩
    · exact ⟨q, es, by rw [Array.getElem?_setIfInBounds_ne hnm, hm]⟩
  · intro m q es hm
    by_cases hnm : n = m
    · subst hnm
      rw [Array.getElem?_setIfInBounds_self] at hm
      split at hm
      · cases hm
        exact ⟨h.parent hn, names, isName⟩
      · cases hm
    · rw [Array.getElem?_setIfInBounds_ne hnm] at hm
      exact ⟨h.parent hm, h.names hm, h.isName hm⟩

/-- One node more, which is no directory or an empty one inside a directory. -/
theorem push (h : Rooted nodes home) {directory : Nat} (hd : IsDirectory nodes directory)
    (fresh : Fresh) : Rooted (nodes.push (fresh.node directory)) home := by
  refine h.of_directories ?_ ?_
  · rintro m ⟨q, es, hm⟩
    have hlt : m < nodes.size := (Array.getElem?_eq_some_iff.1 hm).1
    refine ⟨q, es, ?_⟩
    rw [Array.getElem?_push, if_neg (Nat.ne_of_lt hlt), hm]
  · intro m q es hm
    rw [Array.getElem?_push] at hm
    split at hm
    · cases fresh with
      | file => cases hm
      | link target => cases hm
      | directory =>
        cases hm
        exact ⟨hd, List.nodup_nil, fun _ h => nomatch h⟩
    · exact ⟨h.parent hm, h.names hm, h.isName hm⟩

end Rooted

end RoleAudit.Files
