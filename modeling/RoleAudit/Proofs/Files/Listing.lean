import Mathlib.Data.List.Nodup
import Mathlib.Data.String.Basic
import RoleAudit.Proofs.Files.Following

/-!
# Listings of directories

A directory is listed in the order of the names in it, and what it says about an entry holds of the
path that leads to this entry.

* `Disk.sorted_list`: the names of a listing ascend, and none is there twice.
* `Disk.exists_walk_of_join`: the path of an entry is followed through the directory it stands in.
* `Disk.isDirectory_join_of_file`, `Disk.isFile_join_of_directory`: the path of an entry that is listed
  as a file leads to no directory, and the other way round.
-/

namespace RoleAudit.Files.Disk

open RoleAudit.Files.Path

variable {d : Disk} {directory path name : String} {n m : Nat} {e : Entry}

/-! ## What stands in a directory -/

lemma nodup_names (d : Disk) (n : Nat) : ((d.entries n).map Prod.fst).Nodup := by
  unfold entries
  split
  · next hn => exact d.rooted.names hn
  · exact List.nodup_nil

lemma isName_of_mem_entries (h : (name, m) ∈ d.entries n) : isName name = true := by
  unfold entries at h
  split at h
  · next hn => exact d.rooted.isName hn _ h
  · cases h

/-- What stands under a name is found under it. -/
lemma lookup?_of_mem (h : (name, m) ∈ d.entries n) : d.lookup? n name = some m := by
  unfold lookup?
  rcases hfind : (d.entries n).find? (fun e => e.1 == name) with _ | entry
  · rw [List.find?_eq_none] at hfind
    exact absurd (beq_self_eq_true name) (hfind _ h)
  · have hname : entry.1 = name := by
      have heq := List.find?_some hfind
      simpa using heq
    have hentry : entry = (name, m) :=
      List.inj_on_of_nodup_map (d.nodup_names n) (List.mem_of_find?_eq_some hfind) h hname
    rw [hfind, hentry]
    rfl

/-! ## What is listed -/

lemma ne_empty_of_isDirectory (h : d.isDirectory path = true) : path ≠ "" := by
  rintro rfl
  obtain ⟨n, hn, -⟩ := isDirectory_iff.1 h
  have hempty := ((locate_eq_ok_iff d "" .target _).1 hn).2.1
  cases hempty

/-- A path that leads anywhere is not too long. -/
lemma utf8ByteSize_lt_of_locate {aim : Aim} {place : Place} (h : d.locate path aim = .ok place) :
    path.utf8ByteSize < pathLimit := by
  have hshort := ((locate_eq_ok_iff d path aim place).1 h).2.2.1
  omega

lemma utf8ByteSize_lt_of_isDirectory (h : d.isDirectory path = true) :
    path.utf8ByteSize < pathLimit := by
  obtain ⟨n, hn, -⟩ := isDirectory_iff.1 h
  exact utf8ByteSize_lt_of_locate hn

lemma utf8ByteSize_lt_of_isFile (h : d.isFile path = true) : path.utf8ByteSize < pathLimit := by
  unfold isFile at h
  split at h
  · next n hn => exact utf8ByteSize_lt_of_locate hn
  · cases h

lemma mem_listing_iff :
    e ∈ ((d.entries n).map fun e => Entry.mk e.1 (d.entryKind e.2)).mergeSort
        (fun a b => decide (a.name ≤ b.name)) ↔
      ∃ m, (e.name, m) ∈ d.entries n ∧ e.kind = d.entryKind m := by
  simp only [List.mem_mergeSort, List.mem_map]
  constructor
  · rintro ⟨⟨name, m⟩, hmem, rfl⟩
    exact ⟨m, hmem, rfl⟩
  · rintro ⟨m, hmem, hkind⟩
    refine ⟨(e.name, m), hmem, ?_⟩
    rw [← hkind]

lemma mem_list_iff (h : d.locate directory = .ok (.node n)) :
    e ∈ d.list directory ↔ ∃ m, (e.name, m) ∈ d.entries n ∧ e.kind = d.entryKind m := by
  unfold list
  simp only [h]
  exact mem_listing_iff

/-- A directory with a single entry. -/
lemma list_of_singleton (h : d.locate directory = .ok (.node n))
    (hentries : d.entries n = [(name, m)]) : d.list directory = [⟨name, d.entryKind m⟩] := by
  unfold list
  simp only [h, hentries, List.map_cons, List.map_nil, List.mergeSort_singleton]

/-- What is listed stands in the directory. -/
lemma exists_of_mem_list (h : e ∈ d.list directory) :
    ∃ n m, d.locate directory = .ok (.node n) ∧ (e.name, m) ∈ d.entries n ∧
      e.kind = d.entryKind m := by
  have hlisted := h
  unfold list at hlisted
  split at hlisted
  · next n hn =>
    obtain ⟨m, hmem, hkind⟩ := (mem_list_iff hn).1 h
    exact ⟨n, m, hn, hmem, hkind⟩
  · cases hlisted

lemma isName_of_mem_list (h : e ∈ d.list directory) : isName e.name = true := by
  obtain ⟨n, m, -, hmem, -⟩ := exists_of_mem_list h
  exact isName_of_mem_entries hmem

/-- **The names of a listing ascend**, and none is there twice. -/
theorem sorted_list (d : Disk) (directory : String) :
    (d.list directory).Pairwise fun a b => a.name < b.name := by
  unfold list
  split
  · next n _ =>
    have htrans : ∀ a b c : Entry, decide (a.name ≤ b.name) = true →
        decide (b.name ≤ c.name) = true → decide (a.name ≤ c.name) = true := by
      intro a b c hab hbc
      rw [decide_eq_true_eq] at hab hbc ⊢
      exact le_trans hab hbc
    have htotal : ∀ a b : Entry, (decide (a.name ≤ b.name) || decide (b.name ≤ a.name)) = true := by
      intro a b
      simpa using le_total a.name b.name
    have hsorted := List.pairwise_mergeSort htrans htotal
      ((d.entries n).map fun e => Entry.mk e.1 (d.entryKind e.2))
    have hdistinct : ((d.entries n).map fun e => Entry.mk e.1 (d.entryKind e.2)).Pairwise
        fun a b => a.name ≠ b.name := by
      rw [List.pairwise_map, ← List.pairwise_map (f := Prod.fst) (R := (· ≠ ·))]
      exact List.nodup_iff_pairwise_ne.1 (d.nodup_names n)
    have hapart := (List.mergeSort_perm _ fun a b => decide (a.name ≤ b.name)).symm.pairwise
      hdistinct Ne.symm
    refine (hsorted.and hapart).imp ?_
    rintro a b ⟨hle, hne⟩
    exact lt_of_le_of_ne (of_decide_eq_true hle) hne
  · exact List.Pairwise.nil

/-! ## Where the path of an entry leads -/

lemma extends_join (hdirectory : directory ≠ "") (hname : isName name = true) :
    Extends directory (join directory name) [name] where
  nonempty := hdirectory
  isPrefix := by
    rw [join_of_isName hname]
    split
    · rw [String.toList_append]
      exact List.prefix_append _ _
    · rw [String.append_assoc, String.toList_append]
      exact List.prefix_append _ _
  steps := steps_join hdirectory hname

/-- **The path of an entry is followed through the directory** in which it stands. -/
theorem exists_walk_of_join (hdirectory : d.locate directory = .ok (.node n))
    (hname : isName name = true) {k : Nat} (h : d.locate (join directory name) = .ok (.node k)) :
    ∃ links, d.walk .target false links n [name] = .ok (.node k) := by
  have hempty := ((locate_eq_ok_iff d directory .target _).1 hdirectory).2.1
  have hne : directory ≠ "" := by simpa using hempty
  have hextends := extends_join hne hname
  obtain ⟨links, n', hn', -, hwalk⟩ := hextends.locate_eq (List.cons_ne_nil _ _) h
  rw [hdirectory] at hn'
  cases hn'
  rw [endsInSlash_join hname] at hwalk
  exact ⟨links, hwalk⟩

/-- A name that stands for no link leads to what stands under it, if it leads anywhere. -/
lemma eq_of_walk_name (h : (name, m) ∈ d.entries n) (hkind : d.entryKind m ≠ .link) {links k : Nat}
    (hwalk : d.walk .target false links n [name] = .ok (.node k)) : k = m := by
  obtain ⟨-, -, hdot, hup⟩ := isName_iff.1 (isName_of_mem_entries h)
  rw [walk_cons, next_of_name hdot hup (Or.inl rfl), lookup?_of_mem h] at hwalk
  by_cases hlong : nameLimit < name.utf8ByteSize
  · rw [if_pos hlong] at hwalk
    cases hwalk
  simp only [if_neg hlong, arrive] at hwalk
  unfold entryKind at hkind
  rcases hm : d.node? m with _ | ⟨content⟩ | ⟨p, es⟩ | ⟨target⟩ <;> simp only [hm] at hwalk hkind
  · cases hwalk
  · cases hwalk
    rfl
  · rw [walk_nil] at hwalk
    cases hwalk
    rfl
  · exact absurd rfl hkind

/-- Where the path of an entry that is no link leads, if it leads anywhere. -/
lemma entryKind_of_locate_join (h : e ∈ d.list directory) (hkind : e.kind ≠ .link) {k : Nat}
    (hk : d.locate (join directory e.name) = .ok (.node k)) : d.entryKind k = e.kind := by
  obtain ⟨n, m, hn, hmem, hlisted⟩ := exists_of_mem_list h
  obtain ⟨links, hwalk⟩ := exists_walk_of_join hn (isName_of_mem_list h) hk
  rw [eq_of_walk_name hmem (hlisted ▸ hkind) hwalk, hlisted]

/-- What is listed as a file is no directory. -/
lemma isDirectory_join_of_file (h : e ∈ d.list directory) (hkind : e.kind = .file) :
    d.isDirectory (join directory e.name) = false := by
  rw [← Bool.not_eq_true]
  intro hdirectory
  obtain ⟨k, hk, p, es, hnode⟩ := isDirectory_iff.1 hdirectory
  have hlisted := entryKind_of_locate_join h (by rw [hkind]; decide) hk
  rw [hkind, entryKind, show d.node? k = some (.directory p es) from hnode] at hlisted
  cases hlisted

/-- What is listed as a directory is no file. -/
lemma isFile_join_of_directory (h : e ∈ d.list directory) (hkind : e.kind = .directory) :
    d.isFile (join directory e.name) = false := by
  unfold isFile
  split
  · next k hk =>
    have hlisted := entryKind_of_locate_join h (by rw [hkind]; decide) hk
    rw [hkind] at hlisted
    split
    · next content hnode =>
      rw [entryKind, hnode] at hlisted
      cases hlisted
    · rfl
  · rfl

end RoleAudit.Files.Disk
