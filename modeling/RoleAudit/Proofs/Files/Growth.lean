import RoleAudit.Proofs.Files.Alike
import RoleAudit.Proofs.Files.Following

/-!
# Disks that only gain

A disk has grown if what was on it is still there: directories have kept their entries and may have
more, links lead where they led, and files may hold other bytes. Whatever a path led to, it still
leads to; only where it led to nothing there may be something now.

* `Grown.next_eq`: a step on the way to something is the same on the grown disk.
* `Grown.walk_eq_node`, `Grown.locate_eq_node`: a path that leads to a node leads to the same node.
-/

namespace RoleAudit.Files

/-- The second disk has what is on the first, and may have more. -/
structure Grown (d e : Disk) : Prop where
  home : e.home = d.home
  homePath : e.homePath = d.homePath
  file : ∀ {n content}, d.node? n = some (.file content) → ∃ content', e.node? n = some (.file content')
  directory : ∀ {n parent entries}, d.node? n = some (.directory parent entries) →
    ∃ more, e.node? n = some (.directory parent (entries ++ more))
  link : ∀ {n target}, d.node? n = some (.link target) → e.node? n = some (.link target)

lemma Alike.grown {d e : Disk} (h : Alike d e) : Grown d e where
  home := h.home.symm
  homePath := h.homePath.symm
  file := by
    intro n content hn
    have hs := h.shape n
    rw [hn] at hs
    rcases hm : e.node? n with _ | ⟨c⟩ | ⟨p, es⟩ | ⟨t⟩ <;> rw [hm] at hs
    · cases hs
    · exact ⟨c, rfl⟩
    · cases hs
    · cases hs
  directory := by
    intro n p es hn
    refine ⟨[], ?_⟩
    have hs := h.shape n
    rw [hn] at hs
    rcases hm : e.node? n with _ | ⟨c⟩ | ⟨p', es'⟩ | ⟨t⟩ <;> rw [hm] at hs <;> cases hs
    rw [List.append_nil]
  link := by
    intro n t hn
    have hs := h.shape n
    rw [hn] at hs
    rcases hm : e.node? n with _ | ⟨c⟩ | ⟨p', es'⟩ | ⟨t'⟩ <;> rw [hm] at hs <;> cases hs
    rfl

/-- A file whose bytes are taken away again is empty, as when it was new. -/
lemma WrittenAt.setContent_nil {e f : Disk} {n : Nat} (h : WrittenAt n e f) (he : e.node? n = some (.file [])) :
    f.setContent n [] = e := by
  have hback := WrittenAt.setContent f n []
  obtain ⟨content, hf⟩ := h.toAlike.grown.file he
  apply Disk.ext_node?
  · exact hback.home.symm.trans h.home.symm
  · exact hback.homePath.symm.trans h.homePath.symm
  · intro m
    by_cases hm : m = n
    · rw [hm, Disk.node?_setContent hf, he]
    · rw [← hback.others m hm, ← h.others m hm]

namespace Grown

variable {d e f : Disk}

lemma refl (d : Disk) : Grown d d := (Alike.refl d).grown

lemma trans (h : Grown d e) (h' : Grown e f) : Grown d f where
  home := h'.home.trans h.home
  homePath := h'.homePath.trans h.homePath
  file hn := by
    obtain ⟨content, hcontent⟩ := h.file hn
    exact h'.file hcontent
  directory hn := by
    obtain ⟨more, hmore⟩ := h.directory hn
    obtain ⟨more', hmore'⟩ := h'.directory hmore
    exact ⟨more ++ more', by rw [hmore', List.append_assoc]⟩
  link hn := h'.link (h.link hn)

lemma isDirectory (h : Grown d e) {n : Nat} (hn : IsDirectory d.nodes n) :
    IsDirectory e.nodes n := by
  obtain ⟨parent, entries, hes⟩ := hn
  obtain ⟨more, hmore⟩ := h.directory hes
  exact ⟨parent, entries ++ more, hmore⟩

lemma parent_eq (h : Grown d e) {n : Nat} (hn : IsDirectory d.nodes n) : e.parent n = d.parent n := by
  obtain ⟨p, es, hes⟩ := hn
  obtain ⟨more, hmore⟩ := h.directory hes
  unfold Disk.parent
  rw [hmore, show d.node? n = some (.directory p es) from hes]

/-- What was found under a name is still found. -/
lemma lookup?_eq_some (h : Grown d e) {n m : Nat} {part : String} (hm : d.lookup? n part = some m) :
    e.lookup? n part = some m := by
  rcases hn : d.node? n with _ | ⟨content⟩ | ⟨p, es⟩ | ⟨target⟩ <;>
    unfold Disk.lookup? Disk.entries at hm <;> rw [hn] at hm
  · cases hm
  · cases hm
  · obtain ⟨more, hmore⟩ := h.directory hn
    obtain ⟨entry, hentry, hsnd⟩ := Option.map_eq_some_iff.1 hm
    unfold Disk.lookup? Disk.entries
    rw [hmore]
    simp only [List.find?_append]
    rw [hentry, Option.some_or, Option.map_some, hsnd]
  · cases hm

/-- What was found leads where it led, unless it led nowhere. -/
lemma arrive_eq (h : Grown d e) {aim : Aim} {asDirectory : Bool} {links n m : Nat}
    {rest : List String} {result : Disk.Next}
    (hd : d.arrive aim asDirectory links n rest m = result)
    (hresult : ∀ reason, result ≠ .finished (.error reason)) :
    e.arrive aim asDirectory links n rest m = result := by
  unfold Disk.arrive at hd ⊢
  rcases hm : d.node? m with _ | ⟨content⟩ | ⟨p, es⟩ | ⟨target⟩ <;> rw [hm] at hd
  · exact absurd hd.symm (hresult _)
  · obtain ⟨content', hcontent⟩ := h.file hm
    rw [hcontent]
    exact hd
  · obtain ⟨more, hmore⟩ := h.directory hm
    rw [hmore]
    exact hd
  · rw [h.link hm]
    exact hd

/-- **A step on the way to something is the same.** -/
theorem next_eq (h : Grown d e) {aim : Aim} {asDirectory : Bool} {links n : Nat} {part : String}
    {rest : List String} {result : Disk.Next} (hn : IsDirectory d.nodes n)
    (hd : d.next aim asDirectory links n part rest = result)
    (herror : ∀ reason, result ≠ .finished (.error reason))
    (hvacant : ∀ directory name, result ≠ .finished (.ok (.vacant directory name))) :
    e.next aim asDirectory links n part rest = result := by
  unfold Disk.next at hd ⊢
  rw [h.parent_eq hn]
  by_cases hdot : (part == ".") = true
  · rw [if_pos hdot] at hd ⊢
    exact hd
  rw [if_neg hdot] at hd ⊢
  by_cases hup : (part == "..") = true
  · rw [if_pos hup] at hd ⊢
    exact hd
  rw [if_neg hup] at hd ⊢
  split at hd
  · exact absurd hd.symm (herror _)
  rw [if_neg ‹_›]
  split at hd
  · exact absurd hd.symm (herror _)
  rw [if_neg ‹_›]
  rcases hl : d.lookup? n part with _ | m <;> rw [hl] at hd
  · by_cases hrest : rest.isEmpty = true
    · rw [if_pos hrest] at hd
      exact absurd hd.symm (hvacant _ _)
    · rw [if_neg hrest] at hd
      exact absurd hd.symm (herror _)
  · rw [h.lookup?_eq_some hl]
    exact h.arrive_eq hd herror

/-- A step that leads on is the same. -/
lemma next_eq_onward (h : Grown d e) {aim : Aim} {asDirectory mustBe : Bool}
    {links links' n next : Nat} {part : String} {rest parts : List String}
    (hn : IsDirectory d.nodes n)
    (hd : d.next aim asDirectory links n part rest = .onward mustBe links' next parts) :
    e.next aim asDirectory links n part rest = .onward mustBe links' next parts := by
  refine h.next_eq hn hd ?_ ?_
  · intro _ hno
    cases hno
  · intro _ _ hno
    cases hno

/-- **A way that led to a node leads to it.** -/
theorem walk_eq_node (h : Grown d e) {aim : Aim} {asDirectory : Bool} {links n m : Nat}
    {parts : List String} (hn : IsDirectory d.nodes n)
    (hd : d.walk aim asDirectory links n parts = .ok (.node m)) :
    e.walk aim asDirectory links n parts = .ok (.node m) := by
  fun_induction Disk.walk d aim asDirectory links n parts with
  | case1 =>
    rw [Disk.walk_nil]
    exact hd
  | case2 _ _ _ _ _ _ hnext =>
    subst hd
    rw [Disk.walk_cons, h.next_eq hn hnext]
    · intro _ hno
      cases hno
    · intro _ _ hno
      cases hno
  | case3 _ _ _ _ _ _ _ _ _ hnext ih =>
    rw [Disk.walk_cons, h.next_eq_onward hn hnext]
    exact ih (Disk.isDirectory_of_next hn hnext) hd

/-- **A path that led to a node leads to it.** -/
theorem locate_eq_node (h : Grown d e) {path : String} {aim : Aim} {n : Nat}
    (hd : d.locate path aim = .ok (.node n)) : e.locate path aim = .ok (.node n) := by
  rw [Disk.locate_eq_ok_iff] at hd ⊢
  obtain ⟨hnul, hempty, hshort, hwalk⟩ := hd
  rw [h.home]
  exact ⟨hnul, hempty, hshort, h.walk_eq_node (d.isDirectory_start path) hwalk⟩

lemma isDirectory_path (h : Grown d e) {path : String} (hd : d.isDirectory path = true) :
    e.isDirectory path = true := by
  obtain ⟨n, hpath, hn⟩ := Disk.isDirectory_iff.1 hd
  exact Disk.isDirectory_iff.2 ⟨n, h.locate_eq_node hpath, h.isDirectory hn⟩

end Grown

end RoleAudit.Files
