import RoleAudit.Proofs.Files.Growth

/-!
# A file that was opened for writing is found again

A path that is opened for writing leads to a file, or to a free name in a directory, where a file is
made. Either way the path leads to an empty file afterwards, and to the one that was opened: a new
entry changes nothing on the way to it, also where the way leads through links.

* `Disk.Free.grown_attach`: a disk with a new entry has grown.
* `Disk.Free.walk_attach`: a path that led to a free name leads to the node that was put there.
* `Disk.openNew_spec`: the file that was opened is empty, and is where the path leads.
-/

namespace RoleAudit.Files.Disk

variable {d : Disk} {directory : Nat} {name : String}

/-! ## What a new entry changes -/

/-- The name is free in a directory in which it is not found. -/
lemma not_mem_names_of_lookup? {parent : Nat} {entries : List (String × Nat)}
    (hd : d.node? directory = some (.directory parent entries))
    (hfree : d.lookup? directory name = none) : name ∉ entries.map Prod.fst := by
  intro hmem
  obtain ⟨entry, hentry, rfl⟩ := List.mem_map.1 hmem
  unfold lookup? Disk.entries at hfree
  rw [hd, Option.map_eq_none_iff, List.find?_eq_none] at hfree
  exact hfree entry hentry (beq_self_eq_true _)

lemma lt_size_of_node? {n : Nat} {node : Node} (hn : d.node? n = some node) : n < d.nodes.size :=
  (Array.getElem?_eq_some_iff.1 hn).1

namespace Free

variable {parent : Nat} {entries : List (String × Nat)}

/-- The nodes with one more: the directory lists it, and it stands behind the others. -/
lemma nodes_attach (h : d.Free directory name)
    (hd : d.node? directory = some (.directory parent entries)) (fresh : Fresh) :
    (d.attach directory name fresh).nodes =
      (d.nodes.push (fresh.node directory)).setIfInBounds directory
        (.directory parent (entries ++ [(name, d.nodes.size)])) := by
  have hfree : ¬ (name ∈ entries.map Prod.fst ∨ Path.isName name = false) := by
    rw [not_or, Bool.not_eq_false]
    exact ⟨not_mem_names_of_lookup? hd h.lookup, h.isName⟩
  unfold node? at hd
  unfold attach
  split
  · next p es hes =>
    rw [hd] at hes
    cases hes
    rw [dif_neg hfree]
  · next hno => exact absurd hd (hno _ _)

lemma node?_attach_new (h : d.Free directory name) (fresh : Fresh) :
    (d.attach directory name fresh).node? d.nodes.size = some (fresh.node directory) := by
  obtain ⟨parent, entries, hd⟩ := h.directory
  have hne : directory ≠ d.nodes.size := Nat.ne_of_lt (lt_size_of_node? hd)
  unfold node?
  rw [h.nodes_attach hd, Array.getElem?_setIfInBounds_ne hne, Array.getElem?_push_size]

lemma node?_attach_self (h : d.Free directory name)
    (hd : d.node? directory = some (.directory parent entries)) (fresh : Fresh) :
    (d.attach directory name fresh).node? directory =
      some (.directory parent (entries ++ [(name, d.nodes.size)])) := by
  have hlt : directory < (d.nodes.push (fresh.node directory)).size := by
    rw [Array.size_push]
    exact Nat.lt_succ_of_lt (lt_size_of_node? hd)
  unfold node?
  rw [h.nodes_attach hd, Array.getElem?_setIfInBounds_self, if_pos hlt]

lemma node?_attach_ne (h : d.Free directory name) (fresh : Fresh) {n : Nat} (hne : n ≠ directory)
    (hlt : n < d.nodes.size) : (d.attach directory name fresh).node? n = d.node? n := by
  obtain ⟨parent, entries, hd⟩ := h.directory
  unfold node?
  rw [h.nodes_attach hd, Array.getElem?_setIfInBounds_ne hne.symm, Array.getElem?_push,
    if_neg (Nat.ne_of_lt hlt)]

/-- What is no directory is as it was. -/
lemma node?_attach_of_other (h : d.Free directory name) (fresh : Fresh) {n : Nat} {node : Node}
    (hn : d.node? n = some node) (hother : ∀ p es, node ≠ .directory p es) :
    (d.attach directory name fresh).node? n = some node := by
  have hne : n ≠ directory := by
    rintro rfl
    obtain ⟨p, es, hes⟩ := h.directory
    have hsome : some node = some (.directory p es) := hn.symm.trans hes
    exact hother p es (Option.some.inj hsome)
  rw [h.node?_attach_ne fresh hne (lt_size_of_node? hn), hn]

/-- **A disk with a new entry has grown.** -/
theorem grown_attach (h : d.Free directory name) (fresh : Fresh) :
    Grown d (d.attach directory name fresh) where
  home := by
    unfold attach
    split
    · split <;> rfl
    · rfl
  homePath := by
    unfold attach
    split
    · split <;> rfl
    · rfl
  file := by
    intro n content hn
    exact ⟨content, h.node?_attach_of_other fresh hn fun _ _ hno => nomatch hno⟩
  directory := by
    intro n p es hn
    by_cases heq : n = directory
    · subst heq
      exact ⟨_, h.node?_attach_self hn fresh⟩
    · refine ⟨[], ?_⟩
      rw [h.node?_attach_ne fresh heq (lt_size_of_node? hn), hn, List.append_nil]
  link := by
    intro n target hn
    exact h.node?_attach_of_other fresh hn fun _ _ hno => nomatch hno

/-- The new entry is found under its name. -/
lemma lookup?_attach_self (h : d.Free directory name) (fresh : Fresh) :
    (d.attach directory name fresh).lookup? directory name = some d.nodes.size := by
  obtain ⟨parent, entries, hes⟩ := h.directory
  have hd : d.node? directory = some (.directory parent entries) := hes
  have hnone : entries.find? (fun e => e.1 == name) = none := by
    have hfree := h.lookup
    unfold lookup? Disk.entries at hfree
    rwa [hd, Option.map_eq_none_iff] at hfree
  unfold lookup? Disk.entries
  rw [h.node?_attach_self hd fresh]
  simp only [List.find?_append]
  rw [hnone, Option.none_or, List.find?_cons_of_pos (by exact beq_self_eq_true name), Option.map_some]

/-! ## The way to something new -/

section Way

variable {aim : Aim} {asDirectory : Bool} {links n : Nat} {parts : List String}

/-- At the end of the way stands what is new. Where it stands a file could be made, if one was to
be made. -/
lemma next_attach_self (hfree : d.Free directory name) (fresh : Fresh)
    (h : d.next aim asDirectory links directory name [] =
      .finished (.ok (.vacant directory name))) :
    (d.attach directory name fresh).next aim asDirectory links directory name [] =
        (d.attach directory name fresh).arrive aim asDirectory links directory [] d.nodes.size ∧
      (aim = .newFile → asDirectory = false) := by
  unfold Disk.next at h ⊢
  split at h
  · cases h
  rw [if_neg ‹_›]
  split at h
  · cases h
  rw [if_neg ‹_›]
  split at h
  · cases h
  next hmust =>
    rw [if_neg hmust]
    split at h
    · cases h
    rw [if_neg ‹_›, hfree.lookup?_attach_self fresh]
    refine ⟨rfl, ?_⟩
    rintro rfl
    simpa using hmust

/-- **A path that led to a free name leads to what was put there**, if its last part does. -/
theorem walk_attach (hfree : d.Free directory name) (fresh : Fresh)
    (hlast : ∀ asDirectory links, (aim = .newFile → asDirectory = false) →
      (match (d.attach directory name fresh).arrive aim asDirectory links directory []
          d.nodes.size with
        | .finished result => result
        | .onward mustBe links n parts =>
          (d.attach directory name fresh).walk aim mustBe links n parts) = .ok (.node d.nodes.size))
    (hn : IsDirectory d.nodes n)
    (h : d.walk aim asDirectory links n parts = .ok (.vacant directory name)) :
    (d.attach directory name fresh).walk aim asDirectory links n parts =
      .ok (.node d.nodes.size) := by
  -- the ways on both disks stay together up to the last part, where the new node stands
  fun_induction Disk.walk d aim asDirectory links n parts with
  | case1 => cases h
  | case2 asDirectory links _ _ _ _ hnext =>
    rw [h] at hnext
    obtain ⟨rfl, rfl, rfl, -⟩ := next_eq_vacant hnext
    obtain ⟨hself, hfile⟩ := hfree.next_attach_self fresh hnext
    rw [walk_cons, hself]
    exact hlast asDirectory links hfile
  | case3 _ _ _ _ _ _ _ _ _ hnext ih =>
    rw [walk_cons, (hfree.grown_attach fresh).next_eq_onward hn hnext]
    exact ih (isDirectory_of_next hn hnext) h

end Way

/-- A path that led to a free name leads to what was put there, if its last part does. -/
lemma locate_attach (hfree : d.Free directory name) (fresh : Fresh) {aim : Aim} {path : String}
    (hlast : ∀ asDirectory links, (aim = .newFile → asDirectory = false) →
      (match (d.attach directory name fresh).arrive aim asDirectory links directory []
          d.nodes.size with
        | .finished result => result
        | .onward mustBe links n parts =>
          (d.attach directory name fresh).walk aim mustBe links n parts) = .ok (.node d.nodes.size))
    (h : d.locate path aim = .ok (.vacant directory name)) :
    (d.attach directory name fresh).locate path aim = .ok (.node d.nodes.size) := by
  rw [locate_eq_ok_iff] at h ⊢
  obtain ⟨hnul, hempty, hshort, hwalk⟩ := h
  rw [(hfree.grown_attach fresh).home]
  exact ⟨hnul, hempty, hshort, hfree.walk_attach fresh hlast (d.isDirectory_start path) hwalk⟩

end Free

/-- **A path that leads to nothing ends at a free name.** -/
theorem free_of_locate {path : String} {aim : Aim}
    (h : d.locate path aim = .ok (.vacant directory name)) : d.Free directory name := by
  obtain ⟨-, -, -, hwalk⟩ := (locate_eq_ok_iff d path aim _).1 h
  exact free_of_walk (d.isDirectory_start path) (fun _ hpart => not_slash_of_mem_steps hpart) hwalk

/-- A file that is made at the end of a path is where the path leads. -/
lemma locate_attach_file {path : String}
    (h : d.locate path .newFile = .ok (.vacant directory name)) :
    (d.attach directory name .file).locate path .newFile = .ok (.node d.nodes.size) := by
  have hfree := free_of_locate h
  refine hfree.locate_attach .file ?_ h
  intro asDirectory links hfile
  unfold arrive
  rw [hfree.node?_attach_new, hfile rfl]
  rfl

/-- A directory that is made at the end of a path is where the path leads. -/
lemma locate_attach_directory {path : String} {aim : Aim}
    (h : d.locate path aim = .ok (.vacant directory name)) :
    (d.attach directory name .directory).locate path aim = .ok (.node d.nodes.size) := by
  have hfree := free_of_locate h
  refine hfree.locate_attach .directory ?_ h
  intro asDirectory links _
  unfold arrive
  rw [hfree.node?_attach_new]
  exact walk_nil ..

/-! ## Opening for writing -/

/-- What can be opened for writing is found by following its path. -/
lemma locate_target_of_newFile {path : String} {place : Place}
    (h : d.locate path .newFile = .ok place) : d.locate path = .ok place := by
  rcases d.locate_aim_cases path .newFile with heq | ⟨hno, -⟩ | ⟨-, hfails⟩
  · rw [← heq, h]
  · cases hno
  · rw [h] at hfails
    cases hfails

/-- A file that was opened is opened again by the same path, and is empty. -/
lemma locate_newFile_of_openNew {path : String} {n : Nat} {e : Disk}
    (h : d.openNew path = .ok (n, e)) :
    e.locate path .newFile = .ok (.node n) ∧ e.node? n = some (.file []) := by
  unfold openNew at h
  split at h
  · cases h
  · next hvacant =>
    cases h
    exact ⟨locate_attach_file hvacant, (free_of_locate hvacant).node?_attach_new .file⟩
  · next m hnode =>
    rcases hm : d.node? m with _ | ⟨content⟩ | ⟨p, es⟩ | ⟨target⟩ <;> rw [hm] at h
    · cases h
    · cases h
      refine ⟨?_, node?_setContent hm []⟩
      rw [← (WrittenAt.setContent d n []).locate_eq, hnode]
    · cases h
    · cases h

/-- **The file that was opened is empty, and is where the path leads.** -/
theorem openNew_spec {path : String} {n : Nat} {e : Disk} (h : d.openNew path = .ok (n, e)) :
    e.locate path = .ok (.node n) ∧ e.node? n = some (.file []) := by
  obtain ⟨hpath, hfile⟩ := locate_newFile_of_openNew h
  exact ⟨locate_target_of_newFile hpath, hfile⟩

/-- Opening a file takes nothing away. -/
lemma grown_openNew {path : String} {n : Nat} {e : Disk} (h : d.openNew path = .ok (n, e)) :
    Grown d e := by
  unfold openNew at h
  split at h
  · cases h
  · next hvacant =>
    cases h
    exact (free_of_locate hvacant).grown_attach .file
  · next m hnode =>
    rcases hm : d.node? m with _ | ⟨content⟩ | ⟨p, es⟩ | ⟨target⟩ <;> rw [hm] at h
    · cases h
    · cases h
      exact (WrittenAt.setContent d n []).toAlike.grown
    · cases h
    · cases h

end RoleAudit.Files.Disk
