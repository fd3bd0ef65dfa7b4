import RoleAudit.Proofs.Files.Keeping

/-!
# What is new on a disk

A disk that has grown has what was on it. This file says what it may have besides: which entries are
new, and what they lead to. Making directories puts up nothing but the directories that were missing
on the way, the last one and those above it. A new directory is told by a path that led nowhere
before and leads to it now.

* `Adds`: the disk has grown by new nodes of a kind, each under one name.
* `Disk.Free.adds_attach`: a new entry is the only one.
* `Filled`: a directory that was made where some path led nowhere.
* `Disk.adds_makeDirectoriesFrom`: making a directory fills its own path and those above it.
* `Disk.isAbove_split`: the directory of a path in normal form is above it.
* `Disk.adds_makeDirectories`: the directories that are made for a file are above it.
-/

namespace RoleAudit.Files

/-! ## New entries -/

/-- An entry of the second disk that is not on the first. -/
structure NewEntry (d e : Disk) (n : Nat) (name : String) (m : Nat) : Prop where
  there : (name, m) ∈ e.entries n
  missing : (name, m) ∉ d.entries n

/-- The second disk has grown by new nodes of a kind. Each of them is under one name. -/
structure Adds (kind : Nat → Prop) (d e : Disk) : Prop extends Grown d e where
  fresh : ∀ {n name m}, NewEntry d e n name m →
    d.node? m = none ∧ (∃ node, e.node? m = some node) ∧ kind m
  single : ∀ {n n' name name' m}, NewEntry d e n name m → NewEntry d e n' name' m →
    n = n' ∧ name = name'

variable {d e f : Disk} {kind kind' : Nat → Prop}

namespace Grown

/-- What has a number keeps one. -/
lemma exists_node? (h : Grown d e) {n : Nat} (hn : ∃ node, d.node? n = some node) :
    ∃ node, e.node? n = some node := by
  obtain ⟨content | ⟨p, es⟩ | target, hnode⟩ := hn
  · obtain ⟨content', hcontent⟩ := h.file hnode
    exact ⟨_, hcontent⟩
  · obtain ⟨more, hmore⟩ := h.directory hnode
    exact ⟨_, hmore⟩
  · exact ⟨_, h.link hnode⟩

lemma node?_eq_none (h : Grown d e) {n : Nat} (hn : e.node? n = none) : d.node? n = none := by
  by_contra hsome
  obtain ⟨node, hnode⟩ := h.exists_node? (Option.ne_none_iff_exists'.1 hsome)
  cases hn.symm.trans hnode

end Grown

namespace Adds

/-- Disks that differ in bytes only have the same entries. -/
lemma of_alike (h : Alike d e) : Adds kind d e where
  toGrown := h.grown
  fresh hnew := absurd (h.entries_eq _ ▸ hnew.there) hnew.missing
  single hnew := absurd (h.entries_eq _ ▸ hnew.there) hnew.missing

lemma refl (d : Disk) : Adds kind d d := of_alike (Alike.refl d)

lemma mono (h : Adds kind d e) (hkind : ∀ {m}, kind m → kind' m) : Adds kind' d e where
  toGrown := h.toGrown
  fresh hnew := by
    obtain ⟨hnone, hsome, hm⟩ := h.fresh hnew
    exact ⟨hnone, hsome, hkind hm⟩
  single := h.single

/-- What was not there in the beginning came first or came then, but not both. -/
lemma newEntry_cases (h : Adds kind d e) (h' : Adds kind e f) {n m : Nat} {name : String}
    (hnew : NewEntry d f n name m) :
    NewEntry d e n name m ∧ (∃ node, e.node? m = some node) ∨
      NewEntry e f n name m ∧ e.node? m = none := by
  by_cases hmid : (name, m) ∈ e.entries n
  · have hfirst : NewEntry d e n name m := ⟨hmid, hnew.missing⟩
    exact Or.inl ⟨hfirst, (h.fresh hfirst).2.1⟩
  · have hthen : NewEntry e f n name m := ⟨hnew.there, hmid⟩
    exact Or.inr ⟨hthen, (h'.fresh hthen).1⟩

lemma trans (h : Adds kind d e) (h' : Adds kind e f) : Adds kind d f where
  toGrown := h.toGrown.trans h'.toGrown
  fresh := by
    intro n name m hnew
    rcases h.newEntry_cases h' hnew with ⟨hfirst, hsome⟩ | ⟨hthen, hnone⟩
    · obtain ⟨hnone, -, hm⟩ := h.fresh hfirst
      exact ⟨hnone, h'.toGrown.exists_node? hsome, hm⟩
    · obtain ⟨-, hsome, hm⟩ := h'.fresh hthen
      exact ⟨h.toGrown.node?_eq_none hnone, hsome, hm⟩
  single := by
    intro n n' name name' m hnew hnew'
    rcases h.newEntry_cases h' hnew with ⟨hfirst, ⟨node, hnode⟩⟩ | ⟨hthen, hnone⟩ <;>
      rcases h.newEntry_cases h' hnew' with ⟨hfirst', ⟨node', hnode'⟩⟩ | ⟨hthen', hnone'⟩
    · exact h.single hfirst hfirst'
    · cases hnode.symm.trans hnone'
    · cases hnone.symm.trans hnode'
    · exact h'.single hthen hthen'

end Adds

/-! ## Putting something up -/

namespace Disk.Free

variable {directory : Nat} {name : String}

/-- Behind what is new there is nothing. -/
lemma node?_attach_gt (h : d.Free directory name) (fresh : Fresh) {n : Nat}
    (hlt : d.nodes.size < n) : (d.attach directory name fresh).node? n = none := by
  obtain ⟨parent, entries, hn⟩ := h.directory
  unfold node?
  rw [h.nodes_attach hn, Array.getElem?_eq_none]
  rw [Array.size_setIfInBounds, Array.size_push]
  exact hlt

lemma mem_entries_attach (h : d.Free directory name) (fresh : Fresh) {n m : Nat} {name' : String}
    (hmem : (name', m) ∈ (d.attach directory name fresh).entries n) :
    (name', m) ∈ d.entries n ∨ n = directory ∧ name' = name ∧ m = d.nodes.size := by
  by_cases hself : n = directory
  · subst hself
    obtain ⟨parent, entries, hn⟩ := h.directory
    have hold : d.entries n = entries := by
      unfold Disk.entries
      rw [show d.node? n = some (.directory parent entries) from hn]
    unfold Disk.entries at hmem
    rw [h.node?_attach_self hn fresh] at hmem
    rcases List.mem_append.1 hmem with hmem | hmem
    · exact Or.inl (hold ▸ hmem)
    · cases List.mem_singleton.1 hmem
      exact Or.inr ⟨rfl, rfl, rfl⟩
  · rcases Nat.lt_trichotomy n d.nodes.size with hlt | rfl | hlt
    · left
      unfold Disk.entries at hmem ⊢
      rwa [h.node?_attach_ne fresh hself hlt] at hmem
    · -- what is new has no entries
      unfold Disk.entries at hmem
      rw [h.node?_attach_new fresh] at hmem
      cases fresh <;> cases hmem
    · have hnone := h.node?_attach_gt fresh hlt
      unfold Disk.entries at hmem
      rw [hnone] at hmem
      cases hmem

/-- **What is put under a free name is all that is new.** -/
theorem adds_attach (h : d.Free directory name) (fresh : Fresh) :
    Adds (fun m => m = d.nodes.size) d (d.attach directory name fresh) where
  toGrown := h.grown_attach fresh
  fresh := by
    intro n name' m hnew
    rcases h.mem_entries_attach fresh hnew.there with hold | ⟨-, -, rfl⟩
    · exact absurd hold hnew.missing
    · exact ⟨Array.getElem?_size, ⟨_, h.node?_attach_new fresh⟩, rfl⟩
  single := by
    intro n n' name₁ name₂ m hnew hnew'
    rcases h.mem_entries_attach fresh hnew.there with hold | ⟨rfl, rfl, -⟩
    · exact absurd hold hnew.missing
    rcases h.mem_entries_attach fresh hnew'.there with hold | ⟨rfl, rfl, -⟩
    · exact absurd hold hnew'.missing
    exact ⟨rfl, rfl⟩

end Disk.Free

/-! ## Directories that were missing -/

/-- A directory of the second disk that one of the paths leads to. On the first disk that path led
nowhere. -/
def Filled (paths : String → Prop) (d e : Disk) (m : Nat) : Prop :=
  IsDirectory e.nodes m ∧ ∃ path, paths path ∧ d.isThere path = false ∧ e.locate path = .ok (.node m)

namespace Filled

variable {paths paths' : String → Prop} {m : Nat}

lemma mono (h : Filled paths d e m) (hpaths : ∀ {path}, paths path → paths' path) :
    Filled paths' d e m := by
  obtain ⟨hdir, path, hpath, hmissing, hleads⟩ := h
  exact ⟨hdir, path, hpaths hpath, hmissing, hleads⟩

/-- It is there later as well. -/
lemma later (h : Filled paths d e m) (hf : Grown e f) : Filled paths d f m := by
  obtain ⟨hdir, path, hpath, hmissing, hleads⟩ := h
  exact ⟨hf.isDirectory hdir, path, hpath, hmissing, hf.locate_eq_node hleads⟩

/-- It was missing before as well. -/
lemma earlier (h : Filled paths e f m) (hd : Grown d e) : Filled paths d f m := by
  obtain ⟨hdir, path, hpath, hmissing, hleads⟩ := h
  refine ⟨hdir, path, hpath, ?_, hleads⟩
  by_contra hthere
  obtain ⟨n, hn⟩ := Disk.isThere_iff.1 (Bool.not_eq_false _ ▸ hthere)
  rw [Disk.isThere_iff.2 ⟨n, hd.locate_eq_node hn⟩] at hmissing
  cases hmissing

end Filled

namespace Disk

variable {path : String}

/-- A path is above another one if that has more parts behind the parts of the first. -/
def IsAbove (path longer : String) : Prop := ∃ rest, rest ≠ [] ∧ Extends path longer rest

lemma IsAbove.trans {path longer longest : String} (h : IsAbove path longer)
    (h' : IsAbove longer longest) : IsAbove path longest := by
  obtain ⟨rest, hrest, hextends⟩ := h
  obtain ⟨rest', -, hextends'⟩ := h'
  refine ⟨rest ++ rest', by simp [hrest], hextends.nonempty,
    hextends.isPrefix.trans hextends'.isPrefix, ?_⟩
  rw [hextends'.steps, hextends.steps, List.append_assoc]

/-- A path, or one above it. -/
def IsUpTo (path longer : String) : Prop := path = longer ∨ IsAbove path longer

lemma Needs.isAbove (h : d.Needs path) : IsAbove (above path).1 path :=
  ⟨_, List.cons_ne_nil _ _, extends_above h.1 h.2.1⟩

/-- What is made at a free name at the end of a path fills the path. -/
lemma filled_attach {directory : Nat} {name : String}
    (h : d.locate path = .ok (.vacant directory name)) :
    Filled (· = path) d (d.attach directory name .directory) d.nodes.size := by
  refine ⟨⟨_, _, (free_of_locate h).node?_attach_new .directory⟩, path, rfl, ?_,
    locate_attach_directory h⟩
  unfold isThere
  rw [h]

/-- A directory that can be made is all that is new. -/
lemma adds_makeDirectory (h : d.makeDirectory path = .ok e) : Adds (Filled (· = path) d e) d e := by
  unfold makeDirectory at h
  split at h
  · split at h <;> cases h
  · cases h
  · cases h
  · next directory name hvacant =>
    cases h
    have htarget := locate_target_of_entry hvacant
    refine ((free_of_locate htarget).adds_attach .directory).mono ?_
    rintro _ rfl
    exact filled_attach htarget

lemma adds_makeLast {failed : Option Fault} (h : d.makeLast path = (failed, e)) :
    Adds (Filled (· = path) d e) d e := by
  rcases failed with _ | fault
  · unfold makeLast at h
    split at h
    · next hmade =>
      cases h
      exact adds_makeDirectory hmade
    · cases h
    · split at h
      · cases h
        exact Adds.refl d
      · cases h
  · rw [(makeLast_eq_some h).1]
    exact Adds.refl d

/-- **Making a directory fills its path and those above it**, as far as they were missing, also if
it fails. -/
theorem adds_makeDirectoriesFrom {depth : Nat} {failed : Option Fault} (hpath : "." ∉ steps path)
    (hdepth : path.length < depth) (h : d.makeDirectoriesFrom depth path = (failed, e)) :
    Adds (Filled (IsUpTo · path) d e) d e := by
  induction depth generalizing d e path failed with
  | zero => omega
  | succ depth ih =>
    rcases makeDirectoriesFrom_cases hpath h with ⟨-, hlast⟩ | ⟨hneeds, first, d', hfirst, hthen⟩
    · exact (adds_makeLast hlast).mono fun hm => hm.mono Or.inl
    obtain ⟨habove, hshort⟩ := hneeds.shorter hpath hdepth
    -- what is up to the path above is above the path
    have hbefore : Adds (Filled (IsUpTo · path) d d') d d' := by
      refine (ih habove hshort hfirst).mono fun hm => hm.mono ?_
      rintro p (rfl | hp)
      · exact Or.inr hneeds.isAbove
      · exact Or.inr (hp.trans hneeds.isAbove)
    rcases hthen with ⟨-, hlast⟩ | ⟨fault, -, -, -, rfl⟩
    · have hafter := adds_makeLast hlast
      refine (hbefore.mono fun hm => ?_).trans (hafter.mono fun hm => ?_)
      · exact hm.later hafter.toGrown
      · exact (hm.earlier hbefore.toGrown).mono Or.inl
    · exact hbefore

/-- A path without parts leads to a directory on every disk. -/
lemma steps_ne_nil_of_locate {m : Nat} (hmissing : d.isThere path = false)
    (hleads : e.locate path = .ok (.node m)) : steps path ≠ [] := by
  intro hnil
  obtain ⟨hnul, hempty, hshort, -⟩ := (locate_eq_ok_iff e path .target _).1 hleads
  have hthere : d.locate path = .ok (.node (if Path.isAbsolute path then 0 else d.home)) := by
    rw [locate_eq_ok_iff, hnil, walk_nil]
    exact ⟨hnul, hempty, hshort, rfl⟩
  rw [isThere_iff.2 ⟨_, hthere⟩] at hmissing
  cases hmissing

/-! ## The directory of a file -/

/-- A path whose last part is empty is empty or ends in a slash. -/
lemma eq_empty_or_endsInSlash_of_split {s : String} (h : (Path.split s).2 = "") :
    s = "" ∨ Path.endsInSlash s = true := by
  have hslashes : ∀ (front : String) (n : Nat),
      Path.endsInSlash (front ++ slashes (n + 1)) = true := by
    intro front n
    simp [Path.endsInSlash, slashes, List.replicate_succ']
  obtain ⟨n, hs, -, hhead⟩ := exists_eq_split s
  rw [h, String.append_empty] at hs
  rcases n with _ | n
  · have hwhole : s = (Path.split s).1 := by
      conv_lhs => rw [hs]
      exact String.append_empty
    rcases hhead rfl with hnone | ⟨m, hm⟩
    · exact Or.inl (hwhole.trans hnone)
    · right
      have hends := hslashes "" m
      rwa [String.empty_append, ← hm, ← hwhole] at hends
  · right
    rw [hs]
    exact hslashes _ n

lemma intercalate_ne_empty {parts : List String}
    (h : ∀ part ∈ parts, part ≠ "" ∧ '/' ∉ part.toList) (hne : parts ≠ []) :
    "/".intercalate parts ≠ "" := by
  intro hempty
  have hsteps := steps_intercalate h
  rw [hempty, steps_empty] at hsteps
  exact hne hsteps.symm

/-- A text that is put together from parts ends in the last of them. -/
lemma endsInSlash_intercalate {parts : List String}
    (h : ∀ part ∈ parts, part ≠ "" ∧ '/' ∉ part.toList) :
    Path.endsInSlash ("/".intercalate parts) = false := by
  induction parts with
  | nil => decide
  | cons part parts ih =>
    rcases parts with _ | ⟨next, parts⟩
    · rw [String.intercalate_singleton]
      exact Path.endsInSlash_of_slash_not_mem (h part List.mem_cons_self).2
    · have hrest := fun p hp => h p (List.mem_cons_of_mem part hp)
      have hne := intercalate_ne_empty hrest (List.cons_ne_nil _ _)
      rw [String.intercalate_cons_cons, Path.endsInSlash_append hne]
      exact ih hrest

/-- A normal form that ends in a slash is nothing but slashes. -/
lemma steps_normalize_eq_nil {s : String} (h : (Path.split (Path.normalize s)).2 = "") :
    steps (Path.normalize s) = [] := by
  rcases normalize_cases s with hdot | ⟨parts, hparts, htext⟩
  · rw [hdot] at h
    exact absurd h (by decide +kernel)
  have hnames : ∀ part ∈ parts, part ≠ "" ∧ '/' ∉ part.toList := fun part hpart =>
    ⟨(hparts part hpart).1, (hparts part hpart).2.2⟩
  have hsteps : steps (Path.normalize s) = parts := by
    rw [htext, steps_root_append, steps_intercalate hnames]
  rcases eq_empty_or_endsInSlash_of_split h with hempty | hends
  · rw [hempty, steps_empty]
  · rw [hsteps]
    by_contra hne
    rw [htext, Path.endsInSlash_append (intercalate_ne_empty hnames hne),
      endsInSlash_intercalate hnames] at hends
    cases hends

/-- **The directory of a path in normal form is above it**, unless it has no parts. -/
theorem isAbove_split {s : String} (h : steps (Path.split (Path.normalize s)).1 ≠ []) :
    IsAbove (Path.split (Path.normalize s)).1 (Path.normalize s) := by
  have hsteps := steps_split (Path.normalize s)
  have htail : (Path.split (Path.normalize s)).2 ≠ "" := by
    intro hempty
    rw [steps_normalize_eq_nil hempty] at hsteps
    exact h (List.append_eq_nil_iff.1 hsteps.symm).1
  rw [if_neg htail] at hsteps
  refine ⟨_, List.cons_ne_nil _ _, ?_, split_isPrefix _, hsteps⟩
  intro hempty
  rw [hempty, steps_empty] at h
  exact h rfl

/-- What is up to the directory of a file is above the file. -/
lemma IsUpTo.isAbove {s p : String} (h : IsUpTo p (Path.split (Path.normalize s)).1)
    (hp : steps p ≠ []) : IsAbove p (Path.normalize s) := by
  rcases h with rfl | habove
  · exact isAbove_split hp
  · refine habove.trans (isAbove_split ?_)
    obtain ⟨rest, -, hextends⟩ := habove
    rw [hextends.steps]
    simp [hp]

/-- **The directories that are made for a file are above it.** -/
theorem adds_makeDirectories {failed : Option Fault} {s : String}
    (h : d.makeDirectories (Path.split (Path.normalize s)).1 = (failed, e)) :
    Adds (Filled (IsAbove · (Path.normalize s)) d e) d e := by
  refine (adds_makeDirectoriesFrom (dot_not_mem_steps_split s) (Nat.lt_succ_self _) h).mono ?_
  rintro m ⟨hdir, p, hp, hmissing, hleads⟩
  exact ⟨hdir, p, hp.isAbove (steps_ne_nil_of_locate hmissing hleads), hmissing, hleads⟩

end Disk

end RoleAudit.Files
