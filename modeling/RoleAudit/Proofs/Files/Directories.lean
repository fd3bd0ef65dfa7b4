import RoleAudit.Proofs.Files.NewFile

/-!
# Making directories again

A directory is made after those above it, as far as they are missing, and what was made before a
failure stays. Making it a second time changes nothing more: what was made is there, and what could
not be made still cannot, for the same reason.

* `Disk.grown_makeDirectoriesFrom`: nothing is taken away.
* `Disk.isDirectory_of_makeDirectoriesFrom`: without a failure the directory is there afterwards.
* `Disk.makeDirectories_of_isDirectory`: a directory that is there is not made.
* `Disk.makeDirectories_failed`: after a failure the same failure comes again.
-/

namespace RoleAudit.Files.Disk

variable {d e : Disk} {path : String} {depth : Nat}

/-! ## The directory above -/

/-- The directory above the last part of a path, and that part; a slash at the end does not count. -/
def above (path : String) : String × String :=
  let parts := Path.split path
  if parts.2.isEmpty then Path.split parts.1 else parts

lemma steps_above (path : String) :
    steps path = steps (above path).1 ++ (if (above path).2 = "" then [] else [(above path).2]) := by
  unfold above
  by_cases hempty : (Path.split path).2 = ""
  · have hpath := steps_split path
    rw [if_pos hempty, List.append_nil] at hpath
    have htrue : "".isEmpty = true := rfl
    simp only [hempty, htrue, if_pos]
    rw [hpath]
    exact steps_split _
  · have hfull : (Path.split path).2.isEmpty = false := by simpa using hempty
    simp only [hfull, if_neg Bool.false_ne_true]
    exact steps_split path

lemma above_isPrefix (path : String) : (above path).1.toList <+: path.toList := by
  unfold above
  dsimp only
  split
  · exact (split_isPrefix _).trans (split_isPrefix path)
  · exact split_isPrefix path

lemma length_above_lt (htail : (above path).2 ≠ "") : (above path).1.length < path.length := by
  have hpos : 0 < (above path).2.length := by
    rw [Nat.pos_iff_ne_zero]
    simpa using htail
  have hfirst := length_split_le path
  have hsecond := length_split_le (Path.split path).1
  unfold above at hpos ⊢
  dsimp only at hpos ⊢
  split at hpos
  · rw [if_pos ‹_›]
    omega
  · rw [if_neg ‹_›]
    omega

/-- A path extends the one of the directory above it. -/
lemma extends_above (hhead : (above path).1 ≠ "") (htail : (above path).2 ≠ "") :
    Extends (above path).1 path [(above path).2] where
  nonempty := hhead
  isPrefix := above_isPrefix path
  steps := by
    have h := steps_above path
    rwa [if_neg htail] at h

/-! ## Making the last directory -/

/-- A name is taken. -/
def IsTaken (fault : Fault) : Prop := ∃ p, fault = .refused ⟨.alreadyExists, p⟩

/-- A path that ends at a free name does so whatever is to be done there. -/
lemma locate_target_of_entry {n : Nat} {name : String}
    (h : d.locate path .entry = .ok (.vacant n name)) : d.locate path = .ok (.vacant n name) := by
  rcases d.locate_aim_cases path .entry with heq | ⟨-, m, hm⟩ | ⟨hno, -⟩
  · rw [← heq, h]
  · rw [h] at hm
    cases hm
  · cases hno

/-- A directory that can be made is there. -/
lemma makeDirectory_eq_ok (h : d.makeDirectory path = .ok e) :
    Grown d e ∧ e.isDirectory path = true := by
  unfold makeDirectory at h
  split at h
  · split at h <;> cases h
  · cases h
  · cases h
  · next directory name hvacant =>
    cases h
    have hfree := free_of_locate hvacant
    have hnew := hfree.node?_attach_new .directory
    have hleads := locate_attach_directory (locate_target_of_entry hvacant)
    exact ⟨hfree.grown_attach .directory, isDirectory_iff.2 ⟨_, hleads, _, _, hnew⟩⟩

/-- A directory that is there is not made. -/
lemma makeDirectory_of_isThere (h : d.isThere path = true) :
    d.makeDirectory path = .error (.refused ⟨.alreadyExists, path⟩) := by
  obtain ⟨n, hn⟩ := isThere_iff.1 h
  have hentry : ∃ m, d.locate path .entry = .ok (.node m) := by
    rcases d.locate_aim_cases path .entry with heq | ⟨-, hm⟩ | ⟨hno, -⟩
    · exact ⟨n, heq.trans hn⟩
    · exact hm
    · cases hno
  obtain ⟨m, hm⟩ := hentry
  unfold makeDirectory
  rw [hm]

/-- Makes the last directory of a path, unless it is there. -/
def makeLast (d : Disk) (path : String) : Option Fault × Disk :=
  match d.makeDirectory path with
  | .ok d => (none, d)
  | .error .nul => (some .nul, d)
  | .error fault => if d.isDirectory path then (none, d) else (some fault, d)

lemma makeLast_of_isDirectory (h : d.isDirectory path = true) : d.makeLast path = (none, d) := by
  unfold makeLast
  rw [makeDirectory_of_isThere (isThere_of_isDirectory h)]
  simp only [h, if_pos]

lemma makeLast_eq_none (h : d.makeLast path = (none, e)) :
    Grown d e ∧ e.isDirectory path = true := by
  unfold makeLast at h
  split at h
  · next hmade =>
    cases h
    exact makeDirectory_eq_ok hmade
  · cases h
  · split at h
    · cases h
      exact ⟨Grown.refl d, ‹_›⟩
    · cases h

/-- A failure leaves the disk as it was, and nothing at the end of the path, unless the name is
taken. -/
lemma makeLast_eq_some {fault : Fault} (h : d.makeLast path = (some fault, e)) :
    e = d ∧ (¬ IsTaken fault → d.isThere path = false) := by
  have hfails : e = d ∧ d.makeDirectory path = .error fault := by
    unfold makeLast at h
    split at h
    · cases h
    · next hnul =>
      cases h
      exact ⟨rfl, hnul⟩
    · next hfault =>
      split at h
      · cases h
      · cases h
        exact ⟨rfl, hfault⟩
  refine ⟨hfails.1, fun hfree => ?_⟩
  by_contra hthere
  have htaken := makeDirectory_of_isThere (Bool.not_eq_false _ ▸ hthere)
  rw [hfails.2] at htaken
  exact hfree ⟨path, Except.error.inj htaken⟩

lemma grown_makeLast (d : Disk) (path : String) : Grown d (d.makeLast path).2 := by
  rcases h : d.makeLast path with ⟨_ | fault, e⟩
  · exact (makeLast_eq_none h).1
  · rw [(makeLast_eq_some h).1]
    exact Grown.refl d

/-! ## Making those above it first -/

/-- The directory above is missing. -/
def Needs (d : Disk) (path : String) : Prop :=
  (above path).1 ≠ "" ∧ (above path).2 ≠ "" ∧ d.isThere (above path).1 = false

/-- What a path is split into, in the words of the definition. -/
lemma above_eq (path : String) :
    (let parts := Path.split path
      if parts.2.isEmpty then Path.split parts.1 else parts) = above path := rfl

lemma makeDirectoriesFrom_of_not_needs (h : ¬ d.Needs path) (depth : Nat) :
    d.makeDirectoriesFrom (depth + 1) path = d.makeLast path := by
  have hneeded : (!(above path).1.isEmpty && !(above path).2.isEmpty &&
      !d.isThere (above path).1) = false := by
    unfold Needs at h
    rw [Bool.eq_false_iff]
    simpa [and_assoc] using h
  unfold makeDirectoriesFrom
  rw [above_eq]
  simp only [hneeded, if_neg Bool.false_ne_true, Bool.false_and]
  rfl

lemma needed_of_needs (h : d.Needs path) :
    (!(above path).1.isEmpty && !(above path).2.isEmpty && !d.isThere (above path).1) = true := by
  obtain ⟨hhead, htail, hthere⟩ := h
  rw [hthere]
  simp [hhead, htail]

/-- The last directory is made when those above it are there, or something else is where one of them
would be. -/
lemma makeDirectoriesFrom_of_first (h : d.Needs path) (hdot : (above path).2 ≠ ".")
    {failed : Option Fault} (hfirst : d.makeDirectoriesFrom depth (above path).1 = (failed, e))
    (hfailed : ∀ fault, failed = some fault → IsTaken fault) :
    d.makeDirectoriesFrom (depth + 1) path = e.makeLast path := by
  have hlast : ((above path).2 == ".") = false := by simpa using hdot
  unfold makeDirectoriesFrom
  rw [above_eq]
  simp only [needed_of_needs h, if_pos, hfirst, hlast, Bool.and_false, if_neg Bool.false_ne_true]
  rcases failed with _ | fault
  · rfl
  · obtain ⟨p, rfl⟩ := hfailed fault rfl
    rfl

lemma makeDirectoriesFrom_of_failed (h : d.Needs path) {fault : Fault}
    (hfirst : d.makeDirectoriesFrom depth (above path).1 = (some fault, e))
    (hfault : ¬ IsTaken fault) :
    d.makeDirectoriesFrom (depth + 1) path = (some fault, e) := by
  unfold makeDirectoriesFrom
  rw [above_eq]
  simp only [needed_of_needs h, if_pos, hfirst]
  split
  · next p hp =>
    cases hp
    exact absurd ⟨_, rfl⟩ hfault
  · next hno => cases hno
  · next hsome =>
    cases hsome
    rfl

/-- A path in which no part is `.` has none in the directory above it, or behind that. -/
lemma dot_not_mem_above (hpath : "." ∉ steps path) (htail : (above path).2 ≠ "") :
    "." ∉ steps (above path).1 ∧ (above path).2 ≠ "." := by
  have hsteps := steps_above path
  rw [if_neg htail] at hsteps
  rw [hsteps, List.mem_append, not_or, List.mem_singleton] at hpath
  exact ⟨hpath.1, Ne.symm hpath.2⟩

/-- **How making a directory goes**: the last one is made at once, or after those above it, or one of
those cannot be made. -/
theorem makeDirectoriesFrom_cases {failed : Option Fault} (hpath : "." ∉ steps path)
    (h : d.makeDirectoriesFrom (depth + 1) path = (failed, e)) :
    ¬ d.Needs path ∧ d.makeLast path = (failed, e) ∨
      d.Needs path ∧ ∃ first d', d.makeDirectoriesFrom depth (above path).1 = (first, d') ∧
        ((∀ fault, first = some fault → IsTaken fault) ∧ d'.makeLast path = (failed, e) ∨
          ∃ fault, first = some fault ∧ ¬ IsTaken fault ∧ failed = some fault ∧ e = d') := by
  by_cases hneeds : d.Needs path
  · right
    refine ⟨hneeds, ?_⟩
    have hdot := (dot_not_mem_above hpath hneeds.2.1).2
    rcases hfirst : d.makeDirectoriesFrom depth (above path).1 with ⟨first, d'⟩
    refine ⟨first, d', rfl, ?_⟩
    by_cases htaken : ∀ fault, first = some fault → IsTaken fault
    · rw [makeDirectoriesFrom_of_first hneeds hdot hfirst htaken] at h
      exact Or.inl ⟨htaken, h⟩
    · push Not at htaken
      obtain ⟨fault, rfl, hfault⟩ := htaken
      rw [makeDirectoriesFrom_of_failed hneeds hfirst hfault] at h
      cases h
      exact Or.inr ⟨fault, rfl, hfault, rfl, rfl⟩
  · rw [makeDirectoriesFrom_of_not_needs hneeds] at h
    exact Or.inl ⟨hneeds, h⟩

/-- What is above a path is shorter and has no part `.`, if the path has none. -/
lemma Needs.shorter (h : d.Needs path) (hpath : "." ∉ steps path)
    (hdepth : path.length < depth + 1) :
    "." ∉ steps (above path).1 ∧ (above path).1.length < depth := by
  have hshort := length_above_lt h.2.1
  exact ⟨(dot_not_mem_above hpath h.2.1).1, by omega⟩

/-- **Nothing is taken away.** -/
theorem grown_makeDirectoriesFrom {failed : Option Fault} (hpath : "." ∉ steps path)
    (hdepth : path.length < depth) (h : d.makeDirectoriesFrom depth path = (failed, e)) :
    Grown d e := by
  induction depth generalizing e path failed with
  | zero => omega
  | succ depth ih =>
    rcases makeDirectoriesFrom_cases hpath h with ⟨-, hmade⟩ | ⟨hneeds, first, d', hfirst, hthen⟩
    · have hgrown := d.grown_makeLast path
      rwa [hmade] at hgrown
    obtain ⟨habove, hshort⟩ := hneeds.shorter hpath hdepth
    have hgrown := ih habove hshort hfirst
    rcases hthen with ⟨-, hmade⟩ | ⟨fault, -, -, -, rfl⟩
    · have hlast := d'.grown_makeLast path
      rw [hmade] at hlast
      exact hgrown.trans hlast
    · exact hgrown

/-- **Without a failure the directory is there afterwards.** -/
theorem isDirectory_of_makeDirectoriesFrom (hpath : "." ∉ steps path) (hdepth : path.length < depth)
    (h : d.makeDirectoriesFrom depth path = (none, e)) : e.isDirectory path = true := by
  rcases depth with _ | depth
  · omega
  rcases makeDirectoriesFrom_cases hpath h with
    ⟨-, hmade⟩ | ⟨-, first, d', -, ⟨-, hmade⟩ | ⟨fault, -, -, hno, -⟩⟩
  · exact (makeLast_eq_none hmade).2
  · exact (makeLast_eq_none hmade).2
  · cases hno

/-- **A directory that is there is not made.** -/
theorem makeDirectoriesFrom_of_isDirectory (h : d.isDirectory path = true) (depth : Nat) :
    d.makeDirectoriesFrom depth path = (none, d) := by
  rcases depth with _ | depth
  · rfl
  · have hneeds : ¬ d.Needs path := by
      rintro ⟨hhead, htail, hmissing⟩
      have habove := (extends_above hhead htail).isDirectory_of_isThere (List.cons_ne_nil _ _)
        (isThere_of_isDirectory h)
      rw [isThere_of_isDirectory habove] at hmissing
      cases hmissing
    rw [makeDirectoriesFrom_of_not_needs hneeds, makeLast_of_isDirectory h]

/-- **After a failure the same failure comes again**, and nothing more is made. What failed is not
there, unless its name is taken. -/
theorem makeDirectoriesFrom_failed {fault : Fault} (hpath : "." ∉ steps path)
    (hdepth : path.length < depth) (h : d.makeDirectoriesFrom depth path = (some fault, e)) :
    e.makeDirectoriesFrom depth path = (some fault, e) ∧
      (¬ IsTaken fault → e.isThere path = false) := by
  induction depth generalizing d e path fault with
  | zero => omega
  | succ depth ih =>
    rcases makeDirectoriesFrom_cases hpath h with ⟨hneeds, hlast⟩ | ⟨hneeds, first, d', hfirst, hthen⟩
    · obtain ⟨rfl, hthere⟩ := makeLast_eq_some hlast
      exact ⟨h, hthere⟩
    obtain ⟨habove, hshort⟩ := hneeds.shorter hpath hdepth
    have hdot := (dot_not_mem_above hpath hneeds.2.1).2
    rcases hthen with ⟨htaken, hlast⟩ | ⟨_, rfl, hfault, hsame, rfl⟩
    · obtain ⟨rfl, hthere⟩ := makeLast_eq_some hlast
      refine ⟨?_, hthere⟩
      by_cases hagain : e.Needs path
      · -- a name above is taken, and is taken again
        rcases first with _ | taken
        · have hmade := isDirectory_of_makeDirectoriesFrom habove hshort hfirst
          have hmissing := hagain.2.2
          rw [isThere_of_isDirectory hmade] at hmissing
          cases hmissing
        · have hfirst' := (ih habove hshort hfirst).1
          rw [makeDirectoriesFrom_of_first hagain hdot hfirst' htaken, hlast]
      · rw [makeDirectoriesFrom_of_not_needs hagain, hlast]
    · -- the directory above could not be made, and is not there
      cases hsame
      obtain ⟨hfirst', hmissing⟩ := ih habove hshort hfirst
      have hagain : e.Needs path := ⟨hneeds.1, hneeds.2.1, hmissing hfault⟩
      refine ⟨makeDirectoriesFrom_of_failed hagain hfirst' hfault, fun _ => ?_⟩
      by_contra hthere
      have hdir := (extends_above hneeds.1 hneeds.2.1).isDirectory_of_isThere (List.cons_ne_nil _ _)
        (Bool.not_eq_false _ ▸ hthere)
      have hgone := hmissing hfault
      rw [isThere_of_isDirectory hdir] at hgone
      cases hgone

/-! ## Making directories -/

/-- Nothing is taken away, and without a failure the directory is there afterwards. -/
theorem makeDirectories_spec {failed : Option Fault} (hpath : "." ∉ steps path)
    (h : d.makeDirectories path = (failed, e)) :
    Grown d e ∧ (failed = none → e.isDirectory path = true) := by
  refine ⟨grown_makeDirectoriesFrom hpath (Nat.lt_succ_self _) h, ?_⟩
  rintro rfl
  exact isDirectory_of_makeDirectoriesFrom hpath (Nat.lt_succ_self _) h

/-- A directory that is there is not made. -/
theorem makeDirectories_of_isDirectory (h : d.isDirectory path = true) :
    d.makeDirectories path = (none, d) :=
  makeDirectoriesFrom_of_isDirectory h _

/-- The root is there and need not be made. -/
lemma makeDirectories_root (d : Disk) : d.makeDirectories "/" = (none, d) :=
  makeDirectories_of_isDirectory d.isDirectory_root

/-- After a failure the same failure comes again, and nothing more is made. -/
theorem makeDirectories_failed {fault : Fault} (hpath : "." ∉ steps path)
    (h : d.makeDirectories path = (some fault, e)) :
    e.makeDirectories path = (some fault, e) :=
  (makeDirectoriesFrom_failed hpath (Nat.lt_succ_self _) h).1

end RoleAudit.Files.Disk
