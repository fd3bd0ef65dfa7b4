import RoleAudit.Files.Access
import RoleAudit.Proofs.Files.Parts

/-!
# Following paths

A path is followed part by part, from directory to directory, through links. This file says where
that can end, and how the ends of related ways are related.

* `Disk.free_of_walk`: a path that leads to nothing ends at a free name in a directory.
* `Disk.walk_aim_cases`: what is to be done at the end of a path changes its way at the end only.
* `Disk.leg_or_deadEnd`: a way is followed in two legs, unless it ends with the first.
* `Disk.isDirectory_iff`, `Disk.isThere_iff`: where a path leads, told by following it.
-/

namespace RoleAudit.Files.Disk

variable {d : Disk} {directory : Nat} {name : String}

/-! ## Directories on the way -/

/-- The directory that a directory is in is a directory. -/
lemma isDirectory_parent {n : Nat} (hn : IsDirectory d.nodes n) :
    IsDirectory d.nodes (d.parent n) := by
  obtain ⟨p, es, hes⟩ := hn
  unfold Disk.parent
  rw [show d.node? n = some (.directory p es) from hes]
  exact d.rooted.parent hes

lemma isDirectory_of_arrive {aim : Aim} {asDirectory mustBe : Bool} {links links' next n : Nat}
    {rest parts : List String} (hdir : IsDirectory d.nodes directory)
    (h : d.arrive aim asDirectory links directory rest n = .onward mustBe links' next parts) :
    IsDirectory d.nodes next := by
  unfold arrive at h
  rcases hn : d.node? n with _ | ⟨content⟩ | ⟨p, es⟩ | ⟨target⟩ <;> simp only [hn] at h
  · cases h
  · cases h
  · cases h
    exact ⟨p, es, hn⟩
  · split at h
    · cases h
    · rcases links with _ | links
      · cases h
      · cases h
        by_cases hroot : Path.isAbsolute target = true
        · rw [if_pos hroot]
          exact d.rooted.root
        · rw [if_neg hroot]
          exact hdir

/-- A path goes on in a directory. -/
lemma isDirectory_of_next {aim : Aim} {asDirectory mustBe : Bool} {links links' next : Nat}
    {part : String} {rest parts : List String} (hdir : IsDirectory d.nodes directory)
    (h : d.next aim asDirectory links directory part rest = .onward mustBe links' next parts) :
    IsDirectory d.nodes next := by
  rcases d.next_cases aim asDirectory links directory part rest with
    hstay | hup | ⟨_, hfails⟩ | ⟨-, -, hends⟩ | ⟨n, harrive⟩
  · rw [hstay] at h
    cases h
    exact hdir
  · rw [hup] at h
    cases h
    exact isDirectory_parent hdir
  · rw [hfails] at h
    cases h
  · rw [hends] at h
    cases h
  · rw [harrive] at h
    exact isDirectory_of_arrive hdir h

/-- A path starts in a directory. -/
lemma isDirectory_start (d : Disk) (path : String) :
    IsDirectory d.nodes (if Path.isAbsolute path then 0 else d.home) := by
  by_cases hroot : Path.isAbsolute path = true
  · rw [if_pos hroot]
    exact d.rooted.root
  · rw [if_neg hroot]
    exact d.rooted.home

/-! ## Free names -/

/-- A name of a directory under which there is nothing, so that something can be put there. -/
structure Free (d : Disk) (n : Nat) (name : String) : Prop where
  directory : IsDirectory d.nodes n
  lookup : d.lookup? n name = none
  isName : Path.isName name = true

/-- What was found is not free. -/
lemma arrive_ne_vacant (aim : Aim) (asDirectory : Bool) (links n m : Nat) (rest : List String) :
    d.arrive aim asDirectory links n rest m ≠ .finished (.ok (.vacant directory name)) := by
  intro h
  unfold arrive at h
  split at h
  · cases h
  · split at h <;> cases h
  · cases h
  · split at h
    · cases h
    · split at h <;> cases h

/-- The last part of a path that ends at a free name. -/
lemma next_eq_vacant {aim : Aim} {asDirectory : Bool} {links n : Nat} {part : String}
    {rest : List String}
    (h : d.next aim asDirectory links n part rest = .finished (.ok (.vacant directory name))) :
    n = directory ∧ part = name ∧ rest = [] ∧ d.lookup? directory name = none ∧
      part ≠ "." ∧ part ≠ ".." := by
  have hdot : part ≠ "." := by
    rintro rfl
    cases h
  have hup : part ≠ ".." := by
    rintro rfl
    cases h
  rcases d.next_cases aim asDirectory links n part rest with
    hstay | hparent | ⟨_, hfails⟩ | ⟨hlast, hfree, hends⟩ | ⟨m, harrive⟩
  · rw [hstay] at h
    cases h
  · rw [hparent] at h
    cases h
  · rw [hfails] at h
    cases h
  · rw [hends] at h
    cases h
    exact ⟨rfl, rfl, hlast, hfree, hdot, hup⟩
  · rw [harrive] at h
    exact absurd h (arrive_ne_vacant _ _ _ _ _ _)

/-- The parts that are left were left before, or are those of a link. -/
lemma mem_parts_of_next {aim : Aim} {asDirectory mustBe : Bool} {links links' n next : Nat}
    {part new : String} {rest parts : List String}
    (h : d.next aim asDirectory links n part rest = .onward mustBe links' next parts)
    (hnew : new ∈ parts) : new ∈ rest ∨ ∃ target, new ∈ steps target := by
  rcases d.next_cases aim asDirectory links n part rest with
    hstay | hup | ⟨_, hfails⟩ | ⟨-, -, hends⟩ | ⟨m, harrive⟩
  · rw [hstay] at h
    cases h
    exact Or.inl hnew
  · rw [hup] at h
    cases h
    exact Or.inl hnew
  · rw [hfails] at h
    cases h
  · rw [hends] at h
    cases h
  · rw [harrive] at h
    unfold arrive at h
    split at h
    · cases h
    · cases h
    · cases h
      exact Or.inl hnew
    · next target _ =>
      split at h
      · cases h
      · split at h
        · cases h
        · cases h
          rcases List.mem_append.1 hnew with htarget | hrest
          · exact Or.inr ⟨target, htarget⟩
          · exact Or.inl hrest

/-- **A path that leads to nothing ends at a free name.** -/
theorem free_of_walk {aim : Aim} {asDirectory : Bool} {links n : Nat} {parts : List String}
    (hdir : IsDirectory d.nodes n) (hparts : ∀ part ∈ parts, part ≠ "" ∧ '/' ∉ part.toList)
    (h : d.walk aim asDirectory links n parts = .ok (.vacant directory name)) :
    d.Free directory name := by
  -- the induction follows the path; where it goes on, it does so in a directory
  fun_induction Disk.walk d aim asDirectory links n parts with
  | case1 => cases h
  | case2 _ _ _ part _ _ hnext =>
    rw [h] at hnext
    obtain ⟨rfl, rfl, -, hfree, hdot, hup⟩ := next_eq_vacant hnext
    obtain ⟨hne, hslash⟩ := hparts part List.mem_cons_self
    exact ⟨hdir, hfree, Path.isName_iff.2 ⟨hne, hslash, hdot, hup⟩⟩
  | case3 _ _ _ _ _ _ _ _ _ hnext ih =>
    refine ih (isDirectory_of_next hdir hnext) ?_ h
    intro part hpart
    rcases mem_parts_of_next hnext hpart with hrest | ⟨target, htarget⟩
    · exact hparts part (List.mem_cons_of_mem _ hrest)
    · exact not_slash_of_mem_steps htarget

/-! ## What is done at the end -/

/-- A part leads where it leads when the path is merely used, unless it is the last and is a link
that is not followed, or is no place for a file. -/
lemma next_aim_cases (d : Disk) (aim : Aim) (asDirectory : Bool) (links n : Nat) (part : String)
    (rest : List String) :
    d.next aim asDirectory links n part rest = d.next .target asDirectory links n part rest ∨
      (aim = .entry ∧ ∃ m, d.next aim asDirectory links n part rest = .finished (.ok (.node m))) ∨
      (aim = .newFile ∧
        d.next aim asDirectory links n part rest = .finished (.error .isDirectory)) := by
  unfold Disk.next
  by_cases hdot : (part == ".") = true
  · rw [if_pos hdot, if_pos hdot]
    exact Or.inl rfl
  rw [if_neg hdot, if_neg hdot]
  by_cases hup : (part == "..") = true
  · rw [if_pos hup, if_pos hup]
    exact Or.inl rfl
  rw [if_neg hup, if_neg hup]
  by_cases hmust : (decide (aim = .newFile) && asDirectory && rest.isEmpty) = true
  · rw [if_pos hmust]
    simp only [Bool.and_eq_true, decide_eq_true_eq] at hmust
    exact Or.inr (Or.inr ⟨hmust.1.1, rfl⟩)
  rw [if_neg hmust]
  have htarget : ¬ (decide (Aim.target = Aim.newFile) && asDirectory && rest.isEmpty) = true := by
    simp
  rw [if_neg htarget]
  by_cases hlong : nameLimit < part.utf8ByteSize
  · rw [if_pos hlong, if_pos hlong]
    exact Or.inl rfl
  rw [if_neg hlong, if_neg hlong]
  rcases d.lookup? n part with _ | m
  · exact Or.inl rfl
  -- only at a link does it matter what is done at the end
  unfold arrive
  dsimp only
  rcases d.node? m with _ | ⟨content⟩ | ⟨p, es⟩ | ⟨target⟩
  · exact Or.inl rfl
  · exact Or.inl rfl
  · exact Or.inl rfl
  · by_cases hlink : (rest.isEmpty && decide (aim = .entry) && !asDirectory) = true
    · have hentry : aim = .entry := by
        simp only [Bool.and_eq_true, decide_eq_true_eq] at hlink
        exact hlink.1.2
      exact Or.inr (Or.inl ⟨hentry, m, by simp only [if_pos hlink]⟩)
    · have hfollowed : ¬ (rest.isEmpty && decide (Aim.target = Aim.entry) && !asDirectory) = true := by
        simp
      left
      simp only [if_neg hlink, if_neg hfollowed]

/-- **What is to be done at the end of a path changes its way at the end only.** -/
theorem walk_aim_cases (d : Disk) (aim : Aim) (asDirectory : Bool) (links n : Nat)
    (parts : List String) :
    d.walk aim asDirectory links n parts = d.walk .target asDirectory links n parts ∨
      (aim = .entry ∧ ∃ m, d.walk aim asDirectory links n parts = .ok (.node m)) ∨
      (aim = .newFile ∧ d.walk aim asDirectory links n parts = .error .isDirectory) := by
  fun_induction Disk.walk d aim asDirectory links n parts with
  | case1 => exact Or.inl (walk_nil ..).symm
  | case2 asDirectory links n part rest result hnext =>
    rcases d.next_aim_cases aim asDirectory links n part rest with heq | ⟨hentry, m, hm⟩ | ⟨hnew, hm⟩
    · rw [walk_cons, ← heq, hnext]
      exact Or.inl rfl
    · rw [hnext] at hm
      cases hm
      exact Or.inr (Or.inl ⟨hentry, m, rfl⟩)
    · rw [hnext] at hm
      cases hm
      exact Or.inr (Or.inr ⟨hnew, rfl⟩)
  | case3 asDirectory links n part rest _ _ _ _ hnext ih =>
    rcases d.next_aim_cases aim asDirectory links n part rest with heq | ⟨-, m, hm⟩ | ⟨-, hm⟩
    · rw [walk_cons, ← heq, hnext]
      exact ih
    · rw [hnext] at hm
      cases hm
    · rw [hnext] at hm
      cases hm

/-! ## Two legs -/

/-- A part that is a name is looked up, unless a file cannot be made there or the name is too
long. -/
lemma next_of_name {aim : Aim} {part : String} {rest : List String} (hdot : part ≠ ".")
    (hup : part ≠ "..") (haim : aim = .target ∨ rest ≠ []) (asDirectory : Bool) (links n : Nat) :
    d.next aim asDirectory links n part rest =
      if nameLimit < part.utf8ByteSize then .finished (.error .nameTooLong)
      else
        match d.lookup? n part with
        | none => .finished (if rest.isEmpty then .ok (.vacant n part) else .error .notFound)
        | some m => d.arrive aim asDirectory links n rest m := by
  have hmust : ¬ (decide (aim = .newFile) && asDirectory && rest.isEmpty) = true := by
    rcases haim with rfl | hrest
    · simp
    · simp [hrest]
  unfold Disk.next
  simp only [beq_iff_eq]
  exact (if_neg hdot).trans ((if_neg hup).trans (if_neg hmust))

/-- A step leads on to a directory, with some parts before those that come behind it, whatever
these are. -/
structure Onward (step : Aim → Bool → List String → Next) (links next : Nat)
    (front : List String) : Prop where
  target : ∀ asDirectory rest, ∃ mustBe,
    step .target asDirectory rest = .onward mustBe links next (front ++ rest)
  behind : ∀ {rest}, rest ≠ [] → ∀ aim asDirectory,
    step aim asDirectory rest = .onward asDirectory links next (front ++ rest)

/-- A step leads to no directory, and nothing can come behind it. -/
structure AtEnd (d : Disk) (step : Aim → Bool → List String → Next) : Prop where
  target : ∀ asDirectory rest, ∃ result, step .target asDirectory rest = .finished result ∧
    ∀ m, result = .ok (.node m) → ¬ IsDirectory d.nodes m
  behind : ∀ {rest}, rest ≠ [] → ∀ aim asDirectory, ∃ reason,
    step aim asDirectory rest = .finished (.error reason)

/-- A step that always fails leads nowhere. -/
lemma atEnd_of_error {step : Aim → Bool → List String → Next} (reason : Reason)
    (htarget : ∀ asDirectory rest, step .target asDirectory rest = .finished (.error reason))
    (hbehind : ∀ {rest}, rest ≠ [] → ∀ aim asDirectory,
      step aim asDirectory rest = .finished (.error reason)) : AtEnd d step where
  target b rest := ⟨_, htarget b rest, fun _ hm => nomatch hm⟩
  behind hrest aim b := ⟨reason, hbehind hrest aim b⟩

/-- What was found leads on, or nothing can come behind it. -/
lemma arrive_onward_or_atEnd (d : Disk) (links n m : Nat) :
    (∃ links' next front, Onward (fun aim b rest => d.arrive aim b links n rest m) links' next front) ∨
      AtEnd d fun aim b rest => d.arrive aim b links n rest m := by
  have hfull : ∀ {rest : List String}, rest ≠ [] → rest.isEmpty = false := by simp
  unfold arrive
  rcases hm : d.node? m with _ | ⟨content⟩ | ⟨p, es⟩ | ⟨target⟩ <;> dsimp only
  · exact Or.inr (atEnd_of_error .notFound (fun _ _ => rfl) fun _ _ _ => rfl)
  · refine Or.inr ⟨fun b rest => ⟨_, rfl, fun k hk => ?_⟩, fun hrest aim b => ⟨.notDirectory, ?_⟩⟩
    · split at hk
      · cases hk
        rintro ⟨p, es, hes⟩
        rw [show d.nodes[m]? = d.node? m from rfl, hm] at hes
        cases hes
      · cases hk
    · rw [hfull hrest]
      rfl
  · exact Or.inl ⟨links, m, [], fun b _ => ⟨b, rfl⟩, fun _ _ _ => rfl⟩
  · -- a link is followed, if not too many were followed before
    have htarget : ∀ (b : Bool) (rest : List String),
        ¬ (rest.isEmpty && decide (Aim.target = Aim.entry) && !b) = true := by
      simp
    have hbehind : ∀ {rest : List String}, rest ≠ [] → ∀ (aim : Aim) (b : Bool),
        ¬ (rest.isEmpty && decide (aim = Aim.entry) && !b) = true := by
      intro rest hrest aim b
      simp [hrest]
    rcases links with _ | links
    · refine Or.inr (atEnd_of_error .tooManyLinks (fun b rest => ?_) fun hrest aim b => ?_)
      · rw [if_neg (htarget b rest)]
      · rw [if_neg (hbehind hrest aim b)]
    · refine Or.inl ⟨links, if Path.isAbsolute target then 0 else n, steps target, ?_, ?_⟩
      · intro b rest
        exact ⟨b || (rest.isEmpty && Path.endsInSlash target), by rw [if_neg (htarget b rest)]⟩
      · intro rest hrest aim b
        rw [if_neg (hbehind hrest aim b), hfull hrest, Bool.false_and, Bool.or_false]

/-- A part leads on, or nothing can come behind it. -/
lemma next_onward_or_atEnd (d : Disk) (links n : Nat) (part : String) :
    (∃ links' next front, Onward (fun aim b rest => d.next aim b links n part rest)
        links' next front) ∨
      AtEnd d fun aim b rest => d.next aim b links n part rest := by
  by_cases hdot : part = "."
  · subst hdot
    exact Or.inl ⟨links, n, [], fun b _ => ⟨b, rfl⟩, fun _ _ _ => rfl⟩
  by_cases hup : part = ".."
  · subst hup
    exact Or.inl ⟨links, d.parent n, [], fun b _ => ⟨b, rfl⟩, fun _ _ _ => rfl⟩
  have htarget := fun (b : Bool) (rest : List String) =>
    next_of_name (d := d) hdot hup (Or.inl rfl : Aim.target = .target ∨ rest ≠ []) b links n
  have hbehind := fun (rest : List String) (hrest : rest ≠ []) (aim : Aim) (b : Bool) =>
    next_of_name (d := d) hdot hup (Or.inr hrest : aim = .target ∨ rest ≠ []) b links n
  by_cases hlong : nameLimit < part.utf8ByteSize
  · simp only [if_pos hlong] at htarget hbehind
    exact Or.inr (atEnd_of_error _ htarget fun hrest => hbehind _ hrest)
  simp only [if_neg hlong] at htarget hbehind
  rcases hl : d.lookup? n part with _ | m <;> simp only [hl] at htarget hbehind
  · refine Or.inr ⟨fun b rest => ⟨_, htarget b rest, fun m hm => ?_⟩, fun hrest aim b => ?_⟩
    · split at hm <;> cases hm
    · have hfull : ∀ {rest : List String}, rest ≠ [] → rest.isEmpty = false := by simp
      exact ⟨.notFound, by rw [hbehind _ hrest aim b, hfull hrest]; rfl⟩
  · rcases d.arrive_onward_or_atEnd links n m with ⟨links', next, front, h⟩ | h
    · refine Or.inl ⟨links', next, front, fun b rest => ?_, fun hrest aim b => ?_⟩
      · rw [htarget b rest]
        exact h.target b rest
      · rw [hbehind _ hrest aim b]
        exact h.behind hrest aim b
    · refine Or.inr ⟨fun b rest => ?_, fun hrest aim b => ?_⟩
      · rw [htarget b rest]
        exact h.target b rest
      · rw [hbehind _ hrest aim b]
        exact h.behind hrest aim b

/-- A way leads to a directory, and what comes behind it is followed from there. -/
structure Leg (d : Disk) (links n : Nat) (front : List String) (links' m : Nat) : Prop where
  directory : IsDirectory d.nodes m
  target : ∀ asDirectory, d.walk .target asDirectory links n front = .ok (.node m)
  behind : ∀ {rest}, rest ≠ [] → ∀ aim asDirectory,
    d.walk aim asDirectory links n (front ++ rest) = d.walk aim asDirectory links' m rest

/-- A way leads to no directory, and no way goes on behind it. -/
structure DeadEnd (d : Disk) (links n : Nat) (front : List String) : Prop where
  target : ∀ {asDirectory m}, d.walk .target asDirectory links n front = .ok (.node m) →
    ¬ IsDirectory d.nodes m
  behind : ∀ {rest}, rest ≠ [] → ∀ aim asDirectory, ∃ reason,
    d.walk aim asDirectory links n (front ++ rest) = .error reason

lemma AtEnd.deadEnd {links n : Nat} {part : String}
    (h : AtEnd d fun aim b rest => d.next aim b links n part rest) (rest : List String) :
    d.DeadEnd links n (part :: rest) where
  target := by
    intro b m hm
    obtain ⟨result, hresult, hno⟩ := h.target b rest
    rw [walk_cons, hresult] at hm
    exact hno m hm
  behind := by
    intro more hmore aim b
    obtain ⟨reason, hreason⟩ := h.behind (List.append_ne_nil_of_right_ne_nil rest hmore) aim b
    refine ⟨reason, ?_⟩
    rw [List.cons_append, walk_cons, hreason]

section Onward

variable {links links₁ links' n n₁ m : Nat} {part : String} {front rest : List String}

lemma Onward.walk_target
    (h : Onward (fun aim b rest => d.next aim b links n part rest) links₁ n₁ front)
    (rest : List String) (b : Bool) :
    ∃ b', d.walk .target b links n (part :: rest) = d.walk .target b' links₁ n₁ (front ++ rest) := by
  obtain ⟨b', hb'⟩ := h.target b rest
  refine ⟨b', ?_⟩
  rw [walk_cons, hb']

lemma Onward.walk_behind
    (h : Onward (fun aim b rest => d.next aim b links n part rest) links₁ n₁ front)
    (rest : List String) {more : List String} (hmore : more ≠ []) (aim : Aim) (b : Bool) :
    d.walk aim b links n (part :: rest ++ more) =
      d.walk aim b links₁ n₁ (front ++ rest ++ more) := by
  have hstep := h.behind (List.append_ne_nil_of_right_ne_nil rest hmore) aim b
  rw [List.cons_append, walk_cons, hstep, List.append_assoc]

lemma Leg.cons (hleg : d.Leg links₁ n₁ (front ++ rest) links' m)
    (h : Onward (fun aim b rest => d.next aim b links n part rest) links₁ n₁ front) :
    d.Leg links n (part :: rest) links' m where
  directory := hleg.directory
  target := by
    intro b
    obtain ⟨b', hb'⟩ := h.walk_target rest b
    rw [hb']
    exact hleg.target b'
  behind := by
    intro more hmore aim b
    rw [h.walk_behind rest hmore]
    exact hleg.behind hmore aim b

lemma DeadEnd.cons (hdead : d.DeadEnd links₁ n₁ (front ++ rest))
    (h : Onward (fun aim b rest => d.next aim b links n part rest) links₁ n₁ front) :
    d.DeadEnd links n (part :: rest) where
  target := by
    intro b m hm
    obtain ⟨b', hb'⟩ := h.walk_target rest b
    rw [hb'] at hm
    exact hdead.target hm
  behind := by
    intro more hmore aim b
    rw [h.walk_behind rest hmore]
    exact hdead.behind hmore aim b

end Onward

/-- **A way is followed in two legs**, unless it ends with the first. -/
theorem leg_or_deadEnd (links : Nat) {n : Nat} (hn : IsDirectory d.nodes n) (front : List String) :
    (∃ links' m, d.Leg links n front links' m) ∨ d.DeadEnd links n front := by
  -- the induction follows the first leg, with any flag
  generalize hmust : false = mustBe
  clear hmust
  fun_induction Disk.walk d .target mustBe links n front with
  | case1 mustBe links n => exact Or.inl ⟨links, n, hn, fun _ => walk_nil .., fun _ _ _ => rfl⟩
  | case2 mustBe links n part rest result hnext =>
    rcases d.next_onward_or_atEnd links n part with ⟨links', next, front, h⟩ | h
    · obtain ⟨b, hb⟩ := h.target mustBe rest
      rw [hnext] at hb
      cases hb
    · exact Or.inr (h.deadEnd rest)
  | case3 mustBe links n part rest _ links₁ n₁ parts₁ hnext ih =>
    rcases d.next_onward_or_atEnd links n part with ⟨links', next, front, h⟩ | h
    · obtain ⟨b, hb⟩ := h.target mustBe rest
      have hn₁ := isDirectory_of_next hn hnext
      rw [hnext] at hb
      cases hb
      rcases ih hn₁ with ⟨links₂, m, hleg⟩ | hdead
      · exact Or.inl ⟨links₂, m, hleg.cons h⟩
      · exact Or.inr (hdead.cons h)
    · obtain ⟨result, hresult, -⟩ := h.target mustBe rest
      rw [hnext] at hresult
      cases hresult

/-! ## Where a path leads -/

/-- A path leads to a place if it is well formed and its parts lead there. -/
lemma locate_eq_ok_iff (d : Disk) (path : String) (aim : Aim) (place : Place) :
    d.locate path aim = .ok place ↔
      path.toList.contains (Char.ofNat 0) = false ∧ path.isEmpty = false ∧
        ¬ pathLimit ≤ path.utf8ByteSize ∧
        d.walk aim (Path.endsInSlash path) linkLimit (if Path.isAbsolute path then 0 else d.home)
          (steps path) = .ok place := by
  unfold locate
  by_cases hnul : path.toList.contains (Char.ofNat 0) = true
  · rw [if_pos hnul, hnul]
    constructor
    · intro h
      cases h
    · rintro ⟨h, -⟩
      cases h
  rw [if_neg hnul]
  by_cases hempty : path.isEmpty = true
  · simp only [if_pos hempty]
    constructor
    · intro h
      cases h
    · rintro ⟨-, hfull, -⟩
      exact absurd hempty (Bool.eq_false_iff.1 hfull)
  simp only [if_neg hempty]
  by_cases hlong : pathLimit ≤ path.utf8ByteSize
  · simp only [if_pos hlong]
    constructor
    · intro h
      cases h
    · rintro ⟨-, -, hshort, -⟩
      exact absurd hlong hshort
  simp only [if_neg hlong]
  constructor
  · intro h
    refine ⟨Bool.eq_false_iff.2 hnul, Bool.eq_false_iff.2 hempty, hlong, ?_⟩
    split at h
    · next hwalk =>
      cases h
      exact hwalk
    · cases h
  · rintro ⟨-, -, -, hwalk⟩
    rw [hwalk]

lemma locate_root (d : Disk) (aim : Aim) : d.locate "/" aim = .ok (.node 0) := by
  have hsteps : steps "/" = [] := by decide +kernel
  have habsolute : Path.isAbsolute "/" = true := by decide +kernel
  rw [locate_eq_ok_iff, hsteps, if_pos habsolute]
  exact ⟨by decide, by decide, by decide, walk_nil _ _ _ _ _⟩

lemma isDirectory_root (d : Disk) : d.isDirectory "/" = true := by
  obtain ⟨parent, entries, hroot⟩ := d.rooted.root
  unfold isDirectory
  rw [locate_root]
  simp only [node?, hroot]

/-- What a path was followed to, in whatever way, is a directory. -/
lemma isDirectory_followed_iff {followed : Except Fault Place} :
    (match followed with
      | .ok (.node n) =>
        match d.node? n with
        | some (.directory ..) => true
        | _ => false
      | _ => false) = true ↔ ∃ n, followed = .ok (.node n) ∧ IsDirectory d.nodes n := by
  constructor
  · intro h
    split at h
    · next n =>
      rcases hn : d.node? n with _ | ⟨content⟩ | ⟨p, es⟩ | ⟨target⟩ <;> rw [hn] at h
      · cases h
      · cases h
      · exact ⟨n, rfl, p, es, hn⟩
      · cases h
    · cases h
  · rintro ⟨n, rfl, p, es, hn⟩
    have hnode : d.node? n = some (.directory p es) := hn
    simp only [hnode]

/-- A path leads to a directory if it is followed to one. -/
lemma isDirectory_iff {path : String} :
    d.isDirectory path = true ↔ ∃ n, d.locate path = .ok (.node n) ∧ IsDirectory d.nodes n :=
  isDirectory_followed_iff

/-- A path leads to something if it is followed to a node. -/
lemma isThere_iff {path : String} : d.isThere path = true ↔ ∃ n, d.locate path = .ok (.node n) := by
  unfold isThere
  constructor
  · intro h
    split at h
    · next n hpath => exact ⟨n, hpath⟩
    · cases h
  · rintro ⟨n, hpath⟩
    rw [hpath]

/-- What is there is where a path leads, also if it leads to a directory. -/
lemma isThere_of_isDirectory {path : String} (h : d.isDirectory path = true) :
    d.isThere path = true := by
  obtain ⟨n, hpath, -⟩ := isDirectory_iff.1 h
  exact isThere_iff.2 ⟨n, hpath⟩

/-- What is to be done at the end of a path changes where it leads at the end only. -/
lemma locate_aim_cases (d : Disk) (path : String) (aim : Aim) :
    d.locate path aim = d.locate path ∨
      (aim = .entry ∧ ∃ m, d.locate path aim = .ok (.node m)) ∨
      (aim = .newFile ∧ d.locate path aim = .error (.refused ⟨.isDirectory, path⟩)) := by
  unfold locate
  by_cases hnul : path.toList.contains (Char.ofNat 0) = true
  · rw [if_pos hnul, if_pos hnul]
    exact Or.inl rfl
  rw [if_neg hnul, if_neg hnul]
  by_cases hempty : path.isEmpty = true
  · simp only [if_pos hempty, true_or]
  simp only [if_neg hempty]
  by_cases hlong : pathLimit ≤ path.utf8ByteSize
  · simp only [if_pos hlong, true_or]
  simp only [if_neg hlong]
  rcases d.walk_aim_cases aim (Path.endsInSlash path) linkLimit
      (if Path.isAbsolute path then 0 else d.home) (steps path) with
    heq | ⟨hentry, m, hm⟩ | ⟨hnew, hfails⟩
  · rw [heq]
    exact Or.inl rfl
  · rw [hm]
    exact Or.inr (Or.inl ⟨hentry, m, rfl⟩)
  · rw [hfails]
    exact Or.inr (Or.inr ⟨hnew, rfl⟩)

/-- A path begins with another one, and has some parts behind the parts of that. -/
structure Extends (path longer : String) (rest : List String) : Prop where
  nonempty : path ≠ ""
  isPrefix : path.toList <+: longer.toList
  steps : steps longer = steps path ++ rest

namespace Extends

variable {path longer : String} {rest : List String}

lemma exists_eq_append (h : Extends path longer rest) : ∃ more, longer = path ++ more := by
  obtain ⟨more, hmore⟩ := h.isPrefix
  refine ⟨String.ofList more, String.toList_inj.1 ?_⟩
  rw [String.toList_append, String.toList_ofList, hmore]

lemma isAbsolute_eq (h : Extends path longer rest) :
    Path.isAbsolute longer = Path.isAbsolute path := by
  obtain ⟨more, rfl⟩ := h.exists_eq_append
  exact Path.isAbsolute_append h.nonempty more

lemma utf8ByteSize_le (h : Extends path longer rest) :
    path.utf8ByteSize ≤ longer.utf8ByteSize := by
  obtain ⟨more, rfl⟩ := h.exists_eq_append
  rw [String.utf8ByteSize_append]
  exact Nat.le_add_right _ _

/-- **A path that leads anywhere leads through a directory** after some of its parts. -/
theorem locate_eq (h : Extends path longer rest) (hrest : rest ≠ []) {aim : Aim} {place : Place}
    (hlonger : d.locate longer aim = .ok place) :
    ∃ links n, d.locate path = .ok (.node n) ∧ IsDirectory d.nodes n ∧
      d.walk aim (Path.endsInSlash longer) links n rest = .ok place := by
  obtain ⟨hnul, -, hshort, hwalk⟩ := (locate_eq_ok_iff d longer aim place).1 hlonger
  rw [h.steps, h.isAbsolute_eq] at hwalk
  rcases leg_or_deadEnd linkLimit (d.isDirectory_start path) (Disk.steps path) with
    ⟨links, n, hleg⟩ | hdead
  · rw [hleg.behind hrest] at hwalk
    refine ⟨links, n, ?_, hleg.directory, hwalk⟩
    rw [locate_eq_ok_iff]
    refine ⟨?_, by simpa using h.nonempty, ?_, hleg.target _⟩
    · have hmem : Char.ofNat 0 ∉ longer.toList := by simpa using hnul
      simpa using fun hpath => hmem (h.isPrefix.subset hpath)
    · have hle := h.utf8ByteSize_le
      omega
  · obtain ⟨reason, hreason⟩ := hdead.behind hrest aim (Path.endsInSlash longer)
    rw [hreason] at hwalk
    cases hwalk

/-- What has something in it is a directory. -/
lemma isDirectory_of_isThere (h : Extends path longer rest) (hrest : rest ≠ [])
    (hlonger : d.isThere longer = true) : d.isDirectory path = true := by
  obtain ⟨m, hm⟩ := isThere_iff.1 hlonger
  obtain ⟨-, n, hpath, hn, -⟩ := h.locate_eq hrest hm
  exact isDirectory_iff.2 ⟨n, hpath, hn⟩

end Extends

end RoleAudit.Files.Disk
