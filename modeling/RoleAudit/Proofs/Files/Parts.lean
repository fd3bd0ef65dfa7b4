import Mathlib.Data.List.DropRight
import RoleAudit.Files.Disk

/-!
# The parts of a path

A path is followed part by part, and the parts are what stands between its slashes. This file says
what the operations on the text of a path do to its parts.

* `Disk.steps_join`: a name that is joined to a path is one part more.
* `Disk.steps_split`: splitting a path takes its last part off.
* `Disk.dot_not_mem_steps_split`: in a normal form no part is `.`, the normal form of nothing apart.
-/

namespace RoleAudit.Files

open RoleAudit.Files.Path

namespace Path

/-! ## Cutting at slashes -/

lemma cut_slash (cs : List Char) : cut ('/' :: cs) = ([], (cut cs).1 :: (cut cs).2) := rfl

lemma cut_cons {c : Char} (h : c ≠ '/') (cs : List Char) :
    cut (c :: cs) = (c :: (cut cs).1, (cut cs).2) := by
  simp [cut, h]

lemma cut_append_slash (cs ds : List Char) :
    cut (cs ++ '/' :: ds) = ((cut cs).1, (cut cs).2 ++ (cut ds).1 :: (cut ds).2) := by
  induction cs with
  | nil => rfl
  | cons c cs ih =>
    rw [List.cons_append]
    by_cases hc : c = '/'
    · subst hc
      rw [cut_slash, cut_slash, ih, List.cons_append]
    · rw [cut_cons hc, cut_cons hc, ih]

lemma cut_of_not_mem {cs : List Char} (h : '/' ∉ cs) : cut cs = (cs, []) := by
  induction cs with
  | nil => rfl
  | cons c cs ih =>
    rw [List.mem_cons, not_or] at h
    rw [cut_cons (Ne.symm h.1), ih h.2]

lemma slash_not_mem_cut {cs piece : List Char} (h : piece ∈ (cut cs).1 :: (cut cs).2) :
    '/' ∉ piece := by
  induction cs generalizing piece with
  | nil =>
    simp only [cut, List.mem_singleton] at h
    simp [h]
  | cons c cs ih =>
    by_cases hc : c = '/'
    · subst hc
      rw [cut_slash, List.mem_cons] at h
      rcases h with rfl | h
      · exact List.not_mem_nil
      · exact ih h
    · rw [cut_cons hc, List.mem_cons] at h
      rcases h with rfl | h
      · rw [List.mem_cons, not_or]
        exact ⟨Ne.symm hc, ih List.mem_cons_self⟩
      · exact ih (List.mem_cons_of_mem _ h)

lemma slash_not_mem_segments {s part : String} (h : part ∈ segments s) : '/' ∉ part.toList := by
  unfold segments at h
  obtain ⟨cs, hcs, rfl⟩ := List.mem_map.1 h
  rw [String.toList_ofList]
  exact slash_not_mem_cut hcs

lemma segments_append_slash (s t : String) : segments (s ++ "/" ++ t) = segments s ++ segments t := by
  have htext : (s ++ "/" ++ t).toList = s.toList ++ '/' :: t.toList := by
    simp [String.toList_append]
  unfold segments
  rw [htext, cut_append_slash]
  simp

/-- A path that ends in a slash is another one with a slash behind it. -/
lemma exists_of_endsInSlash {s : String} (h : endsInSlash s = true) : ∃ t, s = t ++ "/" := by
  unfold endsInSlash at h
  rw [beq_iff_eq, List.getLast?_eq_some_iff] at h
  obtain ⟨cs, hcs⟩ := h
  refine ⟨String.ofList cs, String.toList_inj.1 ?_⟩
  rw [hcs, String.toList_append, String.toList_ofList]
  rfl

lemma isAbsolute_append {s : String} (hs : s ≠ "") (t : String) :
    isAbsolute (s ++ t) = isAbsolute s := by
  obtain ⟨c, cs, hcs⟩ := List.exists_cons_of_ne_nil (mt String.toList_eq_nil_iff.1 hs)
  unfold isAbsolute
  rw [String.toList_append, hcs]
  rfl

lemma endsInSlash_append {t : String} (ht : t ≠ "") (s : String) :
    endsInSlash (s ++ t) = endsInSlash t := by
  unfold endsInSlash
  rw [String.toList_append, List.getLast?_append_of_ne_nil _ (mt String.toList_eq_nil_iff.1 ht)]

/-! ## Names -/

lemma isName_iff {part : String} :
    isName part = true ↔ part ≠ "" ∧ '/' ∉ part.toList ∧ part ≠ "." ∧ part ≠ ".." := by
  unfold isName
  simp [and_assoc]

lemma isAbsolute_of_slash_not_mem {s : String} (h : '/' ∉ s.toList) : isAbsolute s = false := by
  unfold isAbsolute
  rw [beq_eq_false_iff_ne]
  intro hhead
  exact h (List.mem_of_mem_head? hhead)

lemma endsInSlash_of_slash_not_mem {s : String} (h : '/' ∉ s.toList) : endsInSlash s = false := by
  unfold endsInSlash
  rw [beq_eq_false_iff_ne]
  intro hlast
  exact h (List.mem_of_getLast? hlast)

end Path

namespace Disk

/-! ## Parts -/

lemma steps_append_slash (s t : String) : steps (s ++ "/" ++ t) = steps s ++ steps t := by
  unfold steps
  rw [segments_append_slash, List.filter_append]

lemma steps_empty : steps "" = [] := by decide

lemma steps_slash (s : String) : steps (s ++ "/") = steps s := by
  have h := steps_append_slash s ""
  rwa [steps_empty, List.append_nil, String.append_empty] at h

/-- A text without slashes is a single part. -/
lemma steps_of_slash_not_mem {s : String} (hs : s ≠ "") (h : '/' ∉ s.toList) : steps s = [s] := by
  unfold steps segments
  rw [cut_of_not_mem h]
  simp [hs]

/-- Parts are not empty and hold no slash. -/
lemma not_slash_of_mem_steps {part path : String} (h : part ∈ steps path) :
    part ≠ "" ∧ '/' ∉ part.toList := by
  obtain ⟨hpart, hne⟩ := List.mem_filter.1 h
  exact ⟨by simpa using hne, slash_not_mem_segments hpart⟩

/-! ## Joining -/

section Join

variable {directory name : String}

lemma join_of_isName (hname : isName name = true) :
    join directory name =
      if directory.isEmpty || endsInSlash directory then directory ++ name
      else directory ++ "/" ++ name := by
  obtain ⟨-, hslash, -, -⟩ := isName_iff.1 hname
  unfold join
  rw [isAbsolute_of_slash_not_mem hslash, if_neg Bool.false_ne_true]

/-- **A name that is joined to a path is one part more.** -/
theorem steps_join (hdir : directory ≠ "") (hname : isName name = true) :
    steps (join directory name) = steps directory ++ [name] := by
  obtain ⟨hne, hslash, -, -⟩ := isName_iff.1 hname
  have hone : steps name = [name] := steps_of_slash_not_mem hne hslash
  have hempty : directory.isEmpty = false := by simpa using hdir
  rw [join_of_isName hname, hempty, Bool.false_or]
  by_cases hends : endsInSlash directory = true
  · obtain ⟨above, rfl⟩ := exists_of_endsInSlash hends
    rw [if_pos hends, steps_append_slash, steps_slash, hone]
  · rw [if_neg hends, steps_append_slash, hone]

lemma endsInSlash_join (hname : isName name = true) :
    endsInSlash (join directory name) = false := by
  obtain ⟨hne, hslash, -, -⟩ := isName_iff.1 hname
  have hlast := endsInSlash_of_slash_not_mem hslash
  rw [join_of_isName hname]
  split
  · rw [endsInSlash_append hne, hlast]
  · rw [endsInSlash_append hne, hlast]

/-- A joined path is longer. -/
lemma utf8ByteSize_lt_join (directory : String) (hname : isName name = true) :
    directory.utf8ByteSize < (join directory name).utf8ByteSize := by
  obtain ⟨hne, -, -, -⟩ := isName_iff.1 hname
  have hpos : 0 < name.utf8ByteSize := by
    rw [Nat.pos_iff_ne_zero]
    simpa using hne
  rw [join_of_isName hname]
  split
  · rw [String.utf8ByteSize_append]
    omega
  · rw [String.utf8ByteSize_append, String.utf8ByteSize_append]
    omega

end Join

/-! ## Splitting -/

/-- Several slashes. -/
def slashes (n : Nat) : String := String.ofList (List.replicate n '/')

lemma slashes_succ (n : Nat) : slashes (n + 1) = "/" ++ slashes n := by
  have hcons : List.replicate (n + 1) '/' = ['/'] ++ List.replicate n '/' := List.replicate_succ
  unfold slashes
  rw [hcons, String.ofList_append]

/-- Several slashes part a path as one does. -/
lemma steps_append_slashes (s t : String) (n : Nat) :
    steps (s ++ slashes (n + 1) ++ t) = steps s ++ steps t := by
  induction n generalizing s with
  | zero => exact steps_append_slash s t
  | succ n ih =>
    have hlonger : s ++ "/" ++ slashes (n + 1) = s ++ slashes (n + 2) := by
      rw [slashes_succ (n + 1), String.append_assoc]
    have h := ih (s ++ "/")
    rwa [steps_slash, hlonger] at h

/-- The last part, and what is before it, without the slashes unless there is nothing else. -/
lemma split_eq {s : String} {rest tail : List Char} (hcut : rest ++ tail = s.toList)
    (htail : s.toList.rtakeWhile (· != '/') = tail) :
    split s = (String.ofList (if (rest.rdropWhile (· == '/')).isEmpty then rest
      else rest.rdropWhile (· == '/')), String.ofList tail) := by
  have hhead : s.toList.take (s.toList.length - tail.length) = rest := by
    rw [← hcut, List.length_append, Nat.add_sub_cancel, List.take_left]
  unfold List.rtakeWhile at htail
  unfold split
  simp only [htail, hhead]
  rfl

lemma exists_replicate_slash (cs : List Char) :
    ∃ n, cs = cs.rdropWhile (· == '/') ++ List.replicate n '/' := by
  have hall : ∀ c ∈ cs.rtakeWhile (· == '/'), c = '/' := by
    intro c hc
    have hslash := List.mem_rtakeWhile_imp hc
    simpa using hslash
  refine ⟨(cs.rtakeWhile (· == '/')).length, ?_⟩
  rw [← List.eq_replicate_of_mem hall]
  exact List.rdropWhile_append_rtakeWhile.symm

/-- A path has no slash, or a last one. -/
lemma exists_last_slash (s : String) :
    '/' ∉ s.toList ∨ ∃ front tail, front ++ '/' :: tail = s.toList ∧ '/' ∉ tail := by
  by_cases hslash : '/' ∈ s.toList
  · obtain ⟨back, front, hback, hfree⟩ := List.eq_append_cons_of_mem (List.mem_reverse.2 hslash)
    refine Or.inr ⟨front.reverse, back.reverse, ?_, by simpa using hfree⟩
    rw [List.reverse_eq_iff.1 hback]
    simp
  · exact Or.inl hslash

lemma rtakeWhile_slash {tail : List Char} (h : '/' ∉ tail) (front : List Char) :
    (front ++ '/' :: tail).rtakeWhile (· != '/') = tail := by
  have hall : ∀ c ∈ tail.reverse, (c != '/') = true := by
    intro c hc
    rw [bne_iff_ne]
    rintro rfl
    exact h (List.mem_reverse.1 hc)
  unfold List.rtakeWhile
  rw [List.reverse_append, List.reverse_cons, List.append_assoc, List.takeWhile_append_of_pos hall]
  simp

/-- A path without slashes is its last part. -/
lemma split_of_slash_not_mem {s : String} (h : '/' ∉ s.toList) : split s = ("", s) := by
  have hall : s.toList.rtakeWhile (· != '/') = s.toList := by
    rw [List.rtakeWhile_eq_self_iff]
    intro c hc
    rw [bne_iff_ne]
    rintro rfl
    exact h hc
  rw [split_eq (List.nil_append _) hall, String.ofList_toList]
  rfl

/-- What comes behind the last slash is the last part. -/
lemma split_append_slash (s : String) {tail : String} (h : '/' ∉ tail.toList) :
    (split (s ++ "/" ++ tail)).2 = tail := by
  have hcut : (s.toList ++ ['/']) ++ tail.toList = (s ++ "/" ++ tail).toList := by
    rw [String.toList_append, String.toList_append]
    rfl
  have hlast : (s ++ "/" ++ tail).toList.rtakeWhile (· != '/') = tail.toList := by
    rw [← hcut, List.append_assoc]
    exact rtakeWhile_slash h s.toList
  rw [split_eq hcut hlast, String.ofList_toList]

/-- The last part of a joined path is the name. -/
lemma split_join (directory : String) {name : String} (hname : isName name = true) :
    (split (join directory name)).2 = name := by
  obtain ⟨-, hslash, -, -⟩ := isName_iff.1 hname
  rw [join_of_isName hname]
  by_cases hempty : directory = ""
  · have hnothing : ("".isEmpty || endsInSlash "") = true := rfl
    rw [hempty, hnothing, if_pos rfl, String.empty_append, split_of_slash_not_mem hslash]
  · have hfull : directory.isEmpty = false := by simpa using hempty
    rw [hfull, Bool.false_or]
    by_cases hends : endsInSlash directory = true
    · obtain ⟨above, rfl⟩ := exists_of_endsInSlash hends
      rw [if_pos hends, split_append_slash above hslash]
    · rw [if_neg hends, split_append_slash directory hslash]

/-- What a path is split into: its last part, and what is before the slashes in front of that. If
there is nothing before these slashes, they stay. -/
lemma exists_eq_split (s : String) :
    ∃ n, s = (split s).1 ++ slashes n ++ (split s).2 ∧ '/' ∉ (split s).2.toList ∧
      (n = 0 → (split s).1 = "" ∨ ∃ m, (split s).1 = slashes (m + 1)) := by
  rcases exists_last_slash s with hnone | ⟨front, tail, hs, htail⟩
  · rw [split_of_slash_not_mem hnone]
    refine ⟨0, ?_, hnone, fun _ => Or.inl rfl⟩
    exact (String.empty_append).symm
  have hcut : (front ++ ['/']) ++ tail = s.toList := by
    rw [List.append_assoc]
    exact hs
  have hsplit := split_eq hcut (hs ▸ rtakeWhile_slash htail front)
  rw [List.rdropWhile_concat_pos (fun c => c == '/') front '/' rfl] at hsplit
  obtain ⟨n, hn⟩ := exists_replicate_slash front
  rcases hempty : (front.rdropWhile (· == '/')).isEmpty with _ | _ <;> rw [hempty] at hsplit
  · -- something is before the slashes
    rw [hsplit]
    refine ⟨n + 1, ?_, by rwa [String.toList_ofList], fun h => absurd h (Nat.succ_ne_zero n)⟩
    apply String.toList_inj.1
    have hfront : s.toList = front.rdropWhile (· == '/') ++ List.replicate n '/' ++ '/' :: tail := by
      rw [← hs, ← hn]
    rw [hfront]
    simp [slashes, List.replicate_succ']
  · rw [List.isEmpty_iff.1 hempty, List.nil_append] at hn
    rw [hsplit]
    refine ⟨0, ?_, by rwa [String.toList_ofList], fun _ => Or.inr ⟨n, ?_⟩⟩
    · apply String.toList_inj.1
      rw [← hcut]
      simp [slashes]
    · unfold slashes
      rw [List.replicate_succ', hn]
      simp

/-- **Splitting a path takes its last part off.** -/
theorem steps_split (s : String) :
    steps s = steps (split s).1 ++ (if (split s).2 = "" then [] else [(split s).2]) := by
  obtain ⟨n, hs, hslash, hnone⟩ := exists_eq_split s
  generalize split s = parts at hs hslash hnone ⊢
  obtain ⟨head, tail⟩ := parts
  have htail : steps tail = if tail = "" then [] else [tail] := by
    by_cases hempty : tail = ""
    · rw [if_pos hempty, hempty, steps_empty]
    · rw [if_neg hempty, steps_of_slash_not_mem hempty hslash]
  rw [← htail, hs]
  rcases n with _ | n
  · change steps (head ++ "" ++ tail) = _
    rw [String.append_empty]
    rcases hnone rfl with rfl | ⟨m, rfl⟩
    · rw [String.empty_append, steps_empty, List.nil_append]
    · have hslashes := steps_append_slashes "" "" m
      have hboth := steps_append_slashes "" tail m
      rw [String.empty_append, String.append_empty] at hslashes
      rw [String.empty_append] at hboth
      rw [hslashes, hboth, steps_empty]
      rfl
  · exact steps_append_slashes head tail n

/-- What is before the last part is how the path begins. -/
lemma split_isPrefix (s : String) : (split s).1.toList <+: s.toList := by
  obtain ⟨n, hs, -⟩ := exists_eq_split s
  generalize split s = parts at hs ⊢
  rw [hs, String.toList_append, String.toList_append, List.append_assoc]
  exact List.prefix_append _ _

/-- What is before the last part and that part are together no longer than the path. -/
lemma length_split_le (s : String) : (split s).1.length + (split s).2.length ≤ s.length := by
  obtain ⟨n, hs, -⟩ := exists_eq_split s
  generalize split s = parts at hs ⊢
  rw [hs, String.length_append, String.length_append]
  omega

/-! ## Normal forms -/

lemma mem_pushPart {absolute : Bool} {kept : List String} {part new : String}
    (h : part ∈ pushPart absolute kept new) :
    part ∈ kept ∨ part = new ∧ new ≠ "" ∧ new ≠ "." := by
  unfold pushPart at h
  split at h
  · exact Or.inl h
  next hdot =>
  have hnew : new ≠ "" ∧ new ≠ "." := by simpa [not_or] using hdot
  -- what is new stands in front of what is kept, or takes something off
  have hcons : part ∈ new :: kept → part ∈ kept ∨ part = new ∧ new ≠ "" ∧ new ≠ "." := by
    intro hmem
    rcases List.mem_cons.1 hmem with hfirst | hold
    · exact Or.inr ⟨hfirst, hnew⟩
    · exact Or.inl hold
  split at h
  · split at h
    · split at h
      · exact Or.inl h
      · exact hcons h
    · split at h
      · exact hcons h
      · exact Or.inl (List.mem_cons_of_mem _ h)
  · exact hcons h

/-- What is kept of the parts of a path are some of them, without `.` and empty ones. -/
lemma mem_foldl_pushPart {absolute : Bool} {parts kept : List String} {part : String}
    (h : part ∈ parts.foldl (pushPart absolute) kept) :
    part ∈ kept ∨ part ∈ parts ∧ part ≠ "" ∧ part ≠ "." := by
  induction parts generalizing kept with
  | nil => exact Or.inl h
  | cons new parts ih =>
    rcases ih h with hkept | ⟨hmem, hne⟩
    · rcases mem_pushPart hkept with hold | ⟨rfl, hne⟩
      · exact Or.inl hold
      · exact Or.inr ⟨List.mem_cons_self, hne⟩
    · exact Or.inr ⟨List.mem_cons_of_mem _ hmem, hne⟩

/-- The parts of a text that was put together from parts. -/
lemma steps_intercalate {parts : List String} (h : ∀ part ∈ parts, part ≠ "" ∧ '/' ∉ part.toList) :
    steps ("/".intercalate parts) = parts := by
  induction parts with
  | nil => exact steps_empty
  | cons part parts ih =>
    obtain ⟨hne, hslash⟩ := h part List.mem_cons_self
    have hone : steps part = [part] := steps_of_slash_not_mem hne hslash
    rcases parts with _ | ⟨next, parts⟩
    · rw [String.intercalate_singleton, hone]
    · rw [String.intercalate_cons_cons, steps_append_slash, hone,
        ih fun p hp => h p (List.mem_cons_of_mem _ hp), List.singleton_append]

lemma steps_root_append (s t : String) : steps (root s ++ t) = steps t := by
  have hone : steps ("/" ++ t) = steps t := by
    have h := steps_append_slash "" t
    rwa [String.empty_append, steps_empty, List.nil_append] at h
  have htwo : steps ("//" ++ t) = steps t := by
    have hslashes : "//" ++ t = "" ++ "/" ++ ("/" ++ t) := by
      rw [String.empty_append, ← String.append_assoc]
      rfl
    rw [hslashes, steps_append_slash, steps_empty, hone, List.nil_append]
  unfold root
  split
  · exact hone
  · exact htwo
  · exact hone
  · rw [String.empty_append]

/-- A normal form is `.`, or is put together from parts of which none is `.`. -/
lemma normalize_cases (s : String) :
    Path.normalize s = "." ∨ ∃ parts : List String,
      (∀ part ∈ parts, part ≠ "" ∧ part ≠ "." ∧ '/' ∉ part.toList) ∧
        Path.normalize s = root s ++ "/".intercalate parts := by
  unfold Path.normalize
  dsimp only
  split
  · exact Or.inl rfl
  · refine Or.inr ⟨_, ?_, rfl⟩
    intro part hpart
    rcases mem_foldl_pushPart (List.mem_reverse.1 hpart) with hnil | ⟨hmem, hne, hdot⟩
    · cases hnil
    · exact ⟨hne, hdot, slash_not_mem_segments hmem⟩

/-- **In a normal form no part is `.`**, the normal form of nothing apart, whose last part it is. -/
theorem dot_not_mem_steps_split (s : String) : "." ∉ steps (split (Path.normalize s)).1 := by
  rcases normalize_cases s with hdot | ⟨parts, hparts, htext⟩
  · have hnone : (split ".").1 = "" := by decide +kernel
    rw [hdot, hnone, steps_empty]
    exact List.not_mem_nil
  · intro hmem
    have hall := steps_split (Path.normalize s)
    have hsteps : steps (Path.normalize s) = parts := by
      rw [htext, steps_root_append, steps_intercalate fun part hpart =>
        ⟨(hparts part hpart).1, (hparts part hpart).2.2⟩]
    have hdot := hparts "." (hsteps ▸ hall ▸ List.mem_append_left _ hmem)
    exact hdot.2.1 rfl

end Disk

end RoleAudit.Files
