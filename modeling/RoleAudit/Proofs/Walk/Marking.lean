import RoleAudit.Proofs.Walk.Candidates

/-!
# Markers only filter

Markers select files by their names, and do nothing else: where a walk goes, in which order, and where
it fails is the same for all markers. So what is found with markers is what is found without any, less
the files whose name holds none of them.

This is so below a directory. A path that is itself a file is visited whatever its name, and it
matters that no file is come to in this way from a directory: what a listing shows as a directory, or
what is one behind a link, is no file when it is entered.

* `Marked`: the name of a file holds a marker.
* `trail_marked`: the trail with markers is the marked part of the trail without any.
-/

namespace RoleAudit.Walk

open RoleAudit.Files RoleAudit.Files.Disk

/-- The last part of a path. -/
def fileName (path : String) : String := (Path.split path).2

/-- The name of the file holds one of the markers. -/
def Marked (markers : List String) (path : String) : Prop :=
  ∃ marker ∈ markers, marker.toList <:+: (fileName path).toList

instance (markers : List String) : DecidablePred (Marked markers) := fun path =>
  inferInstanceAs (Decidable (∃ marker ∈ markers, marker.toList <:+: (fileName path).toList))

variable {d : Disk} {markers wider : List String} {directory path : String} {e : Entry}
  {es : List Entry}

lemma Marked.mono (h : Marked markers path) (hwider : markers ⊆ wider) : Marked wider path := by
  obtain ⟨marker, hmem, hholds⟩ := h
  exact ⟨marker, hwider hmem, hholds⟩

/-- With markers, the candidates among the entries of a directory are those without any that are
marked. -/
lemma isCandidate_marked (hmarkers : markers ≠ []) (directory : String)
    (hname : Path.isName e.name = true) :
    isCandidate markers e.name = true ↔
      isCandidate [] e.name = true ∧ Marked markers (Path.join directory e.name) := by
  rw [isCandidate_iff, isCandidate_iff]
  unfold Chosen Marked fileName
  rw [split_join directory hname, or_iff_right hmarkers, or_iff_left_of_imp]
  · simp
  · rintro ⟨marker, hmem, -⟩
    cases hmem

/-! ## What is entered from a directory is no file -/

lemma isFile_of_isDirectory (h : d.isDirectory path = true) : d.isFile path = false := by
  obtain ⟨n, hpath, p, es, hn⟩ := isDirectory_iff.1 h
  have hnode : d.node? n = some (.directory p es) := hn
  unfold isFile
  simp only [hpath, hnode]

lemma isFile_of_examine (he : e ∈ d.list directory)
    (h : examine d (Path.join directory e.name) e.kind = .ok true) :
    d.isFile (Path.join directory e.name) = false := by
  rcases hkind : e.kind with _ | _ | _ <;> rw [hkind] at h
  · cases h
  · exact isFile_join_of_directory he hkind
  · have hlink := examine_link fun failure => by
      rw [h]
      exact nofun
    rw [h] at hlink
    exact isFile_of_isDirectory (Except.ok.inj hlink).symm

/-! ## Trails -/

/-- The trail without the files that are not wanted. -/
def Trail.only (keep : String → Bool) (t : Trail) : Trail := ⟨t.files.filter keep, t.failure⟩

lemma Trail.only_andThen (keep : String → Bool) (t u : Trail) :
    (t.andThen u).only keep = (t.only keep).andThen (u.only keep) := by
  obtain ⟨files, _ | failure⟩ := t
  · unfold andThen only
    simp only [List.filter_append]
  · rfl

/-- The marked part of a trail. -/
def Trail.marked (markers : List String) (t : Trail) : Trail := t.only (Marked markers)

lemma trailAmong_marked (hmarkers : markers ≠ []) {below below' : String → Trail}
    (hnames : ∀ e ∈ es, Path.isName e.name = true)
    (hbelow : ∀ e ∈ es, examine d (Path.join directory e.name) e.kind = .ok true →
      below (Path.join directory e.name) = (below' (Path.join directory e.name)).marked markers) :
    trailAmong d markers below directory es =
      (trailAmong d [] below' directory es).marked markers := by
  induction es with
  | nil => rfl
  | cons e es ih =>
    rw [List.forall_mem_cons] at hnames hbelow
    have hrest := ih hnames.2 hbelow.2
    have hmarked := isCandidate_marked hmarkers directory hnames.1
    unfold trailAmong
    rcases hexamine : examine d (Path.join directory e.name) e.kind with failure | isDirectory <;>
      simp only [hexamine]
    · rfl
    cases isDirectory with
    | true =>
      simp only [hbelow.1 hexamine, hrest]
      exact (Trail.only_andThen _ _ _).symm
    | false =>
      by_cases hcandidate : isCandidate [] e.name = true
      · by_cases hmark : Marked markers (Path.join directory e.name)
        · simp only [if_pos (hmarked.2 ⟨hcandidate, hmark⟩), if_pos hcandidate, hrest]
          unfold Trail.marked Trail.only
          rw [List.filter_cons_of_pos (by simpa using hmark)]
        · simp only [if_neg fun h => hmark (hmarked.1 h).2, if_pos hcandidate, hrest]
          unfold Trail.marked Trail.only
          rw [List.filter_cons_of_neg (by simpa using hmark)]
      · simp only [if_neg fun h => hcandidate (hmarked.1 h).1, if_neg hcandidate, hrest]

lemma trailWithin_marked (hmarkers : markers ≠ []) (depth : Nat) (h : d.isFile path = false) :
    trailWithin d markers depth path = (trailWithin d [] depth path).marked markers := by
  induction depth generalizing path with
  | zero => rfl
  | succ depth ih =>
    unfold trailWithin
    by_cases hdirectory : d.isDirectory path = true
    · rw [if_pos hdirectory, if_pos hdirectory]
      refine trailAmong_marked hmarkers (fun e he => isName_of_mem_list he) ?_
      intro e he hexamine
      exact ih (isFile_of_examine he hexamine)
    · rw [if_neg hdirectory, if_neg hdirectory, h]
      rfl

/-- **The trail below a directory with markers** is the marked part of the trail without any. -/
theorem trail_marked (hmarkers : markers ≠ []) (h : d.isDirectory path = true) :
    trail d markers path = (trail d [] path).marked markers :=
  trailWithin_marked hmarkers pathLimit (isFile_of_isDirectory h)

/-- With more markers more files are found. -/
lemma Trail.sublist_marked (hwider : markers ⊆ wider) (t : Trail) :
    (t.marked markers).files.Sublist (t.marked wider).files := by
  refine List.monotone_filter_right _ ?_
  intro path hpath
  rw [decide_eq_true_eq] at hpath ⊢
  exact hpath.mono hwider

end RoleAudit.Walk
