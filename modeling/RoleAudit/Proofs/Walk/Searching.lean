import RoleAudit.Proofs.Walk.Order
import RoleAudit.Proofs.Walk.Visiting
import RoleAudit.Walk.Search

/-!
# Searching file by file

Between two pulls of a search the disk may change in any way: what was listed may be gone, and what
was a directory may have become a file. All that a search keeps are the directories it is in, with
the entries that are left in each; and these are in order, the innermost directory first. What is
found next is at or below one of them, so the files that are found are in order.

If the disk does not change, a search finds the candidate files, one after another, and then ends as
the search for all of them at once does.

* `Leaves`: what a walk leaves when it stops.
* `resume_leaves`: a walk that is resumed leaves no more than there was.
* `Search.ordered_found`: the files that a search finds are in order.
* `Search.pulls_replicate`: what a search finds on a disk that does not change.
-/

namespace RoleAudit.Walk

open RoleAudit.Files RoleAudit.Files.Disk

/-- The places that are left to be gone through, in order. -/
def remaining (frames : List Frame) : List (List String) := frames.flatMap Frame.heads

lemma remaining_singleton (frame : Frame) : remaining [frame] = frame.heads :=
  List.flatMap_singleton _ _

lemma remaining_cons (frame : Frame) (frames : List Frame) :
    remaining (frame :: frames) = frame.heads ++ remaining frames := List.flatMap_cons

lemma remaining_append (frames rest : List Frame) :
    remaining (frames ++ rest) = remaining frames ++ remaining rest := List.flatMap_append

/-- A walk has stopped at a file, with some directories left. The file, and what is left behind it,
are at or below the places that there were. -/
structure Leaves (f : Finding) (frames : List Frame) (old : List (List String)) : Prop where
  ordered : ∀ frame ∈ frames, frame.Ordered
  refines : ∃ path, f.found = some path ∧ Refines (steps path :: remaining frames) old

variable {markers : List String} {f f' : Finding} {frames frames' : List Frame}
  {old : List (List String)} {directory path : String} {es : List Entry}
  {enter' : String → Finding → Outcome Finding Failure}

/-- What is left of a walk comes before the rest of the directory around it. -/
lemma Leaves.append {rest : List Frame} (h : Leaves f frames old)
    (hrest : ∀ frame ∈ rest, frame.Ordered) (hold : (old ++ remaining rest).Pairwise Before) :
    Leaves f (frames ++ rest) (old ++ remaining rest) where
  ordered := by
    rw [List.forall_mem_append]
    exact ⟨h.ordered, hrest⟩
  refines := by
    obtain ⟨path, hfound, hrefines⟩ := h.refines
    refine ⟨path, hfound, ?_⟩
    have hlater : Refines (remaining rest) (remaining rest) :=
      Refines.refl (List.pairwise_append.1 hold).2.1
    rw [remaining_append, ← List.cons_append]
    exact hrefines.append hlater hold

lemma Leaves.trans {older : List (List String)} (h : Leaves f frames old) (hold : Refines old older) :
    Leaves f frames older where
  ordered := h.ordered
  refines := by
    obtain ⟨path, hfound, hrefines⟩ := h.refines
    exact ⟨path, hfound, hrefines.trans hold⟩

/-- A walk that stops at a file leaves the rest of the directory. -/
lemma leaves_visit {e : Entry} (hes : Frame.Ordered ⟨directory, e :: es⟩) (f : Finding) :
    Leaves { f with found := some (Path.join directory e.name) } [⟨directory, es⟩]
      (Frame.heads ⟨directory, e :: es⟩) where
  ordered := by
    rw [List.forall_mem_singleton]
    exact hes.tail
  refines := by
    refine ⟨_, rfl, ?_⟩
    rw [remaining_singleton, ← Frame.heads_cons]
    exact Refines.refl hes.refines.ordered

/-- **Going through the entries of a directory leaves some of them**, or what is inside one. -/
theorem among_leaves
    (henter : ∀ {path f f' frames}, enter' path f = .stopped f' frames →
      Leaves f' frames [steps path])
    (hes : Frame.Ordered ⟨directory, es⟩)
    (h : among (finder markers) enter' directory es f = .stopped f' frames) :
    Leaves f' frames (Frame.heads ⟨directory, es⟩) := by
  induction es generalizing f with
  | nil => cases h
  | cons e es ih =>
    -- what comes later is left of the entries behind the first
    have hlater : ∀ {f}, among (finder markers) enter' directory es f = .stopped f' frames →
        Leaves f' frames (Frame.heads ⟨directory, e :: es⟩) := by
      intro f hrest
      have htail := Refines.refl hes.tail.refines.ordered
      exact (ih hes.tail hrest).trans (htail.mono (List.subset_cons_self _ _))
    unfold among at h
    rcases hexamine : examine f.disk (Path.join directory e.name) e.kind with failure | isDirectory
      <;> simp only [show (finder markers).disk f = f.disk from rfl, hexamine] at h
    · cases h
    cases isDirectory with
    | true =>
      rcases hinside : enter' (Path.join directory e.name) f with f₁ | ⟨f₁, inner⟩ | ⟨failure, f₁⟩
        <;> simp only [hinside] at h
      · exact hlater h
      · cases h
        have hrest : ∀ frame ∈ [Frame.mk directory es], frame.Ordered := by
          rw [List.forall_mem_singleton]
          exact hes.tail
        have hheads := hes.refines.ordered
        rw [Frame.heads_cons, ← remaining_singleton] at hheads ⊢
        exact (henter hinside).append hrest hheads
      · cases h
    | false =>
      by_cases hcandidate : isCandidate markers e.name = true
      · simp only [show (finder markers).markers = markers from rfl, if_pos hcandidate] at h
        cases h
        exact leaves_visit hes f
      · simp only [show (finder markers).markers = markers from rfl, if_neg hcandidate] at h
        exact hlater h

/-- **Walking from a path leaves what is at or below it.** -/
theorem enter_leaves {depth : Nat} (h : enter (finder markers) depth path f = .stopped f' frames) :
    Leaves f' frames [steps path] := by
  induction depth generalizing path f f' frames with
  | zero => cases h
  | succ depth ih =>
    unfold enter at h
    simp only [show (finder markers).disk f = f.disk from rfl] at h
    by_cases hdirectory : f.disk.isDirectory path = true
    · rw [if_pos hdirectory] at h
      have hlisted := Frame.ordered_list hdirectory
      exact (among_leaves ih hlisted h).trans hlisted.refines
    rw [if_neg hdirectory] at h
    by_cases hfile : f.disk.isFile path = true
    · rw [if_pos hfile] at h
      cases h
      refine ⟨?_, path, rfl, Refines.refl (List.pairwise_singleton _ _)⟩
      intro frame hframe
      cases hframe
    · rw [if_neg hfile] at h
      cases h

/-- **A walk that is resumed leaves what is at or below what there was.** -/
theorem resume_leaves (hframes : ∀ frame ∈ frames, frame.Ordered)
    (hbefore : (remaining frames).Pairwise Before)
    (h : resume (finder markers) frames f = .stopped f' frames') :
    Leaves f' frames' (remaining frames) := by
  induction frames generalizing f with
  | nil => cases h
  | cons frame frames ih =>
    rw [List.forall_mem_cons] at hframes
    rw [remaining_cons] at hbefore ⊢
    have hbehind := (List.pairwise_append.1 hbefore).2.1
    unfold resume at h
    rcases hfirst : among (finder markers) (enter (finder markers) pathLimit) frame.directory
      frame.entries f with f₁ | ⟨f₁, inner⟩ | ⟨failure, f₁⟩ <;> simp only [hfirst] at h
    · have hrest := ih hframes.2 hbehind h
      exact hrest.trans ((Refines.refl hbehind).mono (List.subset_append_right _ _))
    · cases h
      exact (among_leaves enter_leaves hframes.1 hfirst).append hframes.2 hbefore
    · cases h

namespace Search

/-! ## Pulls -/

variable {s s' : Search} {d : Disk} {disks : List Disk} {hit : Hit}

lemma found_cons (h : s.pull markers d = (hit, s')) (disks : List Disk) :
    s.found markers (d :: disks) = hit.path?.toList ++ s'.found markers disks := by
  unfold found
  conv_lhs => unfold pulls
  rw [h]
  cases hit <;> rfl

/-- A search that has ended finds nothing. -/
lemma found_ended (markers : List String) (disks : List Disk) : ended.found markers disks = [] := by
  induction disks with
  | nil => rfl
  | cons d disks ih =>
    have hpull : ended.pull markers d = (.done, ended) := rfl
    rw [found_cons hpull, ih]
    rfl

/-- What a pull finds, and what is found later, is at or below what was left before. -/
lemma refines_found_cons
    (hlater : ∀ {frames}, (∀ frame ∈ frames, frame.Ordered) → (remaining frames).Pairwise Before →
      Refines (((under frames).found markers disks).map steps) (remaining frames))
    {outcome : Outcome Finding Failure} (hpull : s.pull markers d = conclude outcome)
    (hleaves : ∀ {f frames}, outcome = .stopped f frames → Leaves f frames old) :
    Refines ((s.found markers (d :: disks)).map steps) old := by
  rcases outcome with f | ⟨f, frames⟩ | ⟨failure, f⟩
  · rw [found_cons hpull, found_ended]
    exact Refines.nil _
  · obtain ⟨hframes, path, hfound, hrefines⟩ := hleaves rfl
    have hconclude : conclude (.stopped f frames) = (.file path, under frames) := by
      unfold conclude
      simp only [hfound]
    have hrest := hlater hframes (List.pairwise_cons.1 hrefines.ordered).2
    rw [found_cons (hpull.trans hconclude)]
    exact hrefines.cons hrest
  · rw [found_cons hpull, found_ended]
    exact Refines.nil _

lemma refines_found_under (hframes : ∀ frame ∈ frames, frame.Ordered)
    (hbefore : (remaining frames).Pairwise Before) (disks : List Disk) :
    Refines (((under frames).found markers disks).map steps) (remaining frames) := by
  induction disks generalizing frames with
  | nil => exact Refines.nil _
  | cons d disks ih => exact refines_found_cons ih rfl (resume_leaves hframes hbefore)

/-- What a search finds is at or below the path that it began from. -/
lemma refines_found_fresh (markers : List String) (root : String) (disks : List Disk) :
    Refines (((fresh root).found markers disks).map steps) [steps root] := by
  cases disks with
  | nil => exact Refines.nil _
  | cons d disks =>
    refine refines_found_cons ?_ rfl enter_leaves
    intro frames hframes hbefore
    exact refines_found_under hframes hbefore disks

/-- **The files that a search finds are in order**, part by part, whatever happens to the disk
between the pulls; so none is found twice. -/
theorem ordered_found (markers : List String) (root : String) (disks : List Disk) :
    ((fresh root).found markers disks).Pairwise (fun p q => steps p < steps q) ∧
      ((fresh root).found markers disks).Nodup := by
  have hordered := (refines_found_fresh markers root disks).ordered
  rw [List.pairwise_map] at hordered
  refine ⟨hordered.imp Before.lt, hordered.imp ?_⟩
  rintro p q hbefore rfl
  exact List.lt_irrefl _ hbefore.lt

/-! ## A disk that does not change -/

/-- What a pull gives when no file is left: the end, or the failure of the search. -/
def ending : Option Failure → Hit
  | none => .done
  | some failure => .failed failure

/-- The trail that is left to a search, on a disk. -/
def rest (d : Disk) (markers : List String) : Search → Trail
  | fresh root => trail d markers root
  | under frames => trailOver d markers frames
  | ended => ⟨[], none⟩

/-- The finder never goes on. -/
lemma mild_finder (markers : List String) : (finder markers).Mild := by
  intro path f f' h
  cases h

/-- A pull that follows a trail gives its first file, and leaves the others. -/
lemma conclude_of_follows {t : Trail} {outcome : Outcome Finding Failure}
    (h : Follows (finder markers) d t f outcome) :
    match t.files with
    | [] => conclude outcome = (ending t.failure, ended)
    | path :: paths =>
      ∃ s, conclude outcome = (.file path, s) ∧ s.rest d markers = ⟨paths, t.failure⟩ := by
  cases h with
  | finished => rfl
  | failed => rfl
  | goOn visit _ => cases visit
  | stop visit left =>
    cases visit
    exact ⟨under _, rfl, left⟩
  | fail visit => cases visit

/-- **A pull gives the first file that is left**, and leaves the others. -/
theorem pull_spec (s : Search) (d : Disk) (markers : List String) :
    match (s.rest d markers).files with
    | [] => s.pull markers d = (ending (s.rest d markers).failure, ended)
    | path :: paths =>
      ∃ s', s.pull markers d = (.file path, s') ∧
        s'.rest d markers = ⟨paths, (s.rest d markers).failure⟩ := by
  cases s with
  | fresh root =>
    exact conclude_of_follows (start_follows (mild_finder markers) root (Alike.refl d))
  | under frames =>
    exact conclude_of_follows (resume_follows (mild_finder markers) frames (Alike.refl d))
  | ended => rfl

lemma pulls_ended (markers : List String) (disks : List Disk) :
    ended.pulls markers disks = List.replicate disks.length .done := by
  induction disks with
  | nil => rfl
  | cons d disks ih =>
    unfold pulls
    rw [List.length_cons, List.replicate_succ]
    exact congrArg _ ih

/-- What comes behind what is taken does not matter. -/
lemma take_append_replicate {α : Type} (xs : List α) (x : α) {n m : Nat} (h : n ≤ m) :
    (xs ++ List.replicate m x).take n = (xs ++ List.replicate n x).take n := by
  have hmin : min (n - xs.length) m = min (n - xs.length) n := by omega
  rw [List.take_append, List.take_append, List.take_replicate, List.take_replicate, hmin]

/-- Pulls on a disk that does not change give the files that are left, then the end. -/
lemma pulls_of_rest (s : Search) (d : Disk) (markers : List String) (n : Nat) :
    s.pulls markers (List.replicate n d) =
      ((s.rest d markers).files.map Hit.file ++ [ending (s.rest d markers).failure] ++
        List.replicate n Hit.done).take n := by
  induction n generalizing s with
  | zero => rfl
  | succ n ih =>
    have hpull := s.pull_spec d markers
    rw [List.replicate_succ]
    unfold pulls
    generalize s.rest d markers = t at hpull ⊢
    obtain ⟨files, failure⟩ := t
    cases files with
    | nil =>
      simp only at hpull
      rw [hpull, pulls_ended, List.length_replicate, List.map_nil, List.nil_append,
        List.singleton_append, List.take_succ_cons, List.take_replicate,
        Nat.min_eq_left (Nat.le_succ n)]
    | cons path paths =>
      obtain ⟨s', hs', hrest⟩ := hpull
      rw [hs', ih, hrest, List.map_cons, List.cons_append, List.cons_append, List.take_succ_cons,
        take_append_replicate _ Hit.done (Nat.le_succ n)]

/-- **On a disk that does not change a search finds the candidate files**, one with each pull, and
then ends as the search for all of them does. -/
theorem pulls_replicate (d : Disk) (markers : List String) (root : String) (n : Nat) :
    (fresh root).pulls markers (List.replicate n d) =
      ((candidates d markers root).1.map Hit.file ++ [ending (candidates d markers root).2] ++
        List.replicate n Hit.done).take n := by
  rw [candidates_eq_trail]
  exact pulls_of_rest (fresh root) d markers n

end Search

end RoleAudit.Walk
