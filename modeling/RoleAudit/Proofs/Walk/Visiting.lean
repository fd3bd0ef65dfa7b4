import RoleAudit.Proofs.Files.Alike
import RoleAudit.Proofs.Walk.Trail

/-!
# Which files a walk visits

A walk decides where to go as it goes, on a disk that its visits may write to. As long as they write
into files only, where it goes was settled before it began: the walk visits the files of its trail,
one after another. A visit may stop it, and then it may be resumed from the directories that were
left; what was left is the rest of the trail, and the walk that is resumed follows it.

* `Follows`: an outcome is that of visiting the files of a trail up to where a visit stops.
* `start_follows`, `resume_follows`: a walk follows its trail, and so does one that is resumed.
* `start_eq_run`: a walk that is not stopped visits all files of its trail, up to the first failure.
* `candidates_eq_trail`: the trail from a path is the list of candidate files below it.
* `itinerary`: the candidate files below several roots.
-/

namespace RoleAudit.Walk

open RoleAudit.Files RoleAudit.Files.Disk

/-! ## Following a trail up to where a visit stops -/

lemma examine_eq {d e : Disk} (h : Alike d e) (path : String) (kind : EntryKind) :
    examine d path kind = examine e path kind := by
  unfold examine
  rw [h.locate_eq, h.isDirectory_eq]

variable {σ : Type} {v : Visitor σ} {d : Disk} {t u : Trail} {s : σ} {o : Outcome σ Failure}

/-- Visits that go on write to files only. -/
def Visitor.Mild (v : Visitor σ) : Prop :=
  ∀ path s s', v.visit path s = .goOn s' → Alike (v.disk s) (v.disk s')

/-- An outcome is that of visiting the files of a trail, in order, up to the first failure, or up to
the first visit that stops the walk; then the rest of the trail is left. -/
inductive Follows (v : Visitor σ) (d : Disk) : Trail → σ → Outcome σ Failure → Prop where
  | finished {s : σ} : Follows v d ⟨[], none⟩ s (.finished s)
  | failed {failure : Failure} {s : σ} : Follows v d ⟨[], some failure⟩ s (.failed failure s)
  | goOn {path : String} {paths : List String} {failure : Option Failure} {s s' : σ}
    {o : Outcome σ Failure} (visit : v.visit path s = .goOn s')
    (rest : Follows v d ⟨paths, failure⟩ s' o) : Follows v d ⟨path :: paths, failure⟩ s o
  | stop {path : String} {paths : List String} {failure : Option Failure} {s s' : σ}
    {frames : List Frame} (visit : v.visit path s = .stop s')
    (left : trailOver d v.markers frames = ⟨paths, failure⟩) :
    Follows v d ⟨path :: paths, failure⟩ s (.stopped s' frames)
  | fail {path : String} {paths : List String} {failure : Option Failure} {s s' : σ}
    {reason : Failure} (visit : v.visit path s = .fail reason s') :
    Follows v d ⟨path :: paths, failure⟩ s (.failed reason s')

/-- Goes on when a walk is finished; when it stops, some directories around it are left as well. -/
def Outcome.within (o : Outcome σ Failure) (next : σ → Outcome σ Failure) (rest : List Frame) :
    Outcome σ Failure :=
  match o with
  | .finished s => next s
  | .stopped s frames => .stopped s (frames ++ rest)
  | .failed failure s => .failed failure s

/-- What follows a trail, and then another one, follows both. -/
theorem Follows.within (hv : v.Mild) {next : σ → Outcome σ Failure} {rest : List Frame}
    (hrest : trailOver d v.markers rest = u)
    (hnext : ∀ s, Alike d (v.disk s) → Follows v d u s (next s)) (hs : Alike d (v.disk s))
    (h : Follows v d t s o) : Follows v d (t.andThen u) s (o.within next rest) := by
  induction h with
  | finished =>
    rw [Trail.nil_andThen]
    exact hnext _ hs
  | failed => exact .failed
  | goOn visit _ ih =>
    rw [Trail.cons_andThen]
    exact .goOn visit (ih (hs.trans (hv _ _ _ visit)))
  | stop visit left =>
    rw [Trail.cons_andThen]
    refine .stop visit ?_
    rw [trailOver_append, left, hrest]
  | fail visit =>
    rw [Trail.cons_andThen]
    exact .fail visit

/-- Going through entries follows the trail through them if entering the directories among them
follows theirs. -/
lemma among_follows (hv : v.Mild) {directory : String} {es : List Entry}
    {enter' : String → σ → Outcome σ Failure}
    (henter : ∀ e ∈ es, ∀ s, Alike d (v.disk s) →
      Follows v d (trail d v.markers (Path.join directory e.name)) s
        (enter' (Path.join directory e.name) s))
    (hs : Alike d (v.disk s)) :
    Follows v d (trailAmong d v.markers (trail d v.markers) directory es) s
      (among v enter' directory es s) := by
  induction es generalizing s with
  | nil => exact .finished
  | cons e es ih =>
    rw [List.forall_mem_cons] at henter
    have hlater := fun s (hs : Alike d (v.disk s)) => ih henter.2 hs
    have hleft := trailOver_singleton d v.markers ⟨directory, es⟩
    unfold among trailAmong
    simp only [← examine_eq hs]
    rcases examine d (Path.join directory e.name) e.kind with failure | isDirectory
    · exact .failed
    cases isDirectory with
    | true => exact (henter.1 s hs).within hv hleft hlater hs
    | false =>
      by_cases hcandidate : isCandidate v.markers e.name = true
      · simp only [if_pos hcandidate]
        rcases hvisit : v.visit (Path.join directory e.name) s with s' | s' | ⟨f, s'⟩
        · exact .goOn hvisit (hlater s' (hs.trans (hv _ _ _ hvisit)))
        · exact .stop hvisit hleft
        · exact .fail hvisit
      · simp only [if_neg hcandidate]
        exact hlater s hs

/-- A walk follows its trail if it may go deep enough. -/
theorem enter_follows (hv : v.Mild) {depth : Nat} {path : String}
    (hdepth : pathLimit ≤ depth + path.utf8ByteSize) (hs : Alike d (v.disk s)) :
    Follows v d (trail d v.markers path) s (enter v depth path s) := by
  induction depth generalizing path s with
  | zero =>
    have hlong : pathLimit ≤ path.utf8ByteSize := by omega
    have htrail : trail d v.markers path = _ := trailWithin_of_long hlong pathLimit
    rw [htrail]
    exact .failed
  | succ depth ih =>
    rw [trail_eq]
    unfold enter
    simp only [← hs.isDirectory_eq, ← hs.isFile_eq, ← hs.list_eq]
    by_cases hdirectory : d.isDirectory path = true
    · rw [if_pos hdirectory, if_pos hdirectory]
      refine among_follows hv ?_ hs
      intro e he s hs
      have hlonger := utf8ByteSize_lt_join path (isName_of_mem_list he)
      exact ih (by omega) hs
    rw [if_neg hdirectory, if_neg hdirectory]
    by_cases hfile : d.isFile path = true
    · rw [if_pos hfile, if_pos hfile]
      rcases hvisit : v.visit path s with s' | s' | ⟨f, s'⟩
      · exact .goOn hvisit .finished
      · exact .stop hvisit rfl
      · exact .fail hvisit
    · rw [if_neg hfile, if_neg hfile]
      exact .failed

/-- **A walk follows its trail.** -/
theorem start_follows (hv : v.Mild) (path : String) (hs : Alike d (v.disk s)) :
    Follows v d (trail d v.markers path) s (start v path s) :=
  enter_follows hv (Nat.le_add_right _ _) hs

/-- **A walk that is resumed follows what was left of its trail.** -/
theorem resume_follows (hv : v.Mild) (frames : List Frame) (hs : Alike d (v.disk s)) :
    Follows v d (trailOver d v.markers frames) s (resume v frames s) := by
  induction frames generalizing s with
  | nil => exact .finished
  | cons f frames ih =>
    have hfirst : Follows v d (trailAmong d v.markers (trail d v.markers) f.directory f.entries) s
        (among v (enter v pathLimit) f.directory f.entries s) :=
      among_follows hv (fun e _ s hs => start_follows hv _ hs) hs
    exact hfirst.within hv rfl (fun s hs => ih hs) hs

/-! ## Walks that are not stopped -/

/-- Visits files one after another, up to the first failure, and fails at the end if it must. -/
def visitAll (v : Visitor σ) (failure : Option Failure) : List String → σ → Outcome σ Failure
  | [], s =>
    match failure with
    | none => .finished s
    | some failure => .failed failure s
  | path :: paths, s =>
    match v.visit path s with
    | .goOn s => visitAll v failure paths s
    | .stop s => .stopped s []
    | .fail failure s => .failed failure s

/-- Visits the files of a trail. -/
def Trail.run (v : Visitor σ) (t : Trail) (s : σ) : Outcome σ Failure :=
  visitAll v t.failure t.files s

/-- Visits never stop the walk, and write to files only. -/
structure Visitor.Steady (v : Visitor σ) : Prop where
  ne_stop : ∀ path s s', v.visit path s ≠ .stop s'
  alike : ∀ path s s', v.visit path s = .goOn s' → Alike (v.disk s) (v.disk s')

/-- Where no visit stops the walk, all files of the trail are visited. -/
lemma Follows.eq_run (h : Follows v d t s o) (hstop : ∀ path s s', v.visit path s ≠ .stop s') :
    o = t.run v s := by
  unfold Trail.run
  induction h with
  | finished => rfl
  | failed => rfl
  | goOn visit _ ih =>
    unfold visitAll
    rw [visit]
    exact ih
  | stop visit _ => exact absurd visit (hstop _ _ _)
  | fail visit =>
    unfold visitAll
    rw [visit]

/-- **A walk visits the files of its trail**, in order, up to the first failure. -/
theorem start_eq_run (hv : v.Steady) (path : String) (hs : Alike d (v.disk s)) :
    start v path s = (trail d v.markers path).run v s :=
  (start_follows hv.alike path hs).eq_run hv.ne_stop

/-! ## Candidate files -/

lemma steady_collector (d : Disk) (markers : List String) : (collector d markers).Steady where
  ne_stop _ _ _ h := nomatch h
  alike _ _ _ _ := Alike.refl d

/-- A walk that only collects paths collects all of them. -/
lemma visitAll_collector (d : Disk) (markers : List String) (failure : Option Failure)
    (paths collected : List String) :
    visitAll (collector d markers) failure paths collected =
      match failure with
      | none => .finished (paths.reverse ++ collected)
      | some failure => .failed failure (paths.reverse ++ collected) := by
  induction paths generalizing collected with
  | nil => cases failure <;> rfl
  | cons path paths ih =>
    have hvisit : (collector d markers).visit path collected = .goOn (path :: collected) := rfl
    unfold visitAll
    rw [hvisit]
    simp only [ih, List.reverse_cons, List.append_assoc, List.singleton_append]

/-- **The trail from a path is the list of candidate files below it**, and fails where the search
for them does. -/
theorem candidates_eq_trail (d : Disk) (markers : List String) (path : String) :
    candidates d markers path = ((trail d markers path).files, (trail d markers path).failure) := by
  have hrun : start (collector d markers) path [] =
      visitAll (collector d markers) (trail d markers path).failure (trail d markers path).files [] :=
    start_eq_run (steady_collector d markers) path (Alike.refl d)
  unfold candidates
  rw [hrun, visitAll_collector]
  rcases (trail d markers path).failure with _ | failure
  · simp only [List.append_nil, List.reverse_reverse]
  · simp only [List.append_nil, List.reverse_reverse]

/-! ## Several roots -/

/-- The candidate files below several paths, in order, and the failure that ends the search. -/
def itinerary (d : Disk) (markers : List String) : List String → Trail
  | [] => ⟨[], none⟩
  | root :: roots =>
    let (files, failure) := candidates d markers root
    (Trail.mk files failure).andThen (itinerary d markers roots)

lemma itinerary_cons (d : Disk) (markers : List String) (root : String) (roots : List String) :
    itinerary d markers (root :: roots) =
      (trail d markers root).andThen (itinerary d markers roots) := by
  conv_lhs => unfold itinerary
  rw [candidates_eq_trail]

lemma itinerary_singleton (d : Disk) (markers : List String) (root : String) :
    itinerary d markers [root] = trail d markers root := by
  rw [itinerary_cons]
  exact Trail.andThen_nil _

end RoleAudit.Walk

namespace RoleAudit.Scan.Taker

variable {σ : Type} {t : Taker σ} {markers : List String} {strict : Bool} {root : String} {s s' : σ}

/-- A scan goes on with the next root when the walk from one is finished. -/
lemma scan_cons_of_finished
    (h : Walk.start (t.visitor markers strict) root (t.take s (rootStep (t.disk s) root)) =
      .finished s') (roots : List String) :
    t.scan markers strict (root :: roots) s = t.scan markers strict roots s' := by
  conv_lhs => unfold scan
  rw [h]

/-- A scan fails where the walk from a root fails. -/
lemma scan_cons_of_failed {failure : Failure}
    (h : Walk.start (t.visitor markers strict) root (t.take s (rootStep (t.disk s) root)) =
      .failed failure s') (roots : List String) :
    t.scan markers strict (root :: roots) s = (some failure, s') := by
  conv_lhs => unfold scan
  rw [h]

end RoleAudit.Scan.Taker
