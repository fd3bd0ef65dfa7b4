import RoleAudit.Proofs.Scan.Telling
import RoleAudit.Scan.Stream

/-!
# What a pull takes

A pull takes the steps that are left of a file up to the next row; if there is none among them it
goes on with the files that the walk comes to, one after another, and stops inside the first one with
a row. So it reads some sources, takes a beginning of their steps, and what is not taken of the last
of them waits for the next pull.

* `Pulling.deliver_moves`: taking steps up to the first row.
* `Pulling.Reads`: a pull under way has read some sources, and has taken steps about them.
* `Pulling.follows_reads`: what a pull reads on its way along a trail.
* `Stream.left`: the account of what is left to a stream, as long as the disk does not change.
* `Stream.pull_spec`: what a pull does.
-/

namespace RoleAudit.Scan

open RoleAudit.Files RoleAudit.Report RoleAudit.Walk

namespace Pulling

variable {p p' p'' : Pulling} {steps taken : List Step} {readings others : List Reading}

/-! ## Taking steps up to the first row -/

/-- What visiting files leaves as it is. -/
structure Keeps (p p' : Pulling) : Prop where
  disk : p'.disk = p.disk
  markers : p'.stream.markers = p.stream.markers
  strict : p'.stream.strict = p.stream.strict
  roots : p'.stream.roots = p.stream.roots
  frames : p'.stream.frames = p.stream.frames
  ended : p'.stream.ended = p.stream.ended

lemma Keeps.refl (p : Pulling) : Keeps p p := ⟨rfl, rfl, rfl, rfl, rfl, rfl⟩

lemma Keeps.trans (h : Keeps p p') (h' : Keeps p' p'') : Keeps p p'' where
  disk := h'.disk.trans h.disk
  markers := h'.markers.trans h.markers
  strict := h'.strict.trans h.strict
  roots := h'.roots.trans h.roots
  frames := h'.frames.trans h.frames
  ended := h'.ended.trans h.ended

/-- Of some steps a beginning was taken, up to the first row if there is one; the others are left. -/
structure Moves (p : Pulling) (steps taken : List Step) (p' : Pulling) : Prop where
  statistics : p'.stream.statistics = taken.foldl Statistics.take p.stream.statistics
  log : p'.log = (taken.filterMap Step.entry?).reverse ++ p.log
  split : taken ++ p'.stream.pending = steps
  found : taken.filterMap Step.row? = p'.found.toList
  drained : p'.found = none → p'.stream.pending = []

lemma log_take (p : Pulling) (step : Step) :
    (p.take step).log = step.entry?.toList ++ p.log := by
  cases step <;> rfl

/-- A step that is no row is taken, and then the others. -/
lemma deliver_cons_of_row?_eq_none {step : Step} (h : step.row? = none) (p : Pulling)
    (rest : List Step) : p.deliver (step :: rest) = (p.take step).deliver rest := by
  cases step with
  | row r => cases h
  | note e => rfl
  | file => rfl
  | type => rfl

lemma keeps_deliver (p : Pulling) (steps : List Step) : Keeps p (p.deliver steps) := by
  induction steps generalizing p with
  | nil => exact ⟨rfl, rfl, rfl, rfl, rfl, rfl⟩
  | cons step rest ih =>
    have htake : Keeps p (p.take step) := ⟨rfl, rfl, rfl, rfl, rfl, rfl⟩
    rcases hrow : step.row? with _ | r
    · rw [deliver_cons_of_row?_eq_none hrow]
      exact htake.trans (ih (p.take step))
    · cases step with
      | row r => exact ⟨rfl, rfl, rfl, rfl, rfl, rfl⟩
      | note e => cases hrow
      | file => cases hrow
      | type => cases hrow

/-- **Taking steps ends with the first row**, or when there are no more. -/
theorem deliver_moves (hfound : p.found = none) (steps : List Step) :
    ∃ taken, Moves p steps taken (p.deliver steps) := by
  induction steps generalizing p with
  | nil => exact ⟨[], rfl, rfl, rfl, by simp [deliver, hfound], fun _ => rfl⟩
  | cons step rest ih =>
    rcases hrow : step.row? with _ | r
    · obtain ⟨taken, h⟩ := ih (p := p.take step) hfound
      rw [deliver_cons_of_row?_eq_none hrow]
      refine ⟨step :: taken, h.statistics, ?_, ?_, ?_, h.drained⟩
      · rw [h.log, log_take, List.filterMap_cons]
        rcases step.entry? with _ | e
        · rfl
        · rw [List.reverse_cons, List.append_assoc]
          rfl
      · rw [List.cons_append, h.split]
      · rw [List.filterMap_cons_none hrow, h.found]
    · cases step with
      | row r => exact ⟨[.row r], rfl, rfl, rfl, rfl, fun h => nomatch h⟩
      | note e => cases hrow
      | file => cases hrow
      | type => cases hrow

/-- What is left behind a row is about no further source, if all rows are among such steps. -/
lemma Moves.quiet {head tail : List Step} (h : Moves p (head ++ tail) taken p')
    (hhead : head.filterMap Step.row? = []) (htail : ∀ step ∈ tail, quiet step = true) :
    ∀ step ∈ p'.stream.pending, quiet step = true := by
  rcases List.append_eq_append_iff.1 h.split with ⟨middle, hsplit, hpending⟩ | ⟨middle, -, hsplit⟩
  · -- no row was taken, so nothing is left
    have hnone : taken.filterMap Step.row? = [] := by
      rw [hsplit, List.filterMap_append] at hhead
      exact (List.append_eq_nil_iff.1 hhead).1
    rw [h.found, Option.toList_eq_nil_iff] at hnone
    rw [h.drained hnone]
    intro step hstep
    cases hstep
  · intro step hstep
    apply htail step
    rw [hsplit]
    exact List.mem_append_right _ hstep

/-! ## Reading sources -/

/-- A pull under way has read some sources: steps about them have come behind those that were left
before, and have been taken up to the first row. -/
def Reads (p : Pulling) (readings : List Reading) (p' : Pulling) : Prop :=
  ∃ new taken, Moves p (p.stream.pending ++ new) taken p' ∧ Tells new readings ∧
    ((∀ step ∈ p.stream.pending, quiet step = true) →
      ∀ step ∈ p'.stream.pending, quiet step = true)

/-- Where nothing is left, nothing has to be read. -/
lemma Reads.refl (hfound : p.found = none) (hpending : p.stream.pending = []) : Reads p [] p := by
  refine ⟨[], [], ⟨rfl, rfl, ?_, ?_, fun _ => hpending⟩, Tells.nil, id⟩
  · rw [List.nil_append, List.append_nil]
  · rw [hfound]
    rfl

/-- Where no row was found, nothing is left. -/
lemma Reads.drained (h : Reads p readings p') (hfound : p'.found = none) : p'.stream.pending = [] := by
  obtain ⟨new, taken, hmoves, -⟩ := h
  exact hmoves.drained hfound

/-- After sources without rows others are read. -/
lemma Reads.trans (h : Reads p readings p') (hfound : p'.found = none)
    (h' : Reads p' others p'') : Reads p (readings ++ others) p'' := by
  obtain ⟨new, taken, hmoves, htells, -⟩ := h
  obtain ⟨new', taken', hmoves', htells', hquiet'⟩ := h'
  have hpending := hmoves.drained hfound
  have hsplit := hmoves.split
  have hsplit' := hmoves'.split
  rw [hpending, List.append_nil] at hsplit
  rw [hpending, List.nil_append] at hsplit'
  refine ⟨new ++ new', taken ++ taken', ⟨?_, ?_, ?_, ?_, hmoves'.drained⟩, htells.append htells', ?_⟩
  · rw [hmoves'.statistics, hmoves.statistics, List.foldl_append]
  · rw [hmoves'.log, hmoves.log, List.filterMap_append, List.reverse_append, List.append_assoc]
  · rw [hsplit, List.append_assoc, List.append_assoc, hsplit']
  · rw [List.filterMap_append, hmoves.found, hmoves'.found, hfound]
    rfl
  · intro _
    apply hquiet'
    rw [hpending]
    intro step hstep
    cases hstep

/-- What stands outside the steps does not matter. -/
lemma Reads.congr (h : Reads p readings p') (hstatistics : p''.stream.statistics = p'.stream.statistics)
    (hpending : p''.stream.pending = p'.stream.pending) (hlog : p''.log = p'.log)
    (hfound : p''.found = p'.found) : Reads p readings p'' := by
  obtain ⟨new, taken, hmoves, htells, hquiet⟩ := h
  refine ⟨new, taken, ⟨?_, ?_, ?_, ?_, ?_⟩, htells, ?_⟩
  · rw [hstatistics, hmoves.statistics]
  · rw [hlog, hmoves.log]
  · rw [hpending, hmoves.split]
  · rw [hfound, hmoves.found]
  · rw [hfound, hpending]
    exact hmoves.drained
  · rw [hpending]
    exact hquiet

/-- At the beginning it does not matter where the walk stands. -/
lemma Reads.of_frames {frames : List Frame}
    (h : Reads { p with stream := { p.stream with frames } } readings p') : Reads p readings p' := by
  obtain ⟨new, taken, hmoves, htells⟩ := h
  exact ⟨new, taken,
    ⟨hmoves.statistics, hmoves.log, hmoves.split, hmoves.found, hmoves.drained⟩, htells⟩

/-- What is left of a file is taken. -/
lemma reads_pending (hfound : p.found = none) : Reads p [] (p.deliver p.stream.pending) := by
  obtain ⟨taken, hmoves⟩ := deliver_moves hfound p.stream.pending
  refine ⟨[], taken, ?_, Tells.nil, ?_⟩
  · rw [List.append_nil]
    exact hmoves
  · intro hquiet step hstep
    apply hquiet step
    rw [← hmoves.split]
    exact List.mem_append_right _ hstep

/-- The note about a root is taken. -/
lemma reads_rootStep (hfound : p.found = none) (hpending : p.stream.pending = []) (root : String) :
    Reads p [] (p.take (rootStep p.disk root)) := by
  refine ⟨[rootStep p.disk root], [rootStep p.disk root], ⟨rfl, rfl, ?_, ?_, fun _ => hpending⟩,
    tells_rootStep p.disk root, ?_⟩
  · rw [show (p.take (rootStep p.disk root)).stream.pending = p.stream.pending from rfl, hpending,
      List.append_nil, List.nil_append]
  · rw [show (p.take (rootStep p.disk root)).found = p.found from rfl, hfound]
    rfl
  · exact id

/-- A file has been read. -/
lemma reads_file (hfound : p.found = none) (hpending : p.stream.pending = []) {strict : Bool}
    {path : String} (h : fileSteps p.disk strict path = .ok steps) :
    ∃ declarations, declarationsIn p.disk strict path = .ok declarations ∧
      Reads p [⟨path, declarations⟩] (p.deliver steps) := by
  obtain ⟨declarations, hdeclarations, htells, head, tail, hsteps, hhead, htail⟩ := fileSteps_ok h
  obtain ⟨taken, hmoves⟩ := deliver_moves hfound steps
  refine ⟨declarations, hdeclarations, steps, taken, ?_, htells, fun _ => ?_⟩
  · rw [hpending]
    exact hmoves
  · rw [hsteps] at hmoves ⊢
    exact hmoves.quiet hhead htail

/-- A file has failed: notes were taken, and no row was found. -/
lemma reads_failed (hfound : p.found = none) (hpending : p.stream.pending = []) {strict : Bool}
    {path : String} {failure : Failure} (h : fileSteps p.disk strict path = .error (steps, failure)) :
    declarationsIn p.disk strict path = .error failure ∧ Reads p [] (p.deliver steps) ∧
      (p.deliver steps).found = none := by
  obtain ⟨hfailure, htells⟩ := fileSteps_error h
  obtain ⟨taken, hmoves⟩ := deliver_moves hfound steps
  have hnone : taken.filterMap Step.row? = [] := by
    have hrows := htells.rows
    rw [← hmoves.split, List.filterMap_append] at hrows
    exact (List.append_eq_nil_iff.1 hrows).1
  rw [hmoves.found, Option.toList_eq_nil_iff] at hnone
  refine ⟨hfailure, ⟨steps, taken, ?_, htells, fun _ => ?_⟩, hnone⟩
  · rw [hpending]
    exact hmoves
  · rw [hmoves.drained hnone]
    intro step hstep
    cases hstep

/-! ## Following a trail -/

/-- The account of the files of a trail, each read as it is on a disk. -/
def told (d : Disk) (strict : Bool) (t : Trail) : Account :=
  Account.ofFiles (fun _ => declarationsIn d strict) t.failure [] t.files

/-- On a disk that does not change it makes no difference what was read before. -/
lemma ofFiles_eq (read : String → Except Failure (List Declaration)) (failure : Option Failure)
    (done : List Row) (files : List String) :
    Account.ofFiles (fun _ => read) failure done files =
      Account.ofFiles (fun _ => read) failure [] files := by
  induction files generalizing done with
  | nil => rfl
  | cons path files ih =>
    unfold Account.ofFiles
    rcases read path with f | declarations
    · rfl
    · simp only [ih (done ++ _), ih ([] ++ _)]

lemma told_andThen (d : Disk) (strict : Bool) (t u : Trail) :
    told d strict (t.andThen u) = (told d strict t).andThen (told d strict u) := by
  unfold told
  rw [Account.ofFiles_andThen, ofFiles_eq _ u.failure]

variable {d : Disk} {strict : Bool}

lemma told_cons_error {path : String} {f : Failure} (h : declarationsIn d strict path = .error f)
    (paths : List String) (failure : Option Failure) :
    told d strict ⟨path :: paths, failure⟩ = ⟨[], some f⟩ :=
  @Account.ofFiles_cons_error (fun _ => declarationsIn d strict) [] path f h failure paths

lemma told_cons_ok {path : String} {declarations : List Declaration}
    (h : declarationsIn d strict path = .ok declarations) (paths : List String)
    (failure : Option Failure) :
    told d strict ⟨path :: paths, failure⟩ =
      (⟨[⟨path, declarations⟩], none⟩ : Account).andThen (told d strict ⟨paths, failure⟩) := by
  unfold told
  rw [Account.ofFiles_cons_ok h, ofFiles_eq]

/-- Sources of which an account tells are declared as it says. -/
lemma declared_of_mem_told {t : Trail} {r : Reading} (h : r ∈ (told d strict t).readings) :
    declarationsIn d strict r.path = .ok r.declarations := by
  obtain ⟨-, hread⟩ := Account.mem_ofFiles h
  exact hread

/-! ### Visits -/

variable {markers : List String}

lemma visit_eq (markers : List String) (strict : Bool) (path : String) (p : Pulling) :
    (visitor markers strict).visit path p =
      match fileSteps p.disk strict path with
      | .ok steps =>
        if (p.deliver steps).found.isSome then .stop (p.deliver steps)
        else .goOn (p.deliver steps)
      | .error (steps, failure) => .fail failure (p.deliver steps) := rfl

/-- A visit reads a file: it stops at a row of it, or goes on if it has none. -/
lemma visit_reads (hfound : p.found = none) (hpending : p.stream.pending = []) (markers : List String)
    (strict : Bool) (path : String) :
    match (visitor markers strict).visit path p with
    | .goOn p' =>
      Keeps p p' ∧ p'.found = none ∧
        ∃ declarations, declarationsIn p.disk strict path = .ok declarations ∧
          Reads p [⟨path, declarations⟩] p'
    | .stop p' =>
      Keeps p p' ∧ p'.found ≠ none ∧
        ∃ declarations, declarationsIn p.disk strict path = .ok declarations ∧
          Reads p [⟨path, declarations⟩] p'
    | .fail failure p' =>
      Keeps p p' ∧ p'.found = none ∧ declarationsIn p.disk strict path = .error failure ∧
        Reads p [] p' := by
  rw [visit_eq]
  rcases hsteps : fileSteps p.disk strict path with ⟨steps, failure⟩ | steps
  · obtain ⟨hfailure, hreads, hnone⟩ := reads_failed hfound hpending hsteps
    exact ⟨keeps_deliver p steps, hnone, hfailure, hreads⟩
  · have hread := reads_file hfound hpending hsteps
    rcases hrow : (p.deliver steps).found with _ | r <;> simp only [hrow]
    · exact ⟨keeps_deliver p steps, hrow, hread⟩
    · exact ⟨keeps_deliver p steps, hrow ▸ Option.some_ne_none r, hread⟩

lemma mild_visitor (markers : List String) (strict : Bool) : (visitor markers strict).Mild := by
  intro path p p' h
  rw [visit_eq] at h
  rcases hsteps : fileSteps p.disk strict path with ⟨steps, failure⟩ | steps <;>
    simp only [hsteps] at h
  · cases h
  · have hdisk := (keeps_deliver p steps).disk
    split at h
    · cases h
    · cases h
      rw [show (visitor markers strict).disk (p.deliver steps) = p.disk from hdisk]
      exact Alike.refl _

/-- How a walk ends that has an account before it: it has read the sources of the account; or it was
stopped by a row, and then the account goes on with that of what is left. -/
def Walks (d : Disk) (markers : List String) (strict : Bool) (account : Account) (p : Pulling) :
    Outcome Pulling Failure → Prop
  | .finished p' =>
    Keeps p p' ∧ p'.found = none ∧ ∃ readings, Reads p readings p' ∧ account = ⟨readings, none⟩
  | .stopped p' frames =>
    Keeps p p' ∧ p'.found ≠ none ∧
      ∃ readings, Reads p readings p' ∧
        account = (⟨readings, none⟩ : Account).andThen (told d strict (trailOver d markers frames))
  | .failed failure p' =>
    Keeps p p' ∧ p'.found = none ∧
      ∃ readings, Reads p readings p' ∧ account = ⟨readings, some failure⟩

/-- **What a pull reads on its way along a trail** are the sources of its account. -/
theorem follows_reads {t : Trail} {o : Outcome Pulling Failure}
    (h : Follows (visitor markers strict) d t p o) (hdisk : p.disk = d) (hfound : p.found = none)
    (hpending : p.stream.pending = []) : Walks d markers strict (told d strict t) p o := by
  induction h with
  | finished => exact ⟨Keeps.refl _, hfound, [], Reads.refl hfound hpending, rfl⟩
  | failed => exact ⟨Keeps.refl _, hfound, [], Reads.refl hfound hpending, rfl⟩
  | @goOn path paths failure p p₁ o visit rest ih =>
    have hvisit := visit_reads hfound hpending markers strict path
    rw [visit, hdisk] at hvisit
    obtain ⟨hkeeps, hfound₁, declarations, hdeclarations, hreads⟩ := hvisit
    have hrest := ih (hkeeps.disk.trans hdisk) hfound₁ (hreads.drained hfound₁)
    rw [told_cons_ok hdeclarations]
    cases o with
    | finished p' =>
      obtain ⟨hkeeps', hfound', readings, hreads', htold⟩ := hrest
      refine ⟨hkeeps.trans hkeeps', hfound', _, hreads.trans hfound₁ hreads', ?_⟩
      rw [htold]
      rfl
    | stopped p' frames =>
      obtain ⟨hkeeps', hfound', readings, hreads', htold⟩ := hrest
      refine ⟨hkeeps.trans hkeeps', hfound', _, hreads.trans hfound₁ hreads', ?_⟩
      rw [htold, ← Account.andThen_assoc]
      rfl
    | failed reason p' =>
      obtain ⟨hkeeps', hfound', readings, hreads', htold⟩ := hrest
      refine ⟨hkeeps.trans hkeeps', hfound', _, hreads.trans hfound₁ hreads', ?_⟩
      rw [htold]
      rfl
  | @stop path paths failure p p' frames visit left =>
    have hvisit := visit_reads hfound hpending markers strict path
    rw [visit, hdisk] at hvisit
    obtain ⟨hkeeps, hfound', declarations, hdeclarations, hreads⟩ := hvisit
    refine ⟨hkeeps, hfound', _, hreads, ?_⟩
    rw [told_cons_ok hdeclarations, show trailOver d markers frames = _ from left]
  | @fail path paths failure p p' reason visit =>
    have hvisit := visit_reads hfound hpending markers strict path
    rw [visit, hdisk] at hvisit
    obtain ⟨hkeeps, hfound', hfailure, hreads⟩ := hvisit
    exact ⟨hkeeps, hfound', [], hreads, told_cons_error hfailure paths failure⟩

end Pulling

/-! ## What is left to a stream -/

/-- The account of what is left to a stream behind the file at which it stands, as long as the disk
does not change. -/
def Stream.left (s : Stream) (d : Disk) : Account :=
  if s.ended then ⟨[], none⟩
  else Pulling.told d s.strict
    ((trailOver d s.markers s.frames).andThen (itinerary d s.markers s.roots))

lemma Stream.left_of_ended {s : Stream} (h : s.ended = true) (d : Disk) : s.left d = ⟨[], none⟩ := by
  unfold Stream.left
  rw [if_pos h]

lemma Stream.left_of_not_ended {s : Stream} (h : s.ended = false) (d : Disk) :
    s.left d = Pulling.told d s.strict
      ((trailOver d s.markers s.frames).andThen (itinerary d s.markers s.roots)) := by
  unfold Stream.left
  rw [h, if_neg Bool.false_ne_true]

namespace Pulling

variable {p p' p'' : Pulling} {readings others : List Reading} {d : Disk} {account : Account}
  {pulled : Pulled}

/-- How a pull ends that has an account before it: with a row, and then the account goes on with what
is left to the stream; or at the end of the account. -/
def Concludes (d : Disk) (account : Account) (p : Pulling) (pulled : Pulled) (p' : Pulling) : Prop :=
  p'.stream.markers = p.stream.markers ∧ p'.stream.strict = p.stream.strict ∧
    p'.found = pulled.row? ∧
    ∃ readings, Reads p readings p' ∧
      match pulled with
      | .row _ =>
        p'.stream.ended = p.stream.ended ∧
          account = (⟨readings, none⟩ : Account).andThen (p'.stream.left d)
      | .done => p'.stream.ended = true ∧ account = ⟨readings, none⟩
      | .failed failure => p'.stream.ended = true ∧ account = ⟨readings, some failure⟩

/-- A pull reads sources without rows, and then ends. -/
lemma Concludes.trans (hkeeps : Keeps p p') (hfound : p'.found = none) (hreads : Reads p readings p')
    (h : Concludes d account p' pulled p'') :
    Concludes d ((⟨readings, none⟩ : Account).andThen account) p pulled p'' := by
  obtain ⟨hmarkers, hstrict, hrow, others, hreads', hend⟩ := h
  refine ⟨hmarkers.trans hkeeps.markers, hstrict.trans hkeeps.strict, hrow, readings ++ others,
    hreads.trans hfound hreads', ?_⟩
  cases pulled with
  | row r =>
    obtain ⟨hended, haccount⟩ := hend
    refine ⟨hended.trans hkeeps.ended, ?_⟩
    rw [haccount, ← Account.andThen_assoc]
    rfl
  | done =>
    obtain ⟨hended, haccount⟩ := hend
    refine ⟨hended, ?_⟩
    rw [haccount]
    rfl
  | failed failure =>
    obtain ⟨hended, haccount⟩ := hend
    refine ⟨hended, ?_⟩
    rw [haccount]
    rfl

lemma Concludes.of_frames {frames : List Frame}
    (h : Concludes d account { p with stream := { p.stream with frames } } pulled p') :
    Concludes d account p pulled p' := by
  obtain ⟨hmarkers, hstrict, hrow, readings, hreads, hend⟩ := h
  exact ⟨hmarkers, hstrict, hrow, readings, hreads.of_frames, hend⟩

/-- A pull is stopped by a row: what is left are some directories and some roots. -/
lemma concludes_stopped {p₀ : Pulling} {frames : List Frame} {roots : List String}
    (hended : p₀.stream.ended = false) (hkeeps : Keeps p₀ p) (hrow : p.found ≠ none)
    (hreads : Reads p₀ readings p) :
    let stopped : Pulling := { p with stream := { p.stream with roots, frames } }
    let result : Pulled × Pulling :=
      match p.found with
      | some r => (.row r, stopped)
      | none => (.done, stopped)
    Concludes d ((⟨readings, none⟩ : Account).andThen (told d p₀.stream.strict
        ((trailOver d p₀.stream.markers frames).andThen (itinerary d p₀.stream.markers roots))))
      p₀ result.1 result.2 := by
  obtain ⟨r, hfound⟩ := Option.ne_none_iff_exists'.1 hrow
  intro stopped result
  have hresult : result = (.row r, stopped) := by
    unfold result
    rw [hfound]
  have hleft := Stream.left_of_not_ended (s := { p.stream with roots, frames })
    (hkeeps.ended.trans hended) d
  rw [hresult, ← hkeeps.markers, ← hkeeps.strict]
  exact ⟨hkeeps.markers, hkeeps.strict, hfound, readings, hreads.congr rfl rfl rfl rfl,
    hkeeps.ended, congrArg _ hleft.symm⟩

/-- A pull meets a failure. -/
lemma concludes_failed {p₀ : Pulling} {failure : Failure} (hkeeps : Keeps p₀ p)
    (hfound : p.found = none) (hreads : Reads p₀ readings p) :
    Concludes d ⟨readings, some failure⟩ p₀ (.failed failure)
      { p with stream := { p.stream with ended := true } } :=
  ⟨hkeeps.markers, hkeeps.strict, hfound, readings, hreads.congr rfl rfl rfl rfl, rfl, rfl⟩

/-- **Beginning roots** reads the sources below them, up to the first row. -/
theorem begin_concludes (roots : List String) (hdisk : p.disk = d) (hfound : p.found = none)
    (hpending : p.stream.pending = []) (hended : p.stream.ended = false) :
    Concludes d (told d p.stream.strict (itinerary d p.stream.markers roots)) p
      (p.begin roots).1 (p.begin roots).2 := by
  induction roots generalizing p with
  | nil =>
    exact ⟨rfl, rfl, hfound, [], (Reads.refl hfound hpending).congr rfl rfl rfl rfl, rfl, rfl⟩
  | cons root roots ih =>
    have hbegun : Keeps p (p.take (rootStep p.disk root)) := ⟨rfl, rfl, rfl, rfl, rfl, rfl⟩
    have hnote := reads_rootStep hfound hpending root
    have hfollows : Follows (visitor p.stream.markers p.stream.strict) d
        (trail d p.stream.markers root) (p.take (rootStep p.disk root))
        (start (visitor p.stream.markers p.stream.strict) root (p.take (rootStep p.disk root))) :=
      start_follows (mild_visitor _ _) root (hdisk ▸ Alike.refl p.disk)
    have hwalk := follows_reads hfollows hdisk hfound hpending
    rw [itinerary_cons, told_andThen]
    unfold begin
    rcases hstart : start (visitor p.stream.markers p.stream.strict) root
      (p.take (rootStep p.disk root)) with p' | ⟨p', frames⟩ | ⟨failure, p'⟩ <;>
      simp only [hstart] at hwalk ⊢
    · obtain ⟨hkeeps, hfound', readings, hreads, htold⟩ := hwalk
      have hwalked := hbegun.trans hkeeps
      have hrest := ih (hwalked.disk.trans hdisk) hfound' (hreads.drained hfound')
        (hwalked.ended.trans hended)
      rw [hwalked.strict, hwalked.markers] at hrest
      rw [htold]
      exact hrest.trans hwalked hfound' (hnote.trans hfound hreads)
    · obtain ⟨hkeeps, hrow, readings, hreads, htold⟩ := hwalk
      rw [htold, Account.andThen_assoc, ← told_andThen]
      exact concludes_stopped hended (hbegun.trans hkeeps) hrow (hnote.trans hfound hreads)
    · obtain ⟨hkeeps, hfound', readings, hreads, htold⟩ := hwalk
      rw [htold]
      exact concludes_failed (hbegun.trans hkeeps) hfound' (hnote.trans hfound hreads)

/-- **A pull goes on where the stream stands**: with the steps that are left of a file, with the
directories that are left, and with the roots that have not been begun. -/
theorem proceed_concludes (hdisk : p.disk = d) (hfound : p.found = none)
    (hended : p.stream.ended = false) :
    Concludes d (p.stream.left d) p p.proceed.1 p.proceed.2 := by
  have hdelivered := keeps_deliver p p.stream.pending
  have hpending := reads_pending hfound
  rw [Stream.left_of_not_ended hended]
  unfold proceed
  rcases hrow : (p.deliver p.stream.pending).found with _ | r <;> simp only [hrow]
  · have hfollows : Follows (visitor p.stream.markers p.stream.strict) d
        (trailOver d p.stream.markers p.stream.frames) (p.deliver p.stream.pending)
        (resume (visitor p.stream.markers p.stream.strict) p.stream.frames
          (p.deliver p.stream.pending)) :=
      resume_follows (mild_visitor _ _) p.stream.frames
        (show Alike d (p.deliver p.stream.pending).disk by
          rw [hdelivered.disk, hdisk]
          exact Alike.refl d)
    have hwalk := follows_reads hfollows (hdelivered.disk.trans hdisk) hrow (hpending.drained hrow)
    rw [told_andThen]
    rcases hresume : resume (visitor p.stream.markers p.stream.strict) p.stream.frames
      (p.deliver p.stream.pending) with p' | ⟨p', frames⟩ | ⟨failure, p'⟩ <;>
      rw [hresume] at hwalk <;>
      simp only [hdelivered.markers, hdelivered.strict, hdelivered.frames, hresume]
    · obtain ⟨hkeeps, hfound', readings, hreads, htold⟩ := hwalk
      have hwalked := hdelivered.trans hkeeps
      have hrest := begin_concludes (p := { p' with stream := { p'.stream with frames := [] } })
        p'.stream.roots (hwalked.disk.trans hdisk) hfound' (hreads.drained hfound')
        (hwalked.ended.trans hended)
      rw [htold]
      refine Concludes.trans hwalked hfound' (hpending.trans hrow hreads) ?_
      rw [← hwalked.markers, ← hwalked.strict, ← hwalked.roots]
      exact hrest.of_frames
    · obtain ⟨hkeeps, hrow', readings, hreads, htold⟩ := hwalk
      have hwalked := hdelivered.trans hkeeps
      rw [htold, Account.andThen_assoc, ← told_andThen, ← hwalked.roots]
      exact concludes_stopped hended hwalked hrow' (hpending.trans hrow hreads)
    · obtain ⟨hkeeps, hfound', readings, hreads, htold⟩ := hwalk
      rw [htold]
      exact concludes_failed (hdelivered.trans hkeeps) hfound' (hpending.trans hrow hreads)
  · have hleft := Stream.left_of_not_ended (s := (p.deliver p.stream.pending).stream)
      (hdelivered.ended.trans hended) d
    rw [hdelivered.markers, hdelivered.strict, hdelivered.frames, hdelivered.roots] at hleft
    refine ⟨hdelivered.markers, hdelivered.strict, hrow, [], hpending, hdelivered.ended, ?_⟩
    rw [← hleft]
    rfl

end Pulling

/-! ## Pulls -/

namespace Stream

/-- What a stream has reached: it has taken some steps, and those that are left of a file follow them;
together they tell about the sources that were read. -/
structure Reached (s : Stream) (taken : List Step) (readings : List Reading) : Prop where
  tells : Tells (taken ++ s.pending) readings
  statistics : s.statistics = taken.foldl Statistics.take {}
  quiet : ∀ step ∈ s.pending, quiet step = true
  drained : s.ended = true → s.pending = []

/-- A stream from which nothing has been pulled has read nothing. -/
lemma reached_fresh (markers : List String) (strict : Bool) (roots : List String) :
    (fresh markers strict roots).Reached [] [] where
  tells := Tells.nil
  statistics := rfl
  quiet _ h := nomatch h
  drained h := nomatch h

/-- **What a pull does.** It reads some sources and takes steps, up to the first row, which it gives.
When it gives no row, the stream has ended. The account of what was left to the stream is that of the
sources that were read, and then that of what is left. -/
theorem pull_spec {s s' : Stream} {d : Disk} {pulled : Pulled} {log : List Log.Entry}
    {before : List Step} {readings : List Reading} (hs : s.Reached before readings)
    (h : s.pull d = (pulled, s', log)) :
    ∃ taken others, s'.Reached (before ++ taken) (readings ++ others) ∧
      log = taken.filterMap Step.entry? ∧
      taken.filterMap Step.row? = pulled.row?.toList ∧
      s'.statistics = taken.foldl Statistics.take s.statistics ∧
      (pulled.row? = none → s'.pending = []) ∧
      s'.strict = s.strict ∧
      match pulled with
      | .row _ => s.left d = (⟨others, none⟩ : Account).andThen (s'.left d)
      | .done => s'.ended = true ∧ s.left d = ⟨others, none⟩
      | .failed failure => s'.ended = true ∧ s.left d = ⟨others, some failure⟩ := by
  unfold pull at h
  by_cases hended : s.ended = true
  · rw [if_pos hended] at h
    cases h
    refine ⟨[], [], ?_, rfl, rfl, rfl, fun _ => hs.drained hended, rfl, hended, ?_⟩
    · rw [List.append_nil, List.append_nil]
      exact hs
    · exact left_of_ended hended d
  · rw [if_neg hended] at h
    rw [Bool.not_eq_true] at hended
    have hproceed := Pulling.proceed_concludes (p := { disk := d, stream := s }) rfl rfl hended
    rcases hpulled : Pulling.proceed { disk := d, stream := s } with ⟨pulled', p'⟩
    rw [hpulled] at h hproceed
    cases h
    obtain ⟨hmarkers, hstrict, hrow, others, ⟨new, taken, hmoves, htells, hquiet⟩, hend⟩ := hproceed
    have hlog : p'.log.reverse = taken.filterMap Step.entry? := by
      rw [hmoves.log, List.reverse_append, List.reverse_reverse]
      rfl
    have hrows : taken.filterMap Step.row? = pulled.row?.toList := by
      rw [hmoves.found, hrow]
    have hover : pulled.row? = none → p'.stream.pending = [] := fun hnone =>
      hmoves.drained (hrow.trans hnone)
    have hreached : p'.stream.Reached (before ++ taken) (readings ++ others) := by
      refine ⟨?_, ?_, hquiet hs.quiet, ?_⟩
      · rw [List.append_assoc, hmoves.split, ← List.append_assoc]
        exact hs.tells.append htells
      · rw [hmoves.statistics, hs.statistics, List.foldl_append]
      · intro hstopped
        cases pulled with
        | row r =>
          rw [hend.1, hended] at hstopped
          cases hstopped
        | done => exact hover rfl
        | failed failure => exact hover rfl
    refine ⟨taken, others, hreached, hlog, hrows, hmoves.statistics, hover, hstrict, ?_⟩
    cases pulled with
    | row r => exact hend.2
    | done => exact hend
    | failed failure => exact hend

/-- What a pull reads is what was left to the stream. -/
lemma declared_of_mem_left {s : Stream} {d : Disk} {r : Reading} (h : r ∈ (s.left d).readings) :
    declarationsIn d s.strict r.path = .ok r.declarations := by
  unfold left at h
  split at h
  · cases h
  · exact Pulling.declared_of_mem_told h

end Stream

end RoleAudit.Scan
