import Mathlib.Logic.Function.Basic
import RoleAudit.Proofs.Scan.Pulling
import RoleAudit.Proofs.Walk.Searching

/-!
# Pulling again and again

What a stream has counted is right after each pull, whatever happens to the disk between the pulls,
and also when the stream ends early. On a disk that does not change, the pulls give the rows of a scan
that takes everything at once, then its end or its failure; and streams do not get in each other's
way, however their pulls alternate.

* `Stream.reached_pulls`: what a stream has reached after several pulls.
* `Stream.statistics_pulls`: its counts are those of the rows it gave and of the files it has read.
* `Stream.pulls_replicate`: on a disk that does not change, pulling gives what is left.
* `pullAll_eq_scan`: pulls from several streams in turn give what scans at once would give.
-/

namespace RoleAudit.Scan

open RoleAudit.Files RoleAudit.Report RoleAudit.Walk

namespace Stream

variable {s : Stream} {before : List Step} {readings : List Reading}

/-! ## Counts -/

/-- The counts of a stream are those of the steps that it has taken. -/
lemma Reached.counts (hs : s.Reached before readings) :
    s.statistics = ({} : Statistics).add (before.count .file) (before.count .type)
      (before.filterMap Step.row?) := by
  rw [hs.statistics, Statistics.foldl_take]

/-- The files that were counted are those that were read. -/
lemma Reached.files (hs : s.Reached before readings) : s.statistics.files = readings.length := by
  have hpending : s.pending.count .file = 0 := by
    rw [List.count_eq_zero]
    intro hfile
    exact Bool.false_ne_true (hs.quiet _ hfile)
  rw [← hs.tells.files, List.count_append, hpending, hs.counts]
  exact Nat.zero_add _

/-- The types that were counted, and those that are still to come, are those of the files. -/
lemma Reached.types (hs : s.Reached before readings) :
    s.statistics.types + s.pending.count .type =
      (readings.flatMap Reading.declarations).length := by
  rw [← hs.tells.types, List.count_append, hs.counts]
  exact congrArg (· + _) (Nat.zero_add _)

/-- What was logged about files says which have been parsed. -/
lemma Reached.parsed (hs : s.Reached before readings) :
    (before.filterMap Step.entry?).filter isParsed = readings.map fun r => parsedEntry r.path := by
  have hparsed := hs.tells.parsed
  rw [parsedIn_append, parsedIn_of_quiet hs.quiet, List.append_nil] at hparsed
  exact hparsed

/-! ## Any number of pulls -/

lemma pulls_cons (s : Stream) (d : Disk) (disks : List Disk) :
    s.pulls (d :: disks) =
      ((s.pull d).1 :: ((s.pull d).2.1.pulls disks).1, ((s.pull d).2.1.pulls disks).2.1,
        (s.pull d).2.2 ++ ((s.pull d).2.1.pulls disks).2.2) := rfl

/-- **What a stream has reached after several pulls**, each on a disk of its own. The rows that it gave
are those of the steps it has taken, and the sources that it has read were on these disks. -/
theorem reached_pulls (hs : s.Reached before readings) (disks : List Disk) :
    ∃ taken others, (s.pulls disks).2.1.Reached (before ++ taken) (readings ++ others) ∧
      (s.pulls disks).2.2 = taken.filterMap Step.entry? ∧
      (s.pulls disks).1.filterMap Pulled.row? = taken.filterMap Step.row? ∧
      ∀ r ∈ others, ∃ d ∈ disks, declarationsIn d s.strict r.path = .ok r.declarations := by
  induction disks generalizing s before readings with
  | nil =>
    refine ⟨[], [], ?_, rfl, rfl, ?_⟩
    · rw [List.append_nil, List.append_nil]
      exact hs
    · intro r hr
      cases hr
  | cons d disks ih =>
    rw [pulls_cons]
    rcases hpull : s.pull d with ⟨pulled, s', log⟩
    obtain ⟨now, first, hs', hlog, hrow, -, hover, hstrict, hleft⟩ := pull_spec hs hpull
    obtain ⟨later, others, hreached, hlogs, hrows, hdeclared⟩ := ih hs'
    have hread : ∀ r ∈ first, r ∈ (s.left d).readings := by
      intro r hr
      cases pulled with
      | row row =>
        rw [hleft]
        exact List.mem_append_left _ hr
      | done =>
        rw [hleft.2]
        exact hr
      | failed failure =>
        rw [hleft.2]
        exact hr
    refine ⟨now ++ later, first ++ others, ?_, ?_, ?_, ?_⟩
    · rw [← List.append_assoc, ← List.append_assoc]
      exact hreached
    · rw [List.filterMap_append, ← hlog, ← hlogs]
    · rw [List.filterMap_append, hrow, ← hrows]
      cases pulled <;> rfl
    · intro r hr
      rcases List.mem_append.1 hr with hr | hr
      · exact ⟨d, List.mem_cons_self, declared_of_mem_left (hread r hr)⟩
      · obtain ⟨e, he, hdeclares⟩ := hdeclared r hr
        rw [hstrict] at hdeclares
        exact ⟨e, List.mem_cons_of_mem d he, hdeclares⟩

/-- **What a stream has counted**, after any number of pulls, whatever happens to the disk between
them. The rows are those that it gave, and those of them that stand for whole classes. The files are
those that were parsed, each on one of these disks; a type of theirs is counted unless it is still to
come, so all are counted if no file was left in its middle. That is so when a pull gives no row. No
count ever becomes smaller. -/
theorem statistics_pulls (markers : List String) (strict : Bool) (roots : List String)
    (disks : List Disk) :
    let run := (fresh markers strict roots).pulls disks
    let rows := run.1.filterMap Pulled.row?
    let s := run.2.1
    let log := run.2.2
    s.statistics.rows = rows.length ∧
      s.statistics.rows = s.statistics.classRows + s.statistics.methodRows ∧
      s.statistics.classRows = rows.countP (fun r => r.memberName = "*") ∧
      (∃ readings : List Reading,
        log.filter isParsed = readings.map (fun r => parsedEntry r.path) ∧
        (∀ r ∈ readings, ∃ d ∈ disks, declarationsIn d strict r.path = .ok r.declarations) ∧
        rows ++ s.pending.filterMap Step.row? = readings.flatMap Reading.rows ∧
        s.statistics.files = readings.length ∧
        s.statistics.types ≤ (readings.flatMap Reading.declarations).length ∧
        s.statistics.types + s.pending.count .type =
          (readings.flatMap Reading.declarations).length ∧
        (s.pending = [] → s.statistics.types = (readings.flatMap Reading.declarations).length)) ∧
      ∀ d, s.statistics ≤ (s.pull d).2.1.statistics ∧
        ((s.pull d).1.row? = none → (s.pull d).2.1.pending = []) := by
  obtain ⟨taken, readings, hreached, hlog, hrows, hdeclared⟩ :=
    reached_pulls (reached_fresh markers strict roots) disks
  intro run rows s log
  have hs : s.Reached taken readings := hreached
  have hcounts := hs.counts
  rw [← hrows] at hcounts
  have htypes := hs.types
  refine ⟨?_, rfl, ?_, ⟨readings, ?_, hdeclared, ?_, hs.files, ?_, htypes, ?_⟩, ?_⟩
  · rw [hcounts, Statistics.rows_add]
    exact Nat.zero_add _
  · rw [hcounts]
    exact Nat.zero_add _
  · rw [show log = _ from hlog]
    exact hs.parsed
  · rw [show rows = _ from hrows, ← List.filterMap_append]
    exact hs.tells.rows
  · omega
  · intro hpending
    rw [hpending] at htypes
    exact htypes
  · intro d
    have hpull : s.pull d = ((s.pull d).1, (s.pull d).2.1, (s.pull d).2.2) := rfl
    obtain ⟨now, others, -, -, -, hnow, hover, -⟩ := pull_spec hs hpull
    rw [hnow]
    exact ⟨Statistics.le_foldl_take _ now, hover⟩

/-! ## A disk that does not change -/

/-- What a pull gives when no row is left: the end, or the failure of the scan. -/
def ending : Option Failure → Pulled
  | none => .done
  | some failure => .failed failure

/-- The rows that are left to a stream, as long as the disk does not change. -/
def rowsLeft (s : Stream) (d : Disk) : List Row :=
  s.pending.filterMap Step.row? ++ (s.left d).rows

/-- **A pull gives the first row that is left**, and leaves the others; if there is none it gives the
end, or the failure, and the stream has ended. -/
theorem pull_rowsLeft (hs : s.Reached before readings) (d : Disk) :
    (∃ taken others, (s.pull d).2.1.Reached taken others) ∧
      match (s.pull d).1 with
      | .row r =>
        s.rowsLeft d = r :: (s.pull d).2.1.rowsLeft d ∧
          (s.left d).failure = ((s.pull d).2.1.left d).failure
      | .done =>
        s.rowsLeft d = [] ∧ (s.left d).failure = none ∧ (s.pull d).2.1.ended = true
      | .failed failure =>
        s.rowsLeft d = [] ∧ (s.left d).failure = some failure ∧ (s.pull d).2.1.ended = true := by
  rcases hpull : s.pull d with ⟨pulled, s', log⟩
  obtain ⟨now, others, hs', -, hrow, -, hover, -, hleft⟩ := pull_spec hs hpull
  refine ⟨⟨_, _, hs'⟩, ?_⟩
  have hrows : pulled.row?.toList ++ s'.pending.filterMap Step.row? =
      s.pending.filterMap Step.row? ++ others.flatMap Reading.rows := by
    have hbefore := hs.tells.rows
    have hafter := hs'.tells.rows
    rw [List.flatMap_append, ← hbefore, List.filterMap_append, List.filterMap_append,
      List.filterMap_append, hrow, List.append_assoc, List.append_assoc] at hafter
    exact List.append_cancel_left hafter
  unfold rowsLeft
  cases pulled with
  | row r =>
    rw [hleft]
    refine ⟨?_, rfl⟩
    calc s.pending.filterMap Step.row? ++ (others ++ (s'.left d).readings).flatMap Reading.rows
        = s.pending.filterMap Step.row? ++ others.flatMap Reading.rows ++ (s'.left d).rows := by
          rw [List.flatMap_append, List.append_assoc]
          rfl
      _ = r :: (s'.pending.filterMap Step.row? ++ (s'.left d).rows) := by
          rw [← hrows]
          rfl
  | done =>
    rw [hover rfl] at hrows
    rw [hleft.2]
    exact ⟨hrows.symm, rfl, hleft.1⟩
  | failed failure =>
    rw [hover rfl] at hrows
    rw [hleft.2]
    exact ⟨hrows.symm, rfl, hleft.1⟩

/-- A stream that has ended gives its end again and again. -/
lemma pulls_of_ended (hended : s.ended = true) (disks : List Disk) :
    (s.pulls disks).1 = List.replicate disks.length .done := by
  induction disks with
  | nil => rfl
  | cons d disks ih =>
    have hpull : s.pull d = (.done, s, []) := by
      unfold pull
      rw [if_pos hended]
    rw [pulls_cons, hpull, List.length_cons, List.replicate_succ]
    exact congrArg _ ih

/-- Pulls from a stream that gives no row are its end, or its failure, and then its end. -/
lemma pulls_of_rowsLeft_nil {pulled : Pulled} {s' : Stream} (hended : s'.ended = true) (d : Disk)
    (n : Nat) :
    pulled :: (s'.pulls (List.replicate n d)).1 =
      (([] : List Row).map Pulled.row ++ [pulled] ++
        List.replicate (n + 1) Pulled.done).take (n + 1) := by
  rw [pulls_of_ended hended, List.length_replicate, List.map_nil, List.nil_append,
    List.singleton_append, List.take_succ_cons, List.take_replicate, Nat.min_eq_left (Nat.le_succ n)]

/-- **Pulls on a disk that does not change give the rows that are left**, then the end or the
failure, and then the end again and again. -/
theorem pulls_replicate (hs : s.Reached before readings) (d : Disk) (n : Nat) :
    (s.pulls (List.replicate n d)).1 =
      ((s.rowsLeft d).map Pulled.row ++ [ending (s.left d).failure] ++
        List.replicate n Pulled.done).take n := by
  induction n generalizing s before readings with
  | zero => rfl
  | succ n ih =>
    obtain ⟨⟨taken, others, hs'⟩, hpull⟩ := pull_rowsLeft hs d
    have hlater := ih hs'
    rw [List.replicate_succ, pulls_cons]
    rcases hpulled : (s.pull d).1 with r | _ | failure <;> rw [hpulled] at hpull
    · obtain ⟨hrows, hfailure⟩ := hpull
      rw [hlater, hrows, hfailure, List.map_cons, List.cons_append, List.cons_append,
        List.take_succ_cons, Search.take_append_replicate _ Pulled.done (Nat.le_succ n)]
    · obtain ⟨hrows, hfailure, hended⟩ := hpull
      rw [hrows, hfailure]
      exact pulls_of_rowsLeft_nil hended d n
    · obtain ⟨hrows, hfailure, hended⟩ := hpull
      rw [hrows, hfailure]
      exact pulls_of_rowsLeft_nil hended d n

/-- To a stream from which nothing has been pulled everything is left. -/
lemma left_fresh (d : Disk) (markers : List String) (strict : Bool) (roots : List String) :
    (fresh markers strict roots).left d = account d markers strict roots := by
  have hroute : (trailOver d markers []).andThen (itinerary d markers roots) =
      itinerary d markers roots := Trail.nil_andThen _
  rw [left_of_not_ended rfl]
  exact congrArg (Pulling.told d strict) hroute

/-- **Pulling gives the rows of a scan**, one by one, and then its end or its failure. -/
theorem pulls_fresh (d : Disk) (markers : List String) (strict : Bool) (roots : List String)
    (n : Nat) :
    ((fresh markers strict roots).pulls (List.replicate n d)).1 =
      ((scan d markers strict roots).2.rows.map Pulled.row ++
        [ending (scan d markers strict roots).1] ++ List.replicate n Pulled.done).take n := by
  obtain ⟨hfailure, hkeeps⟩ := scan_spec d markers strict roots
  have hrows : (fresh markers strict roots).rowsLeft d = (scan d markers strict roots).2.rows := by
    unfold rowsLeft
    rw [left_fresh, hkeeps.rows]
    rfl
  rw [pulls_replicate (reached_fresh markers strict roots), hrows, left_fresh, hfailure]

end Stream

/-! ## Several streams in turn -/

section Turns

variable {ι : Type} [DecidableEq ι]

/-- Pulls from several streams in turn, on a disk that does not change. Says of each pull from which
stream it was, and what it gave. -/
def pullAll (d : Disk) (streams : ι → Stream) : List ι → List (ι × Pulled)
  | [] => []
  | i :: turns =>
    (i, ((streams i).pull d).1) ::
      pullAll d (Function.update streams i ((streams i).pull d).2.1) turns

/-- What the pulls from one stream gave. -/
def givenBy (i : ι) (results : List (ι × Pulled)) : List Pulled :=
  (results.filter fun result => result.1 = i).map Prod.snd

lemma givenBy_cons (i j : ι) (pulled : Pulled) (results : List (ι × Pulled)) :
    givenBy i ((j, pulled) :: results) =
      if j = i then pulled :: givenBy i results else givenBy i results := by
  unfold givenBy
  by_cases hturn : j = i
  · simp [hturn]
  · simp [hturn]

/-- **A stream does not notice the pulls from others.** -/
theorem givenBy_pullAll (d : Disk) (streams : ι → Stream) (turns : List ι) (i : ι) :
    givenBy i (pullAll d streams turns) =
      ((streams i).pulls (List.replicate (turns.count i) d)).1 := by
  induction turns generalizing streams with
  | nil => rfl
  | cons j turns ih =>
    unfold pullAll
    rw [givenBy_cons, ih]
    by_cases hturn : j = i
    · subst hturn
      rw [if_pos rfl, Function.update_self, List.count_cons_self, List.replicate_succ,
        Stream.pulls_cons]
    · rw [if_neg hturn, Function.update_of_ne (Ne.symm hturn), List.count_cons_of_ne hturn]

/-- **Pulling in turns gives what scans at once would give.** On a disk that does not change, any
number of streams are pulled in any order. The pulls from each give the rows of the scan with its own
markers, strictness and roots, in order; the next gives the end or the failure of that scan, and each
one after that gives the end. -/
theorem pullAll_eq_scan (d : Disk) (markers : ι → List String) (strict : ι → Bool)
    (roots : ι → List String) (turns : List ι) (i : ι) :
    let scanned := scan d (markers i) (strict i) (roots i)
    givenBy i (pullAll d (fun j => Stream.fresh (markers j) (strict j) (roots j)) turns) =
      (scanned.2.rows.map Pulled.row ++ [Stream.ending scanned.1] ++
        List.replicate (turns.count i) Pulled.done).take (turns.count i) := by
  intro scanned
  rw [givenBy_pullAll]
  exact Stream.pulls_fresh d (markers i) (strict i) (roots i) (turns.count i)

end Turns

end RoleAudit.Scan
