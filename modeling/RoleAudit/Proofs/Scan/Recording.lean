import RoleAudit.Proofs.Report.Account
import RoleAudit.Proofs.Scan.Counting

/-!
# Whoever takes the steps of a scan keeps an account

The steps of a scan are taken by different takers: one writes a report as it goes, another collects
what it gets. What they have in common is said once. A taker **keeps** the sources that were read, in
whatever way, if this is so after each visit to a file; then it keeps the account of all files below
the roots when the scan ends, and the scan fails where the account does.

* `Taker.Records`: a taker that keeps what it reads, visit by visit.
* `Taker.Records.scan_spec`: what it keeps when a scan has ended.
* `Harvest.records`: collecting the steps keeps their rows and their counts.
* `scan_spec`: the rows, the counts and the failure of a scan are those of its account.
-/

namespace RoleAudit.Scan

open RoleAudit.Files RoleAudit.Report RoleAudit.Walk

/-- The account of the candidate files below roots, when some rows were found before. -/
def accountBelow (read : List Row → String → Except Failure (List Declaration)) (d : Disk)
    (markers : List String) (done : List Row) (roots : List String) : Account :=
  let itinerary := Walk.itinerary d markers roots
  Account.ofFiles read itinerary.failure done itinerary.files

/-- The account of a first root and those behind it. -/
lemma accountBelow_cons (read : List Row → String → Except Failure (List Declaration)) (d : Disk)
    (markers : List String) (done : List Row) (root : String) (roots : List String) :
    accountBelow read d markers done (root :: roots) =
      let first := Account.ofFiles read (trail d markers root).failure done
        (trail d markers root).files
      first.andThen (accountBelow read d markers (done ++ first.rows) roots) := by
  unfold accountBelow
  rw [itinerary_cons, Account.ofFiles_andThen]

namespace Taker

variable {σ : Type} {t : Taker σ} {markers : List String} {strict : Bool} {d : Disk}
  {read : List Row → String → Except Failure (List Declaration)}
  {Keeps : σ → List Reading → Prop}

/-- A taker keeps what was read on a disk, visit by visit, where `read` says what a file declares
when some rows were found before it. -/
structure Records (t : Taker σ) (markers : List String) (strict : Bool) (d : Disk)
    (read : List Row → String → Except Failure (List Declaration))
    (Keeps : σ → List Reading → Prop) : Prop where
  steady : (t.visitor markers strict).Steady
  alike : ∀ {s readings}, Keeps s readings → Alike d (t.disk s)
  root : ∀ {s readings}, Keeps s readings → ∀ root,
    Keeps (t.take s (rootStep (t.disk s) root)) readings
  visit : ∀ {s readings}, Keeps s readings → ∀ path,
    match read (readings.flatMap Reading.rows) path with
    | .error failure =>
      ∃ s', (t.visitor markers strict).visit path s = .fail failure s' ∧ Keeps s' readings
    | .ok declarations =>
      ∃ s', (t.visitor markers strict).visit path s = .goOn s' ∧
        Keeps s' (readings ++ [⟨path, declarations⟩])

namespace Records

/-- **Visiting files gives their account.** -/
theorem visitAll_spec (h : t.Records markers strict d read Keeps) (failure : Option Failure)
    (paths : List String) {s : σ} {readings : List Reading} (hs : Keeps s readings) :
    let account := Account.ofFiles read failure (readings.flatMap Reading.rows) paths
    ∃ s', Keeps s' (readings ++ account.readings) ∧
      visitAll (t.visitor markers strict) failure paths s =
        match account.failure with
        | none => .finished s'
        | some failure => .failed failure s' := by
  induction paths generalizing s readings with
  | nil =>
    refine ⟨s, ?_, ?_⟩
    · unfold Account.ofFiles
      rw [List.append_nil]
      exact hs
    · cases failure <;> rfl
  | cons path paths ih =>
    have hvisit := h.visit hs path
    unfold Account.ofFiles visitAll
    rcases hread : read (readings.flatMap Reading.rows) path with f | declarations
      <;> rw [hread] at hvisit
    · obtain ⟨s', hfail, hkeeps⟩ := hvisit
      refine ⟨s', ?_, ?_⟩
      · rw [List.append_nil]
        exact hkeeps
      · rw [hfail]
    · obtain ⟨s', hgoOn, hkeeps⟩ := hvisit
      obtain ⟨s'', hkeeps', hall⟩ := ih hkeeps
      rw [rows_concat] at hkeeps' hall
      refine ⟨s'', ?_, ?_⟩
      · rw [List.append_assoc] at hkeeps'
        exact hkeeps'
      · rw [hgoOn]
        exact hall

/-- **Scanning roots gives the account of the files below them.** -/
theorem scan_spec (h : t.Records markers strict d read Keeps) (roots : List String) {s : σ}
    {readings : List Reading} (hs : Keeps s readings) :
    let account := accountBelow read d markers (readings.flatMap Reading.rows) roots
    ∃ s', Keeps s' (readings ++ account.readings) ∧
      t.scan markers strict roots s = (account.failure, s') := by
  induction roots generalizing s readings with
  | nil =>
    refine ⟨s, ?_, rfl⟩
    unfold accountBelow Walk.itinerary Account.ofFiles
    rw [List.append_nil]
    exact hs
  | cons root roots ih =>
    -- the note about the root changes nothing that is kept
    have hnote := h.root hs root
    obtain ⟨s₁, hkeeps₁, hall⟩ := h.visitAll_spec (trail d markers root).failure
      (trail d markers root).files hnote
    have hstart := (start_eq_run h.steady root (h.alike hnote)).trans hall
    rw [accountBelow_cons]
    rcases hfirst : Account.ofFiles read (trail d markers root).failure
      (readings.flatMap Reading.rows) (trail d markers root).files with ⟨first, _ | f⟩ <;>
      rw [hfirst] at hkeeps₁ hstart
    · obtain ⟨s₂, hkeeps₂, hrest⟩ := ih hkeeps₁
      rw [List.flatMap_append, List.append_assoc] at hkeeps₂
      rw [List.flatMap_append] at hrest
      exact ⟨s₂, hkeeps₂, (scan_cons_of_finished hstart roots).trans hrest⟩
    · exact ⟨s₁, hkeeps₁, scan_cons_of_failed hstart roots⟩

end Records

end Taker

/-! ## Scans of an unchanging disk -/

/-- What a source declares, or why it is not loaded. -/
def declarationsIn (d : Disk) (strict : Bool) (path : String) : Except Failure (List Declaration) :=
  match (loadDeclarations d strict path).2 with
  | .ok declarations => .ok declarations
  | .error (.failure failure) => .error failure
  | .error .nul => .error (.sourceNotFound path)

/-- The account of a scan of an unchanging disk. -/
def account (d : Disk) (markers : List String) (strict : Bool) (roots : List String) : Account :=
  accountBelow (fun _ => declarationsIn d strict) d markers [] roots

namespace Harvest

/-- What was collected are the rows of the sources that were read, and their counts. -/
structure Keeps (h : Harvest) (d : Disk) (readings : List Reading) : Prop where
  disk : h.disk = d
  rows : h.rows = readings.flatMap Reading.rows
  statistics : h.statistics =
    ({} : Statistics).add readings.length (readings.flatMap Reading.declarations).length
      (readings.flatMap Reading.rows)

variable {d : Disk} {h : Harvest} {readings : List Reading}

lemma foldl_take (h : Harvest) (steps : List Step) :
    steps.foldl taker.take h = { h with taken := steps.reverse ++ h.taken } := by
  induction steps generalizing h with
  | nil => rfl
  | cons step steps ih =>
    rw [List.foldl_cons, ih, List.reverse_cons, List.append_assoc]
    rfl

/-- What is collected comes behind what was collected before. -/
lemma steps_foldl_take (h : Harvest) (steps : List Step) :
    (steps.foldl taker.take h).steps = h.steps ++ steps := by
  rw [foldl_take]
  unfold Harvest.steps
  simp

/-- Notes change nothing that is kept. -/
lemma Keeps.notes (hk : h.Keeps d readings) (log : List Log.Entry) :
    ((log.map Step.note).foldl taker.take h).Keeps d readings where
  disk := by
    rw [foldl_take]
    exact hk.disk
  rows := by
    have hrows := hk.rows
    unfold Harvest.rows at hrows ⊢
    rw [steps_foldl_take, List.filterMap_append, rows_notes, List.append_nil, hrows]
  statistics := by
    have hstatistics := hk.statistics
    unfold Harvest.statistics at hstatistics ⊢
    rw [steps_foldl_take, List.foldl_append, Statistics.foldl_take_notes, hstatistics]

/-- The steps of a source are its rows, and count it. -/
lemma Keeps.declarations (hk : h.Keeps d readings) (path : String)
    (declarations : List Declaration) :
    ((declarationSteps path declarations).foldl taker.take h).Keeps d
      (readings ++ [⟨path, declarations⟩]) where
  disk := by
    rw [foldl_take]
    exact hk.disk
  rows := by
    have hrows := hk.rows
    unfold Harvest.rows at hrows ⊢
    rw [steps_foldl_take, List.filterMap_append, rows_declarationSteps, hrows, rows_concat]
    rfl
  statistics := by
    have hstatistics := hk.statistics
    unfold Harvest.statistics at hstatistics ⊢
    rw [steps_foldl_take, List.foldl_append, foldl_take_declarationSteps, hstatistics,
      Statistics.add_add, rows_concat, List.flatMap_append, List.flatMap_singleton,
      List.length_append, List.length_append]
    rfl

lemma visit_eq (markers : List String) (strict : Bool) (path : String) (h : Harvest) :
    (taker.visitor markers strict).visit path h =
      match fileSteps h.disk strict path with
      | .ok steps => .goOn (steps.foldl taker.take h)
      | .error (steps, failure) => .fail failure (steps.foldl taker.take h) := rfl

lemma steady_visitor (markers : List String) (strict : Bool) :
    (taker.visitor markers strict).Steady where
  ne_stop path h h' hvisit := by
    rw [visit_eq] at hvisit
    split at hvisit <;> cases hvisit
  alike path h h' hvisit := by
    rw [visit_eq] at hvisit
    split at hvisit
    · cases hvisit
      rw [foldl_take]
      exact Alike.refl _
    · cases hvisit

/-- **Collecting the steps of a scan keeps an account.** -/
theorem records (d : Disk) (markers : List String) (strict : Bool) :
    taker.Records markers strict d (fun _ => declarationsIn d strict)
      fun h readings => h.Keeps d readings where
  steady := steady_visitor markers strict
  alike := by
    intro h readings hk
    exact hk.disk ▸ Alike.refl _
  root := by
    intro h readings hk root
    exact hk.notes [walkEntry ("Scanning source root " ++ h.disk.absolute root)]
  visit := by
    intro h readings hk path
    unfold declarationsIn
    rw [visit_eq, hk.disk]
    unfold fileSteps
    rcases loadDeclarations d strict path with ⟨log, obstacle | declarations⟩
    · cases obstacle with
      | failure failure => exact ⟨_, rfl, hk.notes log⟩
      | nul => exact ⟨_, rfl, hk.notes log⟩
    · refine ⟨_, rfl, ?_⟩
      rw [List.foldl_append]
      exact (hk.notes log).declarations path declarations

end Harvest

/-- **What a scan of an unchanging disk brings** is told by its account. -/
theorem scan_spec (d : Disk) (markers : List String) (strict : Bool) (roots : List String) :
    (scan d markers strict roots).1 = (account d markers strict roots).failure ∧
      (scan d markers strict roots).2.Keeps d (account d markers strict roots).readings := by
  have hbegin : ({ disk := d } : Harvest).Keeps d [] := ⟨rfl, rfl, rfl⟩
  obtain ⟨h, hkeeps, hscan⟩ := (Harvest.records d markers strict).scan_spec roots hbegin
  have hresult : scan d markers strict roots = _ := hscan
  rw [hresult]
  exact ⟨rfl, hkeeps⟩

end RoleAudit.Scan
