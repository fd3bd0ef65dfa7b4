import RoleAudit.Proofs.Files.Directories
import RoleAudit.Proofs.Report.Writing
import RoleAudit.Proofs.Scan.Recording
import RoleAudit.Report.Generate

/-!
# What a report says after it was made

Making a report interleaves a walk, the reading of sources, counting and writing. This file says what
comes out, without the interleaving: an **account** lists the sources that were read, with what they
declare, up to the first failure. The sources are the candidate files below the roots, and each is
read as it is when the rows of those before it have been written; this matters only if the report is
itself a source.

* `Order.account`: the account of a report.
* `Draft.Keeps`: the invariant. A draft has written the rows of what was read, and counted it.
* `Order.exists_draft`: making a report goes through a draft, which then is closed.
* `Order.make_spec`: the report is closed, holds the header and exactly the rows of the account, and
  the counts are those of the account; it fails just where the account ends in a failure.
-/

namespace RoleAudit.Report

open RoleAudit.Files RoleAudit.Text RoleAudit.Walk

namespace Order

/-- What a source declares when some rows have been written into the report. -/
def declarationsAt (order : Order) (d : Disk) (rows : List Row) (path : String) :
    Except Failure (List Declaration) :=
  let opened := order.opened d
  match (Scan.loadDeclarations (opened.sink.writeRows rows opened.disk).2.1 order.strict path).2 with
  | .ok declarations => .ok declarations
  | .error (.failure failure) => .error failure
  | .error .nul => .error (.sourceNotFound path)

/-- **A source that is not the report itself** declares the same whatever has been written. -/
theorem declarationsAt_of_other (order : Order) (d : Disk) {n : Nat} {text : List UInt8}
    (hopen : (order.opened d).sink.Holds (order.opened d).disk n text) {path : String}
    (hpath : (order.opened d).disk.locate path ≠ .ok (.node n)) (rows : List Row) :
    order.declarationsAt d rows path = order.declarationsAt d [] path := by
  obtain ⟨s', d', hwritten, -, hfile⟩ := hopen.writeRows rows
  have hnone : (order.opened d).sink.writeRows [] (order.opened d).disk =
      ((order.opened d).sink, (order.opened d).disk, none) := rfl
  have hload : Scan.loadDeclarations (order.opened d).disk order.strict path =
      Scan.loadDeclarations d' order.strict path := by
    unfold Scan.loadDeclarations Scan.load
    rw [hfile.read_eq hpath]
  unfold declarationsAt
  simp only [hwritten, hnone, hload]

/-- The account of the candidate files below roots, when some rows have been written. -/
def accountBelow (order : Order) (d : Disk) (done : List Row) (roots : List String) : Account :=
  let itinerary := Walk.itinerary (order.opened d).disk order.markers roots
  Account.ofFiles (order.declarationsAt d) itinerary.failure done itinerary.files

/-- The account of a report. -/
def account (order : Order) (d : Disk) : Account := order.accountBelow d [] order.sourceRoots

end Order

/-! ## The steps of a draft -/

namespace Draft

/-- A draft that has written the rows of sources into an opened report, and has counted them. -/
structure Keeps (draft : Draft) (opened : Sink.Result) (readings : List Reading) : Prop where
  written : opened.sink.writeRows (readings.flatMap Reading.rows) opened.disk =
    (draft.sink, draft.disk, none)
  statistics : draft.statistics =
    ({} : Statistics).add readings.length (readings.flatMap Reading.declarations).length
      (readings.flatMap Reading.rows)
  error : draft.error = none

/-- A draft that has just been opened has read nothing. -/
lemma keeps_opened (opened : Sink.Result) :
    ({ disk := opened.disk, sink := opened.sink } : Draft).Keeps opened [] :=
  ⟨rfl, rfl, rfl⟩

/-- A step that is no row is counted and changes nothing else that matters. -/
lemma take_of_row?_eq_none (draft : Draft) {step : Step} (h : step.row? = none) :
    (draft.take step).sink = draft.sink ∧ (draft.take step).disk = draft.disk ∧
      (draft.take step).statistics = draft.statistics.take step ∧
      (draft.take step).error = draft.error := by
  cases step with
  | row r => cases h
  | note e => exact ⟨rfl, rfl, rfl, rfl⟩
  | file => exact ⟨rfl, rfl, rfl, rfl⟩
  | type => exact ⟨rfl, rfl, rfl, rfl⟩

/-- A row is counted and written. -/
lemma take_row (draft : Draft) {r : Row} {s' : Sink} {d' : Disk}
    (h : draft.sink.writeRow r draft.disk = .ok (s', d')) :
    (draft.take (.row r)).sink = s' ∧ (draft.take (.row r)).disk = d' ∧
      (draft.take (.row r)).statistics = draft.statistics.take (.row r) ∧
      (draft.take (.row r)).error = draft.error := by
  unfold Draft.take writeStep
  simp only [h]
  trivial

/-- **Taking steps writes their rows and counts them.** -/
theorem foldl_take {draft : Draft} {steps : List Step} {s' : Sink} {d' : Disk}
    (h : draft.sink.writeRows (steps.filterMap Step.row?) draft.disk = (s', d', none)) :
    (steps.foldl Draft.take draft).sink = s' ∧ (steps.foldl Draft.take draft).disk = d' ∧
      (steps.foldl Draft.take draft).statistics =
        steps.foldl Statistics.take draft.statistics ∧
      (steps.foldl Draft.take draft).error = draft.error := by
  induction steps generalizing draft with
  | nil =>
    cases h
    exact ⟨rfl, rfl, rfl, rfl⟩
  | cons step steps ih =>
    rw [List.foldl_cons, List.foldl_cons]
    rcases hrow : step.row? with _ | r
    · obtain ⟨hsink, hdisk, hstatistics, herror⟩ := draft.take_of_row?_eq_none hrow
      rw [List.filterMap_cons_none hrow, ← hsink, ← hdisk] at h
      rw [← hstatistics, ← herror]
      exact ih h
    · rw [List.filterMap_cons_some hrow] at h
      obtain ⟨s₁, d₁, hwrite, hrest⟩ := Sink.writeRows_cons_eq_none h
      cases step with
      | row r' =>
        cases hrow
        obtain ⟨hsink, hdisk, hstatistics, herror⟩ := draft.take_row hwrite
        rw [← hsink, ← hdisk] at hrest
        rw [← hstatistics, ← herror]
        exact ih hrest
      | note e => cases hrow
      | file => cases hrow
      | type => cases hrow

section Keeps

variable {draft : Draft} {opened : Sink.Result} {readings : List Reading}

/-- Notes change nothing that a draft keeps. -/
lemma Keeps.notes (h : draft.Keeps opened readings) (log : List Log.Entry) :
    ((log.map Step.note).foldl Draft.take draft).Keeps opened readings := by
  have hwrite : draft.sink.writeRows ((log.map Step.note).filterMap Step.row?) draft.disk =
      (draft.sink, draft.disk, none) := by
    rw [Scan.rows_notes]
    rfl
  obtain ⟨hsink, hdisk, hstatistics, herror⟩ := foldl_take hwrite
  refine ⟨?_, ?_, ?_⟩
  · rw [hsink, hdisk, h.written]
  · rw [hstatistics, Statistics.foldl_take_notes, h.statistics]
  · rw [herror, h.error]

/-- The sink of a draft is open on the file of the report. -/
lemma Keeps.holds (h : draft.Keeps opened readings) {n : Nat} {text : List UInt8}
    (hopen : opened.sink.Holds opened.disk n text) :
    draft.sink.Holds draft.disk n
        (text ++ (readings.flatMap Reading.rows).flatMap fun r => Utf8.encode r.line) ∧
      WrittenAt n opened.disk draft.disk := by
  obtain ⟨s', d', hwritten, hholds, hfile⟩ := hopen.writeRows (readings.flatMap Reading.rows)
  rw [h.written] at hwritten
  cases hwritten
  exact ⟨hholds, hfile⟩

/-- The steps of a source write and count the source. -/
lemma Keeps.declarations (h : draft.Keeps opened readings) {n : Nat} {text : List UInt8}
    (hopen : opened.sink.Holds opened.disk n text) (path : String)
    (declarations : List Declaration) :
    ((Scan.declarationSteps path declarations).foldl Draft.take draft).Keeps opened
      (readings ++ [⟨path, declarations⟩]) := by
  obtain ⟨s', d', hwrite, -, -⟩ :=
    (h.holds hopen).1.writeRows (declarations.flatMap Declaration.rows)
  rw [← Scan.rows_declarationSteps path] at hwrite
  obtain ⟨hsink, hdisk, hstatistics, herror⟩ := foldl_take hwrite
  have hrows : (readings ++ [(⟨path, declarations⟩ : Reading)]).flatMap Reading.rows =
      readings.flatMap Reading.rows ++ declarations.flatMap Declaration.rows :=
    rows_concat readings ⟨path, declarations⟩
  refine ⟨?_, ?_, ?_⟩
  · rw [hrows, Sink.writeRows_append h.written, ← Scan.rows_declarationSteps path, hwrite, hsink,
      hdisk]
  · rw [hstatistics, Scan.foldl_take_declarationSteps, h.statistics, Statistics.add_add, hrows,
      List.flatMap_append, List.flatMap_singleton, List.length_append, List.length_append]
    rfl
  · rw [herror, h.error]

end Keeps

end Draft

/-! ## The walk of a draft -/

namespace Order

/-- How a draft visits files. -/
def visitor (order : Order) : Visitor Draft := Draft.taker.visitor order.markers order.strict

lemma visit_eq (order : Order) (path : String) (draft : Draft) :
    order.visitor.visit path draft =
      match Scan.fileSteps draft.disk order.strict path with
      | .ok steps => .goOn (steps.foldl Draft.take draft)
      | .error (steps, failure) => .fail failure (steps.foldl Draft.take draft) := rfl

/-- **A visit reads a source**, and keeps the draft in step with what was read. -/
theorem visit_spec (order : Order) (d : Disk) {draft : Draft} {readings : List Reading}
    {n : Nat} {text : List UInt8} (hopen : (order.opened d).sink.Holds (order.opened d).disk n text)
    (h : draft.Keeps (order.opened d) readings) (path : String) :
    match order.declarationsAt d (readings.flatMap Reading.rows) path with
    | .error failure =>
      ∃ draft', order.visitor.visit path draft = .fail failure draft' ∧
        draft'.Keeps (order.opened d) readings
    | .ok declarations =>
      ∃ draft', order.visitor.visit path draft = .goOn draft' ∧
        draft'.Keeps (order.opened d) (readings ++ [⟨path, declarations⟩]) := by
  unfold declarationsAt
  simp only [h.written]
  rw [visit_eq]
  unfold Scan.fileSteps
  rcases Scan.loadDeclarations draft.disk order.strict path with ⟨log, obstacle | declarations⟩
  · cases obstacle with
    | failure failure => exact ⟨_, rfl, h.notes log⟩
    | nul => exact ⟨_, rfl, h.notes log⟩
  · refine ⟨_, rfl, ?_⟩
    rw [List.foldl_append]
    exact (h.notes log).declarations hopen path declarations

/-- Taking a step writes into files only. -/
lemma alike_take (draft : Draft) (step : Step) : Alike draft.disk (draft.take step).disk := by
  cases step with
  | note e => exact Alike.refl _
  | file => exact Alike.refl _
  | type => exact Alike.refl _
  | row r =>
    unfold Draft.take Draft.writeStep
    dsimp only
    rcases hwrite : draft.sink.writeRow r draft.disk with e | ⟨s', d'⟩
    · exact Alike.refl _
    · exact Sink.alike_of_writeRow hwrite

lemma alike_foldl_take (draft : Draft) (steps : List Step) :
    Alike draft.disk (steps.foldl Draft.take draft).disk := by
  induction steps generalizing draft with
  | nil => exact Alike.refl _
  | cons step steps ih => exact (alike_take draft step).trans (ih _)

lemma steady_visitor (order : Order) : order.visitor.Steady where
  ne_stop path draft draft' h := by
    rw [visit_eq] at h
    split at h <;> cases h
  alike path draft draft' h := by
    rw [visit_eq] at h
    split at h
    · cases h
      exact alike_foldl_take draft _
    · cases h

/-- **A draft keeps the sources that were read.** -/
theorem records (order : Order) (d : Disk) {n : Nat} {text : List UInt8}
    (hopen : (order.opened d).sink.Holds (order.opened d).disk n text) :
    Draft.taker.Records order.markers order.strict (order.opened d).disk (order.declarationsAt d)
      fun draft readings => draft.Keeps (order.opened d) readings where
  steady := order.steady_visitor
  alike h := (h.holds hopen).2.toAlike
  root h _ := h.notes [_]
  visit h path := order.visit_spec d hopen h path

/-- **Scanning roots gives the account of the files below them.** -/
theorem scan_spec (order : Order) (d : Disk) {n : Nat} {text : List UInt8}
    (hopen : (order.opened d).sink.Holds (order.opened d).disk n text) (roots : List String)
    {draft : Draft} {readings : List Reading} (h : draft.Keeps (order.opened d) readings) :
    ∃ draft',
      draft'.Keeps (order.opened d)
        (readings ++ (order.accountBelow d (readings.flatMap Reading.rows) roots).readings) ∧
      Draft.taker.scan order.markers order.strict roots draft =
        ((order.accountBelow d (readings.flatMap Reading.rows) roots).failure, draft') :=
  (order.records d hopen).scan_spec roots h

/-! ## The report -/

/-- What is left when a report was opened, and its scan has ended with a draft. -/
lemma make_of_scan {order : Order} {d : Disk} {failed : Option Failure} {draft : Draft}
    (h : (order.opened d).error = none)
    (hscan : Draft.taker.scan order.markers order.strict order.sourceRoots
      { disk := (order.opened d).disk, sink := (order.opened d).sink } = (failed, draft))
    (herror : draft.error = none) :
    (order.make d).sink = (draft.sink.close draft.disk).sink ∧
      (order.make d).disk = (draft.sink.close draft.disk).disk ∧
      (∀ failure, failed = some failure → (order.make d).result = .error (.failure failure)) ∧
      (failed = none → (order.make d).result = .ok draft.statistics) := by
  unfold make
  simp only [h, hscan, herror]
  cases failed with
  | some failure =>
    refine ⟨rfl, rfl, ?_, ?_⟩
    · intro f hf
      cases hf
      rfl
    · intro hf
      cases hf
  | none =>
    refine ⟨rfl, rfl, ?_, fun _ => rfl⟩
    intro f hf
    cases hf

/-- **A report goes through a draft** that keeps what its account lists, and is closed then. -/
theorem exists_draft (order : Order) (d : Disk) {n : Nat} {text : List UInt8}
    (h : (order.opened d).error = none)
    (hopen : (order.opened d).sink.Holds (order.opened d).disk n text) :
    ∃ draft : Draft, draft.Keeps (order.opened d) (order.account d).readings ∧
      (order.make d).sink = (draft.sink.close draft.disk).sink ∧
      (order.make d).disk = (draft.sink.close draft.disk).disk ∧
      (∀ failure, (order.account d).failure = some failure →
        (order.make d).result = .error (.failure failure)) ∧
      ((order.account d).failure = none → (order.make d).result = .ok draft.statistics) := by
  obtain ⟨draft, hkeeps, hscan⟩ :=
    order.scan_spec d hopen order.sourceRoots (Draft.keeps_opened (order.opened d))
  exact ⟨draft, hkeeps, make_of_scan h hscan hkeeps.error⟩

/-- The report is closed in the end, and its file holds the header and the rows of its account. -/
theorem read_make (order : Order) (d : Disk) (h : (order.opened d).error = none) :
    (order.make d).sink.closed = true ∧
      (order.make d).disk.read order.reportFile =
        .ok (Utf8.encode reportHeader ++
          (order.account d).rows.flatMap fun r => Utf8.encode r.line) := by
  obtain ⟨n, hopen, hlocate⟩ := Sink.openUp_spec order.reportFile d h
  obtain ⟨draft, hkeeps, hsink, hdisk, -⟩ := order.exists_draft d h hopen
  obtain ⟨hholds, hbefore⟩ := hkeeps.holds hopen
  obtain ⟨hclosed, hfile, hafter⟩ := hholds.close
  have hpath : (draft.sink.close draft.disk).disk.locate order.reportFile = .ok (.node n) := by
    rw [← (hbefore.trans hafter).locate_eq]
    exact hlocate
  rw [hsink, hdisk]
  exact ⟨hclosed, Disk.read_of_locate hpath hfile⟩

/-- The report fails where its account does, and else counts what its account lists. -/
theorem result_make (order : Order) (d : Disk) (h : (order.opened d).error = none) :
    match (order.account d).failure with
    | some failure => (order.make d).result = .error (.failure failure)
    | none =>
      ∃ s, (order.make d).result = .ok s ∧
        s.rows = (order.account d).rows.length ∧
        s.classRows = (order.account d).rows.countP (fun r => r.memberName = "*") ∧
        s.files = (order.account d).readings.length ∧
        s.types = (order.account d).types := by
  obtain ⟨n, hopen, -⟩ := Sink.openUp_spec order.reportFile d h
  obtain ⟨draft, hkeeps, -, -, hfailed, hended⟩ := order.exists_draft d h hopen
  rcases hfailure : (order.account d).failure with _ | failure
  · refine ⟨draft.statistics, hended hfailure, ?_, ?_, ?_, ?_⟩
    · rw [hkeeps.statistics, Statistics.rows_add]
      exact Nat.zero_add _
    · rw [hkeeps.statistics]
      exact Nat.zero_add _
    · rw [hkeeps.statistics]
      exact Nat.zero_add _
    · rw [hkeeps.statistics]
      exact Nat.zero_add _
  · exact hfailed failure hfailure

/-- A report without sources. -/
def bare : Order := { reportFile := "/audit.csv", sourceRoots := [] }

lemma makeFile_bare : Sink.makeFile "/audit.csv" (Disk.empty "/") =
    (.ok 1, (Disk.empty "/").attach 0 "audit.csv" .file) := by
  have hlocate : (Disk.empty "/").locate "/audit.csv" .newFile = .ok (.vacant 0 "audit.csv") := by
    have hsteps : Disk.steps "/audit.csv" = ["audit.csv"] := by decide +kernel
    rw [Disk.locate_eq_ok_iff, hsteps, Disk.walk_cons]
    exact ⟨by decide, by decide, by decide, by rfl⟩
  have hopen : (Disk.empty "/").openNew "/audit.csv" =
      .ok (1, (Disk.empty "/").attach 0 "audit.csv" .file) := by
    unfold Disk.openNew
    rw [hlocate]
    rfl
  have hparent : (Path.split ((Disk.empty "/").absolute "/audit.csv")).1 = "/" := by
    decide +kernel
  unfold Sink.makeFile
  rw [hparent, Disk.makeDirectories_root]
  simp only [hopen]

lemma error_opened_bare : (bare.opened (Disk.empty "/")).error = none := by
  have heq : bare.opened (Disk.empty "/") = _ := Sink.openUp_eq makeFile_bare
  rw [heq]

end Order

end RoleAudit.Report
