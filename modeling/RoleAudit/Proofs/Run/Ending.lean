import RoleAudit.Proofs.Report.Lines
import RoleAudit.Proofs.Report.Precedence
import RoleAudit.Proofs.Report.Summary
import RoleAudit.Run

/-!
# How a run ends

A run tells how it ended in three ways: by its exit code, by the summary, and by the report. The
first two go by the message of the failure, so they rest on every failure having one. The report
agrees with the summary since the summary counts rows, and each row is a line.

* `Options.Succeeds`, `Options.FailsWith`: how a run ends, by what its settings and report come to.
* `Run.comes_stages`: what the stages know at their end, and what is on the disk.
* `Run.Ends.failed_iff`: a run has failed exactly if its settings or its report have.
* `Run.Ends.summary_spec`: what the summary tells, and that it fits the report.
* `Options.run_agrees`: exit code, summary and report agree.
-/

namespace RoleAudit

open RoleAudit.Files RoleAudit.Text

/-! ## The stages -/

/-- The report that settings ask for. -/
def Settings.made (s : Settings) (around : Surroundings) : Report.Made :=
  (Run.order s).make around.disk

namespace Options

/-- What the settings of a run come to. -/
def resolved (o : Options) (around : Surroundings) : Except SettingsObstacle Settings :=
  (o.settings around.disk around.environment).2

/-- The settings are known, and the report was made. -/
def Succeeds (o : Options) (around : Surroundings) : Prop :=
  ∃ s statistics, o.resolved around = .ok s ∧ (s.made around).result = .ok statistics

/-- The settings, or the report, failed with this message. -/
def FailsWith (o : Options) (around : Surroundings) (message : String) : Prop :=
  (∃ f : SettingsFailure, o.resolved around = .error (.failure f) ∧ f.message = message) ∨
    ∃ (s : Settings) (f : Failure), o.resolved around = .ok s ∧
      (s.made around).result = .error (.failure f) ∧ f.message = message

lemma Succeeds.not_failsWith {o : Options} {around : Surroundings} (h : o.Succeeds around)
    (message : String) : ¬o.FailsWith around message := by
  obtain ⟨s, statistics, hs, hmade⟩ := h
  rintro (⟨f, hf, -⟩ | ⟨s', f, hs', hf, -⟩)
  · cases hs.symm.trans hf
  · cases hs.symm.trans hs'
    cases hmade.symm.trans hf

end Options

namespace Run

lemma Standing.failed_unsettled (f : SettingsFailure) : (Standing.unsettled f).failed = true :=
  isFailed_some f.message_ne_empty

lemma Standing.failed_unreported (s : Settings) (f : Failure) :
    (Standing.unreported s f).failed = true := isFailed_some f.message_ne_empty

lemma Standing.failed_reported (s : Settings) (statistics : Statistics) :
    (Standing.reported s statistics).failed = false := rfl

/-- How the stages of a run end: with what on the disk, and what is known. -/
inductive Ends (o : Options) (around : Surroundings) : Disk → Standing → Prop where
  | unsettled {f : SettingsFailure} (settings : o.resolved around = .error (.failure f)) :
    Ends o around around.disk (.unsettled f)
  | unreported {s : Settings} {f : Failure} (settings : o.resolved around = .ok s)
      (report : (s.made around).result = .error (.failure f)) :
    Ends o around (s.made around).disk (.unreported s f)
  | reported {s : Settings} {statistics : Statistics} (settings : o.resolved around = .ok s)
      (report : (s.made around).result = .ok statistics) :
    Ends o around (s.made around).disk (.reported s statistics)

/-- Stages come to one of these ends, or else a fault ends the run. -/
inductive Comes (o : Options) (around : Surroundings) : Except Ran Staged → Prop where
  | ended {staged : Staged} (ends : Ends o around staged.disk staged.standing) :
    Comes o around (.ok staged)
  | faulted {ran : Ran} {fault : RunFault} (exit : ran.exit = .error fault) :
    Comes o around (.error ran)

variable {o : Options} {around : Surroundings} {context : Log.Context} {staged : Staged}

lemma comes_scan {s : Settings} (hs : o.resolved around = .ok s) (context : Log.Context) :
    Comes o around (scan s context around.disk) := by
  unfold scan
  -- the report stays closed, or its log would be computed
  generalize hmade : (order s).make around.disk = made
  change s.made around = made at hmade
  dsimp only
  rcases hresult : made.result with e | statistics <;> rw [← hmade] at hresult
  · cases e with
    | failure f =>
      refine .ended ?_
      show Ends o around made.disk (.unreported s f)
      rw [← hmade]
      exact .unreported hs hresult
    | _ => exact .faulted rfl
  · refine .ended ?_
    show Ends o around made.disk (.reported s statistics)
    rw [← hmade]
    exact .reported hs hresult

/-- **The stages of a run end in one of three ways**, if they come to an end. -/
theorem comes_stages (o : Options) (around : Surroundings) (context : Log.Context) :
    Comes o around (stages o around context) := by
  have hresolved : (o.settings around.disk around.environment).2 = o.resolved around := rfl
  unfold stages
  dsimp only
  rw [hresolved]
  rcases hsettings : o.resolved around with obstacle | s
  · cases obstacle with
    | failure f => exact .ended (.unsettled hsettings)
    | _ => exact .faulted rfl
  · have hcomes := comes_scan hsettings context
    dsimp only
    generalize scan s context around.disk = scanned at hcomes ⊢
    cases hcomes with
    | ended hends => exact .ended hends
    | faulted hexit => exact .faulted hexit

variable {d e : Disk} {x : Standing}

/-- **A run has failed exactly if its settings or its report have**, since every failure has a
message. -/
theorem Ends.failed_iff (h : Ends o around d x) :
    (x.failed = false ↔ o.Succeeds around) ∧
      (x.failed = true ↔ ∃ message, o.FailsWith around message) := by
  cases h with
  | @unsettled f hs =>
    have hfails : o.FailsWith around f.message := .inl ⟨f, hs, rfl⟩
    rw [Standing.failed_unsettled]
    refine ⟨?_, fun _ => ⟨_, hfails⟩, fun _ => rfl⟩
    exact ⟨fun h => (nomatch h), fun h => absurd hfails (h.not_failsWith _)⟩
  | @unreported s f hs hreport =>
    have hfails : o.FailsWith around f.message := .inr ⟨s, f, hs, hreport, rfl⟩
    rw [Standing.failed_unreported]
    refine ⟨?_, fun _ => ⟨_, hfails⟩, fun _ => rfl⟩
    exact ⟨fun h => (nomatch h), fun h => absurd hfails (h.not_failsWith _)⟩
  | @reported s statistics hs hreport =>
    have hsucceeds : o.Succeeds around := ⟨s, statistics, hs, hreport⟩
    rw [Standing.failed_reported]
    refine ⟨⟨fun _ => hsucceeds, fun _ => rfl⟩, fun h => (nomatch h), ?_⟩
    rintro ⟨message, hfails⟩
    exact absurd hfails (hsucceeds.not_failsWith message)

/-! ## The end -/

/-- The exit code tells whether the run has failed. -/
lemma finish_exit (context : Log.Context) (x : Standing) (log : List Log.Record) (d : Disk) :
    (finish context x log d).exit = .ok (if x.failed then 1 else 0) := by
  unfold finish
  split
  · next h => simp [h]
  · next h => simp [h]

lemma finish_disk (context : Log.Context) (x : Standing) (log : List Log.Record) (d : Disk) :
    (finish context x log d).disk = d := by
  unfold finish
  split <;> rfl

/-- **The end of a run**: the exit code is by the failure, and the summary is written if there is a
directory for it and the settings are known. -/
theorem report_spec {time : String} {code : Nat}
    (h : (report o context time staged).exit = .ok code) :
    code = (if staged.standing.failed then 1 else 0) ∧
      match o.summaryDirectory.filter fun directory => !directory.isEmpty,
        staged.standing.settings with
      | some directory, some s =>
        (summary s context.runId time staged.standing).write directory staged.disk =
          (none, (report o context time staged).disk)
      | _, _ => (report o context time staged).disk = staged.disk := by
  have hcode : ∀ {log : List Log.Record} {d : Disk},
      (finish context staged.standing log d).exit = .ok code →
        code = if staged.standing.failed then 1 else 0 := by
    intro log d hexit
    rw [finish_exit] at hexit
    exact (Except.ok.inj hexit).symm
  unfold report at h ⊢
  dsimp only at h ⊢
  generalize (o.summaryDirectory.filter fun directory => !directory.isEmpty) = place at h ⊢
  generalize staged.standing.settings = settings at h ⊢
  cases place with
  | none => exact ⟨hcode h, finish_disk ..⟩
  | some directory =>
    cases settings with
    | none => exact ⟨hcode h, finish_disk ..⟩
    | some s =>
      dsimp only at h ⊢
      generalize (summary s context.runId time staged.standing).write directory staged.disk =
        written at h ⊢
      rcases written with ⟨_ | fault, d⟩
      · refine ⟨hcode h, ?_⟩
        rw [finish_disk]
      · cases h

/-- **A run with an exit code has come through its stages** and ends behind them. -/
theorem run_spec {code : Nat} (h : (o.run around).exit = .ok code) :
    ∃ staged : Staged, Ends o around staged.disk staged.standing ∧
      code = (if staged.standing.failed then 1 else 0) ∧
        match o.summaryDirectory.filter fun directory => !directory.isEmpty,
          staged.standing.settings with
        | some directory, some s =>
          (summary s around.freshId around.time staged.standing).write directory staged.disk =
            (none, (o.run around).disk)
        | _, _ => (o.run around).disk = staged.disk := by
  have hcomes := comes_stages o around (around.context.setRunId none around.freshId).2
  unfold Options.run at h ⊢
  dsimp only at h ⊢
  generalize hcontext : (around.context.setRunId none around.freshId).2 = context
    at h hcomes ⊢
  have hid : context.runId = around.freshId := by
    rw [← hcontext]
    rfl
  generalize stages o around context = stages at h hcomes ⊢
  cases hcomes with
  | faulted hexit =>
    rw [hexit] at h
    cases h
  | @ended staged hends =>
    dsimp only at h ⊢
    have hreport := report_spec h
    rw [hid] at hreport
    exact ⟨staged, hends, hreport⟩

/-- The summary of a run that has not failed tells of a success. -/
lemma tellsSuccess_summary {s : Settings} {statistics : Statistics} (runId time : String)
    (d : Disk) :
    Report.Summary.TellsSuccess
      ((summary s runId time (.reported s statistics)).entriesOn d) statistics.rows where
  status := rfl
  rows := ⟨_, rfl, rfl⟩
  error := rfl

/-- The summary of a run that has failed tells of the failure. -/
lemma tellsFailure_summary {s : Settings} {f : Failure} (runId time : String) (d : Disk) :
    Report.Summary.TellsFailure
      ((summary s runId time (.unreported s f)).entriesOn d) f.message := by
  have hstatus : (summary s runId time (.unreported s f)).status = "failed" := by
    unfold summary
    rw [Standing.failed_unreported]
    rfl
  refine ⟨?_, rfl, rfl⟩
  show some (Value.text (summary s runId time (.unreported s f)).status) = _
  rw [hstatus]

/-- The settings that are known are those of the run; if there are any, the disk has the report. -/
lemma Ends.resolved_spec (h : Ends o around d x) :
    match o.resolved around with
    | .ok s => x.settings = some s ∧ d = (s.made around).disk
    | .error _ => x.settings = none ∧ d = around.disk := by
  cases h with
  | unsettled hs => rw [hs]; exact ⟨rfl, rfl⟩
  | unreported hs => rw [hs]; exact ⟨rfl, rfl⟩
  | reported hs => rw [hs]; exact ⟨rfl, rfl⟩

/-- **The summary of a run tells how it ended**, and the report has as many lines as it says, unless
the summary was written over it. -/
theorem Ends.summary_spec {s : Settings} {runId time directory : String} (h : Ends o around d x)
    (hs : x.settings = some s) (hwrite : (summary s runId time x).write directory d = (none, e)) :
    let path := Path.join directory (runId ++ ".json")
    ∃ entries, Report.Summary.StandsAt e path entries ∧
      (x.failed = false → ∃ rows, Report.Summary.TellsSuccess entries rows ∧
        (e.locate s.reportPath ≠ e.locate path → Report.HasLines e s.reportPath rows)) ∧
      (x.failed = true → ∃ message, o.FailsWith around message ∧
        Report.Summary.TellsFailure entries message) := by
  obtain ⟨⟨d', hstands⟩, hothers⟩ := Report.Summary.write_spec hwrite
  refine ⟨_, hstands, ?_⟩
  cases h with
  | unsettled => cases hs
  | @unreported s' f hresolved hreport =>
    have hsame : s' = s := Option.some.inj hs
    subst hsame
    rw [Standing.failed_unreported]
    refine ⟨fun h => (nomatch h), fun _ => ?_⟩
    exact ⟨f.message, .inr ⟨s', f, hresolved, hreport, rfl⟩, tellsFailure_summary ..⟩
  | @reported s' statistics hresolved hreport =>
    have hsame : s' = s := Option.some.inj hs
    subst hsame
    rw [Standing.failed_reported]
    refine ⟨fun _ => ⟨statistics.rows, tellsSuccess_summary .., ?_⟩, fun h => (nomatch h)⟩
    intro hother
    exact (Report.Order.hasLines_make hreport).of_read fun content hread =>
      hothers _ content hother hread

end Run

/-! ## The run -/

/-- **Exit code, summary and report agree**, whenever a run has an exit code. It is 0 if the settings
are known and the report was made, and 1 if one of them failed. A summary is written if a directory
for it was named and the settings are known; else nothing changes after the report. It tells of a
success if the exit code is 0, and then the report has as many lines below its header as it counts,
unless it was written over by the summary. If the exit code is 1, the summary has no counts and tells
the message of the failure. -/
theorem Options.run_agrees (o : Options) (around : Surroundings) {code : Nat}
    (h : (o.run around).exit = .ok code) :
    (code = 0 ↔ o.Succeeds around) ∧
      (code = 1 ↔ ∃ message, o.FailsWith around message) ∧
      (code = 0 ∨ code = 1) ∧
      match o.resolved around,
        o.summaryDirectory.filter fun directory => !directory.isEmpty with
      | .ok s, some directory =>
        let e := (o.run around).disk
        let path := Path.join directory (around.freshId ++ ".json")
        ∃ entries, Report.Summary.StandsAt e path entries ∧
          (code = 0 → ∃ rows, Report.Summary.TellsSuccess entries rows ∧
            (e.locate s.reportPath ≠ e.locate path → Report.HasLines e s.reportPath rows)) ∧
          (code = 1 → ∃ message, o.FailsWith around message ∧
            Report.Summary.TellsFailure entries message)
      | .ok s, none => (o.run around).disk = (s.made around).disk
      | .error _, _ => (o.run around).disk = around.disk := by
  obtain ⟨staged, hends, hcode, hdisk⟩ := Run.run_spec h
  obtain ⟨hsucceeds, hfails⟩ := hends.failed_iff
  have hzero : code = 0 ↔ staged.standing.failed = false := by
    rw [hcode]
    cases staged.standing.failed <;> simp
  have hone : code = 1 ↔ staged.standing.failed = true := by
    rw [hcode]
    cases staged.standing.failed <;> simp
  refine ⟨hzero.trans hsucceeds, hone.trans hfails, ?_, ?_⟩
  · rw [hcode]
    cases staged.standing.failed <;> simp
  · have hresolved := hends.resolved_spec
    rw [hzero, hone]
    generalize o.resolved around = resolved at hresolved ⊢
    generalize (o.summaryDirectory.filter fun directory => !directory.isEmpty) = place
      at hdisk ⊢
    cases resolved with
    | error obstacle =>
      obtain ⟨hsettings, hleft⟩ := hresolved
      rw [hsettings] at hdisk
      cases place <;> exact hdisk.trans hleft
    | ok s =>
      obtain ⟨hsettings, hleft⟩ := hresolved
      rw [hsettings] at hdisk
      cases place with
      | none => exact hdisk.trans hleft
      | some directory => exact hends.summary_spec hsettings hdisk

/-! ### A run on an empty disk -/

/-- Scans everything, and reports into the root as well. -/
def Options.bare : Options where
  reportFile := some "/audit.csv"
  sourceRoots := some ["/"]
  summaryDirectory := some "/"

/-- There is nothing. -/
def Surroundings.bare : Surroundings where
  disk := Disk.empty "/"
  environment := none
  context := {}
  freshId := "first"
  time := "then"

namespace Run

/-- The settings of the run. -/
def bare : Settings where
  reportFile := some "/audit.csv"
  sourceRoots := ["/"]

lemma resolved_bare : Options.bare.resolved .bare = .ok bare := rfl

lemma directory_bare :
    Options.bare.summaryDirectory.filter (fun directory => !directory.isEmpty) = some "/" := by
  decide +kernel

lemma path_bare : Path.join "/" ("first" ++ ".json") = "/first.json" := by decide +kernel

lemma opened_bare : ((order bare).opened (Disk.empty "/")).error = none :=
  Report.Order.error_opened_bare

/-- A root with one file. -/
def desk : Disk := (Disk.empty "/").attach 0 "audit.csv" .file

/-- The report is the only thing that comes onto the disk, and it is there from the start. -/
lemma alike_bare : Alike desk ((order bare).opened (Disk.empty "/")).disk ∧
    Alike desk ((order bare).make (Disk.empty "/")).disk := by
  obtain ⟨hholds, hheader⟩ := Report.Sink.holds_openUp Report.Order.makeFile_bare
  have hmade := (order bare).writtenAt_make (Disk.empty "/") opened_bare hholds
  exact ⟨hheader.toAlike, (hheader.trans hmade).toAlike⟩

lemma stations_bare : (order bare).stations (Disk.empty "/") =
    [.place "/", .entry "/audit.csv" .file] := by
  have hlist : ((order bare).opened (Disk.empty "/")).disk.list "/" = [⟨"audit.csv", .file⟩] := by
    have hentries : desk.entries 0 = [("audit.csv", 1)] := by rfl
    rw [← alike_bare.1.list_eq]
    exact Disk.list_of_singleton (Disk.locate_root _ _) hentries
  have hjoin : Path.join "/" "audit.csv" = "/audit.csv" := by decide +kernel
  have hcandidate : Walk.isCandidate (order bare).markers "audit.csv" = false := by decide +kernel
  have hroot := Disk.isDirectory_root ((order bare).opened (Disk.empty "/")).disk
  have hlimit : pathLimit = 4095 + 1 := rfl
  have hroots : (order bare).sourceRoots = ["/"] := rfl
  unfold Report.Order.stations Walk.stations
  rw [hroots, List.flatMap_singleton, hlimit, Walk.stationsWithin, if_pos hroot, hlist]
  simp [Walk.stationsAmong, Walk.examine, hjoin, hcandidate]

lemma exists_result_bare : ∃ statistics, (bare.made .bare).result = .ok statistics := by
  obtain ⟨-, hresult⟩ := Report.Order.result_make_iff opened_bare
  apply hresult.2
  rw [Report.Order.failure_account, stations_bare]
  have hroot := Disk.isDirectory_root ((order bare).opened (Disk.empty "/")).disk
  simp [Report.Order.firstTrouble, Report.Order.troubleAt, Walk.Station.trouble, hroot,
    Walk.examine]

lemma openNew_bare : ∃ opened,
    ((order bare).make (Disk.empty "/")).disk.openNew "/first.json" = .ok opened := by
  have hdesk : desk.locate "/first.json" .newFile = .ok (.vacant 0 "first.json") := by
    have hsteps : Disk.steps "/first.json" = ["first.json"] := by decide +kernel
    rw [Disk.locate_eq_ok_iff, hsteps, Disk.walk_cons]
    exact ⟨by decide, by decide, by decide, by rfl⟩
  rw [alike_bare.2.locate_eq] at hdesk
  unfold Disk.openNew
  rw [hdesk]
  exact ⟨_, rfl⟩

lemma write_bare (x : Standing) :
    ∃ d, (summary bare "first" "then" x).write "/" ((order bare).make (Disk.empty "/")).disk =
      (none, d) := by
  obtain ⟨⟨n, d⟩, hopen⟩ := openNew_bare
  rw [← path_bare] at hopen
  unfold Report.Summary.write Report.Summary.pathIn
  rw [Disk.makeDirectories_root]
  dsimp only
  rw [show (summary bare "first" "then" x).runId = "first" from rfl, hopen]
  exact ⟨_, rfl⟩

lemma stages_bare {statistics : Statistics} (context : Log.Context)
    (h : (bare.made .bare).result = .ok statistics) :
    ∃ log, stages .bare .bare context =
      .ok ⟨((order bare).make (Disk.empty "/")).disk, log, .reported bare statistics⟩ := by
  have hsettings : Options.bare.settings Surroundings.bare.disk Surroundings.bare.environment =
      ([], .ok bare) := rfl
  unfold stages scan
  rw [hsettings]
  change ((order bare).make Surroundings.bare.disk).result = .ok statistics at h
  dsimp only
  rw [h]
  exact ⟨_, rfl⟩

lemma exit_bare : (Options.bare.run Surroundings.bare).exit = .ok 0 := by
  obtain ⟨statistics, hresult⟩ := exists_result_bare
  obtain ⟨log, hstages⟩ :=
    stages_bare (Surroundings.bare.context.setRunId none Surroundings.bare.freshId).2 hresult
  obtain ⟨d, hwrite⟩ := write_bare (.reported bare statistics)
  unfold Options.run
  dsimp only
  rw [hstages]
  have hsettings : (Standing.reported bare statistics).settings = some bare := rfl
  have hid : (Surroundings.bare.context.setRunId none Surroundings.bare.freshId).2.runId =
      "first" := rfl
  have htime : Surroundings.bare.time = "then" := rfl
  unfold report
  rw [directory_bare, hid, htime]
  dsimp only
  rw [hsettings]
  dsimp only
  rw [hwrite]
  exact finish_exit ..

end Run

/-- A run that finds nothing succeeds, and says so in its summary. -/
theorem Options.run_agrees_bare :
    (Options.bare.run .bare).exit = .ok 0 ∧ Options.bare.Succeeds .bare ∧
      ∃ entries rows,
        Report.Summary.StandsAt (Options.bare.run .bare).disk "/first.json" entries ∧
          Report.Summary.TellsSuccess entries rows := by
  obtain ⟨hcode, -, -, hsummary⟩ := Options.bare.run_agrees .bare Run.exit_bare
  rw [Run.resolved_bare, Run.directory_bare] at hsummary
  obtain ⟨entries, hstands, hsuccess, -⟩ := hsummary
  obtain ⟨rows, htells, -⟩ := hsuccess rfl
  refine ⟨Run.exit_bare, hcode.1 rfl, entries, rows, ?_, htells⟩
  rw [← Run.path_bare]
  exact hstands

end RoleAudit
