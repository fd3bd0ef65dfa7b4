import RoleAudit.Proofs.Log.Nesting
import RoleAudit.Proofs.Run.Ending

/-!
# The stages of a run

A run opens its stages one after another, and closes each of them however it ends: the settings may be
wrong, a source may be missing, the summary may not be written, or a fault may end the run at once. So
what it does to the log comes of a script, and it leaves the stage as it found it.

* `Options.script`: the script of a run.
* `Options.play_script`: a run logs what its script logs, and a fault ends both or neither.
* `stages_nest`: what is shown on a log line, after whatever was done before.
-/

namespace RoleAudit

open RoleAudit.Log

namespace Run

/-! ## The first two stages -/

/-- How a stage ends. -/
inductive Verdict where
  | fine
  /-- It fails, and this is logged about it. -/
  | failed (log : List Entry)
  | faulted

namespace Verdict

/-- What makes a run leave the stage. -/
def raised : Verdict → Option Raised
  | fine => none
  | failed _ => some .failure
  | faulted => some .fault

/-- What is not dealt with behind the stage. -/
def escaped : Verdict → Option Raised
  | faulted => some .fault
  | _ => none

/-- What is logged behind the stage. -/
def log : Verdict → List Entry
  | failed log => log
  | _ => []

/-- How the first stage ends. -/
def ofSettings : Except SettingsObstacle Settings → Verdict
  | .ok _ => fine
  | .error (.failure f) => failed (failureLog f.message f.cause?.isSome)
  | .error _ => faulted

/-- How the second stage ends. -/
def ofReport : Except Report.SinkError Statistics → Verdict
  | .ok _ => fine
  | .error (.failure f) => failed (failureLog f.message f.cause?.isSome)
  | .error _ => faulted

end Verdict

/-- The script of a stage that logs, and then ends in some way. -/
def stageScript (name : String) (entries : List Entry) (v : Verdict) : Script :=
  .within name (.logging entries v.raised)

/-- Logs a failure of the body. -/
def caught (body : Script) (v : Verdict) : Script := .attempt body (.logging v.log none)

/-- The script of the first two stages. -/
def stagesScript (o : Options) (around : Surroundings) : Script :=
  let (entries, resolved) := o.settings around.disk around.environment
  let config := stageScript "config" entries (.ofSettings resolved)
  match resolved with
  | .error _ => caught config (.ofSettings resolved)
  | .ok s =>
    let made := (order s).make around.disk
    let scan := stageScript "scan" made.log (.ofReport made.result)
    caught (.andThen config scan) (.ofReport made.result)

variable {o : Options} {around : Surroundings} {body : Script} {s : Session} {v : Verdict}

/-- A stage is closed again behind what it logs. -/
lemma play_stageScript (name : String) (entries : List Entry) (v : Verdict) (s : Session) :
    (stageScript name entries v).play s =
      { session := s, records := stage s.context name entries } := by
  unfold stageScript
  rw [Script.play_within]
  unfold Performance.andThen
  simp only [Script.play_logging]
  unfold stage
  exact congrArg (Performance.mk s []) (List.append_nil _)

lemma raised_stageScript (name : String) (entries : List Entry) (v : Verdict) :
    (stageScript name entries v).raised = v.raised := Script.raised_logging _ _

/-- A failure is logged, and a fault is passed on. -/
lemma play_caught {log : List Record} (hbody : body.play s = { session := s, records := log })
    (hraised : body.raised = v.raised) :
    (caught body v).play s =
        { session := s, records := log ++ v.log.map fun e => ⟨s.context, e⟩ } ∧
      (caught body v).raised = v.escaped := by
  unfold caught
  cases v with
  | failed entries =>
    have hfailed : body.raised = some .failure := hraised
    rw [Script.play_attempt_of_failed hfailed, Script.raised, if_pos hfailed, Script.raised_logging]
    unfold Performance.andThen
    rw [hbody, Script.play_logging]
    exact ⟨rfl, rfl⟩
  | _ =>
    have hpasses : ¬ body.raised = some .failure := by
      rw [hraised]
      decide
    rw [Script.play_attempt hpasses, Script.raised, if_neg hpasses, hbody]
    exact ⟨congrArg (Performance.mk s []) (List.append_nil log).symm, hraised⟩

/-- What the first two stages log. -/
def logOf : Except Ran Staged → List Record
  | .error ran => ran.log
  | .ok staged => staged.log

/-- What the first two stages do not deal with. -/
def escapedFrom : Except Ran Staged → Option Raised
  | .error _ => some .fault
  | .ok _ => none

/-- Behind a stage that ends well comes the next one. -/
lemma play_both (name name' : String) (entries entries' : List Entry) (v : Verdict) (s : Session) :
    ((stageScript name entries .fine).andThen (stageScript name' entries' v)).play s =
        { session := s, records := stage s.context name entries ++ stage s.context name' entries' } ∧
      ((stageScript name entries .fine).andThen (stageScript name' entries' v)).raised =
        v.raised := by
  have hfine := raised_stageScript name entries .fine
  constructor
  · have hgoes : ¬ (stageScript name entries .fine).raised.isSome = true := by
      rw [hfine]
      exact Bool.false_ne_true
    rw [Script.play_andThen hgoes]
    unfold Performance.andThen
    rw [play_stageScript, play_stageScript]
    rfl
  · rw [Script.raised, hfine, raised_stageScript]
    rfl

/-- **The first two stages of a run log what their script logs**, and a fault ends both or neither. -/
lemma play_stagesScript (o : Options) (around : Surroundings) (s : Session) :
    (stagesScript o around).play s =
        { session := s, records := logOf (stages o around s.context) } ∧
      (stagesScript o around).raised = escapedFrom (stages o around s.context) := by
  unfold stagesScript stages
  generalize o.settings around.disk around.environment = settled
  obtain ⟨entries, resolved⟩ := settled
  cases resolved with
  | error obstacle =>
    have hcaught := play_caught (play_stageScript "config" entries (.ofSettings (.error obstacle)) s)
      (raised_stageScript _ _ _)
    cases obstacle with
    | failure f => exact hcaught
    | _ =>
      simp only [Verdict.ofSettings, Verdict.log, List.map_nil, List.append_nil] at hcaught
      exact hcaught
  | ok settings =>
    unfold scan
    dsimp only
    -- the report stays closed, or its log would be computed
    generalize (order settings).make around.disk = made
    obtain ⟨disk, sink, log, result⟩ := made
    obtain ⟨hboth, hends⟩ := play_both "config" "scan" entries log (.ofReport result) s
    have hcaught := play_caught hboth hends
    cases result with
    | ok statistics =>
      simp only [Verdict.ofReport, Verdict.log, List.map_nil, List.append_nil] at hcaught
      exact hcaught
    | error e =>
      cases e with
      | failure f =>
        rw [List.append_assoc] at hcaught
        exact hcaught
      | _ =>
        simp only [Verdict.ofReport, Verdict.log, List.map_nil, List.append_nil] at hcaught
        exact hcaught

/-- A fault leaves the context alone. -/
lemma context_of_stages {context : Context} {ran : Ran} (h : stages o around context = .error ran) :
    ran.context = context := by
  unfold stages scan at h
  generalize o.settings around.disk around.environment = settled at h
  obtain ⟨entries, resolved⟩ := settled
  cases resolved with
  | error obstacle =>
    cases obstacle with
    | failure f => cases h
    | _ =>
      cases h
      rfl
  | ok settings =>
    dsimp only at h
    generalize (order settings).make around.disk = made at h
    obtain ⟨disk, sink, log, result⟩ := made
    cases result with
    | ok statistics => cases h
    | error e =>
      cases e with
      | failure f => cases h
      | _ =>
        cases h
        rfl

/-! ## The summary and the end -/

/-- What a run logs at its end, if nothing has gone wrong. -/
def closing (x : Standing) : List Entry :=
  match x.failed, x.settings, x.statistics with
  | false, some settings, some statistics =>
    [entry .info ("Report written to " ++ settings.reportPath ++ " (" ++
      toString statistics.rows ++ " rows)")]
  | _, _, _ => []

/-- The script of the end. -/
def closingScript (x : Standing) : Script := .logging (closing x) none

/-- The script of the summary, and of the end. -/
def reportScript (o : Options) (runId time : String) (staged : Staged) : Script :=
  let directory := o.summaryDirectory.filter fun directory => !directory.isEmpty
  match directory, staged.standing.settings with
  | some directory, some s =>
    let summary := summary s runId time staged.standing
    match summary.write directory staged.disk with
    | (some _, _) => stageScript "report" [] .faulted
    | (none, _) =>
      let written := entry .info ("Run summary written to " ++ summary.pathIn directory)
      .andThen (stageScript "report" [written] .fine) (closingScript staged.standing)
  | _, _ => closingScript staged.standing

/-- A run ends as its script does: it logs the same, behind what was logged before, leaves the same
context, and a fault ends both or neither. -/
structure EndsAs (ran : Ran) (log : List Record) (script : Script) (s : Session) : Prop where
  log : ran.log = log ++ (script.play s).records
  context : ran.context = (script.play s).session.context
  fault : (∃ fault, ran.exit = .error fault) ↔ script.raised = some .fault

/-- A script that begins with another one goes on behind it. -/
lemma EndsAs.andThen {ran : Ran} {log : List Record} {first rest : Script} {s : Session}
    (hraised : first.raised = none)
    (h : EndsAs ran (log ++ (first.play s).records) rest (first.play s).session) :
    EndsAs ran log (first.andThen rest) s := by
  have hgoes : ¬ first.raised.isSome = true := by
    rw [hraised]
    exact Bool.false_ne_true
  have hplay := Script.play_andThen hgoes rest s
  refine ⟨?_, ?_, ?_⟩
  · rw [h.log, hplay, List.append_assoc]
    rfl
  · rw [h.context, hplay]
    rfl
  · rw [h.fault, Script.raised, hraised]
    rfl

lemma log_finish (context : Context) (x : Standing) (log : List Record) (d : Files.Disk) :
    (finish context x log d).log = log ++ (closing x).map fun e => ⟨context, e⟩ := by
  unfold finish closing
  by_cases hfailed : x.failed = false
  · obtain ⟨settings, hsettings⟩ := Option.isSome_iff_exists.1 (x.complete hfailed).1
    obtain ⟨statistics, hstatistics⟩ := Option.isSome_iff_exists.1 (x.complete hfailed).2
    rw [dif_pos hfailed]
    simp only [hfailed, hsettings, hstatistics, Option.get_some]
    rfl
  · have htrue : x.failed = true := Bool.eq_true_of_not_eq_false hfailed
    rw [dif_neg hfailed]
    simp only [htrue]
    exact (List.append_nil log).symm

lemma endsAs_finish (x : Standing) (log : List Record) (d : Files.Disk) (s : Session) :
    EndsAs (finish s.context x log d) log (closingScript x) s := by
  have hplay := Script.play_logging (closing x) none s
  refine ⟨?_, ?_, ?_⟩
  · rw [log_finish, closingScript, hplay]
  · rw [closingScript, hplay]
    unfold finish
    split <;> rfl
  · rw [closingScript, Script.raised_logging, finish_exit]
    simp

lemma endsAs_report (time : String) (staged : Staged) (s : Session) :
    EndsAs (report o s.context time staged) staged.log (reportScript o s.context.runId time staged)
      s := by
  unfold report reportScript
  dsimp only
  generalize (o.summaryDirectory.filter fun directory => !directory.isEmpty) = place
  rcases place with _ | directory
  · exact endsAs_finish _ _ _ _
  rcases hsettings : staged.standing.settings with _ | settings
  · exact endsAs_finish _ _ _ _
  dsimp only
  generalize (summary settings s.context.runId time staged.standing).write directory staged.disk =
    result
  obtain ⟨_ | fault, d⟩ := result
  · refine .andThen (raised_stageScript _ _ _) ?_
    rw [play_stageScript]
    exact endsAs_finish _ _ _ _
  · have hplay := play_stageScript "report" [] .faulted s
    refine ⟨?_, ?_, ?_⟩
    · rw [hplay]
      exact (List.append_nil _).symm
    · rw [hplay]
    · exact iff_of_true ⟨_, rfl⟩ rfl

/-- The script of a run behind its first two stages. -/
def restScript (o : Options) (runId time : String) : Except Ran Staged → Script
  | .error _ => .nothing
  | .ok staged => reportScript o runId time staged

lemma endsAs_stages (o : Options) (around : Surroundings) (context : Context) :
    EndsAs
      (match stages o around context with
        | .error ran => ran
        | .ok staged => report o context around.time staged)
      []
      (.andThen (stagesScript o around)
        (restScript o context.runId around.time (stages o around context)))
      { context } := by
  obtain ⟨hplay, hraised⟩ := play_stagesScript o around { context }
  have hcomes := comes_stages o around context
  dsimp only at hplay hraised
  rcases hstages : stages o around context with ran | staged <;> rw [hstages] at hplay hraised
  · -- nothing comes behind a fault
    have hover : (stagesScript o around).raised.isSome = true := by
      rw [hraised]
      rfl
    rw [hstages] at hcomes
    obtain ⟨fault, hfault⟩ : ∃ fault, ran.exit = .error fault := by
      cases hcomes with
      | faulted exit => exact ⟨_, exit⟩
    have hthis := Script.play_andThen_of_raised hover
      (restScript o context.runId around.time (.error ran)) { context }
    refine ⟨?_, ?_, ?_⟩
    · rw [hthis, hplay]
      rfl
    · rw [hthis, hplay]
      exact context_of_stages hstages
    · rw [Script.raised, hraised]
      exact iff_of_true ⟨fault, hfault⟩ rfl
  · refine .andThen hraised ?_
    rw [hplay]
    exact endsAs_report around.time staged { context }

end Run

/-- The script of a run. -/
def Options.script (o : Options) (around : Surroundings) : Script :=
  .andThen (.setRunId none around.freshId)
    (.andThen (Run.stagesScript o around)
      (Run.restScript o around.freshId around.time
        (Run.stages o around (around.context.setRunId none around.freshId).2)))

/-- **A run does what its script tells.** -/
theorem Options.endsAs_script (o : Options) (around : Surroundings) :
    Run.EndsAs (o.run around) [] (o.script around) { context := around.context } :=
  Run.EndsAs.andThen rfl (Run.endsAs_stages o around _)

/-- **What a log line shows.** After any acts, the stage is the innermost one that is open, and the run
id the one that was returned last, and a dash stands where there is none; this is what an entry is
recorded with. Stages leave the run id alone, and setting it leaves the stages alone. Whatever code is
run in stages, and however it ends, it leaves the stages as it found them; and so does a run of the
audit, which is such code, whether it ends with an exit code or with a fault. -/
theorem stages_nest :
    (∀ (acts : List Act) (entry : Entry),
      let p := ({} : Session).perform acts
      p.session.context = ⟨p.ids.getLast?.getD "-", (openStages acts).headD "-"⟩ ∧
        (({} : Session).perform (acts ++ [.note entry])).records =
          p.records ++ [⟨p.session.context, entry⟩]) ∧
      (∀ (s : Session) (fresh : String),
        (∀ name, (s.step fresh (.enter name)).2.context.runId = s.context.runId) ∧
          (s.step fresh .exit).2.context.runId = s.context.runId ∧
          ∀ value, ∃ id, s.step fresh (.setRunId value) =
            (some id, { s with context := { s.context with runId := id } })) ∧
      (∀ (script : Script) (s : Session), ∃ runId,
        (script.play s).session = { s with context := { s.context with runId } }) ∧
      ∀ (o : Options) (around : Surroundings),
        (o.run around).context.stage = around.context.stage ∧
          (o.run around).log = ((o.script around).play { context := around.context }).records ∧
          ((∃ fault, (o.run around).exit = .error fault) ↔
            (o.script around).raised = some .fault) := by
  refine ⟨?_, ?_, Script.restores, ?_⟩
  · intro acts entry
    exact ⟨Session.context_perform {} acts, Session.records_perform_note {} acts entry⟩
  · intro s fresh
    exact ⟨fun _ => rfl, s.runId_step_exit fresh, fun _ => ⟨_, rfl⟩⟩
  intro o around
  have hends := o.endsAs_script around
  obtain ⟨runId, hrestored⟩ := (o.script around).restores { context := around.context }
  refine ⟨?_, hends.log, hends.fault⟩
  rw [hends.context, hrestored]

end RoleAudit
