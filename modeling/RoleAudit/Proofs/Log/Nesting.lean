import Mathlib.Data.List.Basic
import RoleAudit.Log.Context

/-!
# Stages inside stages

A session does not keep the names of the stages that are open. It shows one stage, and each open scope
remembers the one that was shown before it. That this is as good as a stack of names is an invariant:
the stage that is shown and those that are remembered are the names of the open stages, innermost
first, and then the stage that was found at the start.

A stage is closed however the code inside it ends. A `Script` is code that opens stages, that may fail
inside of them, and may go on outside after a failure. The acts that come of it are always well nested.

* `Session.perform`: what several acts give, one after another.
* `openStages`: the stages that are open after several acts, by their names alone.
* `Session.context_perform`: what a session shows are the innermost open stage and the last run id.
* `Script.restores`: a script leaves the stages as it found them, also where it fails.
-/

namespace RoleAudit.Log

/-! ## Acts -/

/-- What is done in a session: an operation, with the run id to use where none is given, or an entry
that is logged. -/
inductive Act where
  | operate (operation : Operation) (fresh : String)
  | note (entry : Entry)

/-- What acts give: the run ids that were returned, the records, and the session behind them. -/
structure Performance where
  session : Session
  ids : List String := []
  records : List Record := []

/-- Goes on in the session that acts have led to. -/
def Performance.andThen (p : Performance) (next : Session → Performance) : Performance where
  session := (next p.session).session
  ids := p.ids ++ (next p.session).ids
  records := p.records ++ (next p.session).records

namespace Session

/-- Does one act. An entry is recorded in the context of this moment. -/
def act (s : Session) : Act → Performance
  | .operate operation fresh =>
    let (id?, session) := s.step fresh operation
    { session, ids := id?.toList }
  | .note entry => { session := s, records := [⟨s.context, entry⟩] }

/-- Does several acts, one after another. -/
def perform (s : Session) : List Act → Performance
  | [] => { session := s }
  | a :: acts => (s.act a).andThen fun s => s.perform acts

variable {s : Session}

lemma perform_cons (s : Session) (a : Act) (acts : List Act) :
    s.perform (a :: acts) = (s.act a).andThen fun s => s.perform acts := rfl

lemma perform_append (s : Session) (acts more : List Act) :
    s.perform (acts ++ more) = (s.perform acts).andThen fun s => s.perform more := by
  induction acts generalizing s with
  | nil => rfl
  | cons a acts ih =>
    rw [List.cons_append, perform_cons, perform_cons]
    unfold Performance.andThen
    simp only [ih, Performance.andThen, List.append_assoc]

end Session

/-! ## Open stages -/

/-- The open stages after an act, innermost first. -/
def nest (stages : List String) : Act → List String
  | .operate (.enter name) _ => name :: stages
  | .operate .exit _ => stages.tail
  | _ => stages

/-- The open stages after several acts, if none was open before. -/
def openStages (acts : List Act) : List String := acts.foldl nest []

namespace Session

variable {s : Session} {found : String} {stages : List String}

/-- What is shown, and then what the open scopes remember, are the names of the open stages, and the
stage that was found at the start. -/
def Nests (s : Session) (found : String) (stages : List String) : Prop :=
  s.context.stage :: s.scopes.map Scope.previous = stages ++ [found]

lemma nests_start (context : Context) : ({ context } : Session).Nests context.stage [] := rfl

/-- The innermost open stage is shown. -/
lemma Nests.stage_eq (h : s.Nests found stages) : s.context.stage = stages.headD found := by
  unfold Nests at h
  cases stages with
  | nil => exact (List.cons.inj h).1
  | cons name stages => exact (List.cons.inj h).1

/-- As many scopes are open as stages. -/
lemma Nests.length_scopes (h : s.Nests found stages) : s.scopes.length = stages.length := by
  have hlength := congrArg List.length h
  simpa using hlength

/-- An act keeps the scopes in step with the open stages. -/
lemma Nests.act (h : s.Nests found stages) (a : Act) :
    (s.act a).session.Nests found (nest stages a) := by
  cases a with
  | note entry => exact h
  | operate operation fresh =>
    cases operation with
    | setRunId value => exact h
    | enter name => exact congrArg (name :: ·) h
    | exit =>
      have hlength := h.length_scopes
      unfold Session.act step nest
      cases stages with
      | nil =>
        -- without an open stage there is nothing to close
        have hscopes : s.scopes = [] := List.length_eq_zero_iff.1 hlength
        simp only [hscopes]
        exact h
      | cons name stages =>
        obtain ⟨scope, scopes, hscopes⟩ := List.exists_cons_of_length_eq_add_one hlength
        simp only [hscopes]
        unfold Nests at h
        rw [hscopes] at h
        exact (List.cons.inj h).2

/-- So do several acts. -/
lemma Nests.perform (h : s.Nests found stages) (acts : List Act) :
    (s.perform acts).session.Nests found (acts.foldl nest stages) := by
  induction acts generalizing s stages with
  | nil => exact h
  | cons a acts ih => exact ih (h.act a)

/-! ## Run ids -/

/-- Closing a stage leaves the run id alone, as opening one does. -/
lemma runId_step_exit (s : Session) (fresh : String) :
    (s.step fresh .exit).2.context.runId = s.context.runId := by
  unfold step
  rcases s.scopes with _ | ⟨scope, scopes⟩ <;> rfl

lemma runId_act (s : Session) (a : Act) :
    (s.act a).session.context.runId = (s.act a).ids.getLast?.getD s.context.runId := by
  cases a with
  | note entry => rfl
  | operate operation fresh =>
    cases operation with
    | setRunId value => rfl
    | enter name => rfl
    | exit =>
      have hids : (s.act (.operate .exit fresh)).ids = [] := by
        unfold act step
        rcases s.scopes with _ | ⟨scope, scopes⟩ <;> rfl
      rw [hids]
      exact s.runId_step_exit fresh

/-- The run id is the one that was returned last. -/
lemma runId_perform (s : Session) (acts : List Act) :
    (s.perform acts).session.context.runId =
      (s.perform acts).ids.getLast?.getD s.context.runId := by
  induction acts generalizing s with
  | nil => rfl
  | cons a acts ih =>
    rw [perform_cons]
    unfold Performance.andThen
    dsimp only
    rw [ih, runId_act, List.getLast?_append, Option.getD_or]

/-- **What a session shows are the innermost open stage and the last run id**, or else what was found
at the start. -/
theorem context_perform (context : Context) (acts : List Act) :
    (perform { context } acts).session.context =
      ⟨(perform { context } acts).ids.getLast?.getD context.runId,
        (openStages acts).headD context.stage⟩ := by
  have hrunId := runId_perform { context } acts
  have hstage := ((nests_start context).perform acts).stage_eq
  unfold openStages
  rw [← hstage, ← hrunId]

/-- An entry is recorded in the context that it is logged in. -/
lemma records_perform_note (s : Session) (acts : List Act) (entry : Entry) :
    (s.perform (acts ++ [.note entry])).records =
      (s.perform acts).records ++ [⟨(s.perform acts).session.context, entry⟩] := by
  rw [perform_append]
  rfl

end Session

/-! ## Scripts -/

/-- What makes code leave the stages it is in. -/
inductive Raised where
  /-- A failure, after which code may go on. -/
  | failure
  /-- Anything else. -/
  | fault
  deriving DecidableEq

/-- Code that logs, in stages. -/
inductive Script where
  | nothing
  | setRunId (value : Option String) (fresh : String)
  | note (entry : Entry)
  | raise (raised : Raised)
  | andThen (first rest : Script)
  /-- The stage is closed behind its body, however this ends. -/
  | within (stage : String) (body : Script)
  /-- Goes on with the handler if the body fails. -/
  | attempt (body handler : Script)

namespace Script

/-- How a script ends, unless it comes to its end. -/
def raised : Script → Option Raised
  | raise raised => some raised
  | andThen first rest => first.raised.or rest.raised
  | within _ body => body.raised
  | attempt body handler =>
    if body.raised = some .failure then handler.raised else body.raised
  | _ => none

/-- The acts that come of a script. -/
def acts : Script → List Act
  | nothing => []
  | setRunId value fresh => [.operate (.setRunId value) fresh]
  | note entry => [.note entry]
  | raise _ => []
  | andThen first rest => if first.raised.isSome then first.acts else first.acts ++ rest.acts
  | within stage body =>
    .operate (.enter stage) unset :: (body.acts ++ [.operate .exit unset])
  | attempt body handler =>
    if body.raised = some .failure then body.acts ++ handler.acts else body.acts

/-- What a script gives in a session. -/
def play (script : Script) (s : Session) : Performance := s.perform script.acts

variable {s : Session} {first rest body handler : Script}

lemma play_andThen_of_raised (h : first.raised.isSome = true) (rest : Script) (s : Session) :
    (first.andThen rest).play s = first.play s := by
  unfold play
  rw [acts, if_pos h]

lemma play_andThen (h : ¬ first.raised.isSome = true) (rest : Script) (s : Session) :
    (first.andThen rest).play s = (first.play s).andThen rest.play := by
  unfold play
  rw [acts, if_neg h, Session.perform_append]

lemma play_attempt_of_failed (h : body.raised = some .failure) (s : Session) :
    (body.attempt handler).play s = (body.play s).andThen handler.play := by
  unfold play
  rw [acts, if_pos h, Session.perform_append]

lemma play_attempt (h : ¬ body.raised = some .failure) (s : Session) :
    (body.attempt handler).play s = body.play s := by
  unfold play
  rw [acts, if_neg h]

/-- A stage is opened, then the body is played, and then the stage is closed. -/
lemma play_within (name : String) (body : Script) (s : Session) :
    (body.within name).play s =
      ((s.act (.operate (.enter name) unset)).andThen body.play).andThen
        fun s => s.act (.operate .exit unset) := by
  unfold play
  rw [acts, Session.perform_cons]
  unfold Performance.andThen
  simp only [Session.perform_append, Performance.andThen, Session.perform, List.append_assoc,
    List.append_nil]

/-- **A script leaves the stages as it found them**, also where it fails: no more than the run id is
changed. -/
theorem restores (script : Script) (s : Session) :
    ∃ runId, (script.play s).session = { s with context := { s.context with runId } } := by
  induction script generalizing s with
  | nothing => exact ⟨_, rfl⟩
  | setRunId value fresh => exact ⟨_, rfl⟩
  | note entry => exact ⟨_, rfl⟩
  | raise raised => exact ⟨_, rfl⟩
  | andThen first rest hfirst hrest =>
    by_cases h : first.raised.isSome = true
    · rw [play_andThen_of_raised h]
      exact hfirst s
    · rw [play_andThen h]
      obtain ⟨id, hid⟩ := hfirst s
      unfold Performance.andThen
      rw [hid]
      exact hrest _
  | within name body hbody =>
    -- the scope that is open around the body remembers the stage
    obtain ⟨id, hid⟩ := hbody (s.act (.operate (.enter name) unset)).session
    rw [play_within]
    unfold Performance.andThen
    dsimp only
    rw [hid]
    exact ⟨id, rfl⟩
  | attempt body handler hbody hhandler =>
    by_cases h : body.raised = some .failure
    · rw [play_attempt_of_failed h]
      obtain ⟨id, hid⟩ := hbody s
      unfold Performance.andThen
      rw [hid]
      exact hhandler _
    · rw [play_attempt h]
      exact hbody s

example (entry : Entry) :
    ((attempt (within "scan" (within "scan" (andThen (note entry) (raise .failure))))
      (note entry)).play {}).records = [⟨⟨"-", "scan"⟩, entry⟩, ⟨⟨"-", "-"⟩, entry⟩] := rfl

/-! ## Logging -/

/-- Logs entries, one after another, and then comes to its end, or fails. -/
def logging (entries : List Entry) (raised : Option Raised) : Script :=
  entries.foldr (fun entry rest => .andThen (.note entry) rest) (raised.elim .nothing .raise)

lemma raised_logging (entries : List Entry) (raised : Option Raised) :
    (logging entries raised).raised = raised := by
  induction entries with
  | nil => cases raised <;> rfl
  | cons entry entries ih => exact ih

lemma play_logging (entries : List Entry) (raised : Option Raised) (s : Session) :
    (logging entries raised).play s =
      { session := s, records := entries.map fun entry => ⟨s.context, entry⟩ } := by
  induction entries with
  | nil => cases raised <;> rfl
  | cons entry entries ih =>
    have hcons : logging (entry :: entries) raised =
        .andThen (.note entry) (logging entries raised) := rfl
    have hnote : (note entry).play s = { session := s, records := [⟨s.context, entry⟩] } := rfl
    have hgoes : ¬ (note entry).raised.isSome = true := Bool.false_ne_true
    rw [hcons, play_andThen hgoes, hnote]
    unfold Performance.andThen
    rw [ih]
    rfl

end Script

end RoleAudit.Log
