import Mathlib.Data.List.Basic
import RoleAudit.Log.Setup

/-!
# Configuring the log again

A handler is ready for the audit if it writes in the audit's format and has a filter that supplies the
run and the stage. The format alone is worse than nothing: the handler then loses every line. However
often the log is configured, all handlers are ready afterwards, each as if it had been configured once.

* `Handler.IsReady`: the format, and what it asks for.
* `Handler.prepare`: what configuring does to a handler; `Handler.IsReady.prepare` says that a ready
  one stays as it is.
* `Setup.handlers_configureAll`: all configuring but the first leaves the handlers alone.
* `deliver_of_isReady`: what ready handlers make of a message.
* `Setup.configureAll_spec`: what the handlers are, and what they write, after any configuring.
-/

namespace RoleAudit.Log

/-! ## Messages on their way -/

section Sieve

variable {fs : List Filter} {current : Context} {m : Message}

lemma Filter.entry_supply (f : Filter) (current : Context) (m : Message) :
    (f.supply current m).entry = m.entry := by cases f <;> rfl

/-- What was supplied stays. -/
lemma Filter.context?_supply (f : Filter) (h : m.context? = some current) :
    (f.supply current m).context? = some current := by
  cases f with
  | context => rfl
  | other lets => exact h

lemma entry_sieve (current : Context) (fs : List Filter) (m : Message) :
    (sieve current fs m).2.entry = m.entry := by
  induction fs generalizing m with
  | nil => rfl
  | cons f fs ih =>
    rw [sieve]
    split
    · rw [ih, f.entry_supply]
    · rfl

/-- A message comes through if every filter lets it. -/
lemma passed_sieve (current : Context) (fs : List Filter) (m : Message) :
    (sieve current fs m).1 = fs.all fun f => f.lets m.entry := by
  induction fs generalizing m with
  | nil => rfl
  | cons f fs ih =>
    rw [sieve, List.all_cons]
    split
    · next h => rw [ih, f.entry_supply, h, Bool.true_and]
    · next h => rw [Bool.eq_false_iff.2 h, Bool.false_and]

lemma context?_sieve (h : m.context? = some current) :
    (sieve current fs m).2.context? = some current := by
  induction fs generalizing m with
  | nil => exact h
  | cons f fs ih =>
    rw [sieve]
    split
    · exact ih (f.context?_supply h)
    · exact h

/-- **A message that comes through has its run and its stage**, if a filter is there that supplies
them. -/
lemma context?_sieve_of_any (hany : fs.any Filter.isContext = true)
    (hpassed : (sieve current fs m).1 = true) :
    (sieve current fs m).2.context? = some current := by
  induction fs generalizing m with
  | nil => cases hany
  | cons f fs ih =>
    rw [sieve] at hpassed ⊢
    split at hpassed
    · next h =>
      rw [if_pos h]
      cases f with
      | context => exact context?_sieve rfl
      | other lets => exact ih hany hpassed
    · cases hpassed

end Sieve

/-! ## Handlers that are ready -/

namespace Handler

variable {h : Handler} {current : Context} {m : Message}

/-- The handler writes in the audit's format, and what the format asks for is supplied. -/
structure IsReady (h : Handler) : Prop where
  formatted : h.formatted = true
  supplied : h.screens.any Filter.isContext = true

/-- The handler writes an entry: the entry is grave enough for it, and no filter holds it back. -/
def admits (h : Handler) (e : Entry) : Bool :=
  e.level.passes h.level && h.screens.all fun f => f.lets e

/-- The handler has no level of its own, and no filter that holds anything back. -/
structure IsOpen (h : Handler) : Prop where
  level : h.level = .unset
  screens : ∀ f ∈ h.screens, f.isContext = true

/-- An open handler writes whatever has a level. -/
lemma IsOpen.admits (hopen : h.IsOpen) {e : Entry} (he : Level.unset.weight < e.level.weight) :
    h.admits e = true := by
  have hlevel : e.level.passes h.level = true := by
    rw [hopen.level]
    exact decide_eq_true (Int.le_of_lt he)
  have hscreens : (h.screens.all fun f => f.lets e) = true := by
    refine List.all_eq_true.2 fun f hf => ?_
    cases f with
    | context => rfl
    | other lets => exact absurd (hopen.screens _ hf) Bool.false_ne_true
  rw [Handler.admits, hlevel, hscreens, Bool.and_self]

lemma entry_take (current : Context) (h : Handler) (m : Message) :
    (h.take current m).2.entry = m.entry := by
  unfold take
  split
  · exact entry_sieve current h.screens m
  · rfl

/-- A ready handler writes the line of a message, and loses none. -/
lemma IsReady.take (hready : h.IsReady) (current : Context) (m : Message) :
    (h.take current m).1 =
      if h.admits m.entry then .written (current.line m.entry) else .skipped := by
  unfold Handler.take admits
  by_cases hlevel : m.entry.level.passes h.level = true
  · rw [if_pos hlevel, hlevel, Bool.true_and, ← passed_sieve current]
    dsimp only
    by_cases hpassed : (sieve current h.screens m).1 = true
    · rw [if_pos hpassed, if_pos hpassed, write, if_pos hready.formatted,
        context?_sieve_of_any hready.supplied hpassed, entry_sieve]
    · rw [if_neg hpassed, if_neg hpassed]
  · rw [if_neg hlevel, Bool.eq_false_iff.2 hlevel, Bool.false_and, if_neg Bool.false_ne_true]

/-! ## Configuring one handler -/

/-- What configuring does to a handler. -/
def prepare (h : Handler) : Handler := h.format.ensureFilter

lemma screens_prepare (h : Handler) :
    h.prepare.screens =
      if h.screens.any Filter.isContext then h.screens else h.screens ++ [.context] := by
  unfold prepare ensureFilter format
  split <;> rfl

lemma isReady_prepare (h : Handler) : h.prepare.IsReady where
  formatted := by
    unfold prepare ensureFilter format
    split <;> rfl
  supplied := by
    rw [screens_prepare]
    split
    · assumption
    · rw [List.any_append]
      exact Bool.or_true _

/-- A ready handler stays as it is. -/
lemma IsReady.prepare (hready : h.IsReady) : h.prepare = h := by
  have hformat : h.format = h := by
    unfold format
    rw [← hready.formatted]
  rw [Handler.prepare, hformat, ensureFilter, if_pos hready.supplied]

lemma prepare_prepare (h : Handler) : h.prepare.prepare = h.prepare := h.isReady_prepare.prepare

/-- Of the filters that supply the run and the stage, a handler has one afterwards, if it had no more
than one. -/
lemma filters_prepare (hone : h.filters ≤ 1) : h.prepare.filters = 1 := by
  unfold filters at hone ⊢
  rw [screens_prepare]
  split
  · next hany =>
    have hpos : 0 < h.screens.countP Filter.isContext :=
      List.countP_pos_iff.2 (List.any_eq_true.1 hany)
    omega
  · next hnone =>
    have hzero : h.screens.countP Filter.isContext = 0 := by
      refine List.countP_eq_zero.2 fun f hf hcontext => ?_
      exact hnone (List.any_eq_true.2 ⟨f, hf, hcontext⟩)
    rw [List.countP_append, hzero]
    rfl

end Handler

/-- **Ready handlers write a message that they admit, with its run and its stage**, whatever handlers
come before. -/
theorem deliver_of_isReady {hs : List Handler} (hready : ∀ h ∈ hs, h.IsReady) (current : Context)
    (m : Message) :
    deliver current hs m =
      hs.map fun h => if h.admits m.entry then .written (current.line m.entry) else .skipped := by
  induction hs generalizing m with
  | nil => rfl
  | cons h hs ih =>
    obtain ⟨hfirst, hmore⟩ := List.forall_mem_cons.1 hready
    rw [deliver, List.map_cons, ← hfirst.take current m]
    dsimp only
    rw [ih hmore, h.entry_take]

/-- Ready handlers lose nothing. -/
lemma lost_not_mem_deliver {hs : List Handler} (hready : ∀ h ∈ hs, h.IsReady) (current : Context)
    (m : Message) : Outcome.lost ∉ deliver current hs m := by
  rw [deliver_of_isReady hready, List.mem_map]
  rintro ⟨h, -, hlost⟩
  split at hlost <;> cases hlost

-- the format without the filter is not enough, unless a handler in front has the filter
example (current : Context) (e : Entry) (he : e.level = .info) :
    deliver current [{ formatted := true }, { screens := [.context] }, { formatted := true }]
      { entry := e } = [.lost, .written e.text, .written (current.line e)] := by
  obtain ⟨level, source, text⟩ := e
  cases he
  rfl

/-! ## Configuring the root logger -/

namespace Setup

variable {setup : Setup}

/-- The handlers of a root logger, or the one that it is given if it has none. -/
def places (setup : Setup) : List Handler :=
  match setup.handlers with
  | [] => [{}]
  | handlers => handlers

lemma places_of_ne_nil (h : setup.handlers ≠ []) : setup.places = setup.handlers := by
  unfold places
  split
  · contradiction
  · rfl

lemma length_places (setup : Setup) : setup.places.length = max 1 setup.handlers.length := by
  unfold places
  rcases setup.handlers with _ | ⟨h, hs⟩
  · rfl
  · exact (Nat.max_eq_right (Nat.succ_le_succ (Nat.zero_le hs.length))).symm

/-- With handlers and without, configuring prepares each handler that is there afterwards. -/
lemma handlers_configure (setup : Setup) (level : Level) :
    (setup.configure level).handlers = setup.places.map Handler.prepare := by
  unfold configure places
  rcases setup.handlers with _ | ⟨h, hs⟩
  · rfl
  · exact List.map_map

lemma places_configure (setup : Setup) (level : Level) :
    (setup.configure level).places = setup.places.map Handler.prepare := by
  have hne : (setup.configure level).handlers ≠ [] := by
    rw [handlers_configure, ← List.length_pos_iff, List.length_map, length_places]
    exact Nat.le_max_left 1 _
  rw [places_of_ne_nil hne, handlers_configure]

/-- **All configuring but the first leaves the handlers alone.** -/
theorem handlers_configureAll (setup : Setup) (levels : List Level) (last : Level) :
    (setup.configureAll (levels ++ [last])).handlers = setup.places.map Handler.prepare := by
  induction levels generalizing setup with
  | nil => exact handlers_configure setup last
  | cons level levels ih =>
    have hagain : Handler.prepare ∘ Handler.prepare = Handler.prepare :=
      funext Handler.prepare_prepare
    calc (setup.configureAll (level :: levels ++ [last])).handlers
        = ((setup.configure level).configureAll (levels ++ [last])).handlers := rfl
      _ = (setup.configure level).places.map Handler.prepare := ih _
      _ = setup.places.map Handler.prepare := by rw [places_configure, List.map_map, hagain]

lemma level_configureAll (setup : Setup) (levels : List Level) (last : Level) :
    (setup.configureAll (levels ++ [last])).level = last := by
  unfold configureAll
  rw [List.foldl_append]
  rfl

/-- What ready handlers write: the lines of what is heard and what they admit, in order. -/
lemma streams_of_isReady (hready : ∀ h ∈ setup.handlers, h.IsReady) (rs : List Record) :
    setup.streams rs = setup.handlers.map fun h =>
      (rs.filter fun r => setup.hears r.entry.level && h.admits r.entry).map Record.line := by
  induction rs with
  | nil => rfl
  | cons r rs ih =>
    have hlog : setup.log r = setup.handlers.map fun h =>
        if setup.hears r.entry.level && h.admits r.entry then .written r.line else .skipped := by
      unfold log
      by_cases hheard : setup.hears r.entry.level = true
      · rw [if_pos hheard, deliver_of_isReady hready, hheard]
        rfl
      · rw [if_neg hheard, Bool.eq_false_iff.2 hheard]
        rfl
    rw [streams, ih, hlog, List.zipWith_map, List.zipWith_self]
    refine List.map_congr_left fun h _ => ?_
    rw [List.filter_cons]
    split <;> rfl

/-- **What comes of configuring the log, however often.** The root logger has the last level, and the
handlers it had, or one if it had none. Each of them writes in the audit's format, and has one filter
that supplies the run and the stage, if it had no more than one before. Of all that is logged then,
each handler writes the lines of what is grave enough for the root logger and of what the handler
itself admits, each of them once and in order, with the run and the stage that it was logged in; and
a handler that has no level and holds nothing back admits all. No message, from wherever it comes to
the handlers, is written without its run and its stage. -/
theorem configureAll_spec (setup : Setup) (levels : List Level) (last : Level)
    (hone : ∀ h ∈ setup.handlers, h.filters ≤ 1) :
    let after := setup.configureAll (levels ++ [last])
    after.level = last ∧
      after.handlers.length = max 1 setup.handlers.length ∧
      (∀ h ∈ after.handlers, h.formatted = true ∧ h.filters = 1) ∧
      (∀ rs : List Record, after.streams rs = after.handlers.map fun h =>
        (rs.filter fun r => after.hears r.entry.level && h.admits r.entry).map Record.line) ∧
      (∀ h ∈ after.handlers, h.IsOpen → ∀ e : Entry, after.hears e.level = true →
        h.admits e = true) ∧
      ∀ current m, Outcome.lost ∉ deliver current after.handlers m := by
  intro after
  have hhandlers : after.handlers = setup.places.map Handler.prepare :=
    handlers_configureAll setup levels last
  have hready : ∀ h ∈ after.handlers, h.IsReady := by
    rw [hhandlers, List.forall_mem_map]
    exact fun h _ => h.isReady_prepare
  have hfilters : ∀ h ∈ after.handlers, h.filters = 1 := by
    rw [hhandlers, List.forall_mem_map]
    intro h hh
    refine Handler.filters_prepare ?_
    unfold places at hh
    split at hh
    · rw [List.mem_singleton.1 hh]
      exact Nat.zero_le 1
    · exact hone h hh
  refine ⟨level_configureAll setup levels last, ?_, ?_, streams_of_isReady hready, ?_,
    lost_not_mem_deliver hready⟩
  · rw [hhandlers, List.length_map, length_places]
  · exact fun h hh => ⟨(hready h hh).formatted, hfilters h hh⟩
  · intro h _ hopen e he
    exact hopen.admits (of_decide_eq_true (Bool.and_eq_true_iff.1 he).1)

/-- A root logger with a handler for errors, and with one that is ready. -/
def mixed : Setup where
  handlers := [{ level := .error }, { formatted := true, screens := [.context] }]

/-- An entry that no error is reaches one of them. -/
theorem configureAll_spec_mixed :
    (∀ h ∈ mixed.handlers, h.filters ≤ 1) ∧
      (mixed.configureAll ([.critical, .debug] ++ [.info])).level = .info ∧
      (mixed.configureAll ([.critical, .debug] ++ [.info])).handlers.length = 2 ∧
      (∀ h ∈ (mixed.configureAll ([.critical, .debug] ++ [.info])).handlers,
        h.formatted = true ∧ h.filters = 1) ∧
      (mixed.configureAll ([.critical, .debug] ++ [.info])).streams
          [⟨⟨"r1", "scan"⟩, ⟨.debug, "walker", "Entering"⟩⟩, ⟨⟨"r1", "-"⟩, ⟨.info, "walker", "Left"⟩⟩] =
        [[], ["INFO | run_id=r1 | stage=- | walker | Left"]] := by
  have hone : ∀ h ∈ mixed.handlers, h.filters ≤ 1 := by decide
  obtain ⟨hlevel, hlength, hready, hstreams, -, -⟩ :=
    configureAll_spec mixed [.critical, .debug] .info hone
  exact ⟨hone, hlevel, hlength, hready, (hstreams _).trans (by decide)⟩

end Setup

end RoleAudit.Log
