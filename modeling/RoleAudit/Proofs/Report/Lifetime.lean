import RoleAudit.Proofs.Report.Making
import RoleAudit.Proofs.Text.Bytes

/-!
# The life of a sink

A sink may be opened, written to and closed in any order and any number of times, and every one of
these actions may fail. Others may use the disk meanwhile, if they leave the report alone. A **ledger**
is kept from outside, by what was done and how it ended: it knows whether the sink is open, which rows
were written since, and how many were written ever. The sink, the file and the ledger stay in step.

* `Sink.Life`: what can happen to a sink from its making on.
* `Sink.Agrees.perform`: one action keeps sink, disk and ledger in step.
* `Sink.Life.spec`: how a sink stands at any time, and what each action does then.

A block that opens a sink and closes it again whatever happens inside is an opening, actions, and a
closing. Rows that come from somewhere which fails are the rows up to there.
-/

namespace RoleAudit.Report

open RoleAudit.Files RoleAudit.Text

namespace Sink

/-! ## What can happen -/

/-- What is done with a sink. -/
inductive Action where
  | openUp
  | writeRow (row : Row)
  | writeRows (rows : List Row)
  | close

/-- Does something with a sink. The error is the one that was raised. -/
def perform (s : Sink) (d : Disk) : Action → Sink × Disk × Option SinkError
  | .openUp => ((s.openUp d).sink, (s.openUp d).disk, (s.openUp d).error)
  | .writeRow r =>
    match s.writeRow r d with
    | .ok (s, d) => (s, d, none)
    | .error e => (s, d, some e)
  | .writeRows rows => s.writeRows rows d
  | .close => ((s.close d).sink, (s.close d).disk, (s.close d).error)

section

variable {s s' : Sink} {d d' : Disk} {r : Row}

lemma perform_writeRow_of_ok (h : s.writeRow r d = .ok (s', d')) :
    s.perform d (.writeRow r) = (s', d', none) := by
  unfold perform
  simp only [h]

lemma perform_writeRow_of_error {error : SinkError} (h : s.writeRow r d = .error error) :
    s.perform d (.writeRow r) = (s, d, some error) := by
  unfold perform
  simp only [h]

lemma writeRows_cons_of_error {error : SinkError} (h : s.writeRow r d = .error error)
    (rows : List Row) : s.writeRows (r :: rows) d = (s, d, some error) := by
  unfold writeRows
  rw [h]

end

/-- What was done, and the error with which it ended. -/
structure Deed where
  action : Action
  error : Option SinkError

/-- Others leave alone where a path leads, and what is in the file there. -/
def Spared (path : String) (d d' : Disk) : Prop :=
  ∀ n, d.locate path = .ok (.node n) → d'.locate path = .ok (.node n) ∧ d'.node? n = d.node? n

/-- **The life of a sink**, with what was done, in order. A sink that is open is not opened. -/
inductive Life (path : String) (e : Encoding) : List Deed → Sink → Disk → Prop
  | fresh (d : Disk) : Life path e [] { path, encoding := e.name } d
  | done {deeds : List Deed} {s : Sink} {d : Disk} (before : Life path e deeds s d)
    (action : Action) (allowed : action = .openUp → s.closed = true) :
    Life path e (deeds ++ [⟨action, (s.perform d action).2.2⟩]) (s.perform d action).1
      (s.perform d action).2.1
  | others {deeds : List Deed} {s : Sink} {d d' : Disk} (before : Life path e deeds s d)
    (spared : Spared path d d') : Life path e deeds s d'

/-! ## What is known from outside -/

/-- What is known of a sink from what was done. -/
structure Ledger where
  /-- The rows that were written since the sink was opened, unless it is closed. -/
  span : Option (List Row) := none
  /-- How many rows were written ever. -/
  total : Nat := 0

namespace Ledger

/-- Rows were written. -/
def add (l : Ledger) (rows : List Row) : Ledger where
  span := l.span.map (· ++ rows)
  total := l.total + rows.length

/-- Something was done. Rows of which one has no bytes are written as far as the ones before it. -/
def enter (e : Encoding) (l : Ledger) (deed : Deed) : Ledger :=
  match deed.action, deed.error with
  | .openUp, none => { l with span := some [] }
  | .openUp, some _ => l
  | .writeRow r, none => l.add [r]
  | .writeRow _, some _ => l
  | .writeRows rows, none => l.add rows
  | .writeRows rows, some (.unencodable _) => l.add (rows.takeWhile fun r => e.Covers r.line)
  | .writeRows _, some _ => l
  | .close, _ => { l with span := none }

/-- What is known after several things were done. -/
def ofDeeds (e : Encoding) (deeds : List Deed) : Ledger := deeds.foldl (enter e) {}

lemma ofDeeds_concat (e : Encoding) (deeds : List Deed) (deed : Deed) :
    ofDeeds e (deeds ++ [deed]) = (ofDeeds e deeds).enter e deed := by
  unfold ofDeeds
  rw [List.foldl_append]
  rfl

@[simp] lemma add_nil (l : Ledger) : l.add [] = l := by
  unfold add
  simp

@[simp] lemma add_add (l : Ledger) (rows more : List Row) :
    (l.add rows).add more = l.add (rows ++ more) := by
  unfold add
  simp [Function.comp_def, Nat.add_assoc]

end Ledger

/-- The bytes of a report with some rows: those of the header, and those of a line for each row. -/
def reportBytes (e : Encoding) (rows : List Row) : List UInt8 :=
  e.bytes reportHeader ++ rows.flatMap fun r => e.bytes r.line

lemma reportBytes_concat (e : Encoding) (rows : List Row) (r : Row) :
    reportBytes e (rows ++ [r]) = reportBytes e rows ++ e.bytes r.line := by
  unfold reportBytes
  rw [List.flatMap_append, List.flatMap_singleton, List.append_assoc]

lemma covers_reportHeader (e : Encoding) : e.Covers reportHeader := by cases e <;> decide

/-! ## In step -/

/-- The sink and the disk are as the ledger says: the sink has counted the rows, and if it is open, the
file that its path leads to will hold the header and the rows of the span. -/
structure Agrees (path : String) (e : Encoding) (l : Ledger) (s : Sink) (d : Disk) : Prop where
  file : s.path = path
  encoding : s.encoding = e.name
  total : s.rowsWritten = l.total
  shut : l.span = none → s.writer = none
  opened : ∀ rows, l.span = some rows → ∃ w, s.writer = some w ∧
    d.locate path = .ok (.node w.node) ∧ w.Holds d (reportBytes e rows)

namespace Agrees

variable {path : String} {e : Encoding} {l : Ledger} {s : Sink} {d : Disk}

lemma writer_eq_none_iff (h : Agrees path e l s d) : s.writer = none ↔ l.span = none := by
  refine ⟨fun hclosed => ?_, h.shut⟩
  rcases hspan : l.span with _ | rows
  · rfl
  · obtain ⟨w, hw, -⟩ := h.opened rows hspan
    rw [hclosed] at hw
    cases hw

lemma closed_iff (h : Agrees path e l s d) : s.closed = true ↔ l.span = none := by
  unfold closed
  rw [Option.isNone_iff_eq_none, h.writer_eq_none_iff]

/-- What others do to the disk matters to nothing, if they leave the report alone. -/
lemma spared (h : Agrees path e l s d) {d' : Disk} (hspared : Spared path d d') :
    Agrees path e l s d' where
  file := h.file
  encoding := h.encoding
  total := h.total
  shut := h.shut
  opened := by
    intro rows hspan
    obtain ⟨w, hw, hpath, landed, hlanded, htext⟩ := h.opened rows hspan
    obtain ⟨hpath', hfile⟩ := hspared w.node hpath
    exact ⟨w, hw, hpath', landed, ⟨hfile.trans hlanded.file, hlanded.offset⟩, htext⟩

/-! ### Rows -/

/-- A closed sink takes no row. -/
lemma writeRow_of_shut (h : Agrees path e l s d) (hspan : l.span = none) (r : Row) :
    s.writeRow r d = .error .notOpen := by
  unfold Sink.writeRow
  rw [h.shut hspan]

/-- A row without bytes is refused. -/
lemma writeRow_of_unencodable (h : Agrees path e l s d) {rows : List Row}
    (hspan : l.span = some rows) {r : Row} {error : EncodingError}
    (hr : e.encode r.line = .error error) : s.writeRow r d = .error (.unencodable error) := by
  obtain ⟨w, hw, -⟩ := h.opened rows hspan
  unfold Sink.writeRow
  rw [hw, h.encoding, Encoding.ofName?_name]
  simp only [hr]

/-- A row that has bytes is written. -/
lemma writeRow_of_covers (h : Agrees path e l s d) {rows : List Row} (hspan : l.span = some rows)
    {r : Row} (hr : e.Covers r.line) :
    ∃ s' d', s.writeRow r d = .ok (s', d') ∧ Agrees path e (l.add [r]) s' d' := by
  obtain ⟨w, hw, hpath, hholds⟩ := h.opened rows hspan
  have hwritten := Writer.writtenAt_write w (e.bytes r.line) d
  have hnode := Writer.node_write w (e.bytes r.line) d
  refine ⟨{ s with
    writer := some (w.write (e.bytes r.line) d).1
    rowsWritten := s.rowsWritten + 1 }, (w.write (e.bytes r.line) d).2, ?_, ?_⟩
  · unfold Sink.writeRow
    rw [hw, h.encoding, Encoding.ofName?_name]
    simp only [Encoding.encode_of_covers hr]
  · refine ⟨h.file, h.encoding, ?_, ?_, ?_⟩
    · exact congrArg (· + 1) h.total
    · intro hno
      unfold Ledger.add at hno
      rw [hspan] at hno
      cases hno
    · intro rows' hrows'
      unfold Ledger.add at hrows'
      rw [hspan] at hrows'
      cases hrows'
      refine ⟨_, rfl, ?_, ?_⟩
      · rw [hnode, ← hwritten.locate_eq]
        exact hpath
      · rw [reportBytes_concat]
        exact hholds.write _

/-- Rows that have bytes are written. -/
lemma writeRows_of_covers (h : Agrees path e l s d) {rows : List Row} (hspan : l.span = some rows)
    {more : List Row} (hmore : ∀ r ∈ more, e.Covers r.line) :
    ∃ s' d', s.writeRows more d = (s', d', none) ∧ Agrees path e (l.add more) s' d' := by
  induction more generalizing l s d rows with
  | nil =>
    rw [Ledger.add_nil]
    exact ⟨s, d, rfl, h⟩
  | cons r more ih =>
    obtain ⟨hr, hmore⟩ := List.forall_mem_cons.1 hmore
    obtain ⟨s₁, d₁, hrow, h₁⟩ := h.writeRow_of_covers hspan hr
    have hspan₁ : (l.add [r]).span = some (rows ++ [r]) := by
      unfold Ledger.add
      rw [hspan]
      rfl
    obtain ⟨s₂, d₂, hrows, h₂⟩ := ih h₁ hspan₁ hmore
    rw [Ledger.add_add] at h₂
    exact ⟨s₂, d₂, (writeRows_cons hrow more).trans hrows, h₂⟩

/-- **Rows are written up to the first that has no bytes.** -/
lemma writeRows_of_unencodable (h : Agrees path e l s d) {rows : List Row}
    (hspan : l.span = some rows) {kept : List Row} (hkept : ∀ r ∈ kept, e.Covers r.line) {r : Row}
    (hr : ¬ e.Covers r.line) (rest : List Row) :
    ∃ s' d' error, s.writeRows kept d = (s', d', none) ∧ e.encode r.line = .error error ∧
      s.writeRows (kept ++ r :: rest) d = (s', d', some (.unencodable error)) ∧
      Agrees path e (l.add kept) s' d' := by
  obtain ⟨s', d', hwritten, h'⟩ := h.writeRows_of_covers hspan hkept
  obtain ⟨error, herror⟩ := Encoding.exists_encode_eq_error hr
  have hspan' : (l.add kept).span = some (rows ++ kept) := by
    unfold Ledger.add
    rw [hspan]
    rfl
  refine ⟨s', d', error, hwritten, herror, ?_, h'⟩
  rw [writeRows_append hwritten]
  exact writeRows_cons_of_error (h'.writeRow_of_unencodable hspan' herror) rest

/-! ### Opening and closing -/

/-- A closed sink that is opened starts a file with the header. -/
lemma openUp_of_makeFile (h : Agrees path e l s d) (hspan : l.span = none) {n : Nat} {d' : Disk}
    (hmade : makeFile s.path d = (.ok n, d')) :
    (s.openUp d).error = none ∧
      Agrees path e { l with span := some [] } (s.openUp d).sink (s.openUp d).disk := by
  have hencode := Encoding.encode_of_covers (covers_reportHeader e)
  obtain ⟨hpath, hfile⟩ := makeFile_spec hmade
  have hopened : s.openUp d =
      { sink := { s with
          writer := some (Writer.write ⟨n, 0, [], []⟩ (e.bytes reportHeader) d').1 }
        disk := (Writer.write ⟨n, 0, [], []⟩ (e.bytes reportHeader) d').2
        log := [sinkEntry .debug ("Opened report sink " ++ s.path)] } := by
    unfold openUp
    rw [hmade, h.encoding, Encoding.ofName?_name, h.shut hspan]
    simp only [flushed, hencode]
  have hwritten := Writer.writtenAt_write ⟨n, 0, [], []⟩ (e.bytes reportHeader) d'
  have hnode := Writer.node_write ⟨n, 0, [], []⟩ (e.bytes reportHeader) d'
  rw [hopened]
  refine ⟨rfl, h.file, h.encoding, h.total, fun hno => absurd hno (Option.some_ne_none _), ?_⟩
  rintro _ ⟨⟩
  refine ⟨_, rfl, ?_, ?_⟩
  · rw [hnode, ← hwritten.locate_eq, ← h.file]
    exact hpath
  · have hholds := (holds_new hfile).write (e.bytes reportHeader)
    unfold reportBytes
    rwa [List.flatMap_nil, List.append_nil]

/-- A sink that cannot be opened stays as it is. -/
lemma openUp_of_makeFile_error {fault : Fault} {d' : Disk}
    (hmade : makeFile s.path d = (.error fault, d')) :
    (s.openUp d).sink = s ∧ ∃ error, (s.openUp d).error = some error := by
  unfold openUp
  rw [hmade]
  cases fault with
  | nul => exact ⟨rfl, _, rfl⟩
  | refused refusal => exact ⟨rfl, _, rfl⟩

/-- **Closing leaves a file with the header and the rows of the span.** -/
lemma close_of_span (h : Agrees path e l s d) {rows : List Row} (hspan : l.span = some rows) :
    (s.close d).disk.read path = .ok (reportBytes e rows) := by
  obtain ⟨w, hw, hpath, hholds⟩ := h.opened rows hspan
  unfold Sink.close
  rw [hw]
  refine Disk.read_of_locate ?_ hholds.flush
  rw [← (Writer.writtenAt_flush w d).locate_eq]
  exact hpath

lemma close (h : Agrees path e l s d) :
    Agrees path e { l with span := none } (s.close d).sink (s.close d).disk ∧
      (s.close d).error = none := by
  unfold Sink.close
  rcases hw : s.writer with _ | w
  · exact ⟨⟨h.file, h.encoding, h.total, fun _ => hw, nofun⟩, rfl⟩
  · exact ⟨⟨h.file, h.encoding, h.total, fun _ => rfl, nofun⟩, rfl⟩

/-! ### One action -/

/-- What is on the disk matters to no closed sink. -/
lemma of_shut (h : Agrees path e l s d) (hspan : l.span = none) (d' : Disk) :
    Agrees path e l s d' := by
  refine ⟨h.file, h.encoding, h.total, h.shut, ?_⟩
  intro rows hrows
  rw [hspan] at hrows
  cases hrows

/-- A row is written, if the sink is open and there are bytes for it. -/
lemma perform_writeRow (h : Agrees path e l s d) (r : Row) :
    Agrees path e (l.enter e ⟨.writeRow r, (s.perform d (.writeRow r)).2.2⟩)
      (s.perform d (.writeRow r)).1 (s.perform d (.writeRow r)).2.1 := by
  rcases hspan : l.span with _ | rows
  · rw [perform_writeRow_of_error (h.writeRow_of_shut hspan r)]
    exact h
  by_cases hr : e.Covers r.line
  · obtain ⟨s', d', hwritten, h'⟩ := h.writeRow_of_covers hspan hr
    rw [perform_writeRow_of_ok hwritten]
    exact h'
  · obtain ⟨error, herror⟩ := Encoding.exists_encode_eq_error hr
    rw [perform_writeRow_of_error (h.writeRow_of_unencodable hspan herror)]
    exact h

/-- Rows are written, if the sink is open, as far as there are bytes for them. -/
lemma perform_writeRows (h : Agrees path e l s d) (rows : List Row) :
    Agrees path e (l.enter e ⟨.writeRows rows, (s.writeRows rows d).2.2⟩)
      (s.writeRows rows d).1 (s.writeRows rows d).2.1 := by
  rcases hspan : l.span with _ | before
  · rcases rows with _ | ⟨r, rows⟩
    · change Agrees path e (l.add []) s d
      rwa [Ledger.add_nil]
    · rw [writeRows_cons_of_error (h.writeRow_of_shut hspan r)]
      exact h
  -- the rows up to the first that has no bytes, if there is one
  have hsplit := List.takeWhile_append_dropWhile (p := fun r : Row => decide (e.Covers r.line))
    (l := rows)
  have hkept : ∀ r ∈ rows.takeWhile fun r => decide (e.Covers r.line), e.Covers r.line :=
    fun r hr => by simpa using List.mem_takeWhile_imp hr
  rcases hrest : rows.dropWhile fun r => decide (e.Covers r.line) with _ | ⟨r, rest⟩
  · rw [hrest, List.append_nil] at hsplit
    rw [hsplit] at hkept
    obtain ⟨s', d', hwritten, h'⟩ := h.writeRows_of_covers hspan hkept
    rw [hwritten]
    exact h'
  · have hr : ¬ e.Covers r.line := by
      have hfirst := List.head?_dropWhile_not (fun r => decide (e.Covers r.line)) rows
      rw [hrest] at hfirst
      simpa using hfirst
    obtain ⟨s', d', error, -, -, hstopped, h'⟩ := h.writeRows_of_unencodable hspan hkept hr rest
    rw [hrest] at hsplit
    rw [hsplit] at hstopped
    rw [hstopped]
    exact h'

/-- **One action keeps sink, disk and ledger in step.** -/
theorem perform (h : Agrees path e l s d) (action : Action)
    (allowed : action = .openUp → s.closed = true) :
    Agrees path e (l.enter e ⟨action, (s.perform d action).2.2⟩) (s.perform d action).1
      (s.perform d action).2.1 := by
  cases action with
  | openUp =>
    have hspan := h.closed_iff.1 (allowed rfl)
    unfold Sink.perform
    rcases hmade : makeFile s.path d with ⟨fault | n, d'⟩
    · obtain ⟨hsink, error, herror⟩ := openUp_of_makeFile_error hmade
      simp only [herror, hsink]
      exact h.of_shut hspan _
    · obtain ⟨herror, hopened⟩ := h.openUp_of_makeFile hspan hmade
      simp only [herror]
      exact hopened
  | writeRow r => exact h.perform_writeRow r
  | writeRows rows => exact h.perform_writeRows rows
  | close => exact h.close.1

end Agrees

/-! ## The whole life -/

variable {path : String} {e : Encoding} {deeds : List Deed} {s : Sink} {d : Disk}

/-- **Sink, disk and ledger are in step at any time.** -/
theorem Life.agrees (h : Life path e deeds s d) : Agrees path e (Ledger.ofDeeds e deeds) s d := by
  induction h with
  | fresh d => exact ⟨rfl, rfl, rfl, fun _ => rfl, nofun⟩
  | done before action allowed ih =>
    rw [Ledger.ofDeeds_concat]
    exact ih.perform action allowed
  | others before spared ih => exact ih.spared spared

/-- What a closed sink does: it takes no rows, closing it again does nothing, and if it cannot be opened
it stays as it is. -/
structure Refuses (s : Sink) (d : Disk) : Prop where
  writeRow : ∀ r, s.perform d (.writeRow r) = (s, d, some .notOpen)
  writeRows : ∀ r rows, s.perform d (.writeRows (r :: rows)) = (s, d, some .notOpen)
  close : s.perform d .close = (s, d, none)
  openUp : ∀ s' d' error, s.perform d .openUp = (s', d', some error) → s' = s

/-- What an open sink does: it takes rows that have bytes, one that has none changes nothing, and of
several rows those are taken that come before the first without bytes. Closed, it leaves a file with
the header and the rows of the span. -/
structure Accepts (path : String) (e : Encoding) (rows : List Row) (s : Sink) (d : Disk) : Prop where
  writeRow : ∀ r, e.Covers r.line → ∃ s' d', s.perform d (.writeRow r) = (s', d', none)
  refused : ∀ r, ¬ e.Covers r.line → ∃ error, e.encode r.line = .error error ∧
    s.perform d (.writeRow r) = (s, d, some (.unencodable error))
  writeRows : ∀ kept : List Row, (∀ r ∈ kept, e.Covers r.line) →
    ∃ s' d', s.perform d (.writeRows kept) = (s', d', none)
  stops : ∀ (kept : List Row) (r : Row) (rest : List Row), (∀ k ∈ kept, e.Covers k.line) →
    ¬ e.Covers r.line → ∃ s' d' error, s.perform d (.writeRows kept) = (s', d', none) ∧
      e.encode r.line = .error error ∧
      s.perform d (.writeRows (kept ++ r :: rest)) = (s', d', some (.unencodable error))
  close : ∃ s' d', s.perform d .close = (s', d', none) ∧ s'.closed = true ∧
    s'.rowsWritten = s.rowsWritten ∧ d'.read path = .ok (reportBytes e rows)

lemma Agrees.refuses {l : Ledger} (h : Agrees path e l s d) (hspan : l.span = none) :
    s.Refuses d where
  writeRow r := perform_writeRow_of_error (h.writeRow_of_shut hspan r)
  writeRows r rows := writeRows_cons_of_error (h.writeRow_of_shut hspan r) rows
  close := by
    have hclosed : s.close d = { sink := s, disk := d } := by
      unfold Sink.close
      rw [h.shut hspan]
    unfold Sink.perform
    simp only [hclosed]
  openUp s' d' error hfailed := by
    obtain ⟨hs', hrest⟩ := Prod.mk.inj hfailed
    obtain ⟨-, herror'⟩ := Prod.mk.inj hrest
    rcases hmade : makeFile s.path d with ⟨fault | n, _⟩
    · rw [← hs', (Agrees.openUp_of_makeFile_error hmade).1]
    · rw [(h.openUp_of_makeFile hspan hmade).1] at herror'
      cases herror'

lemma Agrees.accepts {l : Ledger} (h : Agrees path e l s d) {rows : List Row}
    (hspan : l.span = some rows) : Accepts path e rows s d where
  writeRow r hr := by
    obtain ⟨s', d', hwritten, -⟩ := h.writeRow_of_covers hspan hr
    exact ⟨s', d', perform_writeRow_of_ok hwritten⟩
  refused r hr := by
    obtain ⟨error, herror⟩ := Encoding.exists_encode_eq_error hr
    exact ⟨error, herror, perform_writeRow_of_error (h.writeRow_of_unencodable hspan herror)⟩
  writeRows kept hkept := by
    obtain ⟨s', d', hwritten, -⟩ := h.writeRows_of_covers hspan hkept
    exact ⟨s', d', hwritten⟩
  stops kept r rest hkept hr := by
    obtain ⟨s', d', error, hwritten, herror, hstopped, -⟩ :=
      h.writeRows_of_unencodable hspan hkept hr rest
    exact ⟨s', d', error, hwritten, herror, hstopped⟩
  close := by
    obtain ⟨hclosed, herror⟩ := h.close
    refine ⟨(s.close d).sink, (s.close d).disk, Prod.ext rfl (Prod.ext rfl herror),
      hclosed.closed_iff.2 rfl, ?_, h.close_of_span hspan⟩
    rw [hclosed.total, h.total]

/-- **How a sink stands at any time of its life.** It is closed just outside a span from an opening to
a closing, and has counted the rows that were written ever. Outside a span it refuses what is done,
and inside it accepts rows, which are the report's when it is closed. -/
theorem Life.spec (h : Life path e deeds s d) :
    (s.closed = true ↔ (Ledger.ofDeeds e deeds).span = none) ∧
      s.rowsWritten = (Ledger.ofDeeds e deeds).total ∧
      ((Ledger.ofDeeds e deeds).span = none → s.Refuses d) ∧
      ∀ rows, (Ledger.ofDeeds e deeds).span = some rows → Accepts path e rows s d :=
  ⟨h.agrees.closed_iff, h.agrees.total, h.agrees.refuses, fun _ => h.agrees.accepts⟩

/-- A row with letters that ASCII lacks. -/
def openingRow : Row := ⟨"Konto", "öffnen", "[Konto eröffnen]", "[admin]"⟩

/-- A row with a sign that Latin-1 lacks, too. -/
def euroRow : Row := ⟨"Konto", "*", "[€]", "[]"⟩

/-- A sink in Latin-1 is opened, takes a row and refuses another. It has counted one row, and when it is
closed, the file has that row. -/
theorem life_latin1 :
    ∃ deeds s d, Life "/audit.csv" .latin1 deeds s d ∧ s.closed = false ∧ s.rowsWritten = 1 ∧
      ∃ s' d', s.perform d .close = (s', d', none) ∧
        d'.read "/audit.csv" = .ok (reportBytes .latin1 [openingRow]) := by
  have hfresh : Life "/audit.csv" .latin1 [] { path := "/audit.csv", encoding := "latin-1" }
      (Disk.empty "/") := .fresh _
  have hopen := hfresh.agrees.openUp_of_makeFile rfl Order.makeFile_bare
  have hopened := hfresh.done .openUp fun _ => rfl
  unfold perform at hopened
  simp only [hopen.1] at hopened
  obtain ⟨s₁, d₁, hwritten⟩ := (hopened.agrees.accepts rfl).writeRow openingRow (by decide)
  have htaken := hopened.done (.writeRow openingRow) nofun
  rw [hwritten] at htaken
  obtain ⟨error, -, hrefused⟩ := (htaken.agrees.accepts rfl).refused euroRow (by decide)
  have hlife := htaken.done (.writeRow euroRow) nofun
  rw [hrefused] at hlife
  obtain ⟨hclosed, htotal, -, haccepts⟩ := hlife.spec
  obtain ⟨s', d', hclose, -, -, hread⟩ := (haccepts [openingRow] rfl).close
  refine ⟨_, _, _, hlife, ?_, htotal, s', d', hclose, hread⟩
  rw [Bool.eq_false_iff]
  exact fun hno => nomatch hclosed.1 hno

end Sink

end RoleAudit.Report
