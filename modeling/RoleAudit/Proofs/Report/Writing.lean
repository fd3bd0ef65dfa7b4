import RoleAudit.Proofs.Files.NewFile
import RoleAudit.Report.Sink

/-!
# What was written is what the file holds

A writer keeps bytes back, in two places, and the file is behind by them. The invariant is that the
file and the bytes on their way together are everything that was written (`Writer.Holds`). Each
operation keeps it, whatever the sizes of the texts; when nothing is on its way any more, the file
alone is what was written.

* `Writer.Holds.write`, `Writer.Holds.flush`: writing appends, flushing leaves nothing behind.
* `Sink.openUp_spec`: an opened sink holds the header of a report.
* `Sink.Holds.writeRows`: rows are appended as lines, in order.
* `Sink.Holds.close`: closing leaves a file with exactly what was written.
-/

namespace RoleAudit.Report

open RoleAudit.Files RoleAudit.Text

/-! ## Writers -/

namespace Writer

/-- The file of the writer holds the bytes, and the writer is at its end. -/
structure Landed (w : Writer) (d : Disk) (bytes : List UInt8) : Prop where
  file : d.node? w.node = some (.file bytes)
  offset : bytes.length = w.offset

/-- The file and the bytes on their way are the text. -/
def Holds (w : Writer) (d : Disk) (text : List UInt8) : Prop :=
  ∃ landed, w.Landed d landed ∧ text = landed ++ w.unsettled

variable {w : Writer} {d : Disk} {landed text : List UInt8}

lemma Landed.send (h : w.Landed d landed) (bytes : List UInt8) :
    (w.send bytes d).1.Landed (w.send bytes d).2 (landed ++ bytes) := by
  unfold Writer.send
  refine ⟨?_, ?_⟩
  · rw [← h.offset]
    exact Disk.node?_writeAt_end h.file bytes
  · rw [List.length_append, h.offset]

lemma Landed.drain (h : w.Landed d landed) :
    (w.drain d).1.Landed (w.drain d).2 (landed ++ w.buffered) :=
  ⟨(h.send w.buffered).file, (h.send w.buffered).offset⟩

lemma Holds.forward (h : w.Holds d text) : (w.forward d).1.Holds (w.forward d).2 text := by
  obtain ⟨landed, hlanded, rfl⟩ := h
  unfold Writer.forward
  by_cases hfits : w.buffered.length + w.pending.length ≤ bufferSize
  · simp only [if_pos hfits]
    refine ⟨landed, ⟨hlanded.file, hlanded.offset⟩, ?_⟩
    unfold unsettled
    rw [List.append_nil]
  · simp only [if_neg hfits]
    have hdrained : ({ w with pending := [] } : Writer).Landed d landed :=
      ⟨hlanded.file, hlanded.offset⟩
    by_cases hlong : bufferSize < w.pending.length
    · simp only [if_pos hlong]
      refine ⟨_, hdrained.drain.send w.pending, ?_⟩
      unfold unsettled Writer.drain Writer.send
      rw [List.append_nil, List.append_nil, List.append_assoc]
    · simp only [if_neg hlong]
      refine ⟨_, ⟨hdrained.drain.file, hdrained.drain.offset⟩, ?_⟩
      unfold unsettled Writer.drain Writer.send
      rw [List.append_nil, List.append_assoc]

/-- **Writing appends.** -/
theorem Holds.write (h : w.Holds d text) (bytes : List UInt8) :
    (w.write bytes d).1.Holds (w.write bytes d).2 (text ++ bytes) := by
  have hcollect : ∀ {w : Writer} {d : Disk}, w.Holds d text →
      ({ w with pending := w.pending ++ bytes } : Writer).Holds d (text ++ bytes) := by
    rintro w d ⟨landed, hlanded, rfl⟩
    refine ⟨landed, ⟨hlanded.file, hlanded.offset⟩, ?_⟩
    unfold unsettled
    rw [List.append_assoc, List.append_assoc]
  unfold Writer.write
  by_cases hfull : (!w.pending.isEmpty && chunkSize < w.pending.length + bytes.length) = true
  · simp only [if_pos hfull]
    split
    · exact (hcollect h.forward).forward
    · exact hcollect h.forward
  · simp only [if_neg hfull]
    split
    · exact (hcollect h).forward
    · exact hcollect h

lemma node_forward (w : Writer) (d : Disk) : (w.forward d).1.node = w.node := by
  unfold Writer.forward
  dsimp only
  split
  · rfl
  · split <;> rfl

lemma pending_forward (w : Writer) (d : Disk) : (w.forward d).1.pending = [] := by
  unfold Writer.forward
  dsimp only
  split
  · rfl
  · split <;> rfl

lemma node_write (w : Writer) (bytes : List UInt8) (d : Disk) :
    (w.write bytes d).1.node = w.node := by
  unfold Writer.write
  dsimp only
  split <;> split
  · rw [node_forward]
    exact node_forward w d
  · exact node_forward w d
  · rw [node_forward]
  · rfl

/-- **Flushing leaves nothing behind.** -/
theorem Holds.flush (h : w.Holds d text) : (w.flush d).2.node? w.node = some (.file text) := by
  obtain ⟨landed, hlanded, htext⟩ := h.forward
  have hfile := hlanded.drain.file
  unfold unsettled at htext
  rw [pending_forward, List.append_nil] at htext
  rw [← htext] at hfile
  have hnode : ((w.forward d).1.drain (w.forward d).2).1.node = w.node := node_forward w d
  rw [hnode] at hfile
  exact hfile

/-! ### No other file changes -/

lemma writtenAt_send (w : Writer) (bytes : List UInt8) (d : Disk) :
    WrittenAt w.node d (w.send bytes d).2 :=
  WrittenAt.writeAt d w.node w.offset bytes

lemma writtenAt_drain (w : Writer) (d : Disk) : WrittenAt w.node d (w.drain d).2 :=
  writtenAt_send w w.buffered d

lemma writtenAt_forward (w : Writer) (d : Disk) : WrittenAt w.node d (w.forward d).2 := by
  unfold Writer.forward
  dsimp only
  split
  · exact WrittenAt.refl _ d
  · split
    · exact (writtenAt_drain { w with pending := [] } d).trans
        (writtenAt_send (({ w with pending := [] } : Writer).drain d).1 w.pending _)
    · exact writtenAt_drain { w with pending := [] } d

lemma writtenAt_write (w : Writer) (bytes : List UInt8) (d : Disk) :
    WrittenAt w.node d (w.write bytes d).2 := by
  have hnode := node_forward w d
  unfold Writer.write
  dsimp only
  split <;> split
  · have hsecond := writtenAt_forward
      { (w.forward d).1 with pending := (w.forward d).1.pending ++ bytes } (w.forward d).2
    rw [hnode] at hsecond
    exact (writtenAt_forward w d).trans hsecond
  · exact writtenAt_forward w d
  · exact writtenAt_forward { w with pending := w.pending ++ bytes } d
  · exact WrittenAt.refl _ d

lemma writtenAt_flush (w : Writer) (d : Disk) : WrittenAt w.node d (w.flush d).2 := by
  have hdrain := writtenAt_drain (w.forward d).1 (w.forward d).2
  rw [node_forward] at hdrain
  exact (writtenAt_forward w d).trans hdrain

end Writer

/-! ## Sinks -/

namespace Sink

/-- The sink is open on a node, for texts in UTF-8, and the file there and the bytes on their way to
it are the text. -/
structure Holds (s : Sink) (d : Disk) (n : Nat) (text : List UInt8) : Prop where
  encoding : s.encoding = "utf-8"
  writer : ∃ w, s.writer = some w ∧ w.node = n ∧ w.Holds d text

variable {s : Sink} {d : Disk} {n : Nat} {text : List UInt8}

/-- The file that was made is empty, and is where its path leads. -/
lemma makeFile_spec {path : String} {e : Disk} (h : makeFile path d = (.ok n, e)) :
    e.locate path = .ok (.node n) ∧ e.node? n = some (.file []) := by
  unfold makeFile at h
  split at h
  · cases h
  · split at h
    · next hopen =>
      cases h
      exact Disk.openNew_spec hopen
    · cases h

/-- A new writer at an empty file. -/
lemma holds_new (hn : d.node? n = some (.file [])) : Writer.Holds ⟨n, 0, [], []⟩ d [] :=
  ⟨[], ⟨hn, rfl⟩, rfl⟩

/-- Opening fails where no file can be made. -/
lemma error_openUp_of_makeFile {path : String} {fault : Fault} {e : Disk}
    (h : makeFile path d = (.error fault, e)) : (({ path } : Sink).openUp d).error ≠ none := by
  unfold openUp
  rw [h]
  cases fault with
  | nul => exact Option.some_ne_none _
  | refused refusal => exact Option.some_ne_none _

/-- Opening a sink writes the header into the file that was made. -/
lemma openUp_eq {path : String} {e : Disk} (h : makeFile path d = (.ok n, e)) :
    ({ path } : Sink).openUp d =
      { sink := { path, writer := some (Writer.write ⟨n, 0, [], []⟩ (Utf8.encode reportHeader) e).1 }
        disk := (Writer.write ⟨n, 0, [], []⟩ (Utf8.encode reportHeader) e).2
        log := [sinkEntry .debug ("Opened report sink " ++ path)] } := by
  have hname : Encoding.ofName? "utf-8" = some .utf8 := rfl
  unfold openUp
  rw [h]
  simp only [hname, Encoding.encode_utf8, flushed]

/-- A sink that was opened on a new file holds the header, and nothing else was written. -/
lemma holds_openUp {path : String} {e : Disk} (h : makeFile path d = (.ok n, e)) :
    (({ path } : Sink).openUp d).sink.Holds (({ path } : Sink).openUp d).disk n
        (Utf8.encode reportHeader) ∧
      WrittenAt n e (({ path } : Sink).openUp d).disk := by
  obtain ⟨-, hfile⟩ := makeFile_spec h
  have hwritten := (holds_new hfile).write (Utf8.encode reportHeader)
  rw [openUp_eq h]
  exact ⟨⟨rfl, _, rfl, Writer.node_write _ _ _, hwritten⟩,
    Writer.writtenAt_write ⟨n, 0, [], []⟩ _ e⟩

/-- **An opened sink holds the header**, and its path leads to its file. -/
theorem openUp_spec (path : String) (d : Disk) (h : (({ path } : Sink).openUp d).error = none) :
    ∃ n, (({ path } : Sink).openUp d).sink.Holds (({ path } : Sink).openUp d).disk n
        (Utf8.encode reportHeader) ∧
      (({ path } : Sink).openUp d).disk.locate path = .ok (.node n) := by
  rcases hmake : makeFile path d with ⟨fault | n, e⟩
  · exact absurd h (error_openUp_of_makeFile hmake)
  · obtain ⟨hholds, hwritten⟩ := holds_openUp hmake
    refine ⟨n, hholds, ?_⟩
    rw [← hwritten.locate_eq]
    exact (makeFile_spec hmake).1

/-- What an open sink does with a row. -/
lemma writeRow_eq {w : Writer} (henc : s.encoding = "utf-8") (hw : s.writer = some w) (r : Row)
    (d : Disk) :
    s.writeRow r d =
      .ok ({ s with
          writer := some (w.write (Utf8.encode r.line) d).1
          rowsWritten := s.rowsWritten + 1 },
        (w.write (Utf8.encode r.line) d).2) := by
  unfold Sink.writeRow
  rw [hw, henc]
  rfl

/-- A row is appended as a line. -/
theorem Holds.writeRow (h : s.Holds d n text) (r : Row) :
    ∃ s' d', s.writeRow r d = .ok (s', d') ∧ s'.Holds d' n (text ++ Utf8.encode r.line) ∧
      WrittenAt n d d' := by
  obtain ⟨henc, w, hw, rfl, hholds⟩ := h
  refine ⟨_, _, writeRow_eq henc hw r d, ?_, Writer.writtenAt_write w _ d⟩
  exact ⟨henc, _, rfl, Writer.node_write w _ d, hholds.write _⟩

/-- After a row that is written come those behind it. -/
lemma writeRows_cons {r : Row} {s' : Sink} {d' : Disk} (h : s.writeRow r d = .ok (s', d'))
    (rows : List Row) : s.writeRows (r :: rows) d = s'.writeRows rows d' := by
  conv_lhs => unfold Sink.writeRows
  rw [h]

/-- If all rows are written, the first of them is. -/
lemma writeRows_cons_eq_none {r : Row} {rows : List Row} {s' : Sink} {d' : Disk}
    (h : s.writeRows (r :: rows) d = (s', d', none)) :
    ∃ s₁ d₁, s.writeRow r d = .ok (s₁, d₁) ∧ s₁.writeRows rows d₁ = (s', d', none) := by
  unfold Sink.writeRows at h
  rcases hrow : s.writeRow r d with e | ⟨s₁, d₁⟩ <;> rw [hrow] at h
  · cases h
  · exact ⟨s₁, d₁, rfl, h⟩

/-- **Rows are appended as lines, in order.** -/
theorem Holds.writeRows (h : s.Holds d n text) (rows : List Row) :
    ∃ s' d', s.writeRows rows d = (s', d', none) ∧
      s'.Holds d' n (text ++ rows.flatMap fun r => Utf8.encode r.line) ∧ WrittenAt n d d' := by
  induction rows generalizing s d text with
  | nil =>
    refine ⟨s, d, rfl, ?_, WrittenAt.refl n d⟩
    rw [List.flatMap_nil, List.append_nil]
    exact h
  | cons r rows ih =>
    obtain ⟨s₁, d₁, hrow, h₁, hfile₁⟩ := h.writeRow r
    obtain ⟨s₂, d₂, hrows, h₂, hfile₂⟩ := ih h₁
    refine ⟨s₂, d₂, (writeRows_cons hrow rows).trans hrows, ?_, hfile₁.trans hfile₂⟩
    rw [List.flatMap_cons, ← List.append_assoc]
    exact h₂

/-- Rows that follow others are written where those leave off. -/
lemma writeRows_append {s' : Sink} {d' : Disk} {rows : List Row}
    (h : s.writeRows rows d = (s', d', none)) (more : List Row) :
    s.writeRows (rows ++ more) d = s'.writeRows more d' := by
  induction rows generalizing s d with
  | nil =>
    cases h
    rfl
  | cons r rows ih =>
    obtain ⟨s₁, d₁, hrow, hrows⟩ := writeRows_cons_eq_none h
    rw [List.cons_append, writeRows_cons hrow]
    exact ih hrows

/-- A row goes into a file, or nowhere. -/
lemma alike_of_writeRow {s' : Sink} {d' : Disk} {r : Row}
    (h : s.writeRow r d = .ok (s', d')) : Alike d d' := by
  unfold Sink.writeRow at h
  split at h
  · next w encoding _ _ =>
    rcases hbytes : encoding.encode r.line with e | bytes <;> rw [hbytes] at h
    · cases h
    · cases h
      exact (Writer.writtenAt_write w bytes d).toAlike
  · cases h

/-- **Closing leaves a file with exactly what was written.** -/
theorem Holds.close (h : s.Holds d n text) :
    (s.close d).sink.closed = true ∧ (s.close d).disk.node? n = some (.file text) ∧
      WrittenAt n d (s.close d).disk := by
  obtain ⟨-, w, hw, rfl, hholds⟩ := h
  unfold Sink.close
  rw [hw]
  exact ⟨rfl, hholds.flush, Writer.writtenAt_flush w d⟩

end Sink

end RoleAudit.Report
