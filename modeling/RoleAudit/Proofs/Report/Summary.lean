import RoleAudit.Proofs.Files.Keeping
import RoleAudit.Report.Summary

/-!
# What a summary says

A summary is written when everything else is done. It stands where its path leads, and no other file
changes. What it tells is read off its entries.

* `Summary.StandsAt`: a summary with some entries stands at a path.
* `Summary.write_spec`: a summary is where its path leads, and other files are as before.
* `Summary.TellsSuccess`, `Summary.TellsFailure`: what entries tell about a run.
-/

namespace RoleAudit.Report.Summary

open RoleAudit.Files RoleAudit.Text

/-- A value stands at a path, written over several lines. -/
def StandsAt (d : Disk) (path : String) (entries : List (Value × Value)) : Prop :=
  d.read path = .ok (Utf8.encode (Json.pretty 0 (.dict entries)))

/-- The entries of a summary; the report is named from the root. -/
def entriesOn (s : Summary) (d : Disk) : List (Value × Value) :=
  [(.text "run_id", .text s.runId), (.text "status", .text s.status),
    (.text "report_file", .text (d.absolute s.reportFile)),
    (.text "stats", .dict s.statistics), (.text "timestamp_utc", .text s.time)] ++
    match s.error with
    | some e => [(.text "error", .text e)]
    | none => []

lemma value_eq (s : Summary) (d : Disk) : s.value d = .dict (s.entriesOn d) := rfl

/-- **A summary is where its path leads**, and whatever another path leads to is as it was. -/
theorem write_spec {s : Summary} {directory : String} {d e : Disk}
    (h : s.write directory d = (none, e)) :
    (∃ d', StandsAt e (s.pathIn directory) (s.entriesOn d')) ∧
      ∀ path content, e.locate path ≠ e.locate (s.pathIn directory) → d.read path = .ok content →
        e.read path = .ok content := by
  unfold write at h
  have hkept := d.kept_makeDirectories directory
  rcases hmade : d.makeDirectories directory with ⟨_ | fault, d₁⟩ <;> rw [hmade] at h hkept
  · dsimp only at h hkept
    rcases hopen : d₁.openNew (s.pathIn directory) with fault | ⟨n, d₂⟩ <;> rw [hopen] at h
    · exact absurd (congrArg Prod.fst h) (by simp)
    · -- what the bytes are does not matter up to the end
      generalize hbytes : Utf8.encode (Json.pretty 0 (s.value d₂)) = bytes
      have he : d₂.setContent n bytes = e := by
        rw [← hbytes]
        exact congrArg Prod.snd h
      subst he
      obtain ⟨hpath, hempty⟩ := Disk.openNew_spec hopen
      have hwritten := WrittenAt.setContent d₂ n bytes
      rw [hwritten.locate_eq] at hpath
      refine ⟨⟨d₂, ?_⟩, ?_⟩
      · unfold StandsAt
        rw [← value_eq, hbytes]
        exact Disk.read_of_locate hpath (Disk.node?_setContent hempty _)
      · intro path content hother hread
        rw [hpath, ← hwritten.locate_eq] at hother
        rw [← hwritten.read_eq hother]
        exact Disk.read_openNew_of_other hopen hother (hkept.read_eq hread)
  · exact absurd (congrArg Prod.fst h) (by simp)

/-- A summary tells of a success, with so many rows. -/
structure TellsSuccess (entries : List (Value × Value)) (rows : Nat) : Prop where
  status : Value.lookup? entries "status" = some (.text "success")
  rows : ∃ counts, Value.lookup? entries "stats" = some (.dict counts) ∧
    Value.lookup? counts "rows_emitted" = some (.int rows)
  error : Value.lookup? entries "error" = none

/-- A summary tells of a failure with this message. -/
structure TellsFailure (entries : List (Value × Value)) (message : String) : Prop where
  status : Value.lookup? entries "status" = some (.text "failed")
  counts : Value.lookup? entries "stats" = some (.dict [])
  error : Value.lookup? entries "error" = some (.text message)

end RoleAudit.Report.Summary
