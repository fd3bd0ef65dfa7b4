import RoleAudit.Proofs.Report.Making

/-!
# Making a report again

A report is made on whatever disk there is, and the disk it leaves behind is not the one it found:
directories were made, and a file with the report. None of this matters to making it again. Opening
the report comes first, and brings the disk back to where it was when the report was opened before;
all that follows depends on that disk alone. So the second report is the first one, whether it is
made or fails, and also if it lies among the sources.

* `Sink.makeFile_failed`, `Sink.makeFile_again`: a file is made again as it was, or fails again.
* `Order.make_make`: making a report again changes nothing.
-/

namespace RoleAudit.Report

open RoleAudit.Files RoleAudit.Text

namespace Sink

variable {path : String} {d e f : Disk} {n : Nat}

/-! ## The file -/

/-- Where the directories for a file are made, no part of the path is `.`. -/
lemma dot_not_mem_steps_parent (d : Disk) (path : String) :
    "." ∉ Disk.steps (Path.split (d.absolute path)).1 :=
  Disk.dot_not_mem_steps_split _

lemma absolute_of_grown (h : Grown d e) (path : String) : e.absolute path = d.absolute path := by
  unfold Disk.absolute
  rw [h.homePath]

/-- What was made of a file and the directories above it. -/
lemma makeFile_cases {result : Except Fault Nat} (h : makeFile path d = (result, e)) :
    (∃ fault, d.makeDirectories (Path.split (d.absolute path)).1 = (some fault, e) ∧
        result = .error fault) ∨
      ∃ d', d.makeDirectories (Path.split (d.absolute path)).1 = (none, d') ∧
        ((∃ fault, d'.openNew path = .error fault ∧ result = .error fault ∧ e = d') ∨
          ∃ n, d'.openNew path = .ok (n, e) ∧ result = .ok n) := by
  unfold makeFile at h
  rcases hmade : d.makeDirectories (Path.split (d.absolute path)).1 with ⟨_ | fault, d'⟩ <;>
    rw [hmade] at h
  · refine Or.inr ⟨d', rfl, ?_⟩
    rcases hopen : d'.openNew path with fault | ⟨n, e'⟩ <;> simp only [hopen] at h <;> cases h
    · exact Or.inl ⟨fault, rfl, rfl, rfl⟩
    · exact Or.inr ⟨n, rfl, rfl⟩
  · cases h
    exact Or.inl ⟨fault, rfl, rfl⟩

lemma makeFile_of_made {d' : Disk}
    (h : d.makeDirectories (Path.split (d.absolute path)).1 = (none, d')) :
    makeFile path d = match d'.openNew path with
      | .ok (n, e) => (.ok n, e)
      | .error fault => (.error fault, d') := by
  unfold makeFile
  rcases hopen : d'.openNew path with fault | ⟨n, e⟩ <;> simp only [h, hopen]

/-- Nothing is taken away. -/
lemma grown_makeFile {result : Except Fault Nat} (h : makeFile path d = (result, e)) :
    Grown d e := by
  have hdot := dot_not_mem_steps_parent d path
  rcases makeFile_cases h with ⟨fault, hmade, -⟩ | ⟨d', hmade, ⟨fault, -, -, rfl⟩ | ⟨n, hopen, -⟩⟩
  · exact (Disk.makeDirectories_spec hdot hmade).1
  · exact (Disk.makeDirectories_spec hdot hmade).1
  · exact (Disk.makeDirectories_spec hdot hmade).1.trans (Disk.grown_openNew hopen)

/-- The directories for a file that were made are not made again. -/
lemma makeDirectories_again {d' : Disk}
    (h : d.makeDirectories (Path.split (d.absolute path)).1 = (none, d')) (hf : Grown d' f) :
    f.makeDirectories (Path.split (f.absolute path)).1 = (none, f) := by
  obtain ⟨hgrown, hthere⟩ := Disk.makeDirectories_spec (dot_not_mem_steps_parent d path) h
  rw [absolute_of_grown (hgrown.trans hf)]
  exact Disk.makeDirectories_of_isDirectory (hf.isDirectory_path (hthere rfl))

/-- **A file that cannot be made cannot be made again**, for the same reason. -/
theorem makeFile_failed {fault : Fault} (h : makeFile path d = (.error fault, e)) :
    makeFile path e = (.error fault, e) := by
  rcases makeFile_cases h with
    ⟨_, hmade, hsame⟩ | ⟨d', hmade, ⟨_, hopen, hsame, rfl⟩ | ⟨n, -, hno⟩⟩
  · cases hsame
    have hgrown := (Disk.makeDirectories_spec (dot_not_mem_steps_parent d path) hmade).1
    have hagain := Disk.makeDirectories_failed (dot_not_mem_steps_parent d path) hmade
    rw [← absolute_of_grown hgrown] at hagain
    unfold makeFile
    rw [hagain]
  · cases hsame
    rw [makeFile_of_made (makeDirectories_again hmade (Grown.refl e)), hopen]
  · cases hno

/-- **A file that was made and written is made again as it was.** -/
theorem makeFile_again (h : makeFile path d = (.ok n, e)) (hf : WrittenAt n e f) :
    makeFile path f = (.ok n, e) := by
  rcases makeFile_cases h with ⟨_, -, hno⟩ | ⟨d', hmade, ⟨_, -, hno, -⟩ | ⟨m, hopen, hsame⟩⟩
  · cases hno
  · cases hno
  · cases hsame
    obtain ⟨hpath, hfile⟩ := Disk.locate_newFile_of_openNew hopen
    have hgrown := (Disk.grown_openNew hopen).trans hf.toAlike.grown
    obtain ⟨content, hcontent⟩ := hf.toAlike.grown.file hfile
    have hopened : f.openNew path = .ok (n, e) := by
      unfold Disk.openNew
      rw [← hf.locate_eq, hpath]
      simp only [hcontent, hf.setContent_nil hfile]
    rw [makeFile_of_made (makeDirectories_again hmade hgrown), hopened]

/-! ## The sink -/

/-- A sink that cannot be opened cannot be opened again, and leaves nothing more behind. -/
theorem openUp_failed {fault : Fault} (h : makeFile path d = (.error fault, e)) :
    (({ path } : Sink).openUp d).disk = e ∧
      ({ path } : Sink).openUp e = ({ path } : Sink).openUp d := by
  have hagain := makeFile_failed h
  unfold openUp
  rw [h, hagain]
  cases fault with
  | nul => exact ⟨rfl, rfl⟩
  | refused refusal => exact ⟨rfl, rfl⟩

/-- A sink is opened again as it was opened, whatever was written into its file. -/
theorem openUp_again (h : makeFile path d = (.ok n, e)) (hf : WrittenAt n e f) :
    ({ path } : Sink).openUp f = ({ path } : Sink).openUp d := by
  rw [openUp_eq h, openUp_eq (makeFile_again h hf)]

end Sink

/-! ## The report -/

namespace Order

/-- Once it is opened, a report depends on nothing but what was opened. -/
lemma make_eq_of_opened (order : Order) {d e : Disk} (hpath : e.homePath = d.homePath)
    (h : order.opened e = order.opened d) : order.make e = order.make d := by
  have hopening : order.opening e = order.opening d := by
    unfold opening Disk.absolute
    rw [hpath]
  unfold make
  rw [h, hopening]

/-- A report that cannot be opened leaves the disk as opening it did. -/
lemma disk_make_of_error (order : Order) (d : Disk) (h : (order.opened d).error ≠ none) :
    (order.make d).disk = (order.opened d).disk := by
  obtain ⟨error, herror⟩ := Option.ne_none_iff_exists'.1 h
  unfold make
  simp only [herror]

/-- Once it is opened, a report writes into its own file only. -/
lemma writtenAt_make (order : Order) (d : Disk) {n : Nat} {text : List UInt8}
    (h : (order.opened d).error = none)
    (hopen : (order.opened d).sink.Holds (order.opened d).disk n text) :
    WrittenAt n (order.opened d).disk (order.make d).disk := by
  obtain ⟨draft, hkeeps, -, hdisk, -⟩ := order.exists_draft d h hopen
  obtain ⟨hholds, hbefore⟩ := hkeeps.holds hopen
  obtain ⟨-, -, hafter⟩ := hholds.close
  rw [hdisk]
  exact hbefore.trans hafter

/-- **Making a report again changes nothing.** The second report is the first one in every respect:
the disk that it leaves behind, what it logs, and its counts or the error with which it ended. -/
theorem make_make (order : Order) (d : Disk) : order.make (order.make d).disk = order.make d := by
  rcases hmake : Sink.makeFile order.reportFile d with ⟨fault | n, e⟩
  · obtain ⟨hdisk, hagain⟩ := Sink.openUp_failed hmake
    have hleft : (order.make d).disk = e := by
      rw [order.disk_make_of_error d (Sink.error_openUp_of_makeFile hmake)]
      exact hdisk
    rw [hleft]
    exact order.make_eq_of_opened (Sink.grown_makeFile hmake).homePath hagain
  · obtain ⟨hholds, hheader⟩ := Sink.holds_openUp hmake
    have hopened : (order.opened d).error = none := by
      have heq : order.opened d = _ := Sink.openUp_eq hmake
      rw [heq]
    have hwritten := hheader.trans (order.writtenAt_make d hopened hholds)
    have hpath : (order.make d).disk.homePath = d.homePath :=
      hwritten.homePath.symm.trans (Sink.grown_makeFile hmake).homePath
    exact order.make_eq_of_opened hpath (Sink.openUp_again hmake hwritten)

end Order

end RoleAudit.Report
