import RoleAudit.Proofs.Files.Additions
import RoleAudit.Proofs.Report.Repeating

/-!
# What making a report touches

Making a report reads a great deal and writes one file. Whatever the disk, the path of the report and
the roots, and however it ends, the disk is left as it was, but for the report and what it needs to
stand somewhere: the directories above it that were missing.

The report's path is followed when its directories have been made, through links if there are any,
and the file that it leads to then is the report. Its directories are those above the path's normal
form, in which `..` goes back in the text, not on the disk. The two may differ; so may the file that
is found before and after the directories are made.

* `Confined`: all that may become of a disk.
* `Confined.read_eq`: what another path reads stays as it is.
* `Sink.confined_makeFile`: making the file of a report is confined, also if it fails.
* `Order.confined_make`: so is making the report.
-/

namespace RoleAudit.Report

open RoleAudit.Files

/-- The second disk has all that was on the first. What is new is the file that a path leads to and
directories above the path, which were missing, each under one name; and no file but the one that
the path leads to has other bytes. -/
structure Confined (path : String) (d e : Disk) : Prop extends
    Adds (fun m => Filled (Disk.IsAbove · (d.absolute path)) d e m ∨
      e.locate path = .ok (.node m) ∧ ∃ content, e.node? m = some (.file content)) d e where
  bytes : ∀ {n content}, d.node? n = some (.file content) → e.locate path ≠ .ok (.node n) →
    e.node? n = some (.file content)

namespace Confined

variable {path : String} {d e f : Disk} {n : Nat}

/-- What is written into the file that the path leads to is confined. -/
lemma written (h : Confined path d e) (hpath : e.locate path = .ok (.node n))
    (hf : WrittenAt n e f) : Confined path d f where
  toAdds := by
    refine (h.toAdds.mono fun hm => ?_).trans (Adds.of_alike hf.toAlike)
    rcases hm with hfilled | ⟨hleads, content, hcontent⟩
    · exact Or.inl (hfilled.later hf.toAlike.grown)
    · exact Or.inr ⟨hf.toAlike.locate_eq path _ ▸ hleads, hf.toAlike.grown.file hcontent⟩
  bytes := by
    intro m content hm hother
    rw [← hf.toAlike.locate_eq] at hother
    have hne : m ≠ n := by
      rintro rfl
      exact hother hpath
    rw [← hf.others m hne]
    exact h.bytes hm hother

/-- **What another path reads stays as it is.** -/
theorem read_eq (h : Confined path d e) {other : String} {content : List UInt8}
    (hother : e.locate other ≠ e.locate path) (hread : d.read other = .ok content) :
    e.read other = .ok content := by
  unfold Disk.read at hread
  rcases hplace : d.locate other with fault | n | ⟨directory, name⟩ <;> simp only [hplace] at hread
  · cases hread
  · rcases hn : d.node? n with _ | ⟨bytes⟩ | ⟨p, es⟩ | ⟨target⟩ <;> simp only [hn] at hread <;>
      cases hread
    have hleads := h.toGrown.locate_eq_node hplace
    rw [hleads] at hother
    exact Disk.read_of_locate hleads (h.bytes hn (Ne.symm hother))
  · cases hread

end Confined

/-! ## The file -/

namespace Sink

variable {path : String} {d e : Disk} {n : Nat}

/-- Making the directories of a file is confined. -/
lemma confined_makeDirectories {failed : Option Fault}
    (h : d.makeDirectories (Path.split (d.absolute path)).1 = (failed, e)) : Confined path d e where
  toAdds := (Disk.adds_makeDirectories h).mono Or.inl
  bytes hn _ := by
    have hkept := d.kept_makeDirectories (Path.split (d.absolute path)).1
    rw [h] at hkept
    exact hkept.bytes hn

/-- Making a file is confined when its directories have been made. -/
lemma confined_openNew {d' : Disk} (h : Confined path d d') (hopen : d'.openNew path = .ok (n, e)) :
    Confined path d e := by
  obtain ⟨hleads, hempty⟩ := Disk.openNew_spec hopen
  unfold Disk.openNew at hopen
  split at hopen
  · cases hopen
  · next hvacant =>
    cases hopen
    have hfree := Disk.free_of_locate hvacant
    have hgrown := hfree.grown_attach .file
    refine ⟨(h.toAdds.mono ?_).trans ((hfree.adds_attach .file).mono ?_), ?_⟩
    · rintro m (hfilled | ⟨hm, content, hcontent⟩)
      · exact Or.inl (hfilled.later hgrown)
      · exact Or.inr ⟨hgrown.locate_eq_node hm, hgrown.file hcontent⟩
    · rintro _ rfl
      exact Or.inr ⟨hleads, _, hempty⟩
    · intro m content hm hother
      refine (hfree.kept_attach .file).bytes (h.bytes hm ?_)
      intro hno
      exact hother (hgrown.locate_eq_node hno)
  · next m hnode =>
    rcases hm : d'.node? m with _ | ⟨content⟩ | ⟨p, es⟩ | ⟨target⟩ <;> rw [hm] at hopen
    · cases hopen
    · cases hopen
      exact h.written (Disk.locate_target_of_newFile hnode) (WrittenAt.setContent d' n [])
    · cases hopen
    · cases hopen

/-- **Making the file of a sink is confined**, also if it fails. -/
theorem confined_makeFile {result : Except Fault Nat} (h : makeFile path d = (result, e)) :
    Confined path d e := by
  rcases makeFile_cases h with ⟨fault, hmade, -⟩ | ⟨d', hmade, ⟨fault, -, -, rfl⟩ | ⟨n, hopen, -⟩⟩
  · exact confined_makeDirectories hmade
  · exact confined_makeDirectories hmade
  · exact confined_openNew (confined_makeDirectories hmade) hopen

end Sink

/-! ## The report -/

/-- **Making a report touches nothing else**, whether it is made or fails: all that was on the disk
is there, no other file has other bytes, and what is new is the report and directories above it. -/
theorem Order.confined_make (order : Order) (d : Disk) :
    Confined order.reportFile d (order.make d).disk := by
  rcases hmake : Sink.makeFile order.reportFile d with ⟨fault | n, e⟩
  · -- the report was not opened, and nothing more is done
    rw [order.disk_make_of_error d (Sink.error_openUp_of_makeFile hmake)]
    have hleft : (order.opened d).disk = e := (Sink.openUp_failed hmake).1
    rw [hleft]
    exact Sink.confined_makeFile hmake
  · obtain ⟨hholds, hheader⟩ := Sink.holds_openUp hmake
    have hopened : (order.opened d).error = none := by
      have heq : order.opened d = _ := Sink.openUp_eq hmake
      rw [heq]
    have hwritten := hheader.trans (order.writtenAt_make d hopened hholds)
    exact (Sink.confined_makeFile hmake).written (Sink.makeFile_spec hmake).1 hwritten

end RoleAudit.Report
