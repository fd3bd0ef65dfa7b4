import RoleAudit.Proofs.Scan.Strictness
import RoleAudit.Proofs.Source.Flaws

/-!
# Sources with flaws

A source with flaws is refused in strict mode. Whether it has any is known at the root of its tree; how
many there are is counted, and where the first one is, is searched for. These three must agree, or a
refusal would speak of no flaws, or of a flaw without a place.

* `RefusesFlaws`: a result that is a refusal exactly if a tree has flaws, and then tells how many there
  are and where the first one is.
* `refusesFlaws_judge`: this is how strict mode judges a marked tree.
* `flaws_agree`: so count, search and refusal agree, and loading a file is strict in this way.
-/

namespace RoleAudit.Scan

open RoleAudit.Files RoleAudit.Source StateTransition

/-- A result is a refusal exactly if a tree has flaws. The refusal tells how many there are, and the
place of the first one in the order of the text. -/
structure RefusesFlaws (path : String) (t : Tree) (result : Except Failure Loaded) : Prop where
  refused_iff : (∃ failure, result = .error failure) ↔ 0 < t.flaws
  tells : ∀ failure, result = .error failure → ∃ first, t.nodes.find? Tree.isFlaw = some first ∧
    failure = .flawed path t.flaws (some first.start) ∧
    failure.message = "File " ++ path ++ " contains " ++ toString t.flaws ++ " syntax error(s)" ++
      (" (first at line " ++ toString first.start.line ++ ", column " ++
        toString first.start.column ++ ")")

section

variable {t : Tree}

/-- The flaws of a marked tree that has some amount to a failure with a place. -/
lemma flawsOf_eq (ht : t.IsMarked) {first : Tree} (h : t.nodes.find? Tree.isFlaw = some first)
    (path : String) : flawsOf path t = .flawed path t.flaws (some first.start) := by
  unfold flawsOf
  rw [Tree.firstFlaw?_eq ht, h, Option.map_some]

/-- **Strict mode refuses the flaws of a marked tree**, and nothing else. -/
theorem refusesFlaws_judge (ht : t.IsMarked) (path : String) (bytes : List UInt8) :
    RefusesFlaws path t (judge true path ⟨bytes, t⟩).2 := by
  have hknown : t.flaws = 0 ↔ t.flawed = false := Tree.flaws_eq_zero_iff ht
  rcases hflawed : t.flawed with _ | _
  · obtain ⟨log, hjudge⟩ := judge_of_flawless hflawed bytes true path
    rw [hjudge]
    refine ⟨?_, fun failure hfailure => nomatch hfailure⟩
    simp [hknown.2 hflawed]
  · obtain ⟨⟨log, hjudge⟩, -⟩ := judge_of_flawed hflawed bytes path
    have hsome : t.flaws ≠ 0 := by
      rw [Ne, hknown, hflawed]
      exact Bool.noConfusion
    obtain ⟨first, hfirst⟩ : ∃ first, t.nodes.find? Tree.isFlaw = some first := by
      rw [← Option.ne_none_iff_exists', Ne, Tree.find?_isFlaw_eq_none_iff]
      exact hsome
    rw [hjudge, flawsOf_eq ht hfirst path]
    refine ⟨iff_of_true ⟨_, rfl⟩ (Nat.pos_of_ne_zero hsome), ?_⟩
    rintro failure ⟨⟩
    exact ⟨first, hfirst, rfl, rfl⟩

/-- A file that can be read is loaded as its tree is judged. -/
lemma load_of_read {d : Disk} {path : String} {bytes : List UInt8} (h : d.read path = .ok bytes)
    (strict : Bool) :
    (load d strict path).2 = (judge strict path ⟨bytes, read bytes⟩).2.mapError .failure := by
  unfold load
  rw [h, settle_ok Prod.mk.eta.symm]

/-- **Count, search and refusal agree about the flaws of a marked tree.** Both loops come to their
end. The count is the number of nodes that are flaws; the search finds none exactly if there are none,
which is what the root knows, and else the first one in the order of the text. Strict mode refuses the
tree exactly if there are flaws, and says where the first one is; and so it does with any file that can
be read. -/
theorem flaws_agree (ht : t.IsMarked) :
    Reaches Tree.Count.round? ⟨[t], 0⟩ ⟨[], t.flaws⟩ ∧
      Reaches Tree.Search.round? (.among [t]) (.ended t.firstFlaw?) ∧
      t.flaws = t.nodes.countP Tree.isFlaw ∧
      (t.firstFlaw? = none ↔ t.flaws = 0) ∧ (t.flaws = 0 ↔ t.flawed = false) ∧
      t.firstFlaw? = t.nodes.find? Tree.isFlaw ∧
      (∀ path bytes, RefusesFlaws path t (judge true path ⟨bytes, t⟩).2) ∧
      ∀ (d : Disk) (path : String) (bytes : List UInt8), d.read path = .ok bytes →
        ∃ result, (load d true path).2 = result.mapError .failure ∧
          RefusesFlaws path (read bytes) result := by
  have hcount : Tree.Count.loop.run ⟨[t], 0⟩ = ⟨[], t.flaws⟩ := by
    unfold Tree.flaws
    rw [Tree.Count.run_eq]
  have hsearch : Tree.Search.loop.run (.among [t]) = .ended t.firstFlaw? := by
    unfold Tree.firstFlaw?
    rw [Tree.Search.run_eq (List.forall_mem_singleton.2 ht)]
    rfl
  refine ⟨?_, ?_, t.flaws_eq, ?_, Tree.flaws_eq_zero_iff ht, Tree.firstFlaw?_eq ht,
    refusesFlaws_judge ht, ?_⟩
  · rw [← hcount]
    exact (Tree.Count.loop.ends _).1
  · rw [← hsearch]
    exact (Tree.Search.loop.ends _).1
  · rw [Tree.firstFlaw?_eq ht, Tree.find?_isFlaw_eq_none_iff]
  · intro d path bytes hread
    exact ⟨_, load_of_read hread true, refusesFlaws_judge (isMarked_read bytes) path bytes⟩

end

/-- A tree with text that fits nowhere, a missing sign inside it, and another one behind it. -/
def brokenTree : Tree :=
  let semicolon (p : Point) : Tree := .leaf (.token (.fixed ";")) none p true [] []
  .node (.construct .program) none ⟨1, 1⟩ true
    [.leaf .comment none ⟨1, 1⟩ false [] (Text.Glyph.ofString "/**/"),
      .node .error none ⟨2, 1⟩ true [semicolon ⟨2, 4⟩], semicolon ⟨3, 9⟩]

/-- Flaws inside a flaw count as well, and the outer one is the first. -/
theorem flaws_agree_broken :
    brokenTree.IsMarked ∧ brokenTree.flaws = 3 ∧
      brokenTree.firstFlaw?.map Tree.start = some ⟨2, 1⟩ ∧ ¬ brokenTree.flawed = false := by
  have hmarked : brokenTree.IsMarked := by
    unfold Tree.IsMarked Tree.HasFlaw
    decide
  obtain ⟨-, -, hflaws, -, hzero, hfirst, -⟩ := flaws_agree hmarked
  have hthree : brokenTree.nodes.countP Tree.isFlaw = 3 := by decide
  rw [hthree] at hflaws
  refine ⟨hmarked, hflaws, ?_, ?_⟩
  · rw [hfirst]
    decide
  · rw [← hzero, hflaws]
    decide

end RoleAudit.Scan
