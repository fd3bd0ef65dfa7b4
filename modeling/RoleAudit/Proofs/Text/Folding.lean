import Mathlib.Data.List.TakeWhile
import RoleAudit.Proofs.Text.Runs

/-!
# Folding touches white space only

Putting a text on one line drops and replaces white space; every visible character stays, and stays
in its place among the others.

* `Text.visible_singleLine`: the visible characters of a folded text are those of the text, in order.
* `Text.mem_singleLine`: so it has the same ones.
-/

namespace RoleAudit.Text

/-- The visible characters of a text. -/
def visible (cs : List Char) : List Char := cs.filter fun c => !isBlank c

lemma mem_visible {c : Char} (hc : isBlank c = false) (cs : List Char) : c ∈ visible cs ↔ c ∈ cs := by
  unfold visible
  rw [List.mem_filter, hc]
  exact and_iff_left rfl

/-- Nothing is visible in white space. -/
lemma visible_eq_nil {cs : List Char} (h : ∀ c ∈ cs, isBlank c = true) : visible cs = [] := by
  unfold visible
  rw [List.filter_eq_nil_iff]
  intro c hc
  rw [h c hc]
  exact Bool.false_ne_true

lemma visible_append (cs ds : List Char) : visible (cs ++ ds) = visible cs ++ visible ds :=
  List.filter_append cs ds

lemma visible_reverse (cs : List Char) : visible cs.reverse = (visible cs).reverse :=
  List.filter_reverse

/-! ## Trimming -/

/-- Only white space is dropped at the front of a list. -/
lemma visible_dropWhile (cs : List Char) : visible (cs.dropWhile isBlank) = visible cs := by
  have hdropped : visible (cs.takeWhile isBlank) = [] :=
    visible_eq_nil fun _ => List.mem_takeWhile_imp
  calc visible (cs.dropWhile isBlank)
      = visible (cs.takeWhile isBlank ++ cs.dropWhile isBlank) := by
        rw [visible_append, hdropped, List.nil_append]
    _ = visible cs := by rw [List.takeWhile_append_dropWhile]

/-- Trimming keeps the visible characters. -/
lemma visible_trimChars (cs : List Char) : visible (trimChars cs) = visible cs := by
  unfold trimChars trimEnd
  rw [visible_reverse, visible_dropWhile, visible_reverse, List.reverse_reverse, visible_dropWhile]

/-- Trimming keeps every visible character. -/
lemma mem_trimChars {c : Char} (hc : isBlank c = false) (cs : List Char) :
    c ∈ trimChars cs ↔ c ∈ cs := by
  rw [← mem_visible hc, visible_trimChars, mem_visible hc]

/-! ## Folding -/

/-- What a run turns into has the same visible characters. -/
lemma visible_foldRun {run : List Char} (h : IsRun run) : visible (foldRun run) = visible run := by
  by_cases hbreak : run.any isBreak = true
  · obtain ⟨blank, hrun⟩ := h
    cases blank with
    | true =>
      rw [foldRun_of_any hbreak, visible_eq_nil hrun]
      rfl
    | false => exact absurd hbreak (not_any_isBreak hrun)
  · rw [foldRun_of_not_any hbreak]

lemma visible_foldRuns (cs : List Char) : visible (foldRuns cs) = visible cs :=
  calc visible (foldRuns cs)
      = (runs cs).flatMap fun run => visible (foldRun run) := List.filter_flatMap
    _ = (runs cs).flatMap visible :=
        List.flatMap_congr fun _ hrun => visible_foldRun (isRun_of_mem_runs hrun)
    _ = visible (runs cs).flatten := List.filter_flatten.symm
    _ = visible cs := congrArg visible (List.flatten_splitBy isAlike cs)

/-- **Folding a text keeps its visible characters, in order, and adds none.** -/
theorem visible_singleLine (s : String) : visible (singleLine s).toList = visible s.toList := by
  rw [singleLine_eq, String.toList_ofList, visible_trimChars, visible_foldRuns]

theorem mem_singleLine {c : Char} (hc : isBlank c = false) (s : String) :
    c ∈ (singleLine s).toList ↔ c ∈ s.toList := by
  rw [← mem_visible hc, visible_singleLine, mem_visible hc]

end RoleAudit.Text
