import RoleAudit.Proofs.Roles.Ascending
import RoleAudit.Proofs.Text.Tidy

/-!
# The order of what is shown

A role set is sorted by its texts as they are written, and each text is folded onto one line where
it is shown. So what is shown is in order, and without repetition, only as far as folding respects
the order and the differences of the texts. Texts that are tidy fold to themselves, and for them it
does.

* `Roles.nodup_displayed_iff`, `Roles.pairwise_displayed_iff`: when no name is shown twice, and when
  the names are shown in ascending order.
* `Tag.displayed_contents_iff`: both for the contents of a tag.
* `Tag.pairwise_displayed_of_isTidy`: tidy literals are shown in strictly ascending order.
-/

namespace RoleAudit

namespace Roles

/-- The names as they are shown, each on one line. -/
def displayed (names : List String) : List String := names.map Text.singleLine

/-- Whatever is shown is tidy. -/
lemma isTidy_of_mem_displayed {names : List String} {text : String}
    (h : text ∈ displayed names) : Text.IsTidy text := by
  obtain ⟨name, -, rfl⟩ := List.mem_map.1 h
  exact Text.isTidy_singleLine name

variable (names : Finset String)

/-- No name is shown twice iff different names fold to different texts. -/
lemma nodup_displayed_iff :
    (displayed names.sort).Nodup ↔ Set.InjOn Text.singleLine names := by
  unfold displayed Set.InjOn
  rw [List.nodup_map_iff_inj_on (Finset.sort_nodup _ _)]
  simp only [Finset.mem_sort, Finset.mem_coe]

/-- Names are shown in ascending order iff folding keeps theirs. -/
lemma pairwise_displayed_iff :
    (displayed names.sort).Pairwise (· ≤ ·) ↔ MonotoneOn Text.singleLine names := by
  unfold displayed
  rw [List.pairwise_map]
  have hsorted : names.sort.Pairwise (· < ·) := (Finset.sortedLT_sort names).pairwise
  constructor
  · intro hshown a ha b hb
    -- two names are compared as they stand in the list, and the other way round there is nothing to
    -- compare
    have hforth : names.sort.Pairwise fun a b =>
        a ≤ b → Text.singleLine a ≤ Text.singleLine b := by
      apply hshown.imp
      intro a b hle _
      exact hle
    have hback : names.sort.Pairwise fun a b =>
        b ≤ a → Text.singleLine b ≤ Text.singleLine a := by
      apply hsorted.imp
      intro a b hlt hle
      exact absurd hlt (not_lt.2 hle)
    exact List.Pairwise.forall_of_forall_of_flip (fun _ _ _ => le_refl _) hforth hback
      ((Finset.mem_sort _).2 ha) ((Finset.mem_sort _).2 hb)
  · intro hmono
    apply hsorted.imp_of_mem
    intro a b ha hb hlt
    exact hmono ((Finset.mem_sort _).1 ha) ((Finset.mem_sort _).1 hb) hlt.le

/-- Names are shown as they are iff all of them are tidy. -/
lemma displayed_eq_self_iff :
    displayed names.sort = names.sort ↔ ∀ name ∈ names, Text.IsTidy name := by
  have hsame : displayed names.sort = names.sort ↔
      names.sort.map Text.singleLine = names.sort.map id := by
    rw [List.map_id, displayed]
  rw [hsame, List.map_inj_left]
  simp only [Finset.mem_sort, id_eq, Text.singleLine_eq_self_iff]

end Roles

namespace Tag

/-- **What is shown of a tag, and when it is a set in order.** Everything shown is tidy. Nothing is
shown twice iff different literals fold to different texts, and what is shown is in order iff
folding keeps the order of the literals. The literals themselves are shown iff they are tidy. -/
theorem displayed_contents_iff (t : Tag) :
    Roles.render t.contents =
        "[" ++ "; ".intercalate (Roles.displayed t.contents) ++ "]" ∧
      (∀ text ∈ Roles.displayed t.contents, Text.IsTidy text) ∧
      ((Roles.displayed t.contents).Nodup ↔ Set.InjOn Text.singleLine t.literals) ∧
      ((Roles.displayed t.contents).Pairwise (· ≤ ·) ↔ MonotoneOn Text.singleLine t.literals) ∧
      (Roles.displayed t.contents = t.contents ↔ ∀ text ∈ t.literals, Text.IsTidy text) := by
  refine ⟨rfl, fun _ => Roles.isTidy_of_mem_displayed, ?_⟩
  rw [t.contents_eq_sort]
  exact ⟨Roles.nodup_displayed_iff _, Roles.pairwise_displayed_iff _,
    Roles.displayed_eq_self_iff _⟩

/-- Tidy literals are shown in strictly ascending order. -/
theorem pairwise_displayed_of_isTidy {t : Tag} (h : ∀ text ∈ t.literals, Text.IsTidy text) :
    (Roles.displayed t.contents).Pairwise (· < ·) := by
  rw [t.contents_eq_sort, (Roles.displayed_eq_self_iff _).2 h]
  exact (Finset.sortedLT_sort _).pairwise

/-- Roles of which two read the same on one line. -/
def clerks : Tag :=
  ⟨"RolesAllowed", some (.array [.literal "auditor", .literal "clerk", .literal "\n  clerk"])⟩

/-- One of the two is shown before the others, and both are shown. -/
theorem displayed_clerks :
    Roles.render clerks.contents = "[clerk; auditor; clerk]" ∧
      Roles.displayed clerks.contents = ["clerk", "auditor", "clerk"] ∧
      ¬ (Roles.displayed clerks.contents).Nodup ∧
      ¬ (Roles.displayed clerks.contents).Pairwise (· ≤ ·) := by
  decide +kernel

end Tag

end RoleAudit
