import RoleAudit.Proofs.Policy.Scopes
import RoleAudit.Proofs.Roles.Display

/-!
# What the columns of a report say

A line of the report is written with a comma after each field and without quotes, and what everybody
may call shows `[all]`. Both conventions share their signs with the texts of a source. This file says
exactly when they can be told apart.

* `Declaration.columns_eq_fields_iff`: a line splits at its commas into its fields iff no text that it
  shows has a comma.
* `Declaration.roles_eq_everyone_iff`: `[all]` stands for `PermitAll`, or for a single role that
  reads `all`.
-/

namespace RoleAudit

/-! ## Columns -/

namespace Text

/-- A character of names: a letter, a digit, one of two signs, or no printable ASCII at all. -/
def IsNamePart (c : Char) : Prop :=
  c.isAlphanum = true ∨ c = '_' ∨ c = '$' ∨ c.toNat < 0x20 ∨ 0x7F ≤ c.toNat

/-- A text that can be the name of a type or a method. -/
def IsIdentifier (s : String) : Prop := s ≠ "" ∧ ∀ c ∈ s.toList, IsNamePart c

instance : DecidablePred IsNamePart := fun c =>
  inferInstanceAs (Decidable
    (c.isAlphanum = true ∨ c = '_' ∨ c = '$' ∨ c.toNat < 0x20 ∨ 0x7F ≤ c.toNat))

instance (s : String) : Decidable (IsIdentifier s) :=
  -- the characters of the text are tried, not all that there are
  @instDecidableAnd _ _ _ (List.decidableBAll IsNamePart s.toList)

lemma IsIdentifier.comma_not_mem {s : String} (h : IsIdentifier s) : ',' ∉ s.toList := by
  intro hmem
  have hpart : ¬ IsNamePart ',' := by decide
  exact hpart (h.2 _ hmem)

end Text

namespace Row

/-- The columns of a row, for a reader who splits its line at the commas. -/
def columns (r : Row) : List String :=
  (r.line.toList.dropLast.splitOn ',').map String.ofList

/-- What a row puts on its line: its fields and an empty one, with commas between them. -/
def written (r : Row) : List Char := [','].intercalate ((r.fields ++ [""]).map String.toList)

lemma line_eq (r : Row) : r.line.toList = r.written ++ ['\n'] := by
  unfold line written fields
  simp only [String.toList_append, List.cons_append, List.nil_append, List.map_cons, List.map_nil,
    List.intercalate_cons_cons, List.intercalate_singleton, List.append_assoc]
  rfl

/-- No part of a split text has the sign at which it was split. -/
lemma not_mem_of_mem_splitOn {sep : Char} {text : List Char} :
    ∀ {part : List Char}, part ∈ text.splitOn sep → sep ∉ part := by
  induction text with
  | nil =>
    intro part h
    rw [List.splitOn_nil, List.mem_singleton] at h
    rw [h]
    exact List.not_mem_nil
  | cons c text ih =>
    intro part h
    rw [List.splitOn_cons_eq_if_modifyHead] at h
    by_cases hc : c = sep
    · rw [if_pos (beq_iff_eq.2 hc)] at h
      rcases List.mem_cons.1 h with rfl | h
      · exact List.not_mem_nil
      · exact ih h
    · rw [if_neg (mt beq_iff_eq.1 hc)] at h
      rcases hsplit : text.splitOn sep with _ | ⟨first, rest⟩
      · exact absurd hsplit (List.splitOn_ne_nil sep text)
      · rw [hsplit, List.modifyHead_cons] at h
        rw [hsplit] at ih
        rcases List.mem_cons.1 h with rfl | h
        · -- the character before the first part is not the sign either
          rw [List.mem_cons, not_or]
          exact ⟨Ne.symm hc, ih List.mem_cons_self⟩
        · exact ih (List.mem_cons_of_mem _ h)

/-- **When a line splits into its fields**: no field may have a comma. -/
theorem columns_eq_iff (r : Row) :
    r.columns = r.fields ++ [""] ↔ ∀ field ∈ r.fields, ',' ∉ field.toList := by
  constructor
  · intro h field hfield
    have hmem : field ∈ r.columns := by
      rw [h]
      exact List.mem_append_left _ hfield
    obtain ⟨part, hpart, rfl⟩ := List.mem_map.1 hmem
    rw [String.toList_ofList]
    exact not_mem_of_mem_splitOn hpart
  · intro h
    have hcomma : ∀ part ∈ (r.fields ++ [""]).map String.toList, ',' ∉ part := by
      intro part hpart
      obtain ⟨field, hfield, rfl⟩ := List.mem_map.1 hpart
      rcases List.mem_append.1 hfield with hfield | hfield
      · exact h field hfield
      · rw [List.mem_singleton.1 hfield]
        exact List.not_mem_nil
    unfold columns
    rw [line_eq, List.dropLast_concat, written, List.splitOn_intercalate ',' hcomma (by simp), List.map_map]
    simp

end Row

/-- A set of texts is shown with a comma iff one of the texts has one. -/
lemma comma_mem_shown (texts : Finset String) :
    ',' ∈ (shown texts).toList ↔ ∃ text ∈ texts, ',' ∈ text.toList := by
  unfold shown
  rw [Roles.mem_render (by decide) (by decide)]
  simp only [Finset.mem_sort]

namespace Declaration

/-- A method with a row is a member of its type. -/
lemma mem_members_of_mem_scopes {d : Declaration} {m : Member} (h : .method m ∈ d.scopes) :
    m ∈ d.members ∧ m.kind = .method := by
  unfold scopes at h
  split_ifs at h with _ _ hmanaged
  · cases h
  · rw [List.mem_singleton] at h
    cases h
  · obtain ⟨n, hn, heq⟩ := List.mem_map.1 h
    obtain ⟨hmem, hreports⟩ := List.mem_filter.1 hn
    cases heq
    exact ⟨hmem, (of_decide_eq_true hreports).method⟩
  · cases h

/-- **When the lines of a declaration split into their fields.** The names in them have no commas, but
the texts may: the description shows as it is, and so do the roles if they are shown at all. -/
theorem columns_eq_fields_iff (d : Declaration) (hname : Text.IsIdentifier d.name)
    (hmembers : ∀ m ∈ d.members, m.kind = .method → Text.IsIdentifier m.name) :
    d.rows = d.scopes.map d.rowOf ∧
      ∀ s ∈ d.scopes,
        (d.rowOf s).columns = (d.rowOf s).fields ++ [""] ↔
          (∀ text ∈ d.textsOf s, ',' ∉ text.toList) ∧
            (d.IsOpen s ∨ ∀ role ∈ d.rolesOf s, ',' ∉ role.toList) := by
  refine ⟨d.rows_eq_map_scopes, ?_⟩
  intro s hs
  have hmember : ',' ∉ (d.rowOf s).memberName.toList := by
    cases s with
    | whole =>
      have hstar : ',' ∉ "*".toList := by decide
      exact hstar
    | method m =>
      obtain ⟨hmem, hkind⟩ := mem_members_of_mem_scopes hs
      exact (hmembers m hmem hkind).comma_not_mem
  have htexts : ',' ∉ (d.rowOf s).description.toList ↔ ∀ text ∈ d.textsOf s, ',' ∉ text.toList := by
    have hshown := not_congr (comma_mem_shown (d.textsOf s))
    push Not at hshown
    exact hshown
  have hroles : ',' ∉ (d.rowOf s).roles.toList ↔
      d.IsOpen s ∨ ∀ role ∈ d.rolesOf s, ',' ∉ role.toList := by
    have hshown := not_congr (comma_mem_shown (d.rolesOf s))
    push Not at hshown
    unfold rowOf
    by_cases hopen : d.IsOpen s
    · have heveryone : ',' ∉ "[all]".toList := by decide
      rw [if_pos hopen]
      exact iff_of_true heveryone (Or.inl hopen)
    · rw [if_neg hopen, or_iff_right hopen]
      exact hshown
  rw [Row.columns_eq_iff]
  unfold Row.fields
  rw [List.forall_mem_cons, List.forall_mem_cons, List.forall_mem_cons, List.forall_mem_singleton,
    htexts, hroles]
  constructor
  · rintro ⟨-, -, hfields⟩
    exact hfields
  · intro hfields
    exact ⟨hname.comma_not_mem, hmember, hfields⟩

/-- A class with a description, open to the callers of one role. -/
def described (text role : String) : Declaration where
  kind := .classType
  name := "Ledger"
  tags := [⟨"Description", some (.literal text)⟩, ⟨"RolesAllowed", some (.literal role)⟩]

/-- The line of a class without commas in its texts splits into its fields. -/
theorem columns_described :
    Text.IsIdentifier "Ledger" ∧
      ((described "reads" "clerk").rowOf .whole).columns =
        ["Ledger", "*", "[reads]", "[clerk]", ""] := by
  have hname : Text.IsIdentifier "Ledger" := by decide +kernel
  have hmembers : ∀ m ∈ (described "reads" "clerk").members,
      m.kind = .method → Text.IsIdentifier m.name := fun m hm => nomatch hm
  have hscope : Scope.whole ∈ (described "reads" "clerk").scopes := List.mem_singleton_self _
  obtain ⟨-, hcolumns⟩ := columns_eq_fields_iff (described "reads" "clerk") hname hmembers
  have htexts : ∀ text ∈ (described "reads" "clerk").textsOf .whole, ',' ∉ text.toList := by decide
  have hroles : ∀ role ∈ (described "reads" "clerk").rolesOf .whole, ',' ∉ role.toList := by decide
  refine ⟨hname, ?_⟩
  rw [(hcolumns _ hscope).2 ⟨htexts, Or.inr hroles⟩]
  decide +kernel

/-- A comma in the description moves the roles out of their column. -/
theorem columns_described_comma :
    Text.IsIdentifier (described "reads, writes" "clerk").name ∧
      (described "reads, writes" "clerk").members = [] ∧
      (described "reads, writes" "clerk").rows.map Row.columns =
        [["Ledger", "*", "[reads", " writes]", "[clerk]", ""]] :=
  ⟨by decide +kernel, rfl, by decide +kernel⟩

/-! ## Everyone -/

/-- **What `[all]` stands for**: everybody has access, or the only role that has reads `all`. -/
theorem roles_eq_everyone_iff (d : Declaration) :
    d.rows = d.scopes.map d.rowOf ∧
      ∀ s, (d.rowOf s).roles = "[all]" ↔
        d.IsOpen s ∨ ∃ role, d.rolesOf s = {role} ∧ Text.singleLine role = "all" := by
  refine ⟨d.rows_eq_map_scopes, ?_⟩
  intro s
  unfold rowOf
  by_cases hopen : d.IsOpen s
  · rw [if_pos hopen]
    exact iff_of_true rfl (Or.inl hopen)
  · rw [if_neg hopen, or_iff_right hopen]
    unfold shown
    rw [Roles.render_eq_everyone_iff]
    have hsingle : ∀ role, (d.rolesOf s).sort = [role] ↔ d.rolesOf s = {role} := by
      intro role
      rw [Roles.sort_eq_iff (List.pairwise_singleton _ _)]
      rfl
    simp only [hsingle]

/-- A role of the name `all` is shown as if everybody had access. -/
theorem roles_described_all :
    (described "reads" "all").rows = [⟨"Ledger", "*", "[reads]", "[all]"⟩] ∧
      ¬ (described "reads" "all").IsOpen .whole :=
  ⟨by decide +kernel, by decide⟩

end Declaration

end RoleAudit
