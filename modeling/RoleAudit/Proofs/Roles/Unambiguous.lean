import RoleAudit.Proofs.Roles.Display

/-!
# A rendered role set tells its members

Names without a semicolon can be read back from a rendered set. The semicolons in it are those that
stand between names, since folding a name neither makes one nor removes one, and behind each of them
comes the one space of the separator.

Only the empty set has a double: a single name with nothing to show is rendered as nothing, too.

* `Roles.splitOn_intercalate`: the names stand between the semicolons, each but the first behind its
  space.
* `Roles.render_eq_render_iff`: which lists of names are rendered alike.
-/

namespace RoleAudit.Roles

/-- A text without semicolons. -/
def IsUnbroken (s : String) : Prop := ';' ∉ s.toList

instance (s : String) : Decidable (IsUnbroken s) := inferInstanceAs (Decidable (';' ∉ s.toList))

/-- Folding makes no semicolon. -/
lemma IsUnbroken.singleLine {s : String} (h : IsUnbroken s) : IsUnbroken (Text.singleLine s) :=
  fun hmem => h ((Text.mem_singleLine (by decide) s).1 hmem)

/-! ## The names between the semicolons -/

/-- Every name but the first has a semicolon and a space in front of it. -/
lemma toList_intercalate (name : String) (rest : List String) :
    (separator.intercalate (name :: rest)).toList =
      name.toList ++ rest.flatMap fun n => ';' :: ' ' :: n.toList := by
  induction rest generalizing name with
  | nil => rw [String.intercalate_singleton, List.flatMap_nil, List.append_nil]
  | cons next rest ih =>
    rw [String.intercalate_cons_cons, String.toList_append, String.toList_append, ih,
      List.flatMap_cons, List.append_assoc]
    rfl

/-- Texts behind semicolons and spaces split at the semicolons. -/
lemma splitOn_append_flatMap {first : List Char} (hfirst : ';' ∉ first) {rest : List String}
    (hrest : ∀ n ∈ rest, IsUnbroken n) :
    (first ++ rest.flatMap fun n => ';' :: ' ' :: n.toList).splitOn ';' =
      first :: rest.map fun n => ' ' :: n.toList := by
  induction rest generalizing first with
  | nil =>
    rw [List.flatMap_nil, List.append_nil, List.map_nil]
    exact List.splitOn_eq_singleton hfirst
  | cons n rest ih =>
    obtain ⟨hn, hrest⟩ := List.forall_mem_cons.1 hrest
    have hspaced : ';' ∉ ' ' :: n.toList := List.not_mem_cons_of_ne_of_not_mem (by decide) hn
    have hbehind := ih hspaced hrest
    rw [List.flatMap_cons, List.cons_append, List.cons_append,
      List.splitOn_append_cons_self_of_not_mem hfirst, ← List.cons_append, hbehind, List.map_cons]

/-- **Names with separators between them split at the semicolons.** -/
theorem splitOn_intercalate {name : String} {rest : List String}
    (h : ∀ n ∈ name :: rest, IsUnbroken n) :
    (separator.intercalate (name :: rest)).toList.splitOn ';' =
      name.toList :: rest.map fun n => ' ' :: n.toList := by
  obtain ⟨hname, hrest⟩ := List.forall_mem_cons.1 h
  rw [toList_intercalate, splitOn_append_flatMap hname hrest]

/-- Names can be read back from what they are with separators between them. -/
lemma intercalate_cons_inj {name name' : String} {rest rest' : List String}
    (h : ∀ n ∈ name :: rest, IsUnbroken n) (h' : ∀ n ∈ name' :: rest', IsUnbroken n)
    (heq : separator.intercalate (name :: rest) = separator.intercalate (name' :: rest')) :
    name :: rest = name' :: rest' := by
  have hsplit := splitOn_intercalate h
  rw [heq, splitOn_intercalate h'] at hsplit
  obtain ⟨hname, hrest⟩ := List.cons.inj hsplit
  have hspaced : Function.Injective fun n : String => ' ' :: n.toList := by
    intro n n' hn
    exact String.toList_inj.1 (List.cons.inj hn).2
  rw [String.toList_inj.1 hname, List.map_injective_iff.2 hspaced hrest]

/-- Nothing is written only for no names, and for a single name that is empty. -/
lemma intercalate_eq_empty_iff (names : List String) :
    separator.intercalate names = "" ↔ names = [] ∨ names = [""] := by
  rcases names with _ | ⟨name, _ | ⟨next, rest⟩⟩
  · exact iff_of_true rfl (.inl rfl)
  · rw [String.intercalate_singleton]
    simp
  · rw [← String.toList_inj, toList_intercalate]
    simp

/-! ## Rendered sets -/

/-- The brackets tell nothing. -/
lemma render_inj (names names' : List String) :
    render names = render names' ↔
      separator.intercalate (names.map Text.singleLine) =
        separator.intercalate (names'.map Text.singleLine) := by
  rw [← String.toList_inj, toList_render, toList_render, ← String.toList_inj]
  constructor
  · intro h
    exact List.append_cancel_right (List.cons.inj h).2
  · intro h
    rw [h]

/-- **Lists of names without semicolons are rendered alike only if the names are folded alike**, one by
one. The exception is the empty list, which is rendered like any single name with nothing to show. -/
theorem render_eq_render_iff {xs ys : List String} (hxs : ∀ v ∈ xs, IsUnbroken v)
    (hys : ∀ v ∈ ys, IsUnbroken v) :
    render xs = render ys ↔
      xs.map Text.singleLine = ys.map Text.singleLine ∨
        (xs = [] ∧ ∃ v, ys = [v] ∧ Text.singleLine v = "") ∨
        (ys = [] ∧ ∃ v, xs = [v] ∧ Text.singleLine v = "") := by
  have hfolded : ∀ {names : List String}, (∀ v ∈ names, IsUnbroken v) →
      ∀ n ∈ names.map Text.singleLine, IsUnbroken n := by
    intro names hnames n hn
    obtain ⟨v, hv, rfl⟩ := List.mem_map.1 hn
    exact (hnames v hv).singleLine
  have hnothing : ∀ names : List String, separator.intercalate (names.map Text.singleLine) = "" ↔
      names = [] ∨ ∃ v, names = [v] ∧ Text.singleLine v = "" := by
    intro names
    rw [intercalate_eq_empty_iff, List.map_eq_nil_iff, List.map_eq_singleton_iff]
  rw [render_inj]
  rcases xs with _ | ⟨x, xs⟩
  · rw [List.map_nil, String.intercalate_nil, eq_comm, hnothing]
    rcases ys with _ | ⟨y, ys⟩ <;> simp
  rcases ys with _ | ⟨y, ys⟩
  · rw [List.map_nil, String.intercalate_nil, hnothing]
    simp
  -- two lists with a member each, which are split at the semicolons
  have hiff : separator.intercalate ((x :: xs).map Text.singleLine) =
      separator.intercalate ((y :: ys).map Text.singleLine) ↔
        (x :: xs).map Text.singleLine = (y :: ys).map Text.singleLine :=
    ⟨intercalate_cons_inj (hfolded hxs) (hfolded hys), congrArg separator.intercalate⟩
  rw [hiff]
  simp

/-- Two texts that are folded alike, between brackets and white space of their own. -/
theorem render_eq_render_folded :
    (∀ v ∈ ["[a]\n  b", " c "], IsUnbroken v) ∧ (∀ v ∈ ["[a] b", "c"], IsUnbroken v) ∧
      render ["[a]\n  b", " c "] = render ["[a] b", "c"] := by
  have hxs : ∀ v ∈ ["[a]\n  b", " c "], IsUnbroken v := by decide
  have hys : ∀ v ∈ ["[a] b", "c"], IsUnbroken v := by decide
  exact ⟨hxs, hys, (render_eq_render_iff hxs hys).2 (.inl (by decide +kernel))⟩

end RoleAudit.Roles
