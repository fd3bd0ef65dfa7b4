import Mathlib.Data.Nat.Digits.Defs
import RoleAudit.Value.Text

/-!
# Values that can be written out

Only whole numbers can be too long to be written out. So a container can be written out if everything
in it can, and a dictionary stays so when an entry is set.

* `Value.IsWritable`, `Value.AreWritable`: values and entries that can be written out.
* `Value.isWritable_int`: a whole number with few enough digits is one.
* `Value.isWritable_list`, `Value.isWritable_dict`: containers.
-/

namespace RoleAudit

namespace Value

/-- A value that can be written as a literal. -/
def IsWritable (v : Value) : Prop := ∃ s, v.literal = .ok s

lemma isWritable_int {i : Int} {n : Nat} (hn : n ≤ digitLimit) (hpos : 0 < n)
    (h : i.natAbs < 10 ^ n) : (int i).IsWritable := by
  have hlength : (Nat.toDigits 10 i.natAbs).length ≤ n := Nat.toDigits_length 10 _ n hpos h
  unfold IsWritable literal integerText
  exact ⟨_, if_neg (Nat.not_lt.2 (hlength.trans hn))⟩

lemma exists_literals_iff {vs : List Value} :
    (∃ ts, literals vs = .ok ts) ↔ ∀ v ∈ vs, v.IsWritable := by
  induction vs with
  | nil => exact ⟨fun _ _ hv => (nomatch hv), fun _ => ⟨[], rfl⟩⟩
  | cons v vs ih =>
    rw [List.forall_mem_cons, ← ih, literals]
    unfold IsWritable
    cases literal v with
    | error l => exact iff_of_false (fun ⟨_, h⟩ => nomatch h) fun ⟨⟨_, h⟩, _⟩ => nomatch h
    | ok t =>
      cases literals vs with
      | error l => exact iff_of_false (fun ⟨_, h⟩ => nomatch h) fun ⟨_, _, h⟩ => nomatch h
      | ok ts => exact iff_of_true ⟨_, rfl⟩ ⟨⟨_, rfl⟩, _, rfl⟩

/-- A list can be written out if all of its items can. -/
lemma isWritable_list {vs : List Value} : (list vs).IsWritable ↔ ∀ v ∈ vs, v.IsWritable := by
  rw [← exists_literals_iff]
  unfold IsWritable literal
  cases literals vs with
  | error l => exact iff_of_false (fun ⟨_, h⟩ => nomatch h) fun ⟨_, h⟩ => nomatch h
  | ok ts => exact iff_of_true ⟨_, rfl⟩ ⟨_, rfl⟩

/-- Entries whose keys and values can be written out. -/
def AreWritable (es : List (Value × Value)) : Prop := ∀ e ∈ es, e.1.IsWritable ∧ e.2.IsWritable

lemma exists_entryLiterals_iff {es : List (Value × Value)} :
    (∃ ts, entryLiterals es = .ok ts) ↔ AreWritable es := by
  induction es with
  | nil => exact ⟨fun _ _ he => (nomatch he), fun _ => ⟨[], rfl⟩⟩
  | cons e es ih =>
    unfold AreWritable at ih ⊢
    rw [List.forall_mem_cons, ← ih, entryLiterals]
    unfold IsWritable
    cases literal e.1 with
    | error l => exact iff_of_false (fun ⟨_, h⟩ => nomatch h) fun ⟨⟨⟨_, h⟩, _⟩, _⟩ => nomatch h
    | ok k =>
      cases literal e.2 with
      | error l => exact iff_of_false (fun ⟨_, h⟩ => nomatch h) fun ⟨⟨_, _, h⟩, _⟩ => nomatch h
      | ok v =>
        cases entryLiterals es with
        | error l => exact iff_of_false (fun ⟨_, h⟩ => nomatch h) fun ⟨_, _, h⟩ => nomatch h
        | ok ts => exact iff_of_true ⟨_, rfl⟩ ⟨⟨⟨_, rfl⟩, _, rfl⟩, _, rfl⟩

/-- A dictionary can be written out if all of its entries can. -/
lemma isWritable_dict {es : List (Value × Value)} : (dict es).IsWritable ↔ AreWritable es := by
  rw [← exists_entryLiterals_iff]
  unfold IsWritable literal
  cases entryLiterals es with
  | error l => exact iff_of_false (fun ⟨_, h⟩ => nomatch h) fun ⟨_, h⟩ => nomatch h
  | ok ts => exact iff_of_true ⟨_, rfl⟩ ⟨_, rfl⟩

/-- Such a value can be shown as well. -/
lemma IsWritable.shown_ne_error {v : Value} (h : v.IsWritable) (l : DigitLimit) :
    v.shown ≠ .error l := by
  obtain ⟨s, hs⟩ := h
  unfold shown
  split
  · nofun
  · nofun
  · nofun
  · rw [hs]
    nofun

lemma areWritable_put {k v : Value} {es : List (Value × Value)} (hk : k.IsWritable)
    (hv : v.IsWritable) (h : AreWritable es) : AreWritable (put k v es) := by
  induction es with
  | nil => exact List.forall_mem_singleton.2 ⟨hk, hv⟩
  | cons e es ih =>
    obtain ⟨he, hrest⟩ := List.forall_mem_cons.1 h
    unfold put
    split
    · exact List.forall_mem_cons.2 ⟨⟨he.1, hv⟩, hrest⟩
    · exact List.forall_mem_cons.2 ⟨he, ih hrest⟩

/-- The entries that are set one after the other, onto entries that are there. -/
lemma areWritable_ofEntries {es : List (Value × Value)} (h : AreWritable es) :
    AreWritable (ofEntries es) := by
  have hfold : ∀ acc, AreWritable acc →
      AreWritable (es.foldl (fun acc e => put e.1 e.2 acc) acc) := by
    induction es with
    | nil => exact fun acc hacc => hacc
    | cons e es ih =>
      obtain ⟨⟨hk, hv⟩, hrest⟩ := List.forall_mem_cons.1 h
      exact fun acc hacc => ih hrest _ (areWritable_put hk hv hacc)
  exact hfold [] fun _ he => nomatch he

end Value

end RoleAudit
