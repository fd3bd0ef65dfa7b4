import Mathlib.Data.List.TakeWhile
import RoleAudit.Text.Encoding

/-!
# Texts as bytes, character by character

Each of the encodings turns a text into bytes one character after the other, and refuses it if there
is a character that it does not know.

* `Encoding.encode_of_covers`: a text whose characters are known becomes their bytes in a row.
* `Encoding.exists_encode_eq_error`: any other text is refused.
-/

namespace RoleAudit.Text.Encoding

/-- The encoding has bytes for the character. -/
def Knows (e : Encoding) (c : Char) : Prop := ∀ limit ∈ e.limit?, c.toNat < limit

/-- The encoding has bytes for every character of the text. -/
def Covers (e : Encoding) (s : String) : Prop := ∀ c ∈ s.toList, e.Knows c

instance (e : Encoding) (s : String) : Decidable (e.Covers s) :=
  have : DecidablePred e.Knows := fun c =>
    inferInstanceAs (Decidable (∀ limit ∈ e.limit?, c.toNat < limit))
  List.decidableBAll e.Knows s.toList

/-- The bytes of a character that the encoding knows. -/
def charBytes (e : Encoding) (c : Char) : List UInt8 :=
  match e.limit? with
  | none => String.utf8EncodeChar c
  | some _ => [UInt8.ofNat c.toNat]

/-- The bytes of a text that the encoding covers. -/
def bytes (e : Encoding) (s : String) : List UInt8 := s.toList.flatMap e.charBytes

/-- The encoding that names itself so is found under its name. -/
lemma ofName?_name (e : Encoding) : ofName? e.name = some e := by cases e <;> rfl

lemma drop_length_takeWhile {α : Type} (p : α → Bool) (as : List α) :
    as.drop (as.takeWhile p).length = as.dropWhile p :=
  calc as.drop (as.takeWhile p).length
      = (as.takeWhile p ++ as.dropWhile p).drop (as.takeWhile p).length := by
        rw [List.takeWhile_append_dropWhile]
    _ = as.dropWhile p := List.drop_left

/-- Behind the characters that are known comes nothing, just if the encoding covers the text. -/
lemma drop_known_eq_nil_iff {e : Encoding} {limit : Nat} (h : e.limit? = some limit) (s : String) :
    s.toList.drop (s.toList.takeWhile fun c => !decide (limit ≤ c.toNat)).length = [] ↔
      e.Covers s := by
  rw [drop_length_takeWhile, List.dropWhile_eq_nil_iff]
  unfold Covers Knows
  simp only [h, Option.mem_some_iff, forall_eq', Bool.not_eq_true', decide_eq_false_iff_not, Nat.not_le]

/-- **A text whose characters are known becomes their bytes.** -/
theorem encode_of_covers {e : Encoding} {s : String} (h : e.Covers s) :
    e.encode s = .ok (e.bytes s) := by
  unfold encode bytes charBytes
  rcases hlimit : e.limit? with _ | limit
  · rfl
  · dsimp only
    rw [(drop_known_eq_nil_iff hlimit s).2 h, List.map_eq_flatMap]

/-- **A text with another character is refused.** -/
theorem exists_encode_eq_error {e : Encoding} {s : String} (h : ¬ e.Covers s) :
    ∃ error, e.encode s = .error error := by
  unfold encode
  rcases hlimit : e.limit? with _ | limit
  · refine absurd ?_ h
    intro c _ limit hmem
    rw [hlimit] at hmem
    cases hmem
  · dsimp only
    have hrest := (drop_known_eq_nil_iff hlimit s).not.2 h
    split
    · next hnil => exact absurd hnil hrest
    · exact ⟨_, rfl⟩

end RoleAudit.Text.Encoding
