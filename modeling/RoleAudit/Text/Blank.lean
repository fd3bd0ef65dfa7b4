/-!
# White space

The characters that count as white space in every rule of this library that trims or folds text, and
the trimming itself. The set is Unicode's white space together with the four information separators
U+001C to U+001F; it is wider than the blank and the line breaks that most formats know.

Trimming works on `List Char`; the `String` forms are thin wrappers.
-/

namespace RoleAudit.Text

/-- White space: the ASCII controls from tab to carriage return, the information separators, the
space, and the Unicode spaces and separators. -/
def isBlank (c : Char) : Bool :=
  let n := c.toNat
  (0x09 ≤ n && n ≤ 0x0D) || (0x1C ≤ n && n ≤ 0x20) || n == 0x85 || n == 0xA0 || n == 0x1680 ||
  (0x2000 ≤ n && n ≤ 0x200A) || n == 0x2028 || n == 0x2029 || n == 0x202F || n == 0x205F ||
  n == 0x3000

/-- A carriage return or a line feed. -/
def isBreak (c : Char) : Bool := c == '\r' || c == '\n'

/-- Every line break is white space. -/
theorem isBlank_of_isBreak {c : Char} (h : isBreak c = true) : isBlank c = true := by
  simp only [isBreak, Bool.or_eq_true, beq_iff_eq] at h
  rcases h with rfl | rfl <;> decide

/-! ## Trimming -/

/-- Removes the white space at the end. -/
def trimEnd (cs : List Char) : List Char := (cs.reverse.dropWhile isBlank).reverse

/-- Removes the white space at both ends. -/
def trimChars (cs : List Char) : List Char := trimEnd (cs.dropWhile isBlank)

/-- Removes the white space at both ends of a text. -/
def trim (s : String) : String := String.ofList (trimChars s.toList)

/-- A text with nothing but white space in it. -/
def isBlankText (s : String) : Bool := s.toList.all isBlank

/-- A text that begins with something is not empty. -/
theorem append_ne_empty_left {s : String} (h : s ≠ "") (t : String) : s ++ t ≠ "" :=
  fun happend => h (String.append_eq_empty_iff.1 happend).1

/-- A text that ends in something is not empty. -/
theorem append_ne_empty_right {t : String} (h : t ≠ "") (s : String) : s ++ t ≠ "" :=
  fun happend => h (String.append_eq_empty_iff.1 happend).2

@[simp] theorem trimEnd_nil : trimEnd [] = [] := rfl

@[simp] theorem trimChars_nil : trimChars [] = [] := rfl

/-- Trimming keeps only characters of the text. -/
theorem mem_of_mem_trimChars {c : Char} {cs : List Char} (h : c ∈ trimChars cs) : c ∈ cs := by
  have h' := List.mem_reverse.1 h
  have h'' := List.mem_reverse.1 ((List.dropWhile_sublist _).mem h')
  exact (List.dropWhile_sublist _).mem h''

end RoleAudit.Text
