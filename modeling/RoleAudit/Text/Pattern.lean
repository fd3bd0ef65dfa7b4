/-!
# Patterns

A pattern is matched at the front of a text and says how many characters it takes. A part that may
take any number takes as many as it can, and gives characters back, one at a time, while what comes
behind it in the pattern does not match.

* `Pattern.most`, `Pattern.atLeastOne`: the parts, each with the rest of the pattern.
* `Pattern.replace`: puts a text in the place of each match, from left to right.
-/

namespace RoleAudit.Text

/-- How many characters are taken at the front of a text, if there is a match. -/
abbrev Pattern := List Char → Option Nat

namespace Pattern

/-- The end of a pattern, which takes nothing. -/
def done : Pattern := fun _ => some 0

/-- As many characters of a kind as leave a match of the rest behind them, maybe none. -/
def most (kind : Char → Bool) (rest : Pattern) : Pattern
  | [] => rest []
  | c :: cs =>
    if kind c then (most kind rest cs).map (· + 1) <|> rest (c :: cs) else rest (c :: cs)

/-- The same, but one at least. -/
def atLeastOne (kind : Char → Bool) (rest : Pattern) : Pattern
  | [] => none
  | c :: cs => if kind c then (most kind rest cs).map (· + 1) else none

/-- Replaces the matches by `new`, leaving out the characters that the last one still takes. Where
nothing is taken there is nothing to replace. -/
def replaceFrom (pattern : Pattern) (new : List Char) : Nat → List Char → List Char
  | _, [] => []
  | taken + 1, _ :: cs => replaceFrom pattern new taken cs
  | 0, c :: cs =>
    match pattern (c :: cs) with
    | some (taken + 1) => new ++ replaceFrom pattern new taken cs
    | _ => c :: replaceFrom pattern new 0 cs

/-- Replaces each match by `new`. The next match is looked for behind the last one. -/
def replace (pattern : Pattern) (new cs : List Char) : List Char := replaceFrom pattern new 0 cs

variable {kind : Char → Bool} {c : Char}

/-- What is of another kind is left to the rest of the pattern. -/
theorem most_cons_of_neg (h : kind c = false) (rest : Pattern) (cs : List Char) :
    most kind rest (c :: cs) = rest (c :: cs) := by
  simp [most, h]

/-- A character is given back only if there is no match with it. -/
theorem most_cons_of_pos (h : kind c = true) (rest : Pattern) (cs : List Char) :
    most kind rest (c :: cs) = ((most kind rest cs).map (· + 1) <|> rest (c :: cs)) := by
  simp [most, h]

theorem atLeastOne_cons_of_neg (h : kind c = false) (rest : Pattern) (cs : List Char) :
    atLeastOne kind rest (c :: cs) = none := by
  simp [atLeastOne, h]

theorem atLeastOne_cons_of_pos (h : kind c = true) (rest : Pattern) (cs : List Char) :
    atLeastOne kind rest (c :: cs) = (most kind rest cs).map (· + 1) := by
  simp [atLeastOne, h]

variable {pattern : Pattern} {new cs : List Char}

/-- Where there is no match, a character stays. -/
theorem replace_cons_of_none (h : pattern (c :: cs) = none) :
    pattern.replace new (c :: cs) = c :: pattern.replace new cs := by
  simp [replace, replaceFrom, h]

/-- What is taken is left out. -/
theorem replaceFrom_length (pattern : Pattern) (new taken rest : List Char) :
    pattern.replaceFrom new taken.length (taken ++ rest) = pattern.replace new rest := by
  induction taken with
  | nil => rfl
  | cons c taken ih => exact ih

/-- A match is replaced, and what is behind it is looked at next. -/
theorem replace_append_of_some {taken rest : List Char}
    (h : pattern (c :: taken ++ rest) = some (taken.length + 1)) :
    pattern.replace new (c :: taken ++ rest) = new ++ pattern.replace new rest := by
  rw [List.cons_append] at h
  rw [List.cons_append, replace, replaceFrom, h, ← replaceFrom_length]

end Pattern

end RoleAudit.Text
