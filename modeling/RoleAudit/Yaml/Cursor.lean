import RoleAudit.Yaml.Error

/-!
# Reading through a settings text

A cursor is a place in a text together with the text that is left. It knows its line and column; a
byte order mark takes no column.
-/

namespace RoleAudit.Yaml

/-- The text that is left, and where it starts. -/
structure Cursor where
  rest : List Char
  mark : Mark := {}
  deriving Repr, Inhabited

namespace Cursor

/-- The character so many places ahead. -/
def peek (c : Cursor) (ahead : Nat) : Char := c.rest[ahead]?.getD endMark

/-- The next character. -/
def head (c : Cursor) : Char := c.rest.head?.getD endMark

/-- The place behind a character, given what comes after it. -/
def markAfter (m : Mark) (c : Char) (rest : List Char) : Mark :=
  if (isBreak c && c != '\r') || (c == '\r' && rest.head? != some '\n') then
    ⟨m.index + 1, m.line + 1, 0⟩
  else if c.toNat == 0xFEFF then { m with index := m.index + 1 }
  else { m with index := m.index + 1, column := m.column + 1 }

/-- Goes over so many characters. -/
def advance (c : Cursor) : Nat → Cursor
  | 0 => c
  | n + 1 =>
    match c.rest with
    | [] => c
    | x :: rest => advance ⟨rest, markAfter c.mark x rest⟩ n

/-- The characters at the front with a property. -/
def span (c : Cursor) (p : Char → Bool) : List Char := c.rest.takeWhile p

/-- Goes over the characters at the front with a property. -/
def skip (c : Cursor) (p : Char → Bool) : Cursor := c.advance (c.span p).length

/-- Takes the characters at the front with a property. -/
def take (c : Cursor) (p : Char → Bool) : List Char × Cursor :=
  let cs := c.span p
  (cs, c.advance cs.length)

/-- Goes over spaces. -/
def skipSpaces (c : Cursor) : Cursor := c.skip (· == ' ')

/-- Goes over the rest of a line if it is a comment. -/
def skipComment (c : Cursor) : Cursor :=
  if c.head == '#' then c.skip fun x => !isLineEnd x else c

/-- Goes over a line break. Gives it as it counts in a text: most are a line feed, the Unicode
separators stay. -/
def lineBreak (c : Cursor) : List Char × Cursor :=
  let x := c.head
  if x == '\r' || x == '\n' || x == '\x85' then
    (['\n'], c.advance (if x == '\r' && c.peek 1 == '\n' then 2 else 1))
  else if x == '\u2028' || x == '\u2029' then ([x], c.advance 1)
  else ([], c)

/-- Three characters at the front that end or begin a document. -/
def atSeparator (c : Cursor) : Bool :=
  (c.rest.take 3 == ['-', '-', '-'] || c.rest.take 3 == ['.', '.', '.']) && isGap (c.peek 3)

/-- A bound for loops that go over at least one character each time. -/
def fuel (c : Cursor) : Nat := c.rest.length + 1

end Cursor

/-- An error in making tokens. -/
def tokenError {α : Type} (activity : Activity) (since : Mark) (problem : Problem) (c : Cursor) :
    Except Error α :=
  .error { phase := .tokens, activity, since, problem, mark := c.mark }

/-- A letter or digit, or one of the two signs that names may hold. -/
def isNameChar (c : Char) : Bool := c.isAlphanum || c == '-' || c == '_'

end RoleAudit.Yaml
