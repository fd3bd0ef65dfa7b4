import RoleAudit.Source.Tree
import RoleAudit.Source.Grammar.Automaton

/-!
# Tokens

How the next token of a source is read. What is a token depends on what the grammar expects: a word
is a keyword only where that keyword may stand, and inside a string white space and comments are
text. Of the terminals that are expected, the one that reaches furthest is read. Only closing angle
brackets are read in every length that fits, since two of them may close two lists of types or be
one operator.
-/

namespace RoleAudit.Source

open RoleAudit.Text

/-- A node and the comments in front of it. -/
structure Piece where
  comments : List Tree
  tree : Tree
  deriving Inhabited

/-! ## White space and comments -/

/-- White space between tokens: the ASCII kinds, and a byte order mark at the very start. -/
def isSpace (p : Point) (g : Glyph) : Bool :=
  match g with
  | .char c =>
    let n := c.toNat
    (0x09 ≤ n && n ≤ 0x0D) || n == 0x20 || (n == 0xFEFF && p == Point.start)
  | .stray _ => false

/-- The length of a block comment after its opening, up to and with its end. -/
def blockCommentLength? : List Glyph → Option Nat
  | g :: h :: rest =>
    if g.isChar '*' && h.isChar '/' then some 2
    else if isNone [] g then (blockCommentLength? (h :: rest)).map (· + 1)
    else none
  | _ => none

/-- The length of the comment at the front. -/
def commentReach : Reach
  | g :: h :: rest =>
    if g.isChar '/' && h.isChar '/' then some (2 + (rest.takeWhile (isNone ['\n'])).length)
    else if g.isChar '/' && h.isChar '*' then (blockCommentLength? rest).map (· + 2)
    else none
  | _ => none

/-- What stands in front of a token. -/
structure Lead where
  /-- The comments, last first. -/
  comments : List Tree
  /-- The white space since the last comment, last glyph first. -/
  gap : List Glyph
  /-- Where the token starts. -/
  point : Point
  /-- How many glyphs were passed. -/
  passed : Nat
  /-- The text from the token on. -/
  rest : List Glyph

/-- Passes over white space and comments. -/
def Lead.skip (lead : Lead) : List Glyph → Lead
  | [] => { lead with rest := [] }
  | g :: rest =>
    if isSpace lead.point g then
      skip { lead with
        gap := g :: lead.gap
        point := lead.point.after g
        passed := lead.passed + 1 } rest
    else
      match commentReach (g :: rest) with
      | none => { lead with rest := g :: rest }
      | some n =>
        let text := g :: rest.take (n - 1)
        let comment := Tree.leaf .comment none lead.point false lead.gap.reverse text
        skip { lead with
          comments := comment :: lead.comments, gap := []
          point := lead.point.afterAll text, passed := lead.passed + text.length }
          (rest.drop (n - 1))
termination_by gs => gs.length
decreasing_by all_goals simp only [List.length_cons, List.length_drop]; omega

/-- What stands in front of the next token of a text. -/
def Lead.ofText (p : Point) (gs : List Glyph) : Lead :=
  skip ⟨[], [], p, 0, gs⟩ gs

/-- Nothing in front of the next token. -/
def Lead.bare (p : Point) (gs : List Glyph) : Lead := ⟨[], [], p, 0, gs⟩

/-- Passes over the comments of a text block. What looks like a comment there is text, unless it
reaches further than the text, that is, beyond the next quote or escape. -/
def Lead.skipBeyondText (lead : Lead) (gs : List Glyph) : Lead :=
  let gap := gs.takeWhile (isSpace lead.point)
  match commentReach (gs.drop gap.length) with
  | none => { lead with rest := gs }
  | some n =>
    if (gs.take ((blockFragmentReach gs).getD 0)).length < (gs.take (gap.length + n)).length then
      let text := (gs.drop gap.length).take n
      let comment := Tree.leaf .comment none (lead.point.afterAll gap) false gap text
      skipBeyondText { lead with
        comments := comment :: lead.comments
        point := (lead.point.afterAll gap).afterAll text
        passed := lead.passed + gap.length + text.length }
        (gs.drop (gap.length + n))
    else { lead with rest := gs }
termination_by gs.length
decreasing_by simp only [gap, List.length_drop, List.length_take] at *; omega

/-! ## Tokens -/

/-- A token that can be read, and what follows it. -/
structure Token where
  terminal : Nat
  piece : Piece
  /-- How many glyphs it takes with what is in front of it. -/
  length : Nat
  point : Point
  rest : List Glyph

/-- The token of some length behind its lead. -/
def Lead.token (lead : Lead) (terminal : Nat) (kind : Kind) (n : Nat) : Token :=
  let text := lead.rest.take n
  { terminal
    piece := ⟨lead.comments.reverse, .leaf kind none lead.point false lead.gap.reverse text⟩
    length := lead.passed + n
    point := lead.point.afterAll text
    rest := lead.rest.drop n }

/-- A terminal that is expected and how far it reaches. -/
structure Candidate where
  terminal : Nat
  kind : Terminal
  length : Nat

namespace Candidate

/-- Fixed texts take precedence over classes that reach equally far. -/
def isFixed (c : Candidate) : Bool :=
  match c.kind with
  | .fixed _ => true
  | _ => false

/-- One or more closing angle brackets, perhaps with an equals sign. -/
def isClosing (c : Candidate) : Bool :=
  match c.kind with
  | .fixed s => s.toList.head? == some '>'
  | _ => false

end Candidate

namespace Automaton

/-- The terminal is in the set. -/
def expects (expected n : Nat) : Bool := expected.testBit n

/-- The expected terminals that match at the front of a text. -/
def candidates (a : Automaton) (expected : Nat) (gs : List Glyph) : List Candidate :=
  let wordLength := (nameReach gs).getD 0
  let word := Glyph.render (gs.take wordLength)
  let length? (t : Terminal) : Option Nat :=
    match t.keyword? with
    | some k => if k == word then some wordLength else none
    | none => t.reach gs
  a.terminals.toList.zipIdx.filterMap fun (t, n) =>
    if expects expected n then (length? t).map fun k => ⟨n, t, k⟩ else none

/-- The candidates that are read: those that reach furthest, fixed texts before classes, and closing
brackets of every length. -/
def chosen (cs : List Candidate) : List Candidate :=
  let furthest := (cs.map Candidate.length).foldl max 0
  let longest := cs.filter fun c => c.length == furthest
  if longest.any Candidate.isClosing then cs.filter Candidate.isClosing
  else
    match longest.find? Candidate.isFixed, longest with
    | some c, _ => [c]
    | none, c :: _ => [c]
    | none, [] => []

/-- Some expected terminal belongs to the inside of a string. -/
def expectsText (a : Automaton) (expected : Nat) : Bool :=
  a.terminals.toList.zipIdx.any fun (t, n) => t.isVerbatim && expects expected n

/-- The text of a text block is expected. -/
def expectsBlock (a : Automaton) (expected : Nat) : Bool :=
  a.terminals.toList.zipIdx.any fun (t, n) => t == .blockFragment && expects expected n

/-- The tokens that can be read at the front of a text. -/
def tokens (a : Automaton) (expected : Nat) (p : Point) (gs : List Glyph) : List Token :=
  let read (lead : Lead) : List Token :=
    (chosen (a.candidates expected lead.rest)).map fun c =>
      lead.token c.terminal (.token c.kind) c.length
  let bare := Lead.bare p gs
  let inside := if a.expectsBlock expected then bare.skipBeyondText gs else bare
  let verbatim := if a.expectsText expected then read inside else []
  if verbatim.isEmpty then read (Lead.ofText p gs) else verbatim

end Automaton

end RoleAudit.Source
