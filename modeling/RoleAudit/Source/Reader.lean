import RoleAudit.Source.Repair

/-!
# Reading a source

`Source.read` gives the tree of any text. A text that follows the grammar has a tree without flaws;
where a text does not, it is repaired and read on, and a text that ends before it can be understood
is a single flaw.
-/

namespace RoleAudit.Source

open RoleAudit.Text

namespace Automaton

/-- A source that cannot be understood. -/
def unreadable (gs : List Glyph) : Tree := .leaf .error none Point.start false [] gs

/-- Reads on from a column whose readings are closed; `waiting` are the columns behind it that have
been reached, in the order of the source. Every two rounds take at least one glyph, since after a
repair the source can be read on or the next token was set aside. -/
def follow (a : Automaton) (source : List Glyph) :
    Nat → Array Column → Column → List Column → Tree
  | 0, _, _, _ => unreadable source
  | fuel + 1, columns, c, waiting =>
    let (columns, waiting) :=
      match a.tokens (a.expected c.items) c.point c.rest with
      | [] => (columns, waiting)
      | tokens =>
        let (here, next) := a.advance columns.size c tokens
        (columns.push here, next.foldl (fun waiting d => enqueue d waiting) waiting)
    match waiting with
    | d :: waiting =>
      follow a source fuel columns { d with items := a.closed columns d.items } waiting
    | [] =>
      match if atEnd c then a.result? c else none with
      | some tree => tree
      | none =>
        match a.repair columns c with
        | some r => follow a source fuel r.columns r.column []
        | none => unreadable source

/-- Reads a text. -/
def read (a : Automaton) (gs : List Glyph) : Tree :=
  let start : Column :=
    { offset := 0, point := Point.start, rest := gs, items := [⟨a.places.size - 1, 0, 0, []⟩] }
  a.follow gs (2 * gs.length + 4) #[] start []

end Automaton

/-- The tree of a Java source. -/
def read (bytes : List UInt8) : Tree := grammar.read (Glyph.decode bytes)

end RoleAudit.Source
