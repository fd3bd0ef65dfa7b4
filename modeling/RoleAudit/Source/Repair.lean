import RoleAudit.Source.Chart

/-!
# Repairs

What is done where a source cannot be read on. Three repairs are known, each with a price:

* a missing semicolon, parenthesis or brace is supposed at the end of the last token;
* an unfinished statement is set aside as a whole;
* the next token is set aside.

A repair fits if the source can be read on after it. The cheapest that fits is taken; setting aside
the next token always fits, and is done only if nothing else does.
-/

namespace RoleAudit.Source

open RoleAudit.Text

/-! ## Prices -/

/-- The price of any repair. -/
def repairPrice : Nat := 500

/-- The further price of a token that is supposed. -/
def missingPrice : Nat := 110

/-- The further price of each part that is set aside. -/
def partPrice : Nat := 100

/-- The further price of each line that is set aside; each byte costs one. -/
def linePrice : Nat := 30

/-- The price of setting aside a text of so many parts. -/
def setAsidePrice (parts : Nat) (text : List Glyph) : Nat :=
  repairPrice + partPrice * parts + Glyph.totalSize text +
    linePrice * (text.countP fun g => g.isChar '\n')

/-- Tokens that are supposed where they are missing. -/
def suppliedTexts : List String := [";", ")", "\x7d"]

/-- A column from which the source can be read on. -/
structure Repair where
  price : Nat
  /-- The columns before it. -/
  columns : Array Column
  /-- The column to go on from, its readings closed. -/
  column : Column
  deriving Inhabited

namespace Automaton

/-- Comments at the end of a source. -/
def trailing (c : Column) : List Tree := (Lead.ofText c.point c.rest).comments.reverse

/-- Nothing but white space and comments is left. -/
def atEnd (c : Column) : Bool := (Lead.ofText c.point c.rest).rest.isEmpty

/-- The tree of a source that is read up to its end. -/
def result? (a : Automaton) (c : Column) : Option Tree :=
  let final := c.items.find? fun x =>
    let place := a.place x.place
    place.rule == 0 && place.final && x.origin == 0
  final.map fun x =>
    let parts := match x.parts.reverse with
      | [] => []
      | p :: ps => p.comments ++ Piece.joined (p :: ps)
    let children := parts ++ trailing c
    let start := match children with
      | t :: _ => t.start
      | [] => Point.start
    .branch (.construct (a.rule 0).construct) start children

/-- The source can be read on from a column, or is read up to its end. -/
def goesOn (a : Automaton) (c : Column) : Bool :=
  !(a.tokens (a.expected c.items) c.point c.rest).isEmpty || (atEnd c && (a.result? c).isSome)

/-! ## Supposing a token -/

/-- A token of no length at the end of the last one. -/
def supplied (c : Column) (terminal : Nat) (kind : Terminal) : Token where
  terminal
  piece := ⟨[], .leaf (.token kind) none c.point true [] []⟩
  length := 0
  point := c.point
  rest := c.rest

/-- The repair that supposes one of the missing tokens. -/
def supply (a : Automaton) (columns : Array Column) (c : Column) : List Repair :=
  let expected := a.expected c.items
  suppliedTexts.filterMap fun text =>
    let kind := Terminal.fixed text
    match a.terminals.toList.idxOf? kind with
    | none => none
    | some n =>
      if expects expected n then
        let (before, next) := a.advance columns.size c [supplied c n kind]
        let columns := columns.push before
        match next with
        | d :: _ =>
          let column := { d with items := a.closed columns d.items }
          if a.goesOn column then some ⟨repairPrice + missingPrice, columns, column⟩ else none
        | [] => none
      else none

/-! ## Setting aside a statement -/

/-- A rule that is not complete yet, and how many parts stand behind its beginning. -/
structure Open where
  rule : Nat
  origin : Nat
  parts : Nat

/-- The statements that are not complete, reached from rules that are not; each with the least
number of parts behind its beginning that was found. -/
def openStatements (a : Automaton) (columns : Array Column) :
    Nat → List Open → List Open → List Open → List Open
  | 0, _, _, statements => statements
  | _, [], _, statements => statements
  | fuel + 1, x :: agenda, seen, statements =>
    let known := seen.any fun y =>
      y.rule == x.rule && y.origin == x.origin && y.parts ≤ x.parts
    if known then openStatements a columns fuel agenda seen statements
    else if (a.rule x.rule).construct.isStatement then
      openStatements a columns fuel agenda (x :: seen) (x :: statements)
    else
      let waiting := (columns.getD x.origin default).awaiting.filter fun w => w.rule == x.rule
      let next := waiting.map fun w : Await =>
        (⟨(a.place w.item.place).rule, w.item.origin, x.parts + w.item.parts.length⟩ : Open)
      openStatements a columns fuel (next ++ agenda) (x :: seen) statements

/-- A text that fits nowhere, as a piece: it starts at the first glyph that is not white space. -/
def aside (p : Point) (gs : List Glyph) : Piece :=
  let lead := Lead.ofText p gs
  ⟨lead.comments.reverse, .leaf .error none lead.point false lead.gap.reverse lead.rest⟩

/-- The repairs that set aside an unfinished statement. -/
def setAside (a : Automaton) (columns : Array Column) (c : Column) : List Repair :=
  let unfinished := c.items.filterMap fun x =>
    let place := a.place x.place
    if place.next.isEmpty && place.final then none
    else some (⟨place.rule, x.origin, x.parts.length⟩ : Open)
  let statements :=
    a.openStatements columns (a.readings columns) unfinished [] []
  statements.filterMap fun s =>
    let before := columns.getD s.origin default
    let piece := aside before.point (before.rest.take (c.offset - before.offset))
    let column := { c with items := before.items.map fun x => x.push piece }
    if a.goesOn column then some ⟨setAsidePrice s.parts piece.tree.text, columns, column⟩ else none

/-! ## Setting aside a token -/

/-- The next token under no expectation; if there is none, the next glyph. -/
def skipLength (a : Automaton) (gs : List Glyph) : Nat :=
  let everything := bit a.terminals.size - 1
  match chosen (a.candidates everything gs) with
  | c :: _ => max 1 c.length
  | [] => 1

/-- Sets aside the next token. -/
def skipToken (a : Automaton) (columns : Array Column) (c : Column) : Repair :=
  let lead := Lead.ofText c.point c.rest
  let n := a.skipLength lead.rest
  let text := lead.rest.take n
  let piece : Piece :=
    ⟨lead.comments.reverse, .leaf .error none lead.point false lead.gap.reverse text⟩
  { price := setAsidePrice 1 text
    columns
    column :=
      { offset := c.offset + lead.passed + n, point := lead.point.afterAll text
        rest := lead.rest.drop n, items := c.items.map fun x => x.push piece } }

/-! ## The choice -/

/-- The first of the cheapest repairs. -/
def cheapest : List Repair → Option Repair
  | [] => none
  | r :: rs =>
    match cheapest rs with
    | none => some r
    | some s => if s.price < r.price then some s else some r

/-- The repair of a source that cannot be read on from a column. -/
def repair (a : Automaton) (columns : Array Column) (c : Column) : Option Repair :=
  match cheapest (a.supply columns c ++ a.setAside columns c) with
  | some r => some r
  | none => if atEnd c then none else some (a.skipToken columns c)

end Automaton

end RoleAudit.Source
