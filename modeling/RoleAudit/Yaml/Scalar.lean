import RoleAudit.Yaml.Cursor

/-!
# Scalars as written

How the text of a scalar is read in each of its styles: plain, between quotes, and as a block. Lines
are folded on the way: a single line break between words is a space, and of several all but the
first stay.
-/

namespace RoleAudit.Yaml

/-! ## Between quotes -/

/-- Escapes of one character and what they stand for. -/
def simpleEscapes : List (Char × Nat) :=
  [('0', 0x00), ('a', 0x07), ('b', 0x08), ('t', 0x09), ('\t', 0x09), ('n', 0x0A), ('v', 0x0B),
    ('f', 0x0C), ('r', 0x0D), ('e', 0x1B), (' ', 0x20), ('"', 0x22), ('\\', 0x5C), ('/', 0x2F),
    ('N', 0x85), ('_', 0xA0), ('L', 0x2028), ('P', 0x2029)]

/-- How many hexadecimal digits follow an escape. -/
def escapeDigits? (c : Char) : Option Nat :=
  if c == 'x' then some 2 else if c == 'u' then some 4 else if c == 'U' then some 8 else none

/-- Why an escape stands for no character. -/
inductive EscapeFault where
  /-- The number is not a character's. -/
  | outOfRange
  /-- The number is too large for a number of 32 bits. -/
  | tooLarge
  deriving Repr, DecidableEq

/-- The wording of the fault of an escape. -/
def EscapeFault.message : EscapeFault → String
  | outOfRange => "chr() arg not in range(0x110000)"
  | tooLarge => "Python int too large to convert to C int"

/-- Why the text of a scalar cannot be read. -/
inductive ScalarFailure where
  | malformed (error : Error)
  | escape (fault : EscapeFault)
  deriving Repr, DecidableEq

/-- An error in a scalar. -/
def scalarError {α : Type} (activity : Activity) (since : Mark) (problem : Problem) (c : Cursor) :
    Except ScalarFailure α :=
  .error (.malformed { phase := .tokens, activity, since, problem, mark := c.mark })

/-- The character of a number; a number in the range of surrogates is shown as U+FFFD. -/
def charOf (n : Nat) : Except EscapeFault Char :=
  if 0x7FFFFFFF < n then .error .tooLarge
  else if 0x10FFFF < n then .error .outOfRange
  else if 0xD800 ≤ n && n ≤ 0xDFFF then .ok (Char.ofNat 0xFFFD)
  else .ok (Char.ofNat n)

/-- A hexadecimal digit. -/
def isHex (c : Char) : Bool := (RoleAudit.Text.hexValue? c).isSome

/-- The single quote. -/
def singleMark : Char := Char.ofNat 0x27

/-- Goes over line breaks inside quotes, with the white space around them. -/
def quotedBreaks (since : Mark) :
    Nat → Cursor → List Char → Except ScalarFailure (List Char × Cursor)
  | 0, c, breaks => .ok (breaks, c)
  | fuel + 1, c, breaks =>
    if c.atSeparator then scalarError .quoted since .documentSeparator c
    else
      let c := c.skip fun x => x == ' ' || x == '\t'
      if isBreak c.head then
        let (line, c) := c.lineBreak
        quotedBreaks since fuel c (breaks ++ line)
      else .ok (breaks, c)

/-- Reads an escape; the cursor stands behind the backslash. -/
def quotedEscape (since : Mark) (c : Cursor) : Except ScalarFailure (List Char × Cursor) :=
  let x := c.head
  match simpleEscapes.find? fun e => e.1 == x with
  | some (_, n) => .ok ([Char.ofNat n], c.advance 1)
  | none =>
    match escapeDigits? x with
    | some n =>
      let c := c.advance 1
      let digits := (c.rest.take n).takeWhile isHex
      if digits.length < n then
        scalarError .doubleQuoted since (.noEscapeDigit n (c.peek digits.length)) c
      else
        match charOf ((RoleAudit.Text.ofHex? digits).getD 0) with
        | .ok char => .ok ([char], c.advance n)
        | .error fault => .error (.escape fault)
    | none =>
      if isBreak x then
        let (_, c) := c.lineBreak
        quotedBreaks since c.fuel c []
      else scalarError .doubleQuoted since (.unknownEscape x) c

/-- Reads text inside quotes up to white space or to the closing quote. -/
def quotedText (double : Bool) (since : Mark) :
    Nat → Cursor → List Char → Except ScalarFailure (List Char × Cursor)
  | 0, c, text => .ok (text, c)
  | fuel + 1, c, text =>
    let (cs, c) := c.take fun x => !isGap x && x != singleMark && x != '"' && x != '\\'
    let text := text ++ cs
    let x := c.head
    if !double && x == singleMark && c.peek 1 == singleMark then
      quotedText double since fuel (c.advance 2) (text ++ [singleMark])
    else if (double && x == singleMark) || (!double && (x == '"' || x == '\\')) then
      quotedText double since fuel (c.advance 1) (text ++ [x])
    else if double && x == '\\' then
      match quotedEscape since (c.advance 1) with
      | .ok (cs, c) => quotedText double since fuel c (text ++ cs)
      | .error e => .error e
    else .ok (text, c)

/-- Reads white space inside quotes. -/
def quotedSpaces (since : Mark) (c : Cursor) : Except ScalarFailure (List Char × Cursor) :=
  let (spaces, c) := c.take fun x => x == ' ' || x == '\t'
  if c.rest.isEmpty then scalarError .quoted since .endOfText c
  else if isBreak c.head then
    let (line, c) := c.lineBreak
    match quotedBreaks since c.fuel c [] with
    | .error e => .error e
    | .ok (breaks, c) =>
      let first := if line != ['\n'] then line else if breaks.isEmpty then [' '] else []
      .ok (first ++ breaks, c)
  else .ok (spaces, c)

/-- Reads text and white space in turn up to the closing quote. -/
def quotedRest (double : Bool) (since : Mark) :
    Nat → Cursor → List Char → Except ScalarFailure (List Char × Cursor)
  | 0, c, text => .ok (text, c)
  | fuel + 1, c, text =>
    if c.head == (if double then '"' else singleMark) then .ok (text, c.advance 1)
    else
      match quotedSpaces since c with
      | .error e => .error e
      | .ok (spaces, c) =>
        match quotedText double since c.fuel c [] with
        | .error e => .error e
        | .ok (more, c) => quotedRest double since fuel c (text ++ spaces ++ more)

/-- Reads a scalar between quotes; the cursor stands at the opening quote. -/
def quotedScalar (double : Bool) (c : Cursor) : Except ScalarFailure (List Char × Cursor) :=
  let since := c.mark
  let c := c.advance 1
  match quotedText double since c.fuel c [] with
  | .error e => .error e
  | .ok (text, c) => quotedRest double since c.fuel c text

/-! ## Plain -/

/-- White space behind a plain word. -/
structure PlainGap where
  /-- What it counts as; `none` if a document ends or begins behind it. -/
  text : Option (List Char)
  /-- The gap holds a line break. -/
  broken : Bool
  cursor : Cursor

/-- Goes over the lines that are empty behind a plain word. -/
def plainBreaks : Nat → Cursor → List Char → Option (List Char) × Cursor
  | 0, c, breaks => (some breaks, c)
  | fuel + 1, c, breaks =>
    if c.head == ' ' then plainBreaks fuel (c.advance 1) breaks
    else if isBreak c.head then
      let (line, c) := c.lineBreak
      if c.atSeparator then (none, c) else plainBreaks fuel c (breaks ++ line)
    else (some breaks, c)

/-- Goes over the white space behind a plain word. -/
def plainGap (c : Cursor) : PlainGap :=
  let (spaces, c) := c.take (· == ' ')
  if isBreak c.head then
    let (line, c) := c.lineBreak
    if c.atSeparator then ⟨none, true, c⟩
    else
      let (breaks, c) := plainBreaks c.fuel c []
      let text := breaks.map fun breaks =>
        (if line != ['\n'] then line else if breaks.isEmpty then [' '] else []) ++ breaks
      ⟨text, true, c⟩
  else ⟨some spaces, false, c⟩

/-- The length of the plain word at the front. -/
def plainLength (flow : Bool) : List Char → Nat
  | [] => 0
  | x :: rest =>
    let next := rest.head?.getD endMark
    let brackets : List Char := [',', '[', ']', '\x7b', '\x7d']
    if isGap x || (x == ':' && (isGap next || (flow && brackets.contains next))) ||
        (flow && (brackets.contains x || x == '?')) then 0
    else 1 + plainLength flow rest

/-- A plain scalar that was read. -/
structure Plain where
  text : List Char
  /-- The place behind its last word. -/
  stop : Mark
  /-- It ends at the beginning of a line. -/
  broken : Bool
  cursor : Cursor

/-- Reads a plain scalar word by word. `indent` is the column that its lines must reach. -/
def plainWords (flow : Bool) (indent : Nat) : Nat → Plain → List Char → Plain
  | 0, p, _ => p
  | fuel + 1, p, gap =>
    let n := if p.cursor.head == '#' then 0 else plainLength flow p.cursor.rest
    if n == 0 then p
    else
      let text := p.text ++ gap ++ p.cursor.rest.take n
      let behind := p.cursor.advance n
      let g := plainGap behind
      let p : Plain := ⟨text, behind.mark, g.broken, g.cursor⟩
      match g.text with
      | none => p
      | some gap =>
        if gap.isEmpty || g.cursor.head == '#' || (!flow && g.cursor.mark.column < indent) then p
        else plainWords flow indent fuel p gap

/-- Reads a plain scalar. -/
def plainScalar (flow : Bool) (indent : Nat) (c : Cursor) : Plain :=
  plainWords flow indent c.fuel ⟨[], c.mark, false, c⟩ []

/-! ## Blocks -/

/-- What becomes of the line breaks at the end of a block. -/
inductive Chomping where
  | clip
  | strip
  | keep
  deriving Repr, DecidableEq

/-- The sign of a chomping. -/
def chomping? (c : Char) : Option Chomping :=
  if c == '+' then some .keep else if c == '-' then some .strip else none

/-- The indentation that a digit asks for. -/
def indentation? (since : Mark) (c : Cursor) : Except ScalarFailure (Option Nat × Cursor) :=
  if c.head.isDigit then
    let n := c.head.toNat - '0'.toNat
    if n == 0 then scalarError .blockScalar since .zeroIndentation c
    else .ok (some n, c.advance 1)
  else .ok (none, c)

/-- Reads the indicators in the header of a block, in either order. -/
def blockHeader (since : Mark) (c : Cursor) :
    Except ScalarFailure (Chomping × Option Nat × Cursor) := do
  let (chomping, increment, c) ←
    match chomping? c.head with
    | some chomping => do
      let (increment, c) ← indentation? since (c.advance 1)
      pure (chomping, increment, c)
    | none => do
      let (increment, c) ← indentation? since c
      match increment, chomping? c.head with
      | some n, some chomping => pure (chomping, some n, c.advance 1)
      | _, _ => pure (.clip, increment, c)
  if isLineEndOrSpace c.head then .ok (chomping, increment, c)
  else scalarError .blockScalar since (.noBlockIndicator c.head) c

/-- Goes over the rest of a block's header. -/
def blockHeaderEnd (since : Mark) (c : Cursor) : Except ScalarFailure Cursor :=
  let c := c.skipSpaces.skipComment
  if isLineEnd c.head then .ok c.lineBreak.2
  else scalarError .blockScalar since (.noBreak c.head) c

/-- Goes over empty lines at the beginning of a block and finds the greatest indentation. -/
def blockIndentation : Nat → Cursor → List Char → Nat → List Char × Nat × Cursor
  | 0, c, breaks, deepest => (breaks, deepest, c)
  | fuel + 1, c, breaks, deepest =>
    if c.head == ' ' then
      let c := c.advance 1
      blockIndentation fuel c breaks (max deepest c.mark.column)
    else if isBreak c.head then
      let (line, c) := c.lineBreak
      blockIndentation fuel c (breaks ++ line) deepest
    else (breaks, deepest, c)

/-- Goes over spaces up to a column. -/
def indentTo (indent : Nat) (c : Cursor) : Cursor :=
  c.advance (min (indent - c.mark.column) (c.span (· == ' ')).length)

/-- Goes over empty lines inside a block. -/
def blockBreaks (indent : Nat) : Nat → Cursor → List Char → List Char × Cursor
  | 0, c, breaks => (breaks, c)
  | fuel + 1, c, breaks =>
    let c := indentTo indent c
    if isBreak c.head then
      let (line, c) := c.lineBreak
      blockBreaks indent fuel c (breaks ++ line)
    else (breaks, c)

/-- Reads the lines of a block. `breaks` are the line breaks in front of the next line. -/
def blockLines (folded : Bool) (chomping : Chomping) (indent : Nat) :
    Nat → Cursor → List Char → List Char → List Char → List Char × Cursor
  | 0, c, text, _, _ => (text, c)
  | fuel + 1, c, text, line, breaks =>
    let tail :=
      (if chomping == .strip then [] else line) ++ (if chomping == .keep then breaks else [])
    if c.mark.column == indent && !c.rest.isEmpty then
      let leading := c.head != ' ' && c.head != '\t'
      let (cs, c) := c.take fun x => !isLineEnd x
      let text := text ++ breaks ++ cs
      let (line, c) := c.lineBreak
      let (breaks, c) := blockBreaks indent c.fuel c []
      if c.mark.column == indent && !c.rest.isEmpty then
        let fold := folded && line == ['\n'] && leading && c.head != ' ' && c.head != '\t'
        let joint := if fold then (if breaks.isEmpty then [' '] else []) else line
        blockLines folded chomping indent fuel c (text ++ joint) line breaks
      else
        let tail :=
          (if chomping == .strip then [] else line) ++ (if chomping == .keep then breaks else [])
        (text ++ tail, c)
    else (text ++ tail, c)

/-- Reads a block; the cursor stands at its sign. `parent` is the indentation around it plus one. -/
def blockScalar (folded : Bool) (parent : Nat) (c : Cursor) :
    Except ScalarFailure (List Char × Cursor) := do
  let since := c.mark
  let (chomping, increment, c) ← blockHeader since (c.advance 1)
  let c ← blockHeaderEnd since c
  let least := max parent 1
  let (indent, breaks, c) :=
    match increment with
    | none =>
      let (breaks, deepest, c) := blockIndentation c.fuel c [] 0
      (max least deepest, breaks, c)
    | some n =>
      let indent := least + n - 1
      let (breaks, c) := blockBreaks indent c.fuel c []
      (indent, breaks, c)
  pure (blockLines folded chomping indent c.fuel c [] [] breaks)

end RoleAudit.Yaml
