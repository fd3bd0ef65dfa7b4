import RoleAudit.Yaml.Token

/-!
# The queue of tokens

Tokens are made only as far as they are asked for, so an error later in the text stays unseen if
reading ends before it. Some tokens become known late: that a scalar is a key is seen at the colon
behind it. A token that may yet turn out to start a key is therefore held back until the colon is
found, or until it is too late for one: on another line, or more than 1024 characters further on.

The queue also turns indentation into tokens, which begin a block where a deeper column is first
used and end it where a line goes back.
-/

namespace RoleAudit.Yaml

/-- A token that may turn out to start a key. -/
structure KeyHint where
  /-- The number of the token, counted from the first. -/
  number : Nat
  /-- Here there must be a key. -/
  required : Bool
  mark : Mark
  deriving Repr, Inhabited

/-- Tokens that are waiting, and the text behind them. -/
structure Queue where
  cursor : Cursor
  /-- All tokens have been made. -/
  done : Bool := false
  /-- How many flow collections are open. -/
  flow : Nat := 0
  /-- Tokens that were made and not taken. -/
  waiting : List Token := []
  /-- How many tokens were taken. -/
  taken : Nat := 0
  /-- The column of the innermost block; −1 outside of all blocks. -/
  indent : Int := -1
  /-- The columns of the blocks around it. -/
  outer : List Int := []
  /-- A key may start here. -/
  keyAllowed : Bool := true
  /-- For each level of flow collections, the last token that may start a key. -/
  hints : List (Nat × KeyHint) := []
  deriving Inhabited

/-- How far behind its beginning a key may end. -/
def keyReach : Nat := 1024

namespace Queue

/-- The place of the cursor. -/
def mark (q : Queue) : Mark := q.cursor.mark

/-- Goes on with the cursor elsewhere. -/
def moveTo (q : Queue) (c : Cursor) : Queue := { q with cursor := c }

/-- Adds a token. -/
def push (q : Queue) (kind : TokenKind) (start stop : Mark) : Queue :=
  { q with waiting := q.waiting ++ [⟨kind, start, stop⟩] }

/-- Adds a token without text. -/
def pushHere (q : Queue) (kind : TokenKind) : Queue := q.push kind q.mark q.mark

/-- Adds a token that takes so many characters. -/
def pushNext (q : Queue) (kind : TokenKind) (length : Nat) : Queue :=
  let start := q.mark
  let q := q.moveTo (q.cursor.advance length)
  q.push kind start q.mark

/-- Puts a token without text in front of the token of a number. -/
def insertAt (q : Queue) (number : Nat) (kind : TokenKind) (mark : Mark) : Queue :=
  let n := number - q.taken
  { q with waiting := q.waiting.take n ++ ⟨kind, mark, mark⟩ :: q.waiting.drop n }

/-! ## Tokens that may start a key -/

/-- A key was required and there is none. -/
def missingKey {α : Type} (q : Queue) (hint : KeyHint) : Except Error α :=
  tokenError .simpleKey hint.mark .noColon q.cursor

/-- Gives up the hints that are too far back. -/
def dropStale (q : Queue) : Except Error Queue :=
  let isStale (h : KeyHint) : Bool :=
    h.mark.line != q.mark.line || keyReach < q.mark.index - h.mark.index
  match q.hints.find? fun h => isStale h.2 && h.2.required with
  | some h => q.missingKey h.2
  | none => .ok { q with hints := q.hints.filter fun h => !isStale h.2 }

/-- The first token that may start a key. -/
def firstHint? (q : Queue) : Option Nat := (q.hints.map fun h => h.2.number).min?

/-- The hint on the current level. -/
def hint? (q : Queue) : Option KeyHint := (q.hints.find? fun h => h.1 == q.flow).map (·.2)

/-- Gives up the hint on the current level. -/
def dropHint (q : Queue) : Except Error Queue :=
  match q.hint? with
  | none => .ok q
  | some h =>
    if h.required then q.missingKey h
    else .ok { q with hints := q.hints.filter fun h => h.1 != q.flow }

/-- Remembers that the next token may start a key. -/
def addHint (q : Queue) : Except Error Queue :=
  if q.keyAllowed then do
    let required := q.flow == 0 && q.indent == (q.mark.column : Int)
    let q ← q.dropHint
    let hint : KeyHint := ⟨q.taken + q.waiting.length, required, q.mark⟩
    pure { q with hints := q.hints ++ [(q.flow, hint)] }
  else .ok q

/-! ## Indentation -/

/-- Ends the blocks that reach further than a column. -/
def unwindFrom (q : Queue) (column : Int) : Nat → Queue
  | 0 => q
  | fuel + 1 =>
    if column < q.indent then
      let q := q.pushHere .blockEnd
      unwindFrom { q with indent := q.outer.head?.getD (-1), outer := q.outer.drop 1 } column fuel
    else q

/-- Ends the blocks that reach further than a column, outside of flow collections. -/
def unwind (q : Queue) (column : Int) : Queue :=
  if q.flow == 0 then q.unwindFrom column (q.outer.length + 1) else q

/-- Begins a block at a column, if that is deeper than the block around it. -/
def deepen? (q : Queue) (column : Nat) : Option Queue :=
  if q.indent < (column : Int) then
    some { q with indent := column, outer := q.indent :: q.outer }
  else none

/-- Begins a block here if the column is deeper. -/
def deepen (q : Queue) (kind : TokenKind) : Queue :=
  match q.deepen? q.mark.column with
  | some q => q.pushHere kind
  | none => q

/-! ## Making tokens -/

/-- Goes over white space and comments to the next token. -/
def skipGap (q : Queue) : Nat → Queue
  | 0 => q
  | fuel + 1 =>
    let c := q.cursor.skipSpaces.skipComment
    if isBreak c.head then
      skipGap { q with cursor := c.lineBreak.2, keyAllowed := q.keyAllowed || q.flow == 0 } fuel
    else q.moveTo c

/-- An error without an activity. -/
def notAllowed {α : Type} (q : Queue) (problem : Problem) : Except Error α :=
  .error { phase := .tokens, problem, mark := q.mark }

/-- Ends all blocks, as at the end of a document. -/
def leaveBlocks (q : Queue) : Except Error Queue := do
  let q ← (q.unwind (-1)).dropHint
  pure { q with keyAllowed := false }

/-- Makes the last token. -/
def finish (q : Queue) : Except Error Queue := do
  let q ← q.leaveBlocks
  pure { q.pushHere .textEnd with hints := [], done := true }

/-- Makes a directive. -/
def addDirective (q : Queue) : Except Error Queue := do
  let q ← q.leaveBlocks
  let (directive, stop, c) ← readDirective q.cursor
  pure ((q.push (.directive directive) q.mark stop).moveTo c)

/-- Makes a token that begins or ends a document. -/
def addSeparator (q : Queue) (kind : TokenKind) : Except Error Queue := do
  let q ← q.leaveBlocks
  pure (q.pushNext kind 3)

/-- Begins a flow collection, which may itself be a key. -/
def openFlow (q : Queue) (kind : TokenKind) : Except Error Queue := do
  let q ← q.addHint
  pure ({ q with flow := q.flow + 1, keyAllowed := true }.pushNext kind 1)

/-- Ends a flow collection. -/
def closeFlow (q : Queue) (kind : TokenKind) : Except Error Queue := do
  let q ← q.dropHint
  pure ({ q with flow := q.flow - 1, keyAllowed := false }.pushNext kind 1)

/-- Makes the comma in a flow collection. -/
def addFlowEntry (q : Queue) : Except Error Queue := do
  let q ← { q with keyAllowed := true }.dropHint
  pure (q.pushNext .flowEntry 1)

/-- Makes the dash in front of an entry. -/
def addBlockEntry (q : Queue) : Except Error Queue := do
  if q.flow == 0 && !q.keyAllowed then q.notAllowed .entryNotAllowed
  else
    let q := if q.flow == 0 then q.deepen .blockSequenceStart else q
    let q ← { q with keyAllowed := true }.dropHint
    pure (q.pushNext .blockEntry 1)

/-- Makes the question mark in front of a key. -/
def addKey (q : Queue) : Except Error Queue := do
  if q.flow == 0 && !q.keyAllowed then q.notAllowed .keyNotAllowed
  else
    let q := if q.flow == 0 then q.deepen .blockMappingStart else q
    let q ← { q with keyAllowed := q.flow == 0 }.dropHint
    pure (q.pushNext .key 1)

/-- Makes the colon in front of a value. If a token may have started a key, it has. -/
def addValue (q : Queue) : Except Error Queue := do
  match q.hint? with
  | some hint =>
    let q := { q with hints := q.hints.filter fun h => h.1 != q.flow }
    let q := q.insertAt hint.number .key hint.mark
    let q := if q.flow == 0 then
        match q.deepen? hint.mark.column with
        | some q => q.insertAt hint.number .blockMappingStart hint.mark
        | none => q
      else q
    pure ({ q with keyAllowed := false }.pushNext .value 1)
  | none =>
    if q.flow == 0 && !q.keyAllowed then q.notAllowed .valueNotAllowed
    else
      let q := if q.flow == 0 then q.deepen .blockMappingStart else q
      let q ← { q with keyAllowed := q.flow == 0 }.dropHint
      pure (q.pushNext .value 1)

/-- Makes an anchor or an alias. -/
def addName (q : Queue) (activity : Activity) (kind : String → TokenKind) : Except Error Queue := do
  let q ← q.addHint
  let (name, c) ← readName activity q.cursor
  pure (({ q with keyAllowed := false }.push (kind name) q.mark c.mark).moveTo c)

/-- Makes a tag. -/
def addTag (q : Queue) : Except Error Queue := do
  let q ← q.addHint
  let (handle, rest, c) ← readTag q.cursor
  pure (({ q with keyAllowed := false }.push (.tag handle rest) q.mark c.mark).moveTo c)

/-- Makes a token that a failure of a scalar may prevent. -/
def lift {α : Type} (r : Except Error α) : Except ScalarFailure α :=
  match r with
  | .ok a => .ok a
  | .error e => .error (.malformed e)

/-- Makes a block scalar. -/
def addBlockScalar (q : Queue) (folded : Bool) : Except ScalarFailure Queue := do
  let q ← lift { q with keyAllowed := true }.dropHint
  let (text, c) ← blockScalar folded (q.indent + 1).toNat q.cursor
  pure ((q.push (.scalar false (String.ofList text)) q.mark c.mark).moveTo c)

/-- Makes a scalar between quotes. -/
def addQuoted (q : Queue) (double : Bool) : Except ScalarFailure Queue := do
  let q ← lift q.addHint
  let (text, c) ← quotedScalar double q.cursor
  let q := { q with keyAllowed := false }.push (.scalar false (String.ofList text)) q.mark c.mark
  pure (q.moveTo c)

/-- Makes a plain scalar. -/
def addPlain (q : Queue) : Except ScalarFailure Queue := do
  let q ← lift q.addHint
  let p := plainScalar (q.flow != 0) (q.indent + 1).toNat q.cursor
  let q := { q with keyAllowed := p.broken }.push (.scalar true (String.ofList p.text)) q.mark p.stop
  pure (q.moveTo p.cursor)

/-- Characters that no plain scalar starts with. -/
def indicators : List Char :=
  ['-', '?', ':', ',', '[', ']', '\x7b', '\x7d', '#', '&', '*', '!', '|', '>', singleMark, '"', '%',
    '@', Char.ofNat 0x60]

/-- A plain scalar starts here. -/
def startsPlain (q : Queue) : Bool :=
  let x := q.cursor.head
  (!isGap x && !indicators.contains x) ||
    (!isGap (q.cursor.peek 1) && (x == '-' || (q.flow == 0 && (x == '?' || x == ':'))))

/-- Makes the token at the cursor. -/
def addToken (q : Queue) : Except ScalarFailure Queue :=
  let c := q.cursor
  let x := c.head
  let behind := c.peek 1
  let atStart := c.mark.column == 0
  if c.rest.isEmpty then lift q.finish
  else if x == '%' && atStart then lift q.addDirective
  else if x == '-' && atStart && c.atSeparator then lift (q.addSeparator .documentStart)
  else if x == '.' && atStart && c.atSeparator then lift (q.addSeparator .documentEnd)
  else if x == '[' then lift (q.openFlow .flowSequenceStart)
  else if x == '\x7b' then lift (q.openFlow .flowMappingStart)
  else if x == ']' then lift (q.closeFlow .flowSequenceEnd)
  else if x == '\x7d' then lift (q.closeFlow .flowMappingEnd)
  else if x == ',' then lift q.addFlowEntry
  else if x == '-' && isGap behind then lift q.addBlockEntry
  else if x == '?' && (q.flow != 0 || isGap behind) then lift q.addKey
  else if x == ':' && (q.flow != 0 || isGap behind) then lift q.addValue
  else if x == '*' then lift (q.addName .reference .reference)
  else if x == '&' then lift (q.addName .anchor .anchor)
  else if x == '!' then lift q.addTag
  else if x == '|' && q.flow == 0 then q.addBlockScalar false
  else if x == '>' && q.flow == 0 then q.addBlockScalar true
  else if x == singleMark then q.addQuoted false
  else if x == '"' then q.addQuoted true
  else if q.startsPlain then q.addPlain
  else
    .error (.malformed
      { phase := .tokens, activity := some .nextToken, problem := .noToken x, mark := q.mark })

/-- Makes the next token, and those that indentation brings before it. -/
def fetch (q : Queue) : Except ScalarFailure Queue := do
  let start := if q.mark.index == 0 && q.cursor.head.toNat == 0xFEFF then
      q.moveTo (q.cursor.advance 1)
    else q
  let q := start.skipGap start.cursor.fuel
  let q ← lift q.dropStale
  addToken (q.unwind q.mark.column)

/-- Makes tokens until the first one that is waiting is certain. Every round that does not make the
last token takes characters from the text. -/
def settle (q : Queue) : Nat → Except ScalarFailure Queue
  | 0 => .ok q
  | fuel + 1 =>
    if q.done then .ok q
    else
      match q.waiting with
      | [] => do settle (← q.fetch) fuel
      | _ :: _ => do
        let q ← lift q.dropStale
        if q.firstHint? == some q.taken then do settle (← q.fetch) fuel else pure q

/-- The first token, and the queue with it still in it. -/
def peek (q : Queue) : Except ScalarFailure (Token × Queue) := do
  let q ← q.settle (q.cursor.rest.length + 2)
  pure (q.waiting.headD default, q)

/-- Takes the first token. -/
def pop (q : Queue) : Queue :=
  { q with waiting := q.waiting.drop 1, taken := q.taken + 1 }

end Queue

end RoleAudit.Yaml
