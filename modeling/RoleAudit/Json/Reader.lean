import RoleAudit.Value.Text

/-!
# Reading JSON

A reader of JSON texts that reports the first fault with its position. It knows `NaN` and the two
infinities, keeps whole numbers apart from floating-point ones, and lets the last of several equal
keys count.

The reader works on the characters that are left and the position of the first of them. Its
recursion is bounded by the length of the text: every step into a container consumes its opening
bracket.
-/

namespace RoleAudit.Json

/-- What is wrong at a position. -/
inductive Fault where
  | byteOrderMark
  | value
  | propertyName
  | colon
  | comma
  | extraData
  | unterminated
  | controlCharacter
  | escape
  | unicodeEscape
  deriving Repr, DecidableEq

/-- A fault and its position, counted in characters from 0. -/
structure Error where
  fault : Fault
  position : Nat
  deriving Repr, DecidableEq

/-- Why a text has no value. -/
inductive Failure where
  | malformed (error : Error)
  /-- A number with too many digits. -/
  | number (limit : DigitLimit)
  deriving Repr, DecidableEq

/-- The wording of a fault. -/
def Fault.message : Fault → String
  | byteOrderMark => "Unexpected UTF-8 BOM (decode using utf-8-sig)"
  | value => "Expecting value"
  | propertyName => "Expecting property name enclosed in double quotes"
  | colon => "Expecting ':' delimiter"
  | comma => "Expecting ',' delimiter"
  | extraData => "Extra data"
  | unterminated => "Unterminated string starting at"
  | controlCharacter => "Invalid control character at"
  | escape => "Invalid \\escape"
  | unicodeEscape => "Invalid \\uXXXX escape"

/-- The line and the column of a position in a text, both from 1. -/
def lineAndColumn (text : List Char) (position : Nat) : Nat × Nat :=
  let before := text.take position
  (before.count '\n' + 1, (before.reverse.takeWhile (· != '\n')).length + 1)

/-- The wording of an error in the given text. -/
def Error.message (e : Error) (text : List Char) : String :=
  let (line, column) := lineAndColumn text e.position
  e.fault.message ++ ": line " ++ toString line ++ " column " ++ toString column ++ " (char " ++
    toString e.position ++ ")"

/-- A place in the text: the position, and the characters from there on. -/
structure Cursor where
  position : Nat
  rest : List Char
  deriving Repr, Inhabited

/-- Moves on by some characters. -/
def Cursor.advance (c : Cursor) (n : Nat) : Cursor := ⟨c.position + n, c.rest.drop n⟩

/-- White space between tokens. -/
def isSpace (c : Char) : Bool := c == ' ' || c == '\t' || c == '\n' || c == '\r'

/-- Moves past white space. -/
def Cursor.skipSpace (c : Cursor) : Cursor := c.advance (c.rest.takeWhile isSpace).length

/-- A fault at a position. -/
def malformed {α : Type} (fault : Fault) (position : Nat) : Except Failure α :=
  .error (.malformed ⟨fault, position⟩)

/-! ## Strings -/

/-- The character of a one-letter escape. -/
def simpleEscape? (c : Char) : Option Char :=
  match c with
  | '"' => some '"'
  | '\\' => some '\\'
  | '/' => some '/'
  | 'b' => some '\x08'
  | 'f' => some '\x0c'
  | 'n' => some '\n'
  | 'r' => some '\r'
  | 't' => some '\t'
  | _ => none

/-- The number of a `u` escape, which needs four digits and something after them. -/
def fourHex? (cs : List Char) : Option Nat :=
  if 4 < cs.length then Text.ofHex? (cs.take 4) else none

/-- The first half of a surrogate pair. -/
def isHighSurrogate (n : Nat) : Bool := 0xD800 ≤ n && n ≤ 0xDBFF

/-- The second half of a surrogate pair. -/
def isLowSurrogate (n : Nat) : Bool := 0xDC00 ≤ n && n ≤ 0xDFFF

/-- The character of a number; a lone half of a surrogate pair becomes U+FFFD. -/
def charOf (n : Nat) : Char :=
  if 0xD800 ≤ n && n ≤ 0xDFFF then Char.ofNat 0xFFFD else Char.ofNat n

/-- A `u` escape, with the cursor after the `u`; a pair of surrogates is one character. -/
def unicodeEscape (c : Cursor) : Except Failure (Char × Cursor) :=
  match fourHex? c.rest with
  | none => malformed .unicodeEscape (c.position - 1)
  | some n =>
    let after := c.advance 4
    match isHighSurrogate n, after.rest with
    | true, '\\' :: 'u' :: more =>
      if more.length ≤ 4 then .ok (charOf n, after)
      else
        match fourHex? more with
        | none => malformed .unicodeEscape (after.position + 1)
        | some m =>
          if isLowSurrogate m then
            .ok (Char.ofNat (0x10000 + (n - 0xD800) * 0x400 + (m - 0xDC00)), after.advance 6)
          else .ok (charOf n, after)
    | _, _ => .ok (charOf n, after)

/-- The rest of a string whose opening quote was at `start`; `read` holds what was read so far,
newest first. -/
def stringFrom (start : Nat) : Nat → Cursor → List Char → Except Failure (String × Cursor)
  | 0, _, _ => malformed .unterminated start
  | fuel + 1, c, read =>
    match c.rest with
    | [] => malformed .unterminated start
    | '"' :: _ => .ok (String.ofList read.reverse, c.advance 1)
    | '\\' :: [] => malformed .unterminated start
    | '\\' :: 'u' :: _ => do
      let (ch, next) ← unicodeEscape (c.advance 2)
      stringFrom start fuel next (ch :: read)
    | '\\' :: e :: _ =>
      match simpleEscape? e with
      | some ch => stringFrom start fuel (c.advance 2) (ch :: read)
      | none => malformed .escape c.position
    | ch :: _ =>
      if ch.toNat ≤ 0x1F then malformed .controlCharacter c.position
      else stringFrom start fuel (c.advance 1) (ch :: read)

/-- A string, with the cursor after its opening quote. -/
def string (c : Cursor) : Except Failure (String × Cursor) :=
  stringFrom (c.position - 1) (c.rest.length + 1) c []

/-! ## Numbers -/

/-- The parts of a number as written. -/
structure Numeral where
  negative : Bool
  whole : List Char
  /-- Digits after the point. -/
  fraction : List Char
  /-- The exponent's sign and digits. -/
  exponent : Option (Bool × List Char)
  /-- How many characters it takes. -/
  length : Nat
  deriving Repr

/-- The digits at the front. -/
def digitsAt (cs : List Char) : List Char := cs.takeWhile Char.isDigit

/-- The exponent at the front: its sign, its digits and its length. -/
def exponentAt (cs : List Char) : Option (Bool × List Char × Nat) :=
  match cs with
  | e :: rest =>
    if e == 'e' || e == 'E' then
      let (negative, signed, digits) := match rest with
        | '-' :: more => (true, 1, digitsAt more)
        | '+' :: more => (false, 1, digitsAt more)
        | more => (false, 0, digitsAt more)
      if digits.isEmpty then none else some (negative, digits, 1 + signed + digits.length)
    else none
  | [] => none

/-- The number at the front. -/
def numeralAt (cs : List Char) : Option Numeral :=
  let (negative, signed, cs) := match cs with
    | '-' :: rest => (true, 1, rest)
    | cs => (false, 0, cs)
  let whole := match cs with
    | '0' :: _ => ['0']
    | cs => digitsAt cs
  if whole.isEmpty then none
  else
    let cs := cs.drop whole.length
    let fraction := match cs with
      | '.' :: rest => digitsAt rest
      | _ => []
    let pointed := if fraction.isEmpty then 0 else 1 + fraction.length
    let cs := cs.drop pointed
    let length := signed + whole.length + pointed
    match exponentAt cs with
    | some (sign, digits, n) => some ⟨negative, whole, fraction, some (sign, digits), length + n⟩
    | none => some ⟨negative, whole, fraction, none, length⟩

/-- The number that decimal digits stand for. -/
def natOf (digits : List Char) : Nat :=
  digits.foldl (fun n c => n * 10 + (c.toNat - '0'.toNat)) 0

/-- The value of a number as written: a whole number unless it has a fraction or an exponent. -/
def Numeral.value (n : Numeral) : Except Failure Value :=
  if n.fraction.isEmpty && n.exponent.isNone then
    if digitLimit < n.whole.length then .error (.number (.reading n.whole.length))
    else
      let i : Int := natOf n.whole
      .ok (.int (if n.negative then -i else i))
  else
    let exponent : Int := match n.exponent with
      | some (true, digits) => -(natOf digits : Int)
      | some (false, digits) => natOf digits
      | none => 0
    let x := Number.ofDecimal (natOf (n.whole ++ n.fraction)) (exponent - n.fraction.length)
    .ok (.float (if n.negative then -x else x))

/-! ## Values -/

/-- Words that stand for values. -/
def words : List (String × Value) :=
  [("null", .null), ("true", .bool true), ("false", .bool false), ("NaN", .float (0.0 / 0.0)),
    ("Infinity", .float (1.0 / 0.0)), ("-Infinity", .float (-1.0 / 0.0))]

/-- A value without parts at the front, if there is one. -/
def scalar (c : Cursor) : Except Failure (Value × Cursor) :=
  match words.find? fun w => w.1.toList.isPrefixOf c.rest with
  | some (word, v) => .ok (v, c.advance word.length)
  | none =>
    match numeralAt c.rest with
    | some n => n.value.map fun v => (v, c.advance n.length)
    | none => malformed .value c.position

mutual

/-- A value, with the cursor at its first character. -/
def value : Nat → Cursor → Except Failure (Value × Cursor)
  | 0, c => malformed .value c.position
  | fuel + 1, c =>
    match c.rest with
    | '"' :: _ => do
      let (s, c) ← string (c.advance 1)
      return (.text s, c)
    | '\x7b' :: _ =>
      let c := (c.advance 1).skipSpace
      match c.rest with
      | '\x7d' :: _ => .ok (.dict [], c.advance 1)
      | _ => members fuel c []
    | '[' :: _ =>
      let c := (c.advance 1).skipSpace
      match c.rest with
      | ']' :: _ => .ok (.list [], c.advance 1)
      | _ => items fuel c []
    | _ => scalar c

/-- The rest of an array, at the first character of an item. -/
def items : Nat → Cursor → List Value → Except Failure (Value × Cursor)
  | 0, c, _ => malformed .value c.position
  | fuel + 1, c, read => do
    let (v, c) ← value fuel c
    let c := c.skipSpace
    match c.rest with
    | ']' :: _ => return (.list (v :: read).reverse, c.advance 1)
    | ',' :: _ => items fuel (c.advance 1).skipSpace (v :: read)
    | _ => malformed .comma c.position

/-- The rest of an object, at the first character of a key. -/
def members : Nat → Cursor → List (Value × Value) → Except Failure (Value × Cursor)
  | 0, c, _ => malformed .value c.position
  | fuel + 1, c, read =>
    match c.rest with
    | '"' :: _ => do
      let (key, c) ← string (c.advance 1)
      let c := c.skipSpace
      match c.rest with
      | ':' :: _ =>
        let (v, c) ← value fuel (c.advance 1).skipSpace
        let c := c.skipSpace
        let read := (.text key, v) :: read
        match c.rest with
        | '\x7d' :: _ => return (.dict (Value.ofEntries read.reverse), c.advance 1)
        | ',' :: _ => members fuel (c.advance 1).skipSpace read
        | _ => malformed .comma c.position
      | _ => malformed .colon c.position
    | _ => malformed .propertyName c.position

end

/-- The value of a JSON text. -/
def read (text : List Char) : Except Failure Value :=
  match text with
  | '\uFEFF' :: _ => malformed .byteOrderMark 0
  | _ => do
    let (v, c) ← value (text.length + 1) (Cursor.skipSpace ⟨0, text⟩)
    let c := c.skipSpace
    if c.rest.isEmpty then return v else malformed .extraData c.position

/-- The value of a JSON text, if it has one. -/
def read? (text : String) : Option Value := (read text.toList).toOption

end RoleAudit.Json
