import RoleAudit.Text.Glyph
import RoleAudit.Text.Identifier

/-!
# Terminals

The kinds of token of a Java source, and how far each of them reaches in a text. A kind of token
takes as much as it can, and none reads past a NUL.

Stray bytes belong to every kind that is defined by what it excludes, so a source in another
encoding can be read as long as only its comments and literals show it.
-/

namespace RoleAudit.Source

open RoleAudit.Text

/-- A kind of token. -/
inductive Terminal where
  /-- A keyword, a separator or an operator. -/
  | fixed (text : String)
  | identifier
  | number
  | character
  /-- Text inside a string, up to a quote or an escape. -/
  | fragment
  /-- Text inside a text block. -/
  | blockFragment
  /-- An escape sequence. -/
  | escape
  /-- A backslash in a text block with a character that it does not escape. -/
  | blockEscape
  deriving Repr, DecidableEq, Inhabited

/-! ## How far a shape reaches -/

/-- The length of the longest match at the front of a text, if there is one. -/
abbrev Reach := List Glyph → Option Nat

namespace Reach

/-- One character with a property. -/
def one (p : Char → Bool) : Reach
  | .char c :: _ => if p c then some 1 else none
  | _ => none

/-- Characters with a property, at least one. -/
def run (p : Char → Bool) : Reach := fun gs =>
  let n := (gs.takeWhile fun g => (one p [g]).isSome).length
  if n == 0 then none else some n

/-- This text. -/
def text : List Char → Reach
  | [], _ => some 0
  | c :: cs, g :: gs => if g.isChar c then (text cs gs).map (· + 1) else none
  | _ :: _, [] => none

/-- One shape after the other. -/
def andThen (a b : Reach) : Reach := fun gs =>
  match a gs with
  | some n => (b (gs.drop n)).map (n + ·)
  | none => none

/-- A shape that may be absent. -/
def optionally (a : Reach) : Reach := fun gs => some ((a gs).getD 0)

/-- The longest of several shapes. -/
def longest (shapes : List Reach) : Reach := fun gs => (shapes.filterMap (· gs)).max?

/-- One shape after the other. -/
def chain (shapes : List Reach) : Reach := shapes.foldr andThen fun _ => some 0

end Reach

/-! ## Names -/

/-- A name: it starts with a letter. -/
def nameReach : Reach := .chain [.one isNameStart, .optionally (.run isNameRest)]

/-- A text that has the form of a name. -/
def isWord (s : String) : Bool :=
  match s.toList with
  | c :: _ => isNameStart c && s.toList.all isNameRest
  | [] => false

/-! ## Numbers -/

/-- Digits with underscores between them. -/
def digitsReach (p : Char → Bool) : Reach := fun gs =>
  match Reach.one p gs, Reach.run (fun c => p c || c == '_') gs with
  | some _, some n =>
    some (n - ((gs.take n).reverse.takeWhile fun g => g.isChar '_').length)
  | _, _ => none

/-- A hexadecimal digit. -/
def isHexDigit (c : Char) : Bool :=
  c.isDigit || ('a' ≤ c && c ≤ 'f') || ('A' ≤ c && c ≤ 'F')

/-- An octal digit. -/
def isOctalDigit (c : Char) : Bool := '0' ≤ c && c ≤ '7'

/-- The zero and the letter in front of digits to another base. -/
def baseReach (letters : List Char) : Reach :=
  .chain [.one (· == '0'), .one letters.contains]

/-- A decimal integer: zero, or digits that do not start with it. -/
def decimalReach : Reach :=
  .longest [.one (· == '0'), fun gs =>
    match Reach.one (fun c => c.isDigit && c != '0') gs with
    | some _ => digitsReach Char.isDigit gs
    | none => none]

/-- The sign and the digits of an exponent after one of the given letters. -/
def exponentReach (letters : List Char) : Reach :=
  .chain [.one letters.contains, .optionally (.one fun c => c == '+' || c == '-'),
    digitsReach Char.isDigit]

/-- The letter that marks a long integer. -/
def longMark : Reach := .optionally (.one fun c => c == 'l' || c == 'L')

/-- The letters that mark a floating-point number. -/
def isFloatMark (c : Char) : Bool := c == 'f' || c == 'F' || c == 'd' || c == 'D'

/-- A number in any of its forms. -/
def numberReach : Reach :=
  let digits := digitsReach Char.isDigit
  let hex := digitsReach isHexDigit
  let exponent := Reach.optionally (exponentReach ['e', 'E'])
  let floatMark := Reach.optionally (.one isFloatMark)
  let point := Reach.one (· == '.')
  .longest [
    .chain [decimalReach, longMark],
    .chain [baseReach ['x', 'X'], hex, longMark],
    .chain [.longest [baseReach ['o', 'O'], .one (· == '0')], digitsReach isOctalDigit, longMark],
    .chain [baseReach ['b', 'B'], digitsReach fun c => c == '0' || c == '1', longMark],
    .chain [digits, point, .optionally digits, exponent, floatMark],
    .chain [point, digits, exponent, floatMark],
    .chain [decimalReach, exponentReach ['e', 'E'], floatMark],
    .chain [decimalReach, exponent, .one isFloatMark],
    .chain [baseReach ['x', 'X'],
      .longest [.chain [hex, .optionally point], .chain [.optionally hex, point, hex]],
      .optionally (.chain [exponentReach ['p', 'P', 'e', 'E'], floatMark])]]

/-! ## Characters and strings -/

/-- A glyph that is neither NUL nor one of the given characters. -/
def isNone (excluded : List Char) : Glyph → Bool
  | .char c => c.toNat != 0 && !excluded.contains c
  | .stray _ => true

/-- Glyphs other than the given characters, at least one. -/
def otherReach (excluded : List Char) : Reach := fun gs =>
  let n := (gs.takeWhile (isNone excluded)).length
  if n == 0 then none else some n

/-- One glyph other than the given characters. -/
def otherOne (excluded : List Char) : Reach
  | g :: _ => if isNone excluded g then some 1 else none
  | [] => none

/-- The single quote. -/
def quoteMark : Char := Char.ofNat 0x27

/-- What stands between single quotes: glyphs that need no escape, and escaped glyphs. -/
def quotedLength : List Glyph → Nat
  | [] => 0
  | [g] => if isNone [quoteMark, '\\', '\n'] g then 1 else 0
  | g :: h :: rest =>
    if isNone [quoteMark, '\\', '\n'] g then 1 + quotedLength (h :: rest)
    else if g.isChar '\\' && isNone [] h then 2 + quotedLength rest
    else 0

/-- A character literal; more than one character is accepted. -/
def characterReach : Reach := fun gs =>
  match gs with
  | g :: rest =>
    let n := quotedLength rest
    let closed := (rest.drop n).head?.any (·.isChar quoteMark)
    if g.isChar quoteMark && n != 0 && closed then some (n + 2) else none
  | [] => none

/-- Text after a quote inside a text block, which may hold escaped quotes. -/
def afterQuoteLength : List Glyph → Nat
  | [] => 0
  | [g] => if isNone ['"', '\\'] g then 1 else 0
  | g :: h :: rest =>
    if isNone ['"', '\\'] g then 1 + afterQuoteLength (h :: rest)
    else if g.isChar '\\' && h.isChar '"' then 2 + afterQuoteLength rest
    else 0

/-- A piece of the text of a text block; it may begin with a quote. -/
def blockFragmentReach : Reach := fun gs =>
  match gs with
  | g :: rest =>
    if g.isChar '"' then some (1 + afterQuoteLength rest) else otherReach ['"', '\\'] gs
  | [] => none

/-- So many hexadecimal digits. -/
def hexReach (n : Nat) : Reach := .chain (List.replicate n (.one isHexDigit))

/-- An escape sequence. -/
def escapeReach : Reach :=
  .andThen (.one (· == '\\')) (.longest [
    otherOne ('x' :: 'u' :: ['0', '1', '2', '3', '4', '5', '6', '7']),
    fun gs => (Reach.run isOctalDigit gs).map (min 3),
    .andThen (.one (· == 'x')) (hexReach 2),
    .andThen (.one (· == 'u')) (hexReach 4),
    .chain [.one (· == 'u'), .one (· == '\x7b'), .run isHexDigit, .one (· == '\x7d')]])

/-- A backslash with a character that it does not escape. -/
def blockEscapeReach : Reach :=
  .andThen (.one (· == '\\'))
    (otherOne [quoteMark, 'b', 'f', 'n', 'r', 't', 's', '"', '\\'])

/-! ## Terminals -/

namespace Terminal

/-- How far a terminal reaches; a keyword is told from a longer name by who asks. -/
def reach : Terminal → Reach
  | fixed s => .text s.toList
  | identifier => nameReach
  | number => numberReach
  | character => characterReach
  | fragment => otherReach ['"', '\\']
  | blockFragment => blockFragmentReach
  | escape => escapeReach
  | blockEscape => blockEscapeReach

/-- Terminals inside a string, where white space and comments are part of the text. -/
def isVerbatim : Terminal → Bool
  | fragment | blockFragment | escape | blockEscape => true
  | _ => false

/-- A fixed text in the form of a name. -/
def keyword? : Terminal → Option String
  | fixed s => if isWord s then some s else none
  | _ => none

end Terminal

end RoleAudit.Source
