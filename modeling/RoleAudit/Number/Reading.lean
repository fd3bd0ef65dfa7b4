import RoleAudit.Number.Shortest
import RoleAudit.Text.Blank
import RoleAudit.Text.DecimalDigit
import RoleAudit.Text.Quoted
import RoleAudit.Value.Text

/-!
# Reading numbers

Texts that are declared to be numbers, with digits of any script and white space around them. A
number to a base may repeat the mark of that base, as in `0x1f`.
-/

namespace RoleAudit.Number

open RoleAudit.Text

/-- White space around a number. Among the ASCII characters only tab, the line breaks and the space
count. -/
def isMargin (c : Char) : Bool :=
  if c.toNat < 0x80 then c == ' ' || (0x09 ≤ c.toNat && c.toNat ≤ 0x0D) else isBlank c

/-- A text without the white space around it. -/
def withoutMargin (cs : List Char) : List Char :=
  ((cs.dropWhile isMargin).reverse.dropWhile isMargin).reverse

/-- Takes a sign off the front. -/
def takeSign : List Char → Bool × List Char
  | '-' :: cs => (true, cs)
  | '+' :: cs => (false, cs)
  | cs => (false, cs)

/-! ## Whole numbers -/

/-- Why a text is not a whole number. -/
inductive IntegerError where
  | malformed (base : Nat) (text : String)
  | limit (limit : DigitLimit)
  deriving Repr, DecidableEq

/-- How much of a malformed number is shown. -/
def shownLength : Nat := 200

/-- The wording of the refusal of a whole number. -/
def IntegerError.message : IntegerError → String
  | malformed base text =>
    "invalid literal for int() with base " ++ toString base ++ ": " ++
      String.ofList ((quoted text).toList.take shownLength)
  | limit l => l.message

/-- The value of a digit to a base up to 36. -/
def digitValue? (base : Nat) (c : Char) : Option Nat :=
  let n? :=
    if 'a' ≤ c && c ≤ 'z' then some (c.toNat - 'a'.toNat + 10)
    else if 'A' ≤ c && c ≤ 'Z' then some (c.toNat - 'A'.toNat + 10)
    else decimalValue? c
  n?.filter (· < base)

/-- The letter that marks a base. -/
def baseMark? (base : Nat) : Option Char :=
  if base == 2 then some 'b' else if base == 8 then some 'o' else if base == 16 then some 'x'
  else none

/-- Takes the mark of the base off the front. -/
def takeBaseMark (base : Nat) : List Char → List Char
  | '0' :: c :: cs => if some c.toLower == baseMark? base then cs else '0' :: c :: cs
  | cs => cs

/-- Reads a whole number to a base. Only the length of decimal numbers is limited. -/
def readInteger (base : Nat) (text : String) : Except IntegerError Int :=
  let (negative, cs) := takeSign (withoutMargin text.toList)
  let cs := takeBaseMark base cs
  let digits := cs.map (digitValue? base)
  let values := (digits.takeWhile Option.isSome).filterMap id
  if base == 10 && digitLimit < values.length then .error (.limit (.reading values.length))
  else if values.isEmpty || values.length < digits.length then .error (.malformed base text)
  else
    let n : Nat := values.foldl (fun n d => n * base + d) 0
    .ok (if negative then -(n : Int) else n)

/-! ## Floating-point numbers -/

/-- The value of decimal digits. -/
def decimalNumber (cs : List Char) : Nat :=
  cs.foldl (fun n c => n * 10 + (decimalValue? c).getD 0) 0

/-- A decimal digit of any script. -/
def isDecimal (c : Char) : Bool := (decimalValue? c).isSome

/-- The exponent of a number: the letter, a sign and digits, and then nothing. -/
def readExponent? : List Char → Option Int
  | [] => some 0
  | c :: cs =>
    if c.toLower != 'e' then none
    else
      let (negative, cs) := takeSign cs
      if cs.isEmpty || !cs.all isDecimal then none
      else
        let n := decimalNumber cs
        some (if negative then -(n : Int) else n)

/-- The size of a number without its sign. -/
def readSize? (cs : List Char) : Option Float :=
  let word := String.ofList (cs.map Char.toLower)
  if word == "inf" || word == "infinity" then some (1.0 / 0.0)
  else if word == "nan" then some (0.0 / 0.0)
  else
    let whole := cs.takeWhile isDecimal
    let (fraction, rest) := match cs.drop whole.length with
      | '.' :: cs => (cs.takeWhile isDecimal, cs.dropWhile isDecimal)
      | cs => ([], cs)
    if whole.isEmpty && fraction.isEmpty then none
    else
      (readExponent? rest).map fun e =>
        ofDecimal (decimalNumber (whole ++ fraction)) (e - (fraction.length : Int))

/-- Reads a floating-point number. -/
def readFloat? (text : String) : Option Float :=
  let (negative, cs) := takeSign (withoutMargin text.toList)
  (readSize? cs).map fun x => if negative then -x else x

/-- The wording of the refusal of a floating-point number. -/
def floatRefusal (text : String) : String := "could not convert string to float: " ++ quoted text

end RoleAudit.Number
