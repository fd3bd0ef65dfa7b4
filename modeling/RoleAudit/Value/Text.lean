import RoleAudit.Value.Basic
import RoleAudit.Number.FloatText
import RoleAudit.Text.Quoted

/-!
# Values as text

A setting that is read as text may hold any value. A text stands for itself; every other value is
written out as a literal: `None`, `True`, `1.5`, `['a', 1]`, `{'a': 'b'}`. Inside a container texts
are quoted.

Whole numbers of more than 4300 digits are refused, since writing them out takes time that grows
with the square of their length.
-/

namespace RoleAudit

/-- A whole number is too long to be read or written in decimal digits. -/
inductive DigitLimit where
  | reading (digits : Nat)
  | writing
  deriving Repr, DecidableEq

/-- The greatest number of decimal digits that is read or written. -/
def digitLimit : Nat := 4300

/-- The wording of the refusal of a long number. -/
def DigitLimit.message : DigitLimit → String
  | reading digits =>
    "Exceeds the limit (4300 digits) for integer string conversion: value has " ++
      toString digits ++ " digits; use sys.set_int_max_str_digits() to increase the limit"
  | writing =>
    "Exceeds the limit (4300 digits) for integer string conversion; " ++
      "use sys.set_int_max_str_digits() to increase the limit"

namespace Value

/-- A whole number in decimal digits. -/
def integerText (i : Int) : Except DigitLimit String :=
  let digits := Nat.toDigits 10 i.natAbs
  if digitLimit < digits.length then .error .writing
  else .ok ((if i < 0 then "-" else "") ++ String.ofList digits)

/-- How a container that is met inside itself is written. -/
def againText : Container → String
  | .list => "[...]"
  | .dict => "\x7b...\x7d"
  | .set => "set(...)"

mutual

/-- A value as a literal. -/
def literal : Value → Except DigitLimit String
  | null => .ok "None"
  | bool true => .ok "True"
  | bool false => .ok "False"
  | int i => integerText i
  | float x => .ok (Number.settingFormat.text x)
  | text s => .ok (Text.quoted s)
  | bytes b => .ok (Text.quotedBytes b)
  | date d => .ok d.literal
  | moment m => .ok m.literal
  | list items => (literals items).map fun ts => "[" ++ ", ".intercalate ts ++ "]"
  | pair key value => do
    let k ← literal key
    let v ← literal value
    return "(" ++ k ++ ", " ++ v ++ ")"
  | set [] => .ok "set()"
  | set items => (literals items).map fun ts => "\x7b" ++ ", ".intercalate ts ++ "\x7d"
  | dict entries => (entryLiterals entries).map fun ts => "\x7b" ++ ", ".intercalate ts ++ "\x7d"
  | again container => .ok (againText container)

/-- Values as literals, in order. -/
def literals : List Value → Except DigitLimit (List String)
  | [] => .ok []
  | v :: vs => do
    let t ← literal v
    let ts ← literals vs
    return t :: ts

/-- Entries of a dictionary as literals, in order. -/
def entryLiterals : List (Value × Value) → Except DigitLimit (List String)
  | [] => .ok []
  | (k, v) :: es => do
    let tk ← literal k
    let tv ← literal v
    let ts ← entryLiterals es
    return (tk ++ ": " ++ tv) :: ts

end

/-- A value as text: a text as it is, a date or moment in its plain form, and anything else as a
literal. -/
def shown : Value → Except DigitLimit String
  | text s => .ok s
  | date d => .ok d.text
  | moment m => .ok m.text
  | v => literal v

@[simp] theorem shown_text (s : String) : shown (text s) = .ok s := rfl

end Value

end RoleAudit
