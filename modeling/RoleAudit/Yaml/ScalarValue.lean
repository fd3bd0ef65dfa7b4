import RoleAudit.Number.Reading
import RoleAudit.Text.Base64
import RoleAudit.Text.Encoding
import RoleAudit.Text.Lowercase
import RoleAudit.Yaml.Moment
import RoleAudit.Yaml.Scalar

/-!
# What a scalar stands for

A scalar with a tag is read as the tag says, also where it is not written like a value of that kind;
then it may stand for no value at all.
-/

namespace RoleAudit.Yaml

open RoleAudit.Text

/-- Why a scalar stands for no value of the kind that its tag says. -/
inductive ScalarFault where
  | integer (error : Number.IntegerError)
  | float (text : String)
  /-- A number without characters. -/
  | empty
  /-- Not a word for a truth value. -/
  | truth (word : String)
  /-- Not written like a date or a moment. -/
  | moment
  | calendar (error : CalendarError)
  | notAscii (message : String)
  | notBase64 (fault : Base64.Fault)
  deriving Repr, DecidableEq

/-- The wording of the refusal of a scalar. -/
def ScalarFault.message : ScalarFault → String
  | integer e => e.message
  | float text => Number.floatRefusal text
  | empty => "string index out of range"
  | truth word => quoted word
  | moment => "'NoneType' object has no attribute 'groupdict'"
  | calendar e => e.message
  | notAscii message => message
  | notBase64 fault => fault.message

/-- The base of numbers with colons. -/
def sixty : Nat := 60

/-- A text without underscores, and its sign. -/
def signedText (s : String) : Except ScalarFault (Bool × List Char) :=
  match s.toList.filter (· != '_') with
  | [] => .error .empty
  | '-' :: cs => .ok (true, cs)
  | '+' :: cs => .ok (false, cs)
  | cs => .ok (false, cs)

/-- The parts of a text between colons. -/
def colonParts (cs : List Char) : List String := (cs.splitOn ':').map String.ofList

/-- A whole number to one of the bases that its beginning tells. -/
def integerOf (s : String) : Except ScalarFault Int := do
  let (negative, cs) ← signedText s
  let read (base : Nat) (cs : List Char) : Except ScalarFault Int :=
    (Number.readInteger base (String.ofList cs)).mapError .integer
  let n ← match cs with
    | ['0'] => pure 0
    | '0' :: 'b' :: cs => read 2 cs
    | '0' :: 'x' :: cs => read 16 cs
    | '0' :: _ => read 8 cs
    | [] => throw .empty
    | _ =>
      if cs.contains ':' then do
        let parts ← (colonParts cs).mapM fun part => read 10 part.toList
        pure (parts.foldl (fun n p => n * sixty + p) 0)
      else read 10 cs
  pure (if negative then -n else n)

/-- A floating-point number, perhaps to base sixty. -/
def floatOf (s : String) : Except ScalarFault Float := do
  let (negative, cs) ← signedText (lower s)
  let read (text : String) : Except ScalarFault Float :=
    match Number.readFloat? text with
    | some x => .ok x
    | none => .error (.float text)
  if cs == ".nan".toList then pure (0.0 / 0.0)
  else
    let x ←
      if cs == ".inf".toList then pure (1.0 / 0.0)
      else if cs.contains ':' then do
        let parts ← (colonParts cs).mapM read
        let terms := parts.reverse.zipIdx.map fun p => p.1 * Number.ofDecimal (Nat.pow sixty p.2) 0
        pure (terms.foldl (· + ·) 0.0)
      else read (String.ofList cs)
    pure (if negative then -x else x)

/-- A truth value. -/
def truthOf (s : String) : Except ScalarFault Bool :=
  let word := lower s
  if ["yes", "true", "on"].contains word then .ok true
  else if ["no", "false", "off"].contains word then .ok false
  else .error (.truth word)

/-- Bytes. -/
def bytesOf (s : String) : Except ScalarFault (List UInt8) := do
  let _ ← (Encoding.ascii.encode s).mapError fun e => .notAscii e.message
  (Base64.decode s.toList).mapError .notBase64

/-- A date or a moment. -/
def momentOf (s : String) : Except ScalarFault Value :=
  match readMoment? s with
  | none => .error .moment
  | some r => r.mapError .calendar

end RoleAudit.Yaml
