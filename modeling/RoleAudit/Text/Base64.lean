/-!
# Base64

Four characters of an alphabet of 64 stand for three bytes. The reader passes over characters that
are not in the alphabet. It stops at the padding that completes a group of four, whatever follows.
-/

namespace RoleAudit.Text.Base64

/-- Why characters stand for no bytes. -/
inductive Fault where
  /-- A group of one character, after so many characters. -/
  | lonely (count : Nat)
  | padding
  deriving Repr, DecidableEq

/-- The wording of a fault. -/
def Fault.message : Fault → String
  | lonely count =>
    "Invalid base64-encoded string: number of data characters (" ++ toString count ++
      ") cannot be 1 more than a multiple of 4"
  | padding => "Incorrect padding"

/-- The number of a character of the alphabet. -/
def value? (c : Char) : Option Nat :=
  if 'A' ≤ c && c ≤ 'Z' then some (c.toNat - 'A'.toNat)
  else if 'a' ≤ c && c ≤ 'z' then some (c.toNat - 'a'.toNat + 26)
  else if '0' ≤ c && c ≤ '9' then some (c.toNat - '0'.toNat + 52)
  else if c == '+' then some 62
  else if c == '/' then some 63
  else none

/-- What is known of a group of four characters. -/
structure State where
  /-- The bytes so far, the last one first. -/
  bytes : List UInt8 := []
  /-- How many characters of the group were read. -/
  read : Nat := 0
  /-- The bits that belong to the next byte. -/
  bits : Nat := 0
  /-- How many padding characters came last. -/
  padding : Nat := 0

/-- Takes in a character of the alphabet. -/
def State.take (s : State) (n : Nat) : State :=
  let bits := s.bits * 64 + n
  if s.read == 0 then { s with read := 1, bits := n, padding := 0 }
  else
    let left := 6 - 2 * s.read
    { bytes := UInt8.ofNat (bits / Nat.pow 2 left) :: s.bytes, read := (s.read + 1) % 4
      bits := bits % Nat.pow 2 left, padding := 0 }

/-- Takes in characters to the end. -/
def State.run (s : State) : List Char → Except Fault (List UInt8)
  | [] =>
    if s.read == 0 then .ok s.bytes.reverse
    else if s.read == 1 then .error (.lonely (s.bytes.length / 3 * 4 + 1))
    else .error .padding
  | c :: cs =>
    if c == '=' then
      if 2 ≤ s.read then
        if 4 ≤ s.read + (s.padding + 1) then .ok s.bytes.reverse
        else State.run { s with padding := s.padding + 1 } cs
      else State.run s cs
    else
      match value? c with
      | none => State.run s cs
      | some n => State.run (s.take n) cs

/-- The bytes that characters stand for. -/
def decode (cs : List Char) : Except Fault (List UInt8) := State.run {} cs

end RoleAudit.Text.Base64
