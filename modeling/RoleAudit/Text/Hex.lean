/-!
# Digits of a number in a base

Digits in a base up to sixteen, with lower-case letters, padded on the left with zeros.
-/

namespace RoleAudit.Text

/-- The digit of a number below sixteen. -/
def digitChar (n : Nat) : Char :=
  if n < 10 then Char.ofNat (0x30 + n) else Char.ofNat (0x57 + n)

/-- The value of a hexadecimal digit. -/
def hexValue? (c : Char) : Option Nat :=
  let n := c.toNat
  if 0x30 ≤ n && n ≤ 0x39 then some (n - 0x30)
  else if 0x61 ≤ n && n ≤ 0x66 then some (n - 0x57)
  else if 0x41 ≤ n && n ≤ 0x46 then some (n - 0x37)
  else none

/-- The last `width` hexadecimal digits of a number. -/
def hexDigits : Nat → Nat → List Char
  | 0, _ => []
  | width + 1, n => hexDigits width (n / 16) ++ [digitChar (n % 16)]

/-- A number in hexadecimal digits, at least `width` of them. -/
def hexAtLeast (width n : Nat) : List Char :=
  hexDigits (max width (Nat.toDigits 16 n).length) n

/-- The number that hexadecimal digits stand for; `none` if one of them is no digit. -/
def ofHex? (cs : List Char) : Option Nat :=
  cs.foldlM (fun acc c => (hexValue? c).map (acc * 16 + ·)) 0

/-- A number in decimal digits, padded with zeros to `width`. -/
def decimalAtLeast (width n : Nat) : String :=
  let digits := Nat.toDigits 10 n
  String.ofList (List.replicate (width - digits.length) '0' ++ digits)

end RoleAudit.Text
