/-!
# The shortest decimal of a binary number

A floating-point number stands for every real that is nearer to it than to its neighbours. The
shortest decimal is the one with the fewest digits among those reals; of several with that many
digits, the nearest to the number itself.

All arithmetic is exact, on natural numbers. A finite number is `m * 2 ^ q`; its interval is
measured in quarters of the unit `2 ^ q`, since the lower neighbour of a power of two is only half a
unit away.
-/

namespace RoleAudit.Number

/-- Digits `d₁ d₂ …` and the place of the point: the number is `0.d₁d₂… * 10 ^ point`. -/
structure Decimal where
  digits : List Char
  point : Int
  deriving Repr, DecidableEq, Inhabited

/-- How many decimal digits a number has; zero has one. -/
def digitCount (n : Nat) : Nat := (Nat.toDigits 10 n).length

/-- The power of ten just above `num / den`: the least `k` with `num / den < 10 ^ k`. -/
def tenAbove (num den : Nat) : Int :=
  if den ≤ num then digitCount (num / den)
  else
    let guess := digitCount den - digitCount num
    if den ≤ num * Nat.pow 10 guess then 1 - (guess : Int) else -(guess : Int)

/-- An interval around a number, all over one denominator. -/
structure Interval where
  low : Nat
  middle : Nat
  high : Nat
  den : Nat
  /-- The ends belong to the interval. -/
  closed : Bool
  deriving Repr

namespace Interval

/-- The interval that rounds to `m * 2 ^ q`; `narrow` says that the lower neighbour is half as far
away as the upper one. -/
def around (m : Nat) (q : Int) (narrow : Bool) : Interval :=
  let scale := q - 2
  let up := if 0 ≤ scale then Nat.pow 2 scale.toNat else 1
  { low := (4 * m - (if narrow then 1 else 2)) * up
    middle := 4 * m * up
    high := (4 * m + 2) * up
    den := if 0 ≤ scale then 1 else Nat.pow 2 (-scale).toNat
    closed := m % 2 == 0 }

/-- The fraction `num / den` lies in the interval. -/
def holds (i : Interval) (num den : Nat) : Bool :=
  let x := num * i.den
  if i.closed then i.low * den ≤ x && x ≤ i.high * den
  else i.low * den < x && x < i.high * den

/-- How far the fraction `num / den` is from the middle, times both denominators. -/
def distance (i : Interval) (num den : Nat) : Nat :=
  let x := num * i.den
  let y := i.middle * den
  (x - y) + (y - x)

/-- The nearest decimal with `n` digits, if one lies in the interval; `k` is the power of ten just
above the middle. -/
def withDigits? (i : Interval) (k : Int) (n : Nat) : Option Decimal :=
  let places := (n : Int) - k
  let up := if 0 ≤ places then Nat.pow 10 places.toNat else 1
  let down := if 0 ≤ places then 1 else Nat.pow 10 (-places).toNat
  let floor := i.middle * up / (i.den * down)
  let fits (c : Nat) : Bool := i.holds (c * down) up
  let pick (c : Nat) : Option Decimal :=
    let digits := Nat.toDigits 10 c
    some ⟨digits, (digits.length : Int) - places⟩
  match fits floor, fits (floor + 1) with
  | true, true =>
    let below := i.distance (floor * down) up
    let above := i.distance ((floor + 1) * down) up
    if below < above || (below == above && floor % 2 == 0) then pick floor else pick (floor + 1)
  | true, false => pick floor
  | false, true => pick (floor + 1)
  | false, false => none

/-- The shortest decimal of the interval: the first number of digits with which one fits. -/
def shortest (i : Interval) : Decimal :=
  let k := tenAbove i.middle i.den
  ((List.range 17).findSome? fun n => i.withDigits? k (n + 1)).getD ⟨['0'], 1⟩

end Interval

/-- What the bits of a floating-point number say. -/
inductive Parts where
  | notANumber
  | infinite (negative : Bool)
  | finite (negative : Bool) (m : Nat) (q : Int) (narrow : Bool)
  deriving Repr

/-- Takes a number apart. -/
def parts (x : Float) : Parts :=
  let bits := x.toBits.toNat
  let negative := bits / Nat.pow 2 63 == 1
  let exponent : Nat := bits / Nat.pow 2 52 % Nat.pow 2 11
  let fraction : Nat := bits % Nat.pow 2 52
  if exponent == 2047 then
    if fraction == 0 then .infinite negative else .notANumber
  else if exponent == 0 then .finite negative fraction (-1074) false
  else
    .finite negative (Nat.pow 2 52 + fraction) ((exponent : Int) - 1075)
      (fraction == 0 && 1 < exponent)

/-- Trailing zeros add nothing to a decimal. -/
def Decimal.trimZeros (d : Decimal) : Decimal :=
  { d with digits := (d.digits.reverse.dropWhile (· == '0')).reverse }

/-- The shortest decimal of `m * 2 ^ q`, for a positive `m`. -/
def shortest (m : Nat) (q : Int) (narrow : Bool) : Decimal :=
  (Interval.around m q narrow).shortest.trimZeros

/-- The number nearest to `mantissa * 10 ^ exponent`. Exponents beyond the range of floating-point
numbers are cut off before any power is computed. -/
def ofDecimal (mantissa : Nat) (exponent : Int) : Float :=
  let size := (digitCount mantissa : Int) + exponent
  if mantissa == 0 then 0.0
  else if 400 < size then 1.0 / 0.0
  else if size < -400 then 0.0
  else if 0 ≤ exponent then Float.ofScientific mantissa false exponent.toNat
  else Float.ofScientific mantissa true (-exponent).toNat

end RoleAudit.Number
