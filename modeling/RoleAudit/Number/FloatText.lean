import RoleAudit.Number.Shortest

/-!
# Floating-point numbers as text

The shortest decimal that reads back, written positionally from 0.0001 up to sixteen digits before
the point, and otherwise with an exponent of at least two digits.
-/

namespace RoleAudit.Number

/-- How a format writes floating-point numbers. -/
structure FloatFormat where
  /-- Least place of the point that is written positionally. -/
  leastPoint : Int
  /-- Greatest place of the point that is written positionally. -/
  greatestPoint : Int
  /-- Least number of digits in an exponent. -/
  exponentDigits : Nat
  notANumber : String
  infinity : String

/-- The digits of an exponent, with its sign. -/
def FloatFormat.exponent (f : FloatFormat) (e : Int) : String :=
  let digits := Nat.toDigits 10 e.natAbs
  (if e < 0 then "e-" else "e+") ++
    String.ofList (List.replicate (f.exponentDigits - digits.length) '0' ++ digits)

/-- A positive decimal. -/
def FloatFormat.decimal (f : FloatFormat) (d : Decimal) : String :=
  let ds := d.digits
  if d.point < f.leastPoint || f.greatestPoint < d.point then
    let mantissa := match ds with
      | [] => "0"
      | [c] => String.ofList [c]
      | c :: rest => String.ofList (c :: '.' :: rest)
    mantissa ++ f.exponent (d.point - 1)
  else if d.point ≤ 0 then
    "0." ++ String.ofList (List.replicate (-d.point).toNat '0' ++ ds)
  else
    let n := d.point.toNat
    if ds.length ≤ n then
      String.ofList (ds ++ List.replicate (n - ds.length) '0') ++ ".0"
    else String.ofList (ds.take n ++ '.' :: ds.drop n)

/-- A number. -/
def FloatFormat.text (f : FloatFormat) (x : Float) : String :=
  let sign (negative : Bool) : String := if negative then "-" else ""
  match parts x with
  | .notANumber => f.notANumber
  | .infinite negative => sign negative ++ f.infinity
  | .finite negative m q narrow =>
    if m == 0 then sign negative ++ "0.0"
    else sign negative ++ f.decimal (shortest m q narrow)

/-- The form in which settings show numbers. -/
def settingFormat : FloatFormat := ⟨-3, 16, 2, "nan", "inf"⟩

/-- The form in which a run summary shows numbers. -/
def summaryFormat : FloatFormat := ⟨-3, 16, 2, "NaN", "Infinity"⟩

end RoleAudit.Number
