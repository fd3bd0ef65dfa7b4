import RoleAudit.Value.Basic

/-!
# Dates and moments in a settings text

A date is written `2024-01-02`, a moment `2024-01-02T03:04:05.5+02:00`. Months, days and hours may
have one digit, spaces may stand in place of the `T` and before the offset, and `Z` is universal
time.
-/

namespace RoleAudit.Yaml

/-- Takes a number off the front that has at least and at most so many digits. -/
def takeNumber? (least most : Nat) (cs : List Char) : Option (Nat × List Char) :=
  let digits := (cs.take most).takeWhile Char.isDigit
  if digits.length < least then none
  else some (digits.foldl (fun n c => n * 10 + (c.toNat - '0'.toNat)) 0, cs.drop digits.length)

/-- Takes a character off the front. -/
def takeChar? (c : Char) : List Char → Option (List Char)
  | x :: cs => if x == c then some cs else none
  | [] => none

/-- A space or a tab. -/
def isInlineSpace (c : Char) : Bool := c == ' ' || c == '\t'

/-- Goes over what stands between a date and a time. -/
def takeTimeMark? : List Char → Option (List Char)
  | [] => none
  | c :: cs =>
    if c == 'T' || c == 't' then some cs
    else if isInlineSpace c then some (cs.dropWhile isInlineSpace)
    else none

/-- The end of a text, perhaps after a line feed. -/
def isAtEnd (cs : List Char) : Bool := cs.isEmpty || cs == ['\n']

/-- Microseconds from the digits behind the point. -/
def microseconds (digits : List Char) : Nat :=
  let six := digits.take 6
  (six ++ List.replicate (6 - six.length) '0').foldl (fun n c => n * 10 + (c.toNat - '0'.toNat)) 0

/-- An offset of hours and perhaps minutes, in seconds. -/
def readOffset? (cs : List Char) : Option (Int × List Char) := do
  let (hours, cs) ← takeNumber? 1 2 cs
  match takeChar? ':' cs with
  | none => some (hours * 3600, cs)
  | some rest => do
    let (minutes, rest) ← takeNumber? 2 2 rest
    some (hours * 3600 + minutes * 60, rest)

/-- The offset of a moment from universal time, if it has one; nothing may follow. -/
def readZone? (cs : List Char) : Option (Option Int) :=
  if isAtEnd cs then some none
  else
    match cs.dropWhile isInlineSpace with
    | 'Z' :: rest => if isAtEnd rest then some (some 0) else none
    | '+' :: rest => do
      let (seconds, rest) ← readOffset? rest
      if isAtEnd rest then some (some seconds) else none
    | '-' :: rest => do
      let (seconds, rest) ← readOffset? rest
      if isAtEnd rest then some (some (-seconds)) else none
    | _ => none

/-- A date or a moment; nothing if the text is written like neither. -/
def readMoment? (s : String) : Option (Except CalendarError Value) := do
  let (year, cs) ← takeNumber? 4 4 s.toList
  let (month, cs) ← takeNumber? 1 2 (← takeChar? '-' cs)
  let (day, cs) ← takeNumber? 1 2 (← takeChar? '-' cs)
  if isAtEnd cs then some ((Date.make year month day).map .date)
  else
    let (hour, cs) ← takeNumber? 1 2 (← takeTimeMark? cs)
    let (minute, cs) ← takeNumber? 2 2 (← takeChar? ':' cs)
    let (second, cs) ← takeNumber? 2 2 (← takeChar? ':' cs)
    let (fraction, cs) := match cs with
      | '.' :: cs => (cs.takeWhile Char.isDigit, cs.dropWhile Char.isDigit)
      | cs => ([], cs)
    let offset ← readZone? cs
    let moment := Moment.make year month day hour minute second (microseconds fraction) offset
    some (moment.map .moment)

end RoleAudit.Yaml
