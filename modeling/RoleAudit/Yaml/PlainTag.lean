/-!
# What a plain scalar is

A scalar without quotes and without a tag is taken for a number, a truth value, a moment or nothing
if it looks like one, and for text otherwise. Patterns are matched against the whole scalar.
-/

namespace RoleAudit.Yaml

/-- What the tags of this format begin with. -/
def tagPrefix : String := "tag:yaml.org,2002:"

/-- The full form of a tag of this format. -/
def standardTag (name : String) : String := tagPrefix ++ name

/-- The tag of texts. -/
def textTag : String := standardTag "str"

/-- The tag of sequences. -/
def sequenceTag : String := standardTag "seq"

/-- The tag of mappings. -/
def mappingTag : String := standardTag "map"

/-- The tag of keys whose values are merged into the mapping around them. -/
def mergeTag : String := standardTag "merge"

/-- The tag of keys whose value stands for the whole mapping. -/
def valueTag : String := standardTag "value"

/-! ## Patterns -/

/-- A pattern takes characters off the front of a text, in every way that fits. -/
abbrev Pattern := List Char → List (List Char)

namespace Pattern

/-- One character with a property. -/
def one (p : Char → Bool) : Pattern
  | c :: cs => if p c then [cs] else []
  | [] => []

/-- This character. -/
def char (c : Char) : Pattern := one (· == c)

/-- Characters with a property, any number. -/
def many (p : Char → Bool) : Pattern
  | c :: cs => if p c then (c :: cs) :: many p cs else [c :: cs]
  | [] => [[]]

/-- Characters with a property, at least one. -/
def some (p : Char → Bool) : Pattern := fun cs => (one p cs).flatMap (many p)

/-- A pattern that may be absent. -/
def opt (a : Pattern) : Pattern := fun cs => a cs ++ [cs]

/-- One pattern after the other. -/
def chain (as : List Pattern) : Pattern := fun cs => as.foldl (fun rests a => rests.flatMap a) [cs]

/-- One of several patterns. -/
def either (as : List Pattern) : Pattern := fun cs => as.flatMap fun a => a cs

/-- One of several words. -/
def words (ws : List String) : Pattern := either (ws.map fun w => chain (w.toList.map char))

/-- A pattern at least once, up to so many times. -/
def repeated (a : Pattern) : Nat → Pattern
  | 0 => a
  | n + 1 => fun cs => a cs ++ (a cs).flatMap (repeated a n)

/-- So many of one pattern. -/
def times (n : Nat) (a : Pattern) : Pattern := chain (List.replicate n a)

/-- The pattern takes a whole text, but perhaps for a line feed at its end. -/
def matchesAll (a : Pattern) (cs : List Char) : Bool :=
  (a cs).any fun rest => rest.isEmpty || rest == ['\n']

end Pattern

open Pattern

/-- A decimal digit. -/
def digit : Pattern := one Char.isDigit

/-- A decimal digit or an underscore. -/
def isSpacedDigit (c : Char) : Bool := c.isDigit || c == '_'

/-- A sign. -/
def sign : Pattern := one fun c => c == '+' || c == '-'

/-- A decimal number without a leading zero. -/
def positive : Pattern := chain [one fun c => c.isDigit && c != '0', many isSpacedDigit]

/-- A part of a number to base sixty, with its colon; at most so many follow each other. -/
def sixtieths (n : Nat) : Pattern :=
  repeated (chain [char ':', opt (one fun c => '0' ≤ c && c ≤ '5'), digit]) n

/-- Truth values. -/
def boolPattern : Pattern :=
  words ["yes", "Yes", "YES", "no", "No", "NO", "true", "True", "TRUE", "false", "False", "FALSE",
    "on", "On", "ON", "off", "Off", "OFF"]

/-- Words for nothing. -/
def nullPattern : Pattern := words ["~", "null", "Null", "NULL"]

/-- Floating-point numbers. -/
def floatPattern (length : Nat) : Pattern :=
  let exponent := opt (chain [one fun c => c == 'e' || c == 'E', sign, some Char.isDigit])
  let whole := chain [digit, many isSpacedDigit]
  either [
    chain [opt sign, whole, char '.', many isSpacedDigit, exponent],
    chain [char '.', digit, many isSpacedDigit, exponent],
    chain [opt sign, whole, sixtieths length, char '.', many isSpacedDigit],
    chain [opt sign, char '.', words ["inf", "Inf", "INF"]],
    chain [char '.', words ["nan", "NaN", "NAN"]]]

/-- Whole numbers. -/
def intPattern (length : Nat) : Pattern :=
  let binary (c : Char) : Bool := c == '0' || c == '1' || c == '_'
  let octal (c : Char) : Bool := ('0' ≤ c && c ≤ '7') || c == '_'
  let hex (c : Char) : Bool :=
    c.isDigit || ('a' ≤ c && c ≤ 'f') || ('A' ≤ c && c ≤ 'F') || c == '_'
  chain [opt sign, either [
    chain [char '0', char 'b', some binary],
    chain [char '0', some octal],
    char '0',
    positive,
    chain [char '0', char 'x', some hex],
    chain [positive, sixtieths length]]]

/-- One digit or two. -/
def shortNumber : Pattern := chain [digit, opt digit]

/-- The space between a date and a time. -/
def timeMark : Pattern :=
  either [one fun c => c == 'T' || c == 't', some fun c => c == ' ' || c == '\t']

/-- Dates, and moments with their offset from universal time. -/
def momentPattern : Pattern :=
  let dash := char '-'
  let colon := char ':'
  let zone := either [char 'Z', chain [sign, shortNumber, opt (chain [colon, times 2 digit])]]
  either [
    chain [times 4 digit, dash, times 2 digit, dash, times 2 digit],
    chain [times 4 digit, dash, shortNumber, dash, shortNumber, timeMark, shortNumber, colon,
      times 2 digit, colon, times 2 digit, opt (chain [char '.', many Char.isDigit]),
      opt (chain [many fun c => c == ' ' || c == '\t', zone])]]

/-- The tag of a plain scalar. -/
def plainTag (s : String) : String :=
  let cs := s.toList
  let starts (p : Char → Bool) : Bool := cs.head?.any p
  let numeric (c : Char) : Bool := c.isDigit || c == '-' || c == '+'
  if boolPattern.matchesAll cs then standardTag "bool"
  else if starts (fun c => numeric c || c == '.') && (floatPattern cs.length).matchesAll cs then
    standardTag "float"
  else if starts numeric && (intPattern cs.length).matchesAll cs then standardTag "int"
  else if cs == ['<', '<'] then mergeTag
  else if cs.isEmpty || nullPattern.matchesAll cs then standardTag "null"
  else if starts Char.isDigit && momentPattern.matchesAll cs then standardTag "timestamp"
  else if cs == ['='] then valueTag
  else if cs == ['!'] || cs == ['&'] || cs == ['*'] then standardTag "yaml"
  else textTag

end RoleAudit.Yaml
