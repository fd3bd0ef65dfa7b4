import RoleAudit.Text.Printable
import RoleAudit.Text.Hex

/-!
# Quoted texts

Messages quote texts, paths and byte strings in one form: single quotes, unless the text holds a
single quote and no double quote; a backslash before the quote and before itself; `\n`, `\r` and
`\t`; and the other characters that are not printable by their number in two, four or eight
hexadecimal digits.
-/

namespace RoleAudit.Text

/-- The single quote. -/
def singleQuote : Char := Char.ofNat 0x27

/-- The quote that a text is put in: double quotes only where they save an escape. -/
def quoteFor (cs : List Char) : Char :=
  if cs.contains singleQuote && !cs.contains '"' then '"' else singleQuote

/-- The escape of a character by its number. -/
def numericEscape (n : Nat) : List Char :=
  if n < 0x100 then '\\' :: 'x' :: hexDigits 2 n
  else if n < 0x10000 then '\\' :: 'u' :: hexDigits 4 n
  else '\\' :: 'U' :: hexDigits 8 n

/-- One character inside the given quotes. -/
def quoteChar (quote c : Char) : List Char :=
  if c == quote || c == '\\' then ['\\', c]
  else if c == '\t' then ['\\', 't']
  else if c == '\n' then ['\\', 'n']
  else if c == '\r' then ['\\', 'r']
  else if isPrintable c then [c]
  else numericEscape c.toNat

/-- A text in quotes. -/
def quoted (s : String) : String :=
  let cs := s.toList
  let quote := quoteFor cs
  String.ofList (quote :: cs.flatMap (quoteChar quote) ++ [quote])

/-- A byte string in quotes, marked with `b`; bytes above 0x7E are escaped. -/
def quotedBytes (bytes : List UInt8) : String :=
  let cs := bytes.map fun b => Char.ofNat b.toNat
  let quote := quoteFor cs
  let shown (c : Char) : List Char :=
    if c.toNat < 0x7F then quoteChar quote c else numericEscape c.toNat
  String.ofList ('b' :: quote :: cs.flatMap shown ++ [quote])

end RoleAudit.Text
