import RoleAudit.Text.Glyph
import RoleAudit.Text.Hex

/-!
# Encodings

How text is turned into bytes. Two of the encodings know only the first 256 or 128 characters; a
text with others is refused, and the refusal names the first run of them.
-/

namespace RoleAudit.Text

/-- A known encoding. -/
inductive Encoding where
  | utf8
  | latin1
  | ascii
  deriving Repr, DecidableEq, Inhabited

/-- A text that an encoding has no bytes for. -/
structure EncodingError where
  encoding : Encoding
  /-- The first character without bytes. -/
  char : Char
  /-- Its position. -/
  position : Nat
  /-- How many characters without bytes follow each other. -/
  length : Nat
  deriving Repr, DecidableEq

namespace Encoding

/-- The encoding of a name. -/
def ofName? (s : String) : Option Encoding :=
  if s == "utf-8" then some utf8
  else if s == "latin-1" then some latin1
  else if s == "ascii" then some ascii
  else none

/-- The name that a refusal shows. -/
def name : Encoding → String
  | utf8 => "utf-8"
  | latin1 => "latin-1"
  | ascii => "ascii"

/-- The number of characters that an encoding of single bytes knows. -/
def limit? : Encoding → Option Nat
  | utf8 => none
  | latin1 => some 256
  | ascii => some 128

/-- The bytes of a text. -/
def encode (e : Encoding) (s : String) : Except EncodingError (List UInt8) :=
  match e.limit? with
  | none => .ok (Utf8.encode s)
  | some limit =>
    let unknown (c : Char) : Bool := limit ≤ c.toNat
    let known := s.toList.takeWhile fun c => !unknown c
    match s.toList.drop known.length with
    | [] => .ok (s.toList.map fun c => UInt8.ofNat c.toNat)
    | c :: rest => .error ⟨e, c, known.length, 1 + (rest.takeWhile unknown).length⟩

@[simp] theorem encode_utf8 (s : String) : utf8.encode s = .ok (Utf8.encode s) := rfl

end Encoding

/-- The message of a refusal. -/
def EncodingError.message (e : EncodingError) : String :=
  let n := e.char.toNat
  let escape := if n < 0x100 then "\\x" ++ String.ofList (hexDigits 2 n)
    else if n < 0x10000 then "\\u" ++ String.ofList (hexDigits 4 n)
    else "\\U" ++ String.ofList (hexDigits 8 n)
  let quote := String.singleton (Char.ofNat 0x27)
  let place := if e.length == 1 then
      "character " ++ quote ++ escape ++ quote ++ " in position " ++ toString e.position
    else
      "characters in position " ++ toString e.position ++ "-" ++
        toString (e.position + e.length - 1)
  let limit := match e.encoding.limit? with
    | some limit => toString limit
    | none => ""
  quote ++ e.encoding.name ++ quote ++ " codec can" ++ quote ++ "t encode " ++ place ++
    ": ordinal not in range(" ++ limit ++ ")"

end RoleAudit.Text
