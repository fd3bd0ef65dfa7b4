/-!
# Source text: characters and stray bytes

A file is read as UTF-8, but nothing promises that it is UTF-8. `Glyph.decode` reads any bytes as a
list of glyphs: well-formed sequences become characters, and each byte that belongs to none is kept
as a stray byte, so that nothing is lost (`size` adds up to the bytes read).

* `Glyph.render` turns glyphs into text. A maximal run of stray bytes that begins one sequence
  without finishing it is shown as a single U+FFFD.
* `Utf8.decode` is the strict reading: it refuses the first stray byte and says why.
* `Utf8.encode` is the writing.
-/

namespace RoleAudit.Text

/-- One character of a source text, or one byte that belongs to no character. -/
inductive Glyph where
  | char (c : Char)
  | stray (byte : UInt8)
  deriving Repr, DecidableEq, Inhabited

namespace Glyph

/-- The number of bytes that a glyph takes. -/
def size : Glyph → Nat
  | char c => c.utf8Size
  | stray _ => 1

/-- The number of a glyph's character; a stray byte has none. -/
def number? : Glyph → Option Nat
  | char c => some c.toNat
  | stray _ => none

/-- The glyph is this character. -/
def isChar (g : Glyph) (c : Char) : Bool :=
  match g with
  | char d => d == c
  | stray _ => false

/-! ## The shape of a sequence -/

/-- What a first byte announces: how many bytes follow, and the range of the byte right after it. -/
structure Lead where
  /-- Bytes to follow. -/
  following : Nat
  /-- Least value of the second byte. -/
  low : UInt8
  /-- Greatest value of the second byte. -/
  high : UInt8

/-- The announcement of a first byte above 0x7F, if it can begin a sequence. The bounds on the
second byte exclude overlong forms, surrogates and numbers above 0x10FFFF. -/
def lead? (b : UInt8) : Option Lead :=
  if b < 0xC2 then none
  else if b < 0xE0 then some ⟨1, 0x80, 0xBF⟩
  else if b == 0xE0 then some ⟨2, 0xA0, 0xBF⟩
  else if b == 0xED then some ⟨2, 0x80, 0x9F⟩
  else if b < 0xF0 then some ⟨2, 0x80, 0xBF⟩
  else if b == 0xF0 then some ⟨3, 0x90, 0xBF⟩
  else if b < 0xF4 then some ⟨3, 0x80, 0xBF⟩
  else if b == 0xF4 then some ⟨3, 0x80, 0x8F⟩
  else none

/-- How many of the given bytes continue a sequence that still lacks `following` bytes, the first
of them in the given range. -/
def continued : Nat → UInt8 → UInt8 → List UInt8 → Nat
  | 0, _, _, _ => 0
  | _, _, _, [] => 0
  | following + 1, low, high, b :: bs =>
    if low ≤ b && b ≤ high then 1 + continued following 0x80 0xBF bs else 0

/-- The number that a first byte and its continuation bytes stand for. -/
def combine (b : UInt8) (rest : List UInt8) : Nat :=
  let head := b.toNat % Nat.pow 2 (6 - rest.length)
  rest.foldl (fun acc c => acc * 64 + c.toNat % 64) head

/-- The character at the front of the bytes, and how many bytes after the first it takes. -/
def scalar? (b : UInt8) (bs : List UInt8) : Option (Char × Nat) :=
  if b < 0x80 then some (Char.ofNat b.toNat, 0)
  else
    match lead? b with
    | none => none
    | some lead =>
      if continued lead.following lead.low lead.high bs == lead.following then
        some (Char.ofNat (combine b (bs.take lead.following)), lead.following)
      else none

/-- Bytes as glyphs. -/
def decode : List UInt8 → List Glyph
  | [] => []
  | b :: bs =>
    match scalar? b bs with
    | some (c, n) => char c :: decode (bs.drop n)
    | none => stray b :: decode bs
termination_by bs => bs.length
decreasing_by all_goals simp only [List.length_cons, List.length_drop]; omega

/-! ## Rendering glyphs -/

/-- The stray bytes at the front of a list of glyphs. -/
def strays : List Glyph → List UInt8
  | stray b :: gs => b :: strays gs
  | _ => []

/-- How many stray bytes a broken sequence takes after its first byte. -/
def brokenTail (b : UInt8) (gs : List Glyph) : Nat :=
  match lead? b with
  | none => 0
  | some lead => continued lead.following lead.low lead.high (strays gs)

/-- Glyphs as characters, each broken sequence as one U+FFFD. -/
def renderChars : List Glyph → List Char
  | [] => []
  | char c :: gs => c :: renderChars gs
  | stray b :: gs => Char.ofNat 0xFFFD :: renderChars (gs.drop (brokenTail b gs))
termination_by gs => gs.length
decreasing_by all_goals simp only [List.length_cons, List.length_drop]; omega

/-- Glyphs as text. -/
def render (gs : List Glyph) : String := String.ofList (renderChars gs)

/-- A text as glyphs. -/
def ofString (s : String) : List Glyph := s.toList.map char

/-- Glyphs that are all characters are shown as those characters. -/
@[simp] theorem renderChars_map_char (cs : List Char) : renderChars (cs.map char) = cs := by
  induction cs with
  | nil => simp [renderChars]
  | cons c cs ih => simp [renderChars, ih]

@[simp] theorem render_ofString (s : String) : render (ofString s) = s := by
  simp [render, ofString]

/-- The bytes that glyphs take together. -/
def totalSize (gs : List Glyph) : Nat := gs.foldl (fun n g => n + g.size) 0

end Glyph

/-! ## Strict UTF-8 -/

/-- Why a byte cannot be read. -/
inductive Utf8Fault where
  /-- No sequence starts with this byte. -/
  | start
  /-- A byte inside the sequence is out of its range. -/
  | continuation
  /-- The text ends inside the sequence. -/
  | ending
  deriving Repr, DecidableEq

/-- Where and why bytes are not UTF-8. -/
structure Utf8Error where
  /-- The first byte that cannot be read. -/
  byte : UInt8
  /-- Its position. -/
  position : Nat
  /-- How many bytes are refused together. -/
  length : Nat
  /-- The reason. -/
  fault : Utf8Fault
  deriving Repr, DecidableEq

namespace Utf8

/-- Reads bytes that must be UTF-8; `position` counts the bytes before them. -/
def decodeGlyphs (position : Nat) : List Glyph → Except Utf8Error (List Char)
  | [] => .ok []
  | .char c :: gs => (decodeGlyphs (position + c.utf8Size) gs).map (c :: ·)
  | .stray b :: gs =>
    let broken := Glyph.brokenTail b gs
    let fault :=
      if (Glyph.lead? b).isNone then Utf8Fault.start
      else if (gs.drop broken).isEmpty then .ending
      else .continuation
    .error ⟨b, position, 1 + broken, fault⟩

/-- Reads bytes that must be UTF-8. -/
def decode (bytes : List UInt8) : Except Utf8Error (List Char) :=
  decodeGlyphs 0 (Glyph.decode bytes)

/-- A text as bytes. -/
def encode (s : String) : List UInt8 := s.toList.flatMap String.utf8EncodeChar

@[simp] theorem encode_empty : encode "" = [] := rfl

/-- Texts are encoded one after the other. -/
theorem encode_append (s t : String) : encode (s ++ t) = encode s ++ encode t := by
  simp [encode, String.toList_append]

end Utf8

/-- The wording of a reading error. -/
def Utf8Error.message (e : Utf8Error) : String :=
  let reason := match e.fault with
    | .start => "invalid start byte"
    | .continuation => "invalid continuation byte"
    | .ending => "unexpected end of data"
  let place :=
    if e.length == 1 then
      "byte 0x" ++ String.ofList (hexPair e.byte) ++ " in position " ++ toString e.position
    else
      "bytes in position " ++ toString e.position ++ "-" ++ toString (e.position + e.length - 1)
  "'utf-8' codec can't decode " ++ place ++ ": " ++ reason
where
  /-- The two hexadecimal digits of a byte. -/
  hexPair (b : UInt8) : List Char :=
    [Nat.digitChar (b.toNat / 16), Nat.digitChar (b.toNat % 16)]

end RoleAudit.Text
