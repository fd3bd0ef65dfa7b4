import RoleAudit.Yaml.Scalar

/-!
# Tokens of a settings text

The tokens that mark the structure of a text, and how those that carry a text of their own are read:
directives, anchors, aliases and tags. Indentation is not in the text of any token; tokens that
begin and end blocks stand where it changes (see `Yaml.Queue`).
-/

namespace RoleAudit.Yaml

/-- A directive that means something. -/
inductive Directive where
  | version (major minor : Nat)
  | handle (handle start : String)
  | other
  deriving Repr, DecidableEq

/-- What a token is. -/
inductive TokenKind where
  | directive (d : Directive)
  | documentStart
  | documentEnd
  | textEnd
  | blockSequenceStart
  | blockMappingStart
  | blockEnd
  | flowSequenceStart
  | flowMappingStart
  | flowSequenceEnd
  | flowMappingEnd
  | key
  | value
  | blockEntry
  | flowEntry
  | reference (name : String)
  | anchor (name : String)
  | tag (handle : Option String) (rest : String)
  | scalar (plain : Bool) (text : String)
  deriving Repr, DecidableEq, Inhabited

/-- The name that a message shows for a token. -/
def TokenKind.name : TokenKind → String
  | directive _ => "<directive>"
  | documentStart => "<document start>"
  | documentEnd => "<document end>"
  | textEnd => "<stream end>"
  | blockSequenceStart => "<block sequence start>"
  | blockMappingStart => "<block mapping start>"
  | blockEnd => "<block end>"
  | flowSequenceStart => "["
  | flowMappingStart => "\x7b"
  | flowSequenceEnd => "]"
  | flowMappingEnd => "\x7d"
  | key => "?"
  | value => ":"
  | blockEntry => "-"
  | flowEntry => ","
  | reference _ => "<alias>"
  | anchor _ => "<anchor>"
  | tag .. => "<tag>"
  | scalar .. => "<scalar>"

/-- A token and the places where it starts and ends. -/
structure Token where
  kind : TokenKind
  start : Mark
  stop : Mark
  deriving Repr, DecidableEq, Inhabited

/-! ## Anchors and aliases -/

/-- Reads the name of an anchor or an alias; the cursor stands at its sign. -/
def readName (activity : Activity) (c : Cursor) : Except Error (String × Cursor) :=
  let since := c.mark
  let (name, c) := (c.advance 1).take isNameChar
  let allowed : List Char := ['?', ':', ',', ']', '\x7d', '%', '@', Char.ofNat 0x60]
  if name.isEmpty || !(isGap c.head || allowed.contains c.head) then
    tokenError activity since (.notAlphanumeric c.head) c
  else .ok (String.ofList name, c)

/-! ## Tags -/

/-- The two activities during which tags are read. -/
structure TagContext where
  scanning : Activity
  parsing : Activity
  since : Mark

/-- Reads the handle of a tag: an exclamation mark, or a name between two of them. -/
def readHandle (context : TagContext) (c : Cursor) : Except Error (String × Cursor) :=
  if c.head != '!' then tokenError context.scanning context.since (.noTagMark c.head) c
  else
    let after := c.advance 1
    if after.head == ' ' then .ok ("!", after)
    else
      let (name, behind) := after.take isNameChar
      if behind.head != '!' then
        tokenError context.scanning context.since (.noTagMark behind.head) behind
      else .ok ("!" ++ String.ofList name ++ "!", behind.advance 1)

/-- A character that may stand in the rest of a tag. -/
def isUriChar (c : Char) : Bool :=
  c.isAlphanum || c == singleMark ||
    ['-', ';', '/', '?', ':', '@', '&', '=', '+', '$', ',', '_', '.', '!', '~', '*', '(', ')', '[',
      ']', '%'].contains c

/-- Reads bytes that are written as percent signs and hexadecimal digits. -/
def readUriBytes (context : TagContext) : Nat → Cursor → List UInt8 →
    Except Error (List UInt8 × Cursor)
  | 0, c, bytes => .ok (bytes, c)
  | fuel + 1, c, bytes =>
    if c.head == '%' then
      let c := c.advance 1
      let digits := (c.rest.take 2).takeWhile isHex
      if digits.length < 2 then
        tokenError context.scanning context.since (.noUriEscape (c.peek digits.length)) c
      else
        readUriBytes context fuel (c.advance 2)
          (bytes ++ [UInt8.ofNat ((RoleAudit.Text.ofHex? digits).getD 0)])
    else .ok (bytes, c)

/-- Reads the characters of the rest of a tag. -/
def readUriChars (context : TagContext) : Nat → Cursor → List Char →
    Except Error (List Char × Cursor)
  | 0, c, text => .ok (text, c)
  | fuel + 1, c, text =>
    let (cs, c) := c.take fun x => isUriChar x && x != '%'
    let text := text ++ cs
    if c.head == '%' then
      match readUriBytes context c.fuel c [] with
      | .error e => .error e
      | .ok (bytes, behind) =>
        match RoleAudit.Text.Utf8.decode bytes with
        | .ok more => readUriChars context fuel behind (text ++ more)
        | .error e => tokenError context.scanning context.since (.notUtf8 e) c
    else .ok (text, c)

/-- Reads the rest of a tag, or what a directive says that a handle stands for. -/
def readUri (context : TagContext) (c : Cursor) : Except Error (String × Cursor) :=
  match readUriChars context c.fuel c [] with
  | .error e => .error e
  | .ok (text, behind) =>
    if behind.mark.index == c.mark.index then
      tokenError context.parsing context.since (.noUri c.head) c
    else .ok (String.ofList text, behind)

/-- Reads a tag; the cursor stands at its exclamation mark. -/
def readTag (c : Cursor) : Except Error (Option String × String × Cursor) := do
  let context : TagContext := ⟨.tagScan, .tagParse, c.mark⟩
  let next := c.peek 1
  let (handle, rest, c) ←
    if next == '<' then do
      let (rest, c) ← readUri context (c.advance 2)
      if c.head != '>' then
        tokenError .tagParse context.since (.noClosingBracket c.head) c
      else pure (none, rest, c.advance 1)
    else if isGap next then pure (none, "!", c.advance 1)
    else do
      let ahead := (c.advance 1).span fun x => !isLineEndOrSpace x
      let (handle, c) ←
        if ahead.contains '!' then readHandle context c else pure ("!", c.advance 1)
      let (rest, c) ← readUri context c
      pure (some handle, rest, c)
  if isLineEndOrSpace c.head then .ok (handle, rest, c)
  else tokenError .tagScan context.since (.noSpace c.head) c

/-! ## Directives -/

/-- Reads a number in a directive. -/
def readNumber (since : Mark) (c : Cursor) : Except Error (Nat × Cursor) :=
  let (digits, behind) := c.take Char.isDigit
  if digits.isEmpty then tokenError .directive since (.noDigit c.head) c
  else .ok (digits.foldl (fun n x => n * 10 + (x.toNat - '0'.toNat)) 0, behind)

/-- Reads what a version directive says. -/
def readVersion (since : Mark) (c : Cursor) : Except Error (Directive × Cursor) := do
  let (major, c) ← readNumber since c.skipSpaces
  if c.head != '.' then tokenError .directive since (.noDigitOrPoint c.head) c
  else
    let (minor, c) ← readNumber since (c.advance 1)
    if isLineEndOrSpace c.head then pure (.version major minor, c)
    else tokenError .directive since (.noDigitOrSpace c.head) c

/-- Reads what a tag directive says. -/
def readHandleDirective (since : Mark) (c : Cursor) : Except Error (Directive × Cursor) := do
  let context : TagContext := ⟨.directive, .directivePrefix, since⟩
  let (handle, c) ← readHandle context c.skipSpaces
  if c.head != ' ' then tokenError .directive since (.noSpace c.head) c
  else
    let (start, c) ← readUri context c.skipSpaces
    if isLineEndOrSpace c.head then pure (.handle handle start, c)
    else tokenError .directive since (.noSpace c.head) c

/-- Reads a directive, with the rest of its line; the cursor stands at its percent sign. Gives also
the place where the directive itself ends. -/
def readDirective (c : Cursor) : Except Error (Directive × Mark × Cursor) := do
  let since := c.mark
  let (name, c) := (c.advance 1).take isNameChar
  if name.isEmpty || !isLineEndOrSpace c.head then
    tokenError .directive since (.notAlphanumeric c.head) c
  else
    let (directive, stop, c) ←
      if String.ofList name == "YAML" then do
        let (d, c) ← readVersion since c
        pure (d, c.mark, c)
      else if String.ofList name == "TAG" then do
        let (d, c) ← readHandleDirective since c
        pure (d, c.mark, c)
      else pure (.other, c.mark, c.skip fun x => !isLineEnd x)
    let c := c.skipSpaces.skipComment
    if isLineEnd c.head then pure (directive, stop, c.lineBreak.2)
    else tokenError .directive since (.noBreak c.head) c

end RoleAudit.Yaml
