import RoleAudit.Value.Text

/-!
# Writing JSON

JSON in plain ASCII: every character outside it is written as a `\u` escape, those above U+FFFF as a
pair of them. `pretty` breaks lines and sorts keys, `compact` keeps one line and the order given.
-/

namespace RoleAudit.Json

/-- A `\u` escape of a sixteen-bit number. -/
def unitEscape (n : Nat) : List Char := '\\' :: 'u' :: Text.hexDigits 4 n

/-- A character inside a string. -/
def escapeChar (c : Char) : List Char :=
  match c with
  | '"' => ['\\', '"']
  | '\\' => ['\\', '\\']
  | '\n' => ['\\', 'n']
  | '\r' => ['\\', 'r']
  | '\t' => ['\\', 't']
  | '\x08' => ['\\', 'b']
  | '\x0c' => ['\\', 'f']
  | c =>
    let n := c.toNat
    if 0x20 ≤ n && n < 0x7F then [c]
    else if n < 0x10000 then unitEscape n
    else
      unitEscape (0xD800 + (n - 0x10000) / 0x400) ++ unitEscape (0xDC00 + (n - 0x10000) % 0x400)

/-- A string with its quotes. -/
def quote (s : String) : String :=
  String.ofList ('"' :: s.toList.flatMap escapeChar ++ ['"'])

/-- A whole number in decimal digits. -/
def integerText (i : Int) : String :=
  (if i < 0 then "-" else "") ++ String.ofList (Nat.toDigits 10 i.natAbs)

/-- A value without parts; what JSON has no form for is written as a string. -/
def scalarText (v : Value) : String :=
  match v with
  | .null => "null"
  | .bool true => "true"
  | .bool false => "false"
  | .int i => integerText i
  | .float x => Number.summaryFormat.text x
  | .text s => quote s
  | v => quote (v.shown.toOption.getD "")

/-- The text of a key. -/
def keyText (v : Value) : String :=
  match v with
  | .text s => s
  | v => scalarText v

/-! ## One line -/

mutual

/-- A value on one line. -/
def compact : Value → String
  | .list items => "[" ++ ", ".intercalate (compactItems items) ++ "]"
  | .dict entries => "\x7b" ++ ", ".intercalate (compactEntries entries) ++ "\x7d"
  | v => scalarText v

/-- Items, each on one line. -/
def compactItems : List Value → List String
  | [] => []
  | v :: vs => compact v :: compactItems vs

/-- Entries, each on one line. -/
def compactEntries : List (Value × Value) → List String
  | [] => []
  | (k, v) :: es => (quote (keyText k) ++ ": " ++ compact v) :: compactEntries es

end

/-! ## Several lines -/

/-- Spaces of one level of nesting. -/
def indentWidth : Nat := 2

/-- A line break, and the indentation of a level. -/
def newLine (level : Nat) : String :=
  String.ofList ('\n' :: List.replicate (indentWidth * level) ' ')

/-- Parts between brackets, each on a line of its own one level further in. -/
def block (openBracket closeBracket : String) (level : Nat) (parts : List String) : String :=
  if parts.isEmpty then openBracket ++ closeBracket
  else
    openBracket ++ newLine (level + 1) ++ ("," ++ newLine (level + 1)).intercalate parts ++
      newLine level ++ closeBracket

/-- Puts a keyed part into its place by key. -/
def insertByKey (e : String × String) : List (String × String) → List (String × String)
  | [] => [e]
  | f :: rest => if e.1 < f.1 then e :: f :: rest else f :: insertByKey e rest

/-- Keyed parts in ascending order of keys. -/
def sortByKey (parts : List (String × String)) : List (String × String) :=
  parts.foldl (fun acc e => insertByKey e acc) []

mutual

/-- A value over several lines, at a level of nesting. -/
def pretty (level : Nat) : Value → String
  | .list items => block "[" "]" level (prettyItems (level + 1) items)
  | .dict entries =>
    block "\x7b" "\x7d" level
      ((sortByKey (prettyEntries (level + 1) entries)).map fun e => quote e.1 ++ ": " ++ e.2)
  | v => scalarText v

/-- Items over several lines. -/
def prettyItems (level : Nat) : List Value → List String
  | [] => []
  | v :: vs => pretty level v :: prettyItems level vs

/-- Keys, and values over several lines. -/
def prettyEntries (level : Nat) : List (Value × Value) → List (String × String)
  | [] => []
  | (k, v) :: es => (keyText k, pretty level v) :: prettyEntries level es

end

end RoleAudit.Json
