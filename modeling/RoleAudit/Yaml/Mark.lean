/-!
# Places in a settings text

A mark is a place in a text. In a message it is shown with the line it is on, cut short around it if
the line is long, and an arrow below.
-/

namespace RoleAudit.Yaml

/-- What stands for the end of a text. -/
def endMark : Char := Char.ofNat 0

/-- A character that ends a line. -/
def isBreak (c : Char) : Bool :=
  c == '\n' || c == '\r' || c == '\x85' || c == '\u2028' || c == '\u2029'

/-- A line break, or the end of the text. -/
def isLineEnd (c : Char) : Bool := isBreak c || c == endMark

/-- A line end or a space. -/
def isLineEndOrSpace (c : Char) : Bool := isLineEnd c || c == ' '

/-- A line end, a space or a tab. -/
def isGap (c : Char) : Bool := isLineEndOrSpace c || c == '\t'

/-- A place in a text: the number of characters before it, and its line and column from 0. -/
structure Mark where
  index : Nat := 0
  line : Nat := 0
  column : Nat := 0
  deriving Repr, DecidableEq, Inhabited

/-- The name of the text that a message shows. -/
def textName : String := "<unicode string>"

/-- How much of a line is shown on either side of a place. -/
def snippetReach : Nat := 36

/-- How much of the cut-off end of a line an ellipsis takes the place of. -/
def ellipsisCut : Nat := 5

namespace Mark

/-- The line of a place, perhaps cut short, and an arrow under the place. -/
def snippet (m : Mark) (text : List Char) : String :=
  let before := ((text.take m.index).reverse.takeWhile fun c => !isLineEnd c).reverse
  let after := (text.drop m.index).takeWhile fun c => !isLineEnd c
  let (head, left) :=
    if snippetReach < before.length then
      (" ... ", before.drop (before.length - (snippetReach + 1) + ellipsisCut))
    else ("", before)
  let (tail, right) :=
    if snippetReach < after.length then (" ... ", after.take (snippetReach + 1 - ellipsisCut))
    else ("", after)
  let indent := String.ofList (List.replicate 4 ' ')
  let arrow := List.replicate (4 + left.length + head.length) ' ' ++ ['^']
  indent ++ head ++ String.ofList (left ++ right) ++ tail ++ "\n" ++ String.ofList arrow

/-- A place in words, with its line. -/
def text (m : Mark) (source : List Char) : String :=
  "  in \"" ++ textName ++ "\", line " ++ toString (m.line + 1) ++ ", column " ++
    toString (m.column + 1) ++ ":\n" ++ m.snippet source

end Mark

end RoleAudit.Yaml
