import RoleAudit.Text.Blank
import RoleAudit.Text.Pattern

/-!
# Folding a text onto one line

A report has one physical line per row, so a text that spans several lines is folded: the white
space around each line break becomes a single space, and the ends are trimmed. White space that
holds no line break is kept as it is.

The pattern for a line break has three parts that overlap, because a line break is white space.
-/

namespace RoleAudit.Text

/-- Line breaks in a row, with the white space around them. -/
def lineBreaks : Pattern := .most isBlank (.atLeastOne isBreak (.most isBlank .done))

/-- The text on one line: line breaks folded, then the ends trimmed. -/
def singleLine (s : String) : String :=
  String.ofList (trimChars (lineBreaks.replace [' '] s.toList))

end RoleAudit.Text
