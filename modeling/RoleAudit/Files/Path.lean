/-!
# Paths as text

Operations on paths that look at the text alone: splitting, joining, and the normal form, in which
there are no empty parts, no `.` and, below the root, no `..`. A path with two leading slashes keeps
both; any other number counts as one.
-/

namespace RoleAudit.Files.Path

/-- The part before the first slash, and the parts after it. -/
def cut : List Char → List Char × List (List Char)
  | [] => ([], [])
  | c :: cs =>
    let (first, rest) := cut cs
    if c == '/' then ([], first :: rest) else (c :: first, rest)

/-- The parts between slashes, empty ones included. -/
def segments (s : String) : List String :=
  let (first, rest) := cut s.toList
  (first :: rest).map String.ofList

/-- A part that can be the name of something: it is not empty, holds no slash, and is neither `.` nor
`..`. -/
def isName (part : String) : Bool :=
  !part.isEmpty && !part.toList.contains '/' && part != "." && part != ".."

/-- The path starts at the root. -/
def isAbsolute (s : String) : Bool := s.toList.head? == some '/'

/-- The path ends in a slash. -/
def endsInSlash (s : String) : Bool := s.toList.getLast? == some '/'

/-- Joins a path to a directory. An absolute path stays as it is. -/
def join (directory path : String) : String :=
  if isAbsolute path then path
  else if directory.isEmpty || endsInSlash directory then directory ++ path
  else directory ++ "/" ++ path

/-- The directory of a path and its last part, which is empty if the path ends in a slash. -/
def split (s : String) : String × String :=
  let cs := s.toList
  let tail := (cs.reverse.takeWhile (· != '/')).reverse
  let head := cs.take (cs.length - tail.length)
  let trimmed := (head.reverse.dropWhile (· == '/')).reverse
  (String.ofList (if trimmed.isEmpty then head else trimmed), String.ofList tail)

/-- The leading slashes that a normal form keeps. -/
def root (s : String) : String :=
  match s.toList with
  | '/' :: '/' :: '/' :: _ => "/"
  | '/' :: '/' :: _ => "//"
  | '/' :: _ => "/"
  | _ => ""

/-- Takes a part behind those of a path, last first. -/
def pushPart (absolute : Bool) (parts : List String) (part : String) : List String :=
  if part.isEmpty || part == "." then parts
  else if part == ".." then
    match parts with
    | [] => if absolute then [] else [part]
    | last :: rest => if last == ".." then part :: parts else rest
  else part :: parts

/-- The normal form of a path. -/
def normalize (s : String) : String :=
  let root := root s
  let parts := ((segments s).foldl (pushPart (!root.isEmpty)) []).reverse
  let text := root ++ "/".intercalate parts
  if text.isEmpty then "." else text

/-- The path without empty parts and `.`; each `..` stays. -/
def tidy (s : String) : String :=
  let parts := (segments s).filter fun p => !p.isEmpty && p != "."
  let text := root s ++ "/".intercalate parts
  if text.isEmpty then "." else text

/-- The ending of a path's last part, with its dot; a leading or a trailing dot begins none. -/
def ending (s : String) : String :=
  let last := ((segments (tidy s)).getLast?.getD "").toList
  let after := (last.reverse.takeWhile (· != '.')).reverse
  if after.length + 1 < last.length && !after.isEmpty then String.ofList ('.' :: after) else ""

end RoleAudit.Files.Path
