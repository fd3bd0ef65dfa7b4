import RoleAudit.Text.DecimalDigit
import RoleAudit.Text.Quoted

/-!
# The command line

The options of the audit. An option is a word that begins with two hyphens. It may be cut short as
long as it means one option only. Its value, if it takes one, is the next word, or stands behind an
equals sign.

A word that begins with a hyphen may still be a value: a hyphen alone, a negative number, and a word
with a space in it are. After `--` no word is an option. There are no arguments besides options, so
words that are left over are refused, after all options have been looked at.
-/

namespace RoleAudit

open RoleAudit.Text

/-- What the command line says. -/
structure Options where
  config : Option String := none
  sourceRoots : Option (List String) := none
  reportFile : Option String := none
  projectName : Option String := none
  buildDirectory : Option String := none
  basePackage : Option String := none
  markers : Option (List String) := none
  allJavaFiles : Bool := false
  lenient : Bool := false
  summaryDirectory : Option String := none
  verbose : Bool := false
  deriving Repr, DecidableEq, Inhabited

/-- The options that can be given. -/
inductive Switch where
  | help
  | config
  | sourceRoot
  | reportFile
  | projectName
  | buildDirectory
  | basePackage
  | fileMarker
  | allJavaFiles
  | lenient
  | summaryDirectory
  | verbose
  deriving Repr, DecidableEq

namespace Switch

/-- The spellings of all options, in the order in which a message lists them. -/
def spellings : List (String × Switch) :=
  [("-h", help), ("--help", help), ("--config", config), ("--source-root", sourceRoot),
    ("--report-file", reportFile), ("--project-name", projectName),
    ("--build-dir", buildDirectory), ("--base-package", basePackage),
    ("--file-marker", fileMarker), ("--all-java-files", allJavaFiles),
    ("--lenient-syntax", lenient), ("--run-report-dir", summaryDirectory), ("--verbose", verbose)]

/-- The option of a full spelling. -/
def ofSpelling? (s : String) : Option Switch := (spellings.find? fun e => e.1 == s).map (·.2)

/-- The name of an option in a message: all its spellings. -/
def name (s : Switch) : String :=
  "/".intercalate ((spellings.filter fun e => e.2 == s).map (·.1))

/-- The option takes a value. -/
def takesValue : Switch → Bool
  | help | allJavaFiles | lenient | verbose => false
  | _ => true

/-- Sets an option; one that takes no value ignores it. -/
def set (value : String) (o : Options) : Switch → Options
  | help => o
  | config => { o with config := some value }
  | sourceRoot => { o with sourceRoots := some (o.sourceRoots.getD [] ++ [value]) }
  | reportFile => { o with reportFile := some value }
  | projectName => { o with projectName := some value }
  | buildDirectory => { o with buildDirectory := some value }
  | basePackage => { o with basePackage := some value }
  | fileMarker => { o with markers := some (o.markers.getD [] ++ [value]) }
  | allJavaFiles => { o with allJavaFiles := true }
  | lenient => { o with lenient := true }
  | summaryDirectory => { o with summaryDirectory := some value }
  | verbose => { o with verbose := true }

end Switch

/-- Why a command line is refused. -/
inductive UsageError where
  | ambiguous (word : String) (candidates : List String)
  | noValue (switch : Switch)
  | unwantedValue (switch : Switch) (value : String)
  | leftOver (words : List String)
  deriving Repr, DecidableEq

/-- The message of a refusal. -/
def UsageError.message : UsageError → String
  | ambiguous word candidates =>
    "ambiguous option: " ++ word ++ " could match " ++ ", ".intercalate candidates
  | noValue s => "argument " ++ s.name ++ ": expected one argument"
  | unwantedValue s value =>
    "argument " ++ s.name ++ ": ignored explicit argument " ++ quoted value
  | leftOver words => "unrecognized arguments: " ++ " ".intercalate words

/-- The name of the program in its messages. -/
def programName : String := "run_audit.py"

/-- The last line that the program prints when it refuses a command line. -/
def UsageError.lastLine (e : UsageError) : String := programName ++ ": error: " ++ e.message

/-! ## Words -/

/-- What a word of the command line is. -/
inductive Word where
  /-- Not an option; it may be a value. -/
  | plain (text : String)
  /-- An option, with the value behind its equals sign. -/
  | switch (s : Switch) (value : Option String)
  /-- The option for help with something behind its letter. -/
  | helpCluster (rest : List Char)
  /-- Like an option, but none, or the mark that ends all options. -/
  | stray (text : String)
  deriving Repr, DecidableEq

/-- The part before the first equals sign, and the part behind it. -/
def splitValue (cs : List Char) : List Char × Option (List Char) :=
  let before := cs.takeWhile (· != '=')
  match cs.drop before.length with
  | [] => (before, none)
  | _ :: value => (before, some value)

/-- A negative number, with or without a fraction. -/
def isNegativeNumber (cs : List Char) : Bool :=
  let isDigit (c : Char) : Bool := (decimalValue? c).isSome
  let ends (rest : List Char) : Bool := rest.isEmpty || rest == ['\n']
  match cs with
  | '-' :: cs =>
    let rest := cs.dropWhile isDigit
    match rest with
    | '.' :: fraction =>
      !(fraction.takeWhile isDigit).isEmpty && ends (fraction.dropWhile isDigit)
    | rest => !(cs.takeWhile isDigit).isEmpty && ends rest
  | _ => false

/-- The options that a word may be short for. -/
def candidates (start : String) : List (String × Switch) :=
  Switch.spellings.filter fun e => start.toList.isPrefixOf e.1.toList

/-- What a word that begins with a hyphen and is not fully spelled is. -/
def Word.ofShort (text : String) : Except UsageError Word :=
  let cs := text.toList
  let (start, value) := splitValue cs
  let long := ['-', '-'].isPrefixOf cs
  let matching := if long then candidates (String.ofList start) else []
  match matching with
  | [(_, s)] => .ok (.switch s (value.map String.ofList))
  | _ :: _ :: _ => .error (.ambiguous text (matching.map (·.1)))
  | [] =>
    match long, cs with
    | false, '-' :: 'h' :: rest => .ok (.helpCluster rest)
    | _, _ =>
      if isNegativeNumber cs || cs.contains ' ' then .ok (.plain text) else .ok (.stray text)

/-- What a word is, as long as options may come. -/
def Word.of (text : String) : Except UsageError Word :=
  let cs := text.toList
  if cs.head? != some '-' || cs == ['-'] then .ok (.plain text)
  else
    match Switch.ofSpelling? text with
    | some s => .ok (.switch s none)
    | none =>
      match splitValue cs with
      | (start, some value) =>
        match Switch.ofSpelling? (String.ofList start) with
        | some s => .ok (.switch s (some (String.ofList value)))
        | none => Word.ofShort text
      | _ => Word.ofShort text

/-- What the words of a command line are. -/
def wordsOf : List String → Except UsageError (List Word)
  | [] => .ok []
  | text :: rest =>
    if text == "--" then .ok (.stray text :: rest.map .plain)
    else do
      let w ← Word.of text
      let ws ← wordsOf rest
      pure (w :: ws)

/-! ## Options -/

/-- What the command line asks for. -/
inductive Request where
  | help
  | audit (options : Options)
  deriving Repr, DecidableEq

/-- What stands behind the letter of the option for help: the letter again, or words that take no
effect, but no value. -/
def helpRequest : List Char → Except UsageError Request
  | 'h' :: '=' :: value => .error (.unwantedValue .help (String.ofList value))
  | 'h' :: rest => helpRequest rest
  | '-' :: rest => .error (.unwantedValue .help (String.ofList ('-' :: rest)))
  | _ => .ok .help

/-- Takes words as options. `extras` holds the words that are left over, last first. -/
def requestOf : List Word → Options → List String → Except UsageError Request
  | [], o, [] => .ok (.audit o)
  | [], _, extras => .error (.leftOver extras.reverse)
  | .plain text :: rest, o, extras => requestOf rest o (text :: extras)
  | .stray text :: rest, o, extras => requestOf rest o (text :: extras)
  | .helpCluster cs :: _, _, _ => helpRequest cs
  | .switch s (some value) :: rest, o, extras =>
    if s.takesValue then requestOf rest (s.set value o) extras
    else .error (.unwantedValue s value)
  | .switch s none :: .plain value :: rest, o, extras =>
    if s.takesValue then requestOf rest (s.set value o) extras
    else if s = .help then .ok .help
    else requestOf (.plain value :: rest) (s.set "" o) extras
  | .switch s none :: rest, o, extras =>
    if s.takesValue then .error (.noValue s)
    else if s = .help then .ok .help
    else requestOf rest (s.set "" o) extras

/-- Reads a command line. -/
def Request.of (arguments : List String) : Except UsageError Request := do
  let ws ← wordsOf arguments
  requestOf ws {} []

end RoleAudit
