import RoleAudit.Log.Context

/-!
# Handlers

A record is made without the run and the stage. On its way to a handler it passes the handler's
filters, one of which may supply them, and the handler's format may ask for them; where nobody has
supplied them, the line is lost.

All handlers are given the same record. What a filter has supplied for one of them is there for the
next one too.
-/

namespace RoleAudit.Log

/-- A record as a handler is given it. -/
structure Message where
  entry : Entry
  /-- The run and the stage, once a filter has supplied them. -/
  context? : Option Context := none

/-! ## Filters -/

/-- A filter of a handler. -/
inductive Filter where
  /-- Supplies the run and the stage, and holds nothing back. -/
  | context
  /-- Lets some entries through and holds the others back. -/
  | other (lets : Entry → Bool)

namespace Filter

/-- The filter supplies the run and the stage. -/
def isContext : Filter → Bool
  | context => true
  | other _ => false

/-- The filter lets an entry through. -/
def lets : Filter → Entry → Bool
  | context, _ => true
  | other lets, e => lets e

/-- What the filter adds to a message that it lets through. -/
def supply (current : Context) : Filter → Message → Message
  | context, m => { m with context? := some current }
  | other _, m => m

end Filter

/-- Takes a message through filters, up to the first one that holds it back. -/
def sieve (current : Context) : List Filter → Message → Bool × Message
  | [], m => (true, m)
  | f :: fs, m => if f.lets m.entry then sieve current fs (f.supply current m) else (false, m)

/-! ## Handlers -/

/-- A place that log lines go to. -/
structure Handler where
  /-- The handler writes lines in the audit's format. -/
  formatted : Bool := false
  /-- What a message passes before it is written. -/
  screens : List Filter := []
  /-- What is lighter is not written. -/
  level : Level := .unset
  deriving Inhabited

/-- What a handler makes of a message. -/
inductive Outcome where
  /-- The message is not for this handler. -/
  | skipped
  | written (line : String)
  /-- The format asks for the run and the stage, and nobody has supplied them. -/
  | lost
  deriving Repr, DecidableEq

/-- The line that was written, if one was. -/
def Outcome.line? : Outcome → Option String
  | written line => some line
  | _ => none

namespace Handler

/-- How many filters supply the run and the stage. -/
def filters (h : Handler) : Nat := h.screens.countP Filter.isContext

/-- Gives the handler the audit's format. -/
def format (h : Handler) : Handler := { h with formatted := true }

/-- Adds the filter that supplies the run and the stage, unless the handler has one. -/
def ensureFilter (h : Handler) : Handler :=
  if h.screens.any Filter.isContext then h else { h with screens := h.screens ++ [.context] }

/-- Writes a message: its line where the format is the audit's, and the bare text otherwise. -/
def write (h : Handler) (m : Message) : Outcome :=
  if h.formatted then
    match m.context? with
    | some context => .written (context.line m.entry)
    | none => .lost
  else .written m.entry.text

/-- What the handler makes of a message, and the message as it is behind the handler. -/
def take (current : Context) (h : Handler) (m : Message) : Outcome × Message :=
  if m.entry.level.passes h.level then
    let (passed, m) := sieve current h.screens m
    (if passed then h.write m else .skipped, m)
  else (.skipped, m)

end Handler

/-- Gives a message to handlers, one after another. -/
def deliver (current : Context) : List Handler → Message → List Outcome
  | [], _ => []
  | h :: hs, m =>
    let (outcome, m) := h.take current m
    outcome :: deliver current hs m

end RoleAudit.Log
