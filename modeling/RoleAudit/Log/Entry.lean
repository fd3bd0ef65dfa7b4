/-!
# Log entries

What a part of the audit has to say, before anyone has decided who hears it: a level, the name of
the part that speaks, and the text. `Log.Context` says how an entry is written down, `Log.Handler` and
`Log.Setup` where.
-/

namespace RoleAudit.Log

/-- How grave an entry is. Any number is a level; a few of them have names. -/
structure Level where
  /-- More is graver. -/
  weight : Int
  deriving Repr, DecidableEq, Inhabited

namespace Level

/-- The level of what has none of its own. -/
def unset : Level := ⟨0⟩

def debug : Level := ⟨10⟩

def info : Level := ⟨20⟩

def warning : Level := ⟨30⟩

def error : Level := ⟨40⟩

def critical : Level := ⟨50⟩

/-- The levels that have a name, lightest first. -/
def named : List (Level × String) :=
  [(unset, "NOTSET"), (debug, "DEBUG"), (info, "INFO"), (warning, "WARNING"), (error, "ERROR"),
    (critical, "CRITICAL")]

/-- The name that a log line shows. -/
def name (l : Level) : String := (named.lookup l).getD ("Level " ++ toString l.weight)

/-- The level of a name. -/
def ofName? (s : String) : Option Level := (named.find? fun entry => entry.2 == s).map Prod.fst

/-- An entry of level `l` is heard where the threshold is `threshold`. -/
def passes (l threshold : Level) : Bool := threshold.weight ≤ l.weight

@[simp] theorem passes_self (l : Level) : l.passes l = true := decide_eq_true (Int.le_refl _)

theorem ofName?_name {l : Level} {name : String} (h : (l, name) ∈ named) :
    ofName? l.name = some l ∧ l.name = name := by
  simp only [named, List.mem_cons, Prod.mk.injEq, List.not_mem_nil, or_false] at h
  rcases h with ⟨rfl, rfl⟩ | ⟨rfl, rfl⟩ | ⟨rfl, rfl⟩ | ⟨rfl, rfl⟩ | ⟨rfl, rfl⟩ | ⟨rfl, rfl⟩ <;> decide

end Level

/-- One thing that a part of the audit has to say. -/
structure Entry where
  level : Level
  /-- The part that speaks. -/
  source : String
  text : String
  deriving Repr, DecidableEq, Inhabited

end RoleAudit.Log
