import RoleAudit.Value.Calendar
import RoleAudit.Number.Shortest

/-!
# Values

What a settings file holds before anyone knows what the settings mean: scalars, and containers of
values. Keys of a dictionary are values themselves; two keys are the same if they are equal as
numbers, texts, dates or moments, so that `1`, `1.0` and `true` are one key.
-/

namespace RoleAudit

/-- The container that a value inside it refers back to. -/
inductive Container where
  | list
  | dict
  | set
  deriving Repr, DecidableEq, Inhabited

/-- A value of a settings file. -/
inductive Value where
  | null
  | bool (b : Bool)
  | int (i : Int)
  | float (x : Float)
  | text (s : String)
  | bytes (bytes : List UInt8)
  | date (d : Date)
  | moment (m : Moment)
  | list (items : List Value)
  /-- A key with its value, in a list that keeps their order. -/
  | pair (key value : Value)
  | set (items : List Value)
  | dict (entries : List (Value × Value))
  /-- A container met again inside itself. -/
  | again (container : Container)
  deriving Inhabited

namespace Value

/-! ## Keys -/

/-- The value of a number, if it is a whole one. -/
def whole? (x : Float) : Option Int :=
  match Number.parts x with
  | .finite negative m q _ =>
    let sign (n : Nat) : Int := if negative then -(n : Int) else n
    if 0 ≤ q then some (sign (m * Nat.pow 2 q.toNat))
    else if m % Nat.pow 2 (-q).toNat == 0 then some (sign (m / Nat.pow 2 (-q).toNat))
    else none
  | _ => none

/-- The whole number that a value is equal to. -/
def integer? : Value → Option Int
  | bool b => some (if b then 1 else 0)
  | int i => some i
  | float x => whole? x
  | _ => none

/-- Two scalars are one key. -/
def sameKey (a b : Value) : Bool :=
  match a.integer?, b.integer? with
  | some i, some j => i == j
  | some _, none => false
  | none, some _ => false
  | none, none =>
    match a, b with
    | null, null => true
    | float x, float y => x.toBits == y.toBits
    | text s, text t => s == t
    | bytes s, bytes t => s == t
    | date d, date e => d == e
    | moment m, moment n => m.same n
    | _, _ => false

/-- Only scalars can be keys. -/
def canBeKey : Value → Bool
  | list _ | dict _ | set _ | again _ => false
  | _ => true

/-! ## Dictionaries -/

/-- Sets a key: a key that is there keeps its place and its spelling. -/
def put (key value : Value) : List (Value × Value) → List (Value × Value)
  | [] => [(key, value)]
  | e :: rest => if e.1.sameKey key then (e.1, value) :: rest else e :: put key value rest

/-- The dictionary of entries in order; the last value of a key counts. -/
def ofEntries (entries : List (Value × Value)) : List (Value × Value) :=
  entries.foldl (fun acc e => put e.1 e.2 acc) []

/-- The value of a text key. -/
def lookup? (entries : List (Value × Value)) (key : String) : Option Value :=
  (entries.find? fun e => e.1.sameKey (text key)).map (·.2)

/-- Removes a text key. -/
def without (entries : List (Value × Value)) (key : String) : List (Value × Value) :=
  entries.filter fun e => !e.1.sameKey (text key)

/-! ## Truth -/

/-- Nothing, zero and every empty container or text are not true. -/
def isTrue : Value → Bool
  | null => false
  | bool b => b
  | int i => i != 0
  | float x => x != 0.0
  | text s => !s.isEmpty
  | bytes b => !b.isEmpty
  | list items => !items.isEmpty
  | set items => !items.isEmpty
  | dict entries => !entries.isEmpty
  | date _ | moment _ | pair _ _ | again _ => true

end Value

end RoleAudit
