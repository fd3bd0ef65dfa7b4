import RoleAudit.Text.SingleLine

/-!
# Role sets

Role names, and description texts with them, are kept as strictly ascending lists: every name once,
in the order of code points. `Roles.render` writes such a list as `[a; b]`, each name folded onto
one line.
-/

namespace RoleAudit.Roles

/-- Puts a name into its place; a name that is there already stays alone. -/
def insert (r : String) : List String → List String
  | [] => [r]
  | s :: rest =>
    if r < s then r :: s :: rest
    else if r = s then s :: rest
    else s :: insert r rest

/-- Each name once, in ascending order. -/
def normalize (names : List String) : List String := names.foldr insert []

@[simp] theorem normalize_nil : normalize [] = [] := rfl

theorem normalize_cons (r : String) (names : List String) :
    normalize (r :: names) = insert r (normalize names) := rfl

theorem mem_insert {x r : String} {names : List String} :
    x ∈ insert r names ↔ x = r ∨ x ∈ names := by
  induction names with
  | nil => simp [insert]
  | cons s rest ih =>
    unfold insert
    split
    · simp
    · split
      · next h => subst h; simp
      · simp only [List.mem_cons, ih]
        constructor
        · rintro (h | h | h) <;> simp [h]
        · rintro (h | h | h) <;> simp [h]

/-- Normalizing keeps exactly the names that were there. -/
theorem mem_normalize {x : String} {names : List String} : x ∈ normalize names ↔ x ∈ names := by
  induction names with
  | nil => simp
  | cons r rest ih => rw [normalize_cons, mem_insert, ih, List.mem_cons]

/-- What stands between two names. -/
def separator : String := "; "

/-- The names in brackets, in the order given, each on one line. -/
def render (names : List String) : String :=
  "[" ++ separator.intercalate (names.map Text.singleLine) ++ "]"

/-- Role sets that name the system itself and no user. -/
def internalSets : List (List String) := [["system"], ["system", "system-web"]]

/-- The roles give access to the system only. -/
def isInternal (roles : List String) : Bool := internalSets.contains roles

end RoleAudit.Roles
