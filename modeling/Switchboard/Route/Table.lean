/-
The routes accepted so far, kept to find conflicts.

A method with a shape can be taken once. A capture keeps its name: the position of a capture, told by the shape of the
path up to it, belongs to the first name used there, and every later route has to use the same name.
-/
import Switchboard.Route.Pattern

namespace Switchboard

/-- the position of a capture and the name it was first given -/
structure CaptureName where
  /-- shape of the path up to and including the capture -/
  shape : Text
  name : Text
  /-- path of the route that gave the name -/
  path : Text
  deriving DecidableEq, Repr

/-- accepted methods and shapes, and the names of the capture positions -/
structure RouteTable where
  routes : List (Method × Text) := []
  names : List CaptureName := []
  deriving DecidableEq, Repr

namespace RouteTable

def empty : RouteTable := {}

def size (table : RouteTable) : Nat :=
  table.routes.length

/-- the name of the capture position of that shape -/
def nameAt? (table : RouteTable) (shape : Text) : Option CaptureName :=
  table.names.find? (·.shape = shape)

/-- the first of the captures that an earlier route names differently, with the earlier name -/
def conflict? (table : RouteTable) : List (Text × Text) → Option (Text × CaptureName)
  | [] => none
  | (shape, name) :: rest =>
    match table.nameAt? shape with
    | none => table.conflict? rest
    | some earlier => if earlier.name = name then table.conflict? rest else some (name, earlier)

/-- The table in which the captures of `path` have names, those with a name keeping it. No two captures of a path have
one position, so only the names from before are looked at. -/
def keepNames (table : RouteTable) (path : Text) (captures : List (Text × Text)) : RouteTable :=
  let fresh := captures.filter fun (shape, _) => (table.nameAt? shape).isNone
  { table with names := table.names ++ fresh.map fun (shape, name) => { shape, name, path } }

/-- Accepts a method on a pattern, or tells what it clashes with; a duplicate is told before a conflicting name. -/
def insert (table : RouteTable) (method : Method) (pattern : Pattern) : Except RouteError Unit × RouteTable :=
  if (method, pattern.shape) ∈ table.routes then (.error (.duplicate method pattern.path), table)
  else
    match table.conflict? pattern.captures with
    | some (name, earlier) => (.error (.conflicting pattern.path name earlier.path earlier.name), table)
    | none =>
      let named := table.keepNames pattern.path pattern.captures
      (.ok (), { named with routes := named.routes ++ [(method, pattern.shape)] })

@[simp] theorem routes_keepNames (table : RouteTable) (path : Text) (captures : List (Text × Text)) :
    (table.keepNames path captures).routes = table.routes := rfl

variable {table table' : RouteTable} {method : Method} {pattern : Pattern}

/-- A refusal leaves the table as it is. -/
theorem insert_error {e : RouteError} (h : (table.insert method pattern).1 = .error e) :
    table.insert method pattern = (.error e, table) := by
  by_cases hroute : (method, pattern.shape) ∈ table.routes
  · simp only [insert, if_pos hroute] at h ⊢
    rw [h]
  · cases hconflict : table.conflict? pattern.captures with
    | some clash =>
      simp only [insert, if_neg hroute, hconflict] at h ⊢
      rw [h]
    | none =>
      simp only [insert, if_neg hroute, hconflict] at h
      cases h

/-- An insertion is refused and leaves the table, or goes through. -/
theorem insert_cases (table : RouteTable) (method : Method) (pattern : Pattern) :
    (∃ e, table.insert method pattern = (.error e, table)) ∨ ∃ table', table.insert method pattern = (.ok (), table') := by
  cases h : (table.insert method pattern).1 with
  | error e => exact Or.inl ⟨e, insert_error h⟩
  | ok _ => exact Or.inr ⟨_, Prod.ext h rfl⟩

/-- What an insertion that goes through has checked, and what it leaves. -/
theorem insert_eq_ok (h : table.insert method pattern = (.ok (), table')) :
    (method, pattern.shape) ∉ table.routes ∧ table.conflict? pattern.captures = none ∧
      table' = { table.keepNames pattern.path pattern.captures with
        routes := table.routes ++ [(method, pattern.shape)] } := by
  by_cases hroute : (method, pattern.shape) ∈ table.routes
  · rw [insert, if_pos hroute] at h
    cases h
  · rw [insert, if_neg hroute] at h
    cases hconflict : table.conflict? pattern.captures with
    | some clash =>
      rw [hconflict] at h
      cases h
    | none =>
      rw [hconflict] at h
      cases h
      exact ⟨hroute, rfl, rfl⟩

end RouteTable

end Switchboard
