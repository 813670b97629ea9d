/-
Modules: controllers, middlewares, and sources of both.

A controller is given once, as a way to make an instance from its context and a list of actions. An action answers a
request with the instance and the world at hand, and leaves both as they are afterwards. `ι` is the type of instances,
`ρ` that of the shared resource, `ω` that of the world.

A middleware looks at the request and rules on it: either it answers at once, or it forwards a request, at most once,
and may finish the response on its way back. It keeps no state. `chain` runs middlewares around a handler, the first
of the list outermost.
-/
import Switchboard.Http.Message
import Switchboard.Route.Basic

namespace Switchboard

/-! ## Controllers -/

/-- what a server tells about itself -/
structure ServerHandle where
  /-- public base of links, without a slash at its end -/
  baseUrl : Text := []
  /-- address the server listens on -/
  bindAddress : Text := []
  deriving DecidableEq, Repr

/-- everything a controller is given when it is initialised -/
structure Context (ρ : Type) where
  server : ServerHandle := {}
  resource : Option ρ := none

/-- answers a request and changes the state -/
abbrev Handler (σ : Type) := Request → σ → Response × σ

/-- answers a request on an instance and changes the instance and the world -/
abbrev Action (ι ω : Type) := Request → ι → ω → Response × ι × ω

structure Actions (ι ω : Type) where
  entries : List (Text × Action ι ω) := []

namespace Actions

variable {ι ω : Type}

/-- the actions with one more; a name given again takes the later action -/
def insert (name : Text) (action : Action ι ω) (actions : Actions ι ω) : Actions ι ω :=
  { entries := (name, action) :: actions.entries }

/-- the actions of a list, given one after the other -/
def ofList (entries : List (Text × Action ι ω)) : Actions ι ω :=
  entries.foldl (fun actions (name, action) => actions.insert name action) {}

/-- the action given last comes first -/
@[simp] theorem entries_ofList (entries : List (Text × Action ι ω)) : (ofList entries).entries = entries.reverse := by
  have hfold : ∀ actions : Actions ι ω,
      (entries.foldl (fun actions (name, action) => actions.insert name action) actions).entries =
        entries.reverse ++ actions.entries := by
    induction entries with
    | nil => exact fun actions => rfl
    | cons entry entries ih =>
      intro actions
      rw [List.foldl_cons, ih]
      simp [insert]
  simpa [ofList] using hfold {}

def find? (name : Text) (actions : Actions ι ω) : Option (Action ι ω) :=
  actions.entries.lookup name

@[simp] theorem find?_insert (name other : Text) (action : Action ι ω) (actions : Actions ι ω) :
    (actions.insert name action).find? other = if other = name then some action else actions.find? other := by
  by_cases h : other = name
  · subst h
    simp [find?, insert]
  · have h' : (other == name) = false := by simpa using h
    simp [find?, insert, List.lookup_cons, h, h']

def contains (name : Text) (actions : Actions ι ω) : Bool :=
  (actions.find? name).isSome

/-- every name once -/
def names (actions : Actions ι ω) : List Text :=
  (actions.entries.map (·.1)).eraseDups

end Actions

/-- a controller before it is initialised -/
structure Controller (ι ρ ω : Type) where
  /-- the initialised instance -/
  init : Context ρ → ι
  actions : Actions ι ω

/-! ## Middlewares -/

/-- what a middleware decides about a request -/
inductive Ruling where
  /-- answers in place of everything further in -/
  | answer (response : Response)
  /-- passes a request on and finishes the response that comes back -/
  | forward (request : Request) (finish : Response → Response)

/-- rules on a request, given the time in milliseconds since the epoch -/
abbrev Middleware := Nat → Request → Ruling

namespace Middleware

variable {σ : Type}

/-- a middleware around the handler `next` -/
def wrap (clock : Nat) (m : Middleware) (next : Handler σ) : Handler σ := fun request state =>
  match m clock request with
  | .answer response => (response, state)
  | .forward request' finish =>
    let (response, state') := next request' state
    (finish response, state')

/-- middlewares around the handler `next`, the first outermost -/
def chain (clock : Nat) (ms : List Middleware) (next : Handler σ) : Handler σ :=
  ms.foldr (wrap clock) next

@[simp] theorem chain_nil (clock : Nat) (next : Handler σ) : chain clock [] next = next := rfl

@[simp] theorem chain_cons (clock : Nat) (m : Middleware) (ms : List Middleware) (next : Handler σ) :
    chain clock (m :: ms) next = wrap clock m (chain clock ms next) := rfl

@[simp] theorem chain_append (clock : Nat) (ms ns : List Middleware) (next : Handler σ) :
    chain clock (ms ++ ns) next = chain clock ms (chain clock ns next) := by
  simp [chain]

end Middleware

/-! ## Sources -/

/-- controllers and middlewares by the names that route lines use -/
structure ModuleSource (ι ρ ω : Type) where
  controller : Text → Except RouteError (Controller ι ρ ω)
  middleware : Text → Except RouteError Middleware

end Switchboard
