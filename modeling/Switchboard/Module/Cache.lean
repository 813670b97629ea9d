/-
The module cache: every controller and middleware is loaded at most once per name.

A name that is cached is answered without a load. Otherwise the load is noted, and if it succeeds the module is bound
and kept, a controller being initialised first; a load that fails keeps nothing, so that a later call loads again.
Controllers and middlewares are kept apart, and there is no eviction.
-/
import Switchboard.Module.Basic
import Switchboard.Site

namespace Switchboard

/-- a loaded and initialised controller -/
structure ControllerBinding (ι ω : Type) where
  name : Text
  /-- number of its instance at the site -/
  slot : Nat
  actions : Actions ι ω

structure MiddlewareBinding where
  name : Text
  middleware : Middleware

/-- the modules loaded so far -/
structure ModuleCache (ι ω : Type) where
  controllers : List (ControllerBinding ι ω) := []
  middlewares : List MiddlewareBinding := []

/-- A computation that may be refused. Cache and site keep what was done before a refusal. -/
abbrev Resolution (ι ω α : Type) := EStateM RouteError (ModuleCache ι ω × Site ι ω) α

namespace ModuleCache

variable {ι ρ ω : Type}

def controller? (cache : ModuleCache ι ω) (name : Text) : Option (ControllerBinding ι ω) :=
  cache.controllers.find? (·.name = name)

def middleware? (cache : ModuleCache ι ω) (name : Text) : Option MiddlewareBinding :=
  cache.middlewares.find? (·.name = name)

section Added

variable (cache : ModuleCache ι ω) (name : Text)

@[simp] theorem controller?_addController (binding : ControllerBinding ι ω) :
    { cache with controllers := cache.controllers ++ [binding] }.controller? name =
      (cache.controller? name).or (if binding.name = name then some binding else none) := by
  by_cases h : binding.name = name <;> simp [controller?, List.find?_append, h]

@[simp] theorem middleware?_addController (binding : ControllerBinding ι ω) :
    { cache with controllers := cache.controllers ++ [binding] }.middleware? name = cache.middleware? name := rfl

@[simp] theorem middleware?_addMiddleware (binding : MiddlewareBinding) :
    { cache with middlewares := cache.middlewares ++ [binding] }.middleware? name =
      (cache.middleware? name).or (if binding.name = name then some binding else none) := by
  by_cases h : binding.name = name <;> simp [middleware?, List.find?_append, h]

@[simp] theorem controller?_addMiddleware (binding : MiddlewareBinding) :
    { cache with middlewares := cache.middlewares ++ [binding] }.controller? name = cache.controller? name := rfl

end Added

/-- the controller of that name, loaded by `load` and initialised on first use -/
def controller (name : Text) (context : Context ρ) (load : Except RouteError (Controller ι ρ ω)) :
    Resolution ι ω (ControllerBinding ι ω) := fun (cache, site) =>
  match cache.controller? name with
  | some binding => .ok binding (cache, site)
  | none =>
    let site := site.noteLoad (.controller name)
    match load with
    | .error e => .error e (cache, site)
    | .ok loaded =>
      let binding := { name, slot := site.instances.length, actions := loaded.actions }
      .ok binding ({ cache with controllers := cache.controllers ++ [binding] },
        (site.addInstance (loaded.init context)).report (.controllerLoaded name))

/-- the middleware of that name, loaded by `load` on first use -/
def middleware (name : Text) (load : Except RouteError Middleware) : Resolution ι ω MiddlewareBinding :=
  fun (cache, site) =>
  match cache.middleware? name with
  | some binding => .ok binding (cache, site)
  | none =>
    let site := site.noteLoad (.middleware name)
    match load with
    | .error e => .error e (cache, site)
    | .ok loaded =>
      let binding := { name, middleware := loaded }
      .ok binding ({ cache with middlewares := cache.middlewares ++ [binding] },
        site.report (.middlewareLoaded name))

/-- the middlewares of those names in order, up to the first that fails -/
def middlewareList (source : ModuleSource ι ρ ω) : List Text → Resolution ι ω (List MiddlewareBinding)
  | [] => pure []
  | name :: names => do
    let binding ← middleware name (source.middleware name)
    let bindings ← middlewareList source names
    pure (binding :: bindings)

end ModuleCache

end Switchboard
