/-
The router: builds a server's routes from route lines.

A router is bound to a server once. A batch of lines is resolved completely, against a scratch table, before any of its
routes is registered, so that a batch with a bad line registers nothing; the error is that of the first bad line. After
a refusal the router is gone, while the site keeps what was loaded and recorded. `perform` is one call on a router and
`run` a sequence of them.
-/
import Switchboard.Router.Server
import Switchboard.Route.Line
import Switchboard.Route.Table
import Switchboard.Settings.Basic

namespace Switchboard

/-- why there is no router after a call -/
inductive Halt where
  /-- the call is refused -/
  | refused (error : RouteError)
  /-- the server could not hold the route on that path -/
  | unhostable (path : Text)
  deriving DecidableEq, Repr

/-- a router under construction -/
structure Router (ι ρ ω : Type) where
  source : ModuleSource ι ρ ω
  settings : RoutingSettings
  server : Option (Server ι ω) := none
  context : Context ρ := {}
  cache : ModuleCache ι ω := {}
  /-- summaries of the registered routes in order -/
  registered : List RouteSummary := []
  table : RouteTable := {}
  fallbackInstalled : Bool := false

namespace Router

variable {ι ρ ω : Type}

def empty (source : ModuleSource ι ρ ω) (settings : RoutingSettings) : Router ι ρ ω :=
  { source, settings }

def isInitialised (router : Router ι ρ ω) : Bool :=
  router.server.isSome

/-- Binds the server and the resource that controllers share. A router that has a server keeps it. -/
def init (router : Router ι ρ ω) (server : Server ι ω) (resource : Option ρ) (site : Site ι ω) :
    Router ι ρ ω × Site ι ω :=
  match router.server with
  | some _ => (router, site.report .initIgnored)
  | none =>
    ({ router with server := some server, context := { server := server.handle, resource } },
      site.report (.initialised server.handle.baseUrl))

/-! ## Resolving lines -/

/-- The route that a line under a mount path stands for. Line and path are checked before anything is loaded, and the
action before the middlewares. -/
def resolve (router : Router ι ρ ω) (mount line : Text) : Resolution ι ω (Route ι ω) := do
  let spec ← MonadExcept.ofExcept (RouteLine.read line router.settings.delimiter)
  let pattern ← MonadExcept.ofExcept (Pattern.parse (Path.compose mount spec.path))
  let binding ← ModuleCache.controller spec.controller router.context (router.source.controller spec.controller)
  match binding.actions.find? spec.action with
  | none => throw (.actionMissing spec.controller spec.action)
  | some action =>
    let middleware ← ModuleCache.middlewareList router.source spec.middleware
    pure { method := spec.method, pattern, target := spec.target router.settings.delimiter, middleware,
           slot := binding.slot, action }

/-- resolves a line and enters its route into the table -/
def resolveInto (router : Router ι ρ ω) (mount : Text) (table : RouteTable) (line : Text) :
    Resolution ι ω (Route ι ω × RouteTable) := do
  let route ← router.resolve mount line
  let entered := table.insert route.method route.pattern
  MonadExcept.ofExcept entered.1
  pure (route, entered.2)

/-- the same computation, where a refusal is reported at the site -/
def reporting {α : Type} (event : RouteError → Event) (step : Resolution ι ω α) : Resolution ι ω α := fun s =>
  match step s with
  | .ok a s => .ok a s
  | .error e (cache, site) => .error e (cache, site.report (event e))

/-- Resolves lines in order up to the first that is refused; `number` is that of the first line. -/
def resolveAll (router : Router ι ρ ω) (mount : Text) (table : RouteTable) (number : Nat) :
    List Text → Resolution ι ω (List (Route ι ω) × RouteTable)
  | [] => pure ([], table)
  | line :: lines => do
    let (route, table) ← reporting (.lineRefused number line) (router.resolveInto mount table line)
    let (routes, table) ← resolveAll router mount table (number + 1) lines
    pure (route :: routes, table)

/-! ## Registering routes -/

/-- what registering has brought about so far -/
structure Registration (ι ω : Type) where
  server : Server ι ω
  registered : List RouteSummary

/-- Registers routes in order, up to one that the server cannot hold. -/
def registerAll (done : Registration ι ω) (site : Site ι ω) :
    List (Route ι ω) → Except Halt (Registration ι ω) × Site ι ω
  | [] => (.ok done, site)
  | route :: routes =>
    let site := ((site.report (.routeRegistered route.summary)).measure (.registered route.method)).noteRegistration
      route.summary
    match done.server.register route with
    | none => (.error (.unhostable route.pattern.path), site)
    | some server => registerAll { server, registered := done.registered ++ [route.summary] } site routes

/-- registers every line under a mount path, or none of them -/
def route (router : Router ι ρ ω) (lines : List Text) (mount : Text) (site : Site ι ω) :
    Except Halt (Router ι ρ ω) × Site ι ω :=
  match router.server with
  | none => (.error (.refused .notInitialized), site.report .routesTooEarly)
  | some server =>
    let site := if router.fallbackInstalled then site.report (.lateRoutes mount) else site
    match router.resolveAll mount router.table 1 lines (router.cache, site) with
    | .error e (_, site) => (.error (.refused e), site)
    | .ok (routes, table) (cache, site) =>
      match registerAll { server, registered := router.registered } site routes with
      | (.error halt, site) => (.error halt, site)
      | (.ok done, site) =>
        (.ok { router with server := some done.server, cache, registered := done.registered, table },
          site.report (.batchRegistered mount routes.length))

/-- registers lines without a mount path -/
def routeWeb (router : Router ι ρ ω) (lines : List Text) (site : Site ι ω) :
    Except Halt (Router ι ρ ω) × Site ι ω :=
  router.route lines [] site

/-- registers lines under the API mount path -/
def routeApi (router : Router ι ρ ω) (lines : List Text) (site : Site ι ω) :
    Except Halt (Router ι ρ ω) × Site ι ω :=
  router.route lines router.settings.apiMount site

/-- installs the handler of GET requests that no route answers -/
def catchGetRequests (router : Router ι ρ ω) (handler : Handler ω) (site : Site ι ω) :
    Except Halt (Router ι ρ ω) × Site ι ω :=
  match router.server with
  | none => (.error (.refused .notInitialized), site.report .fallbackTooEarly)
  | some server =>
    (.ok { router with server := some { server with fallback := some handler }, fallbackInstalled := true },
      site.report .fallbackInstalled)

def finish (router : Router ι ρ ω) : Except RouteError (Server ι ω) :=
  match router.server with
  | some server => .ok server
  | none => .error .notInitialized

/-! ## Runs of calls -/

inductive Call (ι ρ ω : Type) where
  | init (server : Server ι ω) (resource : Option ρ)
  | route (lines : List Text) (mount : Text)
  | web (lines : List Text)
  | api (lines : List Text)
  | catchGetRequests (handler : Handler ω)

def perform (router : Router ι ρ ω) (site : Site ι ω) : Call ι ρ ω → Except Halt (Router ι ρ ω) × Site ι ω
  | .init server resource =>
    let (router, site) := router.init server resource site
    (.ok router, site)
  | .route lines mount => router.route lines mount site
  | .web lines => router.routeWeb lines site
  | .api lines => router.routeApi lines site
  | .catchGetRequests handler => router.catchGetRequests handler site

/-- calls in order, up to the first after which there is no router -/
def run (router : Router ι ρ ω) (site : Site ι ω) : List (Call ι ρ ω) → Except Halt (Router ι ρ ω) × Site ι ω
  | [] => (.ok router, site)
  | call :: calls =>
    match router.perform site call with
    | (.error halt, site) => (.error halt, site)
    | (.ok router, site) => run router site calls

end Router

end Switchboard
