/-
The site: what stays when the router is gone.

It holds the controller instances by number, the world that actions share, and the records of the run: events, measures,
the loads asked of the module source and the routes handed to the server.

An event is a cause with its data, reported by a start of the program and mostly while its router is built; `level`,
`message` and `fields` are the form in which it is logged. A measure is one step of a counter; `Measure.exposition` writes
the counters of a run as lines of the text format of metrics.
-/
import Switchboard.Route.Basic

namespace Switchboard

/-! ## Events -/

/-- how much an event matters -/
inductive Level where
  | debug
  | info
  | warn
  | error
  deriving DecidableEq, Repr

def Level.name : Level → Text
  | debug => "DEBUG"
  | info => "INFO"
  | warn => "WARN"
  | error => "ERROR"

/-- what a start of the program reports -/
inductive Event where
  /-- the settings are read and valid -/
  | starting (config bindAddress : Text) (routes : Nat)
  /-- a server is bound -/
  | initialised (baseUrl : Text)
  /-- a second server is offered and not taken -/
  | initIgnored
  /-- routes come before any server -/
  | routesTooEarly
  /-- the fallback comes before any server -/
  | fallbackTooEarly
  /-- routes come after the fallback -/
  | lateRoutes (mount : Text)
  | controllerLoaded (name : Text)
  | middlewareLoaded (name : Text)
  /-- a line of a batch is refused, lines counted from one -/
  | lineRefused (number : Nat) (line : Text) (error : RouteError)
  | routeRegistered (route : RouteSummary)
  /-- a whole batch is registered -/
  | batchRegistered (mount : Text) (routes : Nat)
  | fallbackInstalled
  deriving DecidableEq, Repr

namespace Event

def level : Event → Level
  | initialised _ | routeRegistered _ => .debug
  | starting _ _ _ | controllerLoaded _ | middlewareLoaded _ | batchRegistered _ _ | fallbackInstalled => .info
  | initIgnored | lateRoutes _ => .warn
  | routesTooEarly | fallbackTooEarly | lineRefused _ _ _ => .error

def message : Event → Text
  | starting _ _ _ => "webscaffold v0.1.0 starting"
  | initialised _ => "Router initialised"
  | initIgnored => "Router already initialised; ignoring repeated init"
  | routesTooEarly => "Routes registered before the router was initialised"
  | fallbackTooEarly => "GET fallback installed before the router was initialised"
  | lateRoutes _ => "Registering routes after the GET fallback was installed"
  | controllerLoaded _ => "Controller loaded"
  | middlewareLoaded _ => "Middleware loaded"
  | lineRefused _ _ _ => "Failed to register route"
  | routeRegistered _ => "Route registered"
  | batchRegistered _ _ => "Route batch registered"
  | fallbackInstalled => "GET fallback installed"

def fields : Event → List (Text × Text)
  | starting config bindAddress routes =>
    [("config", config), ("bind_address", bindAddress), ("routes", Text.ofNat routes)]
  | initialised baseUrl => [("base_url", baseUrl)]
  | lateRoutes mount => [("prefix", mount)]
  | controllerLoaded name => [("controller", name)]
  | middlewareLoaded name => [("middleware", name)]
  | lineRefused number line error =>
    [("line_number", Text.ofNat number), ("route", line), ("error", error.message)]
  | routeRegistered route =>
    [("method", route.method.name), ("path", route.path), ("target", route.target),
      ("middleware", Text.ofNat route.middleware.length)]
  | batchRegistered mount routes => [("prefix", mount), ("routes", Text.ofNat routes)]
  | initIgnored | routesTooEarly | fallbackTooEarly | fallbackInstalled => []

end Event

/-! ## Measures -/

inductive Measure where
  /-- a route is registered -/
  | registered (method : Method)
  /-- an action has answered -/
  | dispatched (target : Text) (status : Nat)
  deriving DecidableEq, Repr

namespace Measure

/-- A label value in quotes. A backslash before another backslash or before a quote is taken as its escape already. -/
def labelText : Text → Text
  | [] => []
  | '\\' :: '\\' :: rest => ['\\', '\\'] ++ labelText rest
  | '\\' :: '"' :: rest => ['\\', '"'] ++ labelText rest
  | '\\' :: rest => ['\\', '\\'] ++ labelText rest
  | '"' :: rest => ['\\', '"'] ++ labelText rest
  | '\n' :: rest => ['\\', 'n'] ++ labelText rest
  | c :: rest => c :: labelText rest

/-- a counter with its labels, as a line of the exposition names it -/
def series (name : Text) (labels : List (Text × Text)) : Text :=
  name ++ ['\x7b'] ++
    Text.join [','] (labels.map fun (label, value) => label ++ ['=', '"'] ++ labelText value ++ ['"']) ++ ['\x7d']

/-- the counters that a measure moves by one -/
def counters : Measure → List Text
  | registered method => [series "webscaffold_routes_registered_total" [("method", method.name)]]
  | dispatched target status =>
    [series "webscaffold_dispatch_total" [("target", target), ("status", Text.ofNat status)],
      series "webscaffold_dispatch_duration_seconds_count" [("target", target)]]

/-- one line per counter that was moved, in the order of their first moves -/
def exposition (measures : List Measure) : List Text :=
  let moves := measures.flatMap counters
  moves.eraseDups.map fun counter => counter ++ [' '] ++ Text.ofNat (moves.count counter)

end Measure

/-! ## The site -/

/-- a module asked of the source, whether it was there or not -/
inductive Load where
  | controller (name : Text)
  | middleware (name : Text)
  deriving DecidableEq, Repr

/-- instances, world and records -/
structure Site (ι ω : Type) where
  /-- instances of controllers, in the order of their initialisation -/
  instances : List ι := []
  world : ω
  journal : List Event := []
  measures : List Measure := []
  loads : List Load := []
  /-- routes handed to the server, whether it could hold them or not -/
  registrations : List RouteSummary := []

namespace Site

variable {ι ω : Type}

def report (event : Event) (site : Site ι ω) : Site ι ω :=
  { site with journal := site.journal ++ [event] }

section Report

variable (event : Event) (site : Site ι ω)

@[simp] theorem instances_report : (site.report event).instances = site.instances := rfl

@[simp] theorem world_report : (site.report event).world = site.world := rfl

@[simp] theorem journal_report : (site.report event).journal = site.journal ++ [event] := rfl

@[simp] theorem measures_report : (site.report event).measures = site.measures := rfl

@[simp] theorem loads_report : (site.report event).loads = site.loads := rfl

@[simp] theorem registrations_report : (site.report event).registrations = site.registrations := rfl

end Report

def measure (m : Measure) (site : Site ι ω) : Site ι ω :=
  { site with measures := site.measures ++ [m] }

def noteLoad (load : Load) (site : Site ι ω) : Site ι ω :=
  { site with loads := site.loads ++ [load] }

@[simp] theorem instances_noteLoad (load : Load) (site : Site ι ω) : (site.noteLoad load).instances = site.instances :=
  rfl

def noteRegistration (route : RouteSummary) (site : Site ι ω) : Site ι ω :=
  { site with registrations := site.registrations ++ [route] }

/-- one more instance; its number is the count of those before it -/
def addInstance (inst : ι) (site : Site ι ω) : Site ι ω :=
  { site with instances := site.instances ++ [inst] }

@[simp] theorem instances_addInstance (inst : ι) (site : Site ι ω) :
    (site.addInstance inst).instances = site.instances ++ [inst] := rfl

end Site

end Switchboard
