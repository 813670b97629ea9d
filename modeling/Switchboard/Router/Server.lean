/-
Routes that are ready to be served, and the server that holds them.

A server is a handle, the routes and the fallback given to it, and a rule that says which further route it can hold
beside those it has. Offered a route that it cannot hold, it does not survive.
-/
import Switchboard.Module.Cache
import Switchboard.Route.Pattern

namespace Switchboard

/-- a resolved route -/
structure Route (ι ω : Type) where
  method : Method
  pattern : Pattern
  /-- controller and action, for listings and counters -/
  target : Text
  /-- middlewares, outermost first -/
  middleware : List MiddlewareBinding
  /-- number of the controller's instance at the site -/
  slot : Nat
  action : Action ι ω

namespace Route

variable {ι ω : Type}

def summary (route : Route ι ω) : RouteSummary :=
  { method := route.method, path := route.pattern.path, target := route.target,
    middleware := route.middleware.map (·.name) }

/-- Runs the action on its instance and counts the answer. A slot without an instance, which a router never hands out,
answers with a bare server error. -/
def dispatch (route : Route ι ω) : Handler (Site ι ω) := fun request site =>
  match site.instances[route.slot]? with
  | none => (.bare 500, site)
  | some inst =>
    let (response, inst', world') := route.action request inst site.world
    (response,
      ({ site with instances := site.instances.set route.slot inst', world := world' }).measure
        (.dispatched route.target response.status))

end Route

/-- a server that routes are registered with -/
structure Server (ι ω : Type) where
  handle : ServerHandle
  /-- whether the server can hold a route beside those it has -/
  admits : List (Route ι ω) → Route ι ω → Bool
  /-- routes in the order of their registration -/
  routes : List (Route ι ω) := []
  /-- answers GET requests that no route answers -/
  fallback : Option (Handler ω) := none

namespace Server

variable {ι ω : Type}

/-- a server that holds any route and answers nothing itself -/
def recording (handle : ServerHandle) : Server ι ω :=
  { handle, admits := fun _ _ => true }

/-- the server with a route more, if it can hold it -/
def register (server : Server ι ω) (route : Route ι ω) : Option (Server ι ω) :=
  if server.admits server.routes route then some { server with routes := server.routes ++ [route] } else none

end Server

/-- a handler of the world alone, run at a site -/
def Handler.atSite {ι ω : Type} (handler : Handler ω) : Handler (Site ι ω) := fun request site =>
  let (response, world') := handler request site.world
  (response, { site with world := world' })

end Switchboard
