/-
Answering requests.

The path of a request decides first: the routes on the matched path are its siblings, and the sibling of the request's
method runs its middlewares and its action. A HEAD request runs the GET sibling and keeps the headers alone. Where no
sibling has the method, the answer is 405 with the methods of all siblings; the middlewares of the sibling registered
last stand around it. Where no path matches, the fallback answers GET and HEAD requests. Captures under the host's own names are
not handed on. Every response carries the request's id.
-/
import Switchboard.Host.Tree

namespace Switchboard

/-- a request with what the host cannot know by itself -/
structure Visit where
  request : Request
  /-- milliseconds since the epoch -/
  clock : Nat
  /-- id for a request that brings none -/
  freshId : Text

namespace Host

variable {ι ω : Type}

/-- routes on the path of the given one, in the order of their registration -/
def siblings (routes : List (Route ι ω)) (route : Route ι ω) : List (Route ι ω) :=
  routes.filter fun other => other.pattern.hostPath = route.pattern.hostPath

/-- the verb whose route answers a request with this verb -/
def routedVerb (verb : Text) : Text :=
  if verb = ("HEAD" : Text) then "GET" else verb

def routeFor? (routes : List (Route ι ω)) (verb : Text) : Option (Route ι ω) :=
  routes.find? fun route => route.method.verb = routedVerb verb

/-- verbs that a method answers, as the allow header lists them -/
def answered (method : Method) : Text :=
  if method = .get then "GET,HEAD" else method.verb

/-- the bare answer to a verb that nothing on the path answers -/
def notAllowed {σ : Type} : Handler σ := fun _ state => (.bare 405, state)

/-- middlewares of a route around a handler -/
def guarded (clock : Nat) (route : Route ι ω) (next : Handler (Site ι ω)) : Handler (Site ι ω) :=
  Middleware.chain clock (route.middleware.map (·.middleware)) next

/-- the answer of the routes on one path -/
def answerOn (clock : Nat) (routes : List (Route ι ω)) : Handler (Site ι ω) := fun request site =>
  match routeFor? routes request.verb with
  | some route => guarded clock route route.dispatch request site
  | none =>
    let handler := match routes.getLast? with
      | some route => guarded clock route notAllowed
      | none => notAllowed
    let (response, site) := handler request site
    (response.withDefaultHeader "allow" (Text.join [','] (routes.map (answered ·.method))), site)

/-- the answer where no path matches -/
def answerUnmatched (fallback : Option (Handler ω)) : Handler (Site ι ω) := fun request site =>
  match fallback with
  | none => (.bare 404, site)
  | some handler =>
    if routedVerb request.verb = Method.get.verb then handler.atSite request site
    else ((Response.bare 405).withDefaultHeader "allow" (answered .get), site)

/-- beginnings of the capture names that the host keeps to itself -/
def reservedNames : List Text :=
  ["__private__axum_nest_tail_param", "__private__axum_fallback"]

/-- what actions see of the captured texts -/
def visible (captured : List (Text × Text)) : List (Text × Text) :=
  captured.filter fun (name, _) => !reservedNames.any fun mark => Text.startsWith mark name

/-- the answer by path and method -/
def respond (server : Server ι ω) (clock : Nat) : Handler (Site ι ω) := fun request site =>
  match locate server.routes request.path with
  | some (route, captured) =>
    answerOn clock (siblings server.routes route) { request with captures := some (visible captured) } site
  | none => answerUnmatched server.fallback request site

/-- header of the request id -/
def idHeader : Text := "x-request-id"

/-- the answer to a visit -/
def answer (server : Server ι ω) (visit : Visit) (site : Site ι ω) : Response × Site ι ω :=
  let id := (visit.request.header? idHeader).getD visit.freshId
  let request := { visit.request with headers := visit.request.headers.setIfAbsent idHeader id }
  let (response, site) := respond server visit.clock request site
  let response := if request.verb = ("HEAD" : Text) then response.withoutBody else response
  (response.withDefaultHeader idHeader id, site)

def answers (server : Server ι ω) (site : Site ι ω) : List Visit → List Response × Site ι ω
  | [] => ([], site)
  | visit :: visits =>
    let (response, site) := answer server visit site
    let (responses, site) := answers server site visits
    (response :: responses, site)

end Host

end Switchboard
