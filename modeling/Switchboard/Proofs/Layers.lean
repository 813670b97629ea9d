/-
Middlewares as layers, and the order in which they run.

The host can be put together from layers: every route is a handler for its method, each middleware is a layer put on it,
the last listed first, and what stands on one path is merged with what is registered there later (`Stand`, `assemble`).

- `assemble_eq`: whatever the layers do and whatever else stands on the path, a method keeps its own layers, the first
  listed outermost. `respond_eq_layered`: put together so, the host answers as it does.
- `Passage`: a request on its way through a chain and back, with the turns of everyone on the way.
- `passage_of_chain`: every run through a chain is such a passage; `Passage.inListedOrder`: its turns are those of a
  beginning of the chain, in order, and back again.
- `answered_in_listed_order`: all this for the request of a visit to a router's host.
-/
import Switchboard.Proofs.Completions

namespace Switchboard

namespace Host

variable {σ ι ρ ω : Type}

/-! ## Layers -/

/-- what stands on a path: handlers for methods, and the refusal of any other verb -/
structure Stand (σ : Type) where
  handlers : List (Method × Handler σ)
  refusal : Handler σ

namespace Stand

def on (method : Method) (handler : Handler σ) : Stand σ :=
  { handlers := [(method, handler)], refusal := notAllowed }

/-- a layer around everything that stands on the path -/
def layer (around : Handler σ → Handler σ) (stand : Stand σ) : Stand σ :=
  { handlers := stand.handlers.map fun (method, handler) => (method, around handler)
    refusal := around stand.refusal }

/-- what stands on a path with what is registered later; of the refusals the later one stays -/
def merge (stand later : Stand σ) : Stand σ :=
  { handlers := stand.handlers ++ later.handlers, refusal := later.refusal }

def answer (stand : Stand σ) : Handler σ := fun request state =>
  match stand.handlers.find? fun (method, _) => method.verb = routedVerb request.verb with
  | some (_, handler) => handler request state
  | none =>
    let (response, state') := stand.refusal request state
    (response.withDefaultHeader "allow" (Text.join [','] (stand.handlers.map fun (method, _) => answered method)),
      state')

/-- the action of a route under its method, with a layer for each middleware, the last listed put on first -/
def ofRoute (around : MiddlewareBinding → Handler σ → Handler σ) (act : Route ι ω → Handler σ) (route : Route ι ω) :
    Stand σ :=
  route.middleware.reverse.foldl (fun stand m => stand.layer (around m)) (.on route.method (act route))

end Stand

section Assembly

variable (around : MiddlewareBinding → Handler σ → Handler σ) (act : Route ι ω → Handler σ)

/-- registers a route with what stands on the paths so far -/
def enroll (stands : Text → Option (Stand σ)) (route : Route ι ω) : Text → Option (Stand σ) :=
  Function.update stands route.pattern.hostPath <|
    match stands route.pattern.hostPath with
    | none => some (.ofRoute around act route)
    | some stand => some (stand.merge (.ofRoute around act route))

/-- what stands on the paths once the routes are registered in order -/
def assemble (routes : List (Route ι ω)) : Text → Option (Stand σ) :=
  routes.foldl (enroll around act) fun _ => none

def layered (unmatched : Handler σ) (routes : List (Route ι ω)) : Handler σ := fun request state =>
  match locate routes request.path with
  | none => unmatched request state
  | some (top, captured) =>
    match assemble around act routes top.pattern.hostPath with
    | none => unmatched request state
    | some stand => stand.answer { request with captures := some (visible captured) } state

/-- the handlers and the refusal of these routes, each inside the middlewares of its own route -/
def nested (routes : List (Route ι ω)) : Option (Stand σ) :=
  routes.getLast?.map fun last =>
    { handlers := routes.map fun route => (route.method, route.middleware.foldr around (act route))
      refusal := last.middleware.foldr around notAllowed }

variable {around act}

/-- layers put on from the last to the first stand around each other from the first to the last -/
theorem layers_eq (ms : List MiddlewareBinding) (stand : Stand σ) :
    ms.reverse.foldl (fun stand m => stand.layer (around m)) stand =
      { handlers := stand.handlers.map fun (method, handler) => (method, ms.foldr around handler)
        refusal := ms.foldr around stand.refusal } := by
  rw [List.foldl_reverse]
  induction ms with
  | nil => simp
  | cons m ms ih =>
    rw [List.foldr_cons, ih]
    simp [Stand.layer]

theorem ofRoute_eq (route : Route ι ω) :
    Stand.ofRoute around act route =
      { handlers := [(route.method, route.middleware.foldr around (act route))]
        refusal := route.middleware.foldr around notAllowed } := by
  rw [Stand.ofRoute, layers_eq]
  rfl

/-- A path holds the routes registered on it, whatever is registered on others. -/
theorem assemble_eq (routes : List (Route ι ω)) (path : Text) :
    assemble around act routes path = nested around act (routes.filter fun route => route.pattern.hostPath = path) := by
  induction routes using List.reverseRecOn with
  | nil => rfl
  | append_singleton routes route ih =>
    unfold assemble at ih ⊢
    rw [List.foldl_append, List.foldl_cons, List.foldl_nil, List.filter_append, enroll]
    by_cases hpath : route.pattern.hostPath = path
    · subst hpath
      rw [Function.update_self, ih]
      simp only [nested, List.filter_singleton, decide_true, ofRoute_eq]
      cases hlast : (routes.filter fun other => other.pattern.hostPath = route.pattern.hostPath).getLast? with
      | none =>
        have hnil := List.getLast?_eq_none_iff.1 hlast
        simp [hnil]
      | some last => simp [Stand.merge]
    · rw [Function.update_of_ne (Ne.symm hpath), ih]
      simp [hpath]

/-- the host's answer is that of what stands on the foremost path -/
theorem layered_eq (around : MiddlewareBinding → Handler σ → Handler σ) (act : Route ι ω → Handler σ)
    (unmatched : Handler σ) {routes : List (Route ι ω)} {request : Request} (state : σ) {top : Route ι ω}
    {captured : List (Text × Text)} (hlocate : locate routes request.path = some (top, captured)) :
    ∃ stand, nested around act (siblings routes top) = some stand ∧
      layered around act unmatched routes request state =
        stand.answer { request with captures := some (visible captured) } state := by
  have hmem : top ∈ siblings routes top := mem_siblings.2 ⟨(locate_some hlocate).1, rfl⟩
  cases hlast : (siblings routes top).getLast? with
  | none =>
    rw [List.getLast?_eq_none_iff.1 hlast] at hmem
    exact absurd hmem List.not_mem_nil
  | some last =>
    have hnested : ∃ stand, nested around act (siblings routes top) = some stand := by
      simp only [nested, hlast]
      exact ⟨_, rfl⟩
    obtain ⟨stand, hstand⟩ := hnested
    refine ⟨stand, hstand, ?_⟩
    have hassemble : assemble around act routes top.pattern.hostPath = some stand :=
      (assemble_eq routes top.pattern.hostPath).trans hstand
    simp only [layered, hlocate, hassemble]

theorem find?_handlers (routes : List (Route ι ω)) (verb : Text) :
    ((routes.map fun route => (route.method, route.middleware.foldr around (act route))).find?
        fun (method, _) => method.verb = routedVerb verb) =
      (routeFor? routes verb).map fun route => (route.method, route.middleware.foldr around (act route)) := by
  rw [List.find?_map]
  rfl

/-- The route of the method answers inside its own layers. -/
theorem layered_of_routeFor? (unmatched : Handler σ) {routes : List (Route ι ω)} {request : Request} {state : σ}
    {top route : Route ι ω} {captured : List (Text × Text)}
    (hlocate : locate routes request.path = some (top, captured))
    (hroute : routeFor? (siblings routes top) request.verb = some route) :
    layered around act unmatched routes request state =
      route.middleware.foldr around (act route) { request with captures := some (visible captured) } state := by
  obtain ⟨stand, hstand, hanswer⟩ := layered_eq around act unmatched state hlocate
  obtain ⟨last, -, rfl⟩ := Option.map_eq_some_iff.1 hstand
  rw [hanswer]
  simp only [Stand.answer, find?_handlers, hroute, Option.map_some]

end Assembly

/-- a middleware of the host as a layer -/
def ruled (clock : Nat) (m : MiddlewareBinding) : Handler σ → Handler σ :=
  Middleware.wrap clock m.middleware

theorem foldr_ruled (clock : Nat) (ms : List MiddlewareBinding) (next : Handler σ) :
    ms.foldr (ruled clock) next = Middleware.chain clock (ms.map (·.middleware)) next := by
  rw [Middleware.chain, List.foldr_map]
  rfl

/-- **The host is layered.** Put together from layers and merged path by path, it answers as it does. -/
theorem respond_eq_layered (server : Server ι ω) (clock : Nat) :
    respond server clock =
      layered (ruled clock) Route.dispatch (answerUnmatched server.fallback) server.routes := by
  funext request site
  cases hlocate : locate server.routes request.path with
  | none => simp only [respond, layered, hlocate]
  | some found =>
    obtain ⟨top, captured⟩ := found
    cases hroute : routeFor? (siblings server.routes top) request.verb with
    | some route =>
      rw [layered_of_routeFor? _ hlocate hroute, foldr_ruled]
      simp only [respond, hlocate, answerOn, hroute, guarded]
    | none =>
      obtain ⟨stand, hstand, hanswer⟩ :=
        layered_eq (ruled clock) Route.dispatch (answerUnmatched server.fallback) site hlocate
      obtain ⟨last, hlast, rfl⟩ := Option.map_eq_some_iff.1 hstand
      rw [hanswer]
      simp only [respond, hlocate, answerOn, hroute, hlast, Stand.answer, find?_handlers, Option.map_none]
      simp only [guarded, foldr_ruled, List.map_map]
      rfl

/-! ## Passages -/

/-- what happens to a request on its way -/
inductive Turn where
  /-- the middleware is given the request -/
  | enters (m : MiddlewareBinding)
  /-- the action runs -/
  | acts
  /-- the middleware gives an answer back -/
  | leaves (m : MiddlewareBinding)

/-- A request goes through a chain to the handler inside it and back: every middleware answers at once or passes a
request on to the next and finishes what comes back. -/
inductive Passage (clock : Nat) (inner : Handler σ) :
    List MiddlewareBinding → Request → σ → List Turn → Response → σ → Prop
  | acts (request : Request) (state : σ) :
      Passage clock inner [] request state [.acts] (inner request state).1 (inner request state).2
  | answers {m : MiddlewareBinding} {ms : List MiddlewareBinding} {request : Request} {state : σ}
      {response : Response} : m.middleware clock request = .answer response →
      Passage clock inner (m :: ms) request state [.enters m, .leaves m] response state
  | forwards {m : MiddlewareBinding} {ms : List MiddlewareBinding} {request passed : Request} {state state' : σ}
      {finish : Response → Response} {turns : List Turn} {response : Response} :
      m.middleware clock request = .forward passed finish →
      Passage clock inner ms passed state turns response state' →
      Passage clock inner (m :: ms) request state (.enters m :: turns ++ [.leaves m]) (finish response) state'

/-- a state, and the turns taken before -/
abbrev Noted (σ : Type) := List Turn × σ

def noted (inner : Handler σ) : Handler (Noted σ) := fun request state =>
  let (response, state') := inner request state.2
  (response, state.1 ++ [.acts], state')

def noting (clock : Nat) (m : MiddlewareBinding) (next : Handler (Noted σ)) : Handler (Noted σ) := fun request state =>
  let (response, state') := ruled clock m next request (state.1 ++ [.enters m], state.2)
  (response, state'.1 ++ [.leaves m], state'.2)

/-- **Every run is a passage.** A chain comes to the response and state of a passage, and noting the turns of its
middlewares gives those of the passage. -/
theorem passage_of_chain (clock : Nat) (inner : Handler σ) (ms : List MiddlewareBinding) (request : Request)
    (state : σ) :
    ∃ turns response state', Passage clock inner ms request state turns response state' ∧
      ms.foldr (ruled clock) inner request state = (response, state') ∧
      ∀ before,
        ms.foldr (noting clock) (noted inner) request (before, state) = (response, before ++ turns, state') := by
  induction ms generalizing request with
  | nil => exact ⟨_, _, _, .acts request state, rfl, fun before => rfl⟩
  | cons m ms ih =>
    cases hruling : m.middleware clock request with
    | answer response =>
      refine ⟨_, _, _, .answers hruling, ?_, fun before => ?_⟩
      · simp only [List.foldr_cons, ruled, Middleware.wrap, hruling]
      · simp [noting, ruled, Middleware.wrap, hruling]
    | forward passed finish =>
      obtain ⟨turns, response, state', hpassage, hrun, hnoted⟩ := ih passed
      refine ⟨_, _, _, .forwards hruling hpassage, ?_, fun before => ?_⟩
      · simp only [List.foldr_cons, ruled, Middleware.wrap, hruling]
        rw [hrun]
      · simp only [List.foldr_cons, noting, ruled, Middleware.wrap, hruling, hnoted]
        simp

/-- The turns are those of a beginning of the chain, there and back. Either every middleware passed the request on, and
the action ran; or a middleware after such ones answered, and nothing further in was reached. -/
def InListedOrder (clock : Nat) (ms : List MiddlewareBinding) (request : Request) (turns : List Turn) : Prop :=
  (∃ reached, Middleware.reaching clock (ms.map (·.middleware)) request = some reached ∧
    turns = ms.map .enters ++ .acts :: ms.reverse.map .leaves) ∨
  ∃ passing m rest reached response, ms = passing ++ m :: rest ∧
    Middleware.reaching clock (passing.map (·.middleware)) request = some reached ∧
    m.middleware clock reached = .answer response ∧
    turns = (passing ++ [m]).map .enters ++ (passing ++ [m]).reverse.map .leaves

/-- A middleware runs only if all before it passed the request on, and answers go back through those that ran. -/
theorem Passage.inListedOrder {clock : Nat} {inner : Handler σ} {ms : List MiddlewareBinding} {request : Request}
    {state state' : σ} {turns : List Turn} {response : Response}
    (h : Passage clock inner ms request state turns response state') : InListedOrder clock ms request turns := by
  induction h with
  | acts request state => exact Or.inl ⟨request, rfl, rfl⟩
  | @answers m ms request state response hruling =>
    exact Or.inr ⟨[], m, ms, request, response, rfl, rfl, hruling, rfl⟩
  | @forwards m ms request passed state state' finish turns response hruling _ ih =>
    have hreaching : ∀ tail : List Middleware,
        Middleware.reaching clock (m.middleware :: tail) request = Middleware.reaching clock tail passed := by
      intro tail
      simp only [Middleware.reaching, hruling]
    rcases ih with ⟨reached, hreached, rfl⟩ | ⟨passing, n, rest, reached, answer, rfl, hreached, hanswer, rfl⟩
    · left
      refine ⟨reached, ?_, by simp⟩
      rw [List.map_cons, hreaching, hreached]
    · right
      refine ⟨m :: passing, n, rest, reached, answer, rfl, ?_, hanswer, by simp⟩
      rw [List.map_cons, hreaching, hreached]

end Host

/-! ## Visits -/

namespace Visit

/-- the request as the middlewares of a route get it, with what the path captured -/
def capturing (visit : Visit) (captured : List (Text × Text)) : Request :=
  { visit.identified with captures := some (Host.visible captured) }

/-- the response as it is sent: without a body to HEAD, and with the id -/
def dressed (visit : Visit) (response : Response) : Response :=
  (if visit.request.verb = ("HEAD" : Text) then response.withoutBody else response).withDefaultHeader Host.idHeader
    ((visit.request.header? Host.idHeader).getD visit.freshId)

end Visit

namespace Host

variable {σ ι ρ ω : Type}

theorem answer_eq (server : Server ι ω) (visit : Visit) (site : Site ι ω) :
    answer server visit site =
      (visit.dressed (respond server visit.clock visit.identified site).1,
        (respond server visit.clock visit.identified site).2) := rfl

theorem RoutedTo.located {server : Server ι ω} (hholding : Holding server.routes) {verb path : Text}
    {route : Route ι ω} (h : RoutedTo server verb path route) :
    ∃ top captured, locate server.routes path = some (top, captured) ∧
      routeFor? (siblings server.routes top) verb = some route ∧
      Takes route.pattern.segments (path.split '/') captured := by
  obtain ⟨top, caught, htop, hroute, hpath, hverb⟩ := id h
  obtain ⟨found, captured, hlocate, hfound⟩ := hholding.locate_of_foremost htop
  have hforemost := hholding.foremost hlocate
  refine ⟨found, captured, hlocate, ?_, ?_⟩
  · cases hfor : routeFor? (siblings server.routes found) verb with
    | none =>
      have hmem : route ∈ siblings server.routes found := mem_siblings.2 ⟨hroute, hpath.trans hfound.symm⟩
      exact absurd hverb (routeFor?_eq_none_iff.1 hfor route hmem)
    | some other =>
      obtain ⟨hmem, hother⟩ := routeFor?_eq_some hfor
      obtain ⟨hroutes, hsame⟩ := mem_siblings.1 hmem
      have hrouted : RoutedTo server verb path other := ⟨found, captured, hforemost, hroutes, hsame, hother⟩
      rw [hrouted.unique hholding h]
  · have hsegments : route.pattern.segments = found.pattern.segments :=
      (Pattern.hostPath_eq_iff (hholding.sound route hroute) (hholding.sound found hforemost.mem)).1
        (hpath.trans hfound.symm)
    rw [hsegments]
    exact hforemost.takes

/-- a request that runs an action goes to its route, which takes it -/
theorem routedTo_of_handling {server : Server ι ω} (hholding : Holding server.routes)
    {verb path : Text} {route : Route ι ω} {captured : List (Text × Text)}
    (h : handling server verb path = .action route captured) :
    RoutedTo server verb path route ∧ Takes route.pattern.segments (path.split '/') captured := by
  cases hlocate : locate server.routes path with
  | none =>
    simp only [handling, hlocate] at h
    split at h
    · cases h
    · split_ifs at h
  | some found =>
    obtain ⟨top, caught⟩ := found
    rcases handling_of_locate hholding verb hlocate with ⟨other, hrouted, hsame⟩ | ⟨-, hsame⟩
    · obtain ⟨rfl, rfl⟩ := Handling.action.inj (hsame.symm.trans h)
      obtain ⟨top', captured', hlocate', -, htakes⟩ := hrouted.located hholding
      obtain ⟨-, rfl⟩ := Prod.mk.inj (Option.some.inj (hlocate.symm.trans hlocate'))
      exact ⟨hrouted, htakes⟩
    · cases hsame.symm.trans h

/-- **Middlewares run in listed order.** Of a router's host, put together from layers, the answer to a request that
goes to a route is that of the first middleware listed around the second, and so on around the action, whatever layers
and actions are and whatever other routes share the path. The host's own run is a passage through that chain, and noting
its turns shows the middlewares entered in order and left in reverse. -/
theorem answered_in_listed_order {router : Router ι ρ ω} {server : Server ι ω} (h : router.OnHost)
    (bound : router.server = some server) (visit : Visit) (site : Site ι ω) {route : Route ι ω}
    (routed : RoutedTo server visit.request.verb visit.request.path route) :
    ∃ captured, Takes route.pattern.segments (visit.request.path.split '/') captured ∧
      (∀ (σ : Type) (around : MiddlewareBinding → Handler σ → Handler σ) (act : Route ι ω → Handler σ)
          (unmatched : Handler σ) (state : σ),
        layered around act unmatched server.routes visit.identified state =
          route.middleware.foldr around (act route) (visit.capturing captured) state) ∧
      ∃ turns response site',
        Passage visit.clock route.dispatch route.middleware (visit.capturing captured) site turns response site' ∧
        InListedOrder visit.clock route.middleware (visit.capturing captured) turns ∧
        (∀ unmatched, layered (noting visit.clock) (fun route => noted route.dispatch) unmatched server.routes
          visit.identified ([], site) = (response, turns, site')) ∧
        answer server visit site = (visit.dressed response, site') := by
  obtain ⟨top, captured, hlocate, hroute, htakes⟩ := routed.located (h.holding bound)
  have hlayered : ∀ (σ : Type) (around : MiddlewareBinding → Handler σ → Handler σ) (act : Route ι ω → Handler σ)
      (unmatched : Handler σ) (state : σ), layered around act unmatched server.routes visit.identified state =
        route.middleware.foldr around (act route) (visit.capturing captured) state := by
    intro σ around act unmatched state
    exact layered_of_routeFor? unmatched hlocate hroute
  obtain ⟨turns, response, site', hpassage, hrun, hnoted⟩ :=
    passage_of_chain visit.clock route.dispatch route.middleware (visit.capturing captured) site
  refine ⟨captured, htakes, hlayered, turns, response, site', hpassage, hpassage.inListedOrder, ?_, ?_⟩
  · intro unmatched
    rw [hlayered, hnoted, List.nil_append]
  · rw [answer_eq, respond_eq_layered, hlayered, hrun]

/-- Two methods on one path. The visit passes the first middleware and is answered by the second; the third and the
action are not reached. -/
theorem answered_in_listed_order_blocked :
    let source : ModuleSource Unit Unit Unit :=
      { Sample.source with
        middleware := fun name => .ok fun _ request =>
          if name = ("block" : Text) then .answer (.bare 403) else .forward request (·.withHeader "passed" name) }
    let visit : Visit := { request := .receive "GET" "/a" [] [], clock := 0, freshId := [] }
    ∃ router site server route,
      (Router.empty source {}).run { world := () }
        (Sample.calls (Host.server {}) ["get /a Page@show stamp block auth", "post /a Page@show"]) =
          (.ok router, site) ∧
      router.server = some server ∧ RoutedTo server visit.request.verb visit.request.path route ∧
      ∃ captured turns, InListedOrder visit.clock route.middleware (visit.capturing captured) turns ∧
        (turns.map fun | .enters m => m.name | .acts => [] | .leaves m => m.name) =
          ["stamp".toList, "block".toList, "block".toList, "stamp".toList] := by
  intro source visit
  have hheld : (Router.hostOf ((Router.empty source {}).run { world := () }
      (Sample.calls (Host.server {}) ["get /a Page@show stamp block auth", "post /a Page@show"]))).any (fun server =>
        (server.routes.any fun route => route.method = .get) ∧
        (server.routes.all fun route => route.pattern.segments = [.literal [], .literal ['a']]) ∧
        ((layered (noting 0) (fun route => noted route.dispatch) (fun _ state => (.bare 404, state)) server.routes
          visit.identified ([], ((Router.empty source {}).run { world := () } (Sample.calls (Host.server {})
            ["get /a Page@show stamp block auth", "post /a Page@show"])).2)).2.1.map
              fun | .enters m => m.name | .acts => [] | .leaves m => m.name) =
          ["stamp".toList, "block".toList, "block".toList, "stamp".toList]) = true := by
    decide +kernel
  obtain ⟨router, site, server, ran, bound, htest⟩ := Router.exists_of_hostOf hheld
  obtain ⟨hget, hpaths, hturns⟩ := of_decide_eq_true htest
  rw [ran] at hturns
  obtain ⟨route, hroute, hmethod⟩ := List.any_eq_true.1 hget
  have hsegments : ∀ other ∈ server.routes, other.pattern.segments = [.literal [], .literal ['a']] :=
    fun other hother => of_decide_eq_true (List.all_eq_true.1 hpaths other hother)
  have routed : RoutedTo server visit.request.verb visit.request.path route := by
    refine ⟨route, [], ⟨hroute, ?_, fun other hother caught _ => ?_⟩, hroute, rfl, ?_⟩
    · rw [hsegments route hroute]
      exact .literal _ (.literal _ .done)
    · left
      rw [Pattern.hostPath, Pattern.hostPath, hsegments route hroute, hsegments other hother]
    · rw [of_decide_eq_true hmethod]
      decide
  have honHost : router.OnHost := by
    refine ⟨source, {}, { world := () }, site, _, fun call hcall other hoffer => ?_, ran⟩
    exact ⟨{}, Sample.offered call hcall other hoffer⟩
  obtain ⟨captured, -, -, turns, response, site', -, horder, hnoted, -⟩ :=
    answered_in_listed_order honHost bound visit site routed
  refine ⟨router, site, server, route, ran, bound, routed, captured, turns, horder, ?_⟩
  rw [hnoted] at hturns
  exact hturns

end Host

end Switchboard
