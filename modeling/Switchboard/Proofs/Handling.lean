/-
What becomes of a request.

- `handling` classifies requests by path and verb alone; `handles` says that the host does with a request what its
  handling says. `Handling.run` is written for any state, so that a handling can be run with more than the site.
- `Foremost` is the path that decides, and `RoutedTo` the route that a request goes to by it. Both are unique.
- `matching_request_handled`: a request that matches a route of its method is answered on the foremost path that takes
  it, by the route of its method there, or refused there if the foremost path has no such route.
-/
import Switchboard.Host.Answer
import Switchboard.Proofs.Hosting
import Switchboard.Proofs.Matching

namespace Switchboard

namespace Host

variable {ι ρ ω : Type}

/-! ## Handlings -/

/-- what the host does with a request -/
inductive Handling (ι ω : Type) where
  /-- runs the middlewares and the action of the route -/
  | action (route : Route ι ω) (captured : List (Text × Text))
  /-- refuses the verb on the path of these routes -/
  | verbRefused (siblings : List (Route ι ω)) (captured : List (Text × Text))
  /-- runs the fallback -/
  | fallback (handler : Handler ω)
  /-- refuses the verb where the fallback answers others -/
  | fallbackRefused
  /-- finds nothing -/
  | unmatched

def handling (server : Server ι ω) (verb path : Text) : Handling ι ω :=
  match locate server.routes path with
  | some (top, captured) =>
    match routeFor? (siblings server.routes top) verb with
    | some route => .action route captured
    | none => .verbRefused (siblings server.routes top) captured
  | none =>
    match server.fallback with
    | none => .unmatched
    | some handler => if routedVerb verb = Method.get.verb then .fallback handler else .fallbackRefused

/-- The handler that a handling stands for, given what puts the middlewares of a route around a handler, what runs its
action, and what runs a handler of the world. -/
def Handling.run {σ : Type} (guard : Route ι ω → Handler σ → Handler σ) (act : Route ι ω → Handler σ)
    (lift : Handler ω → Handler σ) : Handling ι ω → Handler σ
  | .action route captured => fun request state =>
    guard route (act route) { request with captures := some (visible captured) } state
  | .verbRefused siblings captured => fun request state =>
    let handler := match siblings.getLast? with
      | some route => guard route notAllowed
      | none => notAllowed
    let (response, state) := handler { request with captures := some (visible captured) } state
    (response.withDefaultHeader "allow" (Text.join [','] (siblings.map (answered ·.method))), state)
  | .fallback handler => lift handler
  | .fallbackRefused => fun _ state => ((Response.bare 405).withDefaultHeader "allow" (answered .get), state)
  | .unmatched => fun _ state => (.bare 404, state)

theorem respond_eq (server : Server ι ω) (clock : Nat) (request : Request) (site : Site ι ω) :
    respond server clock request site =
      (handling server request.verb request.path).run (guarded clock) Route.dispatch Handler.atSite request site := by
  unfold respond handling
  cases locate server.routes request.path with
  | none =>
    simp only [answerUnmatched]
    cases server.fallback with
    | none => rfl
    | some handler =>
      simp only
      split_ifs with hget
      · rfl
      · rfl
  | some found =>
    obtain ⟨top, captured⟩ := found
    simp only [answerOn]
    cases routeFor? (siblings server.routes top) request.verb with
    | none => rfl
    | some route => rfl

/-- every request with this verb and path is answered as the handling says -/
def Handles (server : Server ι ω) (verb path : Text) (handling : Handling ι ω) : Prop :=
  ∀ (clock : Nat) (request : Request) (site : Site ι ω), request.verb = verb → request.path = path →
    respond server clock request site = handling.run (guarded clock) Route.dispatch Handler.atSite request site

theorem handles (server : Server ι ω) (verb path : Text) : Handles server verb path (handling server verb path) := by
  rintro clock request site rfl rfl
  exact respond_eq server clock request site

/-! ## Siblings -/

theorem mem_siblings {routes : List (Route ι ω)} {top route : Route ι ω} :
    route ∈ siblings routes top ↔ route ∈ routes ∧ route.pattern.hostPath = top.pattern.hostPath := by
  simp [siblings]

theorem siblings_eq {routes : List (Route ι ω)} {a b : Route ι ω} (h : a.pattern.hostPath = b.pattern.hostPath) :
    siblings routes a = siblings routes b := by
  simp only [siblings, h]

theorem verb_injective : Function.Injective Method.verb := by
  intro m n h
  cases m <;> cases n <;> first | rfl | exact absurd h (by decide)

@[simp] theorem routedVerb_verb (method : Method) : routedVerb method.verb = method.verb := by
  cases method <;> decide

theorem routeFor?_eq_some {routes : List (Route ι ω)} {verb : Text} {route : Route ι ω}
    (h : routeFor? routes verb = some route) : route ∈ routes ∧ route.method.verb = routedVerb verb :=
  ⟨List.mem_of_find?_eq_some h, by simpa using List.find?_some h⟩

theorem routeFor?_eq_none_iff {routes : List (Route ι ω)} {verb : Text} :
    routeFor? routes verb = none ↔ ∀ route ∈ routes, route.method.verb ≠ routedVerb verb := by
  simp [routeFor?]

/-! ## The foremost path -/

/-- The path of the route takes the request; every other path that takes it comes later in the order of trying. -/
structure Foremost (routes : List (Route ι ω)) (path : Text) (top : Route ι ω) (captured : List (Text × Text)) :
    Prop where
  mem : top ∈ routes
  takes : Takes top.pattern.segments (path.split '/') captured
  first : ∀ other ∈ routes, ∀ caught, Takes other.pattern.segments (path.split '/') caught →
    other.pattern.hostPath = top.pattern.hostPath ∨ TriedBefore top.pattern.segments other.pattern.segments

theorem Holding.foremost {routes : List (Route ι ω)} (h : Holding routes) {path : Text} {top : Route ι ω}
    {captured : List (Text × Text)} (hlocate : locate routes path = some (top, captured)) :
    Foremost routes path top captured := by
  obtain ⟨htop, htakes, hfirst⟩ := locate_some hlocate
  refine ⟨htop, htakes, fun other hother caught hcaught => ?_⟩
  exact (hfirst other hother caught hcaught).imp_left fun halike => (h.hostPath_eq htop hother halike).symm

theorem Foremost.hostPath_eq {routes : List (Route ι ω)} {path : Text} {top other : Route ι ω}
    {captured caught : List (Text × Text)} (htop : Foremost routes path top captured)
    (hother : Foremost routes path other caught) : other.pattern.hostPath = top.pattern.hostPath := by
  rcases htop.first other hother.mem caught hother.takes with heq | hbefore
  · exact heq
  · rcases hother.first top htop.mem captured htop.takes with heq | hafter
    · exact heq.symm
    · exact absurd hafter hbefore.asymm

theorem Holding.locate_of_foremost {routes : List (Route ι ω)} (h : Holding routes) {path : Text} {top : Route ι ω}
    {captured : List (Text × Text)} (htop : Foremost routes path top captured) :
    ∃ top' captured', locate routes path = some (top', captured') ∧ top'.pattern.hostPath = top.pattern.hostPath := by
  cases hlocate : locate routes path with
  | none => exact absurd htop.takes (locate_eq_none_iff.1 hlocate top htop.mem captured)
  | some found =>
    obtain ⟨top', captured'⟩ := found
    exact ⟨top', captured', rfl, htop.hostPath_eq (h.foremost hlocate)⟩

/-! ## The route of a request -/

/-- The request goes to the route: it stands on the foremost path that takes the request, with the request's method,
where HEAD counts as GET. -/
def RoutedTo (server : Server ι ω) (verb path : Text) (route : Route ι ω) : Prop :=
  ∃ top captured, Foremost server.routes path top captured ∧ route ∈ server.routes ∧
    route.pattern.hostPath = top.pattern.hostPath ∧ route.method.verb = routedVerb verb

/-- a request goes to one route at most -/
theorem RoutedTo.unique {server : Server ι ω} (hholding : Holding server.routes) {verb path : Text} {a b : Route ι ω}
    (ha : RoutedTo server verb path a) (hb : RoutedTo server verb path b) : a = b := by
  obtain ⟨top, captured, htop, ha, hpath, hverb⟩ := ha
  obtain ⟨top', captured', htop', hb, hpath', hverb'⟩ := hb
  refine hholding.eq_of_method ha hb ?_ (verb_injective (hverb.trans hverb'.symm))
  rw [hpath, hpath', htop.hostPath_eq htop']

/-- a request whose path is found goes to a route, which handles it, or to none, and is refused -/
theorem handling_of_locate {server : Server ι ω} (hholding : Holding server.routes) (verb : Text) {path : Text}
    {top : Route ι ω} {captured : List (Text × Text)} (hlocate : locate server.routes path = some (top, captured)) :
    (∃ route, RoutedTo server verb path route ∧ handling server verb path = .action route captured) ∨
      ((∀ route, ¬RoutedTo server verb path route) ∧
        handling server verb path = .verbRefused (siblings server.routes top) captured) := by
  have htop := hholding.foremost hlocate
  cases hroute : routeFor? (siblings server.routes top) verb with
  | some route =>
    left
    obtain ⟨hmem, hverb⟩ := routeFor?_eq_some hroute
    obtain ⟨hroutes, hpath⟩ := mem_siblings.1 hmem
    exact ⟨route, ⟨top, captured, htop, hroutes, hpath, hverb⟩, by simp only [handling, hlocate, hroute]⟩
  | none =>
    right
    refine ⟨?_, by simp only [handling, hlocate, hroute]⟩
    rintro route ⟨top', captured', htop', hroutes, hpath, hverb⟩
    have hmem : route ∈ siblings server.routes top := mem_siblings.2 ⟨hroutes, hpath.trans (htop.hostPath_eq htop')⟩
    exact routeFor?_eq_none_iff.1 hroute route hmem hverb

/-- **Served or refused on the foremost path.** If a request matches a route of its method, then the foremost path that
takes the request decides. A route of the request's method there handles it with its middlewares and its action. If the
foremost path has none, the verb is refused there, whatever other paths match. -/
theorem matching_request_handled {router : Router ι ρ ω} {server : Server ι ω} (h : router.OnHost)
    (bound : router.server = some server) {method : Method} {path : Text}
    (matched : ∃ route ∈ server.routes, route.method = method ∧ Matches route.pattern.segments (path.split '/')) :
    ∃ top captured, Foremost server.routes path top captured ∧
      ((∃ route ∈ server.routes, route.pattern.hostPath = top.pattern.hostPath ∧ route.method = method ∧
          Handles server method.verb path (.action route captured)) ∨
        ((∀ route ∈ server.routes, route.pattern.hostPath = top.pattern.hostPath → route.method ≠ method) ∧
          Handles server method.verb path (.verbRefused (siblings server.routes top) captured))) := by
  have hholding := h.holding bound
  have hhandles := handles server method.verb path
  obtain ⟨wanted, hwanted, -, hmatches⟩ := matched
  obtain ⟨caught, hcaught, -⟩ := matches_iff.1 hmatches
  cases hlocate : locate server.routes path with
  | none => exact absurd hcaught (locate_eq_none_iff.1 hlocate wanted hwanted caught)
  | some found =>
    obtain ⟨top, captured⟩ := found
    have htop := hholding.foremost hlocate
    refine ⟨top, captured, htop, ?_⟩
    rcases handling_of_locate hholding method.verb hlocate with ⟨route, hrouted, hhandling⟩ | ⟨hnone, hhandling⟩
    · left
      obtain ⟨top', captured', htop', hroute, hpath, hverb⟩ := hrouted
      rw [routedVerb_verb] at hverb
      exact ⟨route, hroute, hpath.trans (htop.hostPath_eq htop'), verb_injective hverb, hhandling ▸ hhandles⟩
    · right
      refine ⟨fun route hroute hpath hmethod => ?_, hhandling ▸ hhandles⟩
      exact hnone route ⟨top, captured, htop, hroute, hpath, by rw [hmethod, routedVerb_verb]⟩

/-- `GET /users/7` where `/users/:id` is a path for GET and `/users/new` one for POST. -/
theorem matching_request_handled_users :
    ∃ router site server,
      Sample.outcome (Host.server {}) ["get /users/:id Page@show", "post /users/new Page@show"] = (.ok router, site) ∧
      router.server = some server ∧
      (∃ route ∈ server.routes, route.method = .get ∧
        Matches route.pattern.segments (Text.split '/' ("/users/7" : Text))) ∧
      ∃ top captured, Foremost server.routes "/users/7" top captured ∧
        ((∃ route ∈ server.routes, route.pattern.hostPath = top.pattern.hostPath ∧ route.method = .get ∧
            Handles server (Method.verb .get) "/users/7" (.action route captured)) ∨
          ((∀ route ∈ server.routes, route.pattern.hostPath = top.pattern.hostPath → route.method ≠ .get) ∧
            Handles server (Method.verb .get) "/users/7" (.verbRefused (siblings server.routes top) captured))) := by
  have hheld : (Router.hostOf (Sample.outcome (Host.server {})
      ["get /users/:id Page@show", "post /users/new Page@show"])).any (fun server => server.routes.any fun route =>
        route.method = .get ∧ route.pattern.segments = [.literal [], .literal "users", .capture "id"]) = true := by
    decide +kernel
  obtain ⟨router, site, server, ran, bound, hroutes⟩ := Router.exists_of_hostOf hheld
  obtain ⟨route, hroute, htest⟩ := List.any_eq_true.1 hroutes
  obtain ⟨hmethod, hsegments⟩ := of_decide_eq_true htest
  have matched : ∃ route ∈ server.routes, route.method = .get ∧
      Matches route.pattern.segments (Text.split '/' ("/users/7" : Text)) :=
    ⟨route, hroute, hmethod, hsegments ▸ .literal _ (.literal _ (.capture _ (by decide) .done))⟩
  exact ⟨router, site, server, ran, bound, matched, matching_request_handled (Sample.onHost ran) bound matched⟩

/-- There `GET /users/new` matches the route of `/users/:id` too, and is refused on the path of the other. -/
theorem matching_request_refused :
    ∃ router site server,
      Sample.outcome (Host.server {}) ["get /users/:id Page@show", "post /users/new Page@show"] = (.ok router, site) ∧
      router.server = some server ∧
      (∃ route ∈ server.routes, route.method = .get ∧
        Matches route.pattern.segments (Text.split '/' ("/users/new" : Text))) ∧
      (answer server { request := .receive "GET" "/users/new" [] [], clock := 0, freshId := [] } site).1.status =
        405 := by
  have hheld : (Router.hostOf (Sample.outcome (Host.server {})
      ["get /users/:id Page@show", "post /users/new Page@show"])).any (fun server =>
        (server.routes.any fun route =>
          route.method = .get ∧ route.pattern.segments = [.literal [], .literal "users", .capture "id"]) ∧
        (answer server { request := .receive "GET" "/users/new" [] [], clock := 0, freshId := [] }
          (Sample.outcome (Host.server {}) ["get /users/:id Page@show", "post /users/new Page@show"]).2).1.status =
            405) = true := by
    decide +kernel
  obtain ⟨router, site, server, ran, bound, htest⟩ := Router.exists_of_hostOf hheld
  obtain ⟨hroutes, hstatus⟩ := of_decide_eq_true htest
  obtain ⟨route, hroute, htest⟩ := List.any_eq_true.1 hroutes
  obtain ⟨hmethod, hsegments⟩ := of_decide_eq_true htest
  refine ⟨router, site, server, ran, bound, ⟨route, hroute, hmethod, ?_⟩, by rwa [ran] at hstatus⟩
  exact hsegments ▸ .literal _ (.literal _ (.capture _ (by decide) .done))

end Host

end Switchboard
