/-
Which middlewares rule on a request.

The host is run once more over a state that also lists the middlewares as they rule (`watchedRespond`). The list
changes nothing: `watchedRespond_eq` gives the host's own answer and the middlewares that a handling enters
(`Handling.entered`). A chain is entered up to the first middleware that answers, so what it enters is a beginning
of it.

`isolated_iff` says when the middlewares that rule are a beginning of the chain of the route that the request goes to,
none where it goes to no route. It fails in one case: the path is found, no route there has the method, and the route
registered last on it lists a middleware. That one stands around the refusal.
-/
import Switchboard.Proofs.Handling

namespace Switchboard

/-! ## Chains -/

/-- the middlewares of a chain that rule on a request: those up to the first that answers -/
def Middleware.entered (clock : Nat) : List MiddlewareBinding → Request → List MiddlewareBinding
  | [], _ => []
  | m :: ms, request =>
    match m.middleware clock request with
    | .answer _ => [m]
    | .forward request' _ => m :: entered clock ms request'

theorem Middleware.entered_prefix (clock : Nat) (ms : List MiddlewareBinding) (request : Request) :
    entered clock ms request <+: ms := by
  induction ms generalizing request with
  | nil => exact List.prefix_refl []
  | cons m ms ih =>
    simp only [entered]
    split
    · exact ⟨ms, rfl⟩
    · exact (List.prefix_cons_inj m).2 (ih _)

/-- the outermost middleware always rules -/
theorem Middleware.entered_ne_nil (clock : Nat) {ms : List MiddlewareBinding} (hms : ms ≠ []) (request : Request) :
    entered clock ms request ≠ [] := by
  cases ms with
  | nil => exact absurd rfl hms
  | cons m ms =>
    simp only [entered]
    split <;> exact List.cons_ne_nil _ _

namespace Host

variable {σ ι ρ ω : Type}

/-! ## Watching -/

/-- a state, and the middlewares that have ruled before -/
abbrev Watched (σ : Type) := List MiddlewareBinding × σ

/-- a handler without middlewares -/
def watched (handler : Handler σ) : Handler (Watched σ) := fun request state =>
  let (response, state') := handler request state.2
  (response, state.1, state')

def watchedWrap (clock : Nat) (m : MiddlewareBinding) (next : Handler (Watched σ)) : Handler (Watched σ) :=
  fun request state => Middleware.wrap clock m.middleware next request (state.1 ++ [m], state.2)

def watchedChain (clock : Nat) (ms : List MiddlewareBinding) (next : Handler (Watched σ)) : Handler (Watched σ) :=
  ms.foldr (watchedWrap clock) next

/-- the answer by path and method, with the middlewares that rule on the way -/
def watchedRespond (server : Server ι ω) (clock : Nat) : Handler (Watched (Site ι ω)) := fun request =>
  (handling server request.verb request.path).run (fun route => watchedChain clock route.middleware)
    (fun route => watched route.dispatch) (fun handler => watched handler.atSite) request

/-- the one handler answers as the other and lists the middlewares besides -/
def Watches (watching : Handler (Watched σ)) (plain : Handler σ) (ruled : Request → List MiddlewareBinding) : Prop :=
  ∀ request state, watching request state =
    ((plain request state.2).1, state.1 ++ ruled request, (plain request state.2).2)

theorem watches_watched (handler : Handler σ) : Watches (watched handler) handler fun _ => [] := by
  intro request state
  simp [watched]

theorem watches_notAllowed : Watches (σ := σ) notAllowed notAllowed fun _ => [] := by
  intro request state
  simp [notAllowed]

theorem watches_chain (clock : Nat) (ms : List MiddlewareBinding) {watching : Handler (Watched σ)} {plain : Handler σ}
    (h : Watches watching plain fun _ => []) :
    Watches (watchedChain clock ms watching) (Middleware.chain clock (ms.map (·.middleware)) plain)
      (Middleware.entered clock ms) := by
  induction ms with
  | nil => exact h
  | cons m ms ih =>
    intro request state
    show Middleware.wrap clock m.middleware (watchedChain clock ms watching) request (state.1 ++ [m], state.2) = _
    simp only [List.map_cons, Middleware.chain_cons, Middleware.wrap, Middleware.entered]
    cases m.middleware clock request with
    | answer response => rfl
    | forward request' finish => simp [ih request' (state.1 ++ [m], state.2)]

def Handling.entered (clock : Nat) : Handling ι ω → Request → List MiddlewareBinding
  | .action route captured, request =>
    Middleware.entered clock route.middleware { request with captures := some (visible captured) }
  | .verbRefused siblings captured, request =>
    match siblings.getLast? with
    | some last => Middleware.entered clock last.middleware { request with captures := some (visible captured) }
    | none => []
  | .fallback _, _ => []
  | .fallbackRefused, _ => []
  | .unmatched, _ => []

theorem watches_run (clock : Nat) (handling : Handling ι ω) :
    Watches
      (handling.run (fun route => watchedChain clock route.middleware) (fun route => watched route.dispatch)
        fun handler => watched handler.atSite)
      (handling.run (guarded clock) Route.dispatch Handler.atSite) (handling.entered clock) := by
  cases handling with
  | action route captured =>
    intro request state
    exact watches_chain clock route.middleware (watches_watched route.dispatch) _ state
  | verbRefused siblings captured =>
    intro request state
    simp only [Handling.run, Handling.entered]
    cases siblings.getLast? with
    | none => simp [watches_notAllowed _ state]
    | some last => simp [watches_chain clock last.middleware watches_notAllowed _ state, guarded]
  | fallback handler => exact watches_watched handler.atSite
  | fallbackRefused =>
    intro request state
    simp [Handling.run, Handling.entered]
  | unmatched =>
    intro request state
    simp [Handling.run, Handling.entered]

/-- Watching changes neither the answer nor the site. -/
theorem watchedRespond_eq (server : Server ι ω) (clock : Nat) (request : Request) (site : Site ι ω)
    (ruled : List MiddlewareBinding) :
    watchedRespond server clock request (ruled, site) =
      ((respond server clock request site).1,
        ruled ++ (handling server request.verb request.path).entered clock request,
        (respond server clock request site).2) := by
  rw [respond_eq]
  exact watches_run clock (handling server request.verb request.path) request (ruled, site)

def ruling (server : Server ι ω) (clock : Nat) (request : Request) (site : Site ι ω) : List MiddlewareBinding :=
  (watchedRespond server clock request ([], site)).2.1

theorem ruling_eq (server : Server ι ω) (clock : Nat) (request : Request) (site : Site ι ω) :
    ruling server clock request site = (handling server request.verb request.path).entered clock request := by
  simp [ruling, watchedRespond_eq]

theorem entered_of_locate_none {server : Server ι ω} {clock : Nat} {request : Request}
    (hlocate : locate server.routes request.path = none) :
    (handling server request.verb request.path).entered clock request = [] := by
  simp only [handling, hlocate]
  cases server.fallback with
  | none => rfl
  | some handler =>
    simp only
    split_ifs <;> rfl

/-! ## Isolation -/

/-- The middlewares that rule on the request are a beginning of the chain of the route that it goes to. If it goes to
none, no middleware rules, and a path that is found is refused with 405. -/
structure Isolated (server : Server ι ω) (clock : Nat) (request : Request) (site : Site ι ω) : Prop where
  routed : ∀ route, RoutedTo server request.verb request.path route →
    ruling server clock request site <+: route.middleware
  unrouted : (∀ route, ¬RoutedTo server request.verb request.path route) → ruling server clock request site = []
  refused : ∀ top captured, Foremost server.routes request.path top captured →
    (∀ route, ¬RoutedTo server request.verb request.path route) → (respond server clock request site).1.status = 405

/-- A path is found for the request and no route on it has the method, while the route registered last on it lists a
middleware. -/
def RefusalGuarded (server : Server ι ω) (verb path : Text) : Prop :=
  ∃ top captured last, Foremost server.routes path top captured ∧ (∀ route, ¬RoutedTo server verb path route) ∧
    (siblings server.routes top).getLast? = some last ∧ last.middleware ≠ []

/-- a refusal that no middleware guards is a bare 405 -/
theorem isolated_of_refusal {server : Server ι ω} {clock : Nat} {request : Request} {site : Site ι ω}
    {siblings : List (Route ι ω)} {captured : List (Text × Text)}
    (hhandling : handling server request.verb request.path = .verbRefused siblings captured)
    (hlast : ∀ last, siblings.getLast? = some last → last.middleware = []) :
    ruling server clock request site = [] ∧ (respond server clock request site).1.status = 405 := by
  rw [ruling_eq, respond_eq, hhandling]
  simp only [Handling.entered, Handling.run]
  cases hgetLast : siblings.getLast? with
  | none => exact ⟨rfl, rfl⟩
  | some last =>
    simp only [guarded, hlast last hgetLast]
    exact ⟨rfl, rfl⟩

/-- **Middleware isolation.** On a host that a run of calls has come to, a request is isolated from the middlewares of
other routes except for one case: a guarded refusal. -/
theorem isolated_iff {router : Router ι ρ ω} {server : Server ι ω} (h : router.OnHost)
    (bound : router.server = some server) (clock : Nat) (request : Request) (site : Site ι ω) :
    Isolated server clock request site ↔ ¬RefusalGuarded server request.verb request.path := by
  have hholding := h.holding bound
  constructor
  · rintro hisolated ⟨top, captured, last, htop, hnone, hlast, hmiddleware⟩
    have hruling := hisolated.unrouted hnone
    rw [ruling_eq] at hruling
    obtain ⟨top', caught, hlocate, hpath⟩ := hholding.locate_of_foremost htop
    rcases handling_of_locate hholding request.verb hlocate with ⟨route, hrouted, -⟩ | ⟨-, hhandling⟩
    · exact hnone route hrouted
    · rw [hhandling, siblings_eq hpath] at hruling
      simp only [Handling.entered, hlast] at hruling
      exact Middleware.entered_ne_nil clock hmiddleware _ hruling
  · intro hguarded
    cases hlocate : locate server.routes request.path with
    | none =>
      -- no path takes the request, so it goes to no route and no path is refused
      have hforemost : ∀ top captured, ¬Foremost server.routes request.path top captured := fun top captured htop =>
        locate_eq_none_iff.1 hlocate top htop.mem captured htop.takes
      refine ⟨?_, fun _ => ?_, fun top captured htop => absurd htop (hforemost top captured)⟩
      · rintro route ⟨top, captured, htop, -⟩
        exact absurd htop (hforemost top captured)
      · rw [ruling_eq, entered_of_locate_none hlocate]
    | some found =>
      obtain ⟨top, captured⟩ := found
      rcases handling_of_locate hholding request.verb hlocate with ⟨route, hrouted, hhandling⟩ | ⟨hnone, hhandling⟩
      · have hsome : ¬∀ route, ¬RoutedTo server request.verb request.path route := fun hnone => hnone route hrouted
        refine ⟨fun other hother => ?_, fun hnone => absurd hnone hsome, fun _ _ _ hnone => absurd hnone hsome⟩
        obtain rfl := hother.unique hholding hrouted
        rw [ruling_eq, hhandling]
        exact Middleware.entered_prefix clock _ _
      · have hlast : ∀ last, (siblings server.routes top).getLast? = some last → last.middleware = [] := by
          intro last hlast
          by_contra hmiddleware
          exact hguarded ⟨top, captured, last, hholding.foremost hlocate, hnone, hlast, hmiddleware⟩
        have hrefusal : ruling server clock request site = [] ∧ (respond server clock request site).1.status = 405 :=
          isolated_of_refusal hhandling hlast
        obtain ⟨hruling, hstatus⟩ := hrefusal
        exact ⟨fun route hrouted => absurd hrouted (hnone route), fun _ => hruling, fun _ _ _ _ => hstatus⟩

/-- `GET /a` where `/a` is a path for POST, behind a middleware that answers. -/
theorem isolated_iff_post :
    ∃ router site server, Sample.outcome (Host.server {}) ["post /a Page@show block"] = (.ok router, site) ∧
      router.server = some server ∧
      (Isolated server 0 (.receive "GET" "/a" [] []) site ↔ ¬RefusalGuarded server "GET" "/a") := by
  have hheld : (Router.hostOf (Sample.outcome (Host.server {}) ["post /a Page@show block"])).any
      (·.routes.length = 1) = true := by
    decide +kernel
  obtain ⟨router, site, server, ran, bound, -⟩ := Router.exists_of_hostOf hheld
  exact ⟨router, site, server, ran, bound,
    isolated_iff (Sample.onHost ran) bound 0 (.receive "GET" "/a" [] []) site⟩

/-- There the middleware of the POST route rules on `GET /a`, and its answer takes the place of the refusal. -/
theorem refusal_ruled_by_middleware :
    ∃ router site server, Sample.outcome (Host.server {}) ["post /a Page@show block"] = (.ok router, site) ∧
      router.server = some server ∧ (∀ route ∈ server.routes, route.method = .post) ∧
      (ruling server 0 (.receive "GET" "/a" [] []) site).map (·.name) = ["block"] ∧
      (answer server { request := .receive "GET" "/a" [] [], clock := 0, freshId := [] } site).1.status = 403 ∧
      ¬Isolated server 0 (.receive "GET" "/a" [] []) site := by
  have hheld : (Router.hostOf (Sample.outcome (Host.server {}) ["post /a Page@show block"])).any (fun server =>
      (server.routes.all fun route => route.method = .post) ∧
      (ruling server 0 (.receive "GET" "/a" [] [])
        (Sample.outcome (Host.server {}) ["post /a Page@show block"]).2).map (·.name) = ["block"] ∧
      (answer server { request := .receive "GET" "/a" [] [], clock := 0, freshId := [] }
        (Sample.outcome (Host.server {}) ["post /a Page@show block"]).2).1.status = 403) = true := by
    decide +kernel
  obtain ⟨router, site, server, ran, bound, htest⟩ := Router.exists_of_hostOf hheld
  obtain ⟨hroutes, hruling, hstatus⟩ := of_decide_eq_true htest
  rw [ran] at hruling hstatus
  have hpost : ∀ route ∈ server.routes, route.method = .post := by simpa using hroutes
  refine ⟨router, site, server, ran, bound, hpost, hruling, hstatus, fun hisolated => ?_⟩
  have hnone : ∀ route, ¬RoutedTo server "GET" "/a" route := by
    rintro route ⟨top, captured, -, hroute, -, hverb⟩
    rw [hpost route hroute] at hverb
    exact absurd hverb (by decide)
  have hempty : ruling server 0 (.receive "GET" "/a" [] []) site = [] := hisolated.unrouted hnone
  rw [hempty] at hruling
  cases hruling

end Host

end Switchboard
