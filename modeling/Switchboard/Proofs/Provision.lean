/-
What a router keeps of the lines that it has accepted.

`Router.Provided` is the invariant of a router with its site, over whole runs. It extends `Router.Standing`: the cache
is backed by the source and holds exactly the modules that the listed routes refer to (`ModuleCache.Covers`), every
accepted route is built from the blueprint of some line, and the listing shows what was handed to the server.
`perform_provided` is the step and `run_provided` the run.
-/
import Switchboard.Proofs.Blueprints
import Switchboard.Proofs.Runs

namespace Switchboard

variable {ι ρ ω : Type}

/-! ## Names in listings and caches -/

/-- a line that was read tells its controller and its action by its target -/
theorem RouteLine.splitReference_target {line delimiter : Text} {spec : RouteLine}
    (h : RouteLine.read line delimiter = .ok spec) :
    RouteLine.splitReference (spec.target delimiter) delimiter = some (spec.controller, spec.action) := by
  obtain ⟨word, -, -, hsplit⟩ := RouteLine.read_eq_ok h
  exact hsplit

def RouteSummary.controller? (delimiter : Text) (summary : RouteSummary) : Option Text :=
  (RouteLine.splitReference summary.target delimiter).map (·.1)

namespace ModuleCache

/-- The cached names are exactly those that the listed routes refer to. -/
structure Covers (delimiter : Text) (cache : ModuleCache ι ω) (listed : List RouteSummary) : Prop where
  controllers : ∀ name, name ∈ cache.controllers.map (·.name) ↔ ∃ s ∈ listed, s.controller? delimiter = some name
  middlewares : ∀ name, name ∈ cache.middlewares.map (·.name) ↔ ∃ s ∈ listed, name ∈ s.middleware

theorem covers_empty (delimiter : Text) : Covers delimiter ({} : ModuleCache ι ω) [] where
  controllers := by simp
  middlewares := by simp

variable {s s' : ResolutionState ι ω}

/-- a controller that is there is cached afterwards, and nothing else is new -/
theorem cached_of_controller {name : Text} {context : Context ρ} {load : Except RouteError (Controller ι ρ ω)}
    {binding : ControllerBinding ι ω} (h : controller name context load s = .ok binding s') :
    (∀ n, n ∈ s'.1.controllers.map (·.name) ↔ n ∈ s.1.controllers.map (·.name) ∨ n = name) ∧
      s'.1.middlewares = s.1.middlewares := by
  obtain ⟨cache, site⟩ := s
  cases hc : cache.controller? name with
  | some found =>
    rw [controller_hit hc] at h
    cases h
    obtain ⟨hmem, rfl⟩ := mem_of_controller? hc
    refine ⟨fun n => ⟨Or.inl, ?_⟩, rfl⟩
    rintro (hn | rfl)
    · exact hn
    · exact List.mem_map_of_mem hmem
  | none =>
    cases load with
    | error e =>
      rw [controller_refused hc] at h
      cases h
    | ok loaded =>
      rw [controller_loaded hc] at h
      cases h
      exact ⟨fun n => by simp, rfl⟩

theorem cached_of_middleware {name : Text} {load : Except RouteError Middleware} {binding : MiddlewareBinding}
    (h : middleware name load s = .ok binding s') :
    (∀ n, n ∈ s'.1.middlewares.map (·.name) ↔ n ∈ s.1.middlewares.map (·.name) ∨ n = name) ∧
      s'.1.controllers = s.1.controllers := by
  obtain ⟨cache, site⟩ := s
  cases hc : cache.middleware? name with
  | some found =>
    rw [middleware_hit hc] at h
    cases h
    obtain ⟨hmem, rfl⟩ := mem_of_middleware? hc
    refine ⟨fun n => ⟨Or.inl, ?_⟩, rfl⟩
    rintro (hn | rfl)
    · exact hn
    · exact List.mem_map_of_mem hmem
  | none =>
    cases load with
    | error e =>
      rw [middleware_refused hc] at h
      cases h
    | ok loaded =>
      rw [middleware_loaded hc] at h
      cases h
      exact ⟨fun n => by simp, rfl⟩

theorem cached_of_middlewareList {source : ModuleSource ι ρ ω} {names : List Text} {bindings : List MiddlewareBinding}
    (h : middlewareList source names s = .ok bindings s') :
    (∀ n, n ∈ s'.1.middlewares.map (·.name) ↔ n ∈ s.1.middlewares.map (·.name) ∨ n ∈ names) ∧
      s'.1.controllers = s.1.controllers := by
  induction names generalizing s bindings with
  | nil =>
    obtain ⟨-, rfl⟩ := Resolution.pure_eq_ok.1 h
    exact ⟨fun n => by simp, rfl⟩
  | cons name names ih =>
    obtain ⟨binding, t, hbinding, h⟩ := Resolution.bind_eq_ok.1 h
    obtain ⟨rest, u, hrest, h⟩ := Resolution.bind_eq_ok.1 h
    obtain ⟨-, rfl⟩ := Resolution.pure_eq_ok.1 h
    obtain ⟨hone, hcontrollers⟩ := cached_of_middleware hbinding
    obtain ⟨hall, hcontrollers'⟩ := ih hrest
    refine ⟨fun n => ?_, hcontrollers'.trans hcontrollers⟩
    rw [hall n, hone n, List.mem_cons, or_assoc]

/-- a line that resolves adds the names that its route refers to -/
theorem Covers.line {router : Router ι ρ ω} {listed : List RouteSummary}
    (hs : Covers router.settings.delimiter s.1 listed) {mount line : Text} {route : Route ι ω}
    (h : router.resolve mount line s = .ok route s') :
    Covers router.settings.delimiter s'.1 (listed ++ [route.summary]) := by
  obtain ⟨spec, pattern, binding, t, action, middleware, hspec, -, hbinding, -, hmiddleware, rfl⟩ :=
    Router.resolve_eq_ok h
  obtain ⟨hcontroller, hkept⟩ := cached_of_controller hbinding
  obtain ⟨hmiddlewares, hkept'⟩ := cached_of_middlewareList hmiddleware
  have htarget := RouteLine.splitReference_target hspec
  have hnames : middleware.map (·.name) = spec.middleware := names_of_middlewareList hmiddleware
  constructor
  · intro name
    rw [hkept', hcontroller name, hs.controllers name]
    simp [Route.summary, RouteSummary.controller?, htarget, or_and_right, exists_or, eq_comm]
  · intro name
    rw [hmiddlewares name, hkept, hs.middlewares name]
    simp [Route.summary, ← hnames, or_and_right, exists_or]

theorem Covers.batch {router : Router ι ρ ω} {listed : List RouteSummary}
    (hs : Covers router.settings.delimiter s.1 listed) {mount : Text} {lines : List Text} {routes : List (Route ι ω)}
    (h : Router.Resolves router mount s lines routes s') :
    Covers router.settings.delimiter s'.1 (listed ++ routes.map Route.summary) := by
  induction h generalizing listed with
  | nil s => simpa using hs
  | cons hline _ ih => simpa using ih (hs.line hline)

end ModuleCache

/-! ## The invariant -/

namespace Router

/-- A router that has accepted these routes, with all that it keeps of their lines. `first` is what the servers were
handed before. -/
structure Provided (Offered : Server ι ω → Prop) (first : List RouteSummary) (router : Router ι ρ ω) (site : Site ι ω)
    (accepted : List (Route ι ω)) : Prop extends Standing Offered router accepted where
  backed : ModuleCache.Backed router.source router.context (router.cache, site)
  unloaded : router.server = none → router.cache = {}
  covers : ModuleCache.Covers router.settings.delimiter router.cache router.registered
  built : ∀ route ∈ accepted, ∃ mount line blueprint, router.blueprint mount line = .ok blueprint ∧
    blueprint.Built site.instances route
  handed : site.registrations = first ++ router.registered

section Provided

variable {Offered : Server ι ω → Prop} {first : List RouteSummary} {router router' : Router ι ρ ω}
  {site site' : Site ι ω} {accepted : List (Route ι ω)}

theorem provided_empty (source : ModuleSource ι ρ ω) (settings : RoutingSettings) (site : Site ι ω) :
    Provided Offered site.registrations (Router.empty source settings) site [] where
  toStanding := standing_empty source settings
  backed := ModuleCache.backed_empty source {} site
  unloaded _ := rfl
  covers := ModuleCache.covers_empty settings.delimiter
  built _ h := absurd h List.not_mem_nil
  handed := by simp [Router.empty]

/-- A context for the controllers is given before any is loaded. -/
theorem Provided.binding (h : Provided Offered first router site []) (hnone : router.server = none)
    {server : Server ι ω} (hoffered : Offered server) (context : Context ρ) (event : Event) :
    Provided Offered first { router with server := some server, context } (site.report event) [] where
  toStanding := h.toStanding.binding hoffered context
  backed := by
    rw [h.unloaded hnone]
    exact ModuleCache.backed_empty router.source context _
  unloaded hserver := by cases hserver
  covers := h.covers
  built _ h := absurd h List.not_mem_nil
  handed := h.handed

/-- A batch leaves the cache backed, with the names that its routes refer to, and its routes are built from its lines. -/
theorem Provided.batch (h : Provided Offered first router site accepted) {server : Server ι ω}
    (bound : router.server = some server) {lines : List Text} {mount : Text} {routes : List (Route ι ω)}
    {table : RouteTable} {s : ResolutionState ι ω}
    (hresolve : router.resolveBatch lines mount site = .ok (routes, table) s) (hold : server.CanHold routes)
    (event : Event) :
    Provided Offered first
      { router with
        server := some (server.holding routes), cache := s.1,
        registered := router.registered ++ routes.map Route.summary, table }
      ((s.2.handing routes).report event) (accepted ++ routes) := by
  have hopening := router.opening_instances mount site
  have hbacked : ModuleCache.Backed router.source router.context (router.cache, router.opening mount site) :=
    h.backed.atSite (hopening ▸ List.prefix_refl _)
  have hresolves : Resolves router mount (router.cache, router.opening mount site) lines routes s :=
    (resolveAll_eq_ok hresolve).1
  obtain ⟨hadvances, blueprints, hblueprints, hbuilt⟩ := hresolves.built hbacked
  have hinstances : site.instances <+: s.2.instances := hopening ▸ hadvances.instances
  have hcovers : ModuleCache.Covers router.settings.delimiter s.1 (router.registered ++ routes.map Route.summary) :=
    ModuleCache.Covers.batch (s := (router.cache, router.opening mount site)) h.covers hresolves
  refine { h.toStanding.batch bound hresolve hold with
    backed := hadvances.backed.atSite (List.prefix_refl _)
    unloaded := fun hserver => by cases hserver
    covers := hcovers
    built := fun route hroute => ?_
    handed := ?_ }
  · rcases List.mem_append.1 hroute with hroute | hroute
    · obtain ⟨mount', line, blueprint, hline, hone⟩ := h.built route hroute
      exact ⟨mount', line, blueprint, hline, hone.mono hinstances⟩
    · obtain ⟨blueprint, hblueprint, hone⟩ := exists_of_mem_right hbuilt hroute
      obtain ⟨line, -, hline⟩ := exists_of_mem_right hblueprints hblueprint
      exact ⟨mount, line, blueprint, hline, hone⟩
  · have hquiet := (resolveBatch_quiet router lines mount site).1 _ s hresolve
    simp [hquiet.registrations, h.handed]

theorem Provided.installing (h : Provided Offered first router site accepted) {server : Server ι ω}
    (bound : router.server = some server) (handler : Handler ω) (event : Event) :
    Provided Offered first
      { router with server := some { server with fallback := some handler }, fallbackInstalled := true }
      (site.report event) accepted where
  toStanding := h.toStanding.installing bound handler
  backed := h.backed.atSite (List.prefix_refl _)
  unloaded hserver := by cases hserver
  covers := h.covers
  built := h.built
  handed := h.handed

theorem perform_provided (h : Provided Offered first router site accepted) {call : Call ι ρ ω}
    (hoffer : ∀ server, call.offer? = some server → Offered server) (hcall : Succeeds router site call router' site') :
    ∃ routes, Provided Offered first router' site' (accepted ++ routes) := by
  cases hcall with
  | bound server resource hnone =>
    obtain rfl := h.unbound hnone
    exact ⟨[], h.binding hnone (hoffer server rfl) _ _⟩
  | ignored server resource hbound =>
    refine ⟨[], ?_⟩
    rw [List.append_nil]
    exact { h with backed := h.backed.atSite (List.prefix_refl _) }
  | registered hbatch hbound hresolve hold => exact ⟨_, h.batch hbound hresolve hold _⟩
  | fallback handler hbound => exact ⟨[], by simpa using h.installing hbound handler _⟩

theorem run_provided {source : ModuleSource ι ρ ω} {settings : RoutingSettings} {calls : List (Call ι ρ ω)}
    (hoffer : ∀ call ∈ calls, ∀ server, call.offer? = some server → Offered server)
    (ran : (Router.empty source settings).run site calls = (.ok router', site')) :
    ∃ accepted, Provided Offered site.registrations router' site' accepted := by
  refine run_induction (fun _ router' site' => ∃ accepted, Provided Offered site.registrations router' site' accepted)
    ?_ ⟨[], provided_empty source settings site⟩ ran
  rintro call hmem - router site router' site' ⟨accepted, hprovided⟩ hcall
  obtain ⟨routes, hnext⟩ := perform_provided hprovided (hoffer call hmem) hcall
  exact ⟨accepted ++ routes, hnext⟩

end Provided

end Router

end Switchboard
