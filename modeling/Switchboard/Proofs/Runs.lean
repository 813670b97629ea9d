/-
Batches and whole runs of calls.

- A batch is resolved first (`Router.resolveBatch`). `route_refused`, `route_registered` and `route_unhostable` say
  what the call comes to: it is refused while nothing has been registered, all its routes are registered, or the server
  cannot hold one of them (`Server.CanHold`).
- `perform_eq_ok` says everything that a successful call can do, and `run_induction` carries what such calls keep to
  whole runs. The world is one such thing (`run_world`). `perform_eq_error` says what a failed call leaves.
- `Router.Standing` is the invariant of a router with the routes that it has accepted: they have entered its table
  (`Router.Entered`), the listing shows them, and the bound server is one that was offered and holds them.
  `perform_standing` is the step and `run_standing` the run.
-/
import Switchboard.Proofs.Resolutions

namespace Switchboard

variable {ι ρ ω : Type}

/-! ## Servers and the routes handed to them -/

/-- the server can hold the routes, each beside those it has and those before it -/
def Server.CanHold (server : Server ι ω) (routes : List (Route ι ω)) : Prop :=
  ∀ before route after, routes = before ++ route :: after → server.admits (server.routes ++ before) route = true

@[simps] def Server.holding (server : Server ι ω) (routes : List (Route ι ω)) : Server ι ω :=
  { server with routes := server.routes ++ routes }

@[simps] def Site.handing (site : Site ι ω) (routes : List (Route ι ω)) : Site ι ω :=
  { site with
    journal := site.journal ++ routes.map fun route => .routeRegistered route.summary
    measures := site.measures ++ routes.map fun route => .registered route.method
    registrations := site.registrations ++ routes.map Route.summary }

@[simp] theorem Site.handing_nil (site : Site ι ω) : site.handing [] = site := by
  simp [Site.handing]

theorem Site.handing_cons (site : Site ι ω) (route : Route ι ω) (routes : List (Route ι ω)) :
    site.handing (route :: routes) = (site.handing [route]).handing routes := by
  simp [Site.handing]

/-- a handing is seen as the routes that were handed over -/
theorem Site.reports_handing {κ : Type} {pick : Event → Option κ} (see : RouteSummary → Option κ)
    (h : ∀ summary, pick (.routeRegistered summary) = see summary) (site : Site ι ω) (routes : List (Route ι ω)) :
    (site.handing routes).reports pick = site.reports pick ++ (routes.map Route.summary).filterMap see := by
  have hsee : (pick ∘ fun route : Route ι ω => Event.routeRegistered route.summary) = see ∘ Route.summary := by
    funext route
    exact h route.summary
  simp only [reports, handing, List.filterMap_append, List.filterMap_map, hsee]

theorem Site.reports_handing_of_none {κ : Type} {pick : Event → Option κ}
    (h : ∀ summary, pick (.routeRegistered summary) = none) (site : Site ι ω) (routes : List (Route ι ω)) :
    (site.handing routes).reports pick = site.reports pick := by
  rw [reports_handing (fun _ => none) h]
  simp

theorem Server.canHold_nil (server : Server ι ω) : server.CanHold [] := by
  intro before route after h
  simp at h

theorem Server.canHold_append {server : Server ι ω} {routes more : List (Route ι ω)} :
    server.CanHold (routes ++ more) ↔ server.CanHold routes ∧ (server.holding routes).CanHold more := by
  constructor
  · intro h
    refine ⟨fun before route after hr => h before route (after ++ more) (by simp [hr]), ?_⟩
    intro before route after hm
    have hadmits := h (routes ++ before) route after (by simp [hm])
    simpa using hadmits
  · rintro ⟨hroutes, hmore⟩ before route after h
    rcases List.append_eq_append_iff.1 h with ⟨middle, rfl, hm⟩ | ⟨middle, rfl, hm⟩
    · have hadmits := hmore middle route after hm
      simpa using hadmits
    · cases middle with
      | nil =>
        have hadmits := hmore [] route after (by simpa using hm.symm)
        simpa using hadmits
      | cons first middle =>
        obtain ⟨rfl, -⟩ : route = first ∧ after = middle ++ more := by simpa using hm
        exact hroutes before route middle rfl

theorem Server.canHold_singleton {server : Server ι ω} {route : Route ι ω} :
    server.CanHold [route] ↔ server.admits server.routes route = true := by
  constructor
  · intro h
    simpa using h [] route [] rfl
  · intro h before other after heq
    cases before with
    | nil =>
      obtain ⟨rfl, -⟩ : route = other ∧ [] = after := by simpa using heq
      simpa using h
    | cons first before => simp at heq

namespace Router

theorem registerAll_cons {done : Registration ι ω} {site : Site ι ω} {route : Route ι ω} {routes : List (Route ι ω)}
    (h : done.server.admits done.server.routes route = true) :
    registerAll done site (route :: routes) =
      registerAll { server := done.server.holding [route], registered := done.registered ++ [route.summary] }
        (site.handing [route]) routes := by
  simp only [registerAll, Server.register, h, if_true]
  rfl

theorem registerAll_blocked {done : Registration ι ω} {site : Site ι ω} {route : Route ι ω}
    {routes : List (Route ι ω)} (h : done.server.admits done.server.routes route = false) :
    registerAll done site (route :: routes) = (.error (.unhostable route.pattern.path), site.handing [route]) := by
  simp only [registerAll, Server.register, h]
  rfl

/-- routes that the server can hold are all registered, in order -/
theorem registerAll_of_canHold (done : Registration ι ω) (site : Site ι ω) {routes : List (Route ι ω)}
    (h : done.server.CanHold routes) :
    registerAll done site routes =
      (.ok { server := done.server.holding routes, registered := done.registered ++ routes.map Route.summary },
        site.handing routes) := by
  induction routes generalizing done site with
  | nil => simp [registerAll, Server.holding, Site.handing_nil]
  | cons route routes ih =>
    obtain ⟨hroute, hroutes⟩ := Server.canHold_append.1 (by simpa using h : done.server.CanHold ([route] ++ routes))
    rw [registerAll_cons (Server.canHold_singleton.1 hroute), ih _ _ hroutes, Site.handing_cons site route routes]
    simp [Server.holding]

/-- otherwise registering ends at the first route that the server cannot hold -/
theorem registerAll_of_not_canHold (done : Registration ι ω) (site : Site ι ω) {routes : List (Route ι ω)}
    (h : ¬done.server.CanHold routes) :
    ∃ before route after, routes = before ++ route :: after ∧
      done.server.admits (done.server.routes ++ before) route = false ∧
      registerAll done site routes =
        (.error (.unhostable route.pattern.path), site.handing (before ++ [route])) := by
  induction routes generalizing done site with
  | nil => exact absurd done.server.canHold_nil h
  | cons route routes ih =>
    cases hadmits : done.server.admits done.server.routes route with
    | false => exact ⟨[], route, routes, rfl, by simpa using hadmits, registerAll_blocked hadmits⟩
    | true =>
      have hrest : ¬(done.server.holding [route]).CanHold routes := by
        intro hrest
        exact h (Server.canHold_append.2 ⟨Server.canHold_singleton.2 hadmits, hrest⟩)
      obtain ⟨before, bad, after, rfl, hbad, heq⟩ :=
        ih { server := done.server.holding [route], registered := done.registered ++ [route.summary] }
          (site.handing [route]) hrest
      refine ⟨route :: before, bad, after, rfl, by simpa using hbad, ?_⟩
      rw [registerAll_cons hadmits, heq, List.cons_append, Site.handing_cons site route (before ++ [bad])]

/-! ## Batches -/

def opening (router : Router ι ρ ω) (mount : Text) (site : Site ι ω) : Site ι ω :=
  if router.fallbackInstalled then site.report (.lateRoutes mount) else site

@[simp] theorem opening_world (router : Router ι ρ ω) (mount : Text) (site : Site ι ω) :
    (router.opening mount site).world = site.world := by
  unfold opening
  split_ifs <;> rfl

@[simp] theorem opening_instances (router : Router ι ρ ω) (mount : Text) (site : Site ι ω) :
    (router.opening mount site).instances = site.instances := by
  unfold opening
  split_ifs <;> rfl

theorem opening_quiet (router : Router ι ρ ω) (mount : Text) (site : Site ι ω) :
    site.Quiet (router.opening mount site) := by
  unfold opening
  split_ifs
  · exact ⟨rfl, rfl⟩
  · exact ⟨rfl, rfl⟩

theorem opening_reports {κ : Type} {pick : Event → Option κ} (h : ∀ mount, pick (.lateRoutes mount) = none)
    (router : Router ι ρ ω) (mount : Text) (site : Site ι ω) :
    (router.opening mount site).reports pick = site.reports pick := by
  unfold opening
  split_ifs
  · exact site.reports_report_of_none (h mount)
  · rfl

/-- the batch resolved, before any of it is registered -/
def resolveBatch (router : Router ι ρ ω) (lines : List Text) (mount : Text) (site : Site ι ω) :
    EStateM.Result RouteError (ResolutionState ι ω) (List (Route ι ω) × RouteTable) :=
  router.resolveAll mount router.table 1 lines (router.cache, router.opening mount site)

theorem resolveBatch_quiet (router : Router ι ρ ω) (lines : List Text) (mount : Text) (site : Site ι ω) :
    (∀ found s, router.resolveBatch lines mount site = .ok found s → site.Quiet s.2) ∧
      ∀ e s, router.resolveBatch lines mount site = .error e s → site.Quiet s.2 := by
  have hopening := router.opening_quiet mount site
  have hkept := Resolution.kept_quiet.resolveAll router mount router.table 1 lines
    (router.cache, router.opening mount site)
  have htrans : ∀ s : ResolutionState ι ω, (router.opening mount site).Quiet s.2 → site.Quiet s.2 := fun s h =>
    ⟨h.measures.trans hopening.measures, h.registrations.trans hopening.registrations⟩
  exact ⟨fun found s h => htrans s (hkept.1 found s h), fun e s h => htrans s (hkept.2 e s h)⟩

section Batch

variable {router : Router ι ρ ω} {server : Server ι ω} {lines : List Text} {mount : Text} {site : Site ι ω}

theorem route_refused (bound : router.server = some server) {e : RouteError} {s : ResolutionState ι ω}
    (h : router.resolveBatch lines mount site = .error e s) :
    router.route lines mount site = (.error (.refused e), s.2) := by
  unfold resolveBatch opening at h
  simp only [route, bound, h]

theorem route_registered (bound : router.server = some server) {routes : List (Route ι ω)} {table : RouteTable}
    {s : ResolutionState ι ω} (h : router.resolveBatch lines mount site = .ok (routes, table) s)
    (hold : server.CanHold routes) :
    router.route lines mount site =
      (.ok { router with
          server := some (server.holding routes), cache := s.1,
          registered := router.registered ++ routes.map Route.summary, table },
        (s.2.handing routes).report (.batchRegistered mount routes.length)) := by
  unfold resolveBatch opening at h
  simp only [route, bound, h, registerAll_of_canHold { server, registered := router.registered } s.2 hold]

theorem route_unhostable (bound : router.server = some server) {routes : List (Route ι ω)} {table : RouteTable}
    {s : ResolutionState ι ω} (h : router.resolveBatch lines mount site = .ok (routes, table) s)
    (hold : ¬server.CanHold routes) :
    ∃ before route after, routes = before ++ route :: after ∧
      server.admits (server.routes ++ before) route = false ∧
      router.route lines mount site = (.error (.unhostable route.pattern.path), s.2.handing (before ++ [route])) := by
  obtain ⟨before, bad, after, hroutes, hbad, heq⟩ :=
    registerAll_of_not_canHold { server, registered := router.registered } s.2 hold
  refine ⟨before, bad, after, hroutes, hbad, ?_⟩
  unfold resolveBatch opening at h
  simp only [route, bound, h, heq]

end Batch

/-! ## Calls -/

/-- the lines that a call registers, and their mount path -/
def Call.batch? (settings : RoutingSettings) : Call ι ρ ω → Option (List Text × Text)
  | .route lines mount => some (lines, mount)
  | .web lines => some (lines, [])
  | .api lines => some (lines, settings.apiMount)
  | .init _ _ => none
  | .catchGetRequests _ => none

def Call.offer? : Call ι ρ ω → Option (Server ι ω)
  | .init server _ => some server
  | _ => none

theorem perform_batch {router : Router ι ρ ω} {site : Site ι ω} {call : Call ι ρ ω} {lines : List Text} {mount : Text}
    (h : call.batch? router.settings = some (lines, mount)) :
    router.perform site call = router.route lines mount site := by
  cases call with
  | route lines' mount' => cases h; rfl
  | web lines' => cases h; rfl
  | api lines' => cases h; rfl
  | init server resource => cases h
  | catchGetRequests handler => cases h

/-- what a call that succeeds does to the router and the site -/
inductive Succeeds (router : Router ι ρ ω) (site : Site ι ω) : Call ι ρ ω → Router ι ρ ω → Site ι ω → Prop
  | bound (server resource) : router.server = none →
      Succeeds router site (.init server resource)
        { router with server := some server, context := { server := server.handle, resource } }
        (site.report (.initialised server.handle.baseUrl))
  | ignored (server resource) : router.isInitialised = true →
      Succeeds router site (.init server resource) router (site.report .initIgnored)
  | registered {call lines mount server routes table s} : call.batch? router.settings = some (lines, mount) →
      router.server = some server → router.resolveBatch lines mount site = .ok (routes, table) s →
      server.CanHold routes →
      Succeeds router site call
        { router with
          server := some (server.holding routes), cache := s.1,
          registered := router.registered ++ routes.map Route.summary, table }
        ((s.2.handing routes).report (.batchRegistered mount routes.length))
  | fallback {server} (handler) : router.server = some server →
      Succeeds router site (.catchGetRequests handler)
        { router with server := some { server with fallback := some handler }, fallbackInstalled := true }
        (site.report .fallbackInstalled)

theorem route_eq_ok {router router' : Router ι ρ ω} {lines : List Text} {mount : Text} {site site' : Site ι ω}
    {call : Call ι ρ ω} (hbatch : call.batch? router.settings = some (lines, mount))
    (h : router.route lines mount site = (.ok router', site')) : Succeeds router site call router' site' := by
  cases bound : router.server with
  | none =>
    simp only [route, bound] at h
    cases h
  | some server =>
    cases hresolve : router.resolveBatch lines mount site with
    | error e s =>
      rw [route_refused bound hresolve] at h
      cases h
    | ok resolved s =>
      obtain ⟨routes, table⟩ := resolved
      by_cases hold : server.CanHold routes
      · rw [route_registered bound hresolve hold] at h
        cases h
        exact .registered hbatch bound hresolve hold
      · obtain ⟨before, route, after, -, -, heq⟩ := route_unhostable bound hresolve hold
        rw [heq] at h
        cases h

/-- A call that succeeds does one of four things. -/
theorem perform_eq_ok {router router' : Router ι ρ ω} {site site' : Site ι ω} {call : Call ι ρ ω}
    (h : router.perform site call = (.ok router', site')) : Succeeds router site call router' site' := by
  cases call with
  | init server resource =>
    simp only [perform, init] at h
    cases bound : router.server with
    | none =>
      rw [bound] at h
      cases h
      exact .bound server resource bound
    | some held =>
      rw [bound] at h
      cases h
      exact .ignored server resource (by simp [isInitialised, bound])
  | route lines mount => exact route_eq_ok rfl h
  | web lines => exact route_eq_ok rfl h
  | api lines => exact route_eq_ok rfl h
  | catchGetRequests handler =>
    simp only [perform, catchGetRequests] at h
    cases bound : router.server with
    | none =>
      rw [bound] at h
      cases h
    | some server =>
      rw [bound] at h
      cases h
      exact .fallback handler bound

/-- what a call that fails leaves at the site -/
inductive Halts (router : Router ι ρ ω) (site : Site ι ω) : Call ι ρ ω → Halt → Site ι ω → Prop
  | early {call} (event : Event) : router.server = none → event ∈ [Event.routesTooEarly, .fallbackTooEarly] →
      Halts router site call (.refused .notInitialized) (site.report event)
  | refused {call lines mount server e s} : call.batch? router.settings = some (lines, mount) →
      router.server = some server → router.resolveBatch lines mount site = .error e s →
      Halts router site call (.refused e) s.2
  | unhostable {call lines mount server routes table s before route after} :
      call.batch? router.settings = some (lines, mount) → router.server = some server →
      router.resolveBatch lines mount site = .ok (routes, table) s → routes = before ++ route :: after →
      Halts router site call (.unhostable route.pattern.path) (s.2.handing (before ++ [route]))

theorem route_eq_error {router : Router ι ρ ω} {lines : List Text} {mount : Text} {site site' : Site ι ω}
    {call : Call ι ρ ω} {halt : Halt} (hbatch : call.batch? router.settings = some (lines, mount))
    (h : router.route lines mount site = (.error halt, site')) : Halts router site call halt site' := by
  cases bound : router.server with
  | none =>
    simp only [route, bound] at h
    cases h
    exact .early _ bound List.mem_cons_self
  | some server =>
    cases hresolve : router.resolveBatch lines mount site with
    | error e s =>
      rw [route_refused bound hresolve] at h
      cases h
      exact .refused hbatch bound hresolve
    | ok resolved s =>
      obtain ⟨routes, table⟩ := resolved
      by_cases hold : server.CanHold routes
      · rw [route_registered bound hresolve hold] at h
        cases h
      · obtain ⟨before, route, after, hroutes, -, heq⟩ := route_unhostable bound hresolve hold
        rw [heq] at h
        cases h
        exact .unhostable hbatch bound hresolve hroutes

/-- A call fails in one of three ways. -/
theorem perform_eq_error {router : Router ι ρ ω} {site site' : Site ι ω} {call : Call ι ρ ω} {halt : Halt}
    (h : router.perform site call = (.error halt, site')) : Halts router site call halt site' := by
  cases call with
  | init server resource =>
    simp only [perform, init] at h
    cases bound : router.server with
    | none =>
      rw [bound] at h
      cases h
    | some held =>
      rw [bound] at h
      cases h
  | route lines mount => exact route_eq_error rfl h
  | web lines => exact route_eq_error rfl h
  | api lines => exact route_eq_error rfl h
  | catchGetRequests handler =>
    simp only [perform, catchGetRequests] at h
    cases bound : router.server with
    | none =>
      rw [bound] at h
      cases h
      exact .early _ bound (List.mem_cons_of_mem _ List.mem_cons_self)
    | some server =>
      rw [bound] at h
      cases h

/-- What holds at first and stays with every call that succeeds holds after a run; it may speak of the calls so far. -/
theorem run_induction (Inv : List (Call ι ρ ω) → Router ι ρ ω → Site ι ω → Prop) {calls : List (Call ι ρ ω)}
    (step : ∀ call ∈ calls, ∀ done router site router' site', Inv done router site →
      Succeeds router site call router' site' → Inv (done ++ [call]) router' site')
    {router router' : Router ι ρ ω} {site site' : Site ι ω} (start : Inv [] router site)
    (ran : router.run site calls = (.ok router', site')) : Inv calls router' site' := by
  -- the calls still to come, after those that were done
  suffices hrest : ∀ todo, (∀ call ∈ todo, call ∈ calls) → ∀ done router site, Inv done router site →
      router.run site todo = (.ok router', site') → Inv (done ++ todo) router' site' by
    simpa using hrest calls (fun _ h => h) [] router site start ran
  intro todo
  induction todo with
  | nil =>
    intro _ done router site hinv hran
    cases hran
    simpa using hinv
  | cons call todo ih =>
    intro hmem done router site hinv hran
    obtain ⟨hcall, htodo⟩ := List.forall_mem_cons.1 hmem
    simp only [run] at hran
    cases hperform : router.perform site call with
    | mk result site₁ =>
      rw [hperform] at hran
      cases result with
      | error halt => cases hran
      | ok next =>
        have hnext := step call hcall done router site next site₁ hinv (perform_eq_ok hperform)
        simpa using ih htodo (done ++ [call]) next site₁ hnext hran

theorem Succeeds.world_eq {router router' : Router ι ρ ω} {site site' : Site ι ω} {call : Call ι ρ ω}
    (h : Succeeds router site call router' site') : site'.world = site.world := by
  cases h with
  | bound server resource hnone => rfl
  | ignored server resource hbound => rfl
  | registered hbatch hbound hresolve hold =>
    rename_i lines mount server routes table s
    have hkept := (Resolution.kept_world.resolveAll router mount router.table 1 lines _).1 _ _ hresolve
    exact hkept.trans (router.opening_world mount site)
  | fallback handler hbound => rfl

theorem run_world {router router' : Router ι ρ ω} {site site' : Site ι ω} {calls : List (Call ι ρ ω)}
    (ran : router.run site calls = (.ok router', site')) : site'.world = site.world := by
  refine run_induction (fun _ _ site' => site'.world = site.world) ?_ rfl ran
  intro call _ done router site₁ router' site₂ hworld hcall
  exact hcall.world_eq.trans hworld

/-! ## Routes that a table has taken -/

/-- Routes on composed paths that have entered the table one after the other. -/
structure Entered (table : RouteTable) (routes : List (Route ι ω)) : Prop where
  composed : ∀ route ∈ routes, ∃ mount raw, Pattern.parse (Path.compose mount raw) = .ok route.pattern
  entered : RouteTable.empty.enterAll (routes.map Route.entry) = .ok table

section Entered

variable {table : RouteTable} {routes : List (Route ι ω)}

theorem entered_nil : Entered RouteTable.empty ([] : List (Route ι ω)) where
  composed _ h := absurd h List.not_mem_nil
  entered := rfl

theorem Entered.sound (h : Entered table routes) : ∀ route ∈ routes, route.pattern.Sound := by
  intro route hroute
  obtain ⟨mount, raw, hparse⟩ := h.composed route hroute
  exact (Pattern.parse_sound hparse).2

theorem Entered.records (h : Entered table routes) : RouteTable.Records table (routes.map Route.entry) := by
  refine RouteTable.enterAll_records RouteTable.records_empty ?_ h.entered
  intro entry hentry
  obtain ⟨route, hroute, rfl⟩ := List.mem_map.1 hentry
  exact h.sound route hroute

theorem Resolves.composed {router : Router ι ρ ω} {mount : Text} {s s' : ResolutionState ι ω} {lines : List Text}
    (h : Resolves router mount s lines routes s') :
    ∀ route ∈ routes, ∃ mount raw, Pattern.parse (Path.compose mount raw) = .ok route.pattern := by
  intro route hroute
  induction h with
  | nil s => exact absurd hroute List.not_mem_nil
  | cons hline _ ih =>
    rcases List.mem_cons.1 hroute with rfl | hroute
    · obtain ⟨spec, -, hstands⟩ := resolve_stands hline
      exact ⟨mount, spec.path, hstands.pattern⟩
    · exact ih hroute

/-- the routes of a batch that passes enter after those before -/
theorem Entered.batch {router : Router ι ρ ω} (h : Entered router.table routes) {lines : List Text} {mount : Text}
    {site : Site ι ω} {batch : List (Route ι ω)} {s : ResolutionState ι ω}
    (hresolve : router.resolveBatch lines mount site = .ok (batch, table) s) : Entered table (routes ++ batch) := by
  obtain ⟨hresolves, henter⟩ := resolveAll_eq_ok hresolve
  constructor
  · intro route hroute
    rcases List.mem_append.1 hroute with hroute | hroute
    · exact h.composed route hroute
    · exact hresolves.composed route hroute
  · rw [List.map_append, RouteTable.enterAll_append h.entered]
    exact henter

end Entered

/-! ## The invariant of a router -/

/-- A router that has accepted these routes, through a server for which `Offered` holds. -/
structure Standing (Offered : Server ι ω → Prop) (router : Router ι ρ ω) (accepted : List (Route ι ω)) : Prop
    extends Entered router.table accepted where
  listed : router.registered = accepted.map Route.summary
  unbound : router.server = none → accepted = []
  bound : ∀ server, router.server = some server →
    ∃ given, Offered given ∧ server.admits = given.admits ∧ server.routes = given.routes ++ accepted ∧
      given.CanHold accepted

section Standing

variable {Offered : Server ι ω → Prop} {router router' : Router ι ρ ω} {accepted : List (Route ι ω)}

theorem standing_empty (source : ModuleSource ι ρ ω) (settings : RoutingSettings) :
    Standing Offered (Router.empty source settings) [] where
  toEntered := entered_nil
  listed := rfl
  unbound _ := rfl
  bound server h := by cases h

theorem Standing.binding (h : Standing Offered router []) {server : Server ι ω} (hoffered : Offered server)
    (context : Context ρ) : Standing Offered { router with server := some server, context } [] where
  toEntered := h.toEntered
  listed := h.listed
  unbound hserver := by cases hserver
  bound held hheld := by
    cases hheld
    exact ⟨server, hoffered, rfl, by simp, server.canHold_nil⟩

/-- a batch that has passed is registered -/
theorem Standing.batch (h : Standing Offered router accepted) {server : Server ι ω} (bound : router.server = some server)
    {lines : List Text} {mount : Text} {site : Site ι ω} {routes : List (Route ι ω)} {table : RouteTable}
    {s : ResolutionState ι ω} (hresolve : router.resolveBatch lines mount site = .ok (routes, table) s)
    (hold : server.CanHold routes) :
    Standing Offered
      { router with
        server := some (server.holding routes), cache := s.1,
        registered := router.registered ++ routes.map Route.summary, table }
      (accepted ++ routes) where
  toEntered := h.toEntered.batch hresolve
  listed := by simp [h.listed]
  unbound hserver := by cases hserver
  bound held hheld := by
    cases hheld
    obtain ⟨given, hgiven, hadmits, hroutes, hcan⟩ := h.bound server bound
    refine ⟨given, hgiven, hadmits, by simp [Server.holding, hroutes], Server.canHold_append.2 ⟨hcan, ?_⟩⟩
    intro before route after heq
    have hadmitted := hold before route after heq
    rw [hadmits, hroutes] at hadmitted
    exact hadmitted

theorem Standing.installing (h : Standing Offered router accepted) {server : Server ι ω}
    (bound : router.server = some server) (handler : Handler ω) :
    Standing Offered
      { router with server := some { server with fallback := some handler }, fallbackInstalled := true }
      accepted where
  toEntered := h.toEntered
  listed := h.listed
  unbound hserver := by cases hserver
  bound held hheld := by
    cases hheld
    exact h.bound server bound

theorem perform_standing (h : Standing Offered router accepted) {site site' : Site ι ω} {call : Call ι ρ ω}
    (hoffer : ∀ server, call.offer? = some server → Offered server) (hcall : Succeeds router site call router' site') :
    ∃ routes, Standing Offered router' (accepted ++ routes) := by
  cases hcall with
  | bound server resource hnone =>
    obtain rfl := h.unbound hnone
    exact ⟨[], h.binding (hoffer server rfl) _⟩
  | ignored server resource hbound => exact ⟨[], by simpa using h⟩
  | registered hbatch hbound hresolve hold => exact ⟨_, h.batch hbound hresolve hold⟩
  | fallback handler hbound => exact ⟨[], by simpa using h.installing hbound handler⟩

/-- Whole runs: a router that a run of calls comes to has accepted the routes that it lists. -/
theorem run_standing (h : Standing Offered router accepted) {site site' : Site ι ω} {calls : List (Call ι ρ ω)}
    (hoffer : ∀ call ∈ calls, ∀ server, call.offer? = some server → Offered server)
    (hrun : router.run site calls = (.ok router', site')) :
    ∃ routes, Standing Offered router' (accepted ++ routes) := by
  have hstart : ∃ routes, Standing Offered router (accepted ++ routes) := ⟨[], by simpa using h⟩
  refine run_induction (fun _ router _ => ∃ routes, Standing Offered router (accepted ++ routes)) ?_ hstart hrun
  rintro call hmem - router site router' site' ⟨routes, hstanding⟩ hcall
  obtain ⟨more, hmore⟩ := perform_standing hstanding (hoffer call hmem) hcall
  exact ⟨routes ++ more, by simpa using hmore⟩

end Standing

/-! ## Outcomes -/

/-- the server of the router that calls come to -/
def hostOf (result : Except Halt (Router ι ρ ω) × Site ι ω) : Option (Server ι ω) :=
  match result.1 with
  | .ok router => router.server
  | .error _ => none

/-- why calls came to no router -/
def haltOf (result : Except Halt (Router ι ρ ω) × Site ι ω) : Option Halt :=
  match result.1 with
  | .ok _ => none
  | .error halt => some halt

theorem exists_of_hostOf {result : Except Halt (Router ι ρ ω) × Site ι ω} {test : Server ι ω → Bool}
    (h : (hostOf result).any test = true) :
    ∃ router site server, result = (.ok router, site) ∧ router.server = some server ∧ test server = true := by
  obtain ⟨found, site⟩ := result
  cases found with
  | error halt => simp [hostOf] at h
  | ok router =>
    simp only [hostOf] at h
    cases hserver : router.server with
    | none => rw [hserver] at h; simp at h
    | some server =>
      rw [hserver] at h
      exact ⟨router, site, server, rfl, hserver, by simpa using h⟩

theorem haltOf_eq_some {result : Except Halt (Router ι ρ ω) × Site ι ω} {halt : Halt} (h : haltOf result = some halt) :
    ∃ site, result = (.error halt, site) := by
  obtain ⟨found, site⟩ := result
  cases found with
  | ok router => simp [haltOf] at h
  | error other =>
    obtain rfl : other = halt := by simpa [haltOf] using h
    exact ⟨site, rfl⟩

end Router

/-! ## A small application -/

namespace Sample

/-- any controller with the action `show`, and any middleware, which answers 403 -/
def source : ModuleSource Unit Unit Unit where
  controller _ := .ok
    { init := fun _ => (), actions := .ofList [("show", fun _ inst world => (.bare 200, inst, world))] }
  middleware _ := .ok fun _ _ => .answer (.bare 403)

/-- the lines registered as web routes on the server -/
def calls (server : Server Unit Unit) (lines : List Text) : List (Router.Call Unit Unit Unit) :=
  [.init server none, .web lines]

theorem offered {server : Server Unit Unit} {lines : List Text} :
    ∀ call ∈ calls server lines, ∀ other, call.offer? = some other → other = server := by
  simp [calls, Router.Call.offer?]

def outcome (server : Server Unit Unit) (lines : List Text) : Except Halt (Router Unit Unit Unit) × Site Unit Unit :=
  (Router.empty source {}).run { world := () } (calls server lines)

/-- the lines, and a handler for GET requests that they leave -/
def caughtCalls (server : Server Unit Unit) (lines : List Text) : List (Router.Call Unit Unit Unit) :=
  calls server lines ++ [.catchGetRequests fun _ world => (.bare 200, world)]

/-- three batches around a fallback; two methods share the path of users -/
def batches (server : Server Unit Unit) : List (Router.Call Unit Unit Unit) :=
  caughtCalls server ["get /users/:id Page@show auth"] ++
    [.api ["post /users Users@show"], .route ["put //:id Page@show auth stamp"] "/users"]

end Sample

end Switchboard
