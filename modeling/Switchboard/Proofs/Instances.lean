/-
One instance for each controller.

`Staffed` is the invariant of a stage: its crew has come with the calls so far, the cache shows the roster, and the
registered routes are posted on it. `step_staffed` is the step.

`play_oneInstanceEach`: in every course, every controller is initialised once, with the context of the first
initialisation of the router, and the dispatches that name it share its instance, whatever route they take. Later
initialisations change nothing.
-/
import Switchboard.Proofs.Crews

namespace Switchboard

variable {ι ρ ω : Type}

namespace Step

theorem firstInit?_concat (steps : List (Step ι ρ ω)) (step : Step ι ρ ω) :
    firstInit? (steps ++ [step]) = (firstInit? steps).or step.init? := by
  cases h : step.init? <;> simp [firstInit?, List.findSome?_append, h]

end Step

/-! ## The invariant of a stage -/

/-- A stage after these steps, with the controllers on the roster. -/
structure Staffed (source : ModuleSource ι ρ ω) (settings : RoutingSettings) (first : Site ι ω)
    (steps : List (Step ι ρ ω)) (stage : Stage ι ρ ω) (roster : Roster ι ρ ω) : Prop
    extends Crew source stage.router.context settings.delimiter first stage.site stage.dispatches roster where
  source_eq : stage.router.source = source
  settings_eq : stage.router.settings = settings
  unbound : stage.router.server = none →
    roster = [] ∧ stage.router.registered = [] ∧ stage.site.loads = first.loads
  waiting : stage.router.server = none → stage.halted = false → Step.firstInit? steps = none
  bound : ∀ held, stage.router.server = some held → ∃ server resource,
    Step.firstInit? steps = some (server, resource) ∧ stage.router.context = { server := server.handle, resource }
  cache : stage.halted = false → stage.router.cache.controllers = Roster.bindings first.instances.length roster
  routes : ∀ route ∈ stage.router.routes, route.Posted settings.delimiter first.instances.length roster
  listed : stage.router.routes.map Route.summary = stage.router.registered

section Staffed

variable {source : ModuleSource ι ρ ω} {settings : RoutingSettings} {first : Site ι ω} {steps : List (Step ι ρ ω)}
  {stage : Stage ι ρ ω} {roster : Roster ι ρ ω}

theorem staffed_opening (source : ModuleSource ι ρ ω) (settings : RoutingSettings) (first : Site ι ω) :
    Staffed source settings first [] (Stage.opening source settings first) [] where
  toCrew := Crew.nil rfl rfl
  source_eq := rfl
  settings_eq := rfl
  unbound _ := ⟨rfl, rfl, rfl⟩
  waiting _ _ := rfl
  bound held h := by cases h
  cache _ := rfl
  routes _ h := absurd h List.not_mem_nil
  listed := rfl

/-- A step that binds no server leaves the first initialisation as it was. -/
theorem Staffed.more (h : Staffed source settings first steps stage roster) (step : Step ι ρ ω)
    (hstep : stage.Settled ∨ step.init? = none) : Staffed source settings first (steps ++ [step]) stage roster :=
  { h with
    waiting := fun hserver hlive => by
      rw [Step.firstInit?_concat, h.waiting hserver hlive, Option.none_or]
      rcases hstep with hsettled | hnone
      · simp [Stage.Settled, Router.isInitialised, hserver, hlive] at hsettled
      · exact hnone
    bound := fun held hheld => by
      obtain ⟨server, resource, hinit, hcontext⟩ := h.bound held hheld
      exact ⟨server, resource, by rw [Step.firstInit?_concat, hinit, Option.some_or], hcontext⟩ }

theorem Staffed.atSite (h : Staffed source settings first steps stage roster) {site : Site ι ω}
    (hinstances : site.instances = stage.site.instances) (hintroduced : site.introduced = stage.site.introduced)
    (hloads : site.loads = stage.site.loads) : Staffed source settings first steps { stage with site } roster :=
  { h with
    toCrew := h.toCrew.atSite hinstances hintroduced
    unbound := fun hserver => by
      obtain ⟨hroster, hregistered, hfirst⟩ := h.unbound hserver
      exact ⟨hroster, hregistered, hloads.trans hfirst⟩ }

/-- A call fails, after some controllers were initialised. -/
theorem Staffed.halting (h : Staffed source settings first steps stage roster) (hlive : stage.halted = false)
    {s : ResolutionState ι ω} {hired : Roster ι ρ ω}
    (hhires : Hires stage.router.source stage.router.context (stage.router.cache, stage.site) s hired)
    (hunbound : stage.router.server = none → hired = [] ∧ s.2.loads = stage.site.loads) :
    Staffed source settings first steps { stage with halted := true, site := s.2 } (roster ++ hired) where
  toCrew := (Crew.hire (s := (stage.router.cache, stage.site)) h.toCrew (h.cache hlive) (h.source_eq ▸ hhires)).1
  source_eq := h.source_eq
  settings_eq := h.settings_eq
  unbound hserver := by
    obtain ⟨rfl, hregistered, hfirst⟩ := h.unbound hserver
    obtain ⟨rfl, hloads⟩ := hunbound hserver
    exact ⟨rfl, hregistered, hloads.trans hfirst⟩
  waiting _ hhalted := by cases hhalted
  bound := h.bound
  cache hhalted := by cases hhalted
  routes route hroute := (h.routes route hroute).mono
  listed := h.listed

theorem Router.routes_binding {router : Router ι ρ ω} (hregistered : router.registered = []) (server : Server ι ω)
    (context : Context ρ) : ({ router with server := some server, context } : Router ι ρ ω).routes = [] := by
  simp [Router.routes, hregistered]

theorem Router.routes_installing {router : Router ι ρ ω} {server : Server ι ω} (bound : router.server = some server)
    (handler : Handler ω) :
    ({ router with server := some { server with fallback := some handler }, fallbackInstalled := true } :
      Router ι ρ ω).routes = router.routes := by
  simp only [Router.routes, bound]

/-- The first server is bound before any controller is initialised. -/
theorem Staffed.binding (h : Staffed source settings first steps stage roster) (hlive : stage.halted = false)
    (hnone : stage.router.server = none) (server : Server ι ω) (resource : Option ρ) :
    Staffed source settings first (steps ++ [.call (.init server resource)])
      { stage with
        router := { stage.router with server := some server, context := { server := server.handle, resource } }
        site := stage.site.report (.initialised server.handle.baseUrl) } roster := by
  obtain ⟨rfl, hregistered, hloads⟩ := h.unbound hnone
  have hroutes := Router.routes_binding hregistered server { server := server.handle, resource }
  exact
    { toCrew := h.toCrew.recontext.atSite rfl (stage.site.introduced_report_of_none rfl)
      source_eq := h.source_eq
      settings_eq := h.settings_eq
      unbound := fun hserver => by cases hserver
      waiting := fun hserver => by cases hserver
      bound := fun held _ => ⟨server, resource, by rw [Step.firstInit?_concat, h.waiting hnone hlive]; rfl, rfl⟩
      cache := h.cache
      routes := fun route hroute => absurd (hroutes ▸ hroute) List.not_mem_nil
      listed := by rw [hroutes, hregistered]; rfl }

theorem Router.routes_holding {router : Router ι ρ ω} {server : Server ι ω} (bound : router.server = some server)
    (routes : List (Route ι ω)) (cache : ModuleCache ι ω) (table : RouteTable) :
    ({ router with
        server := some (server.holding routes), cache, registered := router.registered ++ routes.map Route.summary,
        table } : Router ι ρ ω).routes = router.routes ++ routes := by
  simp only [Router.routes, bound, Server.holding, List.length_append, List.length_map, Nat.add_sub_add_right]
  exact List.drop_append_of_le_length (Nat.sub_le _ _)

/-- A batch is registered: its routes are posted on the roster, which it may have made longer. -/
theorem Staffed.batch (h : Staffed source settings first steps stage roster) (hlive : stage.halted = false)
    {server : Server ι ω} (bound : stage.router.server = some server) {lines : List Text} {mount : Text}
    {routes : List (Route ι ω)} {table : RouteTable} {s : ResolutionState ι ω}
    (hresolve : stage.router.resolveBatch lines mount stage.site = .ok (routes, table) s) (event : Event)
    (hevent : event.introduced? = none) :
    ∃ hired, Staffed source settings first steps
      { stage with
        router := { stage.router with
          server := some (server.holding routes), cache := s.1,
          registered := stage.router.registered ++ routes.map Route.summary, table }
        site := (s.2.handing routes).report event } (roster ++ hired) := by
  obtain ⟨⟨hired, hhires⟩, hbound⟩ := Router.resolveBatch_ok_hires hresolve
  obtain ⟨hcrew, hcache⟩ :=
    Crew.hire (s := (stage.router.cache, stage.site)) h.toCrew (h.cache hlive) (h.source_eq ▸ hhires)
  have hroutes := Router.routes_holding bound routes s.1 table
  have hintroduced : ((s.2.handing routes).report event).introduced = s.2.introduced := by
    rw [Site.introduced_report_of_none _ hevent, Site.introduced_handing]
  refine ⟨hired,
    { toCrew := hcrew.atSite rfl hintroduced
      source_eq := h.source_eq
      settings_eq := h.settings_eq
      unbound := fun hserver => by cases hserver
      waiting := fun hserver => by cases hserver
      bound := fun held _ => h.bound server bound
      cache := fun _ => hcache
      routes := fun route hroute => ?_
      listed := by rw [hroutes, List.map_append, h.listed] }⟩
  rw [hroutes] at hroute
  rcases List.mem_append.1 hroute with hroute | hroute
  · exact (h.routes route hroute).mono
  · exact h.settings_eq ▸ (hbound route hroute).posted hcache

theorem Staffed.installing (h : Staffed source settings first steps stage roster) {server : Server ι ω}
    (bound : stage.router.server = some server) (handler : Handler ω) :
    Staffed source settings first steps
      { stage with
        router := { stage.router with
          server := some { server with fallback := some handler }, fallbackInstalled := true } }
      roster := by
  have hroutes := Router.routes_installing bound handler
  exact
    { h with
      unbound := fun hserver => by cases hserver
      waiting := fun hserver => by cases hserver
      bound := fun held _ => h.bound server bound
      routes := fun route hroute => h.routes route (hroutes ▸ hroute)
      listed := hroutes ▸ h.listed }

theorem Staffed.succeeds (h : Staffed source settings first steps stage roster) (hlive : stage.halted = false)
    {call : Router.Call ι ρ ω} {next : Router ι ρ ω} {site : Site ι ω}
    (hcall : Router.Succeeds stage.router stage.site call next site) :
    ∃ roster', Staffed source settings first (steps ++ [.call call]) { stage with router := next, site } roster' := by
  cases hcall with
  | bound server resource hnone => exact ⟨roster, h.binding hlive hnone server resource⟩
  | ignored server resource hbound =>
    have hmore := h.more (.call (.init server resource)) (Or.inl (Or.inr hbound))
    exact ⟨roster, hmore.atSite rfl (stage.site.introduced_report_of_none rfl) rfl⟩
  | registered hbatch hbound hresolve hold =>
    obtain ⟨hired, hnext⟩ := h.batch hlive hbound hresolve (.batchRegistered _ _) rfl
    exact ⟨roster ++ hired, hnext.more (.call call) (Or.inl (Or.inr rfl))⟩
  | fallback handler hbound =>
    have hmore := (h.installing hbound handler).more (.call (.catchGetRequests handler)) (Or.inl (Or.inr rfl))
    exact ⟨roster, hmore.atSite rfl (stage.site.introduced_report_of_none rfl) rfl⟩

theorem Staffed.halts (h : Staffed source settings first steps stage roster) (hlive : stage.halted = false)
    {call : Router.Call ι ρ ω} {halt : Halt} {site : Site ι ω}
    (hcall : Router.Halts stage.router stage.site call halt site) :
    ∃ roster', Staffed source settings first (steps ++ [.call call]) { stage with halted := true, site } roster' := by
  cases hcall with
  | early event hnone hevent =>
    have hquiet : event.introduced? = none := by
      rcases List.mem_pair.1 hevent with rfl | rfl <;> rfl
    have hhalted := h.halting hlive (s := (stage.router.cache, stage.site.report event))
      (.of_eq rfl rfl (stage.site.introduced_report_of_none hquiet)) fun _ => ⟨rfl, rfl⟩
    exact ⟨roster ++ [], hhalted.more (.call call) (Or.inl (Or.inl rfl))⟩
  | refused hbatch hbound hresolve =>
    obtain ⟨hired, hhires⟩ := Router.resolveBatch_error_hires hresolve
    have hhalted := h.halting hlive hhires fun hnone => by rw [hbound] at hnone; cases hnone
    exact ⟨roster ++ hired, hhalted.more (.call call) (Or.inl (Or.inl rfl))⟩
  | unhostable hbatch hbound hresolve hroutes =>
    obtain ⟨⟨hired, hhires⟩, -⟩ := Router.resolveBatch_ok_hires hresolve
    have hhalted := h.halting hlive hhires fun hnone => by rw [hbound] at hnone; cases hnone
    have hmore := hhalted.more (.call call) (Or.inl (Or.inl rfl))
    exact ⟨roster ++ hired, hmore.atSite rfl (Site.introduced_handing _ _) rfl⟩

theorem Staffed.call (h : Staffed source settings first steps stage roster) (call : Router.Call ι ρ ω) :
    ∃ roster', Staffed source settings first (steps ++ [.call call]) (stage.call call) roster' := by
  rcases stage.call_cases call with
    ⟨hhalted, hsame⟩ | ⟨router, site, hlive, hcall, hnext⟩ | ⟨halt, site, hlive, hcall, hnext⟩
  · rw [hsame]
    exact ⟨roster, h.more (.call call) (Or.inl (Or.inl hhalted))⟩
  · rw [hnext]
    exact h.succeeds hlive (Router.perform_eq_ok hcall)
  · rw [hnext]
    exact h.halts hlive (Router.perform_eq_error hcall)

theorem step_staffed (h : Staffed source settings first steps stage roster) (step : Step ι ρ ω) :
    ∃ roster', Staffed source settings first (steps ++ [step]) (stage.step step) roster' := by
  cases step with
  | call call => exact h.call call
  | dispatch number request =>
    have hmore := h.more (.dispatch number request) (Or.inr rfl)
    rw [Stage.step]
    cases hroute : stage.router.routes[number]? with
    | none => exact ⟨roster, hmore⟩
    | some route =>
      have hposted := h.routes route (List.mem_of_getElem? hroute)
      refine ⟨roster, { hmore with toCrew := hmore.toCrew.dispatch hposted request, unbound := fun hserver => ?_ }⟩
      -- without a server there is no route
      simp only [Stage.dispatch] at hserver
      simp [Router.routes, hserver] at hroute
  | fallback request =>
    have hmore := h.more (.fallback request) (Or.inr rfl)
    rw [Stage.step]
    cases stage.router.server.bind (·.fallback) with
    | none => exact ⟨roster, hmore⟩
    | some handler => exact ⟨roster, hmore.atSite rfl rfl rfl⟩

theorem play_staffed (h : Staffed source settings first steps stage roster) (more : List (Step ι ρ ω)) :
    ∃ roster', Staffed source settings first (steps ++ more) (stage.play more) roster' := by
  induction more generalizing steps stage roster with
  | nil =>
    rw [List.append_nil]
    exact ⟨roster, h⟩
  | cons step more ih =>
    obtain ⟨next, hnext⟩ := step_staffed h step
    rw [List.append_cons]
    exact ih hnext

/-- before the first initialisation there is no server, and nothing is loaded -/
theorem Staffed.early (h : Staffed source settings first steps stage roster) (hinit : Step.firstInit? steps = none) :
    roster = [] ∧ stage.site.loads = first.loads := by
  cases hserver : stage.router.server with
  | none =>
    obtain ⟨hroster, -, hloads⟩ := h.unbound hserver
    exact ⟨hroster, hloads⟩
  | some held =>
    obtain ⟨server, resource, hsome, -⟩ := h.bound held hserver
    rw [hinit] at hsome
    cases hsome

/-- what became of the controllers on the roster, with the context that they were initialised in -/
theorem Staffed.initialised (h : Staffed source settings first steps stage roster) (i : Nat) (name : Text)
    (loaded : Controller ι ρ ω) (hentry : roster[i]? = some (name, loaded)) :
    source.controller name = .ok loaded ∧ ∃ server resource inst, Step.firstInit? steps = some (server, resource) ∧
      stage.site.instances[first.instances.length + i]? = some inst ∧
      Lineage loaded (loaded.init { server := server.handle, resource })
        (dispatchesTo settings.delimiter name stage.dispatches) inst := by
  refine ⟨h.loaded _ (List.mem_of_getElem? hentry), ?_⟩
  cases hserver : stage.router.server with
  | none =>
    obtain ⟨rfl, -, -⟩ := h.unbound hserver
    simp at hentry
  | some held =>
    obtain ⟨server, resource, hinit, hcontext⟩ := h.bound held hserver
    obtain ⟨inst, hinst, hlineage⟩ := h.instances i name loaded hentry
    exact ⟨server, resource, inst, hinit, hinst, hcontext ▸ hlineage⟩

end Staffed

/-! ## One instance each -/

/-- What has come of these steps: each controller on the roster has one instance, and its name stands for it. -/
structure OneInstanceEach (source : ModuleSource ι ρ ω) (settings : RoutingSettings) (first : Site ι ω)
    (steps : List (Step ι ρ ω)) (stage : Stage ι ρ ω) (roster : Roster ι ρ ω) : Prop where
  /-- before the first initialisation of the router nothing is loaded -/
  early : Step.firstInit? steps = none → roster = [] ∧ stage.site.loads = first.loads
  /-- every controller is initialised once -/
  once : (roster.map (·.1)).Nodup
  introduced : stage.site.introduced = first.introduced ++ roster.map (·.1)
  count : stage.site.instances.length = first.instances.length + roster.length
  /-- Every controller is initialised with the context of the first initialisation of the router, and its instance is
  what the dispatches that name it have made of it, one after the other. -/
  instances : ∀ i name loaded, roster[i]? = some (name, loaded) → source.controller name = .ok loaded ∧
    ∃ server resource inst, Step.firstInit? steps = some (server, resource) ∧
      stage.site.instances[first.instances.length + i]? = some inst ∧
      Lineage loaded (loaded.init { server := server.handle, resource })
        (dispatchesTo settings.delimiter name stage.dispatches) inst
  /-- later initialisations change nothing -/
  later : stage.Alike ((Stage.opening source settings first).play (Step.initOnce steps))
  /-- the registered routes are those that are listed, and each runs an action of a controller on the roster -/
  listed : stage.router.routes.map Route.summary = stage.router.registered
  routes : ∀ route ∈ stage.router.routes, route.Posted settings.delimiter first.instances.length roster
  /-- routes share an instance exactly if they name the same controller -/
  shared : ∀ route ∈ stage.router.routes, ∀ other ∈ stage.router.routes,
    route.slot = other.slot ↔ route.controller? settings.delimiter = other.controller? settings.delimiter
  /-- every dispatch names a controller on the roster, and has found its instance -/
  found : ∀ dispatch ∈ stage.dispatches,
    dispatch.route.Posted settings.delimiter first.instances.length roster ∧ dispatch.found.isSome = true
  /-- a counter in the instances of a controller numbers the dispatches that name it -/
  numbered : ∀ name loaded count reading, source.controller name = .ok loaded → Counts count reading loaded →
    (dispatchesTo settings.delimiter name stage.dispatches).map (reading ·.response) =
      List.range' 1 (dispatchesTo settings.delimiter name stage.dispatches).length

/-- **One instance for each controller.** Whatever calls and dispatches, in whatever order, and whether a call fails or
not: every controller has one instance, made once and with the first context, and every dispatch that names the
controller finds that instance as the one before has left it. -/
theorem play_oneInstanceEach (source : ModuleSource ι ρ ω) (settings : RoutingSettings) (first : Site ι ω)
    (steps : List (Step ι ρ ω)) :
    ∃ roster, OneInstanceEach source settings first steps ((Stage.opening source settings first).play steps)
      roster := by
  obtain ⟨roster, h⟩ := play_staffed (staffed_opening source settings first) steps
  rw [List.nil_append] at h
  exact ⟨roster,
    { early := h.early
      once := h.once
      introduced := h.introduced
      count := h.count
      instances := h.initialised
      later := Stage.play_initOnce _ steps
      listed := h.listed
      routes := h.routes
      shared := fun route hroute other hother => (h.routes route hroute).slot_eq_iff h.once (h.routes other hother)
      found := fun dispatch hdispatch => ⟨h.posted dispatch hdispatch, h.found dispatch hdispatch⟩
      numbered := fun name loaded count reading hload hcounts => h.numbered hload hcounts }⟩

namespace Sample

/-- any controller, which counts its calls and answers with the number of the call as status -/
def counter : Controller Nat Unit Unit :=
  { init := fun _ => 0, actions := .ofList [("show", fun _ calls world => (.bare (calls + 1), calls + 1, world))] }

/-- any controller counts its calls, and any middleware passes requests on -/
def counting : ModuleSource Nat Unit Unit where
  controller _ := .ok counter
  middleware _ := .ok fun _ request => .forward request id

theorem counts_counter : Counts id (·.status) counter where
  start _ := rfl
  action name action h request inst world := by
    have hmem := List.lookup_eq_some_iff.1 h
    obtain ⟨before, after, heq, -⟩ := hmem
    have hentry : (name, action) ∈ counter.actions.entries := heq ▸ List.mem_append_right _ List.mem_cons_self
    simp only [counter, Actions.entries_ofList, List.reverse_singleton, List.mem_singleton, Prod.mk.injEq] at hentry
    obtain ⟨-, rfl⟩ := hentry
    exact ⟨rfl, rfl⟩

/-- Two routes to one controller, in two batches around a second initialisation, and one to another. -/
def turns : List (Step Nat Unit Unit) :=
  let request := Request.receive "GET" "/" [] ""
  [.call (.init (.recording {}) none), .call (.web ["get /a Page@show", "post /b Users@show"]), .dispatch 0 request,
    .call (.init (.recording { baseUrl := "http://x" }) (some ())), .call (.api ["put /c Page@show"]),
    .dispatch 1 request, .dispatch 2 request, .dispatch 0 request, .dispatch 1 request]

def turned : Stage Nat Unit Unit :=
  (Stage.opening counting {} { world := () }).play turns

end Sample

/-- The pages were called three times, by two routes, and the users twice. -/
theorem play_oneInstanceEach_turns :
    ∃ roster, OneInstanceEach Sample.counting {} { world := () } Sample.turns Sample.turned roster ∧
      Sample.turned.dispatches.map (·.response.status) = [1, 1, 2, 3, 2] ∧
      (dispatchesTo "@" "Page" Sample.turned.dispatches).map (·.response.status) = List.range' 1 3 := by
  obtain ⟨roster, h⟩ := play_oneInstanceEach Sample.counting {} { world := () } Sample.turns
  refine ⟨roster, h, by decide +kernel, ?_⟩
  have hlength : (dispatchesTo "@" "Page" Sample.turned.dispatches).length = 3 := by decide +kernel
  rw [← hlength]
  exact h.numbered "Page" Sample.counter id (·.status) rfl Sample.counts_counter

end Switchboard
