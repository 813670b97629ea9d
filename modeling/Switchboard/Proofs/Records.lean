/-
What calls leave in the records of the site.

Every event has its kind: a load that succeeded (`Event.load?`), a route handed to the server (`Event.registered?`), or
a refusal (`Event.refusal?`). The refusals are the events of level error (`level_eq_error_iff`).

- `Stocked`: the loads that the journal reports are those among the loads asked of the source that succeed, each is
  reported once, and the cache holds their modules and no others. Resolving keeps it, refused or not.
- `perform_blames`: a call that is refused logs one error, which tells the refusal. Any other call logs none.
- `perform_hands`: for each route that a call hands to the server there is one report and one step of a counter, and
  for nothing else.
-/
import Switchboard.Proofs.Runs

namespace Switchboard

variable {ι ρ ω : Type}

/-! ## Kinds of events -/

namespace Event

def load? : Event → Option Load
  | controllerLoaded name => some (.controller name)
  | middlewareLoaded name => some (.middleware name)
  | _ => none

def registered? : Event → Option RouteSummary
  | routeRegistered route => some route
  | _ => none

def refusal? : Event → Option RouteError
  | routesTooEarly | fallbackTooEarly => some .notInitialized
  | lineRefused _ _ e => some e
  | _ => none

def error? (event : Event) : Option Event :=
  if event.level = .error then some event else none

/-- The events of level error are those that report a refusal. -/
theorem level_eq_error_iff (event : Event) : event.level = .error ↔ event.refusal?.isSome = true := by
  cases event <;> simp [level, refusal?]

end Event

namespace Site

def loaded (site : Site ι ω) : List Load :=
  site.reports Event.load?

def errors (site : Site ι ω) : List Event :=
  site.reports Event.error?

end Site

/-! ## Loads -/

def ModuleSource.has (source : ModuleSource ι ρ ω) : Load → Bool
  | .controller name => (source.controller name).isOk
  | .middleware name => (source.middleware name).isOk

namespace ModuleSource

variable {source : ModuleSource ι ρ ω} {name : Text}

theorem has_controller {loaded : Controller ι ρ ω} (h : source.controller name = .ok loaded) :
    source.has (.controller name) = true := by
  rw [has, h]
  rfl

theorem has_middleware {loaded : Middleware} (h : source.middleware name = .ok loaded) :
    source.has (.middleware name) = true := by
  rw [has, h]
  rfl

theorem not_has_controller {e : RouteError} (h : source.controller name = .error e) :
    source.has (.controller name) = false := by
  rw [has, h]
  rfl

theorem not_has_middleware {e : RouteError} (h : source.middleware name = .error e) :
    source.has (.middleware name) = false := by
  rw [has, h]
  rfl

end ModuleSource

namespace ModuleCache

def holds (cache : ModuleCache ι ω) : Load → Bool
  | .controller name => (cache.controller? name).isSome
  | .middleware name => (cache.middleware? name).isSome

@[simp] theorem holds_controller (cache : ModuleCache ι ω) (name : Text) :
    cache.holds (.controller name) = (cache.controller? name).isSome := rfl

@[simp] theorem holds_middleware (cache : ModuleCache ι ω) (name : Text) :
    cache.holds (.middleware name) = (cache.middleware? name).isSome := rfl

theorem holds_addController (cache : ModuleCache ι ω) (binding : ControllerBinding ι ω) (load : Load) :
    { cache with controllers := cache.controllers ++ [binding] }.holds load = true ↔
      cache.holds load = true ∨ load = .controller binding.name := by
  cases load with
  | controller name =>
    by_cases h : binding.name = name
    · simp [h]
    · simp [h, Ne.symm h]
  | middleware name => simp

theorem holds_addMiddleware (cache : ModuleCache ι ω) (binding : MiddlewareBinding) (load : Load) :
    { cache with middlewares := cache.middlewares ++ [binding] }.holds load = true ↔
      cache.holds load = true ∨ load = .middleware binding.name := by
  cases load with
  | controller name => simp
  | middleware name =>
    by_cases h : binding.name = name
    · simp [h]
    · simp [h, Ne.symm h]

end ModuleCache

/-- The loads that the journal reports are those asked of the source that succeed, and none is reported twice. -/
structure Site.LoadsOnce (source : ModuleSource ι ρ ω) (site : Site ι ω) : Prop where
  loaded : site.loaded = site.loads.filter source.has
  once : site.loaded.Nodup

/-- The cache holds what the journal reports to be loaded, and nothing else. -/
structure Stocked (source : ModuleSource ι ρ ω) (s : ResolutionState ι ω) : Prop extends s.2.LoadsOnce source where
  held : ∀ load, load ∈ s.2.loaded ↔ s.1.holds load = true

section Stocked

variable {source : ModuleSource ι ρ ω} {cache cache' : ModuleCache ι ω} {site site' : Site ι ω} {load : Load}

theorem Site.LoadsOnce.of_eq (h : site.LoadsOnce source) (hloads : site'.loads = site.loads)
    (hloaded : site'.loaded = site.loaded) : site'.LoadsOnce source where
  loaded := by rw [hloaded, hloads, h.loaded]
  once := hloaded ▸ h.once

theorem Stocked.of_eq (h : Stocked source (cache, site)) (hloads : site'.loads = site.loads)
    (hloaded : site'.loaded = site.loaded) : Stocked source (cache, site') where
  toLoadsOnce := h.toLoadsOnce.of_eq hloads hloaded
  held load := hloaded ▸ h.held load

/-- A load that fails is not reported. -/
theorem Stocked.failing (h : Stocked source (cache, site)) (hhas : source.has load = false) :
    Stocked source (cache, site.noteLoad load) where
  loaded := by
    have hkept : (site.noteLoad load).loads.filter source.has = site.loads.filter source.has := by
      simp [Site.noteLoad, hhas]
    rw [hkept]
    exact h.loaded
  once := h.once
  held := h.held

/-- A load that succeeds is reported, and what it gave is cached. It was not reported before, as it was not cached. -/
theorem Stocked.loading (h : Stocked source (cache, site)) (hhas : source.has load = true)
    (habsent : cache.holds load = false)
    (hholds : ∀ other, cache'.holds other = true ↔ cache.holds other = true ∨ other = load)
    (hloads : site'.loads = site.loads ++ [load]) (hloaded : site'.loaded = site.loaded ++ [load]) :
    Stocked source (cache', site') where
  loaded := by
    have hkept : site'.loads.filter source.has = site.loads.filter source.has ++ [load] := by
      simp [hloads, hhas]
    rw [hkept, hloaded, h.loaded]
  once := by
    have hnew : load ∉ site.loaded := by
      intro hmem
      rw [(h.held load).1 hmem] at habsent
      cases habsent
    rw [hloaded, List.nodup_append]
    refine ⟨h.once, List.nodup_singleton load, ?_⟩
    intro other hother last hlast heq
    rw [List.mem_singleton.1 hlast] at heq
    exact hnew (heq ▸ hother)
  held other := by
    rw [hholds other, hloaded, List.mem_append, List.mem_singleton, h.held other]

end Stocked

/-- Every part of a resolution keeps the cache and the reported loads together. -/
theorem Resolution.keptFor_stocked (source : ModuleSource ι ρ ω) (context : Context ρ) :
    Resolution.KeptFor source context fun s s' => Stocked source s → Stocked source s' where
  refl s h := h
  trans s t u hst htu h := htu (hst h)
  report cache site number line e h := h.of_eq rfl (site.reports_report_of_none rfl)
  controller name := by
    rintro ⟨cache, site⟩
    cases hc : cache.controller? name with
    | some binding => exact movesAt_ok (ModuleCache.controller_hit hc context _ site) id
    | none =>
      have habsent : cache.holds (.controller name) = false := by simp [hc]
      cases hload : source.controller name with
      | error e =>
        exact movesAt_error (ModuleCache.controller_refused hc context e site) fun h =>
          h.failing (ModuleSource.not_has_controller hload)
      | ok loaded =>
        refine movesAt_ok (ModuleCache.controller_loaded hc context loaded site) fun h => ?_
        apply h.loading _ habsent (cache.holds_addController _) rfl
        · exact Site.reports_report Event.load? _ _
        · exact ModuleSource.has_controller hload
  middleware name := by
    rintro ⟨cache, site⟩
    cases hc : cache.middleware? name with
    | some binding => exact movesAt_ok (ModuleCache.middleware_hit hc _ site) id
    | none =>
      have habsent : cache.holds (.middleware name) = false := by simp [hc]
      cases hload : source.middleware name with
      | error e =>
        exact movesAt_error (ModuleCache.middleware_refused hc e site) fun h =>
          h.failing (ModuleSource.not_has_middleware hload)
      | ok loaded =>
        refine movesAt_ok (ModuleCache.middleware_loaded hc loaded site) fun h => ?_
        apply h.loading _ habsent (cache.holds_addMiddleware _) rfl
        · exact Site.reports_report Event.load? _ _
        · exact ModuleSource.has_middleware hload

/-! ## Refusals -/

namespace Router

/-- resolving a line logs no error, whether the line is refused or not -/
theorem resolveInto_errors (router : Router ι ρ ω) (mount : Text) (table : RouteTable) (line : Text) :
    Resolution.Moves (fun s s' => s'.2.errors = s.2.errors) (router.resolveInto mount table line) :=
  ((Site.reports_keptByLoads (fun _ => rfl) fun _ => rfl).loadsKeep router.source router.context).resolveInto
    mount table line

theorem resolveAll_ok_errors {router : Router ι ρ ω} {mount : Text} {table : RouteTable} {number : Nat}
    {lines : List Text} {s s' : ResolutionState ι ω} {found : List (Route ι ω) × RouteTable}
    (h : router.resolveAll mount table number lines s = .ok found s') : s'.2.errors = s.2.errors := by
  induction lines generalizing table number s found with
  | nil =>
    obtain ⟨-, rfl⟩ := Resolution.pure_eq_ok.1 h
    rfl
  | cons line lines ih =>
    obtain ⟨entered, t, hline, h⟩ := Resolution.bind_eq_ok.1 h
    obtain ⟨rest, u, hrest, h⟩ := Resolution.bind_eq_ok.1 h
    obtain ⟨-, rfl⟩ := Resolution.pure_eq_ok.1 h
    have hfirst := (router.resolveInto_errors mount table line s).1 entered t (reporting_eq_ok hline)
    exact (ih hrest).trans hfirst

/-- A batch that is refused logs one error, which is that of the refused line. -/
theorem resolveAll_error_errors {router : Router ι ρ ω} {mount : Text} {table : RouteTable} {number : Nat}
    {lines : List Text} {s s' : ResolutionState ι ω} {e : RouteError}
    (h : router.resolveAll mount table number lines s = .error e s') :
    ∃ refused line, s'.2.errors = s.2.errors ++ [.lineRefused refused line e] := by
  induction lines generalizing table number s with
  | nil => cases h
  | cons line lines ih =>
    have hinto := router.resolveInto_errors mount table line s
    rcases Resolution.bind_eq_error.1 h with h | ⟨entered, t, hline, h⟩
    · obtain ⟨t, hrefused, rfl⟩ := reporting_eq_error h
      have hreport : (t.2.report (.lineRefused number line e)).errors = t.2.errors ++ [.lineRefused number line e] :=
        Site.reports_report Event.error? _ _
      exact ⟨number, line, hreport.trans (by rw [hinto.2 e t hrefused])⟩
    · have hfirst := hinto.1 entered t (reporting_eq_ok hline)
      rcases Resolution.bind_eq_error.1 h with h | ⟨rest, u, -, h⟩
      · obtain ⟨refused, line', hrest⟩ := ih h
        exact ⟨refused, line', hfirst ▸ hrest⟩
      · cases h

end Router

/-- What the call logged: one error that tells the refusal, if it was refused, and none otherwise. -/
def Site.Blames (site : Site ι ω) : Except Halt (Router ι ρ ω) × Site ι ω → Prop
  | (.ok _, site') => site'.errors = site.errors
  | (.error (.refused e), site') => ∃ event, event.refusal? = some e ∧ site'.errors = site.errors ++ [event]
  | (.error (.unhostable _), site') => site'.errors = site.errors

namespace Router

variable {router router' : Router ι ρ ω} {site site' : Site ι ω} {call : Call ι ρ ω} {halt : Halt}

@[simp] theorem opening_errors (router : Router ι ρ ω) (mount : Text) (site : Site ι ω) :
    (router.opening mount site).errors = site.errors :=
  router.opening_reports (fun _ => rfl) mount site

theorem Succeeds.errors_eq (h : Succeeds router site call router' site') : site'.errors = site.errors := by
  cases h with
  | bound server resource hnone => exact site.reports_report_of_none rfl
  | ignored server resource hbound => exact site.reports_report_of_none rfl
  | registered hbatch hbound hresolve hold =>
    rename_i lines mount server routes table s
    calc ((s.2.handing routes).report (.batchRegistered mount routes.length)).errors
      _ = (s.2.handing routes).errors := Site.reports_report_of_none _ rfl
      _ = s.2.errors := Site.reports_handing_of_none (fun _ => rfl) _ _
      _ = (router.opening mount site).errors := resolveAll_ok_errors hresolve
      _ = site.errors := router.opening_errors mount site
  | fallback handler hbound => exact site.reports_report_of_none rfl

theorem Halts.blames (h : Halts router site call halt site') :
    site.Blames ((.error halt : Except Halt (Router ι ρ ω)), site') := by
  cases h with
  | early event hnone hevent =>
    rcases List.mem_pair.1 hevent with rfl | rfl
    · exact ⟨.routesTooEarly, rfl, Site.reports_report Event.error? _ _⟩
    · exact ⟨.fallbackTooEarly, rfl, Site.reports_report Event.error? _ _⟩
  | refused hbatch hbound hresolve =>
    obtain ⟨number, line, herrors⟩ := resolveAll_error_errors hresolve
    exact ⟨.lineRefused number line _, rfl, by rw [herrors, opening_errors]⟩
  | unhostable hbatch hbound hresolve hroutes =>
    rename_i lines mount server routes table s before route after
    calc (s.2.handing (before ++ [route])).errors
      _ = s.2.errors := Site.reports_handing_of_none (fun _ => rfl) _ _
      _ = (router.opening mount site).errors := resolveAll_ok_errors hresolve
      _ = site.errors := router.opening_errors mount site

/-- **One error for each refusal.** A call that is refused logs one error, which tells the refusal; any other call logs
none. -/
theorem perform_blames (router : Router ι ρ ω) (site : Site ι ω) (call : Call ι ρ ω) :
    site.Blames (router.perform site call) := by
  cases hcall : router.perform site call with
  | mk result site' =>
    cases result with
    | ok router' => exact (perform_eq_ok hcall).errors_eq
    | error halt => exact (perform_eq_error hcall).blames

end Router

/-! ## Routes handed to the server -/

/-- From one site to the other these routes were handed to the server: each is reported and counted once. -/
structure Site.Hands (site site' : Site ι ω) (routes : List (Route ι ω)) : Prop where
  registrations : site'.registrations = site.registrations ++ routes.map Route.summary
  reported : site'.reports Event.registered? = site.reports Event.registered? ++ routes.map Route.summary
  measures : site'.measures = site.measures ++ routes.map fun route => .registered route.method

section Hands

variable {site site' : Site ι ω} {routes : List (Route ι ω)}

theorem Site.Hands.of_quiet (hquiet : site.Quiet site')
    (hreported : site'.reports Event.registered? = site.reports Event.registered?) : site.Hands site' [] where
  registrations := by simp [hquiet.registrations]
  reported := by simp [hreported]
  measures := by simp [hquiet.measures]

theorem Site.Hands.report (h : site.Hands site' routes) {event : Event} (hevent : event.registered? = none) :
    site.Hands (site'.report event) routes where
  registrations := h.registrations
  reported := (site'.reports_report_of_none hevent).trans h.reported
  measures := h.measures

theorem Site.Hands.refl (site : Site ι ω) : site.Hands site [] :=
  .of_quiet ⟨rfl, rfl⟩ rfl

theorem Site.Hands.handing (h : site.Hands site' []) (routes : List (Route ι ω)) :
    site.Hands (site'.handing routes) routes where
  registrations := by simp [h.registrations]
  reported := by
    rw [Site.reports_handing some (fun _ => rfl), h.reported]
    simp
  measures := by simp [h.measures]

end Hands

namespace Router

variable {router router' : Router ι ρ ω} {site site' : Site ι ω} {call : Call ι ρ ω} {halt : Halt}

/-- A batch hands nothing to the server while it is resolved. -/
theorem resolveBatch_hands (router : Router ι ρ ω) (lines : List Text) (mount : Text) (site : Site ι ω) :
    (∀ found s, router.resolveBatch lines mount site = .ok found s → site.Hands s.2 []) ∧
      ∀ e s, router.resolveBatch lines mount site = .error e s → site.Hands s.2 [] := by
  have hloads : Site.KeptByLoads fun site site' : Site ι ω =>
      site'.reports Event.registered? = site.reports Event.registered? :=
    Site.reports_keptByLoads (fun _ => rfl) fun _ => rfl
  have hkept : Resolution.KeptFor router.source router.context fun s s' =>
      s'.2.reports Event.registered? = s.2.reports Event.registered? :=
    { hloads.loadsKeep router.source router.context with
      report := fun cache site number line e => site.reports_report_of_none rfl }
  have hmoves := hkept.resolveAll mount router.table 1 lines (router.cache, router.opening mount site)
  have hopening : (router.opening mount site).reports Event.registered? = site.reports Event.registered? :=
    router.opening_reports (fun _ => rfl) mount site
  have hquiet := router.resolveBatch_quiet lines mount site
  constructor
  · intro found s h
    exact .of_quiet (hquiet.1 found s h) ((hmoves.1 found s h).trans hopening)
  · intro e s h
    exact .of_quiet (hquiet.2 e s h) ((hmoves.2 e s h).trans hopening)

/-- A call that succeeds hands to the server the routes that the router lists from then on. -/
theorem Succeeds.hands (h : Succeeds router site call router' site') :
    ∃ routes, site.Hands site' routes ∧ router'.registered = router.registered ++ routes.map Route.summary := by
  cases h with
  | bound server resource hnone => exact ⟨[], (Site.Hands.refl site).report rfl, by simp⟩
  | ignored server resource hbound => exact ⟨[], (Site.Hands.refl site).report rfl, by simp⟩
  | registered hbatch hbound hresolve hold =>
    have hresolved := (router.resolveBatch_hands _ _ site).1 _ _ hresolve
    exact ⟨_, (hresolved.handing _).report rfl, rfl⟩
  | fallback handler hbound => exact ⟨[], (Site.Hands.refl site).report rfl, by simp⟩

/-- A call that is refused hands nothing to the server; one that the server does not survive hands some routes. -/
theorem Halts.hands (h : Halts router site call halt site') :
    ∃ routes, site.Hands site' routes ∧ ∀ e, halt = .refused e → routes = [] := by
  cases h with
  | early event hnone hevent =>
    have hreported : event.registered? = none := by
      rcases List.mem_pair.1 hevent with rfl | rfl
      · rfl
      · rfl
    exact ⟨[], (Site.Hands.refl site).report hreported, fun _ _ => rfl⟩
  | refused hbatch hbound hresolve =>
    exact ⟨[], (router.resolveBatch_hands _ _ site).2 _ _ hresolve, fun _ _ => rfl⟩
  | unhostable hbatch hbound hresolve hroutes =>
    have hresolved := (router.resolveBatch_hands _ _ site).1 _ _ hresolve
    refine ⟨_, hresolved.handing _, fun e he => ?_⟩
    cases he

/-! ## Loads of a call -/

theorem opening_stocked (mount : Text) (h : Stocked router.source (router.cache, site)) :
    Stocked router.source (router.cache, router.opening mount site) := by
  have hloads : (router.opening mount site).loads = site.loads := by
    unfold opening
    split_ifs
    · rfl
    · rfl
  exact h.of_eq hloads (router.opening_reports (fun _ => rfl) mount site)

theorem Succeeds.source_eq (h : Succeeds router site call router' site') : router'.source = router.source := by
  cases h with
  | bound server resource hnone => rfl
  | ignored server resource hbound => rfl
  | registered hbatch hbound hresolve hold => rfl
  | fallback handler hbound => rfl

theorem Succeeds.stocked (h : Succeeds router site call router' site')
    (hstocked : Stocked router.source (router.cache, site)) : Stocked router.source (router'.cache, site') := by
  cases h with
  | bound server resource hnone => exact hstocked.of_eq rfl (site.reports_report_of_none rfl)
  | ignored server resource hbound => exact hstocked.of_eq rfl (site.reports_report_of_none rfl)
  | registered hbatch hbound hresolve hold =>
    rename_i lines mount server routes table s
    have hkept := Resolution.keptFor_stocked router.source router.context
    have hresolved := (hkept.resolveAll mount router.table 1 lines _).1 _ _ hresolve (opening_stocked mount hstocked)
    have hloaded : ((s.2.handing routes).report (.batchRegistered mount routes.length)).loaded = s.2.loaded :=
      (Site.reports_report_of_none _ rfl).trans (Site.reports_handing_of_none (fun _ => rfl) _ _)
    exact hresolved.of_eq rfl hloaded
  | fallback handler hbound => exact hstocked.of_eq rfl (site.reports_report_of_none rfl)

theorem Halts.loadsOnce (h : Halts router site call halt site')
    (hstocked : Stocked router.source (router.cache, site)) : site'.LoadsOnce router.source := by
  have hkept := Resolution.keptFor_stocked router.source router.context
  cases h with
  | early event hnone hevent =>
    have hload : event.load? = none := by
      rcases List.mem_pair.1 hevent with rfl | rfl
      · rfl
      · rfl
    exact hstocked.toLoadsOnce.of_eq rfl (site.reports_report_of_none hload)
  | refused hbatch hbound hresolve =>
    rename_i lines mount server e s
    exact ((hkept.resolveAll mount router.table 1 lines _).2 _ _ hresolve (opening_stocked mount hstocked)).toLoadsOnce
  | unhostable hbatch hbound hresolve hroutes =>
    rename_i lines mount server routes table s before route after
    have hresolved := (hkept.resolveAll mount router.table 1 lines _).1 _ _ hresolve (opening_stocked mount hstocked)
    exact hresolved.toLoadsOnce.of_eq rfl (Site.reports_handing_of_none (fun _ => rfl) _ _)

end Router

end Switchboard
