/-
When a batch is registered on a host, and when an application is built.

A batch goes through if each of its lines has a blueprint, no entry clashes with those before it, and the host can hold
each path beside those before it (`Host.Holdable`). None of the three looks at the cache or at the site, so that they can
be said of the configured lines before anything runs.

- `Router.Fits` says so of one batch on a router. `Fits.exists_route`: such a batch is registered, as its blueprints
  say, on a router with the host behind it and a backed cache. `exists_fits`: no other batch is.
- `App.Configured` says so of the web lines and the API lines of an application, one after the other.
  `Configured.exists_build`: then the application is built and lists what the blueprints say. `exists_configured`: it is
  not built otherwise.
-/
import Switchboard.App.Basic
import Switchboard.Proofs.Acceptance
import Switchboard.Proofs.Admission

namespace Switchboard

variable {ι ρ ω : Type}

theorem RouteTable.enterAll_append_iff {table last : RouteTable} {entries more : List TableEntry} :
    table.enterAll (entries ++ more) = .ok last ↔
      ∃ next, table.enterAll entries = .ok next ∧ next.enterAll more = .ok last := by
  constructor
  · intro h
    induction entries generalizing table with
    | nil => exact ⟨table, rfl, h⟩
    | cons entry entries ih =>
      obtain ⟨method, pattern⟩ := entry
      simp only [enterAll, List.cons_append] at h ⊢
      rcases table.insert_cases method pattern with ⟨e, hinsert⟩ | ⟨next, hinsert⟩ <;> rw [hinsert] at h
      · cases h
      · rw [hinsert]
        exact ih h
  · rintro ⟨next, hentries, hmore⟩
    rw [enterAll_append hentries]
    exact hmore

/-! ## What the host can hold -/

namespace Host

/-- the host has no place for the path beside those that it holds -/
def Overburdens (held : List Pattern) (p : Pattern) : Prop :=
  captureLimit < p.captureCount ∨ ∃ other ∈ held, Crosses other.segments p.segments

/-- the host has a place for every path beside those that it holds and those before it -/
def Holdable (held : List Pattern) : List Pattern → Prop
  | [] => True
  | p :: rest => ¬Overburdens held p ∧ Holdable (held ++ [p]) rest

theorem breaks_iff {held : List (Route ι ω)} {route : Route ι ω} :
    Breaks held route ↔ Overburdens (held.map (·.pattern)) route.pattern := by
  simp [Breaks, Overburdens]

theorem holdable_append_iff {held ps qs : List Pattern} :
    Holdable held (ps ++ qs) ↔ Holdable held ps ∧ Holdable (held ++ ps) qs := by
  induction ps generalizing held with
  | nil => simp [Holdable]
  | cons p ps ih => simp [Holdable, ih, and_assoc]

theorem holdable_iff {held ps : List Pattern} :
    Holdable held ps ↔ ∀ before p after, ps = before ++ p :: after → ¬Overburdens (held ++ before) p := by
  constructor
  · rintro h before p after rfl
    exact (holdable_append_iff.1 h).2.1
  · intro h
    induction ps generalizing held with
    | nil => trivial
    | cons p ps ih =>
      refine ⟨by simpa using h [] p ps rfl, ih fun before q after heq => ?_⟩
      have hnext := h (p :: before) q after (by rw [heq, List.cons_append])
      rwa [List.append_cons] at hnext

end Host

namespace Blueprint

def summary (blueprint : Blueprint ι ω) : RouteSummary :=
  { method := blueprint.method, path := blueprint.pattern.path, target := blueprint.target,
    middleware := blueprint.middleware.map (·.name) }

variable {instances : List ι} {blueprints : List (Blueprint ι ω)} {routes : List (Route ι ω)}

theorem summaries_of_built (h : List.Forall₂ (Built instances) blueprints routes) :
    routes.map Route.summary = blueprints.map summary := by
  induction h with
  | nil => rfl
  | cons hbuilt _ ih =>
    rw [List.map_cons, List.map_cons, ih]
    simp only [Route.summary, summary, hbuilt.method, hbuilt.pattern, hbuilt.target, hbuilt.middleware]

theorem patterns_of_built (h : List.Forall₂ (Built instances) blueprints routes) :
    routes.map (·.pattern) = blueprints.map (·.pattern) := by
  induction h with
  | nil => rfl
  | cons hbuilt _ ih => rw [List.map_cons, List.map_cons, ih, hbuilt.pattern]

end Blueprint

namespace Router

variable {router : Router ι ρ ω} {mount : Text} {lines : List Text} {site : Site ι ω} {table : RouteTable}

/-! ## Batches -/

theorem backed_of_opening (hbacked : ModuleCache.Backed router.source router.context (router.cache, site)) :
    ModuleCache.Backed router.source router.context (router.cache, router.opening mount site) :=
  hbacked.atSite (router.opening_instances mount site ▸ List.prefix_refl _)

/-- a batch that passes has blueprints, from which its routes are built, and their entries enter the table -/
theorem exists_blueprints_of_resolveBatch
    (hbacked : ModuleCache.Backed router.source router.context (router.cache, site)) {routes : List (Route ι ω)}
    {s : ResolutionState ι ω} (h : router.resolveBatch lines mount site = .ok (routes, table) s) :
    ∃ blueprints, router.Blueprints mount lines blueprints ∧
      router.table.enterAll (blueprints.map Blueprint.entry) = .ok table ∧
      List.Forall₂ (Blueprint.Built s.2.instances) blueprints routes := by
  obtain ⟨hresolves, henter⟩ := resolveAll_eq_ok h
  obtain ⟨-, blueprints, hblueprints, hbuilt⟩ := hresolves.built (backed_of_opening hbacked)
  rw [entries_of_built hbuilt] at henter
  exact ⟨blueprints, hblueprints, henter, hbuilt⟩

/-- lines with blueprints whose entries enter the table make a batch that passes -/
theorem Blueprints.exists_resolveBatch {blueprints : List (Blueprint ι ω)}
    (h : router.Blueprints mount lines blueprints)
    (hbacked : ModuleCache.Backed router.source router.context (router.cache, site))
    (henter : router.table.enterAll (blueprints.map Blueprint.entry) = .ok table) :
    ∃ routes s, router.resolveBatch lines mount site = .ok (routes, table) s ∧
      List.Forall₂ (Blueprint.Built s.2.instances) blueprints routes := by
  obtain ⟨routes, s, hresolves⟩ := h.exists_resolves (backed_of_opening hbacked)
  obtain ⟨-, others, hothers, hbuilt⟩ := hresolves.built (backed_of_opening hbacked)
  obtain rfl := h.unique hothers
  rw [← entries_of_built hbuilt] at henter
  exact ⟨routes, s, hresolves.resolveAll henter 1, hbuilt⟩

/-- A batch on a host: its lines have blueprints, the entries enter the table, and the host can hold the paths. -/
structure Fits (router : Router ι ρ ω) (server : Server ι ω) (mount : Text) (lines : List Text)
    (blueprints : List (Blueprint ι ω)) (table : RouteTable) : Prop where
  read : router.Blueprints mount lines blueprints
  entered : router.table.enterAll (blueprints.map Blueprint.entry) = .ok table
  held : Host.Holdable (server.routes.map (·.pattern)) (blueprints.map (·.pattern))

section OnHost

variable {server : Server ι ω}

/-- what a host can hold of a batch that passes is told by the paths -/
theorem OnHost.canHold_iff_holdable (h : OnHost router) (bound : router.server = some server)
    {routes : List (Route ι ω)} {s : ResolutionState ι ω}
    (hresolve : router.resolveBatch lines mount site = .ok (routes, table) s) :
    server.CanHold routes ↔ Host.Holdable (server.routes.map (·.pattern)) (routes.map (·.pattern)) := by
  rw [h.canHold_iff bound hresolve, Host.holdable_iff]
  constructor
  · intro hold before p after heq
    obtain ⟨first, rest, rfl, rfl, hrest⟩ := List.map_eq_append_iff.1 heq
    obtain ⟨route, last, rfl, rfl, -⟩ := List.map_eq_cons_iff.1 hrest
    have hbreaks := hold first route last rfl
    rwa [Host.breaks_iff, List.map_append] at hbreaks
  · rintro hold before route after rfl
    have hburden := hold (before.map (·.pattern)) route.pattern (after.map (·.pattern)) (by simp)
    rwa [Host.breaks_iff, List.map_append]

def taking (router : Router ι ρ ω) (server : Server ι ω) (routes : List (Route ι ω)) (cache : ModuleCache ι ω)
    (table : RouteTable) : Router ι ρ ω :=
  { router with
    server := some (server.holding routes), cache, registered := router.registered ++ routes.map Route.summary, table }

/-- such a batch is registered, its routes being as the blueprints say -/
theorem Fits.exists_route {blueprints : List (Blueprint ι ω)} (h : router.Fits server mount lines blueprints table)
    (hhost : OnHost router) (bound : router.server = some server)
    (hbacked : ModuleCache.Backed router.source router.context (router.cache, site)) :
    ∃ routes cache site', routes.map (·.pattern) = blueprints.map (·.pattern) ∧
      routes.map Route.summary = blueprints.map Blueprint.summary ∧
      router.route lines mount site = (.ok (router.taking server routes cache table), site') := by
  obtain ⟨routes, s, hresolve, hbuilt⟩ := h.read.exists_resolveBatch hbacked h.entered
  have hpatterns := Blueprint.patterns_of_built hbuilt
  have hold : server.CanHold routes := by
    rw [hhost.canHold_iff_holdable bound hresolve, hpatterns]
    exact h.held
  exact ⟨routes, s.1, _, hpatterns, Blueprint.summaries_of_built hbuilt, route_registered bound hresolve hold⟩

theorem exists_fits {router' : Router ι ρ ω} {site' : Site ι ω}
    (h : router.route lines mount site = (.ok router', site')) (hhost : OnHost router)
    (bound : router.server = some server)
    (hbacked : ModuleCache.Backed router.source router.context (router.cache, site)) :
    ∃ blueprints table, router.Fits server mount lines blueprints table := by
  have hsucceeds : Succeeds router site (.route lines mount) router' site' := perform_eq_ok h
  cases hsucceeds with
  | registered hbatch hbound hresolve hold =>
    cases hbatch
    obtain rfl := Option.some.inj (bound.symm.trans hbound)
    obtain ⟨blueprints, hblueprints, henter, hbuilt⟩ := exists_blueprints_of_resolveBatch hbacked hresolve
    refine ⟨blueprints, _, hblueprints, henter, ?_⟩
    rw [← Blueprint.patterns_of_built hbuilt]
    exact (hhost.canHold_iff_holdable bound hresolve).1 hold

end OnHost

theorem run_cons_eq_ok {call : Call ι ρ ω} {calls : List (Call ι ρ ω)} {last : Router ι ρ ω} {site' : Site ι ω} :
    router.run site (call :: calls) = (.ok last, site') ↔
      ∃ next site₁, router.perform site call = (.ok next, site₁) ∧ next.run site₁ calls = (.ok last, site') := by
  rw [run]
  cases hperform : router.perform site call with
  | mk result site₁ =>
    cases result with
    | error halt => simp
    | ok next => simp

end Router

/-! ## The application -/

namespace App

variable {order : VisitOrder} {settings : Settings} {manifest : Manifest} {store : UserStore}

/-- the application's router when it has been bound, without routes -/
def boundRouter (order : VisitOrder) (settings : Settings) (manifest : Manifest) : AppRouter :=
  Router.fresh (modules order settings.routing manifest).source settings.routing
    (Host.server settings.server.handle) (some .granted)

/-- The web lines and the API lines have these blueprints, all their entries enter one table, the web lines' first, and
the host can hold all their paths in this order. -/
structure Configured (order : VisitOrder) (settings : Settings) (manifest : Manifest)
    (web api : List (Blueprint Instance UserStore)) : Prop where
  webLines : (boundRouter order settings manifest).Blueprints [] settings.routes.web web
  apiLines : (boundRouter order settings manifest).Blueprints settings.routing.apiMount settings.routes.api api
  entered : ∃ table, RouteTable.empty.enterAll ((web ++ api).map Blueprint.entry) = .ok table
  held : Host.Holdable [] ((web ++ api).map (·.pattern))

/-- every run of the first calls stands on a host, with a cache that is backed -/
theorem standing_of_run {calls : List (Router.Call Instance StoreAccess UserStore)} {router : AppRouter}
    {site : AppSite} (hcalls : calls <+: routeCalls settings (some .granted))
    (ran : (emptyRouter order settings manifest).run (siteOf store) calls = (.ok router, site)) :
    router.OnHost ∧ ModuleCache.Backed router.source router.context (router.cache, site) := by
  have hoffer : ∀ call ∈ calls, ∀ offered, call.offer? = some offered → ∃ handle, offered = Host.server handle := by
    intro call hcall offered hoffered
    have hmem := hcalls.subset hcall
    simp only [routeCalls, List.mem_cons, List.not_mem_nil, or_false] at hmem
    rcases hmem with rfl | rfl | rfl
    · exact ⟨_, (Option.some.inj hoffered).symm⟩
    · cases hoffered
    · cases hoffered
  obtain ⟨accepted, hprovided⟩ := Router.run_provided hoffer ran
  exact ⟨⟨_, _, _, _, calls, hoffer, ran⟩, hprovided.backed⟩

/-- binding the server comes first -/
theorem run_init :
    (emptyRouter order settings manifest).run (siteOf store) [.init (Host.server settings.server.handle) (some .granted)] =
      (.ok (boundRouter order settings manifest),
        (siteOf store).report (.initialised settings.server.handle.baseUrl)) := rfl

/-- the web lines come next -/
theorem run_web {first : AppRouter} {site : AppSite}
    (h : (boundRouter order settings manifest).route settings.routes.web []
      ((siteOf store).report (.initialised settings.server.handle.baseUrl)) = (.ok first, site)) :
    (emptyRouter order settings manifest).run (siteOf store)
      [.init (Host.server settings.server.handle) (some .granted), .web settings.routes.web] = (.ok first, site) := by
  have hperform : (boundRouter order settings manifest).perform
      ((siteOf store).report (.initialised settings.server.handle.baseUrl)) (.web settings.routes.web) =
        (.ok first, site) := h
  exact Router.run_cons_eq_ok.2 ⟨_, _, rfl, Router.run_cons_eq_ok.2 ⟨_, _, hperform, rfl⟩⟩

/-- then the API lines, and sending GET requests home, which is never refused after them -/
theorem build_eq_ok_iff {router : AppRouter} {site : AppSite} :
    build order settings manifest store = (.ok router, site) ↔
      ∃ first site₁ second site₂,
        (boundRouter order settings manifest).route settings.routes.web []
          ((siteOf store).report (.initialised settings.server.handle.baseUrl)) = (.ok first, site₁) ∧
        first.route settings.routes.api first.settings.apiMount site₁ = (.ok second, site₂) ∧
        second.catchGetRequests redirectHome site₂ = (.ok router, site) := by
  unfold build routeCalls
  simp only [List.cons_append, List.nil_append, Router.run_cons_eq_ok]
  constructor
  · rintro ⟨bound, site₀, hinit, first, site₁, hweb, second, site₂, hapi, third, site₃, hcatch, hlast⟩
    cases hinit
    cases hlast
    exact ⟨first, site₁, second, site₂, hweb, hapi, hcatch⟩
  · rintro ⟨first, site₁, second, site₂, hweb, hapi, hcatch⟩
    exact ⟨_, _, rfl, first, site₁, hweb, second, site₂, hapi, router, site, hcatch, rfl⟩

/-- Configured lines are built, and the router lists what their blueprints say. -/
theorem Configured.exists_build {web api : List (Blueprint Instance UserStore)}
    (h : Configured order settings manifest web api) (store : UserStore) :
    ∃ router site, build order settings manifest store = (.ok router, site) ∧
      router.registered = (web ++ api).map Blueprint.summary := by
  obtain ⟨last, hentered⟩ := h.entered
  rw [List.map_append] at hentered
  obtain ⟨table, hweb, hapi⟩ := RouteTable.enterAll_append_iff.1 hentered
  have hheld := h.held
  rw [List.map_append, Host.holdable_append_iff] at hheld
  -- the web lines, on the router that has just been bound
  have hfits : (boundRouter order settings manifest).Fits (Host.server settings.server.handle) []
      settings.routes.web web table := ⟨h.webLines, hweb, hheld.1⟩
  obtain ⟨hhost, hbacked⟩ := standing_of_run (List.prefix_append _ _) run_init
  obtain ⟨routes, cache, site₁, hpatterns, hsummaries, hroute⟩ := hfits.exists_route hhost rfl hbacked
  -- the API lines, on the router that this comes to
  obtain ⟨hhost', hbacked'⟩ := standing_of_run (List.prefix_append [_, _] _) (run_web hroute)
  have hfits' : ((boundRouter order settings manifest).taking (Host.server settings.server.handle) routes cache
      table).Fits ((Host.server settings.server.handle).holding routes) settings.routing.apiMount settings.routes.api
      api last := by
    refine ⟨h.apiLines, hapi, ?_⟩
    have hhas : ((Host.server settings.server.handle).holding routes).routes.map (·.pattern) =
        [] ++ web.map (·.pattern) := by
      rw [← hpatterns]
      rfl
    rw [hhas]
    exact hheld.2
  obtain ⟨more, cache', site₂, -, hsummaries', hroute'⟩ := hfits'.exists_route hhost' rfl hbacked'
  refine ⟨_, _, build_eq_ok_iff.2 ⟨_, _, _, _, hroute, hroute', rfl⟩, ?_⟩
  simp only [Router.taking, hsummaries, hsummaries', List.map_append]
  rfl

theorem exists_configured {router : AppRouter} {site : AppSite}
    (built : build order settings manifest store = (.ok router, site)) :
    ∃ web api, Configured order settings manifest web api := by
  obtain ⟨first, site₁, second, site₂, hroute, hroute', -⟩ := build_eq_ok_iff.1 built
  obtain ⟨hhost, hbacked⟩ := standing_of_run (List.prefix_append _ _) run_init
  obtain ⟨web, table, hfits⟩ := Router.exists_fits hroute hhost rfl hbacked
  obtain ⟨routes, cache, site₁', hpatterns, -, hsame⟩ := hfits.exists_route hhost rfl hbacked
  obtain ⟨rfl, rfl⟩ : first = _ ∧ site₁ = site₁' := by simpa using hroute.symm.trans hsame
  obtain ⟨hhost', hbacked'⟩ := standing_of_run (List.prefix_append [_, _] _) (run_web hroute)
  obtain ⟨api, last, hfits'⟩ := Router.exists_fits hroute' hhost' rfl hbacked'
  refine ⟨web, api, hfits.read, hfits'.read, ⟨last, ?_⟩, ?_⟩
  · rw [List.map_append]
    exact RouteTable.enterAll_append_iff.2 ⟨table, hfits.entered, hfits'.entered⟩
  · rw [List.map_append, Host.holdable_append_iff, ← hpatterns]
    exact ⟨hpatterns ▸ hfits.held, hfits'.held⟩

end App

end Switchboard
