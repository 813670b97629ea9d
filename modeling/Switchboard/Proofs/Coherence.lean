/-
Listing, table, server and cache of a router agree.

`Router.Coherent` says so of a router that some calls have come to, in terms of what it shows: its listing has one entry
for each route of the table and for each route handed to the server; the listed paths are absolute, without doubled
separators, and read as patterns; no method and shape is listed twice, and routes of one shape have one spelling for the
host; the cache holds the modules that the listed routes name, and no others. `run_coherent` proves it of every run.
-/
import Switchboard.Proofs.Admission
import Switchboard.Proofs.Provision

namespace Switchboard

variable {ι ρ ω : Type}

namespace Path

@[simp] theorem head?_collapse (t : Text) : (collapse t).head? = t.head? := by
  cases t with
  | nil => rfl
  | cons c t =>
    by_cases hc : c = '/'
    · subst hc
      obtain ⟨rest, hrest⟩ := collapse_sep t
      rw [hrest]
      rfl
    · simp [collapse, hc]

theorem not_doubled_collapse (t : Text) : ¬['/', '/'] <:+: collapse t := by
  induction t using collapse.induct with
  | case1 => simp [collapse]
  | case2 rest ih => simpa only [collapse] using ih
  | case3 c rest hsingle ih =>
    have hstep : collapse (c :: rest) = c :: collapse rest := by
      simp only [collapse]
    rw [hstep, List.infix_cons_iff]
    rintro (hhead | hinner)
    · -- the separator in front would be followed by another one, which it is not
      obtain ⟨rfl, hnext⟩ : '/' = c ∧ ['/'] <+: collapse rest := List.cons_prefix_cons.1 hhead
      have hrest : rest.head? = some '/' := by
        obtain ⟨tail, htail⟩ := hnext
        rw [← head?_collapse, ← htail]
        rfl
      cases rest with
      | nil => cases hrest
      | cons d rest =>
        cases hrest
        exact hsingle rest rfl rfl
    · exact ih hinner

end Path

namespace Router

/-- what the router shows after these calls agrees with itself; before them the site was `site₀` -/
structure Coherent (calls : List (Call ι ρ ω)) (site₀ : Site ι ω) (router : Router ι ρ ω) (site : Site ι ω) :
    Prop where
  tabled : router.registered.length = router.table.size
  handed : site.registrations = site₀.registrations ++ router.registered
  held : ∀ server, router.server = some server → ∃ given resource, Call.init given resource ∈ calls ∧
    server.routes.map Route.summary = given.routes.map Route.summary ++ router.registered
  rooted : ∀ s ∈ router.registered, Text.startsWith ['/'] s.path = true ∧ ¬['/', '/'] <:+: s.path
  read : ∀ s ∈ router.registered, ∃ pattern, Pattern.parse s.path = .ok pattern
  distinct : router.registered.Pairwise fun s t => ∀ p q, Pattern.parse s.path = .ok p →
    Pattern.parse t.path = .ok q → s.method = t.method → p.shape ≠ q.shape
  merged : ∀ s ∈ router.registered, ∀ t ∈ router.registered, ∀ p q, Pattern.parse s.path = .ok p →
    Pattern.parse t.path = .ok q → p.shape = q.shape → p.hostPath = q.hostPath
  covers : ModuleCache.Covers router.settings.delimiter router.cache router.registered
  controllersOnce : (router.cache.controllers.map (·.name)).Nodup
  middlewaresOnce : (router.cache.middlewares.map (·.name)).Nodup

theorem Entered.parse {table : RouteTable} {routes : List (Route ι ω)} (h : Entered table routes) {route : Route ι ω}
    (hroute : route ∈ routes) :
    (∃ mount raw, route.pattern.path = Path.compose mount raw) ∧
      Pattern.parse route.pattern.path = .ok route.pattern := by
  obtain ⟨mount, raw, hparse⟩ := h.composed route hroute
  have hpath := (Pattern.parse_sound hparse).1
  exact ⟨⟨mount, raw, hpath⟩, hpath ▸ hparse⟩

section Entered

variable {table : RouteTable} {routes : List (Route ι ω)}

theorem Entered.pattern_eq (h : Entered table routes) {route : Route ι ω} (hroute : route ∈ routes) {p : Pattern}
    (hp : Pattern.parse route.summary.path = .ok p) : route.pattern = p :=
  Except.ok.inj ((h.parse hroute).2.symm.trans hp)

theorem Entered.rooted (h : Entered table routes) {route : Route ι ω} (hroute : route ∈ routes) :
    Text.startsWith ['/'] route.pattern.path = true ∧ ¬['/', '/'] <:+: route.pattern.path := by
  obtain ⟨mount, raw, hpath⟩ := (h.parse hroute).1
  rw [hpath]
  exact ⟨Path.startsWith_compose mount raw, Path.not_doubled_collapse _⟩

theorem Entered.distinct (h : Entered table routes) :
    (routes.map Route.summary).Pairwise fun s t => ∀ p q, Pattern.parse s.path = .ok p →
      Pattern.parse t.path = .ok q → s.method = t.method → p.shape ≠ q.shape := by
  refine List.pairwise_map.2 (h.beside.imp_of_mem fun {a b} ha hb hab p q hp hq hmethod => ?_)
  rw [← h.pattern_eq ha hp, ← h.pattern_eq hb hq]
  exact hab.1 hmethod

/-- Routes of one shape have one spelling, as no capture position has two names. -/
theorem Entered.merged (h : Entered table routes) :
    ∀ s ∈ routes.map Route.summary, ∀ t ∈ routes.map Route.summary, ∀ p q, Pattern.parse s.path = .ok p →
      Pattern.parse t.path = .ok q → p.shape = q.shape → p.hostPath = q.hostPath := by
  intro s hs t ht p q hp hq hshape
  obtain ⟨a, ha, rfl⟩ := List.mem_map.1 hs
  obtain ⟨b, hb, rfl⟩ := List.mem_map.1 ht
  rw [← h.pattern_eq ha hp, ← h.pattern_eq hb hq] at hshape ⊢
  exact h.holding.hostPath_eq ha hb ((Pattern.shape_eq_iff (h.sound a ha) (h.sound b hb)).1 hshape)

end Entered

/-- **Coherence over whole runs.** Whatever calls have come to a router, its listing, table, server and cache agree. -/
theorem run_coherent {source : ModuleSource ι ρ ω} {settings : RoutingSettings} {calls : List (Call ι ρ ω)}
    {site₀ site : Site ι ω} {router : Router ι ρ ω}
    (ran : (Router.empty source settings).run site₀ calls = (.ok router, site)) :
    Coherent calls site₀ router site := by
  have hoffer : ∀ call ∈ calls, ∀ server, call.offer? = some server →
      ∃ resource, Call.init server resource ∈ calls := by
    intro call hcall server hserver
    cases call with
    | init offered resource =>
      obtain rfl : offered = server := by simpa [Call.offer?] using hserver
      exact ⟨resource, hcall⟩
    | route | web | api | catchGetRequests => cases hserver
  obtain ⟨accepted, h⟩ := run_provided hoffer ran
  refine
    { tabled := ?_
      handed := h.handed
      held := fun server bound => ?_
      rooted := fun s hs => ?_
      read := fun s hs => ?_
      distinct := h.listed ▸ h.distinct
      merged := h.listed ▸ h.merged
      covers := h.covers
      controllersOnce := h.backed.controllersOnce
      middlewaresOnce := h.backed.middlewaresOnce }
  · simp [RouteTable.size, h.records.routes, h.listed]
  · obtain ⟨given, ⟨resource, hgiven⟩, -, hroutes, -⟩ := h.bound server bound
    exact ⟨given, resource, hgiven, by rw [hroutes, List.map_append, h.listed]⟩
  · rw [h.listed] at hs
    obtain ⟨route, hroute, rfl⟩ := List.mem_map.1 hs
    exact h.rooted hroute
  · rw [h.listed] at hs
    obtain ⟨route, hroute, rfl⟩ := List.mem_map.1 hs
    exact ⟨route.pattern, (h.parse hroute).2⟩

/-- The theorem on a router with three routes. -/
theorem run_coherent_batches :
    ∃ router site,
      (Router.empty Sample.source {}).run { world := () } (Sample.batches (Host.server {})) = (.ok router, site) ∧
      Coherent (Sample.batches (Host.server {})) { world := () } router site := by
  have hheld : (hostOf ((Router.empty Sample.source {}).run { world := () } (Sample.batches (Host.server {})))).any
      (·.routes.length = 3) = true := by
    decide +kernel
  obtain ⟨router, site, server, ran, -, -⟩ := exists_of_hostOf hheld
  exact ⟨router, site, ran, run_coherent ran⟩

end Router

end Switchboard
