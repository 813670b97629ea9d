/-
What building a router reads of its site.

Resolving lines looks at the number of instances and at nothing else of the site.

- `Site.Level`: instances, world and loads of two sites are the same. `Resolution.Matches` takes level sites, side by
  side, to level sites and to the same value or the same refusal. Steps that match make resolutions that do
  (`Matches.bind`), however their refusals are reported.
- `Site.Alike`: nothing but the journals of two sites differ. `run_alike`: no calls on a router tell such sites apart,
  and `answers_alike`: nor do requests to its server.
-/
import Switchboard.Proofs.Likeness
import Switchboard.Proofs.Runs

namespace Switchboard

variable {ι ρ ω α β : Type}

/-! ## Sites side by side -/

namespace Site

structure Level (site site' : Site ι ω) : Prop where
  instances : site'.instances = site.instances
  world : site'.world = site.world
  loads : site'.loads = site.loads

structure Alike (site site' : Site ι ω) : Prop extends Level site site' where
  measures : site'.measures = site.measures
  registrations : site'.registrations = site.registrations

variable {site site' : Site ι ω}

theorem alike_refl (site : Site ι ω) : site.Alike site :=
  ⟨⟨rfl, rfl, rfl⟩, rfl, rfl⟩

theorem Level.report (h : site.Level site') (event event' : Event) :
    (site.report event).Level (site'.report event') :=
  ⟨h.instances, h.world, h.loads⟩

theorem Level.noteLoad (h : site.Level site') (load : Load) : (site.noteLoad load).Level (site'.noteLoad load) :=
  ⟨h.instances, h.world, congrArg (· ++ [load]) h.loads⟩

theorem Level.addInstance (h : site.Level site') (inst : ι) :
    (site.addInstance inst).Level (site'.addInstance inst) :=
  ⟨congrArg (· ++ [inst]) h.instances, h.world, h.loads⟩

theorem Alike.report (h : site.Alike site') (event event' : Event) :
    (site.report event).Alike (site'.report event') :=
  ⟨h.toLevel.report event event', h.measures, h.registrations⟩

/-- nobody looks at a report -/
theorem Alike.report_left (h : site.Alike site') (event : Event) : (site.report event).Alike site' :=
  ⟨⟨h.instances, h.world, h.loads⟩, h.measures, h.registrations⟩

theorem Alike.handing (h : site.Alike site') (routes : List (Route ι ω)) :
    (site.handing routes).Alike (site'.handing routes) :=
  ⟨⟨h.instances, h.world, h.loads⟩, congrArg (· ++ _) h.measures, congrArg (· ++ _) h.registrations⟩

/-- level sites that came of alike ones without a counter moved or a route handed over are alike -/
theorem Level.alike (h : site.Level site') {first first' : Site ι ω} (hfirst : first.Alike first')
    (hquiet : first.Quiet site) (hquiet' : first'.Quiet site') : site.Alike site' where
  toLevel := h
  measures := by rw [hquiet'.measures, hquiet.measures, hfirst.measures]
  registrations := by rw [hquiet'.registrations, hquiet.registrations, hfirst.registrations]

end Site

/-! ## Resolutions side by side -/

namespace Resolution

structure LevelStates (s t : ResolutionState ι ω) : Prop where
  cache : t.1 = s.1
  site : s.2.Level t.2

/-- In level states both come to the same value or to the same refusal, and leave level states. -/
def Matches (x y : Resolution ι ω α) : Prop :=
  ∀ s t, LevelStates s t →
    (∃ a s' t', x s = .ok a s' ∧ y t = .ok a t' ∧ LevelStates s' t') ∨
      ∃ e s' t', x s = .error e s' ∧ y t = .error e t' ∧ LevelStates s' t'

theorem matches_ofExcept (x : Except RouteError α) :
    Matches (MonadExcept.ofExcept x : Resolution ι ω α) (MonadExcept.ofExcept x) := by
  intro s t h
  cases x with
  | ok a => exact Or.inl ⟨a, s, t, rfl, rfl, h⟩
  | error e => exact Or.inr ⟨e, s, t, rfl, rfl, h⟩

theorem matches_pure (a : α) : Matches (pure a : Resolution ι ω α) (pure a) :=
  matches_ofExcept (.ok a)

theorem matches_throw (e : RouteError) : Matches (throw e : Resolution ι ω α) (throw e) :=
  matches_ofExcept (.error e)

theorem Matches.bind {x y : Resolution ι ω α} {f g : α → Resolution ι ω β} (hxy : Matches x y)
    (hfg : ∀ a, Matches (f a) (g a)) : Matches (x >>= f) (y >>= g) := by
  intro s t h
  rcases hxy s t h with ⟨a, s', t', hx, hy, h'⟩ | ⟨e, s', t', hx, hy, h'⟩
  · rcases hfg a s' t' h' with ⟨b, s'', t'', hf, hg, h''⟩ | ⟨e, s'', t'', hf, hg, h''⟩
    · exact Or.inl ⟨b, s'', t'', bind_eq_ok.2 ⟨a, s', hx, hf⟩, bind_eq_ok.2 ⟨a, t', hy, hg⟩, h''⟩
    · exact Or.inr ⟨e, s'', t'', bind_eq_error.2 (Or.inr ⟨a, s', hx, hf⟩),
        bind_eq_error.2 (Or.inr ⟨a, t', hy, hg⟩), h''⟩
  · exact Or.inr ⟨e, s', t', bind_eq_error.2 (Or.inl hx), bind_eq_error.2 (Or.inl hy), h'⟩

theorem matches_controller (name : Text) (context : Context ρ) (load : Except RouteError (Controller ι ρ ω)) :
    Matches (ModuleCache.controller name context load) (ModuleCache.controller name context load) := by
  rintro ⟨cache, site⟩ ⟨cache', site'⟩ ⟨hcache, hsite⟩
  obtain rfl : cache' = cache := hcache
  cases hc : cache'.controller? name with
  | some binding =>
    exact Or.inl ⟨binding, _, _, ModuleCache.controller_hit hc context load site,
      ModuleCache.controller_hit hc context load site', rfl, hsite⟩
  | none =>
    have hload := hsite.noteLoad (.controller name)
    cases load with
    | error e =>
      exact Or.inr ⟨e, _, _, ModuleCache.controller_refused hc context e site,
        ModuleCache.controller_refused hc context e site', rfl, hload⟩
    | ok loaded =>
      -- the new instance takes the same number at both sites
      have hright := ModuleCache.controller_loaded hc context loaded site'
      rw [show site'.instances.length = site.instances.length by rw [hsite.instances]] at hright
      exact Or.inl ⟨_, _, _, ModuleCache.controller_loaded hc context loaded site, hright, rfl,
        (hload.addInstance _).report _ _⟩

theorem matches_middleware (name : Text) (load : Except RouteError Middleware) :
    Matches (ModuleCache.middleware name load : Resolution ι ω MiddlewareBinding)
      (ModuleCache.middleware name load) := by
  rintro ⟨cache, site⟩ ⟨cache', site'⟩ ⟨hcache, hsite⟩
  obtain rfl : cache' = cache := hcache
  cases hc : cache'.middleware? name with
  | some binding =>
    exact Or.inl ⟨binding, _, _, ModuleCache.middleware_hit hc load site, ModuleCache.middleware_hit hc load site',
      rfl, hsite⟩
  | none =>
    have hload := hsite.noteLoad (.middleware name)
    cases load with
    | error e =>
      exact Or.inr ⟨e, _, _, ModuleCache.middleware_refused hc e site, ModuleCache.middleware_refused hc e site',
        rfl, hload⟩
    | ok loaded =>
      exact Or.inl ⟨_, _, _, ModuleCache.middleware_loaded hc loaded site,
        ModuleCache.middleware_loaded hc loaded site', rfl, hload.report _ _⟩

theorem matches_middlewareList (source : ModuleSource ι ρ ω) (names : List Text) :
    Matches (ModuleCache.middlewareList source names) (ModuleCache.middlewareList source names) := by
  induction names with
  | nil => exact matches_pure []
  | cons name names ih =>
    exact (matches_middleware name _).bind fun binding => ih.bind fun bindings => matches_pure (binding :: bindings)

theorem matches_resolve (router : Router ι ρ ω) (mount line : Text) :
    Matches (router.resolve mount line) (router.resolve mount line) := by
  refine (matches_ofExcept _).bind fun spec => (matches_ofExcept _).bind fun pattern => ?_
  refine (matches_controller _ _ _).bind fun binding => ?_
  split
  · exact matches_throw _
  · exact (matches_middlewareList _ _).bind fun middleware => matches_pure _

theorem Matches.reporting {x y : Resolution ι ω α} (h : Matches x y) (event event' : RouteError → Event) :
    Matches (Router.reporting event x) (Router.reporting event' y) := by
  intro s t hst
  rcases h s t hst with ⟨a, s', t', hx, hy, h'⟩ | ⟨e, s', t', hx, hy, h'⟩
  · exact Or.inl ⟨a, s', t', by simp only [Router.reporting, hx], by simp only [Router.reporting, hy], h'⟩
  · exact Or.inr ⟨e, (s'.1, s'.2.report (event e)), (t'.1, t'.2.report (event' e)),
      by simp only [Router.reporting, hx], by simp only [Router.reporting, hy], h'.cache, h'.site.report _ _⟩

/-- Routers that resolve lines alike resolve batches alike, wherever the lines are counted from. -/
theorem matches_resolveAll {router router' : Router ι ρ ω} {mount : Text}
    (h : ∀ line, Matches (router.resolve mount line) (router'.resolve mount line)) (table : RouteTable)
    (number number' : Nat) (lines : List Text) :
    Matches (router.resolveAll mount table number lines) (router'.resolveAll mount table number' lines) := by
  induction lines generalizing table number number' with
  | nil => exact matches_pure _
  | cons line lines ih =>
    refine Matches.bind (Matches.reporting ?_ _ _) fun entered => (ih entered.2 _ _).bind fun rest => matches_pure _
    exact (h line).bind fun route => (matches_ofExcept _).bind fun next => matches_pure _

end Resolution

/-! ## Calls -/

namespace Router

def OutcomesAlike (result result' : Except Halt α × Site ι ω) : Prop :=
  result'.1 = result.1 ∧ result.2.Alike result'.2

theorem OutcomesAlike.exists_eq {α : Type} {result result' : Except Halt α × Site ι ω}
    (h : OutcomesAlike result result') :
    ∃ found left right, result = (found, left) ∧ result' = (found, right) ∧ left.Alike right :=
  ⟨result.1, result.2, result'.2, rfl, Prod.ext h.1 rfl, h.2⟩

variable {site site' : Site ι ω}

theorem resolveBatch_alike (router : Router ι ρ ω) (h : site.Alike site') (lines : List Text) (mount : Text) :
    (∃ found s t, router.resolveBatch lines mount site = .ok found s ∧
        router.resolveBatch lines mount site' = .ok found t ∧ t.1 = s.1 ∧ s.2.Alike t.2) ∨
      ∃ e s t, router.resolveBatch lines mount site = .error e s ∧ router.resolveBatch lines mount site' = .error e t ∧
        s.2.Alike t.2 := by
  have hopening : (router.opening mount site).Level (router.opening mount site') := by
    unfold opening
    split_ifs
    · exact h.toLevel.report _ _
    · exact h.toLevel
  obtain ⟨hok, herror⟩ := resolveBatch_quiet router lines mount site
  obtain ⟨hok', herror'⟩ := resolveBatch_quiet router lines mount site'
  rcases Resolution.matches_resolveAll (Resolution.matches_resolve router mount) router.table 1 1 lines
      (router.cache, router.opening mount site) (router.cache, router.opening mount site') ⟨rfl, hopening⟩ with
    ⟨found, s, t, hs, ht, hst⟩ | ⟨e, s, t, hs, ht, hst⟩
  · exact Or.inl ⟨found, s, t, hs, ht, hst.cache, hst.site.alike h (hok found s hs) (hok' found t ht)⟩
  · exact Or.inr ⟨e, s, t, hs, ht, hst.site.alike h (herror e s hs) (herror' e t ht)⟩

theorem registerAll_alike (h : site.Alike site') (done : Registration ι ω) (routes : List (Route ι ω)) :
    OutcomesAlike (registerAll done site routes) (registerAll done site' routes) := by
  induction routes generalizing done site site' with
  | nil => exact ⟨rfl, h⟩
  | cons route routes ih =>
    cases hadmits : done.server.admits done.server.routes route with
    | false =>
      rw [registerAll_blocked hadmits, registerAll_blocked hadmits]
      exact ⟨rfl, h.handing [route]⟩
    | true =>
      rw [registerAll_cons hadmits, registerAll_cons hadmits]
      exact ih (h.handing [route]) _

theorem route_resolved {router : Router ι ρ ω} {server : Server ι ω} (bound : router.server = some server)
    {lines : List Text} {mount : Text} {routes : List (Route ι ω)} {table : RouteTable} {s : ResolutionState ι ω}
    (h : router.resolveBatch lines mount site = .ok (routes, table) s) :
    router.route lines mount site =
      match registerAll { server, registered := router.registered } s.2 routes with
      | (.error halt, site) => (.error halt, site)
      | (.ok done, site) =>
        (.ok { router with server := some done.server, cache := s.1, registered := done.registered, table },
          site.report (.batchRegistered mount routes.length)) := by
  unfold resolveBatch opening at h
  cases hall : registerAll { server, registered := router.registered } s.2 routes with
  | mk result after =>
    cases result with
    | error halt => simp only [route, bound, h, hall]
    | ok done => simp only [route, bound, h, hall]

theorem route_alike (router : Router ι ρ ω) (h : site.Alike site') (lines : List Text) (mount : Text) :
    OutcomesAlike (router.route lines mount site) (router.route lines mount site') := by
  cases bound : router.server with
  | none =>
    simp only [route, bound]
    exact ⟨rfl, h.report _ _⟩
  | some server =>
    rcases resolveBatch_alike router h lines mount with
      ⟨⟨routes, table⟩, s, t, hs, ht, hcache, hst⟩ | ⟨e, s, t, hs, ht, hst⟩
    · obtain ⟨found, left, right, hleft, hright, hsites⟩ :=
        (registerAll_alike hst { server, registered := router.registered } routes).exists_eq
      rw [route_resolved bound hs, route_resolved bound ht, hcache, hleft, hright]
      cases found with
      | error halt => exact ⟨rfl, hsites⟩
      | ok done => exact ⟨rfl, hsites.report _ _⟩
    · rw [route_refused bound hs, route_refused bound ht]
      exact ⟨rfl, hst⟩

theorem perform_alike (router : Router ι ρ ω) (h : site.Alike site') (call : Call ι ρ ω) :
    OutcomesAlike (router.perform site call) (router.perform site' call) := by
  cases call with
  | init server resource =>
    simp only [perform, init]
    cases router.server with
    | none => exact ⟨rfl, h.report _ _⟩
    | some held => exact ⟨rfl, h.report _ _⟩
  | route lines mount => exact route_alike router h lines mount
  | web lines => exact route_alike router h lines []
  | api lines => exact route_alike router h lines router.settings.apiMount
  | catchGetRequests handler =>
    simp only [perform, catchGetRequests]
    cases router.server with
    | none => exact ⟨rfl, h.report _ _⟩
    | some server => exact ⟨rfl, h.report _ _⟩

theorem run_alike (router : Router ι ρ ω) (h : site.Alike site') (calls : List (Call ι ρ ω)) :
    OutcomesAlike (router.run site calls) (router.run site' calls) := by
  induction calls generalizing router site site' with
  | nil => exact ⟨rfl, h⟩
  | cons call calls ih =>
    obtain ⟨found, left, right, hleft, hright, hsites⟩ := (perform_alike router h call).exists_eq
    simp only [run, hleft, hright]
    cases found with
    | error halt => exact ⟨rfl, hsites⟩
    | ok next => exact ih next hsites

end Router

/-! ## Requests -/

theorem Route.dispatch_alike (route : Route ι ω) : Handler.Respects Eq Site.Alike route.dispatch := by
  rintro request _ site site' rfl h
  unfold dispatch
  rw [h.instances, h.world]
  cases site.instances[route.slot]? with
  | none => exact ⟨rfl, h⟩
  | some inst => exact ⟨rfl, ⟨rfl, rfl, h.loads⟩, congrArg (· ++ _) h.measures, h.registrations⟩

theorem Handler.atSite_alike (handler : Handler ω) :
    Handler.Respects Eq Site.Alike (handler.atSite : Handler (Site ι ω)) := by
  rintro request _ site site' rfl h
  unfold atSite
  rw [h.world]
  exact ⟨rfl, ⟨⟨h.instances, rfl, h.loads⟩, h.measures, h.registrations⟩⟩

/-- no server tells alike sites apart -/
theorem Server.respects_alike (server : Server ι ω) : server.Respects Eq Site.Alike where
  requests := Request.likeness_eq
  middleware _ _ _ _ _ _ _ h := h ▸ Ruling.like_refl _
  action route _ := route.dispatch_alike
  fallback handler _ := handler.atSite_alike

theorem Host.answers_alike (server : Server ι ω) {site site' : Site ι ω} (h : site.Alike site') (visits : List Visit) :
    (answers server site visits).1 = (answers server site' visits).1 := by
  have hsame : List.Forall₂ (Visit.Like Eq) visits visits := List.forall₂_same.2 fun _ _ => ⟨rfl, rfl, rfl⟩
  exact (answers_respects server.respects_alike hsame h).1

end Switchboard
