/-
What resolving a route line does.

- A sequence of resolutions succeeds or fails step by step (`Resolution.bind_eq_ok`, `Resolution.bind_eq_error`).
- `Stands`: what a line says of the route that it resolves to (`resolve_stands`).
- Resolving moves no counter and hands no route to the server, whether it succeeds or fails (`Site.Quiet`).
- `resolveAll_eq_ok` and `resolveAll_eq_error` take a batch apart: the lines resolve one after the other (`Resolves`)
  and their routes are entered into the table, up to the first line for which one of both fails. `Resolves.resolveAll`
  puts a batch together.
-/
import Switchboard.Proofs.Tables
import Switchboard.Router.Basic

namespace Switchboard

variable {ι ρ ω α β : Type}

/-! ## Steps of a resolution -/

abbrev ResolutionState (ι ω : Type) := ModuleCache ι ω × Site ι ω

namespace Resolution

theorem bind_eq_ok {x : Resolution ι ω α} {f : α → Resolution ι ω β} {s s' : ResolutionState ι ω} {b : β} :
    (x >>= f) s = .ok b s' ↔ ∃ a t, x s = .ok a t ∧ f a t = .ok b s' := by
  simp only [bind, EStateM.bind]
  cases x s with
  | ok a t => simp [-Prod.exists]
  | error e t => simp

theorem bind_eq_error {x : Resolution ι ω α} {f : α → Resolution ι ω β} {s s' : ResolutionState ι ω}
    {e : RouteError} :
    (x >>= f) s = .error e s' ↔ x s = .error e s' ∨ ∃ a t, x s = .ok a t ∧ f a t = .error e s' := by
  simp only [bind, EStateM.bind]
  cases x s with
  | ok a t => simp [-Prod.exists]
  | error e t => simp

theorem pure_eq_ok {a b : α} {s s' : ResolutionState ι ω} :
    (pure a : Resolution ι ω α) s = .ok b s' ↔ a = b ∧ s = s' := by
  constructor
  · intro h
    cases h
    exact ⟨rfl, rfl⟩
  · rintro ⟨rfl, rfl⟩
    rfl

theorem ofExcept_eq_ok {x : Except RouteError α} {a : α} {s s' : ResolutionState ι ω} :
    (MonadExcept.ofExcept x : Resolution ι ω α) s = .ok a s' ↔ x = .ok a ∧ s = s' := by
  constructor
  · intro h
    cases x with
    | ok b =>
      cases h
      exact ⟨rfl, rfl⟩
    | error e => cases h
  · rintro ⟨rfl, rfl⟩
    rfl

theorem ofExcept_eq_error {x : Except RouteError α} {e : RouteError} {s s' : ResolutionState ι ω} :
    (MonadExcept.ofExcept x : Resolution ι ω α) s = .error e s' ↔ x = .error e ∧ s = s' := by
  constructor
  · intro h
    cases x with
    | ok b => cases h
    | error e' =>
      cases h
      exact ⟨rfl, rfl⟩
  · rintro ⟨rfl, rfl⟩
    rfl

/-! ## What every resolution keeps -/

/-- success or failure, the resolution takes this state to one related to it -/
def MovesAt (R : ResolutionState ι ω → ResolutionState ι ω → Prop) (x : Resolution ι ω α) (s : ResolutionState ι ω) :
    Prop :=
  (∀ a s', x s = .ok a s' → R s s') ∧ ∀ e s', x s = .error e s' → R s s'

/-- success or failure, the resolution takes every state to one related to it -/
def Moves (R : ResolutionState ι ω → ResolutionState ι ω → Prop) (x : Resolution ι ω α) : Prop :=
  ∀ s, MovesAt R x s

theorem movesAt_ok {R : ResolutionState ι ω → ResolutionState ι ω → Prop} {x : Resolution ι ω α}
    {s t : ResolutionState ι ω} {a : α} (hx : x s = .ok a t) (h : R s t) : MovesAt R x s := by
  rw [MovesAt, hx]
  refine ⟨fun b s' hb => ?_, fun e s' he => (by cases he)⟩
  cases hb
  exact h

theorem movesAt_error {R : ResolutionState ι ω → ResolutionState ι ω → Prop} {x : Resolution ι ω α}
    {s t : ResolutionState ι ω} {e : RouteError} (hx : x s = .error e t) (h : R s t) : MovesAt R x s := by
  rw [MovesAt, hx]
  refine ⟨fun b s' hb => (by cases hb), fun e' s' he => ?_⟩
  cases he
  exact h

/-- relations that hold between the states before and after any part of a resolution -/
structure Kept (R : ResolutionState ι ω → ResolutionState ι ω → Prop) : Prop where
  refl : ∀ s, R s s
  trans : ∀ s t u, R s t → R t u → R s u
  controller : ∀ {ρ : Type} name (context : Context ρ) load, Moves R (ModuleCache.controller name context load)
  middleware : ∀ name load, Moves R (ModuleCache.middleware name load)
  report : ∀ cache site event, R (cache, site) (cache, site.report event)

/-- what the loads of this source, for controllers with this context, keep between the states before and after -/
structure LoadsKeep (source : ModuleSource ι ρ ω) (context : Context ρ)
    (R : ResolutionState ι ω → ResolutionState ι ω → Prop) : Prop where
  refl : ∀ s, R s s
  trans : ∀ s t u, R s t → R t u → R s u
  controller : ∀ name, Moves R (ModuleCache.controller name context (source.controller name))
  middleware : ∀ name, Moves R (ModuleCache.middleware name (source.middleware name))

/-- what these loads keep and the report of a refusal keeps too, so that any part of a resolution does -/
structure KeptFor (source : ModuleSource ι ρ ω) (context : Context ρ)
    (R : ResolutionState ι ω → ResolutionState ι ω → Prop) : Prop extends LoadsKeep source context R where
  report : ∀ cache site number line e, R (cache, site) (cache, site.report (.lineRefused number line e))

section KeptFor

variable {R : ResolutionState ι ω → ResolutionState ι ω → Prop} {source : ModuleSource ι ρ ω} {context : Context ρ}

theorem LoadsKeep.ofExcept (h : LoadsKeep source context R) (x : Except RouteError α) :
    Moves R (MonadExcept.ofExcept x) := by
  intro s
  refine ⟨fun a s' hx => ?_, fun e s' hx => ?_⟩
  · rw [← (ofExcept_eq_ok.1 hx).2]
    exact h.refl s
  · rw [← (ofExcept_eq_error.1 hx).2]
    exact h.refl s

theorem LoadsKeep.pure (h : LoadsKeep source context R) (a : α) : Moves R (Pure.pure a) := h.ofExcept (.ok a)

theorem LoadsKeep.throw (h : LoadsKeep source context R) (e : RouteError) :
    Moves R (MonadExcept.throw e : Resolution ι ω α) :=
  h.ofExcept (.error e)

theorem LoadsKeep.bind (h : LoadsKeep source context R) {x : Resolution ι ω α} {f : α → Resolution ι ω β}
    (hx : Moves R x) (hf : ∀ a, Moves R (f a)) : Moves R (x >>= f) := by
  intro s
  refine ⟨fun b s' hb => ?_, fun e s' he => ?_⟩
  · obtain ⟨a, t, hat, hbt⟩ := bind_eq_ok.1 hb
    exact h.trans s t s' ((hx s).1 a t hat) ((hf a t).1 b s' hbt)
  · rcases bind_eq_error.1 he with he | ⟨a, t, hat, het⟩
    · exact (hx s).2 e s' he
    · exact h.trans s t s' ((hx s).1 a t hat) ((hf a t).2 e s' het)

theorem LoadsKeep.middlewareList (h : LoadsKeep source context R) (names : List Text) :
    Moves R (ModuleCache.middlewareList source names) := by
  induction names with
  | nil => exact h.pure []
  | cons name names ih =>
    exact h.bind (h.middleware name) fun binding => h.bind ih fun bindings => h.pure (binding :: bindings)

theorem KeptFor.reporting (h : KeptFor source context R) (number : Nat) (line : Text) {x : Resolution ι ω α}
    (hx : Moves R x) : Moves R (Router.reporting (.lineRefused number line) x) := by
  intro s
  obtain ⟨hok, herror⟩ := hx s
  cases hs : x s with
  | ok a t =>
    have hr : Router.reporting (.lineRefused number line) x s = .ok a t := by simp only [Router.reporting, hs]
    exact movesAt_ok hr (hok a t hs)
  | error e t =>
    have hr : Router.reporting (.lineRefused number line) x s =
        .error e (t.1, t.2.report (.lineRefused number line e)) := by
      simp only [Router.reporting, hs]
    exact movesAt_error hr (h.trans s t _ (herror e t hs) (h.report t.1 t.2 number line e))

variable {router : Router ι ρ ω}

theorem LoadsKeep.resolve (h : LoadsKeep router.source router.context R) (mount line : Text) :
    Moves R (router.resolve mount line) := by
  refine h.bind (h.ofExcept _) fun spec => h.bind (h.ofExcept _) fun pattern => ?_
  refine h.bind (h.controller _) fun binding => ?_
  split
  · exact h.throw _
  · exact h.bind (h.middlewareList _) fun middleware => h.pure _

theorem LoadsKeep.resolveInto (h : LoadsKeep router.source router.context R) (mount : Text) (table : RouteTable)
    (line : Text) : Moves R (router.resolveInto mount table line) :=
  h.bind (h.resolve mount line) fun _ => h.bind (h.ofExcept _) fun _ => h.pure _

theorem KeptFor.resolveAll (h : KeptFor router.source router.context R) (mount : Text) (table : RouteTable)
    (number : Nat) (lines : List Text) : Moves R (router.resolveAll mount table number lines) := by
  induction lines generalizing table number with
  | nil => exact h.pure _
  | cons line lines ih =>
    exact h.bind (h.reporting _ _ (h.resolveInto mount table line)) fun entered =>
      h.bind (ih entered.2 _) fun rest => h.pure _

end KeptFor

theorem Kept.keptFor {R : ResolutionState ι ω → ResolutionState ι ω → Prop} (h : Kept R)
    (source : ModuleSource ι ρ ω) (context : Context ρ) : KeptFor source context R where
  refl := h.refl
  trans := h.trans
  controller name := h.controller name context _
  middleware name := h.middleware name _
  report cache site _ _ _ := h.report cache site _

theorem Kept.resolveAll {R : ResolutionState ι ω → ResolutionState ι ω → Prop} (h : Kept R) (router : Router ι ρ ω)
    (mount : Text) (table : RouteTable) (number : Nat) (lines : List Text) :
    Moves R (router.resolveAll mount table number lines) :=
  (h.keptFor router.source router.context).resolveAll mount table number lines

end Resolution

/-! ## Loads -/

namespace ModuleCache

variable {cache : ModuleCache ι ω} {name : Text}

theorem controller_hit {binding : ControllerBinding ι ω} (h : cache.controller? name = some binding)
    (context : Context ρ) (load : Except RouteError (Controller ι ρ ω)) (site : Site ι ω) :
    controller name context load (cache, site) = .ok binding (cache, site) := by
  simp only [controller, h]

theorem controller_refused (h : cache.controller? name = none) (context : Context ρ) (e : RouteError)
    (site : Site ι ω) :
    controller name context (.error e : Except RouteError (Controller ι ρ ω)) (cache, site) =
      .error e (cache, site.noteLoad (.controller name)) := by
  simp only [controller, h]

theorem controller_loaded (h : cache.controller? name = none) (context : Context ρ) (loaded : Controller ι ρ ω)
    (site : Site ι ω) :
    controller name context (.ok loaded) (cache, site) =
      .ok { name, slot := site.instances.length, actions := loaded.actions }
        ({ cache with
            controllers := cache.controllers ++ [{ name, slot := site.instances.length, actions := loaded.actions }] },
          ((site.noteLoad (.controller name)).addInstance (loaded.init context)).report (.controllerLoaded name)) := by
  simp only [controller, h]
  rfl

theorem middleware_hit {binding : MiddlewareBinding} (h : cache.middleware? name = some binding)
    (load : Except RouteError Middleware) (site : Site ι ω) :
    middleware name load (cache, site) = .ok binding (cache, site) := by
  simp only [middleware, h]

theorem middleware_refused (h : cache.middleware? name = none) (e : RouteError) (site : Site ι ω) :
    middleware name (.error e) (cache, site) = .error e (cache, site.noteLoad (.middleware name)) := by
  simp only [middleware, h]

theorem middleware_loaded (h : cache.middleware? name = none) (loaded : Middleware) (site : Site ι ω) :
    middleware name (.ok loaded) (cache, site) =
      .ok { name, middleware := loaded }
        ({ cache with middlewares := cache.middlewares ++ [{ name, middleware := loaded }] },
          (site.noteLoad (.middleware name)).report (.middlewareLoaded name)) := by
  simp only [middleware, h]

end ModuleCache

/-- relations of sites that every part of a load keeps -/
structure Site.KeptByLoads (R : Site ι ω → Site ι ω → Prop) : Prop where
  refl : ∀ site, R site site
  trans : ∀ site site' site'', R site site' → R site' site'' → R site site''
  load : ∀ site load, R site (site.noteLoad load)
  inst : ∀ site inst, R site (site.addInstance inst)
  controllerLoaded : ∀ site name, R site (site.report (.controllerLoaded name))
  middlewareLoaded : ∀ site name, R site (site.report (.middlewareLoaded name))

section KeptByLoads

variable {R : Site ι ω → Site ι ω → Prop}

theorem Site.KeptByLoads.controller (h : KeptByLoads R) (name : Text) (context : Context ρ)
    (source : Except RouteError (Controller ι ρ ω)) :
    Resolution.Moves (fun s s' => R s.2 s'.2) (ModuleCache.controller name context source) := by
  rintro ⟨cache, site⟩
  cases hc : cache.controller? name with
  | some binding =>
    exact Resolution.movesAt_ok (ModuleCache.controller_hit hc context source site) (h.refl site)
  | none =>
    have hload := h.load site (.controller name)
    cases source with
    | error e => exact Resolution.movesAt_error (ModuleCache.controller_refused hc context e site) hload
    | ok loaded =>
      refine Resolution.movesAt_ok (ModuleCache.controller_loaded hc context loaded site) ?_
      exact h.trans _ _ _ hload (h.trans _ _ _ (h.inst _ _) (h.controllerLoaded _ _))

theorem Site.KeptByLoads.middleware (h : KeptByLoads R) (name : Text) (source : Except RouteError Middleware) :
    Resolution.Moves (fun s s' : ResolutionState ι ω => R s.2 s'.2) (ModuleCache.middleware name source) := by
  rintro ⟨cache, site⟩
  cases hc : cache.middleware? name with
  | some binding => exact Resolution.movesAt_ok (ModuleCache.middleware_hit hc source site) (h.refl site)
  | none =>
    have hload := h.load site (.middleware name)
    cases source with
    | error e => exact Resolution.movesAt_error (ModuleCache.middleware_refused hc e site) hload
    | ok loaded =>
      exact Resolution.movesAt_ok (ModuleCache.middleware_loaded hc loaded site)
        (h.trans _ _ _ hload (h.middlewareLoaded _ _))

theorem Site.KeptByLoads.loadsKeep (h : KeptByLoads R) (source : ModuleSource ι ρ ω) (context : Context ρ) :
    Resolution.LoadsKeep source context fun s s' => R s.2 s'.2 where
  refl s := h.refl s.2
  trans s t u := h.trans s.2 t.2 u.2
  controller name := h.controller name context _
  middleware name := h.middleware name _

/-- What reports, loads and new instances keep of a site, resolving keeps. -/
theorem Resolution.kept_of_site (refl : ∀ site, R site site)
    (trans : ∀ site site' site'', R site site' → R site' site'' → R site site'')
    (report : ∀ site event, R site (site.report event)) (load : ∀ site load, R site (site.noteLoad load))
    (inst : ∀ site inst, R site (site.addInstance inst)) :
    Resolution.Kept fun s s' : ResolutionState ι ω => R s.2 s'.2 := by
  have hloads : Site.KeptByLoads R :=
    ⟨refl, trans, load, inst, fun site _ => report site _, fun site _ => report site _⟩
  exact
    { refl := fun s => refl s.2
      trans := fun s t u => trans s.2 t.2 u.2
      report := fun _ site event => report site event
      controller := fun name context source => hloads.controller name context source
      middleware := hloads.middleware }

end KeptByLoads

/-- neither a counter nor what the server was handed has changed -/
structure Site.Quiet (site site' : Site ι ω) : Prop where
  measures : site'.measures = site.measures
  registrations : site'.registrations = site.registrations

/-- Resolving moves no counter and hands nothing to the server. -/
theorem Resolution.kept_quiet : Resolution.Kept fun s s' : ResolutionState ι ω => s.2.Quiet s'.2 :=
  kept_of_site (fun _ => ⟨rfl, rfl⟩)
    (fun _ _ _ hst htu => ⟨htu.measures.trans hst.measures, htu.registrations.trans hst.registrations⟩)
    (fun _ _ => ⟨rfl, rfl⟩) (fun _ _ => ⟨rfl, rfl⟩) (fun _ _ => ⟨rfl, rfl⟩)

/-- Resolving leaves the world alone. -/
theorem Resolution.kept_world : Resolution.Kept fun s s' : ResolutionState ι ω => s'.2.world = s.2.world :=
  kept_of_site (R := fun site site' => site'.world = site.world) (fun _ => rfl) (fun _ _ _ hst htu => htu.trans hst)
    (fun _ _ => rfl) (fun _ _ => rfl) (fun _ _ => rfl)

/-! ## Reports of one kind -/

/-- what the journal reports of one kind, in order -/
def Site.reports {κ : Type} (pick : Event → Option κ) (site : Site ι ω) : List κ :=
  site.journal.filterMap pick

section Reports

variable {κ : Type} {pick : Event → Option κ}

theorem Site.reports_report (pick : Event → Option κ) (site : Site ι ω) (event : Event) :
    (site.report event).reports pick = site.reports pick ++ (pick event).toList := by
  cases h : pick event <;> simp [reports, report, h]

theorem Site.reports_report_of_none (site : Site ι ω) {event : Event} (h : pick event = none) :
    (site.report event).reports pick = site.reports pick := by
  rw [reports_report, h]
  exact List.append_nil _

theorem Site.reports_keptByLoads (controllers : ∀ name, pick (.controllerLoaded name) = none)
    (middlewares : ∀ name, pick (.middlewareLoaded name) = none) :
    Site.KeptByLoads fun site site' : Site ι ω => site'.reports pick = site.reports pick where
  refl _ := rfl
  trans _ _ _ hst htu := htu.trans hst
  load _ _ := rfl
  inst _ _ := rfl
  controllerLoaded site name := site.reports_report_of_none (controllers name)
  middlewareLoaded site name := site.reports_report_of_none (middlewares name)

end Reports

/-! ## One line -/

/-- what was read of a line, word by word -/
theorem RouteLine.read_eq_ok {line delimiter : Text} {spec : RouteLine} (h : RouteLine.read line delimiter = .ok spec) :
    ∃ word, line.words = word :: spec.path :: spec.target delimiter :: spec.middleware ∧
      Method.ofName? word = some spec.method ∧
      RouteLine.splitReference (spec.target delimiter) delimiter = some (spec.controller, spec.action) := by
  unfold RouteLine.read at h
  split at h
  · rename_i word path reference middleware hwords
    split at h
    · cases h
    · rename_i method hmethod
      split at h
      · cases h
      · rename_i controller action hsplit
        cases h
        have htarget : reference = controller ++ delimiter ++ action := by
          unfold RouteLine.splitReference at hsplit
          split_ifs at hsplit
          exact Text.eq_of_splitOnce (Option.filter_eq_some_iff.1 hsplit).1
        rw [RouteLine.target, ← htarget]
        exact ⟨word, hwords, hmethod, hsplit⟩
  · cases h

theorem ModuleCache.name_of_middleware {name : Text} {load : Except RouteError Middleware} {s s' : ResolutionState ι ω}
    {binding : MiddlewareBinding} (h : ModuleCache.middleware name load s = .ok binding s') : binding.name = name := by
  obtain ⟨cache, site⟩ := s
  cases hc : cache.middleware? name with
  | some found =>
    rw [middleware_hit hc] at h
    cases h
    simpa using List.find?_some hc
  | none =>
    cases load with
    | error e =>
      rw [middleware_refused hc] at h
      cases h
    | ok loaded =>
      rw [middleware_loaded hc] at h
      cases h
      rfl

theorem ModuleCache.names_of_middlewareList {source : ModuleSource ι ρ ω} {names : List Text}
    {s s' : ResolutionState ι ω} {bindings : List MiddlewareBinding}
    (h : ModuleCache.middlewareList source names s = .ok bindings s') : bindings.map (·.name) = names := by
  induction names generalizing s bindings with
  | nil =>
    obtain ⟨rfl, -⟩ := Resolution.pure_eq_ok.1 h
    rfl
  | cons name names ih =>
    obtain ⟨binding, t, hbinding, h⟩ := Resolution.bind_eq_ok.1 h
    obtain ⟨rest, u, hrest, h⟩ := Resolution.bind_eq_ok.1 h
    obtain ⟨rfl, rfl⟩ := Resolution.pure_eq_ok.1 h
    simp only [List.map_cons, name_of_middleware hbinding, ih hrest]

namespace Router

/-- everything that a line goes through before there is a route -/
theorem resolve_eq_ok {router : Router ι ρ ω} {mount line : Text} {s s' : ResolutionState ι ω} {route : Route ι ω}
    (h : router.resolve mount line s = .ok route s') :
    ∃ spec pattern binding t action middleware,
      RouteLine.read line router.settings.delimiter = .ok spec ∧
      Pattern.parse (Path.compose mount spec.path) = .ok pattern ∧
      ModuleCache.controller spec.controller router.context (router.source.controller spec.controller) s =
        .ok binding t ∧
      binding.actions.find? spec.action = some action ∧
      ModuleCache.middlewareList router.source spec.middleware t = .ok middleware s' ∧
      route = { method := spec.method, pattern, target := spec.target router.settings.delimiter, middleware,
                slot := binding.slot, action } := by
  obtain ⟨spec, s₁, hread, h⟩ := Resolution.bind_eq_ok.1 h
  obtain ⟨hspec, rfl⟩ := Resolution.ofExcept_eq_ok.1 hread
  obtain ⟨pattern, s₂, hparse, h⟩ := Resolution.bind_eq_ok.1 h
  obtain ⟨hpattern, rfl⟩ := Resolution.ofExcept_eq_ok.1 hparse
  obtain ⟨binding, t, hbinding, h⟩ := Resolution.bind_eq_ok.1 h
  cases haction : binding.actions.find? spec.action with
  | none =>
    rw [haction] at h
    cases h
  | some action =>
    rw [haction] at h
    obtain ⟨middleware, u, hmiddleware, h⟩ := Resolution.bind_eq_ok.1 h
    obtain ⟨rfl, rfl⟩ := Resolution.pure_eq_ok.1 h
    exact ⟨spec, pattern, binding, t, action, middleware, hspec, hpattern, hbinding, haction, hmiddleware, rfl⟩

/-- what a line, read completely, says of the route that it resolves to -/
structure Stands (settings : RoutingSettings) (mount : Text) (spec : RouteLine) (route : Route ι ω) : Prop where
  method : route.method = spec.method
  path : route.pattern.path = Path.compose mount spec.path
  pattern : Pattern.parse (Path.compose mount spec.path) = .ok route.pattern
  target : route.target = spec.target settings.delimiter
  middleware : route.middleware.map (·.name) = spec.middleware

/-- A line resolves to a route that is as the line says. -/
theorem resolve_stands {router : Router ι ρ ω} {mount line : Text} {s s' : ResolutionState ι ω} {route : Route ι ω}
    (h : router.resolve mount line s = .ok route s') :
    ∃ spec, RouteLine.read line router.settings.delimiter = .ok spec ∧ Stands router.settings mount spec route := by
  obtain ⟨spec, pattern, binding, t, action, middleware, hspec, hpattern, -, -, hmiddleware, rfl⟩ := resolve_eq_ok h
  refine ⟨spec, hspec, rfl, (Pattern.parse_sound hpattern).1, hpattern, rfl, ?_⟩
  exact ModuleCache.names_of_middlewareList hmiddleware

/-! ## Batches -/

/-- the lines resolve one after the other to these routes -/
inductive Resolves (router : Router ι ρ ω) (mount : Text) :
    ResolutionState ι ω → List Text → List (Route ι ω) → ResolutionState ι ω → Prop
  | nil (s) : Resolves router mount s [] [] s
  | cons {s t u line lines route routes} : router.resolve mount line s = .ok route t →
      Resolves router mount t lines routes u → Resolves router mount s (line :: lines) (route :: routes) u

/-- the line of a batch that is refused: it does not resolve, or the table has no place for its route -/
def Fails (router : Router ι ρ ω) (mount : Text) (table : RouteTable) (line : Text) (s : ResolutionState ι ω)
    (e : RouteError) : Prop :=
  (∃ s', router.resolve mount line s = .error e s') ∨
    ∃ route s', router.resolve mount line s = .ok route s' ∧ (table.insert route.method route.pattern).1 = .error e

theorem Resolves.stands {router : Router ι ρ ω} {mount : Text} {s s' : ResolutionState ι ω} {lines : List Text}
    {routes : List (Route ι ω)} (h : Resolves router mount s lines routes s') :
    List.Forall₂ (fun line route => ∃ spec, RouteLine.read line router.settings.delimiter = .ok spec ∧
      Stands router.settings mount spec route) lines routes := by
  induction h with
  | nil s => exact List.Forall₂.nil
  | cons hline _ ih => exact List.Forall₂.cons (resolve_stands hline) ih

end Router

def Route.entry (route : Route ι ω) : TableEntry :=
  (route.method, route.pattern)

namespace Router

theorem resolveInto_eq_ok {router : Router ι ρ ω} {mount line : Text} {table table' : RouteTable}
    {s s' : ResolutionState ι ω} {route : Route ι ω}
    (h : router.resolveInto mount table line s = .ok (route, table') s') :
    router.resolve mount line s = .ok route s' ∧ table.insert route.method route.pattern = (.ok (), table') := by
  obtain ⟨found, t, hfound, h⟩ := Resolution.bind_eq_ok.1 h
  obtain ⟨⟨⟩, u, hinsert, h⟩ := Resolution.bind_eq_ok.1 h
  obtain ⟨hanswer, rfl⟩ := Resolution.ofExcept_eq_ok.1 hinsert
  obtain ⟨hpair, rfl⟩ := Resolution.pure_eq_ok.1 h
  cases hpair
  exact ⟨hfound, Prod.ext hanswer rfl⟩

theorem resolveInto_eq_error {router : Router ι ρ ω} {mount line : Text} {table : RouteTable}
    {s s' : ResolutionState ι ω} {e : RouteError} (h : router.resolveInto mount table line s = .error e s') :
    Fails router mount table line s e := by
  rcases Resolution.bind_eq_error.1 h with h | ⟨route, t, hroute, h⟩
  · exact Or.inl ⟨s', h⟩
  · rcases Resolution.bind_eq_error.1 h with h | ⟨next, u, -, h⟩
    · exact Or.inr ⟨route, t, hroute, (Resolution.ofExcept_eq_error.1 h).1⟩
    · cases h

theorem reporting_eq_ok {event : RouteError → Event} {x : Resolution ι ω α} {s s' : ResolutionState ι ω} {a : α}
    (h : reporting event x s = .ok a s') : x s = .ok a s' := by
  simp only [reporting] at h
  cases hx : x s with
  | ok b t =>
    rw [hx] at h
    exact h
  | error e t =>
    rw [hx] at h
    cases h

theorem reporting_eq_error {event : RouteError → Event} {x : Resolution ι ω α} {s s' : ResolutionState ι ω}
    {e : RouteError} (h : reporting event x s = .error e s') :
    ∃ t, x s = .error e t ∧ s' = (t.1, t.2.report (event e)) := by
  simp only [reporting] at h
  cases hx : x s with
  | ok b t =>
    rw [hx] at h
    cases h
  | error e' t =>
    rw [hx] at h
    cases h
    exact ⟨t, rfl, rfl⟩

/-- A batch that resolves: its lines resolve in order, and their routes enter the table in order. -/
theorem resolveAll_eq_ok {router : Router ι ρ ω} {mount : Text} {table table' : RouteTable} {number : Nat}
    {lines : List Text} {s s' : ResolutionState ι ω} {routes : List (Route ι ω)}
    (h : router.resolveAll mount table number lines s = .ok (routes, table') s') :
    Resolves router mount s lines routes s' ∧ table.enterAll (routes.map Route.entry) = .ok table' := by
  induction lines generalizing table number s routes with
  | nil =>
    obtain ⟨hpair, rfl⟩ := Resolution.pure_eq_ok.1 h
    cases hpair
    exact ⟨Resolves.nil s, rfl⟩
  | cons line lines ih =>
    obtain ⟨⟨route, next⟩, t, hline, h⟩ := Resolution.bind_eq_ok.1 h
    obtain ⟨⟨rest, last⟩, u, hrest, h⟩ := Resolution.bind_eq_ok.1 h
    obtain ⟨hpair, rfl⟩ := Resolution.pure_eq_ok.1 h
    cases hpair
    obtain ⟨hresolve, hinsert⟩ := resolveInto_eq_ok (reporting_eq_ok hline)
    obtain ⟨hresolves, henter⟩ := ih hrest
    refine ⟨Resolves.cons hresolve hresolves, ?_⟩
    simp only [List.map_cons, Route.entry, RouteTable.enterAll, hinsert]
    exact henter

/-- Lines that resolve in order, with routes that enter the table in order, make a batch that resolves. -/
theorem Resolves.resolveAll {router : Router ι ρ ω} {mount : Text} {lines : List Text} {s s' : ResolutionState ι ω}
    {routes : List (Route ι ω)} (h : Resolves router mount s lines routes s') {table table' : RouteTable}
    (henter : table.enterAll (routes.map Route.entry) = .ok table') (number : Nat) :
    router.resolveAll mount table number lines s = .ok (routes, table') s' := by
  induction h generalizing table number with
  | nil s =>
    cases henter
    rfl
  | @cons s t u line lines route routes hline _ ih =>
    simp only [List.map_cons, Route.entry, RouteTable.enterAll] at henter
    rcases table.insert_cases route.method route.pattern with ⟨e, hinsert⟩ | ⟨next, hinsert⟩ <;> rw [hinsert] at henter
    · cases henter
    · have hinto : router.resolveInto mount table line s = .ok (route, next) t := by
        refine Resolution.bind_eq_ok.2 ⟨route, t, hline, Resolution.bind_eq_ok.2 ⟨(), t, ?_, ?_⟩⟩
        · exact Resolution.ofExcept_eq_ok.2 ⟨congrArg Prod.fst hinsert, rfl⟩
        · rw [hinsert]
          rfl
      have hfirst : reporting (.lineRefused number line) (router.resolveInto mount table line) s =
          .ok (route, next) t := by
        simp only [reporting, hinto]
      exact Resolution.bind_eq_ok.2 ⟨(route, next), t, hfirst, Resolution.bind_eq_ok.2
        ⟨(routes, table'), u, ih henter (number + 1), rfl⟩⟩

/-- A batch that is refused: the lines before the refused one resolve in order, and their routes enter the table. -/
theorem resolveAll_eq_error {router : Router ι ρ ω} {mount : Text} {table : RouteTable} {number : Nat}
    {lines : List Text} {s s' : ResolutionState ι ω} {e : RouteError}
    (h : router.resolveAll mount table number lines s = .error e s') :
    ∃ before line after routes t table', lines = before ++ line :: after ∧ Resolves router mount s before routes t ∧
      table.enterAll (routes.map Route.entry) = .ok table' ∧ Fails router mount table' line t e := by
  induction lines generalizing table number s with
  | nil => cases h
  | cons line lines ih =>
    rcases Resolution.bind_eq_error.1 h with h | ⟨⟨route, next⟩, t, hline, h⟩
    · obtain ⟨t, h, -⟩ := reporting_eq_error h
      exact ⟨[], line, lines, [], s, table, rfl, Resolves.nil s, rfl, resolveInto_eq_error h⟩
    · obtain ⟨hresolve, hinsert⟩ := resolveInto_eq_ok (reporting_eq_ok hline)
      rcases Resolution.bind_eq_error.1 h with h | ⟨⟨rest, last⟩, u, -, h⟩
      · obtain ⟨before, bad, after, routes, u, table', rfl, hresolves, henter, hfails⟩ := ih h
        refine ⟨line :: before, bad, after, route :: routes, u, table', rfl, .cons hresolve hresolves, ?_, hfails⟩
        simp only [List.map_cons, Route.entry, RouteTable.enterAll, hinsert]
        exact henter
      · cases h

end Router

end Switchboard
