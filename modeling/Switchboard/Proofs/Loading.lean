/-
Which modules are asked of the source, and in which order.

Notions:
- `Router.asks`: what a line asks for by itself, as if nothing were cached;
- `Router.Attempted`: the lines of a batch up to the first that fails, told without a cache;
- `ModuleSource.fresh`: what is left of a sequence of loads if modules that are held are not loaded again.

A cache agrees with its source (`ModuleCache.Agrees`) whatever has become of the instances, so that all this holds of a
batch at any site.

Results:
- `Resolution.Settles` and its rules: a resolution asks for a sequence of loads and ends as a computation without a cache
  does; sequences of resolutions that follow one another are put together;
- `Router.settles_resolve`: a line asks for its loads, up to those that are held;
- `Router.settles_resolveAll`: so does a batch, line after line, up to the first that fails;
- `Router.asks_of_blueprint`: a line that is refused by the table alone has asked for everything it names;
- `Router.route_loads`: the loads of a call, exactly.
-/
import Switchboard.Proofs.Accounts
import Switchboard.Proofs.Provision

namespace Switchboard

variable {ι ρ ω α β γ δ : Type}

/-! ## Loads in order -/

/-- what is asked for upon a value; upon a refusal, nothing -/
def Load.upon (result : Except RouteError β) (next : β → List Load) : List Load :=
  match result with
  | .ok b => next b
  | .error _ => []

namespace ModuleSource

variable (source : ModuleSource ι ρ ω)

/-- what is held once the load was asked for; a load that fails leaves nothing -/
def after (held : Load → Bool) (load : Load) : Load → Bool := fun other =>
  held other || (decide (other = load) && source.has load)

/-- the loads in order, without those of modules that are held or have been loaded before them -/
def fresh : (Load → Bool) → List Load → List Load
  | _, [] => []
  | held, load :: loads => (if held load then [] else [load]) ++ fresh (source.after held load) loads

/-- the loads of middlewares in order, up to and including the first that fails -/
def middlewareAsks : List Text → List Load
  | [] => []
  | name :: names => .middleware name :: Load.upon (source.middleware name) fun _ => middlewareAsks names

variable {source}

theorem fresh_append (held : Load → Bool) (loads more : List Load) :
    source.fresh held (loads ++ more) =
      source.fresh held loads ++ source.fresh (loads.foldl source.after held) more := by
  induction loads generalizing held with
  | nil => rfl
  | cons load loads ih =>
    rw [List.cons_append, fresh, fresh, ih, List.append_assoc, List.foldl_cons]

theorem middlewareAsks_of_ok {names : List Text} {bindings : List MiddlewareBinding}
    (h : source.middlewareList names = .ok bindings) :
    source.middlewareAsks names = names.map .middleware ∧
      ∀ load ∈ names.map Load.middleware, source.has load = true := by
  induction names generalizing bindings with
  | nil => exact ⟨rfl, by simp⟩
  | cons name names ih =>
    obtain ⟨middleware, hload, h⟩ := except_bind_eq_ok.1 h
    obtain ⟨others, hothers, -⟩ := except_bind_eq_ok.1 h
    obtain ⟨hnames, hhas⟩ := ih hothers
    refine ⟨by simp only [middlewareAsks, Load.upon, hload, hnames, List.map_cons], ?_⟩
    rw [List.map_cons, List.forall_mem_cons]
    exact ⟨has_middleware hload, hhas⟩

/-- nothing more is held after a load that fails -/
theorem after_of_not_has {held : Load → Bool} {load : Load} (h : source.has load = false) :
    source.after held load = held := by
  funext other
  simp [after, h]

theorem after_of_held {held : Load → Bool} {load : Load} (h : held load = true) : source.after held load = held := by
  funext other
  by_cases hother : other = load
  · subst hother
    simp [after, h]
  · simp [after, hother]

end ModuleSource

/-! ## Caches that agree with their source -/

/-- every cached module is what the source gives under its name -/
structure ModuleCache.Agrees (source : ModuleSource ι ρ ω) (cache : ModuleCache ι ω) : Prop where
  controllers : ∀ binding ∈ cache.controllers, ∃ loaded, source.controller binding.name = .ok loaded ∧
    binding.actions = loaded.actions
  middlewares : ∀ binding ∈ cache.middlewares, source.middleware binding.name = .ok binding.middleware

theorem ModuleCache.Backed.agrees {source : ModuleSource ι ρ ω} {context : Context ρ} {s : ResolutionState ι ω}
    (h : Backed source context s) : s.1.Agrees source where
  controllers binding hbinding := by
    obtain ⟨loaded, hload, hactions, -⟩ := h.controllers binding hbinding
    exact ⟨loaded, hload, hactions⟩
  middlewares := h.middlewares

namespace Resolution

variable {source : ModuleSource ι ρ ω} {asked more : List Load} {s s' t u : ResolutionState ι ω}

/-- From one state to the other these were asked for: what was not held was loaded, and what could be is held. -/
structure Asked (source : ModuleSource ι ρ ω) (asked : List Load) (s s' : ResolutionState ι ω) : Prop where
  loads : s'.2.loads = s.2.loads ++ source.fresh s.1.holds asked
  holds : s'.1.holds = asked.foldl source.after s.1.holds
  agrees : s'.1.Agrees source

theorem Asked.refl (h : s.1.Agrees source) : Asked source [] s s where
  loads := (List.append_nil _).symm
  holds := rfl
  agrees := h

theorem Asked.trans (hst : Asked source asked s t) (htu : Asked source more t u) :
    Asked source (asked ++ more) s u where
  loads := by rw [htu.loads, hst.loads, hst.holds, List.append_assoc, ModuleSource.fresh_append]
  holds := by rw [htu.holds, hst.holds, List.foldl_append]
  agrees := htu.agrees

theorem Asked.atSite (h : Asked source asked s s') {site : Site ι ω} (hloads : site.loads = s'.2.loads) :
    Asked source asked s (s'.1, site) where
  loads := hloads.trans h.loads
  holds := h.holds
  agrees := h.agrees

/-- The resolution asks for these and ends as the computation does: both in values for which `R` holds, or both in the
same refusal. -/
inductive Settles (source : ModuleSource ι ρ ω) (asked : List Load) (R : α → β → Prop) (s : ResolutionState ι ω) :
    EStateM.Result RouteError (ResolutionState ι ω) α → Except RouteError β → Prop
  | ok {a : α} {b : β} {s' : ResolutionState ι ω} : R a b → Asked source asked s s' →
      Settles source asked R s (.ok a s') (.ok b)
  | error {e : RouteError} {s' : ResolutionState ι ω} : Asked source asked s s' →
      Settles source asked R s (.error e s') (.error e)

section Settles

variable {R : α → β → Prop} {Q : γ → δ → Prop} {x : Resolution ι ω α} {y : Except RouteError β}
  {f : α → Resolution ι ω γ} {g : β → Except RouteError δ}

theorem settles_ofExcept (h : s.1.Agrees source) (y : Except RouteError β) :
    Settles source [] Eq s ((MonadExcept.ofExcept y : Resolution ι ω β) s) y := by
  cases y with
  | ok b => exact .ok rfl (.refl h)
  | error e => exact .error (.refl h)

theorem Settles.bind_error {e : RouteError} (hx : Settles source asked R s (x s) (.error e)) :
    Settles source asked Q s ((x >>= f) s) (.error e) := by
  simp only [Bind.bind, EStateM.bind]
  generalize x s = result at hx
  cases hx with
  | error hasked => exact .error hasked

theorem Settles.bind_ok {b : β} {z : Except RouteError δ} (hx : Settles source asked R s (x s) (.ok b))
    (hf : ∀ a s', R a b → s'.1.Agrees source → Settles source more Q s' (f a s') z) :
    Settles source (asked ++ more) Q s ((x >>= f) s) z := by
  simp only [Bind.bind, EStateM.bind]
  generalize x s = result at hx
  cases hx with
  | @ok a _ s' hR hasked =>
    have hrest := hf a s' hR hasked.agrees
    show Settles source (asked ++ more) Q s (f a s') z
    generalize f a s' = last at hrest
    cases hrest with
    | ok hQ hmore => exact .ok hQ (hasked.trans hmore)
    | error hmore => exact .error (hasked.trans hmore)

/-- what is asked for next depends on what the computation has come to -/
theorem Settles.bind (next : β → List Load) (hx : Settles source asked R s (x s) y)
    (hf : ∀ a b s', R a b → s'.1.Agrees source → Settles source (next b) Q s' (f a s') (g b)) :
    Settles source (asked ++ Load.upon y next) Q s ((x >>= f) s) (y >>= g) := by
  cases y with
  | error e =>
    have hnone : asked ++ Load.upon (.error e) next = asked := List.append_nil asked
    rw [hnone]
    exact hx.bind_error
  | ok b => exact hx.bind_ok fun a s' => hf a b s'

theorem Settles.andThen (hx : Settles source asked R s (x s) y)
    (hf : ∀ a b s', R a b → s'.1.Agrees source → Settles source [] Q s' (f a s') (g b)) :
    Settles source asked Q s ((x >>= f) s) (y >>= g) := by
  have hbind := hx.bind (fun _ => []) hf
  have hnone : Load.upon y (fun _ => []) = [] := by
    cases y <;> rfl
  rwa [hnone, List.append_nil] at hbind

end Settles

end Resolution

/-! ## One load -/

namespace ModuleCache

open Resolution

variable {source : ModuleSource ι ρ ω} {s : ResolutionState ι ω} {cache : ModuleCache ι ω} {site : Site ι ω}
  {load : Load}

/-- what is held is not loaded again -/
theorem asked_of_held (h : cache.Agrees source) (hheld : cache.holds load = true) :
    Asked source [load] (cache, site) (cache, site) where
  loads := by simp [ModuleSource.fresh, hheld]
  holds := (ModuleSource.after_of_held hheld).symm
  agrees := h

theorem asked_of_failing (h : cache.Agrees source) (hheld : cache.holds load = false)
    (hhas : source.has load = false) : Asked source [load] (cache, site) (cache, site.noteLoad load) where
  loads := by simp [ModuleSource.fresh, hheld, Site.noteLoad]
  holds := (ModuleSource.after_of_not_has hhas).symm
  agrees := h

theorem asked_of_loading {cache' : ModuleCache ι ω} {site' : Site ι ω} (h : cache'.Agrees source)
    (hheld : cache.holds load = false) (hhas : source.has load = true)
    (hholds : ∀ other, cache'.holds other = true ↔ cache.holds other = true ∨ other = load)
    (hloads : site'.loads = site.loads ++ [load]) : Asked source [load] (cache, site) (cache', site') where
  loads := by simp [ModuleSource.fresh, hheld, hloads]
  holds := by
    funext other
    rw [Bool.eq_iff_iff, hholds other]
    simp [ModuleSource.after, hhas]
  agrees := h

/-- A controller is asked for by its name, and has the actions that the source gives it. -/
theorem settles_controller (h : s.1.Agrees source) (context : Context ρ) (name : Text) :
    Settles source [.controller name] (fun binding loaded => binding.actions = loaded.actions) s
      (controller name context (source.controller name) s) (source.controller name) := by
  obtain ⟨cache, site⟩ := s
  cases hc : cache.controller? name with
  | some binding =>
    obtain ⟨hmem, rfl⟩ := mem_of_controller? hc
    obtain ⟨loaded, hload, hactions⟩ := h.controllers binding hmem
    rw [controller_hit hc, hload]
    exact .ok hactions (asked_of_held h (by simp [hc]))
  | none =>
    have hheld : cache.holds (.controller name) = false := by simp [hc]
    cases hload : source.controller name with
    | error e =>
      rw [controller_refused hc]
      exact .error (asked_of_failing h hheld (ModuleSource.not_has_controller hload))
    | ok loaded =>
      rw [controller_loaded hc]
      refine .ok rfl (asked_of_loading ⟨fun binding hbinding => ?_, h.middlewares⟩ hheld
        (ModuleSource.has_controller hload) (cache.holds_addController _) rfl)
      rcases List.mem_append.1 hbinding with hold | hnew
      · exact h.controllers binding hold
      · obtain rfl := List.mem_singleton.1 hnew
        exact ⟨loaded, hload, rfl⟩

theorem settles_middleware (h : s.1.Agrees source) (name : Text) :
    Settles source [.middleware name] (fun _ _ => True) s (middleware name (source.middleware name) s)
      (source.middleware name) := by
  obtain ⟨cache, site⟩ := s
  cases hc : cache.middleware? name with
  | some binding =>
    obtain ⟨hmem, rfl⟩ := mem_of_middleware? hc
    rw [middleware_hit hc, h.middlewares binding hmem]
    exact .ok trivial (asked_of_held h (by simp [hc]))
  | none =>
    have hheld : cache.holds (.middleware name) = false := by simp [hc]
    cases hload : source.middleware name with
    | error e =>
      rw [middleware_refused hc]
      exact .error (asked_of_failing h hheld (ModuleSource.not_has_middleware hload))
    | ok loaded =>
      rw [middleware_loaded hc]
      refine .ok trivial (asked_of_loading ⟨h.controllers, fun binding hbinding => ?_⟩ hheld
        (ModuleSource.has_middleware hload) (cache.holds_addMiddleware _) rfl)
      rcases List.mem_append.1 hbinding with hold | hnew
      · exact h.middlewares binding hold
      · obtain rfl := List.mem_singleton.1 hnew
        exact hload

/-- Middlewares are asked for in listed order, up to the first that fails. -/
theorem settles_middlewareList (h : s.1.Agrees source) (names : List Text) :
    Settles source (source.middlewareAsks names) (fun _ _ => True) s (middlewareList source names s)
      (source.middlewareList names) := by
  induction names generalizing s with
  | nil => exact .ok trivial (.refl h)
  | cons name names ih =>
    refine (settles_middleware h name).bind (fun _ => source.middlewareAsks names) ?_
    rintro binding loaded t - ht
    exact (ih ht).andThen fun bindings others u _ hu => .ok trivial (.refl hu)

end ModuleCache

namespace Router

open Resolution

variable {router : Router ι ρ ω} {mount line : Text} {table : RouteTable} {s : ResolutionState ι ω}

/-! ## One line -/

/-- What a line under a mount path asks for where nothing is cached: nothing if it is not read completely or its path is
no pattern, else its controller, and then, if that has the action, its middlewares. -/
def asks (router : Router ι ρ ω) (mount line : Text) : List Load :=
  Load.upon (RouteLine.read line router.settings.delimiter) fun spec =>
    Load.upon (Pattern.parse (Path.compose mount spec.path)) fun _ =>
      .controller spec.controller ::
        Load.upon (router.source.controller spec.controller) fun loaded =>
          match loaded.actions.find? spec.action with
          | none => []
          | some _ => router.source.middlewareAsks spec.middleware

/-- a line that is not read completely, or whose path is no pattern, asks for nothing -/
theorem asks_of_unread (h : ∀ spec, RouteLine.read line router.settings.delimiter = .ok spec →
    ∀ pattern, Pattern.parse (Path.compose mount spec.path) ≠ .ok pattern) : router.asks mount line = [] := by
  unfold asks
  cases hread : RouteLine.read line router.settings.delimiter with
  | error e => rfl
  | ok spec =>
    cases hparse : Pattern.parse (Path.compose mount spec.path) with
    | error e => simp only [Load.upon, hparse]
    | ok pattern => exact absurd hparse (h spec hread pattern)

/-- A line that has a blueprint asks for everything that it names, and all of it is there. -/
theorem asks_of_blueprint {blueprint : Blueprint ι ω} (h : router.blueprint mount line = .ok blueprint) :
    ∃ spec, RouteLine.read line router.settings.delimiter = .ok spec ∧
      router.asks mount line = .controller spec.controller :: spec.middleware.map .middleware ∧
      ∀ load ∈ router.asks mount line, router.source.has load = true := by
  obtain ⟨spec, pattern, loaded, action, middleware, hread, hparse, hload, haction, hmiddleware, -⟩ :=
    blueprint_eq_ok h
  obtain ⟨hnames, hhas⟩ := ModuleSource.middlewareAsks_of_ok hmiddleware
  have hasks : router.asks mount line = .controller spec.controller :: spec.middleware.map .middleware := by
    simp only [asks, Load.upon, hread, hparse, hload, haction, hnames]
  refine ⟨spec, hread, hasks, ?_⟩
  rw [hasks, List.forall_mem_cons]
  exact ⟨ModuleSource.has_controller hload, hhas⟩

/-- the table with the route of a line, told without a cache -/
def enter (router : Router ι ρ ω) (mount : Text) (table : RouteTable) (line : Text) : Except RouteError RouteTable := do
  let blueprint ← router.blueprint mount line
  let entered := table.insert blueprint.method blueprint.pattern
  entered.1
  pure entered.2

/-- A line asks for its loads and comes to a route that enters what its blueprint does. -/
theorem settles_resolve (h : s.1.Agrees router.source) (mount line : Text) :
    Settles router.source (router.asks mount line) (fun route blueprint => route.entry = blueprint.entry) s
      (router.resolve mount line s) (router.blueprint mount line) := by
  refine (settles_ofExcept h _).bind _ ?_
  rintro spec _ s₁ rfl h₁
  refine (settles_ofExcept h₁ _).bind _ ?_
  rintro pattern _ s₂ rfl h₂
  refine (ModuleCache.settles_controller h₂ _ _).bind _ ?_
  intro binding loaded s₃ hactions h₃
  rw [hactions]
  cases loaded.actions.find? spec.action with
  | none => exact .error (.refl h₃)
  | some action => exact (ModuleCache.settles_middlewareList h₃ _).andThen fun _ _ s₄ _ h₄ => .ok rfl (.refl h₄)

theorem settles_resolveInto (h : s.1.Agrees router.source) (mount : Text) (table : RouteTable) (line : Text) :
    Settles router.source (router.asks mount line) (fun found next => found.2 = next) s
      (router.resolveInto mount table line s) (router.enter mount table line) := by
  refine (settles_resolve h mount line).andThen fun route blueprint t hentry ht => ?_
  obtain ⟨hmethod, hpattern⟩ := Prod.mk.inj hentry
  rw [← hmethod, ← hpattern]
  rcases table.insert_cases route.method route.pattern with ⟨e, hinsert⟩ | ⟨next, hinsert⟩ <;> rw [hinsert]
  · exact .error (.refl ht)
  · exact .ok rfl (.refl ht)

theorem settles_reporting {asked : List Load} {R : α → β → Prop} {x : Resolution ι ω α} {y : Except RouteError β}
    (event : RouteError → Event) (h : Settles router.source asked R s (x s) y) :
    Settles router.source asked R s (reporting event x s) y := by
  unfold reporting
  generalize x s = result at h
  cases h with
  | ok hR hasked => exact .ok hR hasked
  | error hasked => exact .error (hasked.atSite rfl)

/-! ## Batches -/

/-- The lines in order up to and including the first that fails, each entered into the table after those before it, and
the refusal of the one that fails. -/
inductive Attempted (router : Router ι ρ ω) (mount : Text) :
    RouteTable → List Text → List Text → Option RouteError → Prop
  | none (table : RouteTable) : Attempted router mount table [] [] none
  | fails {table : RouteTable} {line : Text} {e : RouteError} (lines : List Text) :
      router.enter mount table line = .error e → Attempted router mount table (line :: lines) [line] (some e)
  | enters {table next : RouteTable} {line : Text} {lines attempted : List Text} {refusal : Option RouteError} :
      router.enter mount table line = .ok next → Attempted router mount next lines attempted refusal →
      Attempted router mount table (line :: lines) (line :: attempted) refusal

/-- A batch asks for the loads of its lines, up to and including the first that fails, and is refused as that is. -/
theorem settles_resolveAll (router : Router ι ρ ω) (mount : Text) (table : RouteTable) (lines : List Text) :
    ∃ attempted refusal, Attempted router mount table lines attempted refusal ∧
      ∀ (number : Nat) (s : ResolutionState ι ω), s.1.Agrees router.source →
        Settles router.source (attempted.flatMap (router.asks mount)) (fun _ _ => True) s
          (router.resolveAll mount table number lines s) (refusal.elim (.ok ()) .error) := by
  induction lines generalizing table with
  | nil => exact ⟨[], none, .none table, fun number s h => .ok trivial (.refl h)⟩
  | cons line lines ih =>
    have hline : ∀ (number : Nat) (s : ResolutionState ι ω), s.1.Agrees router.source →
        Settles router.source (router.asks mount line) (fun found next => found.2 = next) s
          (reporting (.lineRefused number line) (router.resolveInto mount table line) s)
          (router.enter mount table line) :=
      fun number s h => settles_reporting _ (settles_resolveInto h mount table line)
    cases henter : router.enter mount table line with
    | error e =>
      refine ⟨[line], some e, .fails lines henter, fun number s h => ?_⟩
      have hrefused := hline number s h
      rw [henter] at hrefused
      rw [List.flatMap_singleton]
      exact hrefused.bind_error
    | ok next =>
      obtain ⟨attempted, refusal, hattempted, hrest⟩ := ih next
      refine ⟨line :: attempted, refusal, .enters henter hattempted, fun number s h => ?_⟩
      have hentered := hline number s h
      rw [henter] at hentered
      rw [List.flatMap_cons]
      refine hentered.bind_ok ?_
      rintro ⟨route, _⟩ t rfl ht
      have hmore := hrest (number + 1) t ht
      cases refusal with
      | none => exact hmore.andThen (g := fun _ => .ok ()) fun found _ u _ hu => .ok trivial (.refl hu)
      | some e => exact hmore.bind_error

/-! ## Calls -/

@[simp] theorem opening_loads (router : Router ι ρ ω) (mount : Text) (site : Site ι ω) :
    (router.opening mount site).loads = site.loads := by
  unfold opening
  split_ifs <;> rfl

theorem run_source {router' : Router ι ρ ω} {site site' : Site ι ω} {calls : List (Call ι ρ ω)}
    (ran : router.run site calls = (.ok router', site')) : router'.source = router.source := by
  refine run_induction (fun _ router' _ => router'.source = router.source) ?_ rfl ran
  intro call _ _ router' site router'' site' hsource hcall
  exact hcall.source_eq.trans hsource

/-- a batch is refused exactly as it is resolved, and loads nothing more once it is resolved -/
theorem route_of_resolveBatch {server : Server ι ω} (bound : router.server = some server) (lines : List Text)
    (mount : Text) (site : Site ι ω) :
    match router.resolveBatch lines mount site with
    | .error e s => router.route lines mount site = (.error (.refused e), s.2)
    | .ok _ s => (∀ e, (router.route lines mount site).1 ≠ .error (.refused e)) ∧
        (router.route lines mount site).2.loads = s.2.loads := by
  cases hresolve : router.resolveBatch lines mount site with
  | error e s => exact route_refused bound hresolve
  | ok found s =>
    obtain ⟨routes, table⟩ := found
    by_cases hold : server.CanHold routes
    · rw [route_registered bound hresolve hold]
      exact ⟨fun e h => (by cases h), rfl⟩
    · obtain ⟨before, route, after, -, -, heq⟩ := route_unhostable bound hresolve hold
      rw [heq]
      exact ⟨fun e h => (by cases h), rfl⟩

/-- **The loads of a call, exactly.** A batch on an initialised router, at whatever site, loads what its lines ask for,
line by line up to and including the first that fails, less what is cached or was loaded before. A line that is not read
completely asks for nothing; one that the table alone refuses has asked for everything it names. Over any run, no module
is loaded twice with success. -/
theorem route_loads {source : ModuleSource ι ρ ω} {settings : RoutingSettings} {site₀ site : Site ι ω}
    {calls : List (Call ι ρ ω)} {router : Router ι ρ ω} {server : Server ι ω}
    (ran : (Router.empty source settings).run site₀ calls = (.ok router, site)) (bound : router.server = some server)
    (lines : List Text) (mount : Text) (now : Site ι ω) :
    (∃ attempted refusal, Attempted router mount router.table lines attempted refusal ∧
        (∀ e, (router.route lines mount now).1 = .error (.refused e) ↔ refusal = some e) ∧
        (router.route lines mount now).2.loads =
          now.loads ++ source.fresh router.cache.holds (attempted.flatMap (router.asks mount))) ∧
      (∀ line, (∀ spec, RouteLine.read line router.settings.delimiter = .ok spec →
          ∀ pattern, Pattern.parse (Path.compose mount spec.path) ≠ .ok pattern) → router.asks mount line = []) ∧
      (∀ line blueprint, router.blueprint mount line = .ok blueprint →
        ∃ spec, RouteLine.read line router.settings.delimiter = .ok spec ∧
          router.asks mount line = .controller spec.controller :: spec.middleware.map .middleware ∧
          ∀ load ∈ router.asks mount line, source.has load = true) ∧
      ∀ (world : ω) (acts : List (Act ι ρ ω)),
        (((Stage.opening source settings { world }).enact acts).site.loads.filter source.has).Nodup := by
  obtain rfl : router.source = source := run_source ran
  refine ⟨?_, fun line => asks_of_unread, fun line blueprint => asks_of_blueprint, fun world acts => ?_⟩
  · have hprovided : ∃ accepted, Provided (fun _ => True) site₀.registrations router site accepted :=
      run_provided (fun _ _ _ _ => trivial) ran
    obtain ⟨accepted, hprovided⟩ := hprovided
    obtain ⟨attempted, refusal, hattempted, hsettles⟩ := settles_resolveAll router mount router.table lines
    refine ⟨attempted, refusal, hattempted, ?_⟩
    have hresolved := hsettles 1 (router.cache, router.opening mount now) hprovided.backed.agrees
    have hroute := route_of_resolveBatch bound lines mount now
    have hopening := router.opening_loads mount now
    unfold resolveBatch at hroute
    generalize router.resolveAll mount router.table 1 lines (router.cache, router.opening mount now) = result at *
    cases refusal with
    | none =>
      cases hresolved with
      | ok _ hasked =>
        refine ⟨fun e => ⟨fun h => absurd h (hroute.1 e), fun h => (by cases h)⟩, ?_⟩
        rw [hroute.2, hasked.loads, hopening]
    | some e =>
      cases hresolved with
      | error hasked =>
        rw [hroute]
        refine ⟨fun e' => ⟨fun h => ?_, fun h => ?_⟩, ?_⟩
        · cases h
          rfl
        · cases h
          rfl
        · rw [hasked.loads, hopening]
  · have haccounted := enact_accounted (accounted_opening router.source settings world) acts
    rw [← haccounted.loads.loaded]
    exact haccounted.loads.once

/-- Another batch after `/users/:id`: the second line names that capture otherwise and is refused once its controller and
its middleware are loaded. Of the first line only the middleware `stamp` is new, and the third is never read. -/
theorem route_loads_users :
    ∃ router site server,
      Sample.outcome (Server.recording {}) ["get /users/:id Page@show auth"] = (.ok router, site) ∧
      router.server = some server ∧
      ∃ attempted refusal,
        Attempted router [] router.table
          ["post /users Page@show stamp auth stamp", "get /users/:name Users@show log", "put /new Other@show"]
          attempted refusal ∧
        Sample.source.fresh router.cache.holds (attempted.flatMap (router.asks [])) =
          [.middleware "stamp", .controller "Users", .middleware "log"] := by
  let lines : List Text :=
    ["post /users Page@show stamp auth stamp", "get /users/:name Users@show log", "put /new Other@show"]
  have hheld : (hostOf (Sample.outcome (Server.recording {}) ["get /users/:id Page@show auth"])).any
      (·.routes.length = 1) = true := by
    decide +kernel
  have hloads : (Sample.outcome (Server.recording {}) ["get /users/:id Page@show auth"]).1.toOption.map
      (fun router => (router.route lines [] { world := () }).2.loads) =
        some [.middleware "stamp", .controller "Users", .middleware "log"] := by
    decide +kernel
  obtain ⟨router, site, server, ran, bound, -⟩ := exists_of_hostOf hheld
  obtain ⟨⟨attempted, refusal, hattempted, -, hfresh⟩, -⟩ := route_loads ran bound lines [] { world := () }
  refine ⟨router, site, server, ran, bound, attempted, refusal, hattempted, ?_⟩
  rw [ran] at hloads
  exact hfresh.symm.trans (Option.some.inj hloads)

end Router

end Switchboard
