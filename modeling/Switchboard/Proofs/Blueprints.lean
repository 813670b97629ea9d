/-
What a route line stands for, told without a cache.

A line is resolved through the cache, which answers a name that it knows and asks the source for any other.
`Router.blueprint` asks the source every time and keeps nothing.

- `ModuleCache.Backed`: the cache holds what the source gives, each name once.
- `Resolution.Follows`: a resolution ends as a computation without a cache does, in related values or in the same
  refusal, and leaves a cache that is still backed. Computations that follow one another step by step follow as a whole
  (`Follows.bind`).
- `follows_resolve`: resolving a line follows its blueprint, to the same refusal or to a route built from it
  (`Blueprint.Built`). So what a line resolves to does not depend on what was resolved before.
- `Resolves.built` and `Blueprints.exists_resolves`: lines resolve one after the other exactly if each has a blueprint.
-/
import Switchboard.Proofs.Resolutions

namespace Switchboard

variable {ι ρ ω α β γ δ : Type}

theorem exists_of_mem_right {R : α → β → Prop} {l : List α} {l' : List β} (h : List.Forall₂ R l l') {b : β}
    (hb : b ∈ l') : ∃ a ∈ l, R a b := by
  induction h with
  | nil => exact absurd hb List.not_mem_nil
  | @cons a c l l' hac _ ih =>
    rcases List.mem_cons.1 hb with rfl | hb
    · exact ⟨a, List.mem_cons_self, hac⟩
    · obtain ⟨a', ha', hR⟩ := ih hb
      exact ⟨a', List.mem_cons_of_mem _ ha', hR⟩

theorem exists_of_mem_left {R : α → β → Prop} {l : List α} {l' : List β} (h : List.Forall₂ R l l') {a : α}
    (ha : a ∈ l) : ∃ b ∈ l', R a b :=
  exists_of_mem_right (List.Forall₂.flip (R := flip R) h) ha

theorem except_bind_eq_ok {x : Except γ α} {f : α → Except γ β} {b : β} :
    (x >>= f) = .ok b ↔ ∃ a, x = .ok a ∧ f a = .ok b := by
  cases x with
  | error e => simp [bind, Except.bind]
  | ok a => simp [bind, Except.bind]

/-! ## A cache that agrees with its source -/

/-- Every cached module is the one that the source gives under its name, and every name is cached once. The instance of
a cached controller is the one that it was initialised to. -/
structure ModuleCache.Backed (source : ModuleSource ι ρ ω) (context : Context ρ) (s : ResolutionState ι ω) : Prop where
  controllers : ∀ binding ∈ s.1.controllers, ∃ loaded, source.controller binding.name = .ok loaded ∧
    binding.actions = loaded.actions ∧ s.2.instances[binding.slot]? = some (loaded.init context)
  middlewares : ∀ binding ∈ s.1.middlewares, source.middleware binding.name = .ok binding.middleware
  controllersOnce : (s.1.controllers.map (·.name)).Nodup
  middlewaresOnce : (s.1.middlewares.map (·.name)).Nodup

theorem ModuleCache.backed_empty (source : ModuleSource ι ρ ω) (context : Context ρ) (site : Site ι ω) :
    Backed source context ({}, site) where
  controllers _ h := absurd h List.not_mem_nil
  middlewares _ h := absurd h List.not_mem_nil
  controllersOnce := List.nodup_nil
  middlewaresOnce := List.nodup_nil

theorem getElem?_of_prefix {l l' : List α} (h : l <+: l') {i : Nat} {a : α} (hi : l[i]? = some a) : l'[i]? = some a := by
  obtain ⟨more, rfl⟩ := h
  obtain ⟨hlt, -⟩ := List.getElem?_eq_some_iff.1 hi
  rw [List.getElem?_append_left hlt, hi]

/-- The records of the site and further instances are nothing to the cache. -/
theorem ModuleCache.Backed.atSite {source : ModuleSource ι ρ ω} {context : Context ρ} {cache : ModuleCache ι ω}
    {site site' : Site ι ω} (h : Backed source context (cache, site)) (hsite : site.instances <+: site'.instances) :
    Backed source context (cache, site') where
  controllers binding hbinding := by
    obtain ⟨loaded, hload, hactions, hinst⟩ := h.controllers binding hbinding
    exact ⟨loaded, hload, hactions, getElem?_of_prefix hsite hinst⟩
  middlewares := h.middlewares
  controllersOnce := h.controllersOnce
  middlewaresOnce := h.middlewaresOnce

/-! ## Following a computation without a cache -/

namespace Resolution

/-- what a part of a resolution leaves: a cache that is still backed, and the instances from before with others after -/
structure Advances (source : ModuleSource ι ρ ω) (context : Context ρ) (s s' : ResolutionState ι ω) : Prop where
  backed : ModuleCache.Backed source context s'
  instances : s.2.instances <+: s'.2.instances

theorem Advances.trans {source : ModuleSource ι ρ ω} {context : Context ρ} {s t u : ResolutionState ι ω}
    (hst : Advances source context s t) (htu : Advances source context t u) : Advances source context s u :=
  ⟨htu.backed, hst.instances.trans htu.instances⟩

/-- From this state the resolution ends as the computation does: both in values for which `R` holds, or both in the
same refusal. -/
def Follows (source : ModuleSource ι ρ ω) (context : Context ρ) (R : ResolutionState ι ω → α → β → Prop)
    (x : Resolution ι ω α) (y : Except RouteError β) (s : ResolutionState ι ω) : Prop :=
  match x s, y with
  | .ok a s', .ok b => Advances source context s s' ∧ R s' a b
  | .error e s', .error e' => Advances source context s s' ∧ e = e'
  | _, _ => False

section Follows

variable {source : ModuleSource ι ρ ω} {context : Context ρ} {s s' : ResolutionState ι ω}
  {R : ResolutionState ι ω → α → β → Prop} {x : Resolution ι ω α} {y : Except RouteError β}

theorem Follows.of_ok (h : Follows source context R x y s) {a : α} (hx : x s = .ok a s') :
    ∃ b, y = .ok b ∧ Advances source context s s' ∧ R s' a b := by
  unfold Follows at h
  rw [hx] at h
  cases y with
  | ok b => exact ⟨b, rfl, h⟩
  | error e => exact h.elim

theorem Follows.of_error (h : Follows source context R x y s) {e : RouteError} (hx : x s = .error e s') :
    y = .error e ∧ Advances source context s s' := by
  unfold Follows at h
  rw [hx] at h
  cases y with
  | ok b => exact h.elim
  | error e' => exact ⟨congrArg _ h.2.symm, h.1⟩

theorem Follows.exists_ok (h : Follows source context R x y s) {b : β} (hy : y = .ok b) :
    ∃ a s', x s = .ok a s' ∧ Advances source context s s' ∧ R s' a b := by
  cases hx : x s with
  | ok a s' =>
    obtain ⟨b', hb', hadvances, hR⟩ := h.of_ok hx
    obtain rfl : b' = b := by simpa [hy] using hb'.symm
    exact ⟨a, s', rfl, hadvances, hR⟩
  | error e s' =>
    rw [(h.of_error hx).1] at hy
    cases hy

theorem follows_ok {a : α} {b : β} (hx : x s = .ok a s') (hadvances : Advances source context s s') (hR : R s' a b) :
    Follows source context R x (.ok b) s := by
  simp only [Follows, hx]
  exact ⟨hadvances, hR⟩

theorem follows_error {e : RouteError} (hx : x s = .error e s') (hadvances : Advances source context s s') :
    Follows source context R x (.error e) s := by
  simp only [Follows, hx]
  exact ⟨hadvances, trivial⟩

theorem advances_refl (hs : ModuleCache.Backed source context s) : Advances source context s s :=
  ⟨hs, List.prefix_refl _⟩

theorem follows_pure (hs : ModuleCache.Backed source context s) {a : α} {b : β} (hR : R s a b) :
    Follows source context R (pure a : Resolution ι ω α) (pure b) s :=
  follows_ok rfl (advances_refl hs) hR

theorem follows_throw (hs : ModuleCache.Backed source context s) (e : RouteError) :
    Follows source context R (throw e : Resolution ι ω α) (throw e) s :=
  follows_error rfl (advances_refl hs)

theorem follows_ofExcept (hs : ModuleCache.Backed source context s) (y : Except RouteError α) :
    Follows source context (fun _ a b => a = b) (MonadExcept.ofExcept y : Resolution ι ω α) y s := by
  cases y with
  | ok a => exact follows_ok rfl (advances_refl hs) rfl
  | error e => exact follows_error rfl (advances_refl hs)

/-- Steps that follow one another make resolutions that do. -/
theorem Follows.bind {Q : ResolutionState ι ω → γ → δ → Prop} {f : α → Resolution ι ω γ} {g : β → Except RouteError δ}
    (hx : Follows source context R x y s)
    (hf : ∀ a b s', Advances source context s s' → R s' a b → Follows source context Q (f a) (g b) s') :
    Follows source context Q (x >>= f) (y >>= g) s := by
  cases hxs : x s with
  | error e s' =>
    obtain ⟨rfl, hadvances⟩ := hx.of_error hxs
    exact follows_error (bind_eq_error.2 (Or.inl hxs)) hadvances
  | ok a s' =>
    obtain ⟨b, rfl, hadvances, hR⟩ := hx.of_ok hxs
    have hrest : Follows source context Q (f a) (g b) s' := hf a b s' hadvances hR
    show Follows source context Q (x >>= f) (g b) s
    cases hfs : f a s' with
    | error e s'' =>
      obtain ⟨hg, hadvances'⟩ := hrest.of_error hfs
      rw [hg]
      exact follows_error (bind_eq_error.2 (Or.inr ⟨a, s', hxs, hfs⟩)) (hadvances.trans hadvances')
    | ok c s'' =>
      obtain ⟨d, hg, hadvances', hQ⟩ := hrest.of_ok hfs
      rw [hg]
      exact follows_ok (bind_eq_ok.2 ⟨a, s', hxs, hfs⟩) (hadvances.trans hadvances') hQ

end Follows

end Resolution

/-! ## Loads -/

namespace ModuleCache

open Resolution

variable {source : ModuleSource ι ρ ω} {context : Context ρ} {s : ResolutionState ι ω} {name : Text}

theorem mem_of_controller? {cache : ModuleCache ι ω} {binding : ControllerBinding ι ω}
    (h : cache.controller? name = some binding) : binding ∈ cache.controllers ∧ binding.name = name :=
  ⟨List.mem_of_find?_eq_some h, by simpa using List.find?_some h⟩

theorem mem_of_middleware? {cache : ModuleCache ι ω} {binding : MiddlewareBinding}
    (h : cache.middleware? name = some binding) : binding ∈ cache.middlewares ∧ binding.name = name :=
  ⟨List.mem_of_find?_eq_some h, by simpa using List.find?_some h⟩

theorem not_mem_of_controller? {cache : ModuleCache ι ω} (h : cache.controller? name = none) :
    name ∉ cache.controllers.map (·.name) := by
  simpa [controller?] using h

theorem not_mem_of_middleware? {cache : ModuleCache ι ω} (h : cache.middleware? name = none) :
    name ∉ cache.middlewares.map (·.name) := by
  simpa [middleware?] using h

/-- the binding has the actions of the loaded controller, and its slot holds the initialised instance -/
def Binds (context : Context ρ) (s : ResolutionState ι ω) (binding : ControllerBinding ι ω)
    (loaded : Controller ι ρ ω) : Prop :=
  binding.actions = loaded.actions ∧ s.2.instances[binding.slot]? = some (loaded.init context)

/-- A controller is what the source gives, cached or not. -/
theorem follows_controller (hs : Backed source context s) (name : Text) :
    Follows source context (Binds context) (controller name context (source.controller name)) (source.controller name)
      s := by
  obtain ⟨cache, site⟩ := s
  cases hc : cache.controller? name with
  | some binding =>
    obtain ⟨hmem, rfl⟩ := mem_of_controller? hc
    obtain ⟨loaded, hload, hbinds⟩ := hs.controllers binding hmem
    rw [hload]
    exact follows_ok (controller_hit hc context _ site) (advances_refl hs) hbinds
  | none =>
    cases hload : source.controller name with
    | error e =>
      exact follows_error (controller_refused hc context e site) ⟨hs.atSite (List.prefix_refl _), List.prefix_refl _⟩
    | ok loaded =>
      have hslot : (site.instances ++ [loaded.init context])[site.instances.length]? = some (loaded.init context) := by
        simp
      have hgrown : site.instances <+: site.instances ++ [loaded.init context] := List.prefix_append _ _
      refine follows_ok (controller_loaded hc context loaded site) ⟨?_, hgrown⟩ ⟨rfl, hslot⟩
      refine ⟨fun binding hbinding => ?_, hs.middlewares, ?_, hs.middlewaresOnce⟩
      · rcases List.mem_append.1 hbinding with hold | hnew
        · obtain ⟨other, hother, hactions, hinst⟩ := hs.controllers binding hold
          exact ⟨other, hother, hactions, getElem?_of_prefix hgrown hinst⟩
        · obtain rfl := List.mem_singleton.1 hnew
          exact ⟨loaded, hload, rfl, hslot⟩
      · rw [List.map_append, List.map_singleton, ← List.concat_eq_append]
        exact hs.controllersOnce.concat (not_mem_of_controller? hc)

/-- A middleware is what the source gives, cached or not. -/
theorem follows_middleware (hs : Backed source context s) (name : Text) :
    Follows source context (fun _ binding loaded => binding = { name, middleware := loaded })
      (middleware name (source.middleware name)) (source.middleware name) s := by
  obtain ⟨cache, site⟩ := s
  cases hc : cache.middleware? name with
  | some binding =>
    obtain ⟨hmem, rfl⟩ := mem_of_middleware? hc
    rw [hs.middlewares binding hmem]
    exact follows_ok (middleware_hit hc _ site) (advances_refl hs) rfl
  | none =>
    cases hload : source.middleware name with
    | error e =>
      exact follows_error (middleware_refused hc e site) ⟨hs.atSite (List.prefix_refl _), List.prefix_refl _⟩
    | ok loaded =>
      have hnext : Backed source context (cache, (site.noteLoad (.middleware name)).report (.middlewareLoaded name)) :=
        hs.atSite (List.prefix_refl _)
      refine follows_ok (middleware_loaded hc loaded site) ⟨?_, List.prefix_refl _⟩ rfl
      refine ⟨hnext.controllers, fun binding hbinding => ?_, hs.controllersOnce, ?_⟩
      · rcases List.mem_append.1 hbinding with hold | hnew
        · exact hs.middlewares binding hold
        · obtain rfl := List.mem_singleton.1 hnew
          exact hload
      · rw [List.map_append, List.map_singleton, ← List.concat_eq_append]
        exact hs.middlewaresOnce.concat (not_mem_of_middleware? hc)

end ModuleCache

/-- the middlewares of those names in order, each as the source gives it, up to the first that it refuses -/
def ModuleSource.middlewareList (source : ModuleSource ι ρ ω) : List Text → Except RouteError (List MiddlewareBinding)
  | [] => pure []
  | name :: names => do
    let middleware ← source.middleware name
    let bindings ← source.middlewareList names
    pure ({ name, middleware } :: bindings)

/-- middlewares are bound under the names that they are asked for by -/
theorem ModuleSource.names_of_middlewareList {source : ModuleSource ι ρ ω} {names : List Text}
    {bindings : List MiddlewareBinding} (h : source.middlewareList names = .ok bindings) :
    bindings.map (·.name) = names := by
  induction names generalizing bindings with
  | nil =>
    cases h
    rfl
  | cons name names ih =>
    obtain ⟨middleware, -, h⟩ := except_bind_eq_ok.1 h
    obtain ⟨others, hothers, h⟩ := except_bind_eq_ok.1 h
    cases h
    rw [List.map_cons, ih hothers]

theorem ModuleCache.follows_middlewareList {source : ModuleSource ι ρ ω} {context : Context ρ}
    {s : ResolutionState ι ω} (hs : Backed source context s) (names : List Text) :
    Resolution.Follows source context (fun _ bindings loaded => bindings = loaded)
      (ModuleCache.middlewareList source names) (source.middlewareList names) s := by
  induction names generalizing s with
  | nil => exact Resolution.follows_pure hs rfl
  | cons name names ih =>
    refine (follows_middleware hs name).bind fun binding loaded s' hadvances hbinding => ?_
    refine (ih hadvances.backed).bind fun bindings others s'' hadvances' hbindings => ?_
    exact Resolution.follows_pure hadvances'.backed (by rw [hbinding, hbindings])

/-! ## Blueprints -/

/-- what a line stands for: a route, where the instance of the controller stands in place of its number -/
structure Blueprint (ι ω : Type) where
  method : Method
  pattern : Pattern
  target : Text
  middleware : List MiddlewareBinding
  /-- the instance as it is initialised -/
  inst : ι
  action : Action ι ω

namespace Blueprint

def entry (blueprint : Blueprint ι ω) : TableEntry :=
  (blueprint.method, blueprint.pattern)

/-- the route is the one that the blueprint describes, its instance found among these -/
structure Built (instances : List ι) (blueprint : Blueprint ι ω) (route : Route ι ω) : Prop where
  method : route.method = blueprint.method
  pattern : route.pattern = blueprint.pattern
  target : route.target = blueprint.target
  middleware : route.middleware = blueprint.middleware
  inst : instances[route.slot]? = some blueprint.inst
  action : route.action = blueprint.action

theorem Built.mono {instances instances' : List ι} {blueprint : Blueprint ι ω} {route : Route ι ω}
    (h : Built instances blueprint route) (hinstances : instances <+: instances') : Built instances' blueprint route :=
  { h with inst := getElem?_of_prefix hinstances h.inst }

theorem Built.entry_eq {instances : List ι} {blueprint : Blueprint ι ω} {route : Route ι ω}
    (h : Built instances blueprint route) : route.entry = blueprint.entry :=
  Prod.ext h.method h.pattern

end Blueprint

namespace Router

/-- What a line under a mount path stands for: what resolving it comes to where nothing is cached. -/
def blueprint (router : Router ι ρ ω) (mount line : Text) : Except RouteError (Blueprint ι ω) := do
  let spec ← RouteLine.read line router.settings.delimiter
  let pattern ← Pattern.parse (Path.compose mount spec.path)
  let loaded ← router.source.controller spec.controller
  match loaded.actions.find? spec.action with
  | none => throw (.actionMissing spec.controller spec.action)
  | some action =>
    let middleware ← router.source.middlewareList spec.middleware
    pure { method := spec.method, pattern, target := spec.target router.settings.delimiter, middleware,
           inst := loaded.init router.context, action }

/-- everything that a line with a blueprint has gone through -/
theorem blueprint_eq_ok {router : Router ι ρ ω} {mount line : Text} {blueprint : Blueprint ι ω}
    (h : router.blueprint mount line = .ok blueprint) :
    ∃ spec pattern loaded action middleware, RouteLine.read line router.settings.delimiter = .ok spec ∧
      Pattern.parse (Path.compose mount spec.path) = .ok pattern ∧
      router.source.controller spec.controller = .ok loaded ∧ loaded.actions.find? spec.action = some action ∧
      router.source.middlewareList spec.middleware = .ok middleware ∧
      blueprint = { method := spec.method, pattern, target := spec.target router.settings.delimiter, middleware,
                    inst := loaded.init router.context, action } := by
  obtain ⟨spec, hread, h⟩ := except_bind_eq_ok.1 h
  obtain ⟨pattern, hparse, h⟩ := except_bind_eq_ok.1 h
  obtain ⟨loaded, hload, h⟩ := except_bind_eq_ok.1 h
  cases haction : loaded.actions.find? spec.action with
  | none =>
    rw [haction] at h
    cases h
  | some action =>
    rw [haction] at h
    obtain ⟨middleware, hmiddleware, h⟩ := except_bind_eq_ok.1 h
    cases h
    exact ⟨spec, pattern, loaded, action, middleware, hread, hparse, hload, haction, hmiddleware, rfl⟩

section Blueprints

variable {router : Router ι ρ ω} {mount : Text} {s s' : ResolutionState ι ω}

/-- Resolving a line comes to what its blueprint says, whatever was resolved before. -/
theorem follows_resolve (hs : ModuleCache.Backed router.source router.context s) (mount line : Text) :
    Resolution.Follows router.source router.context (fun s' route blueprint => blueprint.Built s'.2.instances route)
      (router.resolve mount line) (router.blueprint mount line) s := by
  refine (Resolution.follows_ofExcept hs _).bind fun spec _ s₁ h₁ hspec => ?_
  subst hspec
  refine (Resolution.follows_ofExcept h₁.backed _).bind fun pattern _ s₂ h₂ hpattern => ?_
  subst hpattern
  refine (ModuleCache.follows_controller h₂.backed _).bind fun binding loaded s₃ h₃ hbinds => ?_
  rw [hbinds.1]
  cases loaded.actions.find? spec.action with
  | none => exact Resolution.follows_throw h₃.backed _
  | some action =>
    refine (ModuleCache.follows_middlewareList h₃.backed _).bind fun middleware _ s₄ h₄ hmiddleware => ?_
    subst hmiddleware
    exact Resolution.follows_pure h₄.backed ⟨rfl, rfl, rfl, rfl, getElem?_of_prefix h₄.instances hbinds.2, rfl⟩

def Blueprints (router : Router ι ρ ω) (mount : Text) : List Text → List (Blueprint ι ω) → Prop :=
  List.Forall₂ fun line blueprint => router.blueprint mount line = .ok blueprint

/-- lines that resolve one after the other have blueprints, from which their routes are built -/
theorem Resolves.built {lines : List Text} {routes : List (Route ι ω)} (h : Resolves router mount s lines routes s')
    (hs : ModuleCache.Backed router.source router.context s) :
    Resolution.Advances router.source router.context s s' ∧
      ∃ blueprints, router.Blueprints mount lines blueprints ∧
        List.Forall₂ (Blueprint.Built s'.2.instances) blueprints routes := by
  induction h with
  | nil s => exact ⟨Resolution.advances_refl hs, [], .nil, .nil⟩
  | @cons s t u line lines route routes hline _ ih =>
    obtain ⟨blueprint, hblueprint, hadvances, hbuilt⟩ := (follows_resolve hs mount line).of_ok hline
    obtain ⟨hrest, blueprints, hblueprints, hall⟩ := ih hadvances.backed
    exact ⟨hadvances.trans hrest, blueprint :: blueprints, .cons hblueprint hblueprints,
      .cons (hbuilt.mono hrest.instances) hall⟩

/-- lines that have blueprints resolve one after the other -/
theorem Blueprints.exists_resolves {lines : List Text} {blueprints : List (Blueprint ι ω)}
    (h : router.Blueprints mount lines blueprints) (hs : ModuleCache.Backed router.source router.context s) :
    ∃ routes s', Resolves router mount s lines routes s' := by
  induction h generalizing s with
  | nil => exact ⟨[], s, .nil s⟩
  | @cons line blueprint lines blueprints hblueprint _ ih =>
    obtain ⟨route, t, hline, hadvances, -⟩ := (follows_resolve hs mount line).exists_ok hblueprint
    obtain ⟨routes, u, hrest⟩ := ih hadvances.backed
    exact ⟨route :: routes, u, .cons hline hrest⟩

theorem entries_of_built {instances : List ι} {blueprints : List (Blueprint ι ω)} {routes : List (Route ι ω)}
    (h : List.Forall₂ (Blueprint.Built instances) blueprints routes) :
    routes.map Route.entry = blueprints.map Blueprint.entry := by
  induction h with
  | nil => rfl
  | cons hbuilt _ ih => rw [List.map_cons, List.map_cons, hbuilt.entry_eq, ih]

end Blueprints

end Router

end Switchboard
