/-
The cache as a memo of loads.

A call asks the cache for a module and brings the outcome of a load along, which may be another one at every call. The
history of calls with their answers tells the cache.

- `CacheCall.Performed` is everything that a call can do, and `perform_performed` finds it for every call.
- `Memo` is the invariant: the cache gives what calls have been given before, each name once, and every cached
  controller was initialised by the first call that succeeded for it. `performed_memo` is the step,
  `performAll_memo` the run.
- `CacheCall.performAll_filter`: calls that a view of the state does not depend on can be left out.
- `CacheCall.performAll_memoises`: all this of any calls from an empty cache.
-/
import Switchboard.Proofs.Blueprints

namespace Switchboard

variable {ι ρ ω α : Type}

/-! ## Calls to the cache -/

/-- a call to the cache, with the outcome of the load that it brings along -/
inductive CacheCall (ι ρ ω : Type) where
  | controller (name : Text) (context : Context ρ) (load : Except RouteError (Controller ι ρ ω))
  | middleware (name : Text) (load : Except RouteError Middleware)

abbrev Binding (ι ω : Type) := ControllerBinding ι ω ⊕ MiddlewareBinding

abbrev CacheAnswer (ι ω : Type) := Except RouteError (Binding ι ω)

abbrev CacheHistory (ι ρ ω : Type) := List (CacheCall ι ρ ω × CacheAnswer ι ω)

def ModuleCache.binding? (cache : ModuleCache ι ω) : Load → Option (Binding ι ω)
  | .controller name => (cache.controller? name).map .inl
  | .middleware name => (cache.middleware? name).map .inr

@[simp] theorem ModuleCache.binding?_controller (cache : ModuleCache ι ω) (name : Text) :
    cache.binding? (.controller name) = (cache.controller? name).map .inl := rfl

@[simp] theorem ModuleCache.binding?_middleware (cache : ModuleCache ι ω) (name : Text) :
    cache.binding? (.middleware name) = (cache.middleware? name).map .inr := rfl

namespace CacheCall

def asks : CacheCall ι ρ ω → Load
  | controller name _ _ => .controller name
  | middleware name _ => .middleware name

@[simp] theorem asks_controller (name : Text) (context : Context ρ) (load : Except RouteError (Controller ι ρ ω)) :
    (controller name context load).asks = .controller name := rfl

@[simp] theorem asks_middleware (name : Text) (load : Except RouteError Middleware) :
    (middleware name load : CacheCall ι ρ ω).asks = .middleware name := rfl

/-- what the load of the call comes to, a controller being bound to the slot -/
def loaded (slot : Nat) : CacheCall ι ρ ω → CacheAnswer ι ω
  | controller name _ load => load.map fun controller => .inl { name, slot, actions := controller.actions }
  | middleware name load => load.map fun middleware => .inr { name, middleware }

def forController : CacheCall ι ρ ω → Bool
  | controller _ _ _ => true
  | middleware _ _ => false

/-- answer and state that a resolution comes to -/
def outcome (give : α → Binding ι ω) :
    EStateM.Result RouteError (ResolutionState ι ω) α → CacheAnswer ι ω × ResolutionState ι ω
  | .ok a s => (.ok (give a), s)
  | .error e s => (.error e, s)

def perform (s : ResolutionState ι ω) : CacheCall ι ρ ω → CacheAnswer ι ω × ResolutionState ι ω
  | controller name context load => outcome .inl (ModuleCache.controller name context load s)
  | middleware name load => outcome .inr (ModuleCache.middleware name load s)

def performAll (s : ResolutionState ι ω) : List (CacheCall ι ρ ω) → CacheHistory ι ρ ω × ResolutionState ι ω
  | [] => ([], s)
  | call :: calls =>
    let (answer, t) := call.perform s
    let (history, u) := performAll t calls
    ((call, answer) :: history, u)

/-- What a call does: it is answered from the cache, or its load fails, or what it loads is bound and kept. -/
inductive Performed (cache : ModuleCache ι ω) (site : Site ι ω) :
    CacheCall ι ρ ω → CacheAnswer ι ω → ResolutionState ι ω → Prop
  | held {call : CacheCall ι ρ ω} {binding : Binding ι ω} : cache.binding? call.asks = some binding →
      Performed cache site call (.ok binding) (cache, site)
  | fails {call : CacheCall ι ρ ω} {e : RouteError} : cache.binding? call.asks = none →
      call.loaded site.instances.length = .error e →
      Performed cache site call (.error e) (cache, site.noteLoad call.asks)
  | loadsController {name : Text} (context : Context ρ) (loaded : Controller ι ρ ω) :
      cache.binding? (.controller name) = none →
      Performed cache site (.controller name context (.ok loaded))
        (.ok (.inl { name, slot := site.instances.length, actions := loaded.actions }))
        ({ cache with
            controllers := cache.controllers ++ [{ name, slot := site.instances.length, actions := loaded.actions }] },
          ((site.noteLoad (.controller name)).addInstance (loaded.init context)).report (.controllerLoaded name))
  | loadsMiddleware {name : Text} (loaded : Middleware) : cache.binding? (.middleware name) = none →
      Performed cache site (.middleware name (.ok loaded)) (.ok (.inr { name, middleware := loaded }))
        ({ cache with middlewares := cache.middlewares ++ [{ name, middleware := loaded }] },
          (site.noteLoad (.middleware name)).report (.middlewareLoaded name))

theorem perform_performed (cache : ModuleCache ι ω) (site : Site ι ω) (call : CacheCall ι ρ ω) :
    Performed cache site call (call.perform (cache, site)).1 (call.perform (cache, site)).2 := by
  cases call with
  | controller name context load =>
    cases hc : cache.controller? name with
    | some binding =>
      simp only [perform, ModuleCache.controller_hit hc, outcome]
      exact .held (by simp [hc])
    | none =>
      have hnone : cache.binding? (.controller name) = none := by simp [hc]
      cases load with
      | error e =>
        simp only [perform, ModuleCache.controller_refused hc, outcome]
        exact .fails hnone rfl
      | ok loaded =>
        simp only [perform, ModuleCache.controller_loaded hc, outcome]
        exact .loadsController context loaded hnone
  | middleware name load =>
    cases hc : cache.middleware? name with
    | some binding =>
      simp only [perform, ModuleCache.middleware_hit hc, outcome]
      exact .held (by simp [hc])
    | none =>
      have hnone : cache.binding? (.middleware name) = none := by simp [hc]
      cases load with
      | error e =>
        simp only [perform, ModuleCache.middleware_refused hc, outcome]
        exact .fails hnone rfl
      | ok loaded =>
        simp only [perform, ModuleCache.middleware_loaded hc, outcome]
        exact .loadsMiddleware loaded hnone

section Performed

variable {cache : ModuleCache ι ω} {site : Site ι ω} {s' : ResolutionState ι ω} {call : CacheCall ι ρ ω}
  {answer : CacheAnswer ι ω}

/-- what is cached is given as it is, and nothing changes -/
theorem Performed.of_held (h : Performed cache site call answer s') {binding : Binding ι ω}
    (hheld : cache.binding? call.asks = some binding) : (answer, s') = (.ok binding, (cache, site)) := by
  cases h with
  | held hfound => rw [Option.some.inj (hfound.symm.trans hheld)]
  | fails hnone _ => cases hnone.symm.trans hheld
  | loadsController context loaded hnone => cases hnone.symm.trans hheld
  | loadsMiddleware loaded hnone => cases hnone.symm.trans hheld

/-- What is not cached is loaded. A load that fails leaves cache and instances as they were. -/
theorem Performed.of_absent (h : Performed cache site call answer s') (habsent : cache.binding? call.asks = none) :
    s'.2.loads = site.loads ++ [call.asks] ∧ answer = call.loaded site.instances.length ∧
      ∀ e, answer = .error e → s'.1 = cache ∧ s'.2.instances = site.instances := by
  cases h with
  | held hfound => cases habsent.symm.trans hfound
  | fails _ hfailure => exact ⟨rfl, hfailure.symm, fun _ _ => ⟨rfl, rfl⟩⟩
  | loadsController context loaded hnone => exact ⟨rfl, rfl, fun e he => (by cases he)⟩
  | loadsMiddleware loaded hnone => exact ⟨rfl, rfl, fun e he => (by cases he)⟩

end Performed

end CacheCall

namespace ModuleCache

theorem binding?_addController (cache : ModuleCache ι ω) (binding : ControllerBinding ι ω) (load : Load) :
    { cache with controllers := cache.controllers ++ [binding] }.binding? load =
      (cache.binding? load).or (if load = .controller binding.name then some (.inl binding) else none) := by
  cases load with
  | controller name =>
    by_cases h : binding.name = name
    · cases hc : cache.controller? name <;> simp [hc, h]
    · cases hc : cache.controller? name <;> simp [hc, h, Ne.symm h]
  | middleware name => simp

theorem binding?_addMiddleware (cache : ModuleCache ι ω) (binding : MiddlewareBinding) (load : Load) :
    { cache with middlewares := cache.middlewares ++ [binding] }.binding? load =
      (cache.binding? load).or (if load = .middleware binding.name then some (.inr binding) else none) := by
  cases load with
  | controller name => simp
  | middleware name =>
    by_cases h : binding.name = name
    · cases hc : cache.middleware? name <;> simp [hc, h]
    · cases hc : cache.middleware? name <;> simp [hc, h, Ne.symm h]

end ModuleCache

/-! ## The invariant -/

/-- the instance is what the first call that succeeded for the controller has initialised -/
def InitialisedBy (history : CacheHistory ι ρ ω) (binding : ControllerBinding ι ω) (inst : ι) : Prop :=
  ∃ before after context loaded,
    history = before ++ (.controller binding.name context (.ok loaded), .ok (.inl binding)) :: after ∧
      (∀ entry ∈ before, entry.1.asks = .controller binding.name → ∃ e, entry.2 = .error e) ∧
      inst = loaded.init context ∧ binding.actions = loaded.actions

theorem InitialisedBy.append {history : CacheHistory ι ρ ω} {binding : ControllerBinding ι ω} {inst : ι}
    (h : InitialisedBy history binding inst) (more : CacheHistory ι ρ ω) :
    InitialisedBy (history ++ more) binding inst := by
  obtain ⟨before, after, context, loaded, rfl, hfirst, hinst⟩ := h
  exact ⟨before, after ++ more, context, loaded, by simp, hfirst, hinst⟩

/-- The cache gives what calls have been given, each module under its own name. Its controllers were initialised one by
one after the instances from the start, each once. -/
structure Memo (start : List ι) (history : CacheHistory ι ρ ω) (s : ResolutionState ι ω) : Prop where
  held : ∀ load binding, s.1.binding? load = some binding ↔ ∃ call, call.asks = load ∧ (call, .ok binding) ∈ history
  controllersOnce : (s.1.controllers.map (·.name)).Nodup
  middlewaresOnce : (s.1.middlewares.map (·.name)).Nodup
  slots : s.1.controllers.map (·.slot) = List.range' start.length s.1.controllers.length
  instances : ∃ added, s.2.instances = start ++ added ∧ List.Forall₂ (InitialisedBy history) s.1.controllers added

section Memo

variable {start : List ι} {history : CacheHistory ι ρ ω} {cache : ModuleCache ι ω} {site : Site ι ω}
  {s s' : ResolutionState ι ω} {call : CacheCall ι ρ ω} {answer : CacheAnswer ι ω} {load : Load}
  {binding : Binding ι ω}

theorem memo_empty (site : Site ι ω) : Memo site.instances ([] : CacheHistory ι ρ ω) ({}, site) where
  held load binding := by cases load <;> simp [ModuleCache.controller?, ModuleCache.middleware?]
  controllersOnce := List.nodup_nil
  middlewaresOnce := List.nodup_nil
  slots := rfl
  instances := ⟨[], (List.append_nil _).symm, .nil⟩

/-- for what is not cached, every call so far has failed -/
theorem Memo.failed (h : Memo start history s) (hnone : s.1.binding? load = none) :
    ∀ entry ∈ history, entry.1.asks = load → ∃ e, entry.2 = .error e := by
  rintro ⟨call, answer⟩ hentry hasks
  cases answer with
  | error e => exact ⟨e, rfl⟩
  | ok binding =>
    have hsome := (h.held load binding).2 ⟨call, hasks, hentry⟩
    rw [hnone] at hsome
    cases hsome

/-- a call that leaves the cache as it was, and is not given anything new -/
theorem Memo.keeping (h : Memo start history (cache, site)) {site' : Site ι ω}
    (hinstances : site'.instances = site.instances)
    (hanswer : ∀ binding, answer = .ok binding → cache.binding? call.asks = some binding) :
    Memo start (history ++ [(call, answer)]) (cache, site') where
  held load binding := by
    rw [h.held load binding]
    constructor
    · rintro ⟨other, hasks, hother⟩
      exact ⟨other, hasks, List.mem_append_left _ hother⟩
    · rintro ⟨other, hasks, hother⟩
      rcases List.mem_append.1 hother with hother | hlast
      · exact ⟨other, hasks, hother⟩
      · obtain ⟨rfl, rfl⟩ := Prod.mk.inj (List.mem_singleton.1 hlast)
        exact (h.held load binding).1 (hasks ▸ hanswer binding rfl)
  controllersOnce := h.controllersOnce
  middlewaresOnce := h.middlewaresOnce
  slots := h.slots
  instances := by
    obtain ⟨added, heq, hall⟩ := h.instances
    exact ⟨added, hinstances.trans heq, hall.imp fun _ _ hinst => hinst.append _⟩

/-- a call that is given a module which is cached from then on -/
theorem Memo.held_of_new (h : Memo start history (cache, site)) {cache' : ModuleCache ι ω}
    (hnone : cache.binding? call.asks = none)
    (hcache : ∀ load, cache'.binding? load =
      (cache.binding? load).or (if load = call.asks then some binding else none)) (load : Load)
    (other : Binding ι ω) :
    cache'.binding? load = some other ↔
      ∃ earlier, earlier.asks = load ∧ (earlier, .ok other) ∈ history ++ [(call, .ok binding)] := by
  have hnew : cache'.binding? load = some other ↔
      cache.binding? load = some other ∨ load = call.asks ∧ binding = other := by
    rw [hcache, Option.or_eq_some_iff]
    by_cases hload : load = call.asks
    · subst hload
      simp [hnone]
    · simp [hload]
  rw [hnew, h.held load other]
  simp only [List.mem_append, List.mem_singleton, Prod.mk.injEq, Except.ok.injEq]
  constructor
  · rintro (⟨earlier, hasks, hearlier⟩ | ⟨rfl, rfl⟩)
    · exact ⟨earlier, hasks, Or.inl hearlier⟩
    · exact ⟨call, rfl, Or.inr ⟨rfl, rfl⟩⟩
  · rintro ⟨earlier, hasks, hearlier | ⟨rfl, rfl⟩⟩
    · exact Or.inl ⟨earlier, hasks, hearlier⟩
    · exact Or.inr ⟨hasks.symm, rfl⟩

theorem performed_memo (h : Memo start history (cache, site)) (hcall : CacheCall.Performed cache site call answer s') :
    Memo start (history ++ [(call, answer)]) s' := by
  cases hcall with
  | held hbinding =>
    refine h.keeping rfl fun other hother => ?_
    rw [← Except.ok.inj hother]
    exact hbinding
  | fails hnone hfailure => exact h.keeping rfl fun other hother => (by cases hother)
  | @loadsController name context loaded hnone =>
    obtain ⟨added, heq, hall⟩ := h.instances
    have habsent : cache.controller? name = none := by simpa using hnone
    have hnext : site.instances.length = start.length + cache.controllers.length := by
      rw [heq, List.length_append, hall.length_eq]
    refine ⟨h.held_of_new hnone (cache.binding?_addController _), ?_, h.middlewaresOnce, ?_,
      added ++ [loaded.init context], ?_, ?_⟩
    · rw [List.map_append, List.map_singleton, ← List.concat_eq_append]
      exact h.controllersOnce.concat (ModuleCache.not_mem_of_controller? habsent)
    · rw [List.map_append, h.slots, List.length_append, List.length_singleton, List.range'_1_concat, ← hnext]
      rfl
    · show site.instances ++ [loaded.init context] = start ++ (added ++ [loaded.init context])
      rw [← List.append_assoc, ← heq]
    · refine List.rel_append (hall.imp fun _ _ hinst => hinst.append _) (.cons ?_ .nil)
      exact ⟨history, [], context, loaded, rfl, h.failed hnone, rfl, rfl⟩
  | @loadsMiddleware name loaded hnone =>
    obtain ⟨added, heq, hall⟩ := h.instances
    have habsent : cache.middleware? name = none := by simpa using hnone
    refine ⟨h.held_of_new hnone (cache.binding?_addMiddleware _), h.controllersOnce, ?_, h.slots, added, heq,
      hall.imp fun _ _ hinst => hinst.append _⟩
    rw [List.map_append, List.map_singleton, ← List.concat_eq_append]
    exact h.middlewaresOnce.concat (ModuleCache.not_mem_of_middleware? habsent)

theorem performAll_memo (h : Memo start history s) (calls : List (CacheCall ι ρ ω)) :
    Memo start (history ++ (CacheCall.performAll s calls).1) (CacheCall.performAll s calls).2 := by
  induction calls generalizing history s with
  | nil =>
    rw [CacheCall.performAll, List.append_nil]
    exact h
  | cons call calls ih =>
    have hrest := ih (performed_memo h (call.perform_performed s.1 s.2))
    rwa [List.append_assoc, List.singleton_append] at hrest

/-! ## How many modules are cached -/

def Load.controllerName? : Load → Option Text
  | .controller name => some name
  | .middleware _ => none

def Load.middlewareName? : Load → Option Text
  | .controller _ => none
  | .middleware name => some name

/-- what calls have succeeded for -/
def CacheHistory.given (history : CacheHistory ι ρ ω) : List Load :=
  (history.filter (·.2.isOk)).map (·.1.asks)

theorem mem_given {history : CacheHistory ι ρ ω} {load : Load} :
    load ∈ CacheHistory.given history ↔ ∃ binding call, call.asks = load ∧ (call, .ok binding) ∈ history := by
  simp only [CacheHistory.given, List.mem_map, List.mem_filter]
  constructor
  · rintro ⟨⟨call, answer⟩, ⟨hentry, hok⟩, hasks⟩
    cases answer with
    | error e => cases hok
    | ok binding => exact ⟨binding, call, hasks, hentry⟩
  · rintro ⟨binding, call, hasks, hentry⟩
    exact ⟨(call, .ok binding), ⟨hentry, rfl⟩, hasks⟩

theorem Memo.length_names (h : Memo start history s) {pick : Load → Option Text} (kind : Text → Load)
    (hpick : ∀ load name, pick load = some name ↔ load = kind name) {names : List Text} (hnames : names.Nodup)
    (hcached : ∀ name, name ∈ names ↔ ∃ binding, s.1.binding? (kind name) = some binding) :
    names.length = ((CacheHistory.given history).filterMap pick).toFinset.card := by
  rw [← List.toFinset_card_of_nodup hnames]
  congr 1
  ext name
  have hgiven : kind name ∈ CacheHistory.given history ↔ ∃ binding, s.1.binding? (kind name) = some binding := by
    simp only [mem_given, h.held]
  simp only [List.mem_toFinset, List.mem_filterMap, hpick, hcached name, ← hgiven]
  constructor
  · intro hmem
    exact ⟨kind name, hmem, rfl⟩
  · rintro ⟨load, hmem, rfl⟩
    exact hmem

theorem Memo.length_controllers (h : Memo start history s) :
    s.1.controllers.length = ((CacheHistory.given history).filterMap Load.controllerName?).toFinset.card := by
  rw [← List.length_map (·.name)]
  refine h.length_names .controller ?_ h.controllersOnce fun name => ?_
  · intro load name
    cases load <;> simp [Load.controllerName?]
  · simp [ModuleCache.controller?, ← Option.isSome_iff_exists]

theorem Memo.length_middlewares (h : Memo start history s) :
    s.1.middlewares.length = ((CacheHistory.given history).filterMap Load.middlewareName?).toFinset.card := by
  rw [← List.length_map (·.name)]
  refine h.length_names .middleware ?_ h.middlewaresOnce fun name => ?_
  · intro load name
    cases load <;> simp [Load.middlewareName?]
  · simp [ModuleCache.middleware?, ← Option.isSome_iff_exists]

end Memo

/-! ## Two kinds of calls -/

namespace CacheCall

/-- Calls that a view of the state does not depend on can be left out: the others are answered alike, and the view is
the same in the end. -/
theorem performAll_filter {V : Type} (view : ResolutionState ι ω → V) (keep : CacheCall ι ρ ω → Bool)
    (hkept : ∀ call, keep call = true → ∀ s t, view s = view t →
      (call.perform s).1 = (call.perform t).1 ∧ view (call.perform s).2 = view (call.perform t).2)
    (hother : ∀ call, keep call = false → ∀ s, view (call.perform s).2 = view s)
    (calls : List (CacheCall ι ρ ω)) {s t : ResolutionState ι ω} (h : view s = view t) :
    (performAll s calls).1.filter (keep ·.1) = (performAll t (calls.filter keep)).1 ∧
      view (performAll s calls).2 = view (performAll t (calls.filter keep)).2 := by
  induction calls generalizing s t with
  | nil => exact ⟨rfl, h⟩
  | cons call calls ih =>
    cases hcall : keep call with
    | true =>
      obtain ⟨hanswer, hview⟩ := hkept call hcall s t h
      obtain ⟨hhistory, hlast⟩ := ih hview
      simp only [performAll, List.filter_cons, hcall, if_true]
      rw [hhistory, hanswer]
      exact ⟨rfl, hlast⟩
    | false =>
      simp only [performAll, List.filter_cons, hcall, Bool.false_eq_true, if_false]
      exact ih ((hother call hcall s).trans h)

def controllerView (s : ResolutionState ι ω) : List (ControllerBinding ι ω) × List ι :=
  (s.1.controllers, s.2.instances)

def middlewareView (s : ResolutionState ι ω) : List MiddlewareBinding :=
  s.1.middlewares

theorem perform_of_controllerView {call : CacheCall ι ρ ω} (hcall : call.forController = true)
    {s t : ResolutionState ι ω} (h : controllerView s = controllerView t) :
    (call.perform s).1 = (call.perform t).1 ∧ controllerView (call.perform s).2 = controllerView (call.perform t).2 := by
  obtain ⟨cache, site⟩ := s
  obtain ⟨cache', site'⟩ := t
  obtain ⟨hcontrollers, hinstances⟩ : cache.controllers = cache'.controllers ∧ site.instances = site'.instances :=
    Prod.mk.inj h
  cases call with
  | middleware name load => cases hcall
  | controller name context load =>
    have hsame : cache.controller? name = cache'.controller? name := by
      simp only [ModuleCache.controller?, hcontrollers]
    cases hc : cache.controller? name with
    | some binding =>
      simp only [perform, ModuleCache.controller_hit hc, ModuleCache.controller_hit (hsame.symm.trans hc), outcome]
      exact ⟨trivial, h⟩
    | none =>
      have hc' := hsame.symm.trans hc
      cases load with
      | error e =>
        simp only [perform, ModuleCache.controller_refused hc, ModuleCache.controller_refused hc', outcome]
        exact ⟨trivial, h⟩
      | ok loaded =>
        simp [perform, ModuleCache.controller_loaded hc, ModuleCache.controller_loaded hc', outcome, hinstances,
          hcontrollers, controllerView]

theorem Performed.controllerView_eq {cache : ModuleCache ι ω} {site : Site ι ω} {call : CacheCall ι ρ ω}
    {answer : CacheAnswer ι ω} {s' : ResolutionState ι ω} (h : Performed cache site call answer s')
    (hcall : call.forController = false) : controllerView s' = controllerView (cache, site) := by
  cases h with
  | held hbinding => rfl
  | fails hnone hfailure => rfl
  | loadsController context loaded hnone => cases hcall
  | loadsMiddleware loaded hnone => rfl

theorem perform_of_middlewareView {call : CacheCall ι ρ ω} (hcall : call.forController = false)
    {s t : ResolutionState ι ω} (h : middlewareView s = middlewareView t) :
    (call.perform s).1 = (call.perform t).1 ∧ middlewareView (call.perform s).2 = middlewareView (call.perform t).2 := by
  obtain ⟨cache, site⟩ := s
  obtain ⟨cache', site'⟩ := t
  have hmiddlewares : cache.middlewares = cache'.middlewares := h
  cases call with
  | controller name context load => cases hcall
  | middleware name load =>
    have hsame : cache.middleware? name = cache'.middleware? name := by
      simp only [ModuleCache.middleware?, hmiddlewares]
    cases hc : cache.middleware? name with
    | some binding =>
      simp only [perform, ModuleCache.middleware_hit hc, ModuleCache.middleware_hit (hsame.symm.trans hc), outcome]
      exact ⟨trivial, h⟩
    | none =>
      have hc' := hsame.symm.trans hc
      cases load with
      | error e =>
        simp only [perform, ModuleCache.middleware_refused hc, ModuleCache.middleware_refused hc', outcome]
        exact ⟨trivial, h⟩
      | ok loaded =>
        simp only [perform, ModuleCache.middleware_loaded hc, ModuleCache.middleware_loaded hc', outcome,
          hmiddlewares, middlewareView]
        exact ⟨trivial, trivial⟩

theorem Performed.middlewareView_eq {cache : ModuleCache ι ω} {site : Site ι ω} {call : CacheCall ι ρ ω}
    {answer : CacheAnswer ι ω} {s' : ResolutionState ι ω} (h : Performed cache site call answer s')
    (hcall : call.forController = true) : middlewareView s' = middlewareView (cache, site) := by
  cases h with
  | held hbinding => rfl
  | fails hnone hfailure => rfl
  | loadsController context loaded hnone => rfl
  | loadsMiddleware loaded hnone => cases hcall

/-! ## The memo -/

/-- **The cache is a memo that retries.** Take any calls from an empty cache, whatever their loads come to, and one more.
If one of them was given a module, then a call for it is given the same and changes nothing. Otherwise the call loads and
is answered with what the load comes to; a load that fails leaves cache and instances as they were. Every cached
controller was initialised once, by the first call that succeeded for it, and nothing else was. There are as many entries
of a kind as names of that kind have been given. Without the calls for one kind, those for the other are answered alike
and leave the same. -/
theorem performAll_memoises (site : Site ι ω) (calls : List (CacheCall ι ρ ω)) (call : CacheCall ι ρ ω) :
    let ran := performAll ({}, site) calls
    let next := call.perform ran.2
    let controllersAlone := performAll ({}, site) (calls.filter (·.forController))
    let middlewaresAlone := performAll ({}, site) (calls.filter (!·.forController))
    (∀ earlier binding, (earlier, .ok binding) ∈ ran.1 → earlier.asks = call.asks →
        next = (.ok binding, ran.2)) ∧
      ((∀ entry ∈ ran.1, entry.1.asks = call.asks → ∃ e, entry.2 = .error e) →
        next.2.2.loads = ran.2.2.loads ++ [call.asks] ∧ next.1 = call.loaded ran.2.2.instances.length ∧
          ∀ e, next.1 = .error e → next.2.1 = ran.2.1 ∧ next.2.2.instances = ran.2.2.instances) ∧
      (∃ added, ran.2.2.instances = site.instances ++ added ∧
        ran.2.1.controllers.map (·.slot) = List.range' site.instances.length added.length ∧
        List.Forall₂ (InitialisedBy ran.1) ran.2.1.controllers added) ∧
      ran.2.1.controllers.length = ((CacheHistory.given ran.1).filterMap Load.controllerName?).toFinset.card ∧
      ran.2.1.middlewares.length = ((CacheHistory.given ran.1).filterMap Load.middlewareName?).toFinset.card ∧
      ran.1.filter (·.1.forController) = controllersAlone.1 ∧
      controllerView ran.2 = controllerView controllersAlone.2 ∧
      ran.1.filter (!·.1.forController) = middlewaresAlone.1 ∧
      middlewareView ran.2 = middlewareView middlewaresAlone.2 := by
  intro ran next controllersAlone middlewaresAlone
  have hmemo : Memo site.instances ran.1 ran.2 := performAll_memo (memo_empty site) calls
  have hnext : Performed ran.2.1 ran.2.2 call next.1 next.2 := call.perform_performed ran.2.1 ran.2.2
  obtain ⟨hcontrollers, hcontrollerView⟩ : ran.1.filter (·.1.forController) = controllersAlone.1 ∧
      controllerView ran.2 = controllerView controllersAlone.2 :=
    performAll_filter controllerView (·.forController) (fun call hcall s t => perform_of_controllerView hcall)
      (fun call hcall s => (call.perform_performed s.1 s.2).controllerView_eq hcall) calls rfl
  obtain ⟨hmiddlewares, hmiddlewareView⟩ : ran.1.filter (!·.1.forController) = middlewaresAlone.1 ∧
      middlewareView ran.2 = middlewareView middlewaresAlone.2 := by
    refine performAll_filter middlewareView (!·.forController) (fun call hcall s t => ?_) (fun call hcall s => ?_)
      calls rfl
    · exact perform_of_middlewareView (by simpa using hcall)
    · exact (call.perform_performed s.1 s.2).middlewareView_eq (by simpa using hcall)
  refine ⟨?_, ?_, ?_, hmemo.length_controllers, hmemo.length_middlewares, hcontrollers, hcontrollerView, hmiddlewares,
    hmiddlewareView⟩
  · intro earlier binding hearlier hasks
    exact hnext.of_held ((hmemo.held call.asks binding).2 ⟨earlier, hasks, hearlier⟩)
  · intro hfailed
    refine hnext.of_absent ?_
    cases habsent : ran.2.1.binding? call.asks with
    | none => rfl
    | some binding =>
      obtain ⟨earlier, hasks, hearlier⟩ := (hmemo.held call.asks binding).1 habsent
      obtain ⟨e, he⟩ := hfailed _ hearlier hasks
      cases he
  · obtain ⟨added, hinstances, hall⟩ := hmemo.instances
    exact ⟨added, hinstances, hall.length_eq ▸ hmemo.slots, hall⟩

end CacheCall

/-- A load fails and succeeds when it is tried again; the third call is answered from the cache. A middleware of that name
is loaded by itself. -/
example :
    let page : Controller Unit Unit Unit := { init := fun _ => (), actions := {} }
    let calls : List (CacheCall Unit Unit Unit) :=
      [.controller "a" {} (.error .notInitialized), .controller "a" {} (.ok page), .controller "a" {} (.ok page),
        .middleware "a" (.ok fun _ request => .forward request id)]
    let ran := CacheCall.performAll ({}, { world := () }) calls
    ran.2.2.loads = [.controller "a", .controller "a", .middleware "a"] ∧ ran.2.2.instances = [()] := by
  decide

end Switchboard
