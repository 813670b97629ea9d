/-
Controllers and their instances at a site.

A roster lists the controllers that were initialised, in order, with what the source gave for them.

- `Hires`: what a part of a resolution adds to the roster, whether it is refused or not (`keptFor_hires`). A route that
  resolves runs an action of a controller on the roster (`Resolves.bound`).
- `Lineage`: dispatches pass an instance on, each finding it as the one before has left it. A counter in the instance
  numbers them (`Lineage.numbered`).
- `Crew`: the instance of every controller on the roster is what the dispatches that name it have made of the
  initialised one. `Crew.hire` and `Crew.dispatch` are its two steps.
-/
import Switchboard.Proofs.Courses
import Switchboard.Proofs.Provision

namespace Switchboard

variable {ι ρ ω : Type}

/-! ## Rosters -/

/-- the controller that the event reports to be initialised -/
def Event.introduced? : Event → Option Text
  | .controllerLoaded name => some name
  | _ => none

/-- the controllers that the journal reports to be initialised, in order -/
def Site.introduced (site : Site ι ω) : List Text :=
  site.journal.filterMap Event.introduced?

@[simp] theorem Site.introduced_report (site : Site ι ω) (event : Event) :
    (site.report event).introduced = site.introduced ++ event.introduced?.toList :=
  site.reports_report Event.introduced? event

theorem Site.introduced_report_of_none (site : Site ι ω) {event : Event} (h : event.introduced? = none) :
    (site.report event).introduced = site.introduced :=
  site.reports_report_of_none h

@[simp] theorem Site.introduced_handing (site : Site ι ω) (routes : List (Route ι ω)) :
    (site.handing routes).introduced = site.introduced :=
  site.reports_handing_of_none (fun _ => rfl) routes

@[simp] theorem Router.opening_introduced (router : Router ι ρ ω) (mount : Text) (site : Site ι ω) :
    (router.opening mount site).introduced = site.introduced :=
  router.opening_reports (fun _ => rfl) mount site

/-- controllers in the order of their initialisation -/
abbrev Roster (ι ρ ω : Type) := List (Text × Controller ι ρ ω)

namespace Roster

/-- the controllers as the cache keeps them, their instances numbered from `slot` on -/
def bindings : Nat → Roster ι ρ ω → List (ControllerBinding ι ω)
  | _, [] => []
  | slot, (name, loaded) :: roster => { name, slot, actions := loaded.actions } :: bindings (slot + 1) roster

@[simp] theorem bindings_append (slot : Nat) (roster hired : Roster ι ρ ω) :
    bindings slot (roster ++ hired) = bindings slot roster ++ bindings (slot + roster.length) hired := by
  induction roster generalizing slot with
  | nil => rfl
  | cons entry roster ih =>
    rw [List.cons_append, bindings, bindings, ih, List.length_cons, List.cons_append, Nat.add_assoc,
      Nat.add_comm 1 roster.length]

@[simp] theorem names_bindings (slot : Nat) (roster : Roster ι ρ ω) :
    (bindings slot roster).map (·.name) = roster.map (·.1) := by
  induction roster generalizing slot with
  | nil => rfl
  | cons entry roster ih => rw [bindings, List.map_cons, List.map_cons, ih]

theorem getElem?_of_mem_bindings {slot : Nat} {roster : Roster ι ρ ω} {binding : ControllerBinding ι ω}
    (h : binding ∈ bindings slot roster) :
    ∃ i loaded, roster[i]? = some (binding.name, loaded) ∧ binding.slot = slot + i ∧
      binding.actions = loaded.actions := by
  induction roster generalizing slot with
  | nil => exact absurd h List.not_mem_nil
  | cons entry roster ih =>
    rcases List.mem_cons.1 h with rfl | h
    · exact ⟨0, entry.2, rfl, rfl, rfl⟩
    · obtain ⟨i, loaded, hentry, hslot, hactions⟩ := ih h
      exact ⟨i + 1, loaded, hentry, by omega, hactions⟩

end Roster

/-! ## Resolving -/

/-- From one state to the other these controllers were initialised, each loaded from the source, and no other. -/
structure Hires (source : ModuleSource ι ρ ω) (context : Context ρ) (s s' : ResolutionState ι ω)
    (hired : Roster ι ρ ω) : Prop where
  loaded : ∀ entry ∈ hired, source.controller entry.1 = .ok entry.2
  cache : s'.1.controllers = s.1.controllers ++ Roster.bindings s.2.instances.length hired
  instances : s'.2.instances = s.2.instances ++ hired.map fun entry => entry.2.init context
  introduced : s'.2.introduced = s.2.introduced ++ hired.map (·.1)
  once : (s.1.controllers.map (·.name)).Nodup → (s'.1.controllers.map (·.name)).Nodup

namespace Hires

variable {source : ModuleSource ι ρ ω} {context : Context ρ} {s t u : ResolutionState ι ω}
  {hired hired' : Roster ι ρ ω}

theorem of_eq (hcache : t.1.controllers = s.1.controllers) (hinstances : t.2.instances = s.2.instances)
    (hintroduced : t.2.introduced = s.2.introduced) : Hires source context s t [] where
  loaded _ h := absurd h List.not_mem_nil
  cache := by rw [hcache, Roster.bindings, List.append_nil]
  instances := by rw [hinstances, List.map_nil, List.append_nil]
  introduced := by rw [hintroduced, List.map_nil, List.append_nil]
  once h := hcache ▸ h

theorem trans (h : Hires source context s t hired) (h' : Hires source context t u hired') :
    Hires source context s u (hired ++ hired') where
  loaded entry hentry := by
    rcases List.mem_append.1 hentry with hentry | hentry
    · exact h.loaded entry hentry
    · exact h'.loaded entry hentry
  cache := by
    rw [h'.cache, h.cache, h.instances, Roster.bindings_append, List.length_append, List.length_map, List.append_assoc]
  instances := by rw [h'.instances, h.instances, List.map_append, List.append_assoc]
  introduced := by rw [h'.introduced, h.introduced, List.map_append, List.append_assoc]
  once hs := h'.once (h.once hs)

end Hires

/-- A part of a resolution adds controllers to the roster, or none. -/
theorem Resolution.keptFor_hires (source : ModuleSource ι ρ ω) (context : Context ρ) :
    Resolution.KeptFor source context fun s s' => ∃ hired, Hires source context s s' hired where
  refl s := ⟨[], .of_eq rfl rfl rfl⟩
  trans s t u := by
    rintro ⟨hired, h⟩ ⟨hired', h'⟩
    exact ⟨hired ++ hired', h.trans h'⟩
  controller name := by
    rintro ⟨cache, site⟩
    cases hc : cache.controller? name with
    | some binding =>
      exact movesAt_ok (ModuleCache.controller_hit hc context _ site) ⟨[], .of_eq rfl rfl rfl⟩
    | none =>
      cases hload : source.controller name with
      | error e => exact movesAt_error (ModuleCache.controller_refused hc context e site) ⟨[], .of_eq rfl rfl rfl⟩
      | ok loaded =>
        refine movesAt_ok (ModuleCache.controller_loaded hc context loaded site) ⟨[(name, loaded)], ?_⟩
        refine ⟨?_, rfl, rfl, Site.introduced_report _ _, fun honce => ?_⟩
        · rintro entry hentry
          rw [List.mem_singleton.1 hentry]
          exact hload
        · rw [List.map_append, List.map_singleton, ← List.concat_eq_append]
          exact honce.concat (ModuleCache.not_mem_of_controller? hc)
  middleware name := by
    rintro ⟨cache, site⟩
    cases hc : cache.middleware? name with
    | some binding => exact movesAt_ok (ModuleCache.middleware_hit hc _ site) ⟨[], .of_eq rfl rfl rfl⟩
    | none =>
      cases source.middleware name with
      | error e => exact movesAt_error (ModuleCache.middleware_refused hc e site) ⟨[], .of_eq rfl rfl rfl⟩
      | ok loaded =>
        exact movesAt_ok (ModuleCache.middleware_loaded hc loaded site)
          ⟨[], .of_eq rfl rfl ((site.noteLoad _).introduced_report_of_none rfl)⟩
  report cache site number line e := ⟨[], .of_eq rfl rfl (site.introduced_report_of_none rfl)⟩

def Route.controller? (delimiter : Text) (route : Route ι ω) : Option Text :=
  route.summary.controller? delimiter

/-- the route runs an action of the cached controller that its target names, on that controller's instance -/
def Route.Bound (delimiter : Text) (cache : ModuleCache ι ω) (route : Route ι ω) : Prop :=
  ∃ binding ∈ cache.controllers, route.controller? delimiter = some binding.name ∧ route.slot = binding.slot ∧
    ∃ name, binding.actions.find? name = some route.action

theorem Route.Bound.mono {delimiter : Text} {cache cache' : ModuleCache ι ω} {route : Route ι ω}
    (h : route.Bound delimiter cache) (hcache : cache.controllers <+: cache'.controllers) :
    route.Bound delimiter cache' := by
  obtain ⟨binding, hmem, hbound⟩ := h
  exact ⟨binding, hcache.subset hmem, hbound⟩

theorem ModuleCache.mem_of_controller {name : Text} {context : Context ρ} {load : Except RouteError (Controller ι ρ ω)}
    {binding : ControllerBinding ι ω} {s s' : ResolutionState ι ω}
    (h : controller name context load s = .ok binding s') : binding ∈ s'.1.controllers ∧ binding.name = name := by
  obtain ⟨cache, site⟩ := s
  cases hc : cache.controller? name with
  | some found =>
    rw [controller_hit hc] at h
    cases h
    exact mem_of_controller? hc
  | none =>
    cases load with
    | error e =>
      rw [controller_refused hc] at h
      cases h
    | ok loaded =>
      rw [controller_loaded hc] at h
      cases h
      exact ⟨List.mem_append_right _ List.mem_cons_self, rfl⟩

namespace Router

variable {router : Router ι ρ ω} {mount : Text} {s s' : ResolutionState ι ω}

theorem bound_of_resolve {line : Text} {route : Route ι ω} (h : router.resolve mount line s = .ok route s') :
    route.Bound router.settings.delimiter s'.1 := by
  obtain ⟨spec, pattern, binding, t, action, middleware, hspec, -, hbinding, haction, hmiddleware, rfl⟩ :=
    resolve_eq_ok h
  obtain ⟨hmem, hname⟩ := ModuleCache.mem_of_controller hbinding
  have hcontrollers := (ModuleCache.cached_of_middlewareList hmiddleware).2
  refine ⟨binding, hcontrollers ▸ hmem, ?_, rfl, spec.action, haction⟩
  rw [hname, Route.controller?, RouteSummary.controller?, Route.summary, RouteLine.splitReference_target hspec]
  rfl

/-- Lines that resolve one after the other add controllers to the roster, and their routes are bound to these or to
earlier ones. -/
theorem Resolves.bound {lines : List Text} {routes : List (Route ι ω)} (h : Resolves router mount s lines routes s') :
    (∃ hired, Hires router.source router.context s s' hired) ∧
      ∀ route ∈ routes, route.Bound router.settings.delimiter s'.1 := by
  induction h with
  | nil s => exact ⟨⟨[], .of_eq rfl rfl rfl⟩, fun _ h => absurd h List.not_mem_nil⟩
  | @cons s t u line lines route routes hline _ ih =>
    obtain ⟨⟨hired', hrest⟩, hroutes⟩ := ih
    obtain ⟨hired, hfirst⟩ :=
      ((Resolution.keptFor_hires router.source router.context).resolve mount line s).1 route t hline
    have hgrown : t.1.controllers <+: u.1.controllers := hrest.cache ▸ List.prefix_append _ _
    exact ⟨⟨hired ++ hired', hfirst.trans hrest⟩,
      List.forall_mem_cons.2 ⟨(bound_of_resolve hline).mono hgrown, hroutes⟩⟩

theorem hires_of_opening {t : ResolutionState ι ω} {site : Site ι ω} {hired : Roster ι ρ ω}
    (h : Hires router.source router.context (router.cache, router.opening mount site) t hired) :
    Hires router.source router.context (router.cache, site) t hired := by
  have hopened : Hires router.source router.context (router.cache, site) (router.cache, router.opening mount site) [] :=
    .of_eq rfl (router.opening_instances mount site) (router.opening_introduced mount site)
  simpa using hopened.trans h

theorem resolveBatch_ok_hires {lines : List Text} {site : Site ι ω} {routes : List (Route ι ω)} {table : RouteTable}
    (h : router.resolveBatch lines mount site = .ok (routes, table) s) :
    (∃ hired, Hires router.source router.context (router.cache, site) s hired) ∧
      ∀ route ∈ routes, route.Bound router.settings.delimiter s.1 := by
  obtain ⟨⟨hired, hhires⟩, hbound⟩ := (resolveAll_eq_ok h).1.bound
  exact ⟨⟨hired, hires_of_opening hhires⟩, hbound⟩

theorem resolveBatch_error_hires {lines : List Text} {site : Site ι ω} {e : RouteError}
    (h : router.resolveBatch lines mount site = .error e s) :
    ∃ hired, Hires router.source router.context (router.cache, site) s hired := by
  obtain ⟨hired, hhires⟩ :=
    ((Resolution.keptFor_hires router.source router.context).resolveAll mount router.table 1 lines _).2 e s h
  exact ⟨hired, hires_of_opening hhires⟩

end Router

/-! ## Lineages -/

/-- the dispatch has found the instance and left the other, by an action of the controller -/
structure Dispatch.Passes (loaded : Controller ι ρ ω) (dispatch : Dispatch ι ω) (inst next : ι) : Prop where
  found : dispatch.found = some inst
  left : dispatch.left = some next
  ran : ∃ name world world', loaded.actions.find? name = some dispatch.route.action ∧
    dispatch.route.action dispatch.request inst world = (dispatch.response, next, world')

/-- the dispatches have passed the instance on, each to the next, from what it was first to what it was last -/
inductive Lineage (loaded : Controller ι ρ ω) : ι → List (Dispatch ι ω) → ι → Prop
  | nil (inst) : Lineage loaded inst [] inst
  | cons {inst next last dispatch dispatches} : dispatch.Passes loaded inst next →
      Lineage loaded next dispatches last → Lineage loaded inst (dispatch :: dispatches) last

theorem Lineage.concat {loaded : Controller ι ρ ω} {inst last next : ι} {dispatches : List (Dispatch ι ω)}
    {dispatch : Dispatch ι ω} (h : Lineage loaded inst dispatches last) (hpasses : dispatch.Passes loaded last next) :
    Lineage loaded inst (dispatches ++ [dispatch]) next := by
  induction h with
  | nil inst => exact .cons hpasses (.nil next)
  | cons hfirst _ ih => exact .cons hfirst (ih hpasses)

theorem Lineage.found {loaded : Controller ι ρ ω} {inst last : ι} {dispatches : List (Dispatch ι ω)}
    (h : Lineage loaded inst dispatches last) : ∀ dispatch ∈ dispatches, dispatch.found.isSome = true := by
  induction h with
  | nil inst => exact fun _ h => absurd h List.not_mem_nil
  | cons hpasses _ ih =>
    refine List.forall_mem_cons.2 ⟨?_, ih⟩
    rw [hpasses.found]
    rfl

/-- The instance counts the calls of its controller, and every answer tells the number of its call. -/
structure Counts (count : ι → Nat) (reading : Response → Nat) (loaded : Controller ι ρ ω) : Prop where
  start : ∀ context, count (loaded.init context) = 0
  action : ∀ name action, loaded.actions.find? name = some action → ∀ request inst world,
    reading (action request inst world).1 = count inst + 1 ∧ count (action request inst world).2.1 = count inst + 1

/-- a counter numbers the dispatches that pass it on -/
theorem Lineage.numbered {loaded : Controller ι ρ ω} {inst last : ι} {dispatches : List (Dispatch ι ω)}
    (h : Lineage loaded inst dispatches last) {count : ι → Nat} {reading : Response → Nat}
    (hcounts : Counts count reading loaded) :
    dispatches.map (reading ·.response) = List.range' (count inst + 1) dispatches.length := by
  induction h with
  | nil inst => rfl
  | @cons inst next last dispatch dispatches hpasses _ ih =>
    obtain ⟨name, world, world', haction, hran⟩ := hpasses.ran
    obtain ⟨hreading, hcount⟩ := hcounts.action name _ haction dispatch.request inst world
    rw [hran] at hreading hcount
    rw [List.map_cons, List.length_cons, List.range'_succ, ih, hreading, hcount]

/-! ## Crews -/

def dispatchesTo (delimiter name : Text) (dispatches : List (Dispatch ι ω)) : List (Dispatch ι ω) :=
  dispatches.filter fun dispatch => dispatch.route.controller? delimiter = some name

/-- The route runs an action of the controller on the roster that its target names. Instances are numbered from `slot`
on. -/
def Route.Posted (delimiter : Text) (slot : Nat) (roster : Roster ι ρ ω) (route : Route ι ω) : Prop :=
  ∃ i name loaded, roster[i]? = some (name, loaded) ∧ route.controller? delimiter = some name ∧ route.slot = slot + i ∧
    ∃ actionName, loaded.actions.find? actionName = some route.action

theorem Route.Posted.mono {delimiter : Text} {slot : Nat} {roster hired : Roster ι ρ ω} {route : Route ι ω}
    (h : route.Posted delimiter slot roster) : route.Posted delimiter slot (roster ++ hired) := by
  obtain ⟨i, name, loaded, hentry, hposted⟩ := h
  exact ⟨i, name, loaded, getElem?_of_prefix (List.prefix_append _ _) hentry, hposted⟩

theorem Route.Bound.posted {delimiter : Text} {slot : Nat} {roster : Roster ι ρ ω} {cache : ModuleCache ι ω}
    {route : Route ι ω} (h : route.Bound delimiter cache) (hcache : cache.controllers = Roster.bindings slot roster) :
    route.Posted delimiter slot roster := by
  obtain ⟨binding, hmem, hname, hslot, actionName, haction⟩ := h
  obtain ⟨i, loaded, hentry, hnumber, hactions⟩ := Roster.getElem?_of_mem_bindings (hcache ▸ hmem)
  exact ⟨i, binding.name, loaded, hentry, hname, hslot.trans hnumber, actionName, hactions ▸ haction⟩

/-- the controller of a name stands on the roster once -/
theorem Roster.eq_of_getElem? {roster : Roster ι ρ ω} (honce : (roster.map (·.1)).Nodup) {i j : Nat} {name : Text}
    {loaded loaded' : Controller ι ρ ω} (hi : roster[i]? = some (name, loaded))
    (hj : roster[j]? = some (name, loaded')) : i = j := by
  have hi' : (roster.map (·.1))[i]? = some name := by simp [hi]
  have hj' : (roster.map (·.1))[j]? = some name := by simp [hj]
  obtain ⟨hlt, -⟩ := List.getElem?_eq_some_iff.1 hi'
  exact (List.getElem?_inj hlt honce).1 (hi'.trans hj'.symm)

/-- Posted routes run on the same instance exactly if they name the same controller. -/
theorem Route.Posted.slot_eq_iff {delimiter : Text} {slot : Nat} {roster : Roster ι ρ ω} {route other : Route ι ω}
    (honce : (roster.map (·.1)).Nodup) (h : route.Posted delimiter slot roster)
    (hother : other.Posted delimiter slot roster) :
    route.slot = other.slot ↔ route.controller? delimiter = other.controller? delimiter := by
  obtain ⟨i, name, loaded, hentry, hname, hslot, -⟩ := h
  obtain ⟨j, name', loaded', hentry', hname', hslot', -⟩ := hother
  rw [hslot, hslot', hname, hname']
  constructor
  · intro heq
    obtain rfl : i = j := by omega
    rw [hentry] at hentry'
    obtain ⟨rfl, -⟩ : name = name' ∧ loaded = loaded' := by simpa using hentry'
    rfl
  · rintro ⟨⟩
    rw [Roster.eq_of_getElem? honce hentry hentry']

/-- The controllers on the roster have come to the site after `first`, each once, and their instances are what the
dispatches have made of them. -/
structure Crew (source : ModuleSource ι ρ ω) (context : Context ρ) (delimiter : Text) (first site : Site ι ω)
    (dispatches : List (Dispatch ι ω)) (roster : Roster ι ρ ω) : Prop where
  loaded : ∀ entry ∈ roster, source.controller entry.1 = .ok entry.2
  once : (roster.map (·.1)).Nodup
  introduced : site.introduced = first.introduced ++ roster.map (·.1)
  count : site.instances.length = first.instances.length + roster.length
  posted : ∀ dispatch ∈ dispatches, dispatch.route.Posted delimiter first.instances.length roster
  instances : ∀ i name loaded, roster[i]? = some (name, loaded) →
    ∃ inst, site.instances[first.instances.length + i]? = some inst ∧
      Lineage loaded (loaded.init context) (dispatchesTo delimiter name dispatches) inst

namespace Crew

variable {source : ModuleSource ι ρ ω} {context : Context ρ} {delimiter : Text} {first site site' : Site ι ω}
  {dispatches : List (Dispatch ι ω)} {roster : Roster ι ρ ω}

theorem nil (hinstances : site.instances = first.instances) (hintroduced : site.introduced = first.introduced) :
    Crew source context delimiter first site [] [] where
  loaded _ h := absurd h List.not_mem_nil
  once := List.nodup_nil
  introduced := by rw [hintroduced, List.map_nil, List.append_nil]
  count := by rw [hinstances, List.length_nil, Nat.add_zero]
  posted _ h := absurd h List.not_mem_nil
  instances i name loaded h := by simp at h

theorem recontext (h : Crew source context delimiter first site dispatches []) {context' : Context ρ} :
    Crew source context' delimiter first site dispatches [] :=
  { h with instances := fun i name loaded hentry => by simp at hentry }

theorem atSite (h : Crew source context delimiter first site dispatches roster)
    (hinstances : site'.instances = site.instances) (hintroduced : site'.introduced = site.introduced) :
    Crew source context delimiter first site' dispatches roster :=
  { h with
    introduced := hintroduced.trans h.introduced
    count := hinstances ▸ h.count
    instances := fun i name loaded hentry => hinstances ▸ h.instances i name loaded hentry }

/-- New controllers come with instances of their own, to which nothing was dispatched yet. -/
theorem hire {s s' : ResolutionState ι ω} (h : Crew source context delimiter first s.2 dispatches roster)
    (hcache : s.1.controllers = Roster.bindings first.instances.length roster) {hired : Roster ι ρ ω}
    (hhires : Hires source context s s' hired) :
    Crew source context delimiter first s'.2 dispatches (roster ++ hired) ∧
      s'.1.controllers = Roster.bindings first.instances.length (roster ++ hired) := by
  have hcache' : s'.1.controllers = Roster.bindings first.instances.length (roster ++ hired) := by
    rw [hhires.cache, hcache, h.count, Roster.bindings_append]
  have honce : ((roster ++ hired).map (·.1)).Nodup := by
    have hnodup := hhires.once (by rw [hcache, Roster.names_bindings]; exact h.once)
    rwa [hcache', Roster.names_bindings] at hnodup
  refine ⟨⟨fun entry hentry => ?_, honce, ?_, ?_, fun dispatch hdispatch => (h.posted dispatch hdispatch).mono,
    fun i name loaded hentry => ?_⟩, hcache'⟩
  · rcases List.mem_append.1 hentry with hentry | hentry
    · exact h.loaded entry hentry
    · exact hhires.loaded entry hentry
  · rw [hhires.introduced, h.introduced, List.map_append, List.append_assoc]
  · rw [hhires.instances, List.length_append, h.count, List.length_map, List.length_append, Nat.add_assoc]
  · by_cases hi : i < roster.length
    · rw [List.getElem?_append_left hi] at hentry
      obtain ⟨inst, hinst, hlineage⟩ := h.instances i name loaded hentry
      refine ⟨inst, ?_, hlineage⟩
      rw [hhires.instances]
      exact getElem?_of_prefix (List.prefix_append _ _) hinst
    · -- a dispatch that names the controller would have found it on the roster before
      have hnone : dispatchesTo delimiter name dispatches = [] := by
        refine List.filter_eq_nil_iff.2 fun dispatch hdispatch hnames => ?_
        obtain ⟨j, other, loaded', hother, hnames', -⟩ := h.posted dispatch hdispatch
        obtain rfl : name = other := Option.some.inj ((of_decide_eq_true hnames).symm.trans hnames')
        have hj := getElem?_of_prefix (List.prefix_append roster hired) hother
        have hlt := (List.getElem?_eq_some_iff.1 hother).1
        have heq := Roster.eq_of_getElem? honce hentry hj
        omega
      refine ⟨loaded.init context, ?_, hnone ▸ .nil _⟩
      rw [List.getElem?_append_right (by omega)] at hentry
      rw [hhires.instances, List.getElem?_append_right (by rw [h.count]; omega), List.getElem?_map]
      have hindex : first.instances.length + i - s.2.instances.length = i - roster.length := by
        rw [h.count]
        omega
      rw [hindex, hentry]
      rfl

/-- A dispatch finds the instance of its controller, and passes it on. The others stay. -/
theorem dispatch (h : Crew source context delimiter first site dispatches roster) {route : Route ι ω}
    (hposted : route.Posted delimiter first.instances.length roster) (request : Request) :
    Crew source context delimiter first (route.dispatch request site).2
      (dispatches ++
        [{ route, request, found := site.instances[route.slot]?,
           left := (route.dispatch request site).2.instances[route.slot]?,
           response := (route.dispatch request site).1 }]) roster := by
  obtain ⟨i, name, loaded, hentry, hname, hslot, actionName, haction⟩ := id hposted
  obtain ⟨inst, hinst, hlineage⟩ := h.instances i name loaded hentry
  rw [← hslot] at hinst
  have hlt : route.slot < site.instances.length := (List.getElem?_eq_some_iff.1 hinst).1
  obtain ⟨response, next, world, hran⟩ :
      ∃ response next world, route.action request inst site.world = (response, next, world) := ⟨_, _, _, rfl⟩
  have hdispatch : route.dispatch request site =
      (response, ({ site with instances := site.instances.set route.slot next, world := world }).measure
        (.dispatched route.target response.status)) := by
    simp only [Route.dispatch, hinst, hran]
  have hleft : (site.instances.set route.slot next)[route.slot]? = some next := by simp [hlt]
  rw [hdispatch]
  refine ⟨h.loaded, h.once, h.introduced, ?_, fun dispatch hdispatch => ?_, fun j other loaded' hother => ?_⟩
  · show (site.instances.set route.slot next).length = _
    rw [List.length_set, h.count]
  · rcases List.mem_append.1 hdispatch with hdispatch | hdispatch
    · exact h.posted dispatch hdispatch
    · rw [List.mem_singleton.1 hdispatch]
      exact hposted
  · show ∃ inst, (site.instances.set route.slot next)[first.instances.length + j]? = some inst ∧ _
    by_cases hij : i = j
    · obtain rfl := hij
      obtain ⟨rfl, rfl⟩ : name = other ∧ loaded = loaded' := by simpa [hentry] using hother
      refine ⟨next, hslot ▸ hleft, ?_⟩
      rw [dispatchesTo, List.filter_append, List.filter_cons_of_pos (by simpa using hname), List.filter_nil]
      exact hlineage.concat ⟨hinst, hleft, actionName, site.world, world, haction, hran⟩
    · have hne : route.controller? delimiter ≠ some other := by
        rw [hname]
        rintro ⟨⟩
        exact hij (Roster.eq_of_getElem? h.once hentry hother)
      obtain ⟨inst', hinst', hlineage'⟩ := h.instances j other loaded' hother
      refine ⟨inst', ?_, ?_⟩
      · rw [List.getElem?_set_ne (by omega)]
        exact hinst'
      · rw [dispatchesTo, List.filter_append, List.filter_cons_of_neg (by simpa using hne), List.filter_nil,
          List.append_nil]
        exact hlineage'

theorem found (h : Crew source context delimiter first site dispatches roster) :
    ∀ dispatch ∈ dispatches, dispatch.found.isSome = true := by
  intro dispatch hdispatch
  obtain ⟨i, name, loaded, hentry, hname, -⟩ := h.posted dispatch hdispatch
  obtain ⟨inst, -, hlineage⟩ := h.instances i name loaded hentry
  exact hlineage.found dispatch (List.mem_filter.2 ⟨hdispatch, decide_eq_true hname⟩)

/-- A counter numbers the dispatches that name its controller. -/
theorem numbered (h : Crew source context delimiter first site dispatches roster) {name : Text}
    {loaded : Controller ι ρ ω} (hload : source.controller name = .ok loaded) {count : ι → Nat}
    {reading : Response → Nat} (hcounts : Counts count reading loaded) :
    (dispatchesTo delimiter name dispatches).map (reading ·.response) =
      List.range' 1 (dispatchesTo delimiter name dispatches).length := by
  cases hto : dispatchesTo delimiter name dispatches with
  | nil => rfl
  | cons dispatch others =>
    have hmem : dispatch ∈ dispatchesTo delimiter name dispatches := hto ▸ List.mem_cons_self
    obtain ⟨hdispatch, hnames⟩ := List.mem_filter.1 hmem
    obtain ⟨i, other, loaded', hentry, hother, -⟩ := h.posted dispatch hdispatch
    obtain rfl : name = other := Option.some.inj ((of_decide_eq_true hnames).symm.trans hother)
    have hsame : Except.ok loaded' = Except.ok loaded := (h.loaded _ (List.mem_of_getElem? hentry)).symm.trans hload
    obtain rfl : loaded' = loaded := Except.ok.inj hsame
    obtain ⟨inst, -, hlineage⟩ := h.instances i name loaded' hentry
    rw [hto] at hlineage
    rw [hlineage.numbered hcounts, hcounts.start]

end Crew

end Switchboard
