/-
The counters and the journal account for everything that a router and its routes do.

- `Accounted` is the invariant of a stage: its counters and reports tell what was handed to the server and what has run
  to completion, and the loads are reported once. `act_accounted` is the step and `enact_accounted` the run.
- `Stage.Handed` is the invariant of a stage where the server has survived every call: it has got the routes that the
  router lists.
- `enact_accounts`: after any acts, the counters, the errors, the reports of loads and those of routes are as many as
  what they stand for.
-/
import Switchboard.Proofs.Completions
import Switchboard.Proofs.Instances
import Switchboard.Proofs.Records

namespace Switchboard

variable {ι ρ ω : Type}

/-! ## Counters -/

namespace Measure

def method? : Measure → Option Method
  | registered method => some method
  | dispatched _ _ => none

/-- the answer that the measure counts -/
def completion? : Measure → Option Completion
  | registered _ => none
  | dispatched target status => some (target, status)

theorem method?_eq_some {m : Measure} {method : Method} : m.method? = some method ↔ m = .registered method := by
  cases m <;> simp [method?]

theorem completion?_eq_some {m : Measure} {target : Text} {status : Nat} :
    m.completion? = some (target, status) ↔ m = .dispatched target status := by
  cases m <;> simp [completion?]

/-- a counter counts the measures that are sorted to it -/
theorem count_eq {κ : Type} [BEq κ] [LawfulBEq κ] {pick : Measure → Option κ} {m : Measure} {key : κ}
    (h : ∀ {other}, pick other = some key ↔ other = m) (measures : List Measure) :
    measures.count m = (measures.filterMap pick).count key := by
  rw [List.count_filterMap, List.count]
  apply List.countP_congr
  intro other hother
  simp [h]

end Measure

/-! ## The invariant of a stage -/

/-- Reports and counters of routes tell what was handed to the server, and the counters of answers tell these
completions. -/
structure Site.Booked (site : Site ι ω) (done : List Completion) : Prop where
  reported : site.reports Event.registered? = site.registrations
  counted : site.measures.filterMap Measure.method? = site.registrations.map (·.method)
  completed : site.measures.filterMap Measure.completion? = done

section Booked

variable {site site' : Site ι ω} {done more : List Completion}

theorem Site.Booked.completes (h : site.Booked done) (hmore : site.Completes site' more) :
    site'.Booked (done ++ more) where
  reported := by rw [Site.reports, hmore.journal, hmore.registrations, ← h.reported, Site.reports]
  counted := by simp [hmore.measures, hmore.registrations, h.counted, Measure.method?]
  completed := by simp [hmore.measures, h.completed, Function.comp_def, Measure.completion?]

theorem Site.Booked.hands (h : site.Booked done) {routes : List (Route ι ω)} (hroutes : site.Hands site' routes) :
    site'.Booked done where
  reported := by rw [hroutes.reported, hroutes.registrations, h.reported]
  counted := by
    simp [hroutes.measures, hroutes.registrations, h.counted, Function.comp_def, Measure.method?, Route.summary]
  completed := by simp [hroutes.measures, h.completed, Function.comp_def, Measure.completion?]

end Booked

/-- The records of a stage where these actions have run to completion. -/
structure Accounted (source : ModuleSource ι ρ ω) (stage : Stage ι ρ ω) (done : List Completion) : Prop
    extends stage.site.Booked done where
  source_eq : stage.router.source = source
  loads : stage.site.LoadsOnce source
  stocked : stage.halted = false → Stocked source (stage.router.cache, stage.site)

section Accounted

variable {source : ModuleSource ι ρ ω} {stage next : Stage ι ρ ω} {done more : List Completion}

theorem accounted_opening (source : ModuleSource ι ρ ω) (settings : RoutingSettings) (world : ω) :
    Accounted source (Stage.opening source settings { world }) [] where
  reported := rfl
  counted := rfl
  completed := rfl
  source_eq := rfl
  loads := ⟨rfl, List.nodup_nil⟩
  stocked _ :=
    { loaded := rfl
      once := List.nodup_nil
      held := fun load => by cases load <;> simp [Stage.opening, Router.empty, Site.loaded, Site.reports,
        ModuleCache.holds, ModuleCache.controller?, ModuleCache.middleware?] }

theorem Accounted.completes (h : Accounted source stage done) (hrouter : next.router = stage.router)
    (hhalted : next.halted = stage.halted) (hmore : stage.site.Completes next.site more) :
    Accounted source next (done ++ more) where
  toBooked := h.toBooked.completes hmore
  source_eq := hrouter ▸ h.source_eq
  loads := h.loads.of_eq hmore.loads (by rw [Site.loaded, Site.reports, hmore.journal, Site.loaded, Site.reports])
  stocked hlive := by
    rw [hrouter]
    apply (h.stocked (hhalted ▸ hlive)).of_eq hmore.loads
    rw [Site.loaded, Site.reports, hmore.journal, Site.loaded, Site.reports]

theorem Accounted.call (h : Accounted source stage done) (call : Router.Call ι ρ ω) :
    Accounted source (stage.call call) done := by
  rcases stage.call_cases call with ⟨-, hsame⟩ | ⟨router, site, hlive, hcall, hnext⟩ | ⟨halt, site, hlive, hcall, hnext⟩
  · rw [hsame]
    exact h
  · have hsucceeds := Router.perform_eq_ok hcall
    obtain ⟨routes, hroutes, -⟩ := hsucceeds.hands
    have hstocked := h.source_eq ▸ hsucceeds.stocked (h.source_eq.symm ▸ h.stocked hlive)
    rw [hnext]
    exact
      { toBooked := h.toBooked.hands hroutes
        source_eq := hsucceeds.source_eq.trans h.source_eq
        loads := hstocked.toLoadsOnce
        stocked := fun _ => hstocked }
  · have hhalts := Router.perform_eq_error hcall
    obtain ⟨routes, hroutes, -⟩ := hhalts.hands
    rw [hnext]
    exact
      { toBooked := h.toBooked.hands hroutes
        source_eq := h.source_eq
        loads := h.source_eq ▸ hhalts.loadsOnce (h.source_eq.symm ▸ h.stocked hlive)
        stocked := fun hhalted => by cases hhalted }

theorem act_accounted (h : Accounted source stage done) (act : Act ι ρ ω) :
    Accounted source (stage.act act) (done ++ (stage.completion? act).toList) := by
  by_cases hact : ∃ call, act = .step (.call call)
  · obtain ⟨call, rfl⟩ := hact
    have hnone : done ++ (stage.completion? (.step (.call call))).toList = done := List.append_nil done
    rw [hnone]
    exact h.call call
  · have hnot : ∀ call, act ≠ .step (.call call) := fun call heq => hact ⟨call, heq⟩
    obtain ⟨hrouter, hhalted, hmore⟩ := stage.act_completes hnot
    exact h.completes hrouter hhalted hmore

theorem enact_accounted (h : Accounted source stage done) (acts : List (Act ι ρ ω)) :
    Accounted source (stage.enact acts) (done ++ stage.completed acts) := by
  induction acts generalizing stage done with
  | nil =>
    rw [Stage.completed, List.append_nil]
    exact h
  | cons act acts ih =>
    rw [Stage.completed, ← List.append_assoc]
    exact ih (act_accounted h act)

end Accounted

/-! ## Servers that survive -/

namespace Stage

/-- whether the server survives the act -/
def endures (stage : Stage ι ρ ω) : Act ι ρ ω → Bool
  | .step (.call call) =>
    stage.halted ||
      match (stage.router.perform stage.site call).1 with
      | .error (.unhostable _) => false
      | _ => true
  | _ => true

def survives (stage : Stage ι ρ ω) : List (Act ι ρ ω) → Bool
  | [] => true
  | act :: acts => stage.endures act && (stage.act act).survives acts

/-- What the server was handed are the routes that the router lists and has registered with it. -/
structure Handed (stage : Stage ι ρ ω) : Prop where
  registrations : stage.site.registrations = stage.router.registered
  listed : stage.router.routes.map Route.summary = stage.router.registered
  unbound : stage.router.server = none → stage.router.registered = []

end Stage

theorem Router.Succeeds.listed {router router' : Router ι ρ ω} {site site' : Site ι ω} {call : Router.Call ι ρ ω}
    (h : Router.Succeeds router site call router' site')
    (hlisted : router.routes.map Route.summary = router.registered)
    (hunbound : router.server = none → router.registered = []) :
    router'.routes.map Route.summary = router'.registered ∧ (router'.server = none → router'.registered = []) := by
  cases h with
  | bound server resource hnone =>
    have hregistered := hunbound hnone
    refine ⟨?_, fun _ => hregistered⟩
    rw [Router.routes_binding hregistered, hregistered]
    rfl
  | ignored server resource hbound => exact ⟨hlisted, hunbound⟩
  | registered hbatch hbound hresolve hold =>
    rename_i lines mount server routes table s
    refine ⟨?_, fun hserver => by cases hserver⟩
    rw [Router.routes_holding hbound routes s.1 table, List.map_append, hlisted]
  | fallback handler hbound =>
    refine ⟨?_, fun hserver => by cases hserver⟩
    rw [Router.routes_installing hbound handler]
    exact hlisted

section Handed

variable {stage : Stage ι ρ ω}

theorem Stage.Handed.call (h : stage.Handed) {call : Router.Call ι ρ ω}
    (hendures : stage.endures (.step (.call call)) = true) : (stage.call call).Handed := by
  rcases stage.call_cases call with ⟨-, hsame⟩ | ⟨router, site, -, hcall, hnext⟩ | ⟨halt, site, hlive, hcall, hnext⟩
  · rw [hsame]
    exact h
  · have hsucceeds := Router.perform_eq_ok hcall
    obtain ⟨routes, hroutes, hregistered⟩ := hsucceeds.hands
    obtain ⟨hlisted, hunbound⟩ := hsucceeds.listed h.listed h.unbound
    rw [hnext]
    refine ⟨?_, hlisted, hunbound⟩
    rw [hroutes.registrations, hregistered, h.registrations]
  · simp only [Stage.endures, hlive, hcall, Bool.false_or] at hendures
    cases halt with
    | unhostable path => cases hendures
    | refused e =>
      -- a refused batch has handed nothing over
      obtain ⟨routes, hroutes, hnone⟩ := (Router.perform_eq_error hcall).hands
      obtain rfl := hnone e rfl
      rw [hnext]
      refine ⟨?_, h.listed, h.unbound⟩
      rw [hroutes.registrations, List.map_nil, List.append_nil, h.registrations]

theorem Stage.Handed.act (h : stage.Handed) {act : Act ι ρ ω} (hendures : stage.endures act = true) :
    (stage.act act).Handed := by
  by_cases hact : ∃ call, act = .step (.call call)
  · obtain ⟨call, rfl⟩ := hact
    exact h.call hendures
  · have hnot : ∀ call, act ≠ .step (.call call) := fun call heq => hact ⟨call, heq⟩
    obtain ⟨hrouter, -, hmore⟩ := stage.act_completes hnot
    constructor
    · rw [hmore.registrations, hrouter, h.registrations]
    · rw [hrouter, h.listed]
    · rw [hrouter]
      exact h.unbound

theorem Stage.Handed.enact (h : stage.Handed) {acts : List (Act ι ρ ω)} (hsurvives : stage.survives acts = true) :
    (stage.enact acts).Handed := by
  induction acts generalizing stage with
  | nil => exact h
  | cons act acts ih =>
    obtain ⟨hact, hacts⟩ := (Bool.and_eq_true _ _).mp hsurvives
    exact ih (h.act hact) hacts

end Handed

/-! ## The accounts -/

/-- What the records of a stage tell after these acts. -/
structure Accounts (source : ModuleSource ι ρ ω) (first : Stage ι ρ ω) (acts : List (Act ι ρ ω))
    (stage : Stage ι ρ ω) : Prop where
  /-- the counter of each method is the number of its routes that were handed to the server -/
  registered : ∀ method, stage.site.measures.count (.registered method) =
    stage.site.registrations.countP (·.method = method)
  /-- these are the routes that the server has got, if it has survived -/
  handed : first.survives acts = true → stage.site.registrations = stage.router.routes.map Route.summary
  /-- the counter of each target and status is the number of completions under that target with that status -/
  dispatched : ∀ target status, stage.site.measures.count (.dispatched target status) =
    (first.completed acts).count (target, status)
  /-- each call has logged one error if it was refused, and none otherwise -/
  errors : ∀ before call after, acts = before ++ .step (.call call) :: after → (first.enact before).halted = false →
    (first.enact before).site.Blames ((first.enact before).router.perform (first.enact before).site call)
  /-- a load is reported once if it was asked of the source and succeeds, and is not reported otherwise -/
  loaded : ∀ load, stage.site.loaded.count load = if load ∈ stage.site.loads ∧ source.has load = true then 1 else 0
  /-- each route that was handed to the server is reported, in order -/
  reported : stage.site.reports Event.registered? = stage.site.registrations

/-- **The records account for the run.** Whatever calls and requests, in whatever order, and whether a call fails or
not: the counters and the journal tell what was registered, completed, refused and loaded, each as often as it was. -/
theorem enact_accounts (source : ModuleSource ι ρ ω) (settings : RoutingSettings) (world : ω)
    (acts : List (Act ι ρ ω)) :
    Accounts source (Stage.opening source settings { world }) acts
      ((Stage.opening source settings { world }).enact acts) := by
  have h := enact_accounted (accounted_opening source settings world) acts
  rw [List.nil_append] at h
  constructor
  · intro method
    rw [Measure.count_eq Measure.method?_eq_some, h.counted, List.count_eq_countP, List.countP_map]
    rfl
  · intro hsurvives
    have hopening : (Stage.opening source settings { world }).Handed := ⟨rfl, rfl, fun _ => rfl⟩
    have hhanded := hopening.enact hsurvives
    rw [hhanded.registrations, hhanded.listed]
  · intro target status
    rw [Measure.count_eq Measure.completion?_eq_some, h.completed]
  · intro before call after hacts hlive
    exact Router.perform_blames _ _ call
  · intro load
    rw [h.loads.once.count]
    apply if_congr _ rfl rfl
    rw [h.loads.loaded, List.mem_filter]
  · exact h.reported

/-- Two routes, one behind a middleware that answers in its place, requests to both and a visit, and then a batch of
which the second line is bad. -/
def Sample.acts : List (Act Unit Unit Unit) :=
  let request := Request.receive "GET" "/a" [] ""
  [.step (.call (.init (.recording {}) none)), .step (.call (.web ["get /a Page@show", "post /a Page@show auth"])),
    .step (.dispatch 0 request), .guarded 1 0 request, .visit { request, clock := 0, freshId := [] },
    .step (.call (.api ["put /c Users@show", "put /c"]))]

example :
    let first := Stage.opening Sample.source {} { world := () }
    let stage := first.enact Sample.acts
    first.survives Sample.acts = true ∧ (first.completed Sample.acts).map (·.2) = [200, 200] ∧
      stage.site.registrations.map (·.method) = [.get, .post] ∧
      stage.site.errors.map Event.refusal? = [some (.malformed "put /c")] ∧
      stage.site.loaded = [.controller "Page", .middleware "auth", .controller "Users"] := by
  decide +kernel

end Switchboard
