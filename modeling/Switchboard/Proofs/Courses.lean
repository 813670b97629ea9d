/-
Courses: calls on a router and requests to what it has registered, in any order.

A stage is the router as the last call that succeeded left it, the site, and the dispatches so far. After a call that
failed there are no further calls, but the routes registered before are still dispatched to.

- `play_calls`: a course of calls alone is a run.
- `play_initOnce`: initialisations after the first one change nothing else.
-/
import Switchboard.Proofs.Lockstep

namespace Switchboard

variable {ι ρ ω : Type}

/-- the routes that the router has registered with its server, in order -/
def Router.routes (router : Router ι ρ ω) : List (Route ι ω) :=
  match router.server with
  | none => []
  | some server => server.routes.drop (server.routes.length - router.registered.length)

inductive Step (ι ρ ω : Type) where
  | call (call : Router.Call ι ρ ω)
  /-- a request to the registered route of that number -/
  | dispatch (number : Nat) (request : Request)
  /-- a request to the handler of what no route answers -/
  | fallback (request : Request)

namespace Step

/-- the server and the resource that the step offers to the router -/
def init? : Step ι ρ ω → Option (Server ι ω × Option ρ)
  | call (.init server resource) => some (server, resource)
  | _ => none

/-- what is offered first -/
def firstInit? (steps : List (Step ι ρ ω)) : Option (Server ι ω × Option ρ) :=
  steps.findSome? init?

def withoutInits (steps : List (Step ι ρ ω)) : List (Step ι ρ ω) :=
  steps.filter fun step => step.init?.isNone

/-- the steps with the first initialisation as the only one -/
def initOnce : List (Step ι ρ ω) → List (Step ι ρ ω)
  | [] => []
  | step :: steps => step :: if step.init?.isNone then initOnce steps else withoutInits steps

end Step

/-- a request that was dispatched, with the instance as it was found and as it was left -/
structure Dispatch (ι ω : Type) where
  route : Route ι ω
  request : Request
  found : Option ι
  left : Option ι
  response : Response

/-- where a course has come to -/
structure Stage (ι ρ ω : Type) where
  /-- the router as the last call that succeeded left it -/
  router : Router ι ρ ω
  /-- whether a call has failed -/
  halted : Bool := false
  site : Site ι ω
  /-- dispatches in order -/
  dispatches : List (Dispatch ι ω) := []

namespace Stage

def call (stage : Stage ι ρ ω) (call : Router.Call ι ρ ω) : Stage ι ρ ω :=
  if stage.halted then stage
  else
    match stage.router.perform stage.site call with
    | (.ok router, site) => { stage with router, site }
    | (.error _, site) => { stage with halted := true, site }

def dispatch (stage : Stage ι ρ ω) (route : Route ι ω) (request : Request) : Stage ι ρ ω :=
  let (response, site) := route.dispatch request stage.site
  { stage with
    site
    dispatches := stage.dispatches ++
      [{ route, request, found := stage.site.instances[route.slot]?, left := site.instances[route.slot]?, response }] }

def step (stage : Stage ι ρ ω) : Step ι ρ ω → Stage ι ρ ω
  | .call call => stage.call call
  | .dispatch number request =>
    match stage.router.routes[number]? with
    | some route => stage.dispatch route request
    | none => stage
  | .fallback request =>
    match stage.router.server.bind (·.fallback) with
    | some handler => { stage with site := (handler.atSite request stage.site).2 }
    | none => stage

def play (stage : Stage ι ρ ω) (steps : List (Step ι ρ ω)) : Stage ι ρ ω :=
  steps.foldl step stage

/-- a router that has not been called yet -/
def opening (source : ModuleSource ι ρ ω) (settings : RoutingSettings) (site : Site ι ω) : Stage ι ρ ω :=
  { router := Router.empty source settings, site }

variable {stage stage' : Stage ι ρ ω}

theorem call_halted (h : stage.halted = true) (call : Router.Call ι ρ ω) : stage.call call = stage := by
  simp only [Stage.call, h, if_true]

theorem call_ok (h : stage.halted = false) {call : Router.Call ι ρ ω} {router : Router ι ρ ω} {site : Site ι ω}
    (hcall : stage.router.perform stage.site call = (.ok router, site)) :
    stage.call call = { stage with router, site } := by
  simp only [Stage.call, h, hcall, Bool.false_eq_true, if_false]

theorem call_error (h : stage.halted = false) {call : Router.Call ι ρ ω} {halt : Halt} {site : Site ι ω}
    (hcall : stage.router.perform stage.site call = (.error halt, site)) :
    stage.call call = { stage with halted := true, site } := by
  simp only [Stage.call, h, hcall, Bool.false_eq_true, if_false]

/-- Everything that a call can come to: nothing after one that failed, and otherwise it succeeds or fails. -/
theorem call_cases (stage : Stage ι ρ ω) (call : Router.Call ι ρ ω) :
    (stage.halted = true ∧ stage.call call = stage) ∨
      (∃ router site, stage.halted = false ∧ stage.router.perform stage.site call = (.ok router, site) ∧
        stage.call call = { stage with router, site }) ∨
      ∃ halt site, stage.halted = false ∧ stage.router.perform stage.site call = (.error halt, site) ∧
        stage.call call = { stage with halted := true, site } := by
  by_cases hhalted : stage.halted = true
  · exact Or.inl ⟨hhalted, call_halted hhalted call⟩
  · right
    have hlive : stage.halted = false := by simpa using hhalted
    cases hcall : stage.router.perform stage.site call with
    | mk result site =>
      cases result with
      | ok router => exact Or.inl ⟨router, site, hlive, rfl, call_ok hlive hcall⟩
      | error halt => exact Or.inr ⟨halt, site, hlive, rfl, call_error hlive hcall⟩

theorem play_halted (h : stage.halted = true) (calls : List (Router.Call ι ρ ω)) :
    stage.play (calls.map .call) = stage := by
  induction calls with
  | nil => rfl
  | cons call calls ih =>
    rw [List.map_cons, play, List.foldl_cons, step, call_halted h]
    exact ih

/-- A course of calls is a run: it comes to the same router and site, or halts at the same site. -/
theorem play_calls (h : stage.halted = false) (calls : List (Router.Call ι ρ ω)) :
    (∀ router site, stage.router.run stage.site calls = (.ok router, site) →
        stage.play (calls.map .call) = { stage with router, site }) ∧
      ∀ halt site, stage.router.run stage.site calls = (.error halt, site) →
        (stage.play (calls.map .call)).halted = true ∧ (stage.play (calls.map .call)).site = site := by
  induction calls generalizing stage with
  | nil =>
    refine ⟨fun router site hran => ?_, fun halt site hran => ?_⟩
    · cases hran
      rfl
    · cases hran
  | cons call calls ih =>
    have hplay : stage.play ((call :: calls).map .call) = (stage.call call).play (calls.map .call) := rfl
    rw [hplay]
    simp only [Router.run]
    cases hcall : stage.router.perform stage.site call with
    | mk result site =>
      cases result with
      | ok next =>
        rw [call_ok h hcall]
        exact @ih { stage with router := next, site } h
      | error halt =>
        rw [call_error h hcall, play_halted rfl]
        refine ⟨fun router site' hran => ?_, fun halt' site' hran => ?_⟩
        · cases hran
        · cases hran
          exact ⟨rfl, rfl⟩

/-! ## Courses side by side -/

structure Alike (stage stage' : Stage ι ρ ω) : Prop where
  router : stage'.router = stage.router
  halted : stage'.halted = stage.halted
  dispatches : stage'.dispatches = stage.dispatches
  site : stage.site.Alike stage'.site

theorem alike_refl (stage : Stage ι ρ ω) : stage.Alike stage :=
  ⟨rfl, rfl, rfl, Site.alike_refl _⟩

theorem Alike.call (h : stage.Alike stage') (call : Router.Call ι ρ ω) :
    (stage.call call).Alike (stage'.call call) := by
  cases hhalted : stage.halted with
  | true =>
    rw [call_halted hhalted, call_halted (h.halted.trans hhalted)]
    exact h
  | false =>
    obtain ⟨houtcome, hsites⟩ := Router.perform_alike stage.router h.site call
    cases hleft : stage.router.perform stage.site call with
    | mk found left =>
      cases hright : stage'.router.perform stage'.site call with
      | mk found' right =>
        rw [h.router] at hright
        rw [hleft, hright] at houtcome hsites
        obtain rfl : found' = found := houtcome
        rw [← h.router] at hright
        cases found' with
        | ok next =>
          rw [call_ok hhalted hleft, call_ok (h.halted.trans hhalted) hright]
          exact ⟨rfl, h.halted, h.dispatches, hsites⟩
        | error halt =>
          rw [call_error hhalted hleft, call_error (h.halted.trans hhalted) hright]
          exact ⟨h.router, rfl, h.dispatches, hsites⟩

theorem Alike.dispatch (h : stage.Alike stage') (route : Route ι ω) (request : Request) :
    (stage.dispatch route request).Alike (stage'.dispatch route request) := by
  obtain ⟨hresponse, hsites⟩ := route.dispatch_alike request request stage.site stage'.site rfl h.site
  refine ⟨h.router, h.halted, ?_, hsites⟩
  simp only [Stage.dispatch, h.dispatches, hresponse, h.site.instances, hsites.instances]

theorem Alike.step (h : stage.Alike stage') (step : Step ι ρ ω) : (stage.step step).Alike (stage'.step step) := by
  cases step with
  | call call => exact h.call call
  | dispatch number request =>
    rw [Stage.step, Stage.step, h.router]
    cases stage.router.routes[number]? with
    | none => exact h
    | some route => exact h.dispatch route request
  | fallback request =>
    rw [Stage.step, Stage.step, h.router]
    cases stage.router.server.bind (·.fallback) with
    | none => exact h
    | some handler =>
      exact ⟨rfl, h.halted, h.dispatches, (handler.atSite_alike request request _ _ rfl h.site).2⟩

/-! ## Later initialisations -/

/-- no server will be bound any more: there is one, or a call has failed -/
def Settled (stage : Stage ι ρ ω) : Prop :=
  stage.halted = true ∨ stage.router.isInitialised = true

theorem settled_init (stage : Stage ι ρ ω) (server : Server ι ω) (resource : Option ρ) :
    (stage.step (.call (.init server resource))).Settled := by
  cases hhalted : stage.halted with
  | true =>
    rw [step, call_halted hhalted]
    exact Or.inl hhalted
  | false =>
    refine Or.inr ?_
    simp only [step, Stage.call, hhalted, Router.perform, Router.init]
    cases hserver : stage.router.server with
    | none => rfl
    | some held => simp [Router.isInitialised, hserver]

theorem isInitialised_of_succeeds {router router' : Router ι ρ ω} {site site' : Site ι ω} {call : Router.Call ι ρ ω}
    (hcall : Router.Succeeds router site call router' site') (h : router.isInitialised = true) :
    router'.isInitialised = true := by
  cases hcall with
  | bound server resource hnone => rfl
  | ignored server resource hbound => exact h
  | registered hbatch hbound hresolve hold => rfl
  | fallback handler hbound => rfl

theorem Settled.step (h : stage.Settled) (step : Step ι ρ ω) : (stage.step step).Settled := by
  cases step with
  | call call =>
    rw [Stage.step]
    rcases stage.call_cases call with ⟨-, hsame⟩ | ⟨router, site, hlive, hcall, hnext⟩ | ⟨halt, site, -, -, hnext⟩
    · rw [hsame]
      exact h
    · have hbound : stage.router.isInitialised = true := by simpa [Settled, hlive] using h
      rw [hnext]
      exact Or.inr (isInitialised_of_succeeds (Router.perform_eq_ok hcall) hbound)
    · rw [hnext]
      exact Or.inl rfl
  | dispatch number request =>
    simp only [Stage.step]
    cases stage.router.routes[number]? with
    | none => exact h
    | some route => exact h
  | fallback request =>
    simp only [Stage.step]
    cases stage.router.server.bind (·.fallback) with
    | none => exact h
    | some handler => exact h

/-- a further initialisation is reported, and nothing else -/
theorem Settled.init_alike (h : stage.Settled) (halike : stage.Alike stage') {step : Step ι ρ ω}
    (hinit : step.init?.isNone = false) : (stage.step step).Alike stage' := by
  obtain ⟨server, resource, rfl⟩ : ∃ server resource, step = .call (.init server resource) := by
    unfold Step.init? at hinit
    split at hinit
    · exact ⟨_, _, rfl⟩
    · cases hinit
  cases hhalted : stage.halted with
  | true =>
    rw [Stage.step, call_halted hhalted]
    exact halike
  | false =>
    have hbound : stage.router.isInitialised = true := by simpa [Settled, hhalted] using h
    obtain ⟨held, hserver⟩ := Option.isSome_iff_exists.1 hbound
    have hcall : stage.router.perform stage.site (.init server resource) =
        (.ok stage.router, stage.site.report .initIgnored) := by
      simp only [Router.perform, Router.init, hserver]
    rw [Stage.step, call_ok hhalted hcall]
    exact ⟨halike.router, halike.halted, halike.dispatches, halike.site.report_left _⟩

theorem Settled.play_withoutInits (h : stage.Settled) (halike : stage.Alike stage') (steps : List (Step ι ρ ω)) :
    (stage.play steps).Alike (stage'.play (Step.withoutInits steps)) := by
  induction steps generalizing stage stage' with
  | nil => exact halike
  | cons step steps ih =>
    cases hinit : step.init?.isNone with
    | true =>
      have hkept : Step.withoutInits (step :: steps) = step :: Step.withoutInits steps := by
        simp [Step.withoutInits, hinit]
      rw [hkept]
      exact ih (h.step step) (halike.step step)
    | false =>
      have hdropped : Step.withoutInits (step :: steps) = Step.withoutInits steps := by
        simp [Step.withoutInits, hinit]
      rw [hdropped]
      exact ih (h.step step) (h.init_alike halike hinit)

/-- Initialisations after the first one change nothing but the journal. -/
theorem play_initOnce (stage : Stage ι ρ ω) (steps : List (Step ι ρ ω)) :
    (stage.play steps).Alike (stage.play (Step.initOnce steps)) := by
  induction steps generalizing stage with
  | nil => exact alike_refl stage
  | cons step steps ih =>
    cases hinit : step.init?.isNone with
    | true =>
      rw [Step.initOnce, hinit, if_pos rfl]
      exact ih (stage.step step)
    | false =>
      rw [Step.initOnce, hinit, if_neg Bool.false_ne_true]
      refine Settled.play_withoutInits ?_ (alike_refl _) steps
      unfold Step.init? at hinit
      split at hinit
      · exact settled_init stage _ _
      · cases hinit

end Stage

end Switchboard
