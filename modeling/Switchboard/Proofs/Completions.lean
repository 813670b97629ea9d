/-
Which requests have an action run to completion.

A request comes through middlewares unless one of them answers it (`Middleware.reaching`); then the action behind them
runs. An act is a step of a course, or a request that comes through middlewares: to a registered route, or to the bound
server as a visit.

- `Site.Completes`: what a request leaves in the records, which is one step of a counter if an action has run to
  completion, and nothing otherwise.
- `Host.answer_completes` says this of every visit, whatever its handling: only the action of a route is counted, and
  neither a refusal nor the fallback is.
- `Stage.act_completes`: no act but a call leaves more than that.
-/
import Switchboard.Proofs.Courses
import Switchboard.Proofs.Handling

namespace Switchboard

variable {σ ι ρ ω : Type}

/-! ## Actions that run to completion -/

/-- the request that comes through the middlewares, unless one of them answers -/
def Middleware.reaching (clock : Nat) : List Middleware → Request → Option Request
  | [], request => some request
  | m :: ms, request =>
    match m clock request with
    | .answer _ => none
    | .forward request' _ => reaching clock ms request'

/-- A chain leaves the state to the handler inside it, or leaves it as it was. -/
theorem Middleware.chain_state (clock : Nat) (ms : List Middleware) (next : Handler σ) (request : Request) (state : σ) :
    (chain clock ms next request state).2 =
      match reaching clock ms request with
      | none => state
      | some reached => (next reached state).2 := by
  induction ms generalizing request with
  | nil => rfl
  | cons m ms ih =>
    simp only [chain_cons, wrap, reaching]
    cases m clock request with
    | answer response => rfl
    | forward request' finish => exact ih request'

/-- a target, and the status of an answer given under it -/
abbrev Completion := Text × Nat

namespace Route

def completion? (route : Route ι ω) (request : Request) (site : Site ι ω) : Option Completion :=
  site.instances[route.slot]?.map fun inst => (route.target, (route.action request inst site.world).1.status)

/-- the same behind the middlewares of the route -/
def guardedCompletion? (route : Route ι ω) (clock : Nat) (request : Request) (site : Site ι ω) : Option Completion :=
  (Middleware.reaching clock (route.middleware.map (·.middleware)) request).bind (route.completion? · site)

end Route

/-- From one site to the other these actions have run to completion, and nothing else was recorded. -/
structure Site.Completes (site site' : Site ι ω) (done : List Completion) : Prop where
  journal : site'.journal = site.journal
  loads : site'.loads = site.loads
  registrations : site'.registrations = site.registrations
  measures : site'.measures = site.measures ++ done.map fun answer => .dispatched answer.1 answer.2

theorem Site.Completes.refl (site : Site ι ω) : site.Completes site [] :=
  ⟨rfl, rfl, rfl, by simp⟩

theorem Handler.atSite_completes (handler : Handler ω) (request : Request) (site : Site ι ω) :
    site.Completes (handler.atSite request site).2 [] :=
  ⟨rfl, rfl, rfl, by simp [Handler.atSite]⟩

theorem Route.dispatch_completes (route : Route ι ω) (request : Request) (site : Site ι ω) :
    site.Completes (route.dispatch request site).2 (route.completion? request site).toList := by
  unfold Route.dispatch Route.completion?
  cases site.instances[route.slot]? with
  | none => exact .refl site
  | some inst => exact ⟨rfl, rfl, rfl, rfl⟩

namespace Host

theorem guarded_completes (clock : Nat) (route : Route ι ω) (request : Request) (site : Site ι ω) :
    site.Completes (guarded clock route route.dispatch request site).2
      (route.guardedCompletion? clock request site).toList := by
  unfold guarded Route.guardedCompletion?
  rw [Middleware.chain_state]
  cases Middleware.reaching clock (route.middleware.map (·.middleware)) request with
  | none => exact .refl site
  | some reached => exact route.dispatch_completes reached site

theorem guarded_notAllowed_state (clock : Nat) (route : Route ι ω) (request : Request) (site : Site ι ω) :
    (guarded clock route notAllowed request site).2 = site := by
  unfold guarded
  rw [Middleware.chain_state]
  split <;> rfl

/-- the answer with which an action runs to completion, if the handling runs one and the request comes through -/
def Handling.completion? (clock : Nat) (request : Request) (site : Site ι ω) : Handling ι ω → Option Completion
  | .action route captured => route.guardedCompletion? clock { request with captures := some (visible captured) } site
  | _ => none

theorem Handling.run_completes (clock : Nat) (handling : Handling ι ω) (request : Request) (site : Site ι ω) :
    site.Completes (handling.run (guarded clock) Route.dispatch Handler.atSite request site).2
      (handling.completion? clock request site).toList := by
  cases handling with
  | action route captured => exact guarded_completes clock route _ site
  | verbRefused siblings captured =>
    have hstate : ((Handling.verbRefused siblings captured).run (guarded clock) Route.dispatch Handler.atSite
        request site).2 = site := by
      simp only [Handling.run]
      cases siblings.getLast? with
      | none => rfl
      | some route => exact guarded_notAllowed_state clock route _ site
    rw [hstate]
    exact .refl site
  | fallback handler => exact handler.atSite_completes request site
  | fallbackRefused => exact .refl site
  | unmatched => exact .refl site

end Host

/-- the request of the visit, with its id -/
def Visit.identified (visit : Visit) : Request :=
  { visit.request with
    headers := visit.request.headers.setIfAbsent Host.idHeader
      ((visit.request.header? Host.idHeader).getD visit.freshId) }

/-- the answer with which an action runs to completion on a visit -/
def Host.completion? (server : Server ι ω) (visit : Visit) (site : Site ι ω) : Option Completion :=
  (handling server visit.identified.verb visit.identified.path).completion? visit.clock visit.identified site

theorem Host.answer_completes (server : Server ι ω) (visit : Visit) (site : Site ι ω) :
    site.Completes (answer server visit site).2 (completion? server visit site).toList := by
  have hstate : (answer server visit site).2 = (respond server visit.clock visit.identified site).2 := rfl
  rw [hstate, respond_eq]
  exact Handling.run_completes visit.clock _ visit.identified site

/-! ## Acts -/

/-- a step of a course, or a request through middlewares -/
inductive Act (ι ρ ω : Type) where
  | step (step : Step ι ρ ω)
  /-- a request to the registered route of that number, through its middlewares -/
  | guarded (number clock : Nat) (request : Request)
  /-- a visit to the bound server -/
  | visit (visit : Visit)

namespace Stage

def act (stage : Stage ι ρ ω) : Act ι ρ ω → Stage ι ρ ω
  | .step step => stage.step step
  | .guarded number clock request =>
    match stage.router.routes[number]? with
    | some route => { stage with site := (Host.guarded clock route route.dispatch request stage.site).2 }
    | none => stage
  | .visit visit =>
    match stage.router.server with
    | some server => { stage with site := (Host.answer server visit stage.site).2 }
    | none => stage

def enact (stage : Stage ι ρ ω) (acts : List (Act ι ρ ω)) : Stage ι ρ ω :=
  acts.foldl act stage

def completion? (stage : Stage ι ρ ω) : Act ι ρ ω → Option Completion
  | .step (.dispatch number request) => stage.router.routes[number]?.bind (·.completion? request stage.site)
  | .step _ => none
  | .guarded number clock request => stage.router.routes[number]?.bind (·.guardedCompletion? clock request stage.site)
  | .visit visit => stage.router.server.bind (Host.completion? · visit stage.site)

def completed (stage : Stage ι ρ ω) : List (Act ι ρ ω) → List Completion
  | [] => []
  | act :: acts => (stage.completion? act).toList ++ (stage.act act).completed acts

theorem act_completes (stage : Stage ι ρ ω) {act : Act ι ρ ω} (hact : ∀ call, act ≠ .step (.call call)) :
    (stage.act act).router = stage.router ∧ (stage.act act).halted = stage.halted ∧
      stage.site.Completes (stage.act act).site (stage.completion? act).toList := by
  cases act with
  | step step =>
    cases step with
    | call call => exact absurd rfl (hact call)
    | dispatch number request =>
      simp only [Stage.act, Stage.step, completion?]
      cases stage.router.routes[number]? with
      | none => exact ⟨rfl, rfl, .refl _⟩
      | some route => exact ⟨rfl, rfl, route.dispatch_completes request stage.site⟩
    | fallback request =>
      simp only [Stage.act, Stage.step, completion?]
      cases stage.router.server.bind (·.fallback) with
      | none => exact ⟨rfl, rfl, .refl _⟩
      | some handler => exact ⟨rfl, rfl, handler.atSite_completes request stage.site⟩
  | guarded number clock request =>
    simp only [Stage.act, completion?]
    cases stage.router.routes[number]? with
    | none => exact ⟨rfl, rfl, .refl _⟩
    | some route => exact ⟨rfl, rfl, Host.guarded_completes clock route request stage.site⟩
  | visit visit =>
    simp only [Stage.act, completion?]
    cases stage.router.server with
    | none => exact ⟨rfl, rfl, .refl _⟩
    | some server => exact ⟨rfl, rfl, Host.answer_completes server visit stage.site⟩

end Stage

end Switchboard
