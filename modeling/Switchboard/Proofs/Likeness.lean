/-
Like requests, answered side by side.

A likeness says of which requests, and of which states, it does not matter which of two is at hand. A handler respects
it if it answers like requests in like states with the same response and leaves like states (`Handler.Respects`).

- `respects_chain`: middlewares that respect a likeness respect it around a handler that does.
- `Server.Respects`: so do the middlewares, the actions and the fallback of a server, for a likeness of requests that
  the host itself cannot tell apart (`Request.Likeness`).
- `answers_respects`: such a server gives like requests, one after the other, the same responses.
-/
import Switchboard.Proofs.Handling

namespace Switchboard

variable {σ ι ω : Type} {Q : Request → Request → Prop}

/-! ## Handlers and middlewares -/

/-- to like requests in like states, the same response and like states -/
def Handler.Respects (Q : Request → Request → Prop) (S : σ → σ → Prop) (handler : Handler σ) : Prop :=
  ∀ request request' state state', Q request request' → S state state' →
    (handler request state).1 = (handler request' state').1 ∧ S (handler request state).2 (handler request' state').2

/-- the same answer, or like requests passed on and the response finished in the same way -/
def Ruling.Like (Q : Request → Request → Prop) : Ruling → Ruling → Prop
  | .answer response, .answer response' => response = response'
  | .forward request finish, .forward request' finish' => Q request request' ∧ finish = finish'
  | _, _ => False

/-- on like requests, like rulings -/
def Middleware.Respects (Q : Request → Request → Prop) (m : Middleware) : Prop :=
  ∀ clock request request', Q request request' → Ruling.Like Q (m clock request) (m clock request')

theorem Ruling.like_refl (ruling : Ruling) : Ruling.Like Eq ruling ruling := by
  cases ruling with
  | answer response => rfl
  | forward request finish => exact ⟨rfl, rfl⟩

namespace Handler

variable {S : σ → σ → Prop} {handler next : Handler σ}

theorem respects_const (response : Response) : Respects Q S fun _ state => (response, state) :=
  fun _ _ _ _ _ hstate => ⟨rfl, hstate⟩

theorem Respects.wrap {m : Middleware} (hm : m.Respects Q) (hnext : Respects Q S next) (clock : Nat) :
    Respects Q S (Middleware.wrap clock m next) := by
  intro request request' state state' hrequest hstate
  have hruling := hm clock request request' hrequest
  unfold Middleware.wrap
  cases hleft : m clock request with
  | answer response =>
    cases hright : m clock request' with
    | answer response' =>
      rw [hleft, hright] at hruling
      exact ⟨hruling, hstate⟩
    | forward passed' finish' =>
      rw [hleft, hright] at hruling
      exact hruling.elim
  | forward passed finish =>
    cases hright : m clock request' with
    | answer response' =>
      rw [hleft, hright] at hruling
      exact hruling.elim
    | forward passed' finish' =>
      rw [hleft, hright] at hruling
      obtain ⟨hpassed, rfl⟩ := hruling
      obtain ⟨hresponse, hstates⟩ := hnext passed passed' state state' hpassed hstate
      exact ⟨congrArg finish hresponse, hstates⟩

theorem respects_chain {ms : List Middleware} (hms : ∀ m ∈ ms, m.Respects Q) (hnext : Respects Q S next)
    (clock : Nat) : Respects Q S (Middleware.chain clock ms next) := by
  induction ms with
  | nil => exact hnext
  | cons m ms ih =>
    obtain ⟨hm, hms⟩ := List.forall_mem_cons.1 hms
    exact (ih hms).wrap hm clock

/-- what finishes the response in one way respects what its handler does -/
theorem Respects.finish (h : Respects Q S handler) (finish : Response → Response) :
    Respects Q S fun request state => (finish (handler request state).1, (handler request state).2) := by
  intro request request' state state' hrequest hstate
  obtain ⟨hresponse, hstates⟩ := h request request' state state' hrequest hstate
  exact ⟨congrArg finish hresponse, hstates⟩

end Handler

/-! ## Hosts -/

/-- Like requests are the same to the host: it looks at verb, path and headers, and sets headers and captures. -/
structure Request.Likeness (Q : Request → Request → Prop) : Prop where
  verb : ∀ {r r'}, Q r r' → r'.verb = r.verb
  path : ∀ {r r'}, Q r r' → r'.path = r.path
  headers : ∀ {r r'}, Q r r' → r'.headers = r.headers
  withHeaders : ∀ {r r'} headers, Q r r' → Q { r with headers } { r' with headers }
  withCaptures : ∀ {r r'} captures, Q r r' → Q { r with captures } { r' with captures }

theorem Request.likeness_eq : Request.Likeness Eq where
  verb h := by rw [h]
  path h := by rw [h]
  headers h := by rw [h]
  withHeaders _ h := by rw [h]
  withCaptures _ h := by rw [h]

/-- all that the server runs respects the likenesses -/
structure Server.Respects (Q : Request → Request → Prop) (S : Site ι ω → Site ι ω → Prop) (server : Server ι ω) :
    Prop where
  requests : Request.Likeness Q
  middleware : ∀ route ∈ server.routes, ∀ m ∈ route.middleware.map (·.middleware), m.Respects Q
  action : ∀ route ∈ server.routes, Handler.Respects Q S route.dispatch
  fallback : ∀ handler, server.fallback = some handler → Handler.Respects Q S handler.atSite

/-- like requests at one time, with one id for both -/
structure Visit.Like (Q : Request → Request → Prop) (visit visit' : Visit) : Prop where
  request : Q visit.request visit'.request
  clock : visit'.clock = visit.clock
  freshId : visit'.freshId = visit.freshId

namespace Host

variable {S : Site ι ω → Site ι ω → Prop} {server : Server ι ω}

theorem guarded_respects (h : server.Respects Q S) {route : Route ι ω} (hroute : route ∈ server.routes)
    {next : Handler (Site ι ω)} (hnext : Handler.Respects Q S next) (clock : Nat) :
    Handler.Respects Q S (guarded clock route next) :=
  Handler.respects_chain (h.middleware route hroute) hnext clock

theorem notAllowed_respects : Handler.Respects Q S notAllowed :=
  Handler.respects_const (.bare 405)

theorem answerOn_respects (h : server.Respects Q S) {routes : List (Route ι ω)} (hroutes : routes ⊆ server.routes)
    (clock : Nat) : Handler.Respects Q S (answerOn clock routes) := by
  intro request request' site site' hrequest hsite
  have hroute' : routeFor? routes request'.verb = routeFor? routes request.verb := by rw [h.requests.verb hrequest]
  unfold answerOn
  rw [hroute']
  cases hroute : routeFor? routes request.verb with
  | some route =>
    have hmem := hroutes (routeFor?_eq_some hroute).1
    exact guarded_respects h hmem (h.action route hmem) clock request request' site site' hrequest hsite
  | none =>
    let allow : Response → Response :=
      Response.withDefaultHeader "allow" (Text.join [','] (routes.map (answered ·.method)))
    cases hlast : routes.getLast? with
    | none => exact notAllowed_respects.finish allow request request' site site' hrequest hsite
    | some last =>
      have hguarded := guarded_respects h (hroutes (List.mem_of_getLast? hlast)) notAllowed_respects clock
      exact hguarded.finish allow request request' site site' hrequest hsite

theorem answerUnmatched_respects (h : server.Respects Q S) :
    Handler.Respects Q S (answerUnmatched server.fallback) := by
  intro request request' site site' hrequest hsite
  have hget : (routedVerb request'.verb = Method.get.verb) = (routedVerb request.verb = Method.get.verb) := by
    rw [h.requests.verb hrequest]
  unfold answerUnmatched
  simp only [hget]
  cases hfallback : server.fallback with
  | none => exact ⟨rfl, hsite⟩
  | some handler =>
    simp only
    split_ifs
    · exact h.fallback handler hfallback request request' site site' hrequest hsite
    · exact ⟨rfl, hsite⟩

theorem respond_respects (h : server.Respects Q S) (clock : Nat) : Handler.Respects Q S (respond server clock) := by
  intro request request' site site' hrequest hsite
  have hlocate : locate server.routes request'.path = locate server.routes request.path := by
    rw [h.requests.path hrequest]
  unfold respond
  rw [hlocate]
  cases locate server.routes request.path with
  | none => exact answerUnmatched_respects h request request' site site' hrequest hsite
  | some found =>
    obtain ⟨top, captured⟩ := found
    have hsiblings : siblings server.routes top ⊆ server.routes := fun _ hroute => (mem_siblings.1 hroute).1
    exact answerOn_respects h hsiblings clock _ _ site site' (h.requests.withCaptures _ hrequest) hsite

theorem answer_respects (h : server.Respects Q S) {visit visit' : Visit} (hvisit : Visit.Like Q visit visit')
    {site site' : Site ι ω} (hsite : S site site') :
    (answer server visit site).1 = (answer server visit' site').1 ∧
      S (answer server visit site).2 (answer server visit' site').2 := by
  obtain ⟨hrequest, hclock, hfresh⟩ := hvisit
  have hid : (visit'.request.header? idHeader).getD visit'.freshId =
      (visit.request.header? idHeader).getD visit.freshId := by
    rw [hfresh, Request.header?, h.requests.headers hrequest, Request.header?]
  have hheaders : visit'.request.headers.setIfAbsent idHeader ((visit.request.header? idHeader).getD visit.freshId) =
      visit.request.headers.setIfAbsent idHeader ((visit.request.header? idHeader).getD visit.freshId) := by
    rw [h.requests.headers hrequest]
  have hhead : (visit'.request.verb = ("HEAD" : Text)) = (visit.request.verb = ("HEAD" : Text)) := by
    rw [h.requests.verb hrequest]
  obtain ⟨hresponse, hstates⟩ := respond_respects h visit.clock _ _ site site'
    (h.requests.withHeaders (visit.request.headers.setIfAbsent idHeader
      ((visit.request.header? idHeader).getD visit.freshId)) hrequest) hsite
  simp only [answer, hid, hheaders, hhead, hclock, hresponse]
  exact ⟨trivial, hstates⟩

theorem answers_respects (h : server.Respects Q S) {visits visits' : List Visit}
    (hvisits : List.Forall₂ (Visit.Like Q) visits visits') {site site' : Site ι ω} (hsite : S site site') :
    (answers server site visits).1 = (answers server site' visits').1 ∧
      S (answers server site visits).2 (answers server site' visits').2 := by
  induction hvisits generalizing site site' with
  | nil => exact ⟨rfl, hsite⟩
  | @cons visit visit' visits visits' hvisit _ ih =>
    obtain ⟨hresponse, hnext⟩ := answer_respects h hvisit hsite
    obtain ⟨hresponses, hlast⟩ := ih hnext
    exact ⟨List.cons_eq_cons.2 ⟨hresponse, hresponses⟩, hlast⟩

end Host

end Switchboard
