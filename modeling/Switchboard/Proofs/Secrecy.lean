/-
Passwords do not leak.

Two things agree if they are the same but for passwords: stores, and submissions whose passwords are judged alike
(`Interchangeable`: both empty, both of a good length, or both of a bad one). Requests agree if they are the same, or
carry submissions that do.

- `insert_agree`: stores that agree take submissions that agree to the same result, but for the password, and agree
  afterwards.
- `respects_handler`: to requests that agree, every action of the application gives the same response.
- `answers_agree`: whatever lines are configured, requests that agree, one after the other, get the same responses. The
  order in which users are visited may be any that does not look at passwords (`VisitOrder.Blind`).
-/
import Switchboard.Proofs.Likeness
import Switchboard.Proofs.Truthfulness
import Switchboard.Proofs.UserLog

namespace Switchboard

/-! ## Users and submissions -/

def User.redacted (user : User) : User :=
  { user with password := [] }

theorem User.json_eq {user user' : User} (h : user.redacted = user'.redacted) : user.json = user'.json := by
  have hjson := congrArg User.json h
  exact hjson

/-- users are visited in the same order, whatever their passwords -/
def VisitOrder.Blind (order : VisitOrder) : Prop :=
  ∀ users users' : List User, users.map User.redacted = users'.map User.redacted →
    (order users).map User.redacted = (order users').map User.redacted

/-- passwords that are judged alike -/
inductive Interchangeable : Text → Text → Prop
  | empty : Interchangeable [] []
  | good {p p' : Text} : 8 ≤ p.length → p.length ≤ 20 → 8 ≤ p'.length → p'.length ≤ 20 → Interchangeable p p'
  | bad {p p' : Text} : p ≠ [] → p' ≠ [] → ¬(8 ≤ p.length ∧ p.length ≤ 20) → ¬(8 ≤ p'.length ∧ p'.length ≤ 20) →
      Interchangeable p p'

inductive Submission.Agree : Submission → Submission → Prop
  | same (s) : Agree s s
  | passwords (s : Submission) {p p' : Text} : Interchangeable p p' →
      Agree { s with password := some p } { s with password := some p' }

theorem Interchangeable.empty_iff {p p' : Text} (h : Interchangeable p p') : p = [] ↔ p' = [] := by
  cases h with
  | empty => rfl
  | good hmin _ hmin' _ =>
    refine iff_of_false ?_ ?_
    · rintro rfl
      simp at hmin
    · rintro rfl
      simp at hmin'
  | bad hne hne' => exact iff_of_false hne hne'

theorem Interchangeable.isPassword_eq {p p' : Text} (h : Interchangeable p p') :
    UserStore.isPassword p = UserStore.isPassword p' := by
  rw [Bool.eq_iff_iff, UserStore.isPassword_iff, UserStore.isPassword_iff]
  cases h with
  | empty => rfl
  | good hmin hmax hmin' hmax' => exact iff_of_true ⟨hmin, hmax⟩ ⟨hmin', hmax'⟩
  | bad _ _ hbad hbad' => exact iff_of_false hbad hbad'

namespace UserStore

/-! ## Stores -/

/-- the same ids were given out, and to users that are the same but for their passwords -/
structure Agree (store store' : UserStore) : Prop where
  users : store.users.map User.redacted = store'.users.map User.redacted
  lastId : store.lastId = store'.lastId

theorem agree_refl (store : UserStore) : Agree store store :=
  ⟨rfl, rfl⟩

variable {store store' : UserStore}

/-- what holds of users whatever their passwords finds users that agree -/
theorem find?_agree {P : User → Bool} (hP : ∀ user : User, P user.redacted = P user) {users users' : List User}
    (h : users.map User.redacted = users'.map User.redacted) :
    (users.find? P).map User.redacted = (users'.find? P).map User.redacted := by
  have hcomp : P ∘ User.redacted = P := funext hP
  have hfound := congrArg (List.find? P) h
  rwa [List.find?_map, List.find?_map, hcomp] at hfound

theorem filter_agree {P : User → Bool} (hP : ∀ user : User, P user.redacted = P user) {users users' : List User}
    (h : users.map User.redacted = users'.map User.redacted) :
    (users.filter P).map User.redacted = (users'.filter P).map User.redacted := by
  have hcomp : P ∘ User.redacted = P := funext hP
  have hleft := congrArg (List.filter P) h
  rwa [List.filter_map, List.filter_map, hcomp] at hleft

theorem Agree.get? (h : Agree store store') (id : Nat) :
    (store.get? id).map User.redacted = (store'.get? id).map User.redacted :=
  find?_agree (fun _ => rfl) h.users

theorem Agree.remove (h : Agree store store') (id : Nat) : Agree (store.remove id).2 (store'.remove id).2 :=
  ⟨filter_agree (fun _ => rfl) h.users, h.lastId⟩

theorem sortById_redacted (users : List User) :
    (sortById users).map User.redacted = sortById (users.map User.redacted) := by
  rw [sortById_eq_insertionSort, sortById_eq_insertionSort]
  exact List.map_insertionSort _ _ User.redacted users fun _ _ _ _ => Iff.rfl

/-- stores that agree list the same users, but for their passwords, if these do not decide which are visited first -/
theorem Agree.listed {order : VisitOrder} (horder : order.Blind) (h : Agree store store') :
    (store.listed order).map User.redacted = (store'.listed order).map User.redacted := by
  rw [UserStore.listed, UserStore.listed, sortById_redacted, sortById_redacted, horder _ _ h.users]

theorem Agree.json {order : VisitOrder} (horder : order.Blind) (h : Agree store store') :
    (store.listed order).map User.json = (store'.listed order).map User.json := by
  have hleft := congrArg (List.map User.json) (h.listed horder)
  rw [List.map_map, List.map_map] at hleft
  exact hleft

@[simp] theorem clash?_redacted (username email : Text) (users : List User) :
    clash? username email (users.map User.redacted) = clash? username email users := by
  induction users with
  | nil => rfl
  | cons user users ih => simp only [List.map_cons, clash?, ih, User.redacted]

/-- Submissions that agree fail the same check, or pass with the same fields but for the password. -/
theorem check_agree {s s' : Submission} (h : s.Agree s') :
    (∃ e, check s = .error e ∧ check s' = .error e) ∨
      ∃ username p p' email, check s = .ok (username, p, email) ∧ check s' = .ok (username, p', email) := by
  cases h with
  | same =>
    cases hcheck : check s with
    | error e => exact Or.inl ⟨e, rfl, rfl⟩
    | ok fields => exact Or.inr ⟨fields.1, fields.2.1, fields.2.1, fields.2.2, rfl, rfl⟩
  | passwords s hpasswords =>
    rename_i p p'
    obtain ⟨username, password, email⟩ := s
    cases username with
    | none => exact Or.inl ⟨.missingFields, rfl, rfl⟩
    | some username =>
      cases email with
      | none => exact Or.inl ⟨.missingFields, rfl, rfl⟩
      | some email =>
        have hempty : decide (p' = []) = decide (p = []) := decide_eq_decide.2 hpasswords.empty_iff.symm
        simp only [check, hempty, ← hpasswords.isPassword_eq]
        split_ifs
        · exact Or.inl ⟨_, rfl, rfl⟩
        · exact Or.inl ⟨_, rfl, rfl⟩
        · exact Or.inl ⟨_, rfl, rfl⟩
        · exact Or.inr ⟨_, _, _, _, rfl, rfl⟩

/-- Stores that agree treat submissions that agree alike, and agree afterwards. -/
theorem insert_agree {order : VisitOrder} (horder : order.Blind) (h : Agree store store') {s s' : Submission}
    (hs : s.Agree s') :
    (∃ e, UserStore.insert order store s = (.error e, store) ∧ UserStore.insert order store' s' = (.error e, store')) ∨
      ∃ user user' next next', UserStore.insert order store s = (.ok user, next) ∧
        UserStore.insert order store' s' = (.ok user', next') ∧ user.redacted = user'.redacted ∧ Agree next next' := by
  rcases check_agree hs with ⟨e, hcheck, hcheck'⟩ | ⟨username, p, p', email, hcheck, hcheck'⟩
  · exact Or.inl ⟨e, insert_of_check hcheck, insert_of_check hcheck'⟩
  · have hclash : clash? username email (order store.users) = clash? username email (order store'.users) := by
      rw [← clash?_redacted, horder _ _ h.users, clash?_redacted]
    cases hfound : clash? username email (order store.users) with
    | some field =>
      rw [hfound] at hclash
      exact Or.inl ⟨.duplicate field, insert_of_clash hcheck hfound, insert_of_clash hcheck' hclash.symm⟩
    | none =>
      rw [hfound] at hclash
      let user : User := { id := store.lastId + 1, username, password := p, email }
      let user' : User := { id := store'.lastId + 1, username, password := p', email }
      have hsame : user.redacted = user'.redacted := by simp only [user, user', User.redacted, h.lastId]
      refine Or.inr ⟨user, user', { users := store.users ++ [user], lastId := store.lastId + 1 },
        { users := store'.users ++ [user'], lastId := store'.lastId + 1 }, ?_, ?_, hsame, ?_, congrArg (· + 1) h.lastId⟩
      · exact insert_of_free hcheck hfound
      · exact insert_of_free hcheck' hclash.symm
      · rw [List.map_append, List.map_append, h.users, List.map_singleton, List.map_singleton, hsame]

end UserStore

namespace App

/-! ## Requests -/

/-- The same request, or requests that are the same but for their bodies, which are within the limit and give
submissions that are the same but for passwords that are judged alike. -/
inductive Agree : Request → Request → Prop
  | same (request) : Agree request request
  | passwords {request : Request} {body' : Text} {s : Submission} {p p' : Text} :
      byteCount request.body ≤ bodyLimit → byteCount body' ≤ bodyLimit →
      Body.read request.body = .ok { s with password := some p } →
      Body.read body' = .ok { s with password := some p' } → Interchangeable p p' → Agree request { request with body := body' }

theorem likeness_agree : Request.Likeness Agree where
  verb h := by cases h <;> rfl
  path h := by cases h <;> rfl
  headers h := by cases h <;> rfl
  withHeaders headers h := by
    cases h with
    | same => exact .same _
    | passwords hsize hsize' hread hread' hpasswords => exact .passwords hsize hsize' hread hread' hpasswords
  withCaptures captures h := by
    cases h with
    | same => exact .same _
    | passwords hsize hsize' hread hread' hpasswords => exact .passwords hsize hsize' hread hread' hpasswords

section Agree

variable {request request' : Request}

theorem Agree.withStamp (h : Agree request request') (stamp : Option Nat) :
    Agree { request with stamp } { request' with stamp } := by
  cases h with
  | same => exact .same _
  | passwords hsize hsize' hread hread' hpasswords => exact .passwords hsize hsize' hread hread' hpasswords

theorem Agree.userId_eq (h : Agree request request') : userId request = userId request' := by
  cases h <;> rfl

theorem Agree.stamp_eq (h : Agree request request') : request.stamp = request'.stamp := by
  cases h <;> rfl

theorem Agree.claimsJson_eq (h : Agree request request') : claimsJson request = claimsJson request' := by
  cases h <;> rfl

/-- Requests that agree are turned away with the same answer, or give submissions that agree. -/
theorem Agree.submission (h : Agree request request') :
    (∃ response, App.submission request = .error response ∧ App.submission request' = .error response) ∨
      ∃ s s', App.submission request = .ok s ∧ App.submission request' = .ok s' ∧ s.Agree s' := by
  cases h with
  | same =>
    cases hsubmission : App.submission request with
    | error response => exact Or.inl ⟨response, rfl, rfl⟩
    | ok s => exact Or.inr ⟨s, s, rfl, rfl, .same s⟩
  | @passwords body' s p p' hsize hsize' hread hread' hpasswords =>
    have hjson : hasJsonBody { request with body := body' } = hasJsonBody request := rfl
    cases htype : hasJsonBody request with
    | false =>
      refine Or.inl ⟨.text 415 "Expected request with `Content-Type: application/json`", ?_, ?_⟩
      · simp only [App.submission, htype, Bool.not_false, if_true]
      · simp only [App.submission, hjson, htype, Bool.not_false, if_true]
    | true =>
      refine Or.inr ⟨_, _, ?_, ?_, .passwords s hpasswords⟩
      · simp only [App.submission, htype, Bool.not_true, Bool.false_eq_true, if_false, if_neg (Nat.not_lt.2 hsize),
          hread]
      · simp only [App.submission, hjson, htype, Bool.not_true, Bool.false_eq_true, if_false,
          if_neg (Nat.not_lt.2 hsize'), hread']

end Agree

/-! ## Actions and middlewares -/

theorem respects_withStore {inst : Instance} {next : Handler UserStore}
    (h : Handler.Respects Agree UserStore.Agree next) :
    Handler.Respects Agree UserStore.Agree (withStore inst next) := by
  unfold withStore
  split_ifs
  · exact h
  · exact Handler.respects_const _

/-- requests that agree name the same user -/
theorem respects_identified {next : Nat → Handler UserStore}
    (h : ∀ id, Handler.Respects Agree UserStore.Agree (next id)) :
    Handler.Respects Agree UserStore.Agree fun request store =>
      match userId request with
      | .error response => (response, store)
      | .ok id => next id request store := by
  intro request request' store store' hrequest hstore
  simp only [← hrequest.userId_eq]
  cases userId request with
  | error response => exact ⟨rfl, hstore⟩
  | ok id => exact h id request request' store store' hrequest hstore

theorem respects_getUser (inst : Instance) : Handler.Respects Agree UserStore.Agree (getUser inst) := by
  refine respects_identified fun id => respects_withStore fun _ _ store store' _ hstore => ?_
  have hget := hstore.get? id
  cases hfound : store.get? id with
  | none =>
    rw [hfound] at hget
    rw [Option.map_eq_none_iff.1 hget.symm]
    exact ⟨rfl, hstore⟩
  | some user =>
    rw [hfound] at hget
    obtain ⟨user', hfound', hsame⟩ := Option.map_eq_some_iff.1 hget.symm
    rw [hfound']
    exact ⟨congrArg (Response.json 200) (User.json_eq hsame.symm), hstore⟩

theorem respects_deleteUser (inst : Instance) : Handler.Respects Agree UserStore.Agree (deleteUser inst) := by
  refine respects_identified fun id => respects_withStore fun _ _ store store' _ hstore => ?_
  have hget := hstore.get? id
  have hrest := hstore.remove id
  cases hfound : store.get? id with
  | none =>
    rw [hfound] at hget
    simp only [UserStore.remove, hfound, Option.map_eq_none_iff.1 hget.symm] at hrest ⊢
    exact ⟨trivial, hrest⟩
  | some user =>
    rw [hfound] at hget
    obtain ⟨user', hfound', -⟩ := Option.map_eq_some_iff.1 hget.symm
    simp only [UserStore.remove, hfound, hfound'] at hrest ⊢
    exact ⟨trivial, hrest⟩

theorem respects_saveUser {order : VisitOrder} (horder : order.Blind) (inst : Instance) :
    Handler.Respects Agree UserStore.Agree (saveUser order inst) := by
  intro request request' store store' hrequest hstore
  unfold saveUser
  rcases hrequest.submission with ⟨response, hsubmission, hsubmission'⟩ | ⟨s, s', hsubmission, hsubmission', hs⟩
  · rw [hsubmission, hsubmission']
    exact ⟨rfl, hstore⟩
  · rw [hsubmission, hsubmission']
    simp only [withStore]
    split_ifs
    · rcases UserStore.insert_agree horder hstore hs with
        ⟨e, hinsert, hinsert'⟩ | ⟨user, user', next, next', hinsert, hinsert', hsame, hnext⟩
      · rw [hinsert, hinsert']
        exact ⟨rfl, hstore⟩
      · rw [hinsert, hinsert']
        have hpath := likeness_agree.path hrequest
        refine ⟨?_, hnext⟩
        have hresponse := congrArg (fun user : User => (Response.json 201 user.json).withCheckedHeader "location"
          (userLocation inst request user)) hsame
        simp only [userLocation, hpath]
        exact hresponse
    · exact ⟨rfl, hstore⟩

/-- Every action of the application gives the same response to requests that agree. -/
theorem respects_handler {order : VisitOrder} (horder : order.Blind) {handler : Instance → Handler UserStore}
    (h : handler ∈ handlers order) (inst : Instance) : Handler.Respects Agree UserStore.Agree (handler inst) := by
  simp only [handlers, List.mem_cons, List.not_mem_nil, or_false] at h
  rcases h with rfl | rfl | rfl | rfl | rfl | rfl
  · exact Handler.respects_const _
  · refine respects_withStore fun _ _ _ _ _ hstore => ⟨?_, hstore⟩
    rw [hstore.json horder]
  · exact respects_getUser inst
  · exact respects_saveUser horder inst
  · exact respects_deleteUser inst
  · intro request request' store store' hrequest hstore
    simp only [showStamp, ← hrequest.stamp_eq]
    cases request.stamp with
    | none => exact ⟨rfl, hstore⟩
    | some millis => exact ⟨rfl, hstore⟩

theorem respects_timestamp : timestamp.Respects Agree :=
  fun clock _ _ h => ⟨h.withStamp (some clock), rfl⟩

theorem respects_requireJson : requireJson.Respects Agree := by
  intro clock request request' h
  unfold requireJson
  rw [likeness_agree.verb h, ← h.claimsJson_eq]
  split_ifs
  · rfl
  · exact ⟨h, rfl⟩

/-! ## The server -/

structure SitesAgree (site site' : AppSite) : Prop where
  instances : site.instances = site'.instances
  world : site.world.Agree site'.world

theorem respects_dispatch {route : Route Instance UserStore} {handler : Instance → Handler UserStore}
    (haction : route.action = onWorld handler)
    (h : ∀ inst, Handler.Respects Agree UserStore.Agree (handler inst)) :
    Handler.Respects Agree SitesAgree route.dispatch := by
  intro request request' site site' hrequest hsite
  unfold Route.dispatch
  rw [← hsite.instances, haction]
  cases site.instances[route.slot]? with
  | none => exact ⟨rfl, hsite⟩
  | some inst =>
    obtain ⟨hresponse, hworld⟩ := h inst request request' site.world site'.world hrequest hsite.world
    exact ⟨hresponse, rfl, hworld⟩

variable {order : VisitOrder} {settings : Settings} {manifest : Manifest}

/-- Whatever lines are configured, the server that they come to does not tell apart what agrees. -/
theorem respects_of_build (horder : order.Blind) {store : UserStore} {router : AppRouter} {site : AppSite}
    {server : Server Instance UserStore} (built : build order settings manifest store = (.ok router, site))
    (bound : router.server = some server) : server.Respects Agree SitesAgree := by
  obtain ⟨hsource, -⟩ := source_of_build built
  refine ⟨likeness_agree, fun route hroute => ?_, fun route hroute => ?_, fun handler hhandler => ?_⟩
  · obtain ⟨mount, line, blueprint, hline, hone⟩ := built_of_build built bound route hroute
    obtain ⟨spec, pattern, loaded, action, middleware, -, -, -, -, hmiddleware, rfl⟩ := Router.blueprint_eq_ok hline
    rw [hsource] at hmiddleware
    rw [hone.middleware]
    exact forall_of_middlewareList respects_timestamp respects_requireJson hmiddleware
  · obtain ⟨handler, hhandler, haction⟩ := ((serves_of_build built bound).routes route hroute).action
    exact respects_dispatch haction (respects_handler horder hhandler)
  · obtain rfl := fallback_of_build built bound handler hhandler
    exact fun _ _ _ _ _ hsite => ⟨rfl, hsite⟩

/-- **Passwords do not leak.** Whatever routes are configured and accepted, two sequences of requests that agree, each
request coming at the same time and with the same fresh id as its counterpart, get the same responses. -/
theorem answers_agree (horder : order.Blind) {store : UserStore} {router : AppRouter} {site : AppSite}
    {server : Server Instance UserStore} (built : build order settings manifest store = (.ok router, site))
    (bound : router.server = some server) {visits visits' : List Visit}
    (hvisits : List.Forall₂ (Visit.Like Agree) visits visits') :
    (Host.answers server site visits).1 = (Host.answers server site visits').1 :=
  (Host.answers_respects (respects_of_build horder built bound) hvisits ⟨rfl, UserStore.agree_refl _⟩).1

/-- settings with routes that create and list users -/
def enrolling : Settings :=
  { routes := { api := ["POST /users UserController@saveUser", "GET /users UserController@getUsers"] } }

/-- a request that creates a user with this password -/
def enrolment (password : Text) : Visit :=
  { request := .receive "POST" "/api/users" [("content-type", "application/json")]
      ("[\"alice\", \"" ++ password ++ "\", \"a@x.io\"]")
    clock := 0, freshId := [] }

def roll : Visit :=
  { request := .receive "GET" "/api/users" [] "", clock := 0, freshId := [] }

theorem blind_id : VisitOrder.Blind id := fun _ _ h => h

theorem enrolment_agree : Visit.Like Agree (enrolment "password1") (enrolment "correct horse") where
  request := by
    have hread : Body.read (enrolment "password1").request.body =
        .ok { username := some "alice", password := some "password1", email := some "a@x.io" } := by decide +kernel
    have hread' : Body.read (enrolment "correct horse").request.body =
        .ok { username := some "alice", password := some "correct horse", email := some "a@x.io" } := by decide +kernel
    exact .passwords (s := { username := some "alice", email := some "a@x.io" }) (by decide +kernel) (by decide +kernel)
      hread hread' (.good (by decide) (by decide) (by decide) (by decide))
  clock := rfl
  freshId := rfl

/-- The theorem on a user who is created, refused and listed, with one password and with another. -/
theorem answers_agree_enrolment :
    ∃ router site server, VisitOrder.Blind id ∧ build id enrolling {} .empty = (.ok router, site) ∧
      router.server = some server ∧
      List.Forall₂ (Visit.Like Agree) [enrolment "password1", enrolment "password1", roll]
        [enrolment "correct horse", enrolment "correct horse", roll] ∧
      (Host.answers server site [enrolment "password1", enrolment "password1", roll]).1.map (·.status) =
        [201, 409, 200] ∧
      (Host.answers server site [enrolment "password1", enrolment "password1", roll]).1 =
        (Host.answers server site [enrolment "correct horse", enrolment "correct horse", roll]).1 := by
  have hheld : (Router.hostOf (build id enrolling {} .empty)).any (fun server =>
      (Host.answers server (build id enrolling {} .empty).2
        [enrolment "password1", enrolment "password1", roll]).1.map (·.status) = [201, 409, 200]) = true := by
    decide +kernel
  obtain ⟨router, site, server, built, bound, htest⟩ := Router.exists_of_hostOf hheld
  rw [built] at htest
  have hvisits : List.Forall₂ (Visit.Like Agree) [enrolment "password1", enrolment "password1", roll]
      [enrolment "correct horse", enrolment "correct horse", roll] :=
    .cons enrolment_agree (.cons enrolment_agree (.cons ⟨.same _, rfl, rfl⟩ .nil))
  exact ⟨router, site, server, blind_id, built, bound, hvisits, of_decide_eq_true htest,
    answers_agree blind_id built bound hvisits⟩

end App

end Switchboard
