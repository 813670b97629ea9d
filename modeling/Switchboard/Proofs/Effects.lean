/-
What the actions of the sample application do to the user store.

A request does one of three things (`Effect`): it leaves the store as it is, with a status other than 201 and 204; it
adds a user under the next id, with status 201 if the location of the user can be written into a header, else 500; or it
removes a user whose id it names, with status 204. `affects_handler` says so of every action, and
`chain_transparent` carries what a handler does through the middlewares of the application.

`UserStore.Sound` is the invariant of a store: ids are distinct, and none is above the last one given out.
-/
import Switchboard.App.Basic
import Switchboard.Proofs.Captured

namespace Switchboard

/-! ## Stores -/

namespace UserStore

/-- ids are distinct and were all given out -/
structure Sound (store : UserStore) : Prop where
  ids : (store.users.map (·.id)).Nodup
  issued : ∀ user ∈ store.users, user.id ≤ store.lastId

theorem sound_empty : Sound empty where
  ids := List.nodup_nil
  issued _ h := absurd h List.not_mem_nil

theorem insert_ok {order : VisitOrder} {store store' : UserStore} {s : Submission} {user : User}
    (h : UserStore.insert order store s = (.ok user, store')) :
    user.id = store.lastId + 1 ∧ store' = { users := store.users ++ [user], lastId := store.lastId + 1 } := by
  unfold UserStore.insert at h
  split at h
  · cases h
  · split at h
    · cases h
    · cases h
      exact ⟨rfl, rfl⟩

theorem get?_eq_some {store : UserStore} {id : Nat} {user : User} (h : store.get? id = some user) :
    user ∈ store.users ∧ user.id = id :=
  ⟨List.mem_of_find?_eq_some h, by simpa using List.find?_some h⟩

theorem remove_of_none {store : UserStore} {id : Nat} (h : store.get? id = none) : (store.remove id).2 = store := by
  have hall : ∀ user ∈ store.users, decide (user.id ≠ id) = true := by
    simpa [get?] using h
  simp only [remove]
  rw [List.filter_eq_self.2 hall]

/-- A user that is removed leaves the others in their order. -/
theorem Sound.remove_eq {store : UserStore} (h : store.Sound) {user : User} (hget : store.get? user.id = some user) :
    ∃ before after, store.users = before ++ user :: after ∧ (store.remove user.id).2.users = before ++ after := by
  obtain ⟨before, after, heq⟩ := List.append_of_mem (get?_eq_some hget).1
  have hids := h.ids
  rw [heq, List.map_append, List.map_cons, List.nodup_middle, List.nodup_cons] at hids
  have hothers : ∀ other ∈ before ++ after, decide (other.id ≠ user.id) = true := by
    intro other hother
    refine decide_eq_true fun hid => hids.1 ?_
    rw [← List.map_append]
    exact hid ▸ List.mem_map_of_mem hother
  refine ⟨before, after, heq, ?_⟩
  show List.filter _ store.users = before ++ after
  rw [heq, List.filter_append, List.filter_cons_of_neg (by simp), ← List.filter_append]
  exact List.filter_eq_self.2 hothers

end UserStore

namespace App

/-! ## Effects -/

/-- What a request may do to the store, by the status of its answer. `location` tells where a new user is found, and
`named` holds for the ids that the request names. -/
inductive Effect (location : User → Text) (named : Nat → Prop) (store : UserStore) : Nat → UserStore → Prop
  | kept {status : Nat} : status ≠ 201 → status ≠ 204 → Effect location named store status store
  | added (user : User) : user.id = store.lastId + 1 →
      Effect location named store (if Response.isHeaderValue (location user) then 201 else 500)
        { users := store.users ++ [user], lastId := store.lastId + 1 }
  | removed (user : User) : named user.id → store.get? user.id = some user →
      Effect location named store 204 (store.remove user.id).2

section Effect

variable {location : User → Text} {named named' : Nat → Prop} {store store' : UserStore} {status : Nat}

theorem Effect.mono (h : Effect location named store status store') (hnamed : ∀ id, named id → named' id) :
    Effect location named' store status store' := by
  cases h with
  | kept hcreated hdeleted => exact .kept hcreated hdeleted
  | added user hid => exact .added user hid
  | removed user hname hget => exact .removed user (hnamed _ hname) hget

theorem Effect.of_status {response : Response} (h : response.status ∉ [201, 204]) :
    Effect location named store response.status store := by
  simp only [List.mem_cons, List.not_mem_nil, or_false, not_or] at h
  exact .kept h.1 h.2

/-- A request keeps the store sound, and ids are never given out again. -/
theorem Effect.sound (h : Effect location named store status store') (hs : store.Sound) :
    store'.Sound ∧ store.lastId ≤ store'.lastId := by
  cases h with
  | kept hcreated hdeleted => exact ⟨hs, le_rfl⟩
  | added user hid =>
    refine ⟨⟨?_, fun other hother => ?_⟩, Nat.le_succ _⟩
    · rw [List.map_append, List.map_singleton, ← List.concat_eq_append]
      refine hs.ids.concat fun hmem => ?_
      obtain ⟨other, hother, heq⟩ := List.mem_map.1 hmem
      have hle := hs.issued other hother
      omega
    · rcases List.mem_append.1 hother with hother | hother
      · exact (hs.issued other hother).trans (Nat.le_succ _)
      · rw [List.mem_singleton.1 hother, hid]
  | removed user hname hget =>
    refine ⟨⟨?_, fun other hother => hs.issued other (List.mem_filter.1 hother).1⟩, le_rfl⟩
    exact hs.ids.sublist (List.filter_sublist.map _)

end Effect

/-! ## Actions -/

def handlers (order : VisitOrder) : List (Instance → Handler UserStore) :=
  [showHome, getUsers order, getUser, saveUser order, deleteUser, fun _ => showStamp]

/-- where a user is found that a request for the path has created -/
def locationAt (baseUrl path : Text) (user : User) : Text :=
  baseUrl ++ Text.dropTrailing '/' path ++ ['/'] ++ Text.ofNat user.id

/-- what the handler does with the request is an effect on the store -/
def Affects (inst : Instance) (request : Request) (handler : Handler UserStore) : Prop :=
  ∀ store, Effect (locationAt inst.baseUrl request.path) (fun id => userId request = .ok id) store
    (handler request store).1.status (handler request store).2

theorem affects_of_answer {inst : Instance} {request : Request} {handler : Handler UserStore}
    (h : ∀ store, ∃ response, handler request store = (response, store) ∧ response.status ∉ [201, 204]) :
    Affects inst request handler := by
  intro store
  obtain ⟨response, heq, hstatus⟩ := h store
  rw [heq]
  exact .of_status hstatus

theorem affects_withStore {inst : Instance} {request : Request} {next : Handler UserStore}
    (h : Affects inst request next) : Affects inst request (withStore inst next) := by
  unfold withStore
  split_ifs
  · exact h
  · exact affects_of_answer fun store => ⟨_, rfl, by decide⟩

theorem status_of_userId {request : Request} {response : Response} (h : userId request = .error response) :
    response.status ∉ [201, 204] := by
  unfold userId at h
  split at h
  · cases h
    decide
  · split at h
    · cases h
      simp
    · split at h
      · cases h
      · cases h
        simp
    · cases h
      simp [wrongCaptureCount]

theorem status_of_submission {request : Request} {response : Response} (h : submission request = .error response) :
    response.status ∉ [201, 204] := by
  unfold submission at h
  split_ifs at h
  · cases h
    decide
  · cases h
    decide
  · split at h
    · cases h
    · cases h
      decide
    · cases h
      decide

theorem affects_getUser (inst : Instance) (request : Request) : Affects inst request (getUser inst) := by
  intro store
  unfold getUser
  split
  · rename_i response hid
    exact .of_status (status_of_userId hid)
  · rename_i id hid
    refine affects_withStore (affects_of_answer fun store => ?_) store
    cases store.get? id with
    | none => exact ⟨_, rfl, by decide⟩
    | some user => exact ⟨_, rfl, by simp⟩

theorem affects_deleteUser (inst : Instance) (request : Request) : Affects inst request (deleteUser inst) := by
  intro store
  unfold deleteUser
  split
  · rename_i response hid
    exact .of_status (status_of_userId hid)
  · rename_i id hid
    refine affects_withStore (fun store => ?_) store
    cases hget : store.get? id with
    | none =>
      have hnone := UserStore.remove_of_none hget
      simp only [UserStore.remove, hget] at hnone ⊢
      rw [hnone]
      exact .kept (by decide) (by decide)
    | some user =>
      obtain ⟨-, rfl⟩ := UserStore.get?_eq_some hget
      simp only [UserStore.remove, hget]
      exact .removed user hid hget

theorem affects_saveUser (order : VisitOrder) (inst : Instance) (request : Request) :
    Affects inst request (saveUser order inst) := by
  intro store
  unfold saveUser
  split
  · rename_i response hsubmission
    exact .of_status (status_of_submission hsubmission)
  · rename_i s _
    refine affects_withStore (fun store => ?_) store
    cases hinsert : UserStore.insert order store s with
    | mk result store' =>
      cases result with
      | error e =>
        obtain rfl := UserStore.insert_error hinsert
        refine .of_status ?_
        cases e <;> simp [refusal]
      | ok user =>
        obtain ⟨hid, rfl⟩ := UserStore.insert_ok hinsert
        have hstatus : ((Response.json 201 user.json).withCheckedHeader "location"
            (userLocation inst request user)).status =
              if Response.isHeaderValue (locationAt inst.baseUrl request.path user) then 201 else 500 := by
          have hlocation : userLocation inst request user = locationAt inst.baseUrl request.path user := rfl
          rw [hlocation, Response.withCheckedHeader]
          split_ifs <;> rfl
        simp only [hstatus]
        exact .added user hid

/-- Every action of the application has an effect on the store and no other. -/
theorem affects_handler {order : VisitOrder} {handler : Instance → Handler UserStore} (h : handler ∈ handlers order)
    (inst : Instance) (request : Request) : Affects inst request (handler inst) := by
  simp only [handlers, List.mem_cons, List.not_mem_nil, or_false] at h
  rcases h with rfl | rfl | rfl | rfl | rfl | rfl
  · exact affects_of_answer fun store => ⟨_, rfl, by simp⟩
  · refine affects_withStore (affects_of_answer fun store => ⟨_, rfl, ?_⟩)
    simp
  · exact affects_getUser inst request
  · exact affects_saveUser order inst request
  · exact affects_deleteUser inst request
  · refine affects_of_answer fun store => ?_
    simp only [showStamp]
    cases request.stamp with
    | none => exact ⟨_, rfl, by decide⟩
    | some millis => exact ⟨_, rfl, by simp⟩

/-! ## Middlewares -/

/-- The middleware answers with status 415, or passes the request on with its path and captures, and then the response
as it comes back. -/
def Transparent (m : Middleware) : Prop :=
  ∀ clock request, (∃ response, m clock request = .answer response ∧ response.status = 415) ∨
    ∃ request', m clock request = .forward request' id ∧ request'.path = request.path ∧
      request'.captures = request.captures

theorem transparent_timestamp : Transparent timestamp :=
  fun _ _ => Or.inr ⟨_, rfl, rfl, rfl⟩

theorem transparent_requireJson : Transparent requireJson := by
  intro clock request
  unfold requireJson
  split_ifs
  · exact Or.inl ⟨_, rfl, rfl⟩
  · exact Or.inr ⟨request, rfl, rfl, rfl⟩

/-- What holds of the answers with status 415 and of all answers to requests with this path and these captures holds of
the answer through the middlewares. -/
theorem chain_transparent {σ : Type} {P : Response × σ → Prop} {state : σ} {next : Handler σ} (clock : Nat)
    {ms : List Middleware} (hms : ∀ m ∈ ms, Transparent m) (request : Request)
    (hanswer : ∀ response : Response, response.status = 415 → P (response, state))
    (hnext : ∀ request' : Request, request'.path = request.path → request'.captures = request.captures →
      P (next request' state)) : P (Middleware.chain clock ms next request state) := by
  induction ms generalizing request with
  | nil => exact hnext request rfl rfl
  | cons m ms ih =>
    obtain ⟨hm, hms⟩ := List.forall_mem_cons.1 hms
    rw [Middleware.chain_cons, Middleware.wrap]
    rcases hm clock request with ⟨response, hruling, hstatus⟩ | ⟨request', hruling, hpath, hcaptures⟩
    · simp only [hruling]
      exact hanswer response hstatus
    · simp only [hruling]
      exact ih hms request' fun request'' hpath' hcaptures' =>
        hnext request'' (hpath'.trans hpath) (hcaptures'.trans hcaptures)

end App

end Switchboard
