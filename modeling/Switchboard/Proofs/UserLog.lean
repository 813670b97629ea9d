/-
The user store against a log of its users.

The log tells only what has become of users: created or removed (`Log.Entry`). `Log.present` are the users that were
created and not removed since. `Log.Answers` says which answer to a call the log allows, and how the call continues it.

- `Acceptable` says when a submission may become a user, beside the users that are there. `check_eq_ok` and
  `clash?_eq_none_iff` find its two halves in the store.
- The listing sorts by insertion (`sortById_eq_insertionSort`), and so, ids being distinct, it is the same in whatever
  order the users are visited (`listed_eq_of_pairwise`).
- `Keeps` relates a store to its log, with what holds of every log: ids count the users that were created, and no two of
  the present ones share a name or an address. `perform_keeps` is the step.
- `run_keeps_log`: every run of calls is answered as the log of the run says.
-/
import Mathlib.Data.List.Sort
import Switchboard.Proofs.Effects

namespace Switchboard.UserStore

/-! ## The log -/

/-- what has become of a user -/
inductive Log.Entry where
  | created (user : User)
  | removed (id : Nat)
  deriving DecidableEq, Repr

abbrev Log := List Log.Entry

namespace Log

/-- the user that an entry creates -/
def Entry.created? : Entry → Option User
  | .created user => some user
  | .removed _ => none

/-- all users that were ever created, in order -/
def created (log : Log) : List User :=
  log.filterMap Entry.created?

/-- the users that were created and not removed, in the order of their creation -/
def present (log : Log) : List User :=
  log.created.filter fun user => .removed user.id ∉ log

end Log

/-- The submission may become this user beside these: all fields are there and within bounds, the address is stored
without blanks around it and in lower case, and neither the name nor the address is taken. -/
structure Acceptable (users : List User) (s : Submission) (user : User) : Prop where
  username : s.username = some user.username
  password : s.password = some user.password
  email : ∃ given, s.email = some given ∧ user.email = Text.lowercase (Text.trim given)
  filled : user.username ≠ [] ∧ user.password ≠ [] ∧ user.email ≠ []
  usernameLength : 3 ≤ user.username.length ∧ user.username.length ≤ 20
  usernameChars : ∀ c ∈ user.username, Text.isLetterOrNumber c = true ∨ c = '_'
  passwordLength : 8 ≤ user.password.length ∧ user.password.length ≤ 20
  usernameFree : ∀ other ∈ users, other.username ≠ user.username
  emailFree : ∀ other ∈ users, other.email ≠ user.email

/-- the answers to a call that the log allows, and the log afterwards -/
inductive Log.Answers (log : Log) : Call → Answer → Log → Prop
  | accepted {s user} : Acceptable log.present s user → user.id = log.created.length + 1 →
      Answers log (.insert s) (.inserted (.ok user)) (log ++ [.created user])
  | refused {s} (e) : (∀ user, ¬Acceptable log.present s user) → Answers log (.insert s) (.inserted (.error e)) log
  | found {user} : user ∈ log.present → Answers log (.get user.id) (.found (some user)) log
  | notFound {id} : (∀ user ∈ log.present, user.id ≠ id) → Answers log (.get id) (.found none) log
  | removed {user} : user ∈ log.present →
      Answers log (.remove user.id) (.found (some user)) (log ++ [.removed user.id])
  | notRemoved {id} : (∀ user ∈ log.present, user.id ≠ id) → Answers log (.remove id) (.found none) log
  | listed : Answers log .list (.listed log.present) log

/-- calls answered one after the other, from one log to another -/
inductive Log.Run : Log → List Call → List Answer → Log → Prop
  | nil (log) : Run log [] [] log
  | cons {log log' log'' call calls answer answers} : log.Answers call answer log' → Run log' calls answers log'' →
      Run log (call :: calls) (answer :: answers) log''

/-! ## The log grows -/

namespace Log

variable {log : Log} {user : User} {id : Nat}

@[simp] theorem created_append_created : created (log ++ [.created user]) = log.created ++ [user] := by
  simp [created, Entry.created?]

@[simp] theorem created_append_removed : created (log ++ [.removed id]) = log.created := by
  simp [created, Entry.created?]

/-- a new user whose id was never removed is there, after the others -/
theorem present_append_created (h : .removed user.id ∉ log) :
    present (log ++ [.created user]) = log.present ++ [user] := by
  simp [present, created_append_created, List.filter_append, h]

@[simp] theorem present_append_removed : present (log ++ [.removed id]) = log.present.filter (·.id ≠ id) := by
  simp only [present, created_append_removed, List.filter_filter]
  refine List.filter_congr fun other _ => ?_
  simp [and_comm]

end Log

/-! ## Checks and clashes -/

theorem isUsername_iff {t : Text} :
    isUsername t = true ↔ (3 ≤ t.length ∧ t.length ≤ 20) ∧ ∀ c ∈ t, Text.isLetterOrNumber c = true ∨ c = '_' := by
  simp [isUsername]

theorem isPassword_iff {t : Text} : isPassword t = true ↔ 8 ≤ t.length ∧ t.length ≤ 20 := by
  simp [isPassword]

theorem clash?_eq_none_iff {username email : Text} {users : List User} :
    clash? username email users = none ↔
      (∀ user ∈ users, user.username ≠ username) ∧ ∀ user ∈ users, user.email ≠ email := by
  induction users with
  | nil => simp [clash?]
  | cons user users ih =>
    simp only [clash?, List.forall_mem_cons]
    split_ifs with husername hemail
    · simp [husername]
    · simp [hemail]
    · rw [ih]
      tauto

/-- a submission that passes the checks, with its fields as they would be stored -/
theorem check_eq_ok {s : Submission} {username password email : Text} (h : check s = .ok (username, password, email)) :
    s.username = some username ∧ s.password = some password ∧
      (∃ given, s.email = some given ∧ email = Text.lowercase (Text.trim given)) ∧
      (username ≠ [] ∧ password ≠ [] ∧ email ≠ []) ∧ isUsername username = true ∧ isPassword password = true := by
  obtain ⟨name, word, given⟩ := s
  cases name with
  | none => cases h
  | some name =>
    cases word with
    | none => cases h
    | some word =>
      cases given with
      | none => cases h
      | some given =>
        simp only [check] at h
        split at h
        · cases h
        · rename_i hempty
          split at h
          · cases h
          · rename_i husername
            split at h
            · cases h
            · rename_i hpassword
              cases h
              simp only [Bool.or_eq_true, decide_eq_true_eq, not_or] at hempty
              exact ⟨rfl, rfl, ⟨given, rfl, rfl⟩, ⟨hempty.1.1, hempty.1.2, hempty.2⟩, by simpa using husername,
                by simpa using hpassword⟩

/-- Acceptable is what passes the checks and clashes with nobody. -/
theorem acceptable_iff {users : List User} {s : Submission} {user : User} :
    Acceptable users s user ↔
      check s = .ok (user.username, user.password, user.email) ∧ clash? user.username user.email users = none := by
  constructor
  · intro h
    obtain ⟨given, hgiven, hemail⟩ := h.email
    obtain ⟨husername, hpassword, hfilled⟩ := h.filled
    have hname : isUsername user.username = true := isUsername_iff.2 ⟨h.usernameLength, h.usernameChars⟩
    have hword : isPassword user.password = true := isPassword_iff.2 h.passwordLength
    refine ⟨?_, clash?_eq_none_iff.2 ⟨h.usernameFree, h.emailFree⟩⟩
    unfold check
    rw [h.username, h.password, hgiven]
    simp only [normalEmail, ← hemail, husername, hpassword, hfilled, hname, hword]
    rfl
  · rintro ⟨hcheck, hclash⟩
    obtain ⟨husername, hpassword, hemail, hfilled, hname, hword⟩ := check_eq_ok hcheck
    obtain ⟨hlength, hchars⟩ := isUsername_iff.1 hname
    obtain ⟨husernameFree, hemailFree⟩ := clash?_eq_none_iff.1 hclash
    exact ⟨husername, hpassword, hemail, hfilled, hlength, hchars, isPassword_iff.1 hword, husernameFree, hemailFree⟩

/-- it does not matter in which order the users are visited -/
theorem clash?_perm {username email : Text} {users users' : List User} (h : users'.Perm users) :
    clash? username email users' = none ↔ clash? username email users = none := by
  rw [clash?_eq_none_iff, clash?_eq_none_iff]
  simp only [h.mem_iff]

/-! ## The listing -/

theorem placeById_eq_orderedInsert (user : User) (users : List User) :
    placeById user users = users.orderedInsert (·.id ≤ ·.id) user := by
  induction users with
  | nil => rfl
  | cons other users ih => rw [placeById, ih, List.orderedInsert_cons]

theorem sortById_eq_insertionSort (users : List User) : sortById users = users.insertionSort (·.id ≤ ·.id) := by
  induction users with
  | nil => rfl
  | cons user users ih => rw [sortById, ih, placeById_eq_orderedInsert, List.insertionSort_cons]

theorem sortById_perm (users : List User) : (sortById users).Perm users := by
  rw [sortById_eq_insertionSort]
  exact List.perm_insertionSort _ users

theorem sortById_pairwise (users : List User) : (sortById users).Pairwise (·.id ≤ ·.id) := by
  have htotal : Std.Total fun user other : User => user.id ≤ other.id := ⟨fun _ _ => Nat.le_total _ _⟩
  have htrans : IsTrans User fun user other => user.id ≤ other.id := ⟨fun _ _ _ => Nat.le_trans⟩
  rw [sortById_eq_insertionSort]
  exact List.pairwise_insertionSort _ users

/-- Users with distinct ids are listed in the one order of their ids, however they are visited. -/
theorem listed_eq_of_pairwise {order : VisitOrder} (horder : order.Thorough) {store : UserStore} {users : List User}
    (hperm : store.users.Perm users) (hids : users.Pairwise (·.id < ·.id)) : store.listed order = users := by
  have hlisted : (store.listed order).Perm users := ((sortById_perm _).trans (horder _)).trans hperm
  refine hlisted.eq_of_pairwise ?_ (sortById_pairwise _) (hids.imp Nat.le_of_lt)
  intro user other huser hother hle hge
  have hnodup : (users.map (·.id)).Nodup := List.pairwise_map.2 (hids.imp Nat.ne_of_lt)
  exact List.inj_on_of_nodup_map hnodup (hlisted.mem_iff.1 huser) hother (Nat.le_antisymm hle hge)

/-! ## Insertions and lookups -/

theorem get?_eq_none_iff {store : UserStore} {id : Nat} :
    store.get? id = none ↔ ∀ user ∈ store.users, user.id ≠ id := by
  simp [get?]

/-- An insertion adds an acceptable user under the next id, or there is none and nothing changes. -/
theorem insert_cases {order : VisitOrder} (horder : order.Thorough) (store : UserStore)
    (s : Submission) :
    (∃ user, Acceptable store.users s user ∧ user.id = store.lastId + 1 ∧
        UserStore.insert order store s = (.ok user, { users := store.users ++ [user], lastId := store.lastId + 1 })) ∨
      ∃ e, (∀ user, ¬Acceptable store.users s user) ∧ UserStore.insert order store s = (.error e, store) := by
  cases hcheck : check s with
  | error e =>
    refine Or.inr ⟨e, fun user h => ?_, insert_of_check hcheck⟩
    rw [(acceptable_iff.1 h).1] at hcheck
    cases hcheck
  | ok fields =>
    obtain ⟨username, password, email⟩ := fields
    cases hclash : clash? username email (order store.users) with
    | none =>
      refine Or.inl ⟨{ id := store.lastId + 1, username, password, email }, ?_, rfl, ?_⟩
      · exact acceptable_iff.2 ⟨hcheck, (clash?_perm (horder store.users)).1 hclash⟩
      · exact insert_of_free hcheck hclash
    | some field =>
      refine Or.inr ⟨.duplicate field, fun user h => ?_, insert_of_clash hcheck hclash⟩
      obtain ⟨hfields, hfree⟩ := acceptable_iff.1 h
      rw [hcheck] at hfields
      cases hfields
      rw [(clash?_perm (horder store.users)).2 hfree] at hclash
      cases hclash

/-! ## The store keeps the log -/

/-- The store holds the users that are present in the log. The ids of the users ever created are 1, 2, 3 and so on, no
id is removed before it is given out, and present users have names and addresses of their own. -/
structure Keeps (store : UserStore) (log : Log) : Prop where
  users : store.users = log.present
  lastId : store.lastId = log.created.length
  ids : log.created.map (·.id) = List.range' 1 log.created.length
  removed : ∀ id, .removed id ∈ log → id ≤ log.created.length
  usernames : (log.present.map (·.username)).Nodup
  emails : (log.present.map (·.email)).Nodup

theorem keeps_empty : Keeps empty [] where
  users := rfl
  lastId := rfl
  ids := rfl
  removed _ h := absurd h List.not_mem_nil
  usernames := List.nodup_nil
  emails := List.nodup_nil

section Keeps

variable {store : UserStore} {log : Log} {user : User}

theorem Keeps.id_le (h : Keeps store log) (hmem : user ∈ log.present) : user.id ≤ log.created.length := by
  have hid : user.id ∈ List.range' 1 log.created.length := by
    rw [← h.ids]
    exact List.mem_map_of_mem (List.mem_filter.1 hmem).1
  rw [List.mem_range'_1] at hid
  omega

/-- users who came later have greater ids -/
theorem Keeps.pairwise (h : Keeps store log) : log.present.Pairwise (·.id < ·.id) := by
  have hcreated : (log.created.map (·.id)).Pairwise (· < ·) := by
    rw [h.ids]
    exact List.pairwise_lt_range'
  exact (List.pairwise_map.1 hcreated).filter _

/-- the listing is the log, in whatever order the users are visited -/
theorem Keeps.listed (h : Keeps store log) {order : VisitOrder} (horder : order.Thorough) :
    store.listed order = log.present :=
  listed_eq_of_pairwise horder (.of_eq h.users) h.pairwise

theorem Keeps.create (h : Keeps store log) {s : Submission} (hacceptable : Acceptable log.present s user)
    (hid : user.id = store.lastId + 1) :
    Keeps { users := store.users ++ [user], lastId := store.lastId + 1 } (log ++ [.created user]) := by
  have hfresh : .removed user.id ∉ log := by
    intro hremoved
    have hle := h.removed user.id hremoved
    rw [hid, h.lastId] at hle
    omega
  constructor
  · rw [Log.present_append_created hfresh, h.users]
  · rw [Log.created_append_created, List.length_append, List.length_singleton, h.lastId]
  · rw [Log.created_append_created, List.map_append, h.ids, List.length_append, List.length_singleton,
      List.range'_1_concat, List.map_singleton, hid, h.lastId, Nat.add_comm 1]
  · intro id hremoved
    rw [Log.created_append_created, List.length_append]
    have hle := h.removed id (by simpa using hremoved)
    omega
  · rw [Log.present_append_created hfresh, List.map_append, List.map_singleton, ← List.concat_eq_append]
    refine h.usernames.concat fun hmem => ?_
    obtain ⟨other, hother, heq⟩ := List.mem_map.1 hmem
    exact hacceptable.usernameFree other hother heq
  · rw [Log.present_append_created hfresh, List.map_append, List.map_singleton, ← List.concat_eq_append]
    refine h.emails.concat fun hmem => ?_
    obtain ⟨other, hother, heq⟩ := List.mem_map.1 hmem
    exact hacceptable.emailFree other hother heq

theorem Keeps.remove (h : Keeps store log) (hmem : user ∈ log.present) :
    Keeps (store.remove user.id).2 (log ++ [.removed user.id]) := by
  constructor
  · rw [Log.present_append_removed, ← h.users]
    rfl
  · rw [Log.created_append_removed]
    exact h.lastId
  · rw [Log.created_append_removed]
    exact h.ids
  · intro id hremoved
    rw [Log.created_append_removed]
    rcases List.mem_append.1 hremoved with hremoved | hremoved
    · exact h.removed id hremoved
    · obtain rfl : id = user.id := by simpa using hremoved
      exact h.id_le hmem
  · rw [Log.present_append_removed]
    exact h.usernames.sublist (List.filter_sublist.map _)
  · rw [Log.present_append_removed]
    exact h.emails.sublist (List.filter_sublist.map _)

theorem perform_keeps {order : VisitOrder} (horder : order.Thorough) (h : Keeps store log)
    (call : Call) :
    ∃ log', log.Answers call (store.perform order call).1 log' ∧ Keeps (store.perform order call).2 log' := by
  cases call with
  | insert s =>
    simp only [perform]
    rcases insert_cases horder store s with ⟨user, hacceptable, hid, heq⟩ | ⟨e, hnone, heq⟩
    · rw [heq]
      rw [h.users] at hacceptable
      exact ⟨_, .accepted hacceptable (h.lastId ▸ hid), h.create hacceptable hid⟩
    · rw [heq]
      rw [h.users] at hnone
      exact ⟨log, .refused e hnone, h⟩
  | get id =>
    refine ⟨log, ?_, h⟩
    simp only [perform]
    cases hget : store.get? id with
    | none => exact .notFound (h.users ▸ get?_eq_none_iff.1 hget)
    | some user =>
      obtain ⟨hmem, rfl⟩ := get?_eq_some hget
      exact .found (h.users ▸ hmem)
  | remove id =>
    cases hget : store.get? id with
    | none =>
      refine ⟨log, ?_, ?_⟩
      · simp only [perform, UserStore.remove, hget]
        exact .notRemoved (h.users ▸ get?_eq_none_iff.1 hget)
      · show Keeps (store.remove id).2 log
        rwa [remove_of_none hget]
    | some user =>
      obtain ⟨hmem, rfl⟩ := get?_eq_some hget
      rw [h.users] at hmem
      refine ⟨log ++ [.removed user.id], ?_, ?_⟩
      · simp only [perform, UserStore.remove, hget]
        exact .removed hmem
      · show Keeps (store.remove user.id).2 _
        exact h.remove hmem
  | list =>
    refine ⟨log, ?_, h⟩
    simp only [perform, h.listed horder]
    exact .listed

theorem run_keeps (h : Keeps store log) {calls : List (VisitOrder × Call)} (horders : ∀ call ∈ calls, call.1.Thorough) :
    ∃ log', Log.Run log (calls.map Prod.snd) (run store calls).1 log' ∧ Keeps (run store calls).2 log' := by
  induction calls generalizing store log with
  | nil => exact ⟨log, .nil log, h⟩
  | cons call calls ih =>
    obtain ⟨horder, horders⟩ := List.forall_mem_cons.1 horders
    obtain ⟨next, hanswers, hnext⟩ := perform_keeps horder h call.2
    obtain ⟨last, hrun, hlast⟩ := ih hnext horders
    exact ⟨last, .cons hanswers hrun, hlast⟩

end Keeps

/-- **The store keeps a log of users.** Whatever the calls on a fresh store, and in whatever order each of them visits
the users, every call is answered as the log of the run allows: an insertion succeeds exactly if some user is
acceptable, and the k-th that does gives the id k; the users that are present in the log are listed, in the order in
which they came. Afterwards too the listing is that of the log in any order, and no two users share a name or an
address. -/
theorem run_keeps_log {calls : List (VisitOrder × Call)} (horders : ∀ call ∈ calls, call.1.Thorough)
    {answers : List Answer} {store : UserStore} (ran : run empty calls = (answers, store)) :
    ∃ log, Log.Run [] (calls.map Prod.snd) answers log ∧
      (∀ order : VisitOrder, order.Thorough → store.listed order = log.present) ∧
      log.created.map (·.id) = List.range' 1 log.created.length ∧
      (store.users.map (·.username)).Nodup ∧ (store.users.map (·.email)).Nodup := by
  obtain ⟨log, hrun, hkeeps⟩ := run_keeps keeps_empty horders
  rw [ran] at hrun hkeeps
  exact ⟨log, hrun, fun _ => hkeeps.listed, hkeeps.ids, hkeeps.users ▸ hkeeps.usernames, hkeeps.users ▸ hkeeps.emails⟩

/-- Alice and bob sign up, alice is refused a second account, leaves, and signs up again. Her last call and the listing
visit the users from the last to the first, the others from the first to the last. -/
def rejoining : List (VisitOrder × Call) :=
  let alice : Submission := { username := some "alice", password := some "password1", email := some " Alice@x.io " }
  let bob : Submission := { username := some "bob", password := some "password1", email := some "bob@x.io" }
  [(id, .insert alice), (id, .insert bob), (id, .insert { alice with username := some "alice_2" }), (id, .remove 1),
    (.newestFirst, .insert alice), (.newestFirst, .list)]

/-- Alice comes back as the third user that was ever created, and is listed after bob. -/
theorem run_keeps_log_rejoining :
    (∀ call ∈ rejoining, call.1.Thorough) ∧ (run empty rejoining).2.users.length = 2 ∧
      ((run empty rejoining).2.listed .newestFirst).map (·.id) = [2, 3] ∧
      ∃ log, Log.Run [] (rejoining.map Prod.snd) (run empty rejoining).1 log ∧
        (∀ order : VisitOrder, order.Thorough → (run empty rejoining).2.listed order = log.present) ∧
        log.created.map (·.id) = List.range' 1 log.created.length ∧
        ((run empty rejoining).2.users.map (·.username)).Nodup ∧
        ((run empty rejoining).2.users.map (·.email)).Nodup := by
  have horders : ∀ call ∈ rejoining, call.1.Thorough := by
    simp only [rejoining, List.forall_mem_cons, List.not_mem_nil, IsEmpty.forall_iff, implies_true, and_true]
    exact ⟨VisitOrder.thorough_id, VisitOrder.thorough_id, VisitOrder.thorough_id, VisitOrder.thorough_id,
      VisitOrder.thorough_newestFirst, VisitOrder.thorough_newestFirst⟩
  exact ⟨horders, by decide +kernel, by decide +kernel, run_keeps_log horders Prod.mk.eta.symm⟩

end Switchboard.UserStore
