/-
The user store: users by id, with unique names and addresses.

`insert` checks a submission, then looks for a stored user that clashes with it, in whatever order the stored users are
visited, and gives the new user the next id. Ids are never given out twice; a refused submission changes nothing. The
listing visits the users in any order too, and sorts what it has seen.

A store may visit its users differently at every call, so each call comes with its order.
-/
import Switchboard.Users.Body
import Switchboard.Text.Lowercase
import Switchboard.Json.Basic

namespace Switchboard

/-- A stored user. Ids are numbers without bound here, where a store with 64-bit ids could give out 2^64 - 1 of them. -/
structure User where
  id : Nat
  username : Text
  password : Text
  email : Text
  deriving DecidableEq, Repr

/-- the public fields of a user as JSON; the password stays in the store -/
def User.json (user : User) : Text :=
  Json.object [("id", Json.number user.id), ("username", Json.string user.username), ("email", Json.string user.email)]

/-- why a submission is refused -/
inductive UserError where
  /-- a field is absent or empty -/
  | missingFields
  /-- a name of the wrong length or with other characters -/
  | invalidUsername
  /-- a password of the wrong length -/
  | invalidPassword
  /-- a stored user has the same value in that field -/
  | duplicate (field : UserField)
  deriving DecidableEq, Repr

def UserError.message : UserError → Text
  | missingFields => "Required data missing"
  | invalidUsername => "username must be 3 to 20 letters, digits or underscores"
  | invalidPassword => "password must be 8 to 20 characters"
  | duplicate field => field.key ++ " is already taken"

/-- The stored users, and the last id given out, which like the ids has no bound. The users are a collection: whoever
goes through all of them does so in a `VisitOrder`, and what looks for an id finds at most one user. -/
structure UserStore where
  users : List User := []
  lastId : Nat := 0
  deriving DecidableEq, Repr

/-- an order in which the stored users are visited -/
abbrev VisitOrder := List User → List User

namespace VisitOrder

/-- every user is visited once -/
def Thorough (order : VisitOrder) : Prop :=
  ∀ users, (order users).Perm users

/-- visits the users that came last first -/
def newestFirst : VisitOrder :=
  List.reverse

theorem thorough_id : Thorough id :=
  .refl

theorem thorough_newestFirst : newestFirst.Thorough :=
  List.reverse_perm

end VisitOrder

namespace UserStore

def empty : UserStore := {}

def size (store : UserStore) : Nat :=
  store.users.length

def get? (store : UserStore) (id : Nat) : Option User :=
  store.users.find? (·.id = id)

/-- the stored user with that id, and the store without it -/
def remove (store : UserStore) (id : Nat) : Option User × UserStore :=
  (store.get? id, { store with users := store.users.filter (·.id ≠ id) })

/-- puts a user before the first one whose id is not smaller -/
def placeById (user : User) : List User → List User
  | [] => [user]
  | other :: users => if user.id ≤ other.id then user :: other :: users else other :: placeById user users

def sortById : List User → List User
  | [] => []
  | user :: users => placeById user (sortById users)

def listed (order : VisitOrder) (store : UserStore) : List User :=
  sortById (order store.users)

/-- an address as it is stored -/
def normalEmail (email : Text) : Text :=
  Text.lowercase (Text.trim email)

/-- names: 3 to 20 letters, numbers and underscores -/
def isUsername (t : Text) : Bool :=
  3 ≤ t.length && t.length ≤ 20 && t.all fun c => Text.isLetterOrNumber c || c = '_'

/-- passwords: 8 to 20 characters -/
def isPassword (t : Text) : Bool :=
  8 ≤ t.length && t.length ≤ 20

/-- The checked fields of a submission: the name, the password and the address as it is stored. -/
def check (s : Submission) : Except UserError (Text × Text × Text) :=
  match s.username, s.password, s.email with
  | some username, some password, some email =>
    let email := normalEmail email
    if username = [] || password = [] || email = [] then .error .missingFields
    else if !isUsername username then .error .invalidUsername
    else if !isPassword password then .error .invalidPassword
    else .ok (username, password, email)
  | _, _, _ => .error .missingFields

/-- the first clash with one of the users, the name being compared before the address -/
def clash? (username email : Text) : List User → Option UserField
  | [] => none
  | user :: users =>
    if user.username = username then some .username
    else if user.email = email then some .email
    else clash? username email users

/-- stores a new user, or tells why not -/
def insert (order : VisitOrder) (store : UserStore) (s : Submission) : Except UserError User × UserStore :=
  match check s with
  | .error e => (.error e, store)
  | .ok (username, password, email) =>
    match clash? username email (order store.users) with
    | some field => (.error (.duplicate field), store)
    | none =>
      let user := { id := store.lastId + 1, username, password, email }
      (.ok user, { users := store.users ++ [user], lastId := store.lastId + 1 })

section Insert

variable {order : VisitOrder} {store : UserStore} {s : Submission} {username password email : Text}

theorem insert_of_check {e : UserError} (h : check s = .error e) :
    UserStore.insert order store s = (.error e, store) := by
  simp only [UserStore.insert, h]

theorem insert_of_clash {field : UserField} (h : check s = .ok (username, password, email))
    (hclash : clash? username email (order store.users) = some field) :
    UserStore.insert order store s = (.error (.duplicate field), store) := by
  simp only [UserStore.insert, h, hclash]

theorem insert_of_free (h : check s = .ok (username, password, email))
    (hfree : clash? username email (order store.users) = none) :
    UserStore.insert order store s =
      (.ok { id := store.lastId + 1, username, password, email },
        { users := store.users ++ [{ id := store.lastId + 1, username, password, email }],
          lastId := store.lastId + 1 }) := by
  simp only [UserStore.insert, h, hfree]

end Insert

theorem insert_error {order : VisitOrder} {store store' : UserStore} {s : Submission} {e : UserError}
    (h : UserStore.insert order store s = (.error e, store')) : store' = store := by
  unfold UserStore.insert at h
  split at h
  · cases h; rfl
  · split at h
    · cases h; rfl
    · cases h

/-! ## Runs of calls -/

inductive Call where
  | insert (submission : Submission)
  | get (id : Nat)
  | remove (id : Nat)
  | list
  deriving DecidableEq, Repr

inductive Answer where
  | inserted (result : Except UserError User)
  | found (user : Option User)
  | listed (users : List User)

def perform (order : VisitOrder) (store : UserStore) : Call → Answer × UserStore
  | .insert s =>
    let (result, store) := UserStore.insert order store s
    (.inserted result, store)
  | .get id => (.found (store.get? id), store)
  | .remove id =>
    let (user, store) := store.remove id
    (.found user, store)
  | .list => (.listed (store.listed order), store)

/-- calls one after the other, each with the order in which it visits the users, and their answers -/
def run (store : UserStore) : List (VisitOrder × Call) → List Answer × UserStore
  | [] => ([], store)
  | (order, call) :: calls =>
    let (answer, store) := store.perform order call
    let (answers, store) := run store calls
    (answer :: answers, store)

end UserStore

end Switchboard
