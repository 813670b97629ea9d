/-
The controllers of the sample application.

They share the user store, which is the world. A controller that is to reach it is granted access when it is
initialised. The home controller shows a page with a link to the users; GET requests that nothing else answers are sent
there. The user controller lists, shows, creates and deletes users: an action first takes what it needs from the request,
and only then asks whether there is a store, which changes only where a user is created or deleted.
-/
import Switchboard.Users.Store
import Switchboard.Module.Registry
import Switchboard.Net.MediaType

namespace Switchboard

/-! ## Instances -/

namespace App

/-- the resource that controllers share: access to the user store of the world -/
inductive StoreAccess where
  | granted
  deriving DecidableEq, Repr

/-- an initialised controller -/
inductive Instance where
  | home (baseUrl : Text)
  /-- `hasStore` tells whether the controller has access to the user store -/
  | user (hasStore : Bool) (baseUrl : Text)
  deriving DecidableEq, Repr

/-- base of links that an instance keeps -/
def Instance.baseUrl : Instance → Text
  | .home baseUrl => baseUrl
  | .user _ baseUrl => baseUrl

def Instance.hasStore : Instance → Bool
  | .home _ => false
  | .user hasStore _ => hasStore

abbrev AppController := Controller Instance StoreAccess UserStore

/-- an action that looks at the instance and the world, and changes the world alone -/
def onWorld (f : Instance → Handler UserStore) : Action Instance UserStore := fun request inst store =>
  let (response, store) := f inst request store
  (response, inst, store)

/-- an answer with a message as a JSON object -/
def messageAnswer (status : Nat) (message : Text) : Response :=
  .json status (Json.object [("message", Json.string message)])

@[simp] theorem status_messageAnswer (status : Nat) (message : Text) : (messageAnswer status message).status = status :=
  rfl

/-! ## The home controller -/

def landingPage (baseUrl : Text) : Text :=
  "<!doctype html><title>webscaffold</title><h1>webscaffold</h1><p>API at <a href=\"" ++ baseUrl ++ "/api/users\">" ++
    baseUrl ++ "/api/users</a></p>"

def showHome (inst : Instance) : Handler UserStore := fun _ store =>
  (.html 200 (landingPage inst.baseUrl), store)

def homeController : AppController :=
  { init := fun context => .home context.server.baseUrl
    actions := .ofList [("index", onWorld showHome)] }

def redirectHome : Handler UserStore := fun _ store =>
  ((Response.bare 303).withHeader "location" "/", store)

/-! ## What user actions take from a request -/

/-- the answer where a route has not exactly one capture -/
def wrongCaptureCount (n : Nat) : Response :=
  .text 500 ("Wrong number of path arguments for `Path`. Expected 1 but got " ++ Text.ofNat n ++
    ". Note that multiple parameters must be extracted with a tuple `Path<(_, _)>` or a struct `Path<YourParams>`")

/-- the id that the single capture of the path gives -/
def userId (request : Request) : Except Response Nat :=
  match request.captures with
  | none => .error (.text 500 "No paths parameters found for matched route")
  | some captures =>
    match decodeCaptures captures with
    | .error name => .error (.text 400 ("Invalid URL: Invalid UTF-8 in `" ++ name ++ "`"))
    | .ok [(_, value)] =>
      match Text.unsigned64? value with
      | some id => .ok id
      | none => .error (.text 400 ("Invalid URL: Cannot parse `" ++ value ++ "` to a `u64`"))
    | .ok decoded => .error (wrongCaptureCount decoded.length)

/-- bodies may have this many bytes -/
def bodyLimit : Nat := 2097152

def byteCount (t : Text) : Nat :=
  t.foldl (fun n c => n + c.utf8Size) 0

def hasJsonBody (request : Request) : Bool :=
  ((request.plainHeader? "content-type").bind MediaType.read).any MediaType.isJson

/-- the new user that the body gives -/
def submission (request : Request) : Except Response Submission :=
  if !hasJsonBody request then .error (.text 415 "Expected request with `Content-Type: application/json`")
  else if bodyLimit < byteCount request.body then .error (.text 413 "Failed to buffer the request body")
  else
    match Body.read request.body with
    | .ok s => .ok s
    | .error .malformed => .error (.text 400 "Failed to parse the request body as JSON")
    | .error .misshapen => .error (.text 422 "Failed to deserialize the JSON body into the target type")

/-! ## The user controller -/

/-- runs a handler that needs the store, where there is one -/
def withStore (inst : Instance) (next : Handler UserStore) : Handler UserStore := fun request store =>
  if inst.hasStore then next request store else (messageAnswer 503 "User store unavailable", store)

def userNotFound : Response :=
  messageAnswer 404 "User not found"

def getUsers (order : VisitOrder) (inst : Instance) : Handler UserStore :=
  withStore inst fun _ store => (.json 200 (Json.array ((store.listed order).map User.json)), store)

def getUser (inst : Instance) : Handler UserStore := fun request store =>
  match userId request with
  | .error response => (response, store)
  | .ok id =>
    withStore inst
      (fun _ store =>
        match store.get? id with
        | some user => (.json 200 user.json, store)
        | none => (userNotFound, store))
      request store

/-- where a user created by a request is found: below the request's path -/
def userLocation (inst : Instance) (request : Request) (user : User) : Text :=
  inst.baseUrl ++ Text.dropTrailing '/' request.path ++ ['/'] ++ Text.ofNat user.id

def refusal : UserError → Response
  | e@(.duplicate _) => messageAnswer 409 e.message
  | e => messageAnswer 400 e.message

def saveUser (order : VisitOrder) (inst : Instance) : Handler UserStore := fun request store =>
  match submission request with
  | .error response => (response, store)
  | .ok s =>
    withStore inst
      (fun request store =>
        match UserStore.insert order store s with
        | (.ok user, store) =>
          ((Response.json 201 user.json).withCheckedHeader "location" (userLocation inst request user), store)
        | (.error e, store) => (refusal e, store))
      request store

def deleteUser (inst : Instance) : Handler UserStore := fun request store =>
  match userId request with
  | .error response => (response, store)
  | .ok id =>
    withStore inst
      (fun _ store =>
        match store.remove id with
        | (some _, store) => (.bare 204, store)
        | (none, store) => (userNotFound, store))
      request store

def showStamp : Handler UserStore := fun request store =>
  match request.stamp with
  | some millis => (.text 200 (Text.ofNat millis), store)
  | none => (messageAnswer 500 "Request timestamp missing", store)

/-- the user controller of a store whose users are visited in that order -/
def userController (order : VisitOrder) : AppController :=
  { init := fun context => .user context.resource.isSome context.server.baseUrl
    actions := .ofList
      [("getUsers", onWorld (getUsers order)), ("getUser", onWorld getUser), ("saveUser", onWorld (saveUser order)),
        ("deleteUser", onWorld deleteUser), ("test", onWorld fun _ => showStamp)] }

end App

end Switchboard
