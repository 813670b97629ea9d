/-
Methods, summaries of routes, and why a route is refused.

A summary is one line of a listing: columns for the method and the path, then the target and the middleware names in
brackets. A longer value overflows its column and is never cut. Each cause of a refusal is found while the routes are
being built and never while a request is served; `message` words it for the reader of the routes.
-/
import Switchboard.Text.Basic

namespace Switchboard

/-! ## Methods -/

/-- methods a route may bind -/
inductive Method where
  | get
  | post
  | put
  | delete
  deriving DecidableEq, Repr

namespace Method

def all : List Method :=
  [.get, .post, .put, .delete]

/-- name in lower case, as route lines write it -/
def name : Method → Text
  | get => "get"
  | post => "post"
  | put => "put"
  | delete => "delete"

/-- name in upper case, as requests write it -/
def verb : Method → Text
  | get => "GET"
  | post => "POST"
  | put => "PUT"
  | delete => "DELETE"

/-- the method of that name, in any ASCII case -/
def ofName? (t : Text) : Option Method :=
  all.find? fun m => m.name = t.toLower

@[simp] theorem ofName?_name (m : Method) : ofName? m.name = some m := by
  cases m <;> decide

end Method

/-! ## Summaries -/

/-- what a listing tells of a route -/
structure RouteSummary where
  method : Method
  path : Text
  target : Text
  middleware : List Text
  deriving DecidableEq, Repr

namespace RouteSummary

/-- middleware names in brackets, if there are any -/
def middlewareNote : List Text → Text
  | [] => []
  | names => " [" ++ Text.join ", " names ++ "]"

/-- the line of a listing -/
def display (s : RouteSummary) : Text :=
  Text.padRight 7 s.method.verb ++ [' '] ++ Text.padRight 30 s.path ++ [' '] ++ s.target ++ middlewareNote s.middleware

end RouteSummary

/-! ## Refusals -/

/-- why a path is no pattern -/
inductive PatternFault where
  /-- a segment that contains a brace -/
  | brace (segment : Text)
  /-- a capture whose name is empty or no word -/
  | captureName (name : Text)
  /-- a catch-all before the last segment -/
  | catchAllPlace
  /-- a catch-all whose name is no word -/
  | catchAllName (name : Text)
  /-- a name captured a second time -/
  | repeated (name : Text)
  deriving DecidableEq, Repr

def PatternFault.reason : PatternFault → Text
  | brace segment => "segment `" ++ segment ++ "` contains a brace"
  | captureName name => "`:" ++ name ++ "` needs a parameter name of letters, digits or `_`"
  | catchAllPlace => "a `*` catch-all must be the last segment"
  | catchAllName name => "`*" ++ name ++ "` needs a name of letters, digits or `_`"
  | repeated name => "parameter `" ++ name ++ "` is captured twice"

/-- why a route is refused -/
inductive RouteError where
  /-- no server is bound yet -/
  | notInitialized
  /-- fewer than three words -/
  | malformed (line : Text)
  /-- a method outside the four -/
  | unsupportedMethod (method line : Text)
  /-- no two identifiers around the delimiter -/
  | badReference (reference delimiter : Text)
  /-- no controller of that name -/
  | controllerMissing (name expected : Text)
  /-- no action of that name in the controller -/
  | actionMissing (controller action : Text)
  /-- a middleware name that the manifest does not map -/
  | middlewareUnmapped (name : Text)
  /-- a middleware whose mapped artifact is missing -/
  | middlewareMissing (name expected : Text)
  /-- a path that is no pattern -/
  | invalidPath (path : Text) (fault : PatternFault)
  /-- method and shape are taken -/
  | duplicate (method : Method) (path : Text)
  /-- a capture that an earlier route names differently -/
  | conflicting (path name existing existingName : Text)
  deriving DecidableEq, Repr

def RouteError.message : RouteError → Text
  | notInitialized =>
    "router must be initialised with `init` (passing in a server) before routes are registered"
  | malformed line =>
    "malformed route `" ++ line ++ "`: expected `<method> <path> <Controller><delimiter><method> [middleware...]`"
  | unsupportedMethod method line =>
    "unsupported HTTP method `" ++ method ++ "` in route `" ++ line ++ "`: expected one of get, post, put, delete"
  | badReference reference delimiter =>
    "bad controller reference `" ++ reference ++ "`: expected the format Controller" ++ delimiter ++ "method"
  | controllerMissing name expected =>
    "controller `" ++ name ++ "` is not found (expected at " ++ expected ++ ")"
  | actionMissing controller action =>
    "method `" ++ action ++ "` is not defined in `" ++ controller ++ "`"
  | middlewareUnmapped name =>
    "middleware `" ++ name ++ "` is not registered in the middleware manifest"
  | middlewareMissing name expected =>
    "middleware `" ++ name ++ "` does not exist (expected at " ++ expected ++ ")"
  | invalidPath path fault =>
    "invalid path `" ++ path ++ "`: " ++ fault.reason
  | duplicate method path =>
    "route " ++ method.verb ++ " " ++ path ++ " is already registered"
  | conflicting path name existing existingName =>
    "route path `" ++ path ++ "` names parameter `" ++ name ++ "` where `" ++ existing ++
      "` already names it `" ++ existingName ++ "`"

end Switchboard
