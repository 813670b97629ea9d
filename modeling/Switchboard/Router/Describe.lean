/-
Descriptions of bindings, routes and routers for developers.

A description names the parts that can be shown and ends in two dots where parts are left out. Texts are quoted in it:
quote, backslash, tab, carriage return, line feed and NUL have escapes of one letter, and any other character that is not
printable is written by its code point between braces.
-/
import Switchboard.Router.Basic
import Switchboard.Text.Printable

namespace Switchboard

/-! ## Quoted texts -/

namespace Text

def hexOfNat (n : Nat) : Text :=
  Nat.toDigits 16 n

def quotedChar (c : Char) : Text :=
  if c = '"' || c = '\\' then ['\\', c]
  else if c = '\t' then ['\\', 't']
  else if c = '\r' then ['\\', 'r']
  else if c = '\n' then ['\\', 'n']
  else if c.toNat = 0 then ['\\', '0']
  else if isPrintable c then [c]
  else ['\\', 'u', '\x7b'] ++ hexOfNat c.toNat ++ ['\x7d']

def quoted (t : Text) : Text :=
  ['"'] ++ t.flatMap quotedChar ++ ['"']

end Text

/-! ## Descriptions -/

/-- a name with braces around a list of parts -/
def describeParts (name : Text) (parts : List Text) : Text :=
  name ++ [' ', '\x7b', ' '] ++ Text.join ", " parts ++ [' ', '\x7d']

def ControllerBinding.describe {ι ω : Type} (binding : ControllerBinding ι ω) : Text :=
  describeParts "ControllerBinding" ["name: " ++ Text.quoted binding.name, ".."]

def MiddlewareBinding.describe (binding : MiddlewareBinding) : Text :=
  describeParts "MiddlewareBinding" ["name: " ++ Text.quoted binding.name, ".."]

def Method.title : Method → Text
  | get => "Get"
  | post => "Post"
  | put => "Put"
  | delete => "Delete"

def Route.describe {ι ω : Type} (route : Route ι ω) : Text :=
  describeParts "RegisteredRoute"
    ["method: " ++ route.method.title,
      "path: " ++ Text.quoted route.pattern.path,
      "target: " ++ Text.quoted route.target,
      "middleware: [" ++ Text.join ", " (route.middleware.map MiddlewareBinding.describe) ++ "]",
      ".."]

def Router.describe {ι ρ ω : Type} (router : Router ι ρ ω) : Text :=
  describeParts "Router"
    ["initialized: " ++ (if router.isInitialised then "true".toList else "false".toList),
      "routes: " ++ Text.ofNat router.registered.length,
      "controllers: " ++ Text.ofNat router.cache.controllers.length,
      "middlewares: " ++ Text.ofNat router.cache.middlewares.length]

end Switchboard
