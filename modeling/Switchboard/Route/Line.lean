/-
Route lines: `<method> <path> <Controller><delimiter><action> [<middleware> ...]`.

The words of a line are separated by any blanks. `RouteLine.read` reads a line completely or refuses it, and of several
faults it reports the first in reading order: too few words, the method, the controller reference.

The path of a line stands below a mount path. `Path.compose` puts a separator before both and collapses every run of
separators, so that the result starts with a separator and never doubles one. A separator at the end stays.
-/
import Switchboard.Route.Basic

namespace Switchboard

/-! ## Reading a line -/

/-- one route as written -/
structure RouteLine where
  method : Method
  /-- path as written, not yet under its mount path -/
  path : Text
  controller : Text
  action : Text
  /-- middleware names, outermost first -/
  middleware : List Text
  deriving DecidableEq, Repr

namespace RouteLine

def isIdentifierStart (c : Char) : Bool :=
  c.isAlpha || c = '_' || c = '$'

def isIdentifierRest (c : Char) : Bool :=
  c.isAlphanum || c = '_' || c = '$'

/-- identifiers: names of controllers and actions -/
def isIdentifier : Text → Bool
  | [] => false
  | c :: rest => isIdentifierStart c && rest.all isIdentifierRest

/-- the two identifiers around the first delimiter -/
def splitReference (reference delimiter : Text) : Option (Text × Text) :=
  if delimiter = [] then none
  else (Text.splitOnce delimiter reference).filter fun (controller, action) =>
    isIdentifier controller && isIdentifier action

def read (line delimiter : Text) : Except RouteError RouteLine :=
  match line.words with
  | method :: path :: reference :: middleware =>
    match Method.ofName? method with
    | none => .error (.unsupportedMethod method line)
    | some m =>
      match splitReference reference delimiter with
      | none => .error (.badReference reference delimiter)
      | some (controller, action) => .ok { method := m, path, controller, action, middleware }
  | _ => .error (.malformed line)

/-- controller and action with the delimiter between them, for listings -/
def target (line : RouteLine) (delimiter : Text) : Text :=
  line.controller ++ delimiter ++ line.action

end RouteLine

/-! ## Paths under a mount path -/

namespace Path

/-- every run of separators made a single one -/
def collapse : Text → Text
  | [] => []
  | '/' :: '/' :: rest => collapse ('/' :: rest)
  | c :: rest => c :: collapse rest

/-- the absolute path of `raw` under `mount` -/
def compose (mount raw : Text) : Text :=
  collapse (['/'] ++ mount ++ ['/'] ++ raw)

end Path

end Switchboard
