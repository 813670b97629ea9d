/-
The paths that a host holds, and how it finds the one for a request.

The host files paths in a tree. It holds a route beside the others unless its path does not start at the root or has
too many captures, its method is taken on the very same path, another path differs from it in the names of captures
alone, or a capture of one segment meets a catch-all at the same place.

All paths are followed through the request path at once. At each segment literal text is tried before a capture and a
capture before a catch-all, and a choice that leads nowhere is taken back. A capture takes one segment, which may be
empty unless it ends the path; a catch-all takes the whole rest of the path if that is not empty.
-/
import Switchboard.Router.Server

namespace Switchboard

/-! ## Holding paths -/

namespace Pattern

/-- Whether two lists of segments cannot stand in one tree: a capture of one meets a catch-all of the other after equal
segments, or they are equal but for the names of captures. -/
def collide : List Segment → List Segment → Bool
  | [], [] => true
  | .literal a :: ps, .literal b :: qs => a = b && collide ps qs
  | .capture _ :: ps, .capture _ :: qs => collide ps qs
  | .catchAll _ :: ps, .catchAll _ :: qs => collide ps qs
  | .capture _ :: _, .catchAll _ :: _ => true
  | .catchAll _ :: _, .capture _ :: _ => true
  | _, _ => false

def captureCount (p : Pattern) : Nat :=
  p.segments.countP fun
    | .capture _ => true
    | _ => false

end Pattern

namespace Host

/-- the captures of one path that the tree has labels for -/
def captureLimit : Nat := 25

/-- whether a path can be in the tree at all -/
def isRooted (p : Pattern) : Bool :=
  Text.startsWith ['/'] p.path && p.captureCount ≤ captureLimit

/-- whether two routes can be held side by side -/
def compatible {ι ω : Type} (a b : Route ι ω) : Bool :=
  if a.pattern.hostPath = b.pattern.hostPath then a.method ≠ b.method
  else !Pattern.collide a.pattern.segments b.pattern.segments

/-- whether a host can hold a route beside those it has -/
def admits {ι ω : Type} (routes : List (Route ι ω)) (route : Route ι ω) : Bool :=
  isRooted route.pattern && routes.all fun other => compatible other route

def server {ι ω : Type} (handle : ServerHandle) : Server ι ω :=
  { handle, admits }

/-! ## Following a path -/

/-- a path followed through the first segments of a request -/
structure Trail (α : Type) where
  /-- segments still to be matched -/
  ahead : List Segment
  /-- names captured so far with the texts they took -/
  captured : List (Text × Text) := []
  /-- what the path leads to -/
  goal : α

namespace Trail

variable {α : Type}

/-- the trail past a segment that is literal text -/
def literal? (text : Text) (trail : Trail α) : Option (Trail α) :=
  match trail.ahead with
  | .literal t :: rest => if t = text then some { trail with ahead := rest } else none
  | _ => none

/-- the trail past a segment that is captured -/
def capture? (text : Text) (trail : Trail α) : Option (Trail α) :=
  match trail.ahead with
  | .capture name :: rest => some { trail with ahead := rest, captured := trail.captured ++ [(name, text)] }
  | _ => none

/-- what the trail leads to if a catch-all takes the rest of the path -/
def rest? (text : Text) (trail : Trail α) : Option (α × List (Text × Text)) :=
  match trail.ahead with
  | [.catchAll name] => some (trail.goal, trail.captured ++ [(name, text)])
  | _ => none

/-- what the trail leads to if the path ends here -/
def goal? (trail : Trail α) : Option (α × List (Text × Text)) :=
  match trail.ahead with
  | [] => some (trail.goal, trail.captured)
  | _ => none

end Trail

/-- the goal that the trails reach through the segments, with what was captured on the way -/
def follow {α : Type} : List (Trail α) → List Text → Option (α × List (Text × Text))
  | [], _ => none
  | trails, [] => trails.findSome? Trail.goal?
  | trails, segment :: rest =>
    match follow (trails.filterMap (Trail.literal? segment)) rest with
    | some found => some found
    | none =>
      match if (segment :: rest) = [[]] then none else follow (trails.filterMap (Trail.capture? segment)) rest with
      | some found => some found
      | none =>
        let remainder := Text.join ['/'] (segment :: rest)
        if remainder = [] then none else trails.findSome? (Trail.rest? remainder)

/-- the first route whose path matches the request path, with what it captures there -/
def locate {ι ω : Type} (routes : List (Route ι ω)) (path : Text) : Option (Route ι ω × List (Text × Text)) :=
  follow (routes.map fun route => { ahead := route.pattern.segments, goal := route }) (path.split '/')

end Host

end Switchboard
