/-
Path patterns: composed paths in which `:name` captures one segment and a last `*` or `*name` captures the rest.

`Pattern.parse` checks the segments from left to right and reports the first that breaks a rule. A pattern has two
further written forms: `hostPath`, with captures in braces, and `shape`, with the names of the captures erased. Braces
are not allowed in a path, so both forms tell captures from literal text.
-/
import Switchboard.Route.Basic

namespace Switchboard

inductive Segment where
  /-- matches its own text -/
  | literal (text : Text)
  /-- matches any one segment that is not empty -/
  | capture (name : Text)
  /-- matches any rest that is not empty -/
  | catchAll (name : Text)
  deriving DecidableEq, Repr

namespace Segment

/-- the name under which the segment captures -/
def name? : Segment → Option Text
  | literal _ => none
  | capture name => some name
  | catchAll name => some name

/-- the segment with captures in braces -/
def hostText : Segment → Text
  | literal text => text
  | capture name => ['\x7b'] ++ name ++ ['\x7d']
  | catchAll name => ['\x7b', '*'] ++ name ++ ['\x7d']

/-- the segment with the name of a capture erased -/
def shape : Segment → Text
  | literal text => text
  | capture _ => ['\x7b', '\x7d']
  | catchAll _ => ['\x7b', '*', '\x7d']

section Constructors

variable (text name : Text)

@[simp] theorem name?_literal : (literal text).name? = none := rfl

@[simp] theorem name?_capture : (capture name).name? = some name := rfl

@[simp] theorem name?_catchAll : (catchAll name).name? = some name := rfl

@[simp] theorem hostText_literal : (literal text).hostText = text := rfl

@[simp] theorem hostText_capture : (capture name).hostText = ['\x7b'] ++ name ++ ['\x7d'] := rfl

@[simp] theorem hostText_catchAll : (catchAll name).hostText = ['\x7b', '*'] ++ name ++ ['\x7d'] := rfl

@[simp] theorem shape_literal : (literal text).shape = text := rfl

@[simp] theorem shape_capture : (capture name).shape = ['\x7b', '\x7d'] := rfl

@[simp] theorem shape_catchAll : (catchAll name).shape = ['\x7b', '*', '\x7d'] := rfl

end Constructors

/-- the name of a catch-all that is given none -/
def wildcard : Text := "wildcard"

/-- words: the names of captures -/
def isWord (t : Text) : Bool :=
  t ≠ [] && t.all Text.isWordChar

/-- Reads one segment on its own; `isLast` tells whether none follows. -/
def read (isLast : Bool) (text : Text) : Except PatternFault Segment :=
  if text.any fun c => c = '\x7b' || c = '\x7d' then .error (.brace text)
  else
    match text with
    | ':' :: name => if isWord name then .ok (.capture name) else .error (.captureName name)
    | '*' :: name =>
      if !isLast then .error .catchAllPlace
      else if name = [] then .ok (.catchAll wildcard)
      else if isWord name then .ok (.catchAll name)
      else .error (.catchAllName name)
    | _ => .ok (.literal text)

/-- Reads segments in order; `taken` holds the names captured before them. -/
def readAll (taken : List Text) : List Text → Except PatternFault (List Segment)
  | [] => .ok []
  | text :: rest =>
    match read rest.isEmpty text with
    | .error fault => .error fault
    | .ok segment =>
      match segment.name? with
      | none => (readAll taken rest).map (segment :: ·)
      | some name =>
        if name ∈ taken then .error (.repeated name) else (readAll (name :: taken) rest).map (segment :: ·)

end Segment

/-- a checked path -/
structure Pattern where
  /-- the path as written -/
  path : Text
  /-- its segments, split at the separators -/
  segments : List Segment
  deriving DecidableEq, Repr

namespace Pattern

/-- reads a composed path -/
def parse (path : Text) : Except RouteError Pattern :=
  match Segment.readAll [] (path.split '/') with
  | .ok segments => .ok { path, segments }
  | .error fault => .error (.invalidPath path fault)

/-- the path with captures in braces, as the host spells it -/
def hostPath (p : Pattern) : Text :=
  Text.join ['/'] (p.segments.map Segment.hostText)

/-- the path with the names of captures erased -/
def shape (p : Pattern) : Text :=
  Text.join ['/'] (p.segments.map Segment.shape)

/-- Captures of the segments after a path whose segments have the shapes `before`, each with the shape of the path up
to and including it. -/
def capturesAfter (before : List Text) : List Segment → List (Text × Text)
  | [] => []
  | segment :: rest =>
    let upTo := before ++ [segment.shape]
    match segment.name? with
    | none => capturesAfter upTo rest
    | some name => (Text.join ['/'] upTo, name) :: capturesAfter upTo rest

/-- every capture: the shape of the path up to and including it, and its name -/
def captures (p : Pattern) : List (Text × Text) :=
  capturesAfter [] p.segments

end Pattern

end Switchboard
