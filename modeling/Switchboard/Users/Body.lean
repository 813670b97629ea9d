/-
Reading a new user from the body of a request.

The body is a JSON object with the fields `username`, `password` and `email`, each a string or null and each optional,
or an array of the three in this order. It is read from left to right and the first fault decides: a body that is no
JSON is malformed, JSON of another shape is misshapen. Unknown fields are skipped.
-/
import Switchboard.Json.Basic

namespace Switchboard

/-- user fields as submitted; any may be missing -/
structure Submission where
  username : Option Text := none
  password : Option Text := none
  email : Option Text := none
  deriving DecidableEq, Repr

/-- why a body is no submission -/
inductive BodyFault where
  /-- not JSON -/
  | malformed
  /-- JSON of another shape -/
  | misshapen
  deriving DecidableEq, Repr

inductive UserField where
  | username
  | password
  | email
  deriving DecidableEq, Repr

namespace UserField

def key : UserField → Text
  | username => "username"
  | password => "password"
  | email => "email"

def ofKey? (key : Text) : Option UserField :=
  [username, password, email].find? fun field => field.key = key

end UserField

def Submission.put (field : UserField) (value : Option Text) (s : Submission) : Submission :=
  match field with
  | .username => { s with username := value }
  | .password => { s with password := value }
  | .email => { s with email := value }

namespace Body

open Json

/-- The fault of a value that stands where it has the wrong type: its first lexeme is read, and a number has to be in
range. -/
def wrongType (t : Text) : BodyFault :=
  match t with
  | [] => .malformed
  | '[' :: _ | '\x7b' :: _ => .misshapen
  | '"' :: rest => if (string? rest).isSome then .misshapen else .malformed
  | c :: rest =>
    if c = '-' || c.isDigit then
      match number? (c :: rest) with
      | some (m, _) => if m.isOutOfRange then .malformed else .misshapen
      | none => .malformed
    else if ["null", "true", "false"].any fun word => Text.startsWith word.toList (c :: rest) then .misshapen
    else .malformed

def optionalText (t : Text) : Except BodyFault (Option Text × Text) :=
  match skipBlanks t with
  | '"' :: rest =>
    match string? rest with
    | some (value, rest) => .ok (some value, rest)
    | none => .error .malformed
  | 'n' :: rest =>
    match Text.after? "ull" rest with
    | some rest => .ok (none, rest)
    | none => .error .malformed
  | other => .error (wrongType other)

/-- One field from its key on. A known key that came before is a fault at once. -/
def field (seen : List UserField) (s : Submission) (t : Text) :
    Except BodyFault (List UserField × Submission × Text) :=
  match t with
  | '"' :: rest =>
    match string? rest with
    | none => .error .malformed
    | some (key, rest) =>
      let known := UserField.ofKey? key
      if known.any (· ∈ seen) then .error .misshapen
      else
        match skipBlanks rest with
        | ':' :: rest =>
          match known with
          | some f =>
            match optionalText rest with
            | .ok (value, rest) => .ok (f :: seen, s.put f value, rest)
            | .error fault => .error fault
          | none =>
            match skipValue? rest with
            | some rest => .ok (seen, s, rest)
            | none => .error .malformed
        | _ => .error .malformed
  | _ => .error .malformed

/-- fields from the key of the first up to the closing brace, at most `fuel` of them -/
def fieldsWithin : (fuel : Nat) → List UserField → Submission → Text → Except BodyFault (Submission × Text)
  | 0, _, _, _ => .error .malformed
  | fuel + 1, seen, s, t =>
    match field seen s t with
    | .error fault => .error fault
    | .ok (seen, s, rest) =>
      match skipBlanks rest with
      | '\x7d' :: rest => .ok (s, rest)
      | ',' :: rest => fieldsWithin fuel seen s (skipBlanks rest)
      | _ => .error .malformed

def object (t : Text) : Except BodyFault (Submission × Text) :=
  match skipBlanks t with
  | '\x7d' :: rest => .ok ({}, rest)
  | rest => fieldsWithin (rest.length + 1) [] {} rest

/-- The values of the fields in order, `first` telling whether none came before. -/
def items (first : Bool) (s : Submission) : List UserField → Text → Except BodyFault (Submission × Text)
  | [], t =>
    match skipBlanks t with
    | ']' :: rest => .ok (s, rest)
    | _ => .error .malformed
  | f :: fs, t =>
    match skipBlanks t with
    | ']' :: _ => .error .misshapen
    | blankless =>
      let value : Except BodyFault Text :=
        if first then .ok blankless
        else
          match blankless with
          | ',' :: rest =>
            match skipBlanks rest with
            | ']' :: _ => .error .malformed
            | rest => .ok rest
          | _ => .error .malformed
      match value with
      | .error fault => .error fault
      | .ok rest =>
        match optionalText rest with
        | .error fault => .error fault
        | .ok (v, rest) => items false (s.put f v) fs rest

/-- the submission that a whole body holds -/
def read (body : Text) : Except BodyFault Submission :=
  let submission := match skipBlanks body with
    | '\x7b' :: rest => object rest
    | '[' :: rest => items true {} [.username, .password, .email] rest
    | other => .error (wrongType other)
  match submission with
  | .error fault => .error fault
  | .ok (s, rest) => if skipBlanks rest = [] then .ok s else .error .malformed

end Body

end Switchboard
