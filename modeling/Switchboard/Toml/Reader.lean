/-
Reading TOML documents.

`value` reads a value with a bound on the nesting of arrays and inline tables; `document` reads statements line by line
and gives the finished entries of the root table, or nothing if the text is no TOML document.
-/
import Switchboard.Toml.Lexeme
import Switchboard.Toml.Moment

namespace Switchboard.Toml

/-- how a nested value is read -/
abbrev Reader := Text → Option (Value × Text)

/-- items from the first on up to the closing bracket, at most `fuel` of them -/
def items (item : Reader) : (fuel : Nat) → Text → Option (List Value × Text)
  | 0, _ => none
  | fuel + 1, t => do
    let (value, rest) ← item t
    match ← skipGap false rest with
    | ']' :: rest => pure ([value], rest)
    | ',' :: rest =>
      match ← skipGap false rest with
      | ']' :: rest => pure ([value], rest)
      | rest =>
        let (values, rest) ← items item fuel rest
        pure (value :: values, rest)
    | _ => none

def array (item : Reader) (t : Text) : Option (Value × Text) := do
  match ← skipGap false t with
  | ']' :: rest => pure (.array [], rest)
  | rest =>
    let (values, rest) ← items item (rest.length + 1) rest
    pure (.array values, rest)

/-- fields of an inline table from the first on up to the closing brace, at most `fuel` of them -/
def inlineFields (item : Reader) : (fuel : Nat) → Entries → Text → Option (Entries × Text)
  | 0, _, _ => none
  | fuel + 1, entries, t => do
    let ((path, key), rest) ← key? t
    let (value, rest) ← item (skipBlanks (← Text.after? ['='] rest))
    let entries ← entries.assign path key value
    match skipBlanks rest with
    | '\x7d' :: rest => pure (entries, rest)
    | ',' :: rest => inlineFields item fuel entries rest
    | _ => none

def inlineTable (item : Reader) (t : Text) : Option (Value × Text) :=
  match skipBlanks t with
  | '\x7d' :: rest => some (.table [], rest)
  | rest => (inlineFields item (rest.length + 1) [] rest).map fun (entries, rest) =>
    (.table (finishEntries entries), rest)

def scalar (t : Text) : Option (Value × Text) :=
  match t with
  | '"' :: _ => (quoted? .basic t).map fun (s, rest) => (.string s, rest)
  | '\x27' :: _ => (quoted? .literal t).map fun (s, rest) => (.string s, rest)
  | 't' :: _ => (Text.after? "true" t).map fun rest => (.boolean true, rest)
  | 'f' :: _ => (Text.after? "false" t).map fun rest => (.boolean false, rest)
  | _ =>
    match Moment.read t with
    | some (moment, rest) => some (.moment moment, rest)
    | none =>
      match float? t with
      | some found => some found
      | none => integer? t

/-- a value in which arrays and tables are nested at most `depth` deep -/
def value : (depth : Nat) → Reader
  | 0, t =>
    match t with
    | '[' :: _ | '\x7b' :: _ => none
    | _ => scalar t
  | depth + 1, t =>
    match t with
    | '[' :: rest => array (value depth) rest
    | '\x7b' :: rest => inlineTable (value depth) rest
    | _ => scalar t

/-! ## Documents -/

/-- the tables read so far, and the path of the one that was opened last -/
structure Progress where
  entries : Entries := []
  opened : List Text := []

/-- a header, from the text after its opening bracket or brackets -/
def header (closing : Text) (opens : List Text → Text → Entries → Option Entries) (p : Progress) (t : Text) :
    Option (Progress × Text) := do
  let ((path, key), rest) ← key? t
  let rest ← closeLine? (← Text.after? closing rest)
  let entries ← opens path key p.entries
  pure ({ entries, opened := path ++ [key] }, rest)

def assignment (p : Progress) (t : Text) : Option (Progress × Text) := do
  let ((path, key), rest) ← key? t
  let (v, rest) ← value (nestingLimit - 1) (skipBlanks (← Text.after? ['='] rest))
  let rest ← closeLine? rest
  let entries ← p.entries.assignIn p.opened path key v
  pure ({ p with entries }, rest)

/-- one line, or several if a value goes on over them -/
def statement (p : Progress) (t : Text) : Option (Progress × Text) :=
  match skipBlanks t with
  | '[' :: '[' :: rest => header "]]" Entries.openRow p rest
  | '[' :: rest => header "]" Entries.openTable p rest
  | t =>
    match closeLine? t with
    | some rest => some (p, rest)
    | none => assignment p t

/-- statements up to the end of the text, at most `fuel` of them -/
def statements : (fuel : Nat) → Progress → Text → Option Progress
  | _, p, [] => some p
  | 0, _, _ => none
  | fuel + 1, p, t => (statement p t).bind fun (p, rest) => statements fuel p rest

/-- the entries of a document, which may start with a byte order mark -/
def document (t : Text) : Option (List (Text × Value)) :=
  let body := (Text.after? ['\uFEFF'] t).getD t
  (statements (body.length + 1) {} body).map fun p => finishEntries p.entries

end Switchboard.Toml
