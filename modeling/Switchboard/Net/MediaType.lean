/-
Media types of request bodies: `type/subtype`, with a suffix after the last plus sign and parameters after semicolons.

`MediaType.read` reads a whole text, without blanks around it, and compares no case; the parameters are checked for
their form and not kept. A body is JSON if its type is `application` and its subtype or its suffix is `json`.
-/
import Switchboard.Text.Basic

namespace Switchboard

/-- a media type in lower case -/
structure MediaType where
  type : Text
  /-- up to the last plus sign -/
  subtype : Text
  /-- after the last plus sign -/
  suffix : Option Text
  deriving DecidableEq, Repr

namespace MediaType

/-- characters of names and of values without quotes -/
def isToken (c : Char) : Bool :=
  c.isAlphanum || "!#$%&*+-.^_|~".toList.contains c || c.toNat = 0x27 || c.toNat = 0x60

/-- characters between quotes -/
def isQuotable (c : Char) : Bool :=
  0x20 ≤ c.toNat && c.toNat ≠ 0x7F

/-- What follows a quoted value, from the text after its opening quote. The value has at least one character, even if
that is a quote. -/
def afterQuoted? (t : Text) : Option Text :=
  match t with
  | first :: rest =>
    if !isQuotable first then none
    else
      match rest.dropWhile fun c => isQuotable c && c ≠ '"' with
      | '"' :: rest => some (rest.dropWhile (· = ' '))
      | _ => none
  | [] => none

/-- What follows one parameter: nothing, or the text after the semicolon that ends it. Blanks before it are skipped, and
a text of blanks alone is no parameter. -/
def afterParameter? (t : Text) : Option Text :=
  match t.dropWhile (· = ' ') with
  | [] => some []
  | text =>
    let name := text.takeWhile isToken
    match text.dropWhile isToken with
    | '=' :: '"' :: rest =>
      if name = [] then none
      else
        match afterQuoted? rest with
        | some [] => some []
        | some (';' :: rest) => some rest
        | _ => none
    | '=' :: rest =>
      if name = [] then none
      else
        match rest.takeWhile isToken, rest.dropWhile isToken with
        | _, [] => some []
        | _ :: _, ';' :: rest => some rest
        | _, _ => none
    | _ => none

/-- whether the text after the first semicolon consists of parameters, at most `fuel` of them -/
def areParameters : (fuel : Nat) → Text → Bool
  | _, [] => true
  | 0, _ => false
  | fuel + 1, t =>
    match afterParameter? t with
    | some rest => areParameters fuel rest
    | none => false

/-- a subtype cut at its last plus sign, if that is not its first character -/
def cutSuffix (subtype : Text) : Text × Option Text :=
  match subtype.reverse.span (· ≠ '+') with
  | (reversed, '+' :: before) =>
    if before = [] then (subtype, none) else (before.reverse, some reversed.reverse)
  | _ => (subtype, none)

def read (t : Text) : Option MediaType :=
  let type := t.takeWhile isToken
  match t.dropWhile isToken with
  | '/' :: rest =>
    let subtype := rest.takeWhile isToken
    let isWellFormed := match rest.dropWhile isToken with
      | [] => true
      | ';' :: parameters => subtype ≠ [] && areParameters (parameters.length + 1) parameters
      | _ => false
    if type ≠ [] && isWellFormed then
      let (stem, suffix) := cutSuffix (Text.toLower subtype)
      some { type := Text.toLower type, subtype := stem, suffix }
    else none
  | _ => none

def isJson (m : MediaType) : Bool :=
  m.type = ("application" : Text) && (m.subtype = ("json" : Text) || m.suffix = some ("json" : Text))

end MediaType

end Switchboard
