/-
Requests and responses.

A request carries its verb, the raw path of its target, its headers under lower-case names, a body, and what the host
and the middlewares attach on the way: the captured path texts and a time stamp. A response is a status, headers and a
body. Header lists keep their order; a name may occur more than once and its first value counts.

A target is a path with an optional query, a whole URL, the star of a question to the server itself, or the name of a
host. `Target.path` gives the path, as sent and without query or fragment: a URL that ends with its host names the root,
and the name of a host has an empty path.

In a captured path text a percent sign with two hexadecimal digits stands for a byte, any other character for its own
UTF-8 bytes; a percent sign without two digits stands for itself. `Percent.decode?` reads the bytes back as a text and
fails where they are not UTF-8.
-/
import Switchboard.Text.Basic

namespace Switchboard

/-! ## Targets -/

namespace Target

/-- the part of a text before a query or a fragment -/
def beforeQuery (t : Text) : Text :=
  t.takeWhile fun c => c ≠ '?' && c ≠ '#'

def isSchemeChar (c : Char) : Bool :=
  c.isAlphanum || c = '+' || c = '-' || c = '.' || c = '~'

/-- the text after the scheme and the slashes of a URL -/
def afterScheme? (target : Text) : Option Text :=
  Text.after? "://" (target.dropWhile isSchemeChar)

def afterHost (t : Text) : Text :=
  t.dropWhile fun c => c ≠ '/' && c ≠ '?' && c ≠ '#'

def path (target : Text) : Text :=
  if target.head? = some '/' || target = ['*'] then beforeQuery target
  else
    match afterScheme? target with
    | none => []
    | some rest =>
      match beforeQuery (afterHost rest) with
      | [] => ['/']
      | path => path

end Target

/-! ## Percent encoding -/

namespace Text.Percent

/-- the bytes that a text stands for -/
def bytes : Text → List UInt8
  | [] => []
  | '%' :: high :: low :: rest =>
    match digitValue? high, digitValue? low with
    | some h, some l => UInt8.ofNat (16 * h + l) :: bytes rest
    | _, _ => String.utf8EncodeChar '%' ++ bytes (high :: low :: rest)
  | c :: rest => String.utf8EncodeChar c ++ bytes rest

/-- the text that the bytes spell, if they are UTF-8 -/
def decode? (t : Text) : Option Text :=
  (String.fromUTF8? (bytes t).toByteArray).map String.toList

end Text.Percent

/-! ## Messages -/

/-- headers in order, names in lower case -/
abbrev Headers := List (Text × Text)

namespace Headers

def get? (name : Text) (headers : Headers) : Option Text :=
  headers.lookup name

/-- the headers with one value under the name, at the end -/
def set (name value : Text) (headers : Headers) : Headers :=
  headers.filter (·.1 ≠ name) ++ [(name, value)]

@[simp] theorem get?_set (name value : Text) (headers : Headers) : get? name (set name value headers) = some value := by
  have h : (headers.filter (·.1 ≠ name)).lookup name = none := by
    rw [List.lookup_eq_none_iff]
    intro entry he
    have hne : entry.1 ≠ name := by simpa using (List.mem_filter.1 he).2
    simpa using Ne.symm hne
  unfold get? set
  rw [List.lookup_append, h]
  simp

/-- the headers with the value under the name unless it is there already -/
def setIfAbsent (name value : Text) (headers : Headers) : Headers :=
  if (get? name headers).isSome then headers else headers ++ [(name, value)]

@[simp] theorem get?_setIfAbsent (name value : Text) (headers : Headers) :
    get? name (setIfAbsent name value headers) = some ((get? name headers).getD value) := by
  unfold setIfAbsent
  split
  · next h =>
    obtain ⟨old, ho⟩ := Option.isSome_iff_exists.1 h
    simp [ho]
  · next h =>
    have h : headers.lookup name = none := by
      unfold get? at h
      exact Option.not_isSome_iff_eq_none.1 h
    unfold get?
    rw [List.lookup_append, h]
    simp

end Headers

/-! ## Requests -/

/-- what a client asks -/
structure Request where
  verb : Text
  /-- path as sent, not decoded -/
  path : Text
  headers : Headers
  body : Text
  /-- captured names with their raw texts in path order; none if no host matched the path -/
  captures : Option (List (Text × Text)) := none
  /-- milliseconds since the epoch at which a middleware stamped the request -/
  stamp : Option Nat := none
  deriving DecidableEq, Repr

namespace Request

/-- the request as it arrives -/
def receive (verb target : Text) (headers : List (Text × Text)) (body : Text) : Request :=
  { verb, path := Target.path target, headers := headers.map fun (name, value) => (name.toLower, value), body }

def header? (name : Text) (request : Request) : Option Text :=
  request.headers.get? name

/-- first value of a header, if it holds visible ASCII, blanks and tabs only -/
def plainHeader? (name : Text) (request : Request) : Option Text :=
  (request.header? name).filter fun value => value.all fun c => c = '\t' || (' ' ≤ c && c ≤ '~')

end Request

/-- Captured texts with every value percent-decoded; if some value is not UTF-8 once decoded, the name of the first
such. -/
def decodeCaptures : List (Text × Text) → Except Text (List (Text × Text))
  | [] => .ok []
  | (name, raw) :: rest =>
    match Text.Percent.decode? raw with
    | none => .error name
    | some value => (decodeCaptures rest).map ((name, value) :: ·)

/-! ## Responses -/

/-- what a client gets -/
structure Response where
  status : Nat
  headers : Headers := []
  body : Text := []
  deriving DecidableEq, Repr

namespace Response

def bare (status : Nat) : Response :=
  { status }

/-- a body of the given media type -/
def typed (media : Text) (status : Nat) (body : Text) : Response :=
  { status, headers := [("content-type", media)], body }

def text (status : Nat) (body : Text) : Response :=
  typed "text/plain; charset=utf-8" status body

def html (status : Nat) (body : Text) : Response :=
  typed "text/html; charset=utf-8" status body

def json (status : Nat) (body : Text) : Response :=
  typed "application/json" status body

@[simp] theorem status_bare (status : Nat) : (bare status).status = status := rfl

@[simp] theorem status_text (status : Nat) (body : Text) : (text status body).status = status := rfl

@[simp] theorem status_html (status : Nat) (body : Text) : (html status body).status = status := rfl

@[simp] theorem status_json (status : Nat) (body : Text) : (json status body).status = status := rfl

def header? (name : Text) (response : Response) : Option Text :=
  response.headers.get? name

/-- the response with one value under the header name -/
def withHeader (name value : Text) (response : Response) : Response :=
  { response with headers := response.headers.set name value }

/-- the response with the value under the header name unless it has one -/
def withDefaultHeader (name value : Text) (response : Response) : Response :=
  { response with headers := response.headers.setIfAbsent name value }

@[simp] theorem status_withHeader (name value : Text) (response : Response) :
    (response.withHeader name value).status = response.status := rfl

@[simp] theorem status_withDefaultHeader (name value : Text) (response : Response) :
    (response.withDefaultHeader name value).status = response.status := rfl

/-- the response to a request that wants headers alone -/
def withoutBody (response : Response) : Response :=
  { response with body := [] }

/-- a header value may hold any character but the control characters other than tab -/
def isHeaderValue (value : Text) : Bool :=
  value.all fun c => c = '\t' || (0x20 ≤ c.toNat && c.toNat ≠ 0x7F)

/-- The response with a header that may not be writable; if it is not, the whole answer becomes a server error. -/
def withCheckedHeader (name value : Text) (response : Response) : Response :=
  if isHeaderValue value then response.withHeader name value else text 500 "failed to parse header value"

end Response

end Switchboard
