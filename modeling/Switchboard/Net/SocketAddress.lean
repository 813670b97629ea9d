/-
Socket addresses as texts: `a.b.c.d:n`, `[v6]:n` and `[v6%scope]:n`, where `n` is the number of an endpoint.

Each reader takes the text that is left and gives the text after what it read. No octet has leading zeros; a group of a
v6 address has one to four hexadecimal digits; a double colon stands for at least one group; the last two groups may be
written as a v4 address, but not before a double colon. Endpoints and scopes are decimal and may have leading zeros.
-/
import Switchboard.Text.Basic

namespace Switchboard.SocketAddress

/-- a decimal number below `bound`, with any number of leading zeros -/
def decimalBelow (bound : Nat) (t : Text) : Option Text :=
  let digits := t.takeWhile Char.isDigit
  if digits ≠ [] ∧ Text.natOfDigits 10 digits < bound then some (t.dropWhile Char.isDigit) else none

/-- an octet: at most three digits, without leading zeros, up to 255 -/
def octet? (t : Text) : Option Text :=
  let digits := t.takeWhile Char.isDigit
  if digits.length ≤ 3 ∧ (digits.head? = some '0' → digits.length = 1) then decimalBelow 256 t else none

def v4? (t : Text) : Option Text := do
  let t ← octet? t
  let t ← octet? (← Text.after? ['.'] t)
  let t ← octet? (← Text.after? ['.'] t)
  octet? (← Text.after? ['.'] t)

def group? (t : Text) : Option Text :=
  let isHex := fun c => (Text.digitValue? c).isSome
  let digits := t.takeWhile isHex
  if digits ≠ [] ∧ digits.length ≤ 4 then some (t.dropWhile isHex) else none

/-- what a run of groups took: how many groups, whether it ended in a v4 address, and the text after it -/
structure Groups where
  count : Nat
  endsInV4 : Bool
  rest : Text

/-- As many groups as there are, at most `limit`; all but the first follow a colon. A v4 address counts as two. -/
def groups : (limit : Nat) → (isFirst : Bool) → Text → Groups
  | 0, _, t => { count := 0, endsInV4 := false, rest := t }
  | limit + 1, isFirst, t =>
    let start := if isFirst then some t else Text.after? [':'] t
    match if limit = 0 then none else start.bind v4? with
    | some rest => { count := 2, endsInV4 := true, rest }
    | none =>
      match start.bind group? with
      | some rest =>
        let more := groups limit false rest
        { more with count := more.count + 1 }
      | none => { count := 0, endsInV4 := false, rest := t }

def v6? (t : Text) : Option Text :=
  let head := groups 8 true t
  if head.count = 8 then some head.rest
  else if head.endsInV4 then none
  else (Text.after? [':', ':'] head.rest).map fun rest => (groups (7 - head.count) true rest).rest

/-- a scope in front of the closing bracket; the text itself if there is none -/
def afterScope (t : Text) : Text :=
  ((Text.after? ['%'] t).bind (decimalBelow 0x100000000)).getD t

def endpoint? (t : Text) : Option Text :=
  (Text.after? [':'] t).bind (decimalBelow 0x10000)

def v4Endpoint? (t : Text) : Option Text :=
  (v4? t).bind endpoint?

def v6Endpoint? (t : Text) : Option Text := do
  let t ← v6? (← Text.after? ['['] t)
  endpoint? (← Text.after? [']'] (afterScope t))

def isValid (t : Text) : Bool :=
  v4Endpoint? t = some [] || v6Endpoint? t = some []

end Switchboard.SocketAddress
