/-
JSON: writing it without blanks, reading its lexemes, and skipping whole values.

Quotes, backslashes and control characters are escaped, everything else stands for itself. Objects keep the order of
their fields. Every reader takes the text that is left and gives the text after what it read. `string` decodes a string
and refuses lone surrogates; `skipValue` checks a value for its form only, so that it neither bounds the nesting nor
looks at the code points behind escapes.
-/
import Switchboard.Text.Numeral

namespace Switchboard

/-! ## Writing -/

namespace Json

/-- a digit of a number below sixteen, in lower case -/
def hexDigit (n : Nat) : Char :=
  (Nat.toDigits 16 n).headD '0'

def stringChar (c : Char) : Text :=
  if c = '"' || c = '\\' then ['\\', c]
  else if c = '\n' then ['\\', 'n']
  else if c = '\r' then ['\\', 'r']
  else if c = '\t' then ['\\', 't']
  else if c.toNat = 0x08 then ['\\', 'b']
  else if c.toNat = 0x0C then ['\\', 'f']
  else if c.toNat < 0x20 then ['\\', 'u', '0', '0', hexDigit (c.toNat / 16), hexDigit (c.toNat % 16)]
  else [c]

def string (t : Text) : Text :=
  ['"'] ++ t.flatMap stringChar ++ ['"']

def number (n : Nat) : Text :=
  Text.ofNat n

def array (items : List Text) : Text :=
  ['['] ++ Text.join [','] items ++ [']']

def object (fields : List (Text × Text)) : Text :=
  ['\x7b'] ++ Text.join [','] (fields.map fun (name, value) => string name ++ [':'] ++ value) ++ ['\x7d']

/-! ## Reading -/

def skipBlanks (t : Text) : Text :=
  t.dropWhile fun c => c = ' ' || c = '\n' || c = '\t' || c = '\r'

/-- a code unit of four hexadecimal digits -/
def codeUnit? (t : Text) : Option (Nat × Text) :=
  match t with
  | a :: b :: c :: d :: rest =>
    if [a, b, c, d].all fun x => (Text.digitValue? x).isSome then some (Text.natOfDigits 16 [a, b, c, d], rest)
    else none
  | _ => none

/-- the character of a one-letter escape -/
def letterEscape? (c : Char) : Option Char :=
  match c with
  | '"' | '\\' | '/' => some c
  | 'b' => some '\x08'
  | 'f' => some '\x0c'
  | 'n' => some '\n'
  | 'r' => some '\r'
  | 't' => some '\t'
  | _ => none

/-- The character of an escape, from the text after the backslash. A leading surrogate has to be followed by the escape
of a trailing one, and a trailing one does not stand alone. -/
def escape? (t : Text) : Option (Char × Text) :=
  match t with
  | 'u' :: digits =>
    match codeUnit? digits with
    | none => none
    | some (unit, rest) =>
      if 0xDC00 ≤ unit ∧ unit ≤ 0xDFFF then none
      else if unit < 0xD800 ∨ 0xDBFF < unit then some (Char.ofNat unit, rest)
      else
        match rest with
        | '\\' :: 'u' :: digits =>
          match codeUnit? digits with
          | none => none
          | some (trail, rest) =>
            if 0xDC00 ≤ trail ∧ trail ≤ 0xDFFF then
              some (Char.ofNat ((unit - 0xD800) * 0x400 + (trail - 0xDC00) + 0x10000), rest)
            else none
        | _ => none
  | c :: rest => (letterEscape? c).map fun decoded => (decoded, rest)
  | [] => none

/-- the text after an escape whose code point does not matter, from the text after the backslash -/
def skipEscape? (t : Text) : Option Text :=
  match t with
  | 'u' :: digits => (codeUnit? digits).map (·.2)
  | c :: rest => (letterEscape? c).map fun _ => rest
  | [] => none

/-- a string from the text after its opening quote, of at most `fuel` characters -/
def stringWithin : (fuel : Nat) → Text → Option (Text × Text)
  | 0, _ => none
  | _, [] => none
  | fuel + 1, c :: rest =>
    if c = '"' then some ([], rest)
    else if c = '\\' then
      match escape? rest with
      | none => none
      | some (decoded, rest) => (stringWithin fuel rest).map fun (t, rest) => (decoded :: t, rest)
    else if c.toNat < 0x20 then none
    else (stringWithin fuel rest).map fun (t, rest) => (c :: t, rest)

def string? (t : Text) : Option (Text × Text) :=
  stringWithin (t.length + 1) t

/-- the text after a string of at most `fuel` characters -/
def skipStringWithin : (fuel : Nat) → Text → Option Text
  | 0, _ => none
  | _, [] => none
  | fuel + 1, c :: rest =>
    if c = '"' then some rest
    else if c = '\\' then (skipEscape? rest).bind (skipStringWithin fuel)
    else if c.toNat < 0x20 then none
    else skipStringWithin fuel rest

def skipString? (t : Text) : Option Text :=
  skipStringWithin (t.length + 1) t

/-! ## Values that are skipped -/

/-- brackets that are open around a skipped value -/
inductive Bracket where
  | square
  | curly
  deriving DecidableEq, Repr

/-- the text after the key of a field and its colon -/
def skipKey? (t : Text) : Option Text :=
  match skipBlanks t with
  | '"' :: rest =>
    match (skipString? rest).map skipBlanks with
    | some (':' :: rest) => some rest
    | _ => none
  | _ => none

mutual

/-- skips a value that stands inside the open brackets, innermost first, and all up to their last closing -/
def skipIn : (fuel : Nat) → List Bracket → Text → Option Text
  | 0, _, _ => none
  | fuel + 1, opened, t =>
    match skipBlanks t with
    | [] => none
    | '"' :: rest => (skipString? rest).bind (skipAfter fuel opened)
    | '[' :: rest =>
      match skipBlanks rest with
      | ']' :: rest => skipAfter fuel opened rest
      | rest => skipIn fuel (.square :: opened) rest
    | '\x7b' :: rest =>
      match skipBlanks rest with
      | '\x7d' :: rest => skipAfter fuel opened rest
      | rest => (skipKey? rest).bind (skipIn fuel (.curly :: opened))
    | c :: rest =>
      if c = '-' || c.isDigit then (number? (c :: rest)).bind fun (_, rest) => skipAfter fuel opened rest
      else
        match ["null", "true", "false"].findSome? fun word => Text.after? word.toList (c :: rest) with
        | some rest => skipAfter fuel opened rest
        | none => none

/-- skips what follows a value inside the open brackets -/
def skipAfter : (fuel : Nat) → List Bracket → Text → Option Text
  | 0, _, _ => none
  | _, [], t => some t
  | fuel + 1, bracket :: opened, t =>
    match bracket, skipBlanks t with
    | .square, ']' :: rest => skipAfter fuel opened rest
    | .curly, '\x7d' :: rest => skipAfter fuel opened rest
    | .square, ',' :: rest => skipIn fuel (.square :: opened) rest
    | .curly, ',' :: rest => (skipKey? rest).bind (skipIn fuel (.curly :: opened))
    | _, _ => none

end

def skipValue? (t : Text) : Option Text :=
  skipIn (2 * t.length + 2) [] t

end Json

end Switchboard
