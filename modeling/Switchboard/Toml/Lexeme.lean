/-
The lexemes of TOML: blanks, comments, strings, keys and numbers.

Every reader takes the text that is left and gives the text after what it read, or nothing if the text is not in order.
-/
import Switchboard.Toml.Value
import Switchboard.Text.Numeral

namespace Switchboard.Toml

/-- characters that may stand in comments and, quotes and escapes apart, in strings -/
def isPlain (c : Char) : Bool :=
  c = '\t' || (0x20 ≤ c.toNat && c.toNat ≠ 0x7F)

def skipBlanks (t : Text) : Text :=
  t.dropWhile fun c => c = ' ' || c = '\t'

def lineEnd? : Text → Option Text
  | '\n' :: rest => some rest
  | '\r' :: '\n' :: rest => some rest
  | _ => none

/-- the text after what may close a line: blanks, a comment, and a line end or the end of the text -/
def closeLine? (t : Text) : Option Text :=
  let t := skipBlanks t
  let t := match t with
    | '#' :: rest => rest.dropWhile isPlain
    | _ => t
  if t = [] then some [] else lineEnd? t

/-- the text after blanks, line ends and comments, where `inComment` tells whether a comment is open -/
def skipGap (inComment : Bool) : Text → Option Text
  | [] => if inComment then none else some []
  | '\r' :: '\n' :: rest => skipGap false rest
  | c :: rest =>
    if c = '\n' then skipGap false rest
    else if inComment then (if isPlain c then skipGap true rest else none)
    else if c = ' ' || c = '\t' then skipGap false rest
    else if c = '#' then skipGap true rest
    else some (c :: rest)

/-! ## Strings -/

/-- the character with the code point of `n` hexadecimal digits -/
def codePoint? (n : Nat) (t : Text) : Option (Char × Text) :=
  let digits := t.take n
  let code := Text.natOfDigits 16 digits
  if digits.length = n ∧ (digits.all fun c => (Text.digitValue? c).isSome) ∧ code.isValidChar then
    some (Char.ofNat code, t.drop n)
  else none

/-- the character of an escape, from the text after the backslash -/
def escape? (t : Text) : Option (Char × Text) :=
  match t with
  | 'b' :: rest => some ('\x08', rest)
  | 't' :: rest => some ('\t', rest)
  | 'n' :: rest => some ('\n', rest)
  | 'f' :: rest => some ('\x0c', rest)
  | 'r' :: rest => some ('\r', rest)
  | '"' :: rest => some ('"', rest)
  | '\\' :: rest => some ('\\', rest)
  | 'u' :: rest => codePoint? 4 rest
  | 'U' :: rest => codePoint? 8 rest
  | _ => none

/-- how a string is delimited -/
structure Quotation where
  quote : Char
  /-- whether backslashes escape -/
  escapes : Bool
  deriving DecidableEq, Repr

def Quotation.basic : Quotation := { quote := '"', escapes := true }

def Quotation.literal : Quotation := { quote := '\x27', escapes := false }

/-- a string on one line from the text after its opening quote, of at most `fuel` characters -/
def lineString (q : Quotation) : (fuel : Nat) → Text → Option (Text × Text)
  | 0, _ => none
  | _, [] => none
  | fuel + 1, c :: rest =>
    if c = q.quote then some ([], rest)
    else if q.escapes && c = '\\' then
      match escape? rest with
      | none => none
      | some (decoded, rest) => (lineString q fuel rest).map fun (t, rest) => (decoded :: t, rest)
    else if isPlain c then (lineString q fuel rest).map fun (t, rest) => (c :: t, rest)
    else none

/-- the text after blanks and line ends -/
def skipLines : Text → Text
  | [] => []
  | '\r' :: '\n' :: rest => skipLines rest
  | c :: rest => if c = ' ' || c = '\t' || c = '\n' then skipLines rest else c :: rest

/-- the text after a backslash at the end of a line, the line end and all blanks and line ends that follow -/
def continuation? (t : Text) : Option Text :=
  (lineEnd? (skipBlanks t)).map skipLines

/-- A string over several lines from the text after its opening quotes, of at most `fuel` characters. Up to two quotes
may stand anywhere in it, also before the three that close it. -/
def linesString (q : Quotation) : (fuel : Nat) → Text → Option (Text × Text)
  | 0, _ => none
  | _, [] => none
  | fuel + 1, c :: rest =>
    if c = q.quote then
      let run := (c :: rest).takeWhile (· = q.quote)
      let rest := (c :: rest).dropWhile (· = q.quote)
      if run.length < 3 then (linesString q fuel rest).map fun (t, rest) => (run ++ t, rest)
      else if run.length ≤ 5 then some (run.drop 3, rest)
      else none
    else if q.escapes && c = '\\' then
      match continuation? rest with
      | some rest => linesString q fuel rest
      | none =>
        match escape? rest with
        | none => none
        | some (decoded, rest) => (linesString q fuel rest).map fun (t, rest) => (decoded :: t, rest)
    else
      match lineEnd? (c :: rest) with
      | some rest => (linesString q fuel rest).map fun (t, rest) => ('\n' :: t, rest)
      | none => if isPlain c then (linesString q fuel rest).map fun (t, rest) => (c :: t, rest) else none

/-- a string on one line, from its opening quote -/
def quotedLine? (q : Quotation) (t : Text) : Option (Text × Text) :=
  (Text.after? [q.quote] t).bind fun rest => lineString q (rest.length + 1) rest

/-- a string, from its opening quote or quotes -/
def quoted? (q : Quotation) (t : Text) : Option (Text × Text) :=
  match Text.after? [q.quote, q.quote, q.quote] t with
  | some rest => linesString q (rest.length + 1) ((lineEnd? rest).getD rest)
  | none => quotedLine? q t

/-! ## Keys -/

def isBare (c : Char) : Bool :=
  c.isAlphanum || c = '-' || c = '_'

/-- one part of a key -/
def simpleKey? (t : Text) : Option (Text × Text) :=
  match t with
  | '"' :: _ => quotedLine? .basic t
  | '\x27' :: _ => quotedLine? .literal t
  | _ =>
    let key := t.takeWhile isBare
    if key = [] then none else some (key, t.dropWhile isBare)

/-- the parts of a key between dots, with blanks around each, at most `fuel` of them -/
def keyParts : (fuel : Nat) → Text → Option (List Text × Text)
  | 0, _ => none
  | fuel + 1, t =>
    match simpleKey? (skipBlanks t) with
    | none => none
    | some (key, rest) =>
      match skipBlanks rest with
      | '.' :: rest => (keyParts fuel rest).map fun (keys, rest) => (key :: keys, rest)
      | rest => some ([key], rest)

/-- tables and arrays may be nested less deeply than this, and keys have fewer parts -/
def nestingLimit : Nat := 80

/-- a key: the parts before the last, and the last -/
def key? (t : Text) : Option ((List Text × Text) × Text) :=
  (keyParts (nestingLimit - 1) t).bind fun (keys, rest) =>
    (keys.getLast?).map fun last => ((keys.dropLast, last), rest)

/-! ## Numbers -/

/-- further digits of a number, each with at most one underscore before it -/
def moreDigits (isDigit : Char → Bool) : Text → Option (Text × Text)
  | [] => some ([], [])
  | '_' :: d :: rest => if isDigit d then (moreDigits isDigit rest).map fun (ds, rest) => (d :: ds, rest) else none
  | c :: rest =>
    if isDigit c then (moreDigits isDigit rest).map fun (ds, rest) => (c :: ds, rest) else some ([], c :: rest)

def digits? (isDigit : Char → Bool) (t : Text) : Option (Text × Text) :=
  match t with
  | c :: rest => if isDigit c then (moreDigits isDigit rest).map fun (ds, rest) => (c :: ds, rest) else none
  | [] => none

/-- an optional sign; true for a minus -/
def sign (t : Text) : Bool × Text :=
  match t with
  | '-' :: rest => (true, rest)
  | '+' :: rest => (false, rest)
  | _ => (false, t)

/-- a decimal whole number without its sign; a zero stands alone -/
def whole? (t : Text) : Option (Text × Text) :=
  match t with
  | '0' :: rest => some (['0'], rest)
  | _ => digits? Char.isDigit t

def exponent? (t : Text) : Option (Int × Text) :=
  let (isNegative, t) := sign t
  (digits? Char.isDigit t).map fun (ds, rest) =>
    (if isNegative then -(Text.natOfDigits 10 ds : Int) else Text.natOfDigits 10 ds, rest)

/-- an exponent, if there is one; nothing if its letter stands without digits -/
def optionalExponent (t : Text) : Option (Int × Text) :=
  match t with
  | 'e' :: rest | 'E' :: rest => exponent? rest
  | _ => some (0, t)

/-- a float with a point or an exponent, or one of the special floats; a positive one must be in the range of doubles -/
def float? (t : Text) : Option (Value × Text) :=
  let (isNegative, unsigned) := sign t
  match Text.after? "inf" unsigned, Text.after? "nan" unsigned, whole? unsigned with
  | some rest, _, _ => some (.float, rest)
  | _, some rest, _ => some (.float, rest)
  | _, _, none => none
  | _, _, some (integer, rest) =>
    let parts := match rest with
      | '.' :: rest =>
        match digits? Char.isDigit rest with
        | none => none
        | some (part, rest) => (optionalExponent rest).map fun (e, rest) => (integer ++ part, e - part.length, rest)
      | 'e' :: _ | 'E' :: _ => (optionalExponent rest).map fun (e, rest) => (integer, e, rest)
      | _ => none
    match parts with
    | none => none
    | some (digits, scale, rest) =>
      if !isNegative && Text.Decimal.overflowsDouble digits scale then none else some (.float, rest)

/-- the base that a mark after a zero stands for -/
def base? : Char → Option Nat
  | 'x' => some 16
  | 'o' => some 8
  | 'b' => some 2
  | _ => none

/-- integers are of 64 bits with a sign -/
def bounded (value : Int) (rest : Text) : Option (Value × Text) :=
  if -0x8000000000000000 ≤ value ∧ value < 0x8000000000000000 then some (.integer value, rest) else none

/-- an integer without a sign in another base, from its digits on -/
def basedInteger? (base : Nat) (t : Text) : Option (Value × Text) :=
  (digits? (fun c => (Text.digitValue? c).any (· < base)) t).bind fun (ds, rest) =>
    bounded (Text.natOfDigits base ds) rest

def decimalInteger? (t : Text) : Option (Value × Text) :=
  let (isNegative, unsigned) := sign t
  (whole? unsigned).bind fun (ds, rest) =>
    bounded (if isNegative then -(Text.natOfDigits 10 ds : Int) else Text.natOfDigits 10 ds) rest

def integer? (t : Text) : Option (Value × Text) :=
  match t with
  | '0' :: mark :: rest =>
    match base? mark with
    | some base => basedInteger? base rest
    | none => decimalInteger? t
  | _ => decimalInteger? t

end Switchboard.Toml
