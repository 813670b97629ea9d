/-
Numerals, and which of them are out of the range of a double.

Doubles are the binary floating point numbers of 64 bits. A number that is not negative rounds to infinity when it
reaches `Double.limit`, the point half way between the largest double and the next power of two.

- In TOML a number is out of range if it rounds to infinity as written (`Text.Decimal.overflowsDouble`). That compares
  exact numbers only where the count of digits leaves it open.
- In JSON the value is worked out in doubles from a significand of 64 bits. Digits go into the significand as long as
  they fit. A digit of the whole part that does not fit is dropped with all that follow it there, and each dropped one
  counts a power of ten; the digits after the point go on from there, up to the first that does not fit. The significand
  and the power of ten are rounded to doubles each on its own before they are multiplied, so a number close to the
  largest double may be out of range although it rounds to a double, and the other way round.
-/
import Switchboard.Text.Basic

namespace Switchboard

/-! ## Doubles -/

namespace Double

/-- the least number that rounds to infinity -/
def limit : Nat :=
  Nat.pow 2 1024 - Nat.pow 2 970

/-- the whole number of at most 53 significant bits nearest to the given one, a tie going to the even neighbour -/
def nearest (n : Nat) : Nat :=
  let step := Nat.pow 2 (n.log2 - 52)
  let below := n / step
  let part := 2 * (n % step)
  if part < step || (part = step && below % 2 = 0) then below * step else (below + 1) * step

end Double

/-! ## Numbers in TOML -/

namespace Text.Decimal

/-- whether `digits`, read as a whole number and multiplied by `10 ^ scale`, rounds to infinity -/
def overflowsDouble (digits : Text) (scale : Int) : Bool :=
  let significant := digits.dropWhile (· = '0')
  let value := natOfDigits 10 significant
  let magnitude : Int := significant.length + scale
  if significant = [] then false
  else if magnitude > 310 then true
  else if magnitude < 308 then false
  else if 0 ≤ scale then Double.limit ≤ value * Nat.pow 10 scale.toNat
  else Double.limit * Nat.pow 10 (-scale).toNat ≤ value

end Text.Decimal

/-! ## Numbers in JSON -/

namespace Json

/-- a number without its sign: the digits before and after the point, and the exponent -/
structure Magnitude where
  whole : Text
  fraction : Text := []
  exponent : Int := 0
  deriving DecidableEq, Repr

def digits? (t : Text) : Option (Text × Text) :=
  let digits := t.takeWhile Char.isDigit
  if digits = [] then none else some (digits, t.dropWhile Char.isDigit)

/-- the exponent after its letter, with an optional sign -/
def exponent? (t : Text) : Option (Int × Text) :=
  match t with
  | '-' :: rest => (digits? rest).map fun (ds, rest) => (-(Text.natOfDigits 10 ds : Int), rest)
  | '+' :: rest => (digits? rest).map fun (ds, rest) => ((Text.natOfDigits 10 ds : Int), rest)
  | _ => (digits? t).map fun (ds, rest) => ((Text.natOfDigits 10 ds : Int), rest)

/-- the number with an exponent, if the text goes on with one -/
def withExponent (m : Magnitude) (t : Text) : Option (Magnitude × Text) :=
  match t with
  | c :: rest =>
    if c = 'e' || c = 'E' then (exponent? rest).map fun (e, rest) => ({ m with exponent := e }, rest)
    else some (m, t)
  | [] => some (m, t)

/-- a number without its sign; a leading zero stands alone before the point -/
def magnitude? (t : Text) : Option (Magnitude × Text) :=
  match digits? t with
  | none => none
  | some (whole, rest) =>
    if whole.head? = some '0' && whole.length ≠ 1 then none
    else
      match rest with
      | '.' :: rest =>
        match digits? rest with
        | none => none
        | some (fraction, rest) => withExponent { whole, fraction } rest
      | _ => withExponent { whole } rest

/-- a number, after its minus sign if it has one -/
def number? (t : Text) : Option (Magnitude × Text) :=
  match t with
  | '-' :: rest => magnitude? rest
  | _ => magnitude? t

/-! ## Range -/

/-- Takes digits into a significand while they fit into 64 bits, and gives the digits that are left. -/
def absorb (significand : Nat) : Text → Nat × Text
  | [] => (significand, [])
  | d :: ds =>
    let next := significand * 10 + (Text.digitValue? d).getD 0
    if next < 0x10000000000000000 then absorb next ds else (significand, d :: ds)

/-- a number as a significand of 64 bits and a power of ten -/
def Magnitude.scaled (m : Magnitude) : Nat × Int :=
  let (significand, dropped) := absorb 0 m.whole
  let (significand, unused) := absorb significand m.fraction
  (significand, dropped.length - (m.fraction.length - unused.length) + m.exponent)

/-- whether the value of a number is infinite -/
def Magnitude.isOutOfRange (m : Magnitude) : Bool :=
  let (significand, power) := m.scaled
  significand ≠ 0 && 0 ≤ power &&
    (308 < power || Double.limit ≤ Double.nearest significand * Double.nearest (Nat.pow 10 power.toNat))

end Json

end Switchboard
