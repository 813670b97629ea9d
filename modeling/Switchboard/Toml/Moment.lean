/-
Dates and times of TOML.

A moment is a date, a time, or a date and a time with an optional offset. `Moment.read` checks the ranges of all parts
and gives the moment in normal form: a capital `T` between date and time, no zeros at the end of a fraction and no more
than nine digits in it, and a capital `Z` for the zero offset of that name.
-/
import Switchboard.Text.Basic

namespace Switchboard.Toml.Moment

def fixed (n : Nat) (t : Text) : Option (Text × Text) :=
  let digits := t.take n
  if digits.length = n ∧ digits.all Char.isDigit then some (digits, t.drop n) else none

/-- two digits in a range -/
def part (lo hi : Nat) (t : Text) : Option (Text × Text) :=
  (fixed 2 t).filter fun (digits, _) => lo ≤ Text.natOfDigits 10 digits && Text.natOfDigits 10 digits ≤ hi

def isLeap (year : Nat) : Bool :=
  year % 4 = 0 && (year % 100 ≠ 0 || year % 400 = 0)

def daysOf (year month : Nat) : Nat :=
  if month = 2 then (if isLeap year then 29 else 28)
  else if [4, 6, 9, 11].contains month then 30
  else 31

def date? (t : Text) : Option (Text × Text) := do
  let (year, t) ← fixed 4 t
  let (month, t) ← part 1 12 (← Text.after? ['-'] t)
  let (day, t) ← part 1 (daysOf (Text.natOfDigits 10 year) (Text.natOfDigits 10 month)) (← Text.after? ['-'] t)
  pure (year ++ ['-'] ++ month ++ ['-'] ++ day, t)

def fraction (t : Text) : Text × Text :=
  match t with
  | '.' :: rest =>
    let digits := rest.takeWhile Char.isDigit
    let kept := Text.dropTrailing '0' (digits.take 9)
    if digits = [] then ([], t)
    else (if kept = [] then [] else '.' :: kept, rest.dropWhile Char.isDigit)
  | _ => ([], t)

def time? (t : Text) : Option (Text × Text) := do
  let (hour, t) ← part 0 23 t
  let (minute, t) ← part 0 59 (← Text.after? [':'] t)
  let (second, t) ← part 0 60 (← Text.after? [':'] t)
  let (tail, t) := fraction t
  pure (hour ++ [':'] ++ minute ++ [':'] ++ second ++ tail, t)

def clockOffset? (sign : Char) (t : Text) : Option (Text × Text) := do
  let (hour, t) ← part 0 23 t
  let (minute, t) ← part 0 59 (← Text.after? [':'] t)
  let size := hour ++ [':'] ++ minute
  pure ((if size = ("00:00" : Text) then '+' else sign) :: size, t)

def offset (t : Text) : Text × Text :=
  match t with
  | 'Z' :: rest | 'z' :: rest => (['Z'], rest)
  | '+' :: rest => (clockOffset? '+' rest).getD ([], t)
  | '-' :: rest => (clockOffset? '-' rest).getD ([], t)
  | _ => ([], t)

/-- a time with an offset, after the mark that sets it off from a date -/
def timeAfterDate? (t : Text) : Option (Text × Text) :=
  match t with
  | 'T' :: rest | 't' :: rest | ' ' :: rest =>
    (time? rest).map fun (time, rest) =>
      let (zone, rest) := offset rest
      ('T' :: time ++ zone, rest)
  | _ => none

/-- a moment in normal form, and the text after it -/
def read (t : Text) : Option (Text × Text) :=
  match date? t with
  | some (date, rest) =>
    match timeAfterDate? rest with
    | some (time, rest) => some (date ++ time, rest)
    | none => some (date, rest)
  | none => time? t

end Switchboard.Toml.Moment
