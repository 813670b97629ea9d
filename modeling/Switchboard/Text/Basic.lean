/-
Texts and the operations on them that the rest of the library is written with.

A text is a list of characters, so that every operation is a plain recursion. `split` and `join` are inverse to each
other; `splitOnce` cuts at the first occurrence of a mark; `padRight` fills a column. `words` cuts at every run of white
space, and `trim` removes it at both ends.
-/

namespace Switchboard

/-- a text, character by character -/
abbrev Text := List Char

/-- a string literal stands for its characters -/
instance : Coe String Text := ⟨String.toList⟩

namespace Text

/-- the text as a string, for printing -/
def str (t : Text) : String :=
  String.ofList t

/-! ## Cutting and joining -/

/-- the parts between the separators; one part more than there are separators -/
def split (sep : Char) : Text → List Text
  | [] => [[]]
  | c :: rest =>
    if c = sep then [] :: split sep rest
    else
      match split sep rest with
      | [] => [[c]]
      | part :: parts => (c :: part) :: parts

@[simp] theorem split_cons_self (sep : Char) (t : Text) : split sep (sep :: t) = [] :: split sep t :=
  if_pos rfl

theorem split_ne_nil (sep : Char) (t : Text) : split sep t ≠ [] := by
  cases t with
  | nil => simp [split]
  | cons c rest =>
    by_cases h : c = sep
    · simp [split, h]
    · simp only [split, h, if_false]
      split <;> simp

/-- the parts with the separator between them -/
def join (sep : Text) : List Text → Text
  | [] => []
  | [part] => part
  | part :: parts => part ++ sep ++ join sep parts

@[simp] theorem join_split (sep : Char) (t : Text) : join [sep] (split sep t) = t := by
  induction t with
  | nil => rfl
  | cons c rest ih =>
    by_cases h : c = sep
    · subst h
      cases hs : split c rest with
      | nil => exact absurd hs (split_ne_nil c rest)
      | cons part parts =>
        rw [hs] at ih
        simp [split, hs, join, ih]
    · cases hs : split sep rest with
      | nil => exact absurd hs (split_ne_nil sep rest)
      | cons part parts =>
        rw [hs] at ih
        cases parts <;> simp_all [split, join]

/-- what follows `mark`, if the text starts with it -/
def after? : (mark t : Text) → Option Text
  | [], t => some t
  | _ :: _, [] => none
  | m :: mark, c :: t => if m = c then after? mark t else none

theorem after?_eq_some_iff {mark t rest : Text} : after? mark t = some rest ↔ t = mark ++ rest := by
  induction mark generalizing t with
  | nil => simp [after?]
  | cons m mark ih =>
    cases t with
    | nil => simp [after?]
    | cons c t =>
      by_cases h : m = c
      · subst h
        simp [after?, ih]
      · simp [after?, h, Ne.symm h]

def startsWith (mark t : Text) : Bool :=
  (after? mark t).isSome

/-- what stands before `mark`, if the text ends with it -/
def before? (mark t : Text) : Option Text :=
  (after? mark.reverse t.reverse).map List.reverse

theorem before?_eq_some_iff {mark t head : Text} : before? mark t = some head ↔ t = head ++ mark := by
  simp only [before?, Option.map_eq_some_iff, after?_eq_some_iff]
  constructor
  · rintro ⟨rest, hreverse, rfl⟩
    simpa using congrArg List.reverse hreverse
  · rintro rfl
    exact ⟨head.reverse, by simp, by simp⟩

/-- the text before and the text after the first occurrence of `mark` -/
def splitOnce (mark : Text) : Text → Option (Text × Text)
  | [] => if mark = [] then some ([], []) else none
  | c :: rest =>
    match after? mark (c :: rest) with
    | some tail => some ([], tail)
    | none => (splitOnce mark rest).map fun (head, tail) => (c :: head, tail)

/-- the text without any trailing occurrences of `c` -/
def dropTrailing (c : Char) (t : Text) : Text :=
  (t.reverse.dropWhile (· = c)).reverse

/-- the text filled up with blanks to at least `width` characters -/
def padRight (width : Nat) (t : Text) : Text :=
  t ++ List.replicate (width - t.length) ' '

@[simp] theorem length_padRight (width : Nat) (t : Text) : (padRight width t).length = max width t.length := by
  simp [padRight]
  omega

/-! ## ASCII case -/

/-- ASCII letters in lower case, all else unchanged -/
def toLower (t : Text) : Text :=
  t.map Char.toLower

/-- ASCII letters in upper case, all else unchanged -/
def toUpper (t : Text) : Text :=
  t.map Char.toUpper

/-- letters, digits and the underscore, ASCII only -/
def isWordChar (c : Char) : Bool :=
  c.isAlphanum || c = '_'

/-! ## Numbers -/

/-- decimal digits of a number, without leading zeros -/
def ofNat (n : Nat) : Text :=
  Nat.toDigits 10 n

def digitValue? (c : Char) : Option Nat :=
  if c.isDigit then some (c.toNat - '0'.toNat)
  else if 'a' ≤ c ∧ c ≤ 'f' then some (c.toNat - 'a'.toNat + 10)
  else if 'A' ≤ c ∧ c ≤ 'F' then some (c.toNat - 'A'.toNat + 10)
  else none

/-- value of a run of digits; a character that is no digit counts as zero -/
def natOfDigits (base : Nat) (t : Text) : Nat :=
  t.foldl (fun n c => n * base + (digitValue? c).getD 0) 0

/-- a number in decimal digits, at least one and nothing else -/
def decimal? (t : Text) : Option Nat :=
  if t ≠ [] ∧ t.all Char.isDigit then some (natOfDigits 10 t) else none

/-- a decimal number below `2 ^ 64`, where a leading plus sign is allowed -/
def unsigned64? (t : Text) : Option Nat :=
  let digits := match t with
    | '+' :: rest => rest
    | _ => t
  (decimal? digits).filter (· < 0x10000000000000000)

/-! ## White space -/

/-- the White_Space property -/
def isBlank (c : Char) : Bool :=
  c.isWhitespace || [0x0B, 0x0C, 0x85, 0xA0, 0x1680, 0x2028, 0x2029, 0x202F, 0x205F, 0x3000].contains c.toNat ||
    (0x2000 ≤ c.toNat && c.toNat ≤ 0x200A)

/-- The words of a text, `carry` being the characters of a word that is already open, the last first. -/
def wordsFrom (carry : Text) : Text → List Text
  | [] => if carry = [] then [] else [carry.reverse]
  | c :: rest =>
    if isBlank c then
      if carry = [] then wordsFrom [] rest else carry.reverse :: wordsFrom [] rest
    else wordsFrom (c :: carry) rest

/-- the maximal runs of characters that are not blank -/
def words (t : Text) : List Text :=
  wordsFrom [] t

/-- the text without blanks at its two ends -/
def trim (t : Text) : Text :=
  ((t.dropWhile isBlank).reverse.dropWhile isBlank).reverse

end Text

end Switchboard
