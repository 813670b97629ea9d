/-
The grammar of paths.

Notions, without the functions that read paths:
- `Segment.Word`: letters, digits and underscores, at least one;
- `Segment.Catches`: a part of a path that captures, with the name it is written with;
- `Segment.Breaks`: the rule that a part breaks among the parts before it and as the last or not the last of them;
- `Segment.FirstBreak`: the rule that the leftmost part at fault breaks;
- `Segment.Grammatical`: parts that keep every rule, one rule after the other.

Results:
- `Segment.Malformed.read_eq` and `Segment.read_of_not_malformed`: how a part is read by itself;
- `Segment.readAll_after`: reading goes on until a part breaks a rule, and tells that rule;
- `Segment.grammatical_iff`: the rules are kept exactly if no part breaks one;
- `Pattern.parse_accepts`: which texts are patterns, why any other is refused, and how the host spells a pattern.
-/
import Switchboard.Proofs.Patterns

namespace Switchboard

namespace Segment

/-! ## Parts -/

def Word (name : Text) : Prop :=
  name ≠ [] ∧ ∀ c ∈ name, ('A' ≤ c ∧ c ≤ 'Z') ∨ ('a' ≤ c ∧ c ≤ 'z') ∨ ('0' ≤ c ∧ c ≤ '9') ∨ c = '_'

theorem isWord_iff {name : Text} : isWord name = true ↔ Word name := by
  have hchar : ∀ c : Char, Text.isWordChar c = true ↔
      ('A' ≤ c ∧ c ≤ 'Z') ∨ ('a' ≤ c ∧ c ≤ 'z') ∨ ('0' ≤ c ∧ c ≤ '9') ∨ c = '_' := by
    intro c
    simp only [Text.isWordChar, Text.isAlphanum_iff, Text.isAlpha_iff, Text.isDigit_iff, Bool.or_eq_true,
      decide_eq_true_eq, or_assoc]
  simp only [isWord, Word, Bool.and_eq_true, decide_eq_true_eq, List.all_eq_true, hchar]

/-- the part captures what it takes under the name: one segment, the rest, or the rest without a name of its own -/
inductive Catches : Text → Text → Prop
  | segment {name : Text} : Word name → Catches (':' :: name) name
  | rest {name : Text} : Word name → Catches ('*' :: name) name
  | anonymous : Catches ['*'] "wildcard".toList

def Braced (part : Text) : Prop :=
  '\x7b' ∈ part ∨ '\x7d' ∈ part

/-- the rule that the part breaks by itself, be it the last or not; a brace counts before anything else -/
inductive Malformed (last : Prop) : Text → PatternFault → Prop
  | brace {part : Text} : Braced part → Malformed last part (.brace part)
  | captureName {name : Text} : ¬Braced (':' :: name) → ¬Word name → Malformed last (':' :: name) (.captureName name)
  | catchAllPlace {name : Text} : ¬Braced ('*' :: name) → ¬last → Malformed last ('*' :: name) .catchAllPlace
  | catchAllName {name : Text} : ¬Braced ('*' :: name) → last → name ≠ [] → ¬Word name →
      Malformed last ('*' :: name) (.catchAllName name)

/-- the rule that the part breaks after those before it: one by itself, or that a name is captured once -/
inductive Breaks (before : List Text) (last : Prop) (part : Text) : PatternFault → Prop
  | malformed {fault : PatternFault} : Malformed last part fault → Breaks before last part fault
  | repeated {earlier name : Text} : (∀ fault, ¬Malformed last part fault) → earlier ∈ before → Catches earlier name →
      Catches part name → Breaks before last part (.repeated name)

def BreaksAt (parts : List Text) (i : Nat) (fault : PatternFault) : Prop :=
  ∃ part, parts[i]? = some part ∧ Breaks (parts.take i) (i + 1 = parts.length) part fault

/-- the rule that is broken at the leftmost place where one is -/
def FirstBreak (parts : List Text) (fault : PatternFault) : Prop :=
  ∃ i, BreaksAt parts i fault ∧ ∀ j < i, ∀ other, ¬BreaksAt parts j other

/-- The parts keep every rule: no braces, words after colons, a star in the last part alone and nothing or a word after
it, no name captured by two parts. -/
structure Grammatical (parts : List Text) : Prop where
  unbraced : ∀ part ∈ parts, ¬Braced part
  captures : ∀ name, ':' :: name ∈ parts → Word name
  catchAlls : ∀ i name, parts[i]? = some ('*' :: name) → i + 1 = parts.length ∧ (name = [] ∨ Word name)
  distinct : parts.Pairwise fun a b => ∀ name, Catches a name → ¬Catches b name

/-- the part as the host spells it: captures in braces, a catch-all with its star -/
def respelled : Text → Text
  | ':' :: name => ['\x7b'] ++ name ++ ['\x7d']
  | ['*'] => ['\x7b', '*'] ++ "wildcard".toList ++ ['\x7d']
  | '*' :: name => ['\x7b', '*'] ++ name ++ ['\x7d']
  | part => part

/-! ## Reading a part -/

theorem any_brace_iff {part : Text} : (part.any fun c => c = '\x7b' || c = '\x7d') = true ↔ Braced part := by
  simp only [List.any_eq_true, Bool.or_eq_true, decide_eq_true_eq, Braced]
  constructor
  · rintro ⟨c, hc, rfl | rfl⟩
    · exact Or.inl hc
    · exact Or.inr hc
  · rintro (hc | hc)
    · exact ⟨_, hc, Or.inl rfl⟩
    · exact ⟨_, hc, Or.inr rfl⟩

theorem any_brace_eq_false {part : Text} (h : ¬Braced part) :
    (part.any fun c => c = '\x7b' || c = '\x7d') = false :=
  Bool.eq_false_iff.2 fun hany => h (any_brace_iff.1 hany)

/-- the segment that a part is written for -/
def written : Text → Segment
  | ':' :: name => .capture name
  | ['*'] => .catchAll wildcard
  | '*' :: name => .catchAll name
  | part => .literal part

@[simp] theorem hostText_written (part : Text) : (written part).hostText = respelled part := by
  unfold written respelled
  split <;> rfl

theorem not_malformed_iff {last : Prop} {part : Text} :
    (∀ fault, ¬Malformed last part fault) ↔
      ¬Braced part ∧ (∀ name, part = ':' :: name → Word name) ∧
        ∀ name, part = '*' :: name → last ∧ (name = [] ∨ Word name) := by
  constructor
  · intro h
    have hbrace : ¬Braced part := fun hbrace => h _ (.brace hbrace)
    refine ⟨hbrace, ?_, ?_⟩
    · rintro name rfl
      by_contra hword
      exact h _ (.captureName hbrace hword)
    · rintro name rfl
      have hlast : last := by
        by_contra hlast
        exact h _ (.catchAllPlace hbrace hlast)
      refine ⟨hlast, ?_⟩
      by_contra hname
      obtain ⟨hne, hword⟩ := not_or.1 hname
      exact h _ (.catchAllName hbrace hlast hne hword)
  · rintro ⟨hbrace, hcolon, hstar⟩ fault hfault
    cases hfault with
    | brace h => exact hbrace h
    | captureName _ hword => exact hword (hcolon _ rfl)
    | catchAllPlace _ hlast => exact hlast (hstar _ rfl).1
    | catchAllName _ _ hne hword =>
      rcases (hstar _ rfl).2 with hnil | hname
      · exact hne hnil
      · exact hword hname

theorem Malformed.read_eq {isLast : Bool} {part : Text} {fault : PatternFault}
    (h : Malformed (isLast = true) part fault) : read isLast part = .error fault := by
  cases h with
  | brace hbrace => simp only [read, any_brace_iff.2 hbrace, if_true]
  | captureName hbrace hword => simp [read, any_brace_eq_false hbrace, isWord_iff, hword]
  | catchAllPlace hbrace hlast => simp [read, any_brace_eq_false hbrace, hlast]
  | catchAllName hbrace hlast hne hword => simp [read, any_brace_eq_false hbrace, hlast, hne, isWord_iff, hword]

/-- any other part is read as it is written -/
theorem read_of_not_malformed {isLast : Bool} {part : Text} (h : ∀ fault, ¬Malformed (isLast = true) part fault) :
    read isLast part = .ok (written part) := by
  obtain ⟨hbrace, hcolon, hstar⟩ := not_malformed_iff.1 h
  unfold read
  rw [any_brace_eq_false hbrace]
  simp only [Bool.false_eq_true, if_false]
  split
  · rename_i name
    simp [written, isWord_iff.2 (hcolon name rfl)]
  · rename_i name
    obtain ⟨rfl, hname⟩ := hstar name rfl
    rcases hname with rfl | hword
    · simp [written]
    · have hne : name ≠ [] := hword.1
      simp [written, isWord_iff.2 hword, hne]
  · rename_i hliteral hcatchAll
    unfold written
    split
    · exact absurd rfl (hliteral _)
    · exact absurd rfl (hcatchAll _)
    · exact absurd rfl (hcatchAll _)
    · rfl

theorem name?_written {last : Prop} {part name : Text} (h : ∀ fault, ¬Malformed last part fault) :
    (written part).name? = some name ↔ Catches part name := by
  obtain ⟨-, hcolon, hstar⟩ := not_malformed_iff.1 h
  constructor
  · intro hname
    unfold written at hname
    split at hname
    · cases hname
      exact .segment (hcolon _ rfl)
    · cases hname
      exact .anonymous
    · rename_i hne
      cases hname
      rcases (hstar _ rfl).2 with rfl | hword
      · exact absurd rfl hne
      · exact .rest hword
    · cases hname
  · intro hcatches
    cases hcatches with
    | segment hword => rfl
    | rest hword =>
      cases name with
      | nil => exact absurd rfl hword.1
      | cons c name => rfl
    | anonymous => rfl

theorem Catches.unique {part m n : Text} (hm : Catches part m) (hn : Catches part n) : m = n := by
  cases hm with
  | segment _ =>
    cases hn with
    | segment _ => rfl
  | rest hword =>
    cases hn with
    | rest _ => rfl
    | anonymous => exact absurd rfl hword.1
  | anonymous =>
    cases hn with
    | rest hword => exact absurd rfl hword.1
    | anonymous => rfl

theorem Malformed.unique {last : Prop} {part : Text} {fault other : PatternFault} (h : Malformed last part fault)
    (h' : Malformed last part other) : fault = other := by
  classical
  have hlast : (decide last = true) = last := propext decide_eq_true_iff
  rw [← hlast] at h h'
  exact Except.error.inj (h.read_eq.symm.trans h'.read_eq)

theorem Breaks.unique {before : List Text} {last : Prop} {part : Text} {fault other : PatternFault}
    (h : Breaks before last part fault) (h' : Breaks before last part other) : fault = other := by
  cases h with
  | malformed hfault =>
    cases h' with
    | malformed hother => exact hfault.unique hother
    | repeated hnone => exact absurd hfault (hnone _)
  | repeated hnone _ _ hname =>
    cases h' with
    | malformed hother => exact absurd hother (hnone _)
    | repeated _ _ _ hname' => rw [hname.unique hname']

/-! ## Reading parts in order -/

theorem FirstBreak.unique {parts : List Text} {fault other : PatternFault} (h : FirstBreak parts fault)
    (h' : FirstBreak parts other) : fault = other := by
  obtain ⟨i, hi, hfirst⟩ := h
  obtain ⟨j, hj, hfirst'⟩ := h'
  obtain hlt | rfl | hlt := Nat.lt_trichotomy i j
  · exact absurd hi (hfirst' i hlt fault)
  · obtain ⟨part, hpart, hbreaks⟩ := hi
    obtain ⟨part', hpart', hbreaks'⟩ := hj
    obtain rfl : part = part' := Option.some.inj (hpart.symm.trans hpart')
    exact hbreaks.unique hbreaks'
  · exact absurd hj (hfirst j hlt other)

/-- the part after those before it -/
theorem breaksAt_length_iff {before rest : List Text} {part : Text} {fault : PatternFault} :
    BreaksAt (before ++ part :: rest) before.length fault ↔ Breaks before (rest.isEmpty = true) part fault := by
  have hlast : (before.length + 1 = (before ++ part :: rest).length) = (rest.isEmpty = true) := by
    rw [List.isEmpty_iff, ← List.length_eq_zero_iff, List.length_append, List.length_cons]
    exact propext ⟨fun h => by omega, fun h => by omega⟩
  rw [BreaksAt, hlast]
  simp

/-- a part that breaks no rule is read, and its name is taken from then on -/
theorem readAll_cons_of_kept {before taken rest : List Text} {part : Text}
    (htaken : ∀ name, name ∈ taken ↔ ∃ part ∈ before, Catches part name)
    (hkept : ∀ fault, ¬Breaks before (rest.isEmpty = true) part fault) :
    readAll taken (part :: rest) = (readAll ((written part).name?.toList ++ taken) rest).map (written part :: ·) := by
  have hformed : ∀ fault, ¬Malformed (rest.isEmpty = true) part fault := fun fault h => hkept fault (.malformed h)
  simp only [readAll, read_of_not_malformed hformed]
  cases hname : (written part).name? with
  | none => rfl
  | some name =>
    have hcatches : Catches part name := (name?_written hformed).1 hname
    have hnew : name ∉ taken := by
      intro hmem
      obtain ⟨earlier, hearlier, hsame⟩ := (htaken name).1 hmem
      exact hkept _ (.repeated hformed hearlier hsame hcatches)
    simp [hnew]

/-- a part that breaks a rule is refused for it -/
theorem readAll_cons_of_breaks {before taken rest : List Text} {part : Text} {fault : PatternFault}
    (htaken : ∀ name, name ∈ taken ↔ ∃ part ∈ before, Catches part name)
    (h : Breaks before (rest.isEmpty = true) part fault) : readAll taken (part :: rest) = .error fault := by
  cases h with
  | malformed hfault => simp only [readAll, hfault.read_eq]
  | @repeated earlier name hformed hearlier hsame hcatches =>
    have hmem : name ∈ taken := (htaken name).2 ⟨earlier, hearlier, hsame⟩
    simp [readAll, read_of_not_malformed hformed, (name?_written hformed).2 hcatches, hmem]

/-- After parts that break no rule, and that capture under the names taken, reading goes on to the first part that
breaks one. -/
theorem readAll_after {before taken rest : List Text} (hkept : ∀ j < before.length, ∀ fault,
    ¬BreaksAt (before ++ rest) j fault) (htaken : ∀ name, name ∈ taken ↔ ∃ part ∈ before, Catches part name) :
    match readAll taken rest with
    | .error fault => FirstBreak (before ++ rest) fault
    | .ok segments => segments = rest.map written ∧ ∀ j fault, ¬BreaksAt (before ++ rest) j fault := by
  induction rest generalizing before taken with
  | nil =>
    refine ⟨rfl, fun j fault hbreaks => ?_⟩
    obtain ⟨part, hpart, -⟩ := id hbreaks
    obtain ⟨hj, -⟩ := List.getElem?_eq_some_iff.1 hpart
    exact hkept j (by simpa using hj) fault hbreaks
  | cons part rest ih =>
    by_cases hbreaks : ∃ fault, Breaks before (rest.isEmpty = true) part fault
    · obtain ⟨fault, hfault⟩ := hbreaks
      rw [readAll_cons_of_breaks htaken hfault]
      exact ⟨before.length, breaksAt_length_iff.2 hfault, hkept⟩
    · have hpart : ∀ fault, ¬Breaks before (rest.isEmpty = true) part fault := not_exists.1 hbreaks
      have hformed : ∀ fault, ¬Malformed (rest.isEmpty = true) part fault := fun fault h => hpart fault (.malformed h)
      have hkept' : ∀ j < (before ++ [part]).length, ∀ fault, ¬BreaksAt (before ++ [part] ++ rest) j fault := by
        intro j hj fault
        rw [List.append_assoc, List.singleton_append]
        rw [List.length_append, List.length_singleton] at hj
        rcases Nat.lt_succ_iff_lt_or_eq.1 hj with hlt | rfl
        · exact hkept j hlt fault
        · exact fun h => hpart fault (breaksAt_length_iff.1 h)
      have htaken' : ∀ name, name ∈ (written part).name?.toList ++ taken ↔ ∃ p ∈ before ++ [part], Catches p name := by
        intro name
        rw [List.mem_append, Option.mem_toList, name?_written hformed, htaken name]
        simp [or_and_right, exists_or, or_comm]
      have hrest := ih hkept' htaken'
      rw [List.append_assoc, List.singleton_append] at hrest
      rw [readAll_cons_of_kept htaken hpart]
      cases hread : readAll ((written part).name?.toList ++ taken) rest with
      | error fault =>
        rw [hread] at hrest
        exact hrest
      | ok segments =>
        rw [hread] at hrest
        obtain ⟨rfl, hnone⟩ := hrest
        exact ⟨rfl, hnone⟩

/-! ## Rule by rule -/

/-- The rules are kept exactly if no part breaks one. -/
theorem grammatical_iff {parts : List Text} : Grammatical parts ↔ ∀ i fault, ¬BreaksAt parts i fault := by
  constructor
  · rintro h i fault ⟨part, hpart, hbreaks⟩
    have hmem : part ∈ parts := List.mem_of_getElem? hpart
    have hformed : ∀ other, ¬Malformed (i + 1 = parts.length) part other := by
      refine not_malformed_iff.2 ⟨h.unbraced part hmem, ?_, ?_⟩
      · rintro name rfl
        exact h.captures name hmem
      · rintro name rfl
        exact h.catchAlls i name hpart
    cases hbreaks with
    | malformed hfault => exact hformed _ hfault
    | repeated _ hearlier hsame hcatches =>
      obtain ⟨j, hj, hget⟩ := List.mem_take_iff_getElem.1 hearlier
      obtain ⟨hi, rfl⟩ := List.getElem?_eq_some_iff.1 hpart
      have hdistinct := List.pairwise_iff_getElem.1 h.distinct j i (by omega) hi (by omega)
      exact hdistinct _ (hget ▸ hsame) hcatches
  · intro h
    have hformed : ∀ (i : Nat) part, parts[i]? = some part → ∀ fault, ¬Malformed (i + 1 = parts.length) part fault :=
      fun i part hpart fault hfault => h i fault ⟨part, hpart, .malformed hfault⟩
    refine ⟨?_, ?_, ?_, ?_⟩
    · intro part hmem
      obtain ⟨i, hi⟩ := List.getElem?_of_mem hmem
      exact (not_malformed_iff.1 (hformed i part hi)).1
    · intro name hmem
      obtain ⟨i, hi⟩ := List.getElem?_of_mem hmem
      exact (not_malformed_iff.1 (hformed i _ hi)).2.1 name rfl
    · intro i name hi
      exact (not_malformed_iff.1 (hformed i _ hi)).2.2 name rfl
    · refine List.pairwise_iff_getElem.2 fun i j hi hj hij name hearlier hcatches => ?_
      have hj' : parts[j]? = some parts[j] := List.getElem?_eq_getElem hj
      have hmem : parts[i] ∈ parts.take j := List.mem_take_iff_getElem.2 ⟨i, by omega, rfl⟩
      exact h j _ ⟨parts[j], hj', .repeated (hformed j _ hj') hmem hearlier hcatches⟩

end Segment

namespace Pattern

open Segment

/-- reading a path ends at the first part that breaks a rule -/
theorem parse_cases (path : Text) :
    (∃ fault, parse path = .error (.invalidPath path fault) ∧ FirstBreak (path.split '/') fault) ∨
      (parse path = .ok { path, segments := (path.split '/').map written } ∧ Grammatical (path.split '/')) := by
  have hread : match readAll [] (path.split '/') with
      | .error fault => FirstBreak (path.split '/') fault
      | .ok segments => segments = (path.split '/').map written ∧ ∀ j fault, ¬BreaksAt (path.split '/') j fault :=
    @readAll_after [] [] (path.split '/') (by simp) (by simp)
  unfold parse
  cases hresult : readAll [] (path.split '/') with
  | error fault =>
    rw [hresult] at hread
    exact Or.inl ⟨fault, rfl, hread⟩
  | ok segments =>
    rw [hresult] at hread
    obtain ⟨rfl, hnone⟩ := hread
    exact Or.inr ⟨rfl, grammatical_iff.2 hnone⟩

/-- **The grammar of paths.** A text is a pattern exactly if its parts between separators are grammatical. Any other is
refused for the rule that its leftmost part at fault breaks. A pattern keeps the text as its path, and the host spells
it part by part. -/
theorem parse_accepts (path : Text) :
    ((∃ p, parse path = .ok p) ↔ Grammatical (path.split '/')) ∧
      (∀ e, parse path = .error e ↔ ∃ fault, e = .invalidPath path fault ∧ FirstBreak (path.split '/') fault) ∧
      ∀ p, parse path = .ok p →
        p.path = path ∧ p.hostPath = Text.join ['/'] ((path.split '/').map respelled) := by
  rcases parse_cases path with ⟨fault, hparse, hfirst⟩ | ⟨hparse, hgrammatical⟩
  · have hbroken : ¬Grammatical (path.split '/') := by
      intro h
      obtain ⟨i, hi, -⟩ := hfirst
      exact grammatical_iff.1 h i fault hi
    rw [hparse]
    refine ⟨?_, fun e => ?_, fun p hp => (by cases hp)⟩
    · simp [hbroken]
    · constructor
      · intro he
        cases he
        exact ⟨fault, rfl, hfirst⟩
      · rintro ⟨other, rfl, hother⟩
        rw [hfirst.unique hother]
  · rw [hparse]
    refine ⟨?_, fun e => ?_, fun p hp => ?_⟩
    · simp [hgrammatical]
    · constructor
      · intro he
        cases he
      · rintro ⟨fault, -, i, hi, -⟩
        exact absurd hi (grammatical_iff.1 hgrammatical i fault)
    · cases hp
      refine ⟨rfl, ?_⟩
      rw [hostPath, List.map_map]
      congr 2
      funext part
      exact hostText_written part

/-- Two faults: the name `id` is captured a second time before a catch-all that is not the last part. -/
example : parse "/:id/x/:id/*/y".toList = .error (.invalidPath "/:id/x/:id/*/y".toList (.repeated "id".toList)) := by
  decide

end Pattern

end Switchboard
