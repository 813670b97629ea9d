/-
Reading route lines.

- `words_append_blank` is the one equation about words: a blank character ends the word before it. Words are not empty
  and hold no blank (`mem_words`).
- A reference is cut at the first delimiter in it, which can stand inside the controller. `splitReference_eq`: a
  delimiter with a character that identifiers cannot have is found where it was written. `exists_splitReference_ne`: any
  other delimiter is found too early in some reference.
- `read_eq` puts the two together for whole lines.
-/
import Mathlib.Data.List.TakeWhile
import Switchboard.Proofs.Parts
import Switchboard.Route.Line

namespace Switchboard

namespace Text

/-! ## Words -/

theorem wordsFrom_append_blank {c : Char} (hc : isBlank c = true) (carry before rest : Text) :
    wordsFrom carry (before ++ c :: rest) = wordsFrom carry before ++ words rest := by
  induction before generalizing carry with
  | nil =>
    by_cases hcarry : carry = []
    · simp [wordsFrom, words, hc, hcarry]
    · simp [wordsFrom, words, hc, hcarry]
  | cons d before ih =>
    by_cases hd : isBlank d = true
    · by_cases hcarry : carry = []
      · simp [wordsFrom, hd, hcarry, ih]
      · simp [wordsFrom, hd, hcarry, ih]
    · simp [wordsFrom, hd, ih]

/-- A blank ends the word before it. -/
theorem words_append_blank {c : Char} (hc : isBlank c = true) (before rest : Text) :
    words (before ++ c :: rest) = words before ++ words rest :=
  wordsFrom_append_blank hc [] before rest

theorem wordsFrom_of_unblank {word : Text} (h : ∀ c ∈ word, isBlank c = false) {carry : Text}
    (hne : carry.reverse ++ word ≠ []) : wordsFrom carry word = [carry.reverse ++ word] := by
  induction word generalizing carry with
  | nil =>
    have hcarry : carry ≠ [] := by simpa using hne
    simp [wordsFrom, hcarry]
  | cons c word ih =>
    have hc : isBlank c = false := h c List.mem_cons_self
    have hword : wordsFrom (c :: carry) word = [(c :: carry).reverse ++ word] :=
      ih (fun d hd => h d (List.mem_cons_of_mem c hd)) (by simp)
    simp [wordsFrom, hc, hword]

theorem words_of_unblank {word : Text} (hne : word ≠ []) (h : ∀ c ∈ word, isBlank c = false) : words word = [word] :=
  wordsFrom_of_unblank h (by simpa using hne)

theorem mem_wordsFrom {carry t word : Text} (hcarry : ∀ c ∈ carry, isBlank c = false)
    (h : word ∈ wordsFrom carry t) : word ≠ [] ∧ ∀ c ∈ word, isBlank c = false := by
  have hclosed : carry ≠ [] → carry.reverse ≠ [] ∧ ∀ c ∈ carry.reverse, isBlank c = false := by
    intro hne
    exact ⟨by simpa using hne, fun c hc => hcarry c (List.mem_reverse.1 hc)⟩
  induction t generalizing carry with
  | nil =>
    simp only [wordsFrom] at h
    split_ifs at h with hnil
    · exact absurd h List.not_mem_nil
    · rw [List.mem_singleton.1 h]
      exact hclosed hnil
  | cons c t ih =>
    have hfresh : word ∈ wordsFrom [] t → word ≠ [] ∧ ∀ c ∈ word, isBlank c = false :=
      fun hmem => ih (by simp) hmem (by simp)
    by_cases hc : isBlank c = true
    · simp only [wordsFrom, hc, if_true] at h
      split_ifs at h with hnil
      · exact hfresh h
      · rcases List.mem_cons.1 h with hword | hmem
        · rw [hword]
          exact hclosed hnil
        · exact hfresh hmem
    · simp only [wordsFrom, hc] at h
      have hopen : ∀ d ∈ c :: carry, isBlank d = false := List.forall_mem_cons.2 ⟨by simpa using hc, hcarry⟩
      refine ih hopen h fun _ => ⟨by simp, fun d hd => hopen d (List.mem_reverse.1 hd)⟩

theorem mem_words {t word : Text} (h : word ∈ words t) : word ≠ [] ∧ ∀ c ∈ word, isBlank c = false :=
  mem_wordsFrom (by simp) h

/-! ## Cutting at a mark -/

/-- a mark in a text is found, at the latest where it was put -/
theorem exists_splitOnce (mark head tail : Text) :
    ∃ head' tail', splitOnce mark (head ++ mark ++ tail) = some (head', tail') ∧ head'.length ≤ head.length := by
  induction head with
  | nil =>
    cases mark with
    | nil =>
      cases tail with
      | nil => exact ⟨[], [], rfl, le_rfl⟩
      | cons c tail => exact ⟨[], c :: tail, rfl, le_rfl⟩
    | cons m mark =>
      have hafter : after? (m :: mark) (m :: (mark ++ tail)) = some tail := after?_eq_some_iff.2 rfl
      exact ⟨[], tail, by simp [splitOnce, hafter], le_rfl⟩
  | cons c head ih =>
    obtain ⟨head', tail', hsplit, hlen⟩ := ih
    simp only [List.cons_append, splitOnce]
    cases hafter : after? mark (c :: (head ++ mark ++ tail)) with
    | some rest => exact ⟨[], rest, rfl, by simp⟩
    | none => exact ⟨c :: head', tail', by rw [hsplit]; rfl, by simpa using hlen⟩

end Text

namespace RouteLine

/-! ## Identifiers -/

theorem isIdentifierRest_of_isIdentifier {name : Text} (h : isIdentifier name = true) :
    name ≠ [] ∧ ∀ c ∈ name, isIdentifierRest c = true := by
  cases name with
  | nil => cases h
  | cons first rest =>
    simp only [isIdentifier, Bool.and_eq_true, List.all_eq_true] at h
    obtain ⟨hfirst, hrest⟩ := h
    refine ⟨by simp, List.forall_mem_cons.2 ⟨?_, hrest⟩⟩
    simp only [isIdentifierStart, Bool.or_eq_true] at hfirst
    rcases hfirst with (halpha | hscore) | hdollar
    · simp [isIdentifierRest, Text.isAlphanum_iff, halpha]
    · simp [isIdentifierRest, hscore]
    · simp [isIdentifierRest, hdollar]

theorem isBlank_of_isIdentifierRest {c : Char} (h : isIdentifierRest c = true) : Text.isBlank c = false := by
  have hcode : c.toNat = 36 ∨ 48 ≤ c.toNat ∧ c.toNat ≤ 122 := by
    simp only [isIdentifierRest, Text.isAlphanum_iff, Text.isAlpha_iff, Text.isDigit_iff, Bool.or_eq_true,
      decide_eq_true_eq, Char.le_def, UInt32.le_iff_toNat_le] at h
    change ((((65 ≤ c.toNat ∧ c.toNat ≤ 90) ∨ (97 ≤ c.toNat ∧ c.toNat ≤ 122)) ∨ (48 ≤ c.toNat ∧ c.toNat ≤ 57)) ∨
      c = '_') ∨ c = '$' at h
    rcases h with ((hletter | hdigit) | hscore) | hdollar
    · omega
    · omega
    · exact Or.inr (by rw [hscore]; decide)
    · exact Or.inl (by rw [hdollar]; decide)
  by_contra hblank
  simp only [Bool.not_eq_false, Text.isBlank, Char.isWhitespace, Bool.or_eq_true, Bool.and_eq_true, decide_eq_true_eq,
    List.contains_iff_mem, List.mem_cons, List.not_mem_nil, or_false] at hblank
  rcases hblank with (hspace | hlist) | hrange
  · rcases hspace with ((hc | hc) | hc) | hc
    all_goals
      rw [hc] at hcode
      revert hcode
      decide
  · omega
  · omega

theorem isBlank_of_isIdentifier {name : Text} (h : isIdentifier name = true) : ∀ c ∈ name, Text.isBlank c = false :=
  fun c hc => isBlank_of_isIdentifierRest ((isIdentifierRest_of_isIdentifier h).2 c hc)

/-- the name of a method has no blank, in any case of its letters -/
theorem isBlank_of_ofName? {word : Text} {method : Method} (h : Method.ofName? word = some method) :
    word ≠ [] ∧ ∀ c ∈ word, Text.isBlank c = false := by
  have hname : method.name = word.toLower := by simpa using List.find?_some h
  have hall : method.name.all isIdentifierRest = true := by
    cases method <;> decide
  have hletters := List.all_eq_true.1 hall
  refine ⟨?_, fun c hc => ?_⟩
  · intro hnil
    rw [hnil] at hname
    revert hname
    cases method <;> decide
  · by_cases hupper : c.isUpper = true
    · have halpha : c.isAlpha = true := Text.isAlpha_iff.2 (Or.inl (Text.isUpper_iff.1 hupper))
      exact isBlank_of_isIdentifierRest (by simp [isIdentifierRest, Text.isAlphanum_iff, halpha])
    · have hlower : c.toLower = c := Text.toLower_of_not_isUpper hupper
      have hmem : c ∈ method.name := by
        rw [hname, ← hlower]
        exact List.mem_map_of_mem hc
      exact isBlank_of_isIdentifierRest (hletters c hmem)

/-! ## References -/

/-- A delimiter with a character that identifiers cannot have is found between the two identifiers. -/
theorem splitReference_eq {controller action delimiter : Text}
    (htold : ∃ c ∈ delimiter, isIdentifierRest c = false) (hcontroller : isIdentifier controller = true)
    (haction : isIdentifier action = true) :
    splitReference (controller ++ delimiter ++ action) delimiter = some (controller, action) := by
  obtain ⟨head, tail, hsplit, hlen⟩ := Text.exists_splitOnce delimiter controller action
  have hwhole : controller ++ delimiter ++ action = head ++ delimiter ++ tail := Text.eq_of_splitOnce hsplit
  have hletters := (isIdentifierRest_of_isIdentifier hcontroller).2
  -- what is found stands before the delimiter that was written, so it is made of letters of the controller
  have hstart : head <+: controller := by
    have hhead : head <+: controller ++ delimiter ++ action := ⟨delimiter ++ tail, by rw [hwhole, List.append_assoc]⟩
    have hctrl : controller <+: controller ++ delimiter ++ action := ⟨delimiter ++ action, by rw [List.append_assoc]⟩
    exact List.prefix_of_prefix_length_le hhead hctrl hlen
  have hhead : ∀ c ∈ head, isIdentifierRest c = true := fun c hc => hletters c (hstart.subset hc)
  have hrun : ∀ {name rest : Text}, (∀ c ∈ name, isIdentifierRest c = true) →
      (name ++ delimiter ++ rest).takeWhile isIdentifierRest = name ++ delimiter.takeWhile isIdentifierRest := by
    intro name rest hname
    obtain ⟨c, hc, hother⟩ := htold
    have hstop : delimiter.takeWhile isIdentifierRest ≠ delimiter := by
      intro hall
      rw [List.takeWhile_eq_self_iff] at hall
      rw [hall c hc] at hother
      cases hother
    rw [List.append_assoc, List.takeWhile_append_of_pos hname, List.takeWhile_append, if_neg]
    intro hlength
    exact hstop ((List.takeWhile_prefix _).eq_of_length hlength)
  have hsame : head = controller := by
    have hboth : head ++ delimiter.takeWhile isIdentifierRest = controller ++ delimiter.takeWhile isIdentifierRest :=
      calc head ++ delimiter.takeWhile isIdentifierRest
          = (head ++ delimiter ++ tail).takeWhile isIdentifierRest := (hrun hhead).symm
        _ = (controller ++ delimiter ++ action).takeWhile isIdentifierRest := by rw [hwhole]
        _ = controller ++ delimiter.takeWhile isIdentifierRest := hrun hletters
    exact List.append_cancel_right hboth
  subst hsame
  have htail : tail = action := (List.append_cancel_left hwhole).symm
  have hne : delimiter ≠ [] := by
    obtain ⟨c, hc, -⟩ := htold
    exact List.ne_nil_of_mem hc
  rw [splitReference, if_neg hne, hsplit, htail]
  simp [hcontroller, haction]

/-- A delimiter that could be the end of an identifier is found too early in some reference: where the controller ends
with it. -/
theorem exists_splitReference_ne {delimiter : Text} (h : ∀ c ∈ delimiter, isIdentifierRest c = true)
    (hne : delimiter ≠ []) :
    ∃ controller action, isIdentifier controller = true ∧ isIdentifier action = true ∧
      splitReference (controller ++ delimiter ++ action) delimiter ≠ some (controller, action) := by
  refine ⟨'A' :: delimiter, ['b'], ?_, by decide, ?_⟩
  · have hstart : isIdentifierStart 'A' = true := by decide
    simpa [isIdentifier, hstart] using h
  · intro hread
    obtain ⟨head, tail, hsplit, hlen⟩ := Text.exists_splitOnce delimiter ['A'] (delimiter ++ ['b'])
    have hwhole : 'A' :: delimiter ++ delimiter ++ ['b'] = ['A'] ++ delimiter ++ (delimiter ++ ['b']) := by simp
    rw [splitReference, if_neg hne, hwhole, hsplit, Option.filter_eq_some_iff] at hread
    obtain ⟨hfound, -⟩ := hread
    have hhead : head = 'A' :: delimiter := (Prod.mk.inj (Option.some.inj hfound)).1
    have hlonger : 0 < delimiter.length := List.length_pos_iff.2 hne
    rw [hhead] at hlen
    simp only [List.length_cons, List.length_nil] at hlen
    omega

/-! ## Lines -/

theorem read_eq {word token reference delimiter : Text} {method : Method} (hmethod : Method.ofName? word = some method)
    (htoken : token ≠ [] ∧ ∀ c ∈ token, Text.isBlank c = false)
    (hreference : reference ≠ [] ∧ ∀ c ∈ reference, Text.isBlank c = false) :
    read (word ++ ' ' :: (token ++ ' ' :: reference)) delimiter =
      match splitReference reference delimiter with
      | none => .error (.badReference reference delimiter)
      | some (controller, action) => .ok { method, path := token, controller, action, middleware := [] } := by
  obtain ⟨hword, hunblank⟩ := isBlank_of_ofName? hmethod
  have hblank : Text.isBlank ' ' = true := by decide
  have hwords : Text.words (word ++ ' ' :: (token ++ ' ' :: reference)) = [word, token, reference] := by
    calc Text.words (word ++ ' ' :: (token ++ ' ' :: reference))
      _ = Text.words word ++ (Text.words token ++ Text.words reference) := by
        rw [Text.words_append_blank hblank, Text.words_append_blank hblank]
      _ = [word] ++ ([token] ++ [reference]) := by
        rw [Text.words_of_unblank hword hunblank, Text.words_of_unblank htoken.1 htoken.2,
          Text.words_of_unblank hreference.1 hreference.2]
      _ = [word, token, reference] := rfl
  cases hsplit : splitReference reference delimiter with
  | none => simp [read, hwords, hmethod, hsplit]
  | some found => simp [read, hwords, hmethod, hsplit]

end RouteLine

end Switchboard
