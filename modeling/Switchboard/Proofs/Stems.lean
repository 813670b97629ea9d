/-
Stems undo the naming of controllers.

A controller is named by words: each with a capital, one after the other, and `Controller` at the end. Its artifact is
named by the same words, in lower case and with underscores between them.

- `foldl_camelCase`: letter by letter, the stem gets the words back. What carries the induction is how the stem written
  so far ends: with a character other than the underscore (`Solid`), so that the next capital is parted from it.
- `camelCase_eq_append_suffix_iff`: words with capitals end with `Controller` exactly where the last of them is
  `controller`.
- `artifactStem_camelCase`: the stem of a name is its words, with `Controller` after them and without, except where the
  last word is itself taken for that; and a stem, of whatever name, is its own stem.
-/
import Mathlib.Data.Char
import Switchboard.Module.Registry
import Switchboard.Proofs.Parts

namespace Switchboard

theorem Text.join_cons {sep : Char} {part : Text} {parts : List Text} :
    join [sep] (part :: parts) = part ++ parts.flatMap (sep :: ·) := by
  induction parts generalizing part with
  | nil => simp [join]
  | cons next parts ih =>
    have hstep : join [sep] (part :: next :: parts) = part ++ sep :: join [sep] (next :: parts) := by simp [join]
    rw [hstep, ih]
    simp

namespace Stem

/-! ## Words -/

/-- a lower-case letter, then lower-case letters and digits -/
def Word (word : Text) : Prop :=
  ∃ first rest, word = first :: rest ∧ ('a' ≤ first ∧ first ≤ 'z') ∧
    ∀ c ∈ rest, ('a' ≤ c ∧ c ≤ 'z') ∨ ('0' ≤ c ∧ c ≤ '9')

def capitalised : Text → Text
  | [] => []
  | first :: rest => first.toUpper :: rest

def camelCase (words : List Text) : Text :=
  words.flatMap capitalised

theorem of_between {lo hi : Char} {P : Char → Prop}
    (h : ∀ n ∈ List.range' lo.toNat (hi.toNat + 1 - lo.toNat), P (Char.ofNat n)) {c : Char} (hlo : lo ≤ c)
    (hhi : c ≤ hi) : P c := by
  have hlow : lo.toNat ≤ c.toNat := hlo
  have hhigh : c.toNat ≤ hi.toNat := hhi
  rw [← Char.ofNat_toNat c]
  refine h _ (List.mem_range'_1.2 ?_)
  omega

/-- a small letter stands behind its capital -/
theorem toUpper_of_isLower {c : Char} (h : c.isLower = true) : c.toUpper.isUpper = true ∧ c.toUpper.toLower = c := by
  obtain ⟨hlo, hhi⟩ := Text.isLower_iff.1 h
  exact of_between (P := fun c => c.toUpper.isUpper = true ∧ c.toUpper.toLower = c) (by decide) hlo hhi

@[simp] theorem isUpper_toLower (c : Char) : c.toLower.isUpper = false := by
  by_cases hupper : c.isUpper = true
  · obtain ⟨hlo, hhi⟩ := Text.isUpper_iff.1 hupper
    exact of_between (P := fun c => c.toLower.isUpper = false) (by decide) hlo hhi
  · rw [Text.toLower_of_not_isUpper hupper]
    simpa using hupper

theorem plain_of_wordChar {c : Char} (h : ('a' ≤ c ∧ c ≤ 'z') ∨ ('0' ≤ c ∧ c ≤ '9')) : c.isUpper = false ∧ c ≠ '_' := by
  rcases h with hletter | hdigit
  · constructor
    · rw [← Bool.not_eq_true, Text.isUpper_iff]
      rintro ⟨-, hupper⟩
      exact absurd (hletter.1.trans hupper) (by decide)
    · rintro rfl
      exact absurd hletter.1 (by decide)
  · constructor
    · rw [← Bool.not_eq_true, Text.isUpper_iff]
      rintro ⟨hupper, -⟩
      exact absurd (hupper.trans hdigit.2) (by decide)
    · rintro rfl
      exact absurd hdigit.2 (by decide)

theorem Word.plain {word : Text} (h : Word word) : ∀ c ∈ word, c.isUpper = false ∧ c ≠ '_' := by
  obtain ⟨first, rest, rfl, hfirst, hrest⟩ := h
  exact List.forall_mem_cons.2 ⟨plain_of_wordChar (.inl hfirst), fun c hc => plain_of_wordChar (hrest c hc)⟩

theorem Word.ne_nil {word : Text} (h : Word word) : word ≠ [] := by
  obtain ⟨first, rest, rfl, -, -⟩ := h
  exact List.cons_ne_nil first rest

/-- A word with a capital is a capital that stands for its first letter, then the word goes on. -/
theorem Word.capitalised_eq {word : Text} (h : Word word) :
    ∃ capital rest, capitalised word = capital :: rest ∧ capital.isUpper = true ∧ word = capital.toLower :: rest := by
  obtain ⟨first, rest, rfl, hfirst, -⟩ := h
  obtain ⟨hcapital, hsmall⟩ := toUpper_of_isLower (Text.isLower_iff.2 hfirst)
  exact ⟨first.toUpper, rest, rfl, hcapital, congrArg (· :: rest) hsmall.symm⟩

/-! ## Stems letter by letter -/

/-- a stem that has begun and does not end with an underscore -/
def Solid (stem : Text) : Prop :=
  stem ≠ [] ∧ stem.getLast? ≠ some '_'

theorem Word.solid {word : Text} (h : Word word) : Solid word :=
  ⟨h.ne_nil, fun hlast => (h.plain '_' (List.mem_of_getLast? hlast)).2 rfl⟩

theorem Solid.append {word : Text} (h : Solid word) (stem : Text) : Solid (stem ++ word) := by
  refine ⟨by simp [h.1], ?_⟩
  rw [List.getLast?_append_of_ne_nil _ h.1]
  exact h.2

/-- without capitals, a text is copied into the stem -/
theorem foldl_of_plain {t : Text} (h : ∀ c ∈ t, c.isUpper = false) (stem : Text) :
    t.foldl stemStep stem = stem ++ t := by
  induction t generalizing stem with
  | nil => simp
  | cons c t ih =>
    obtain ⟨hc, ht⟩ := List.forall_mem_cons.1 h
    have hstep : stemStep stem c = stem ++ [c] := by simp [stemStep, hc]
    rw [List.foldl_cons, hstep, ih ht]
    simp

theorem stemStep_nil {c : Char} (hc : c.isUpper = true) : stemStep [] c = [] ++ [c.toLower] := by
  simp [stemStep, hc]

/-- a further capital is parted from what is there -/
theorem stemStep_of_solid {stem : Text} (h : Solid stem) {c : Char} (hc : c.isUpper = true) :
    stemStep stem c = stem ++ ['_'] ++ [c.toLower] := by
  simp [stemStep, hc, h.1, h.2]

/-- a word is written where its capital is, and after the same mark -/
theorem foldl_capitalised {stem start word : Text}
    (hstart : ∀ c : Char, c.isUpper = true → stemStep stem c = start ++ [c.toLower]) (h : Word word) :
    (capitalised word).foldl stemStep stem = start ++ word := by
  obtain ⟨capital, rest, hcapitalised, hupper, rfl⟩ := h.capitalised_eq
  have hrest : ∀ c ∈ rest, c.isUpper = false := fun c hc => (h.plain c (List.mem_cons_of_mem _ hc)).1
  rw [hcapitalised, List.foldl_cons, hstart capital hupper, foldl_of_plain hrest]
  simp

theorem foldl_camelCase_of_solid {stem : Text} {words : List Text} (hstem : Solid stem)
    (h : ∀ word ∈ words, Word word) : (camelCase words).foldl stemStep stem = stem ++ words.flatMap ('_' :: ·) := by
  induction words generalizing stem with
  | nil => simp [camelCase]
  | cons word words ih =>
    obtain ⟨hword, hwords⟩ := List.forall_mem_cons.1 h
    have hfirst := foldl_capitalised (fun _ => stemStep_of_solid hstem) hword
    calc (camelCase (word :: words)).foldl stemStep stem
        = (camelCase words).foldl stemStep ((capitalised word).foldl stemStep stem) := List.foldl_append
      _ = (camelCase words).foldl stemStep (stem ++ ['_'] ++ word) := by rw [hfirst]
      _ = stem ++ ['_'] ++ word ++ words.flatMap ('_' :: ·) := ih (hword.solid.append _) hwords
      _ = stem ++ (word :: words).flatMap ('_' :: ·) := by simp

/-- Words with capitals are written with underscores between them. -/
theorem foldl_camelCase {words : List Text} (hne : words ≠ []) (h : ∀ word ∈ words, Word word) :
    (camelCase words).foldl stemStep [] = Text.join ['_'] words := by
  obtain ⟨word, words, rfl⟩ := List.exists_cons_of_ne_nil hne
  obtain ⟨hword, hwords⟩ := List.forall_mem_cons.1 h
  calc (camelCase (word :: words)).foldl stemStep []
      = (camelCase words).foldl stemStep ((capitalised word).foldl stemStep []) := List.foldl_append
    _ = (camelCase words).foldl stemStep word := by rw [foldl_capitalised (fun _ => stemStep_nil) hword]; rfl
    _ = word ++ words.flatMap ('_' :: ·) := foldl_camelCase_of_solid hword.solid hwords
    _ = Text.join ['_'] (word :: words) := Text.join_cons.symm

theorem mem_stemStep {stem : Text} {c d : Char} (h : d ∈ stemStep stem c) : d ∈ stem ∨ d.isUpper = false := by
  unfold stemStep at h
  split_ifs at h with hupper hfirst
  · rcases List.mem_append.1 h with h | h
    · exact Or.inl h
    · rw [List.mem_singleton.1 h]
      exact Or.inr (isUpper_toLower c)
  · simp only [List.mem_append, List.mem_cons, List.not_mem_nil, or_false] at h
    rcases h with h | rfl | rfl
    · exact Or.inl h
    · exact Or.inr (by decide)
    · exact Or.inr (isUpper_toLower c)
  · rcases List.mem_append.1 h with h | h
    · exact Or.inl h
    · rw [List.mem_singleton.1 h]
      exact Or.inr (by simpa using hupper)

/-- no capital gets into a stem -/
theorem isUpper_foldl {t stem : Text} (h : ∀ c ∈ stem, c.isUpper = false) :
    ∀ c ∈ t.foldl stemStep stem, c.isUpper = false := by
  induction t generalizing stem with
  | nil => exact h
  | cons c t ih => exact ih fun d hd => (mem_stemStep hd).elim (h d) id

/-! ## The word at the end -/

def suffix : Text :=
  "Controller"

theorem artifactStem_append_suffix {base : Text} (hne : base ≠ []) :
    artifactStem (base ++ suffix) = base.foldl stemStep [] := by
  have hbase : Text.before? "Controller" (base ++ suffix) = some base := Text.before?_eq_some_iff.2 rfl
  obtain ⟨c, base, rfl⟩ := List.exists_cons_of_ne_nil hne
  simp only [artifactStem, hbase]

/-- a name that does not have the suffix, or nothing before it, is its own base -/
theorem artifactStem_of_bare {name : Text} (h : ∀ base, name = base ++ suffix → base = []) :
    artifactStem name = name.foldl stemStep [] := by
  unfold artifactStem
  cases hbase : Text.before? "Controller" name with
  | none => rfl
  | some base =>
    obtain rfl := h base (Text.before?_eq_some_iff.1 hbase)
    rfl

/-- what follows the last capital of a text, and what stands before it, are told by the text -/
theorem eq_of_last_capital {before before' after after' : Text} {c c' : Char} (hc : c.isUpper = true)
    (hc' : c'.isUpper = true) (hafter : ∀ d ∈ after, d.isUpper = false) (hafter' : ∀ d ∈ after', d.isUpper = false)
    (h : before ++ c :: after = before' ++ c' :: after') : before = before' ∧ c = c' ∧ after = after' := by
  have htail : ∀ {before after : Text} {c : Char}, c.isUpper = true → (∀ d ∈ after, d.isUpper = false) →
      (before ++ c :: after).reverse.takeWhile (fun d => !d.isUpper) = after.reverse := by
    intro before after c hc hafter
    have hsplit : (before ++ c :: after).reverse = after.reverse ++ c :: before.reverse := by simp
    rw [hsplit, List.takeWhile_append_of_pos (by simpa using hafter), List.takeWhile_cons_of_neg (by simp [hc]),
      List.append_nil]
  have hsame : after = after' := by
    have hreverse := (htail hc hafter).symm.trans ((congrArg _ (congrArg List.reverse h)).trans (htail hc' hafter'))
    simpa using hreverse
  subst hsame
  rw [List.append_cons, List.append_cons before'] at h
  obtain ⟨hbefore, hcapital⟩ := List.append_inj' (List.append_cancel_right h) rfl
  exact ⟨hbefore, by simpa using hcapital, rfl⟩

@[simp] theorem camelCase_concat (words : List Text) (word : Text) :
    camelCase (words ++ [word]) = camelCase words ++ capitalised word := by
  simp [camelCase]

/-- Words with capitals end with the suffix where the last of them is the word for it. -/
theorem camelCase_eq_append_suffix_iff {words : List Text} (h : ∀ word ∈ words, Word word) {base : Text} :
    camelCase words = base ++ suffix ↔
      ∃ others, words = others ++ [("controller" : Text)] ∧ base = camelCase others := by
  constructor
  · intro heq
    obtain rfl | ⟨others, last, hwords⟩ := words.eq_nil_or_concat
    · exact absurd (List.append_eq_nil_iff.1 heq.symm).2 (by decide)
    · rw [List.concat_eq_append] at hwords
      have hlast : Word last := h last (by simp [hwords])
      obtain ⟨capital, rest, hcapitalised, hupper, hword⟩ := hlast.capitalised_eq
      have hrest : ∀ c ∈ rest, c.isUpper = false := fun c hc => (hlast.plain c (by simp [hword, hc])).1
      have hwhole : camelCase others ++ capital :: rest = base ++ 'C' :: ("ontroller" : Text) := by
        rw [← hcapitalised, ← camelCase_concat, ← hwords, heq]
        rfl
      obtain ⟨hbase, rfl, rfl⟩ := eq_of_last_capital hupper (by decide) hrest (by simp) hwhole
      refine ⟨others, ?_, hbase.symm⟩
      rw [hwords, hword]
      rfl
  · rintro ⟨others, hwords, rfl⟩
    rw [hwords, camelCase_concat]
    rfl

theorem camelCase_ne_nil {words : List Text} (hne : words ≠ []) (h : ∀ word ∈ words, Word word) :
    camelCase words ≠ [] := by
  obtain ⟨word, words, rfl⟩ := List.exists_cons_of_ne_nil hne
  obtain ⟨capital, rest, hcapitalised, -, -⟩ := (h word List.mem_cons_self).capitalised_eq
  simp [camelCase, hcapitalised]

theorem artifactStem_of_plain {name : Text} (h : ∀ c ∈ name, c.isUpper = false) : artifactStem name = name := by
  have hbare : ∀ base, name = base ++ suffix → base = [] := by
    rintro base rfl
    exact absurd (h 'C' (List.mem_append_right base (by decide))) (by decide)
  rw [artifactStem_of_bare hbare, foldl_of_plain h]
  rfl

theorem isUpper_artifactStem {name : Text} : ∀ c ∈ artifactStem name, c.isUpper = false :=
  isUpper_foldl fun _ hc => absurd hc List.not_mem_nil

/-- without the suffix after them, words are undone unless the last of several is taken for it -/
theorem artifactStem_bare_iff {words : List Text} (hne : words ≠ []) (h : ∀ word ∈ words, Word word) :
    artifactStem (camelCase words) = Text.join ['_'] words ↔
      ¬(2 ≤ words.length ∧ words.getLast? = some ("controller" : Text)) := by
  constructor
  · rintro hstem ⟨hlength, hlast⟩
    obtain ⟨others, hwords⟩ := List.getLast?_eq_some_iff.1 hlast
    have hothers : others ≠ [] := by
      rintro rfl
      simp [hwords] at hlength
    have hall : ∀ word ∈ others, Word word := fun word hword => h word (by simp [hwords, hword])
    have hunscored : ∀ ws : List Text, (∀ word ∈ ws, Word word) → ∀ word ∈ ws, '_' ∉ word :=
      fun _ hws word hword hmem => ((hws word hword).plain '_' hmem).2 rfl
    rw [(camelCase_eq_append_suffix_iff h).2 ⟨others, hwords, rfl⟩,
      artifactStem_append_suffix (camelCase_ne_nil hothers hall), foldl_camelCase hothers hall,
      Text.join_inj hothers hne (hunscored others hall) (hunscored words h)] at hstem
    rw [hwords] at hstem
    simp at hstem
  · intro hlast
    rw [artifactStem_of_bare, foldl_camelCase hne h]
    intro base hbase
    obtain ⟨others, hwords, rfl⟩ := (camelCase_eq_append_suffix_iff h).1 hbase
    by_contra hothers
    refine hlast ⟨?_, by simp [hwords]⟩
    have hsome : others ≠ [] := by
      rintro rfl
      exact hothers rfl
    have hpos := List.length_pos_iff.2 hsome
    simp only [hwords, List.length_append, List.length_singleton]
    omega

/-- **Stems undo naming.** The stem of the name that words make is the words with underscores between them; so it is
without `Controller` after them, exactly unless they are several and the last is `controller`, which is taken for it. Of
any name whatsoever, the stem has no capital and is its own stem. -/
theorem artifactStem_camelCase :
    (∀ words : List Text, words ≠ [] → (∀ word ∈ words, Word word) →
        artifactStem (camelCase words ++ ("Controller" : Text)) = Text.join ['_'] words ∧
          (artifactStem (camelCase words) = Text.join ['_'] words ↔
            ¬(2 ≤ words.length ∧ words.getLast? = some ("controller" : Text)))) ∧
      ∀ name, (∀ c ∈ artifactStem name, ¬('A' ≤ c ∧ c ≤ 'Z')) ∧
        artifactStem (artifactStem name) = artifactStem name := by
  refine ⟨fun words hne h => ⟨?_, artifactStem_bare_iff hne h⟩, fun name => ⟨fun c hc hcapital => ?_, ?_⟩⟩
  · calc artifactStem (camelCase words ++ suffix)
        = (camelCase words).foldl stemStep [] := artifactStem_append_suffix (camelCase_ne_nil hne h)
      _ = Text.join ['_'] words := foldl_camelCase hne h
  · have hplain := isUpper_artifactStem c hc
    rw [Text.isUpper_iff.2 hcapital] at hplain
    cases hplain
  · exact artifactStem_of_plain isUpper_artifactStem

/-- The words of `AdminControllerController` and of `AdminController`: the last of them is kept before the suffix, and
taken for it where it ends the name. -/
theorem artifactStem_camelCase_controller :
    let words : List Text := ["admin", "controller"]
    words ≠ [] ∧ (∀ word ∈ words, Word word) ∧
      artifactStem (camelCase words ++ ("Controller" : Text)) = Text.join ['_'] words ∧
      artifactStem (camelCase words) ≠ Text.join ['_'] words ∧
      artifactStem (artifactStem (camelCase words)) = artifactStem (camelCase words) := by
  intro words
  have hne : words ≠ [] := List.cons_ne_nil _ _
  have hwords : ∀ word ∈ words, Word word := by
    refine List.forall_mem_cons.2 ⟨⟨'a', ['d', 'm', 'i', 'n'], rfl, by decide, by simp⟩, ?_⟩
    exact List.forall_mem_singleton.2 ⟨'c', ['o', 'n', 't', 'r', 'o', 'l', 'l', 'e', 'r'], rfl, by decide, by simp⟩
  obtain ⟨hstem, hbare⟩ := artifactStem_camelCase.1 words hne hwords
  exact ⟨hne, hwords, hstem, fun hsame => hbare.1 hsame ⟨by decide, by decide⟩, (artifactStem_camelCase.2 _).2⟩

end Stem

end Switchboard
