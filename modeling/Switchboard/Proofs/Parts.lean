/-
Parts of texts: cutting undoes joining.

`Text.join_split` joins the parts of a text to the text again. Here the other way round: parts in which the separator
does not occur are found again in the joined text (`split_join`), so that joined texts are equal only if their parts
are (`join_inj`). A text that is cut once is its two sides with the mark between them (`eq_of_splitOnce`).

The letters and digits that names are made of come first, by their ranges.
-/
import Mathlib.Tactic
import Switchboard.Text.Basic

namespace Switchboard.Text

section Letters

variable {c : Char}

theorem isUpper_iff : c.isUpper = true ↔ 'A' ≤ c ∧ c ≤ 'Z' :=
  decide_eq_true_iff

theorem isLower_iff : c.isLower = true ↔ 'a' ≤ c ∧ c ≤ 'z' :=
  Bool.and_eq_true_iff.trans (and_congr decide_eq_true_iff decide_eq_true_iff)

theorem isDigit_iff : c.isDigit = true ↔ '0' ≤ c ∧ c ≤ '9' :=
  Bool.and_eq_true_iff.trans (and_congr decide_eq_true_iff decide_eq_true_iff)

theorem isAlpha_iff : c.isAlpha = true ↔ ('A' ≤ c ∧ c ≤ 'Z') ∨ ('a' ≤ c ∧ c ≤ 'z') :=
  Bool.or_eq_true_iff.trans (or_congr isUpper_iff isLower_iff)

theorem isAlphanum_iff : c.isAlphanum = true ↔ c.isAlpha = true ∨ c.isDigit = true :=
  Bool.or_eq_true_iff

theorem toLower_of_not_isUpper (h : ¬c.isUpper = true) : c.toLower = c :=
  dif_neg (mt decide_eq_true h)

end Letters

theorem not_mem_of_mem_split {sep : Char} {t part : Text} (h : part ∈ split sep t) : sep ∉ part := by
  induction t generalizing part with
  | nil =>
    simp only [split, List.mem_singleton] at h
    subst h
    exact List.not_mem_nil
  | cons c rest ih =>
    by_cases hc : c = sep
    · simp only [split, hc, ↓reduceIte, List.mem_cons] at h
      rcases h with rfl | h
      · exact List.not_mem_nil
      · exact ih h
    · cases hs : split sep rest with
      | nil => exact absurd hs (split_ne_nil sep rest)
      | cons first parts =>
        simp only [split, hc, hs, ↓reduceIte, List.mem_cons] at h
        rcases h with rfl | h
        · have hfirst : sep ∉ first := ih (by simp [hs])
          simp [Ne.symm hc, hfirst]
        · exact ih (by simp [hs, h])

theorem split_eq_singleton {sep : Char} {part : Text} (h : sep ∉ part) : split sep part = [part] := by
  induction part with
  | nil => rfl
  | cons c rest ih =>
    simp only [List.mem_cons, not_or] at h
    simp [split, Ne.symm h.1, ih h.2]

theorem split_append_sep {sep : Char} {part : Text} (h : sep ∉ part) (rest : Text) :
    split sep (part ++ sep :: rest) = part :: split sep rest := by
  induction part with
  | nil => simp
  | cons c part ih =>
    simp only [List.mem_cons, not_or] at h
    simp [split, Ne.symm h.1, ih h.2]

/-- parts without separators are the parts of the text that they make up -/
theorem split_join {sep : Char} {parts : List Text} (hne : parts ≠ []) (h : ∀ part ∈ parts, sep ∉ part) :
    split sep (join [sep] parts) = parts := by
  induction parts with
  | nil => exact absurd rfl hne
  | cons part parts ih =>
    have hpart : sep ∉ part := h part List.mem_cons_self
    cases parts with
    | nil => exact split_eq_singleton hpart
    | cons next parts =>
      have hrest : split sep (join [sep] (next :: parts)) = next :: parts :=
        ih (List.cons_ne_nil _ _) fun p hp => h p (List.mem_cons_of_mem _ hp)
      have hjoin : join [sep] (part :: next :: parts) = part ++ sep :: join [sep] (next :: parts) := by simp [join]
      rw [hjoin, split_append_sep hpart, hrest]

/-- texts joined from parts without separators are equal only if the parts are -/
theorem join_inj {sep : Char} {ps qs : List Text} (hp : ps ≠ []) (hq : qs ≠ []) (hps : ∀ part ∈ ps, sep ∉ part)
    (hqs : ∀ part ∈ qs, sep ∉ part) : join [sep] ps = join [sep] qs ↔ ps = qs := by
  constructor
  · intro h
    rw [← split_join hp hps, ← split_join hq hqs, h]
  · rintro rfl
    rfl

theorem eq_of_splitOnce {mark t head tail : Text} (h : splitOnce mark t = some (head, tail)) :
    t = head ++ mark ++ tail := by
  induction t generalizing head with
  | nil =>
    simp only [splitOnce] at h
    split_ifs at h with hmark
    cases h
    simp [hmark]
  | cons c rest ih =>
    simp only [splitOnce] at h
    split at h
    · rename_i hafter
      cases h
      simpa using after?_eq_some_iff.1 hafter
    · obtain ⟨⟨head', tail'⟩, hrest, heq⟩ := Option.map_eq_some_iff.1 h
      cases heq
      simp [ih hrest]

end Switchboard.Text
