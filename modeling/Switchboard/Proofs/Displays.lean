/-
Displays are read back.

A display is told by its words: the method, the path, the target, and the middleware names with brackets around them
and commas between. Columns only add blanks between words, whatever their width (`words_padRight_append`). A name may
hold commas and brackets of its own, or be empty; it is still told, since one mark before it and one after it belong to
the note (`noted`).

- `Legible`: summaries without blanks in them, and with a path and a target.
- `ofDisplay?` reads a display. `ofDisplay?_display`: it finds the summary that was displayed.
- `display_tells`: the words of a display, that it is read back, and that no two summaries are displayed alike.
-/
import Switchboard.Proofs.Grammar
import Switchboard.Route.Basic

namespace Switchboard

namespace Text

def Unblank (t : Text) : Prop :=
  ∀ c ∈ t, isBlank c = false

instance (t : Text) : Decidable t.Unblank :=
  decidable_of_iff ((t.all fun c => !isBlank c) = true) (by simp [Unblank])

theorem Unblank.append {t t' : Text} (h : Unblank t) (h' : Unblank t') : Unblank (t ++ t') :=
  fun c hc => (List.mem_append.1 hc).elim (h c) (h' c)

theorem words_padRight_append (width : Nat) (t rest : Text) :
    words (padRight width t ++ ' ' :: rest) = words t ++ words rest := by
  have hblank : isBlank ' ' = true := by decide
  have hfilling : ∀ c ∈ List.replicate (width - t.length) ' ', isBlank c = true := fun c hc => by
    rw [List.eq_of_mem_replicate hc, hblank]
  have hswap : padRight width t ++ ' ' :: rest = t ++ ' ' :: (List.replicate (width - t.length) ' ' ++ rest) := by
    rw [padRight, List.append_assoc, List.append_cons, ← List.replicate_succ', List.replicate_succ, List.cons_append]
  rw [hswap, words_append_blank hblank, words_blanks_append hfilling]

end Text

@[simp] theorem Method.ofName?_verb (m : Method) : ofName? m.verb = some m := by
  cases m <;> decide

theorem Method.verb_eq (m : Method) : m.verb = m.name.toUpper := by
  cases m <;> decide

namespace RouteSummary

/-- a summary with a path and a target, and no blank in either or in a middleware name -/
structure Legible (s : RouteSummary) : Prop where
  path : s.path ≠ [] ∧ s.path.Unblank
  target : s.target ≠ [] ∧ s.target.Unblank
  middleware : ∀ name ∈ s.middleware, name.Unblank

instance (s : RouteSummary) : Decidable s.Legible :=
  decidable_of_iff
    ((s.path ≠ [] ∧ s.path.Unblank) ∧ (s.target ≠ [] ∧ s.target.Unblank) ∧ ∀ name ∈ s.middleware, name.Unblank)
    ⟨fun h => ⟨h.1, h.2.1, h.2.2⟩, fun h => ⟨h.path, h.target, h.middleware⟩⟩

/-! ## Notes -/

/-- Names word by word, as they stand in brackets: a comma after each but the last, and the closing bracket after that;
`mark` stands before the first. -/
def noted (mark : Text) : List Text → List Text
  | [] => []
  | [name] => [mark ++ name ++ [']']]
  | name :: next :: names => (mark ++ name ++ [',']) :: noted [] (next :: names)

/-- the names that were noted with `mark` before the first -/
def unnoted? (mark : Text) : List Text → Option (List Text)
  | [] => some []
  | [word] => ((Text.after? mark word).bind (Text.before? [']'])).map ([·])
  | word :: next :: words =>
    ((Text.after? mark word).bind (Text.before? [','])).bind fun name => (unnoted? [] (next :: words)).map (name :: ·)

/-- Whatever the names hold, they are read back. -/
@[simp] theorem unnoted?_noted (mark : Text) (names : List Text) : unnoted? mark (noted mark names) = some names := by
  induction names generalizing mark with
  | nil => rfl
  | cons name names ih =>
    have hread : ∀ last : Text, (Text.after? mark (mark ++ name ++ last)).bind (Text.before? last) = some name := by
      intro last
      have hafter : Text.after? mark (mark ++ name ++ last) = some (name ++ last) :=
        Text.after?_eq_some_iff.2 (List.append_assoc mark name last)
      rw [hafter, Option.bind_some]
      exact Text.before?_eq_some_iff.2 rfl
    cases names with
    | nil => simp only [noted, unnoted?, hread, Option.map_some]
    | cons next names =>
      obtain ⟨word, words, hwords⟩ : ∃ word words, noted [] (next :: names) = word :: words := by
        cases names with
        | nil => exact ⟨_, _, rfl⟩
        | cons other names => exact ⟨_, _, rfl⟩
      have hrest := ih []
      rw [hwords] at hrest
      simp only [noted, unnoted?, hwords, hread, hrest, Option.bind_some, Option.map_some]

/-- The names in brackets are these words. -/
theorem words_note {mark name : Text} {names : List Text} (hmark : mark.Unblank)
    (h : ∀ n ∈ name :: names, n.Unblank) :
    Text.words (mark ++ Text.join ", " (name :: names) ++ [']']) = noted mark (name :: names) := by
  have hclose : Text.Unblank [']'] := by decide
  have hcomma : Text.Unblank [','] := by decide
  induction names generalizing mark name with
  | nil =>
    have hword := (hmark.append (h name (by simp))).append hclose
    exact Text.words_of_unblank (by simp) hword
  | cons next names ih =>
    obtain ⟨hname, hnames⟩ := List.forall_mem_cons.1 h
    have hblank : Text.isBlank ' ' = true := by decide
    have hcut : mark ++ Text.join ", " (name :: next :: names) ++ [']'] =
        (mark ++ name ++ [',']) ++ ' ' :: ([] ++ Text.join ", " (next :: names) ++ [']']) := by
      simp [Text.join]
    rw [hcut, Text.words_append_blank hblank, ih (by decide) hnames,
      Text.words_of_unblank (by simp) ((hmark.append hname).append hcomma)]
    rfl

/-! ## Displays -/

theorem words_display {s : RouteSummary} (h : Legible s) :
    s.display.words = s.method.verb :: s.path :: s.target :: noted ['['] s.middleware := by
  have hverb : s.method.verb.words = [s.method.verb] := by
    obtain ⟨hne, hunblank⟩ := RouteLine.isBlank_of_ofName? (Method.ofName?_verb s.method)
    exact Text.words_of_unblank hne hunblank
  have htarget : Text.words (s.target ++ middlewareNote s.middleware) = s.target :: noted ['['] s.middleware := by
    have hblank : Text.isBlank ' ' = true := by decide
    cases hnames : s.middleware with
    | nil => rw [middlewareNote, List.append_nil, Text.words_of_unblank h.target.1 h.target.2, noted]
    | cons name names =>
      have hnote : middlewareNote (name :: names) = ' ' :: (['['] ++ Text.join ", " (name :: names) ++ [']']) := rfl
      have hopen : Text.Unblank ['['] := by decide
      rw [hnote, Text.words_append_blank hblank, Text.words_of_unblank h.target.1 h.target.2,
        words_note hopen (hnames ▸ h.middleware)]
      rfl
  have hdisplay : s.display = Text.padRight 7 s.method.verb ++
      ' ' :: (Text.padRight 30 s.path ++ ' ' :: (s.target ++ middlewareNote s.middleware)) := by
    simp [display]
  calc s.display.words
      = s.method.verb.words ++ (s.path.words ++ Text.words (s.target ++ middlewareNote s.middleware)) := by
        rw [hdisplay, Text.words_padRight_append, Text.words_padRight_append]
    _ = [s.method.verb] ++ ([s.path] ++ s.target :: noted ['['] s.middleware) := by
        rw [hverb, Text.words_of_unblank h.path.1 h.path.2, htarget]
    _ = s.method.verb :: s.path :: s.target :: noted ['['] s.middleware := rfl

/-- the summary that a display tells of -/
def ofDisplay? (t : Text) : Option RouteSummary :=
  match t.words with
  | verb :: path :: target :: note =>
    (Method.ofName? verb).bind fun method =>
      (unnoted? ['['] note).map fun middleware => { method, path, target, middleware }
  | _ => none

theorem ofDisplay?_display {s : RouteSummary} (h : Legible s) : ofDisplay? s.display = some s := by
  simp only [ofDisplay?, words_display h, Method.ofName?_verb, unnoted?_noted, Option.bind_some, Option.map_some]

/-- **Displays tell summaries.** The display of a legible summary splits into these words: the method in upper case, the
path, the target and the names in their brackets, if there are any. It is read back as the summary, so that the displays
of two legible summaries are equal only if the summaries are. -/
theorem display_tells {s t : RouteSummary} (hs : Legible s) (ht : Legible t) :
    s.display.words = s.method.name.toUpper :: s.path :: s.target :: noted ['['] s.middleware ∧
      ofDisplay? s.display = some s ∧ (s.display = t.display ↔ s = t) := by
  refine ⟨?_, ofDisplay?_display hs, fun h => ?_, congrArg display⟩
  · rw [words_display hs, Method.verb_eq]
  · apply Option.some.inj
    calc some s
        = ofDisplay? s.display := (ofDisplay?_display hs).symm
      _ = ofDisplay? t.display := by rw [h]
      _ = some t := ofDisplay?_display ht

/-- Two notes with the same characters but for where the blank stands, and a name that is empty. -/
theorem display_tells_commas :
    let s : RouteSummary :=
      { method := .get, path := "/users/:id", target := "Users@show", middleware := ["a,", "", "b"] }
    let t : RouteSummary := { s with middleware := ["a", ",", "b"] }
    Legible s ∧ Legible t ∧ ofDisplay? s.display = some s ∧ s.display ≠ t.display := by
  intro s t
  have hs : Legible s := by decide
  have ht : Legible t := by decide
  obtain ⟨-, hread, hequal⟩ := display_tells hs ht
  exact ⟨hs, ht, hread, fun hsame => absurd (hequal.1 hsame) (by decide)⟩

end RouteSummary

end Switchboard
