/-
The grammar of route lines.

Notions, without the functions that read lines:
- `Text.Spaced`: the words of a text, with blanks before, between and after them;
- `RouteLine.Identifier`: a letter, underscore or dollar sign, then these and digits;
- `RouteLine.Refers`: two identifiers with the delimiter between them;
- `RouteLine.Told`: a delimiter that no identifier can hold whole.

Results:
- `Text.spaced_iff`: every text has its words in exactly one way, the one `words` finds;
- `RouteLine.splitReference_eq_some_iff`: under a told delimiter a reference is cut wherever it can be, and in one way
  only (`Refers.unique`);
- `RouteLine.read_accepts`: what is read of a line, and which refusal it gets otherwise.
-/
import Switchboard.Proofs.Lines

namespace Switchboard

namespace Text

/-! ## Words -/

/-- the words of a text in order: none is empty, and each ends where the text does or at a blank -/
inductive Spaced : Text → List Text → Prop
  | blank {blanks : Text} : (∀ c ∈ blanks, isBlank c = true) → Spaced blanks []
  | word {blanks word rest : Text} {words : List Text} : (∀ c ∈ blanks, isBlank c = true) →
      word ≠ [] → (∀ c ∈ word, isBlank c = false) → (∀ c ∈ rest.head?, isBlank c = true) →
      Spaced rest words →
      Spaced (blanks ++ word ++ rest) (word :: words)

theorem words_cons_blank {c : Char} (hc : isBlank c = true) (t : Text) : words (c :: t) = words t := by
  have hcut := words_append_blank hc [] t
  simpa [words, wordsFrom] using hcut

theorem words_blanks_append {blanks : Text} (h : ∀ c ∈ blanks, isBlank c = true) (t : Text) :
    words (blanks ++ t) = words t := by
  induction blanks with
  | nil => rfl
  | cons c blanks ih =>
    obtain ⟨hc, hblanks⟩ := List.forall_mem_cons.1 h
    rw [List.cons_append, words_cons_blank hc, ih hblanks]

theorem words_word_append {word rest : Text} (hne : word ≠ []) (hword : ∀ c ∈ word, isBlank c = false)
    (hrest : ∀ c ∈ rest.head?, isBlank c = true) : words (word ++ rest) = word :: words rest := by
  cases rest with
  | nil =>
    rw [List.append_nil, words_of_unblank hne hword]
    rfl
  | cons c rest =>
    have hc : isBlank c = true := hrest c rfl
    rw [words_append_blank hc, words_of_unblank hne hword, words_cons_blank hc]
    rfl

theorem Spaced.words_eq {t : Text} {ws : List Text} (h : Spaced t ws) : words t = ws := by
  induction h with
  | blank hblanks =>
    have hnone := words_blanks_append hblanks []
    simpa [words, wordsFrom] using hnone
  | word hblanks hne hword hrest _ ih =>
    rw [List.append_assoc, words_blanks_append hblanks, words_word_append hne hword hrest, ih]

theorem Spaced.cons_blank {c : Char} (hc : isBlank c = true) {t : Text} {ws : List Text} (h : Spaced t ws) :
    Spaced (c :: t) ws := by
  cases h with
  | blank hblanks => exact .blank (List.forall_mem_cons.2 ⟨hc, hblanks⟩)
  | @word blanks word rest _ hblanks hne hword hrest hwords =>
    show Spaced ((c :: blanks) ++ word ++ rest) _
    exact .word (List.forall_mem_cons.2 ⟨hc, hblanks⟩) hne hword hrest hwords

/-- A character that is no blank opens a word where a blank or the end follows, and lengthens the first word where that
stands at the start. -/
theorem Spaced.cons_unblank {c : Char} (hc : isBlank c = false) {t : Text} {ws : List Text} (h : Spaced t ws) :
    ∃ words, Spaced (c :: t) words := by
  have hopen : (∀ d ∈ t.head?, isBlank d = true) → Spaced (c :: t) ([c] :: ws) := by
    intro hhead
    show Spaced ([] ++ [c] ++ t) _
    exact .word (by simp) (by simp) (by simpa using hc) hhead h
  cases h with
  | blank hblanks =>
    refine ⟨_, hopen ?_⟩
    intro d hd
    exact hblanks d (List.mem_of_mem_head? hd)
  | @word blanks word rest words hblanks hne hword hrest hwords =>
    cases blanks with
    | nil =>
      refine ⟨(c :: word) :: words, ?_⟩
      show Spaced ([] ++ (c :: word) ++ rest) _
      exact .word (by simp) (by simp) (List.forall_mem_cons.2 ⟨hc, hword⟩) hrest hwords
    | cons b blanks =>
      refine ⟨_, hopen ?_⟩
      intro d hd
      cases hd
      exact hblanks b List.mem_cons_self

theorem exists_spaced (t : Text) : ∃ ws, Spaced t ws := by
  induction t with
  | nil => exact ⟨[], .blank (by simp)⟩
  | cons c t ih =>
    obtain ⟨ws, hws⟩ := ih
    cases hc : isBlank c with
    | true => exact ⟨ws, hws.cons_blank hc⟩
    | false => exact hws.cons_unblank hc

/-- A text has its words in one way, and that is how they are found. -/
theorem spaced_iff {t : Text} {ws : List Text} : Spaced t ws ↔ ws = words t := by
  constructor
  · intro h
    exact h.words_eq.symm
  · intro h
    obtain ⟨found, hfound⟩ := exists_spaced t
    rwa [h, hfound.words_eq]

end Text

namespace RouteLine

/-! ## Identifiers -/

def Opens (c : Char) : Prop :=
  ('A' ≤ c ∧ c ≤ 'Z') ∨ ('a' ≤ c ∧ c ≤ 'z') ∨ c = '_' ∨ c = '$'

/-- a name that starts with a letter, underscore or dollar sign and goes on with these or digits -/
def Identifier (name : Text) : Prop :=
  ∃ first rest, name = first :: rest ∧ Opens first ∧ ∀ c ∈ rest, Opens c ∨ ('0' ≤ c ∧ c ≤ '9')

theorem isIdentifierStart_iff {c : Char} : isIdentifierStart c = true ↔ Opens c := by
  simp only [isIdentifierStart, Opens, Text.isAlpha_iff, Bool.or_eq_true, decide_eq_true_eq, or_assoc]

theorem isIdentifierRest_iff {c : Char} : isIdentifierRest c = true ↔ Opens c ∨ ('0' ≤ c ∧ c ≤ '9') := by
  rw [← isIdentifierStart_iff, ← Text.isDigit_iff]
  simp only [isIdentifierStart, isIdentifierRest, Text.isAlphanum_iff, Bool.or_eq_true, decide_eq_true_eq]
  tauto

theorem isIdentifier_iff {name : Text} : isIdentifier name = true ↔ Identifier name := by
  cases name with
  | nil => simp [isIdentifier, Identifier]
  | cons first rest =>
    simp only [isIdentifier, Identifier, Bool.and_eq_true, List.all_eq_true, isIdentifierStart_iff,
      isIdentifierRest_iff, List.cons.injEq]
    constructor
    · rintro ⟨hfirst, hrest⟩
      exact ⟨first, rest, ⟨rfl, rfl⟩, hfirst, hrest⟩
    · rintro ⟨_, _, ⟨rfl, rfl⟩, hfirst, hrest⟩
      exact ⟨hfirst, hrest⟩

/-! ## References -/

/-- a reference of two identifiers with the delimiter between them -/
structure Refers (reference delimiter controller action : Text) : Prop where
  whole : reference = controller ++ delimiter ++ action
  left : Identifier controller
  right : Identifier action

/-- a delimiter with a character that no identifier holds -/
def Told (delimiter : Text) : Prop :=
  ∃ c ∈ delimiter, ∀ name, Identifier name → c ∉ name

theorem told_iff {delimiter : Text} : Told delimiter ↔ ∃ c ∈ delimiter, isIdentifierRest c = false := by
  constructor
  · rintro ⟨c, hc, hnone⟩
    refine ⟨c, hc, ?_⟩
    -- a character that may go on an identifier is in the one where it follows a letter
    by_contra hrest
    have hname : Identifier ['A', c] := by
      rw [← isIdentifier_iff]
      have hstart : isIdentifierStart 'A' = true := by decide
      simpa [isIdentifier, hstart] using hrest
    exact hnone _ hname (by simp)
  · rintro ⟨c, hc, hother⟩
    refine ⟨c, hc, ?_⟩
    intro name hname hmem
    have hletter := (isIdentifierRest_of_isIdentifier (isIdentifier_iff.2 hname)).2 c hmem
    rw [hother] at hletter
    cases hletter

/-- A told delimiter cuts every reference that has the form. -/
theorem splitReference_eq_some_iff {reference delimiter controller action : Text} (htold : Told delimiter) :
    splitReference reference delimiter = some (controller, action) ↔
      Refers reference delimiter controller action := by
  constructor
  · intro hsplit
    unfold splitReference at hsplit
    split_ifs at hsplit with hnil
    obtain ⟨hfound, hnames⟩ := Option.filter_eq_some_iff.1 hsplit
    simp only [Bool.and_eq_true, isIdentifier_iff] at hnames
    exact ⟨Text.eq_of_splitOnce hfound, hnames.1, hnames.2⟩
  · intro h
    rw [h.whole]
    exact splitReference_eq (told_iff.1 htold) (isIdentifier_iff.2 h.left) (isIdentifier_iff.2 h.right)

theorem Refers.unique {reference delimiter controller action controller' action' : Text} (htold : Told delimiter)
    (h : Refers reference delimiter controller action) (h' : Refers reference delimiter controller' action') :
    controller' = controller ∧ action' = action := by
  have hsplit := (splitReference_eq_some_iff htold).2 h
  rw [(splitReference_eq_some_iff htold).2 h'] at hsplit
  simpa using hsplit

theorem splitReference_eq_none_iff {reference delimiter : Text} (htold : Told delimiter) :
    splitReference reference delimiter = none ↔
      ¬∃ controller action, Refers reference delimiter controller action := by
  rw [Option.eq_none_iff_forall_ne_some]
  simp only [← splitReference_eq_some_iff htold, Prod.forall, not_exists, ne_eq]

/-! ## Lines -/

theorem ofName?_eq_none_iff {word : Text} :
    Method.ofName? word = none ↔ ∀ method : Method, method.name ≠ word.toLower := by
  have hall : ∀ method : Method, method ∈ Method.all := by
    intro method
    cases method <;> decide
  simp [Method.ofName?, List.find?_eq_none, hall]

theorem ofName?_eq_some_iff {word : Text} {method : Method} :
    Method.ofName? word = some method ↔ method.name = word.toLower := by
  constructor
  · intro h
    simpa using List.find?_some h
  · intro h
    rw [Method.ofName?, ← h]
    cases method <;> decide

theorem read_of_words {line word path reference delimiter : Text} {middleware : List Text}
    (hwords : line.words = word :: path :: reference :: middleware) :
    read line delimiter =
      match Method.ofName? word with
      | none => .error (.unsupportedMethod word line)
      | some method =>
        match splitReference reference delimiter with
        | none => .error (.badReference reference delimiter)
        | some (controller, action) => .ok { method, path, controller, action, middleware } := by
  cases hmethod : Method.ofName? word with
  | none => simp only [read, hwords, hmethod]
  | some method =>
    cases hsplit : splitReference reference delimiter with
    | none => simp only [read, hwords, hmethod, hsplit]
    | some found => simp only [read, hwords, hmethod, hsplit]

theorem read_eq_malformed_iff {line delimiter : Text} :
    read line delimiter = .error (.malformed line) ↔ line.words.length < 3 := by
  rcases hwords : line.words with _ | ⟨word, _ | ⟨path, _ | ⟨reference, middleware⟩⟩⟩
  · simp [read, hwords]
  · simp [read, hwords]
  · simp [read, hwords]
  · rw [read_of_words hwords]
    simp only [List.length_cons]
    constructor
    · intro hread
      split at hread
      · cases hread
      · split at hread
        · cases hread
        · cases hread
    · intro hlength
      omega

/-- **The grammar of route lines.** Of the words of a line, fewer than three are refused; then a first word that names
no method; then a third that is no reference. Any other line is read as its words say, and its reference in the one way
there is. -/
theorem read_accepts {delimiter : Text} (htold : Told delimiter) (line : Text) :
    ∃ tokens, (∀ words, Text.Spaced line words ↔ words = tokens) ∧
      (read line delimiter = .error (.malformed line) ↔ tokens.length < 3) ∧
      ∀ word path reference middleware, tokens = word :: path :: reference :: middleware →
        (read line delimiter = .error (.unsupportedMethod word line) ↔
          ∀ method : Method, method.name ≠ word.toLower) ∧
        ∀ method : Method, method.name = word.toLower →
          (read line delimiter = .error (.badReference reference delimiter) ↔
            ¬∃ controller action, Refers reference delimiter controller action) ∧
          ∀ controller action, Refers reference delimiter controller action →
            read line delimiter = .ok { method, path, controller, action, middleware } ∧
            ∀ controller' action', Refers reference delimiter controller' action' →
              controller' = controller ∧ action' = action := by
  refine ⟨line.words, fun words => Text.spaced_iff, read_eq_malformed_iff, ?_⟩
  intro word path reference middleware hwords
  rw [read_of_words hwords]
  constructor
  · rw [← ofName?_eq_none_iff]
    cases hname : Method.ofName? word with
    | none => simp
    | some method =>
      cases hsplit : splitReference reference delimiter with
      | none => simp
      | some found => simp
  · intro method hmethod
    rw [ofName?_eq_some_iff.2 hmethod]
    constructor
    · rw [← splitReference_eq_none_iff htold]
      cases hsplit : splitReference reference delimiter with
      | none => simp
      | some found => simp
    · intro controller action hrefers
      rw [(splitReference_eq_some_iff htold).2 hrefers]
      exact ⟨rfl, fun controller' action' hrefers' => hrefers.unique htold hrefers'⟩

/-- A delimiter that shares its letters with the two identifiers. -/
theorem read_accepts_overlap :
    Told "a-a".toList ∧
      read "Put /x\t Aaa-aab  json ".toList "a-a".toList =
        .ok { method := .put, path := "/x".toList, controller := "Aa".toList, action := "ab".toList,
              middleware := ["json".toList] } := by
  have htold : Told "a-a".toList := told_iff.2 ⟨'-', by decide, by decide⟩
  have hrefers : Refers "Aaa-aab".toList "a-a".toList "Aa".toList "ab".toList :=
    ⟨by decide, isIdentifier_iff.1 (by decide), isIdentifier_iff.1 (by decide)⟩
  obtain ⟨tokens, hwords, -, hread⟩ := read_accepts htold "Put /x\t Aaa-aab  json ".toList
  have htokens : ["Put".toList, "/x".toList, "Aaa-aab".toList, "json".toList] = tokens :=
    (hwords _).1 (Text.spaced_iff.2 (by decide))
  exact ⟨htold, (((hread _ _ _ _ htokens.symm).2 .put (by decide)).2 _ _ hrefers).1⟩

end RouteLine

end Switchboard
