/-
Patterns and their written forms.

- `parse_sound`: a pattern that was read has segments, no literal text in them holds a separator or a brace, and every
  capture is named by a word.
- `hostPath_eq_iff`: of such patterns the host's spelling tells all segments.
- `shape_eq_iff`: their shape tells the segments up to the names of captures (`Segment.Alike`).
- `mem_captures`: a capture is recorded under the shape of the path up to it, so that two captures of one pattern are
  never recorded under one shape (`name_unique`), and two patterns that agree on the names of shared shapes
  (`NamesAgree`) have equal segments wherever they are alike (`eq_of_alike`).
-/
import Switchboard.Proofs.Parts
import Switchboard.Route.Line
import Switchboard.Route.Pattern

namespace Switchboard

namespace Segment

/-! ## Segments that a path can hold -/

/-- literal text without separators and braces, captures with a word for a name -/
def Clean : Segment → Prop
  | literal text => ∀ c ∈ text, c ≠ '/' ∧ c ≠ '\x7b' ∧ c ≠ '\x7d'
  | capture name => isWord name = true
  | catchAll name => isWord name = true

/-- equal but for the name of a capture -/
def Alike : Segment → Segment → Prop
  | literal a, literal b => a = b
  | capture _, capture _ => True
  | catchAll _, catchAll _ => True
  | _, _ => False

@[simp] theorem alike_refl (s : Segment) : Alike s s := by
  cases s <;> simp [Alike]

theorem Alike.symm {s t : Segment} (h : Alike s t) : Alike t s := by
  cases s <;> cases t <;> simp_all [Alike]

theorem Alike.trans {s t u : Segment} (hst : Alike s t) (htu : Alike t u) : Alike s u := by
  cases s <;> cases t <;> cases u <;> simp_all [Alike]

theorem Alike.shape {s t : Segment} (h : Alike s t) : s.shape = t.shape := by
  cases s <;> cases t <;> simp_all [Alike, Segment.shape]

theorem Alike.eq_or_named {s t : Segment} (h : Alike s t) :
    s = t ∨ ∃ m n, s.name? = some m ∧ t.name? = some n ∧ (m = n → s = t) := by
  cases s with
  | literal a =>
    cases t with
    | literal b => exact Or.inl (congrArg literal h)
    | capture n => exact h.elim
    | catchAll n => exact h.elim
  | capture m =>
    cases t with
    | literal b => exact h.elim
    | capture n => exact Or.inr ⟨m, n, rfl, rfl, congrArg capture⟩
    | catchAll n => exact h.elim
  | catchAll m =>
    cases t with
    | literal b => exact h.elim
    | capture n => exact h.elim
    | catchAll n => exact Or.inr ⟨m, n, rfl, rfl, congrArg catchAll⟩

theorem map_shape_eq {ss ts : List Segment} (h : List.Forall₂ Alike ss ts) :
    ss.map Segment.shape = ts.map Segment.shape := by
  induction h with
  | nil => rfl
  | cons hst _ ih => simp only [List.map_cons, hst.shape, ih]

theorem not_mem_word {name : Text} (h : isWord name = true) {c : Char} (hc : Text.isWordChar c = false) : c ∉ name := by
  intro hmem
  simp only [isWord, Bool.and_eq_true, List.all_eq_true] at h
  rw [h.2 c hmem] at hc
  exact Bool.noConfusion hc

theorem Clean.sep_not_mem_hostText {s : Segment} (h : s.Clean) : '/' ∉ s.hostText := by
  cases s with
  | literal text => exact fun hmem => (h '/' hmem).1 rfl
  | capture name => simpa using not_mem_word h (by decide : Text.isWordChar '/' = false)
  | catchAll name => simpa using not_mem_word h (by decide : Text.isWordChar '/' = false)

theorem Clean.sep_not_mem_shape {s : Segment} (h : s.Clean) : '/' ∉ s.shape := by
  cases s with
  | literal text => exact fun hmem => (h '/' hmem).1 rfl
  | capture name => simp
  | catchAll name => simp

/-- literal text is never spelled as a capture, which starts with a brace -/
theorem Clean.literal_ne_brace {text rest : Text} (h : (literal text).Clean) : text ≠ '\x7b' :: rest := by
  rintro rfl
  exact (h '\x7b' List.mem_cons_self).2.1 rfl

theorem Clean.hostText_inj {s t : Segment} (hs : s.Clean) (ht : t.Clean) (h : s.hostText = t.hostText) : s = t := by
  have hstar : ∀ {name : Text}, isWord name = true → '*' ∉ name := fun hw => not_mem_word hw (by decide)
  cases s with
  | literal a =>
    cases t with
    | literal b => exact congrArg literal h
    | capture n => exact absurd h hs.literal_ne_brace
    | catchAll n => exact absurd h hs.literal_ne_brace
  | capture m =>
    cases t with
    | literal b => exact absurd h.symm ht.literal_ne_brace
    | capture n => simpa using h
    | catchAll n =>
      -- the name of the capture would begin with the star
      simp only [hostText, List.cons_append, List.nil_append, List.cons.injEq, true_and] at h
      cases m with
      | nil => simp at h
      | cons c m =>
        simp only [List.cons_append, List.cons.injEq] at h
        exact absurd (h.1 ▸ List.mem_cons_self) (hstar hs)
  | catchAll m =>
    cases t with
    | literal b => exact absurd h.symm ht.literal_ne_brace
    | capture n =>
      simp only [hostText, List.cons_append, List.nil_append, List.cons.injEq, true_and] at h
      cases n with
      | nil => simp at h
      | cons c n =>
        simp only [List.cons_append, List.cons.injEq] at h
        exact absurd (h.1 ▸ List.mem_cons_self) (hstar ht)
    | catchAll n => simpa using h

theorem Clean.alike_of_shape {s t : Segment} (hs : s.Clean) (ht : t.Clean) (h : s.shape = t.shape) : Alike s t := by
  cases s with
  | literal a =>
    cases t with
    | literal b => exact h
    | capture n => exact absurd h hs.literal_ne_brace
    | catchAll n => exact absurd h hs.literal_ne_brace
  | capture m =>
    cases t with
    | literal b => exact absurd h.symm ht.literal_ne_brace
    | capture n => trivial
    | catchAll n => simp at h
  | catchAll m =>
    cases t with
    | literal b => exact absurd h.symm ht.literal_ne_brace
    | capture n => simp at h
    | catchAll n => trivial

/-- named segments of equal shape capture in the same way -/
theorem same_kind {s t : Segment} {m n : Text} (hm : s.name? = some m) (hn : t.name? = some n)
    (h : s.shape = t.shape) : (s = .capture m ∧ t = .capture n) ∨ (s = .catchAll m ∧ t = .catchAll n) := by
  cases s with
  | literal a => cases hm
  | capture a =>
    cases hm
    cases t with
    | literal b => cases hn
    | capture b =>
      cases hn
      exact Or.inl ⟨rfl, rfl⟩
    | catchAll b => simp at h
  | catchAll a =>
    cases hm
    cases t with
    | literal b => cases hn
    | capture b => simp at h
    | catchAll b =>
      cases hn
      exact Or.inr ⟨rfl, rfl⟩

/-! ## Reading -/

theorem clean_of_read {isLast : Bool} {text : Text} {segment : Segment} (hsep : '/' ∉ text)
    (h : read isLast text = .ok segment) : segment.Clean := by
  unfold read at h
  split at h
  · cases h
  · rename_i hbrace
    split at h
    · split_ifs at h with hword
      cases h
      exact hword
    · split_ifs at h with hlast hempty hword
      · cases h
        show isWord wildcard = true
        decide
      · cases h
        exact hword
    · cases h
      intro c hc
      have hb : ¬(c = '\x7b' ∨ c = '\x7d') := by
        simp only [List.any_eq_true, Bool.or_eq_true, decide_eq_true_eq, not_exists, not_and] at hbrace
        exact hbrace c hc
      exact ⟨fun he => hsep (he ▸ hc), fun he => hb (Or.inl he), fun he => hb (Or.inr he)⟩

theorem readAll_cons_ok {taken : List Text} {text : Text} {rest : List Text} {segments : List Segment}
    (h : readAll taken (text :: rest) = .ok segments) :
    ∃ segment taken' tail, read rest.isEmpty text = .ok segment ∧ readAll taken' rest = .ok tail ∧
      segments = segment :: tail := by
  simp only [readAll] at h
  split at h
  · cases h
  · rename_i segment hread
    split at h
    · cases htail : readAll taken rest with
      | error e => rw [htail] at h; cases h
      | ok tail =>
        rw [htail] at h
        cases h
        exact ⟨segment, taken, tail, hread, htail, rfl⟩
    · rename_i name _
      split_ifs at h
      cases htail : readAll (name :: taken) rest with
      | error e => rw [htail] at h; cases h
      | ok tail =>
        rw [htail] at h
        cases h
        exact ⟨segment, name :: taken, tail, hread, htail, rfl⟩

theorem clean_of_readAll {taken texts : List Text} {segments : List Segment} (hsep : ∀ text ∈ texts, '/' ∉ text)
    (h : readAll taken texts = .ok segments) : segments.length = texts.length ∧ ∀ s ∈ segments, s.Clean := by
  induction texts generalizing taken segments with
  | nil =>
    cases h
    exact ⟨rfl, fun s hs => absurd hs List.not_mem_nil⟩
  | cons text rest ih =>
    obtain ⟨segment, taken', tail, hread, htail, rfl⟩ := readAll_cons_ok h
    obtain ⟨hlen, hclean⟩ := ih (fun t ht => hsep t (List.mem_cons_of_mem _ ht)) htail
    refine ⟨by simp [hlen], fun s hs => ?_⟩
    rcases List.mem_cons.1 hs with rfl | hs
    · exact clean_of_read (hsep text List.mem_cons_self) hread
    · exact hclean s hs

end Segment

namespace Pattern

/-- a pattern with segments, all of them such as a path can hold -/
structure Sound (p : Pattern) : Prop where
  nonempty : p.segments ≠ []
  clean : ∀ s ∈ p.segments, s.Clean

theorem parse_sound {path : Text} {p : Pattern} (h : parse path = .ok p) : p.path = path ∧ p.Sound := by
  unfold parse at h
  split at h
  · rename_i segments hread
    cases h
    obtain ⟨hlen, hclean⟩ := Segment.clean_of_readAll (fun _ ht => Text.not_mem_of_mem_split ht) hread
    refine ⟨rfl, ?_, hclean⟩
    rintro (hnil : segments = [])
    rw [hnil] at hlen
    exact Text.split_ne_nil '/' path (List.eq_nil_of_length_eq_zero hlen.symm)
  · cases h

/-! ## Written forms -/

/-- forms of sound patterns that are rendered without separators are equal only if every segment's is -/
theorem join_map_inj {p q : Pattern} (hp : p.Sound) (hq : q.Sound) (render : Segment → Text)
    (hsep : ∀ s : Segment, s.Clean → '/' ∉ render s) :
    Text.join ['/'] (p.segments.map render) = Text.join ['/'] (q.segments.map render) ↔
      p.segments.map render = q.segments.map render := by
  refine Text.join_inj (by simpa using hp.nonempty) (by simpa using hq.nonempty) ?_ ?_
  · intro part hpart
    obtain ⟨s, hs, rfl⟩ := List.mem_map.1 hpart
    exact hsep s (hp.clean s hs)
  · intro part hpart
    obtain ⟨s, hs, rfl⟩ := List.mem_map.1 hpart
    exact hsep s (hq.clean s hs)

/-- what equal renderings tell of two clean segments holds of the segments of equally rendered patterns -/
theorem forall₂_of_map_eq {p q : Pattern} (hp : p.Sound) (hq : q.Sound) {render : Segment → Text}
    {R : Segment → Segment → Prop}
    (hrender : ∀ s t : Segment, s.Clean → t.Clean → render s = render t → R s t)
    (h : p.segments.map render = q.segments.map render) : List.Forall₂ R p.segments q.segments := by
  rw [List.forall₂_iff_get]
  refine ⟨by simpa using congrArg List.length h, fun i hi hj => ?_⟩
  refine hrender _ _ (hp.clean _ (List.get_mem _ _)) (hq.clean _ (List.get_mem _ _)) ?_
  have hget : (p.segments.map render)[i]? = (q.segments.map render)[i]? := by rw [h]
  simpa [hi, hj] using hget

/-- The host's spelling of a sound pattern tells its segments. -/
theorem hostPath_eq_iff {p q : Pattern} (hp : p.Sound) (hq : q.Sound) :
    p.hostPath = q.hostPath ↔ p.segments = q.segments := by
  unfold hostPath
  rw [join_map_inj hp hq Segment.hostText fun s hs => hs.sep_not_mem_hostText]
  constructor
  · intro h
    have hall := forall₂_of_map_eq hp hq (fun s t hs ht => hs.hostText_inj ht) h
    rwa [List.forall₂_eq_eq_eq] at hall
  · intro h
    rw [h]

/-- The shape of a sound pattern tells its segments up to the names of captures. -/
theorem shape_eq_iff {p q : Pattern} (hp : p.Sound) (hq : q.Sound) :
    p.shape = q.shape ↔ List.Forall₂ Segment.Alike p.segments q.segments := by
  unfold shape
  rw [join_map_inj hp hq Segment.shape fun s hs => hs.sep_not_mem_shape]
  constructor
  · exact forall₂_of_map_eq hp hq fun s t hs ht => hs.alike_of_shape ht
  · exact Segment.map_shape_eq

/-! ## Captures -/

theorem mem_capturesAfter {before : List Text} {segments : List Segment} {shape name : Text} :
    (shape, name) ∈ capturesAfter before segments ↔
      ∃ ps s rest, segments = ps ++ s :: rest ∧ s.name? = some name ∧
        shape = Text.join ['/'] (before ++ (ps ++ [s]).map Segment.shape) := by
  induction segments generalizing before with
  | nil => simp [capturesAfter]
  | cons segment segments ih =>
    -- the captures of the rest are those with the first segment before them
    have htail : (shape, name) ∈ capturesAfter (before ++ [segment.shape]) segments ↔
        ∃ ps s rest, segments = ps ++ s :: rest ∧ s.name? = some name ∧
          shape = Text.join ['/'] (before ++ (segment :: ps ++ [s]).map Segment.shape) := by
      simp [ih]
    constructor
    · intro h
      have hcases : (segment.name? = some name ∧ shape = Text.join ['/'] (before ++ [segment.shape])) ∨
          (shape, name) ∈ capturesAfter (before ++ [segment.shape]) segments := by
        simp only [capturesAfter] at h
        split at h
        · exact Or.inr h
        · rename_i n hn
          rcases List.mem_cons.1 h with h | h
          · obtain ⟨rfl, rfl⟩ := Prod.mk.inj h
            exact Or.inl ⟨hn, rfl⟩
          · exact Or.inr h
      rcases hcases with ⟨hname, hshape⟩ | h
      · exact ⟨[], segment, segments, rfl, hname, hshape⟩
      · obtain ⟨ps, s, rest, rfl, hname, hshape⟩ := htail.1 h
        exact ⟨segment :: ps, s, rest, rfl, hname, hshape⟩
    · rintro ⟨ps, s, rest, hseg, hname, hshape⟩
      simp only [capturesAfter]
      cases ps with
      | nil =>
        obtain ⟨rfl, rfl⟩ : segment = s ∧ segments = rest := by simpa using hseg
        rw [hname, hshape]
        exact List.mem_cons_self
      | cons q ps =>
        obtain ⟨rfl, hrest⟩ : segment = q ∧ segments = ps ++ s :: rest := by simpa using hseg
        have h := htail.2 ⟨ps, s, rest, hrest, hname, hshape⟩
        split
        · exact h
        · exact List.mem_cons_of_mem _ h

/-- A capture is recorded under the shape of the path up to and including it. -/
theorem mem_captures {p : Pattern} {shape name : Text} :
    (shape, name) ∈ p.captures ↔
      ∃ ps s rest, p.segments = ps ++ s :: rest ∧ s.name? = some name ∧
        shape = Text.join ['/'] ((ps ++ [s]).map Segment.shape) :=
  mem_capturesAfter

theorem Sound.sep_not_mem_upTo {p : Pattern} (hp : p.Sound) {ps rest : List Segment} {s : Segment}
    (hps : p.segments = ps ++ s :: rest) : ∀ part ∈ (ps ++ [s]).map Segment.shape, '/' ∉ part := by
  intro part hpart
  obtain ⟨u, hu, rfl⟩ := List.mem_map.1 hpart
  have hmem : u ∈ ps ++ [s] ++ rest := List.mem_append_left rest hu
  exact (hp.clean u (by simpa [hps] using hmem)).sep_not_mem_shape

/-- captures of sound patterns are recorded under one shape only if the paths up to them are alike -/
theorem shapes_eq_of_join {p q : Pattern} (hp : p.Sound) (hq : q.Sound) {ps qs rest rest' : List Segment}
    {s t : Segment} (hps : p.segments = ps ++ s :: rest) (hqs : q.segments = qs ++ t :: rest')
    (h : Text.join ['/'] ((ps ++ [s]).map Segment.shape) = Text.join ['/'] ((qs ++ [t]).map Segment.shape)) :
    (ps ++ [s]).map Segment.shape = (qs ++ [t]).map Segment.shape :=
  (Text.join_inj (by simp) (by simp) (hp.sep_not_mem_upTo hps) (hq.sep_not_mem_upTo hqs)).1 h

/-- Within a sound pattern a shape belongs to one capture. -/
theorem name_unique {p : Pattern} (hp : p.Sound) {shape m n : Text} (hm : (shape, m) ∈ p.captures)
    (hn : (shape, n) ∈ p.captures) : m = n := by
  obtain ⟨ps, s, rest, hps, hs, rfl⟩ := mem_captures.1 hm
  obtain ⟨qs, t, rest', hqs, ht, hshape⟩ := mem_captures.1 hn
  have hmap := shapes_eq_of_join hp hp hps hqs hshape
  have hlen : ps.length = qs.length := by simpa using congrArg List.length hmap
  have hseg : ps ++ s :: rest = qs ++ t :: rest' := hps.symm.trans hqs
  obtain ⟨rfl, htail⟩ := List.append_inj hseg hlen
  obtain ⟨rfl, -⟩ := List.cons.inj htail
  rw [hs] at ht
  exact Option.some.inj ht

/-- captures recorded under one shape have one name -/
def NamesAgree (p q : Pattern) : Prop :=
  ∀ shape m n, (shape, m) ∈ p.captures → (shape, n) ∈ q.captures → m = n

theorem NamesAgree.symm {p q : Pattern} (h : NamesAgree p q) : NamesAgree q p :=
  fun shape m n hm hn => (h shape n m hn hm).symm

/-- Patterns that agree on names have equal segments as far as they are alike. -/
theorem NamesAgree.eq_of_alike {p q : Pattern} (h : NamesAgree p q) {before ps qs rest rest' : List Segment}
    (hp : p.segments = before ++ ps ++ rest) (hq : q.segments = before ++ qs ++ rest')
    (hall : List.Forall₂ Segment.Alike ps qs) : ps = qs := by
  induction hall generalizing before with
  | nil => rfl
  | @cons s t ps qs hst _ ih =>
    have hkey : Text.join ['/'] ((before ++ [s]).map Segment.shape) =
        Text.join ['/'] ((before ++ [t]).map Segment.shape) := by
      simp only [List.map_append, List.map_cons, List.map_nil, hst.shape]
    have heq : s = t := by
      rcases hst.eq_or_named with heq | ⟨m, n, hm, hn, heq⟩
      · exact heq
      · have hpm := mem_captures.2 ⟨before, s, ps ++ rest, by rw [hp]; simp, hm, rfl⟩
        have hqn := mem_captures.2 ⟨before, t, qs ++ rest', by rw [hq]; simp, hn, hkey⟩
        exact heq (h _ m n hpm hqn)
    subst heq
    have hp' : p.segments = before ++ [s] ++ ps ++ rest := by rw [hp]; simp
    have hq' : q.segments = before ++ [s] ++ qs ++ rest' := by rw [hq]; simp
    rw [ih hp' hq']

end Pattern

end Switchboard
