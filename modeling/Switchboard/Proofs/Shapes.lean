/-
Written forms identify patterns.

The table compares patterns by their shapes, and the host by their spelling. Both are texts. Here they are compared with
the segments, position by position.

- `Pattern.AgreeAt`, `Pattern.Agree`: patterns that are alike at a position, and at all positions of equally many;
- `Pattern.captureAt?`: the name that a position captures under;
- `upTo_eq_iff`: the shapes of two paths up to some positions are equal exactly if it is one position and the patterns
  agree up to it. The shape up to a position is the shape of the pattern cut off there;
- `captures_eq`: captures are recorded position by position;
- `written_forms_identify`: what equal shapes, equal spellings and shared records of captures tell of two patterns.
-/
import Switchboard.Proofs.Verdicts

namespace Switchboard

namespace Pattern

/-- the patterns have alike segments at the position -/
def AgreeAt (p q : Pattern) (i : Nat) : Prop :=
  ∃ s t, p.segments[i]? = some s ∧ q.segments[i]? = some t ∧ s.Alike t

/-- equally many segments, alike at every position -/
structure Agree (p q : Pattern) : Prop where
  length : p.segments.length = q.segments.length
  each : ∀ i < p.segments.length, AgreeAt p q i

def captureAt? (p : Pattern) (i : Nat) : Option Text :=
  p.segments[i]?.bind Segment.name?

theorem lt_of_captureAt? {p : Pattern} {i : Nat} {name : Text} (h : p.captureAt? i = some name) :
    i < p.segments.length := by
  obtain ⟨s, hs, -⟩ := Option.bind_eq_some_iff.1 h
  exact (List.getElem?_eq_some_iff.1 hs).1

theorem AgreeAt.exists_captureAt? {p q : Pattern} {i : Nat} {name : Text} (h : AgreeAt p q i)
    (hname : p.captureAt? i = some name) : ∃ other, q.captureAt? i = some other := by
  obtain ⟨s, t, hs, ht, halike⟩ := h
  simp only [captureAt?, hs, ht, Option.bind_some] at hname ⊢
  rcases halike.eq_or_named with rfl | ⟨m, n, -, hn, -⟩
  · exact ⟨name, hname⟩
  · exact ⟨n, hn⟩

/-! ## Shapes -/

theorem agree_iff {p q : Pattern} : Agree p q ↔ List.Forall₂ Segment.Alike p.segments q.segments := by
  rw [List.forall₂_iff_get]
  constructor
  · rintro ⟨hlength, heach⟩
    refine ⟨hlength, fun i hi hi' => ?_⟩
    obtain ⟨s, t, hs, ht, halike⟩ := heach i hi
    obtain ⟨_, rfl⟩ := List.getElem?_eq_some_iff.1 hs
    obtain ⟨_, rfl⟩ := List.getElem?_eq_some_iff.1 ht
    exact halike
  · rintro ⟨hlength, halike⟩
    refine ⟨hlength, fun i hi => ?_⟩
    have hi' : i < q.segments.length := hlength ▸ hi
    exact ⟨_, _, List.getElem?_eq_getElem hi, List.getElem?_eq_getElem hi', halike i hi hi'⟩

theorem shape_eq_iff_agree {p q : Pattern} (hp : p.Sound) (hq : q.Sound) : p.shape = q.shape ↔ Agree p q := by
  rw [shape_eq_iff hp hq, agree_iff]

def cutAfter (p : Pattern) (i : Nat) : Pattern :=
  { p with segments := p.segments.take (i + 1) }

theorem upTo_eq_shape (p : Pattern) (i : Nat) : p.upTo i = (p.cutAfter i).shape := rfl

theorem Sound.cutAfter {p : Pattern} (hp : p.Sound) (i : Nat) : (p.cutAfter i).Sound where
  nonempty := by simpa [Pattern.cutAfter] using hp.nonempty
  clean := fun s hs => hp.clean s (List.mem_of_mem_take hs)

theorem length_cutAfter {p : Pattern} {i : Nat} (hi : i < p.segments.length) :
    (p.cutAfter i).segments.length = i + 1 := by
  rw [cutAfter, List.length_take, Nat.min_eq_left hi]

theorem agreeAt_cutAfter {p q : Pattern} {i k : Nat} (hk : k ≤ i) :
    AgreeAt (p.cutAfter i) (q.cutAfter i) k ↔ AgreeAt p q k := by
  have hlt : k < i + 1 := Nat.lt_succ_of_le hk
  simp only [AgreeAt, cutAfter, List.getElem?_take, if_pos hlt]

/-- Shapes of the paths up to two positions are equal exactly if it is one position and the patterns agree up to it. -/
theorem upTo_eq_iff {p q : Pattern} (hp : p.Sound) (hq : q.Sound) {i j : Nat} (hi : i < p.segments.length)
    (hj : j < q.segments.length) : p.upTo i = q.upTo j ↔ i = j ∧ ∀ k ≤ i, AgreeAt p q k := by
  rw [upTo_eq_shape, upTo_eq_shape, shape_eq_iff_agree (hp.cutAfter i) (hq.cutAfter j)]
  constructor
  · rintro ⟨hlength, hagree⟩
    rw [length_cutAfter hi] at hlength hagree
    rw [length_cutAfter hj, Nat.succ_inj] at hlength
    subst hlength
    exact ⟨rfl, fun k hk => (agreeAt_cutAfter hk).1 (hagree k (Nat.lt_succ_of_le hk))⟩
  · rintro ⟨rfl, hagree⟩
    refine ⟨(length_cutAfter hi).trans (length_cutAfter hj).symm, fun k hk => ?_⟩
    rw [length_cutAfter hi] at hk
    exact (agreeAt_cutAfter (Nat.le_of_lt_succ hk)).2 (hagree k (Nat.le_of_lt_succ hk))

/-! ## Spellings -/

theorem segments_eq_iff {p q : Pattern} :
    p.segments = q.segments ↔
      Agree p q ∧ ∀ i m n, p.captureAt? i = some m → q.captureAt? i = some n → m = n := by
  constructor
  · intro h
    refine ⟨⟨by rw [h], fun i hi => ?_⟩, fun i m n hm hn => ?_⟩
    · have hget := List.getElem?_eq_getElem hi
      exact ⟨_, _, hget, h ▸ hget, Segment.alike_refl _⟩
    · rw [captureAt?, h] at hm
      exact Option.some.inj (hm.symm.trans hn)
  · rintro ⟨hagree, hnames⟩
    refine List.ext_getElem hagree.length fun i hi hi' => ?_
    obtain ⟨s, t, hs, ht, halike⟩ := hagree.each i hi
    have hst : s = t := by
      rcases halike.eq_or_named with hst | ⟨m, n, hm, hn, hst⟩
      · exact hst
      · exact hst (hnames i m n (by simp [captureAt?, hs, hm]) (by simp [captureAt?, ht, hn]))
    apply Option.some.inj
    rw [← List.getElem?_eq_getElem hi, ← List.getElem?_eq_getElem hi', hs, ht, hst]

/-! ## Records of captures -/

theorem capturesAfter_eq (before : List Text) (segments : List Segment) :
    capturesAfter before segments = (List.range segments.length).filterMap fun i =>
      (segments[i]?.bind Segment.name?).map fun name =>
        (Text.join ['/'] (before ++ (segments.take (i + 1)).map Segment.shape), name) := by
  induction segments generalizing before with
  | nil => rfl
  | cons segment rest ih =>
    rw [capturesAfter, List.length_cons, List.range_succ_eq_map, List.filterMap_cons, List.filterMap_map, ih]
    -- the positions of the rest are one further on, and the first segment stands before each of them
    cases hname : segment.name? with
    | none => simp [hname]
    | some name => simp [hname]

/-- Captures are recorded position by position, each under the shape of the path up to it. -/
theorem captures_eq (p : Pattern) :
    p.captures = (List.range p.segments.length).filterMap fun i => (p.captureAt? i).map fun name => (p.upTo i, name) :=
  capturesAfter_eq [] p.segments

theorem mem_captures_iff {p : Pattern} {shape name : Text} :
    (shape, name) ∈ p.captures ↔ ∃ i, p.captureAt? i = some name ∧ shape = p.upTo i := by
  simp only [captures_eq, List.mem_filterMap, List.mem_range, Option.map_eq_some_iff, Prod.mk.injEq]
  constructor
  · rintro ⟨i, -, name, hname, rfl, rfl⟩
    exact ⟨i, hname, rfl⟩
  · rintro ⟨i, hname, rfl⟩
    exact ⟨i, lt_of_captureAt? hname, name, hname, rfl, rfl⟩

/-- no two captures of a pattern are recorded under one shape -/
theorem Sound.nodup_recorded {p : Pattern} (hp : p.Sound) : (p.captures.map Prod.fst).Nodup := by
  rw [captures_eq, List.map_filterMap]
  refine List.Nodup.filterMap (fun i j shape hi hj => ?_) List.nodup_range
  simp only [Option.map_map, Option.mem_def, Option.map_eq_some_iff, Function.comp_apply] at hi hj
  obtain ⟨m, hm, rfl⟩ := hi
  obtain ⟨n, hn, hshape⟩ := hj
  exact ((upTo_eq_iff hp hp (lt_of_captureAt? hm) (lt_of_captureAt? hn)).1 hshape.symm).1

/-- The other pattern has a capture recorded under the shape of this one exactly if they agree up to it. -/
theorem recorded_iff {p q : Pattern} (hp : p.Sound) (hq : q.Sound) {i : Nat} {name : Text}
    (hname : p.captureAt? i = some name) :
    (∃ other, (p.upTo i, other) ∈ q.captures) ↔ ∀ j ≤ i, AgreeAt p q j := by
  have hi := lt_of_captureAt? hname
  constructor
  · rintro ⟨other, hother⟩
    obtain ⟨j, hj, hshape⟩ := mem_captures_iff.1 hother
    exact ((upTo_eq_iff hp hq hi (lt_of_captureAt? hj)).1 hshape).2
  · intro hagree
    obtain ⟨other, hother⟩ := (hagree i le_rfl).exists_captureAt? hname
    have hshape := (upTo_eq_iff hp hq hi (lt_of_captureAt? hother)).2 ⟨rfl, hagree⟩
    exact ⟨other, mem_captures_iff.2 ⟨i, hother, hshape⟩⟩

/-- **Written forms identify patterns.** Two paths that were read have equal shapes exactly if they have equally many
segments, alike at every position, and equal spellings exactly if their captures also have the same names. Every
capture of a path is recorded once, under the shape of the path up to and including it. No other capture of the path is
recorded under that shape, and one of the other path is exactly if the two agree so far. -/
theorem written_forms_identify {a b : Text} {p q : Pattern} (ha : parse a = .ok p) (hb : parse b = .ok q) :
    (p.shape = q.shape ↔ Agree p q) ∧
    (p.hostPath = q.hostPath ↔
      Agree p q ∧ ∀ i m n, p.captureAt? i = some m → q.captureAt? i = some n → m = n) ∧
    (∀ shape name, (shape, name) ∈ p.captures ↔ ∃ i, p.captureAt? i = some name ∧ shape = p.upTo i) ∧
    (p.captures.map Prod.fst).Nodup ∧
    ∀ i name, p.captureAt? i = some name →
      ((∃ other, (p.upTo i, other) ∈ q.captures) ↔ ∀ j ≤ i, AgreeAt p q j) := by
  have hp : p.Sound := (parse_sound ha).2
  have hq : q.Sound := (parse_sound hb).2
  refine ⟨shape_eq_iff_agree hp hq, ?_, fun _ _ => mem_captures_iff, hp.nodup_recorded, ?_⟩
  · rw [hostPath_eq_iff hp hq, segments_eq_iff]
  · exact fun i name hname => recorded_iff hp hq hname

/-- Paths with an empty segment that share the record of one capture, under two names, and not that of the next, which
is of another kind. -/
theorem written_forms_identify_kinds :
    let p : Pattern :=
      { path := "//:id/*".toList
        segments := [.literal [], .literal [], .capture "id".toList, .catchAll "wildcard".toList] }
    let q : Pattern :=
      { path := "//:key/:rest".toList
        segments := [.literal [], .literal [], .capture "key".toList, .capture "rest".toList] }
    parse "//:id/*".toList = .ok p ∧ parse "//:key/:rest".toList = .ok q ∧ p.shape ≠ q.shape ∧
      p.hostPath ≠ q.hostPath ∧ (p.captures.map Prod.fst).Nodup ∧ p.captures.length = 2 ∧
      (∃ other, (p.upTo 2, other) ∈ q.captures) ∧ ¬∃ other, (p.upTo 3, other) ∈ q.captures := by
  intro p q
  have hp : parse "//:id/*".toList = .ok p := rfl
  have hq : parse "//:key/:rest".toList = .ok q := rfl
  obtain ⟨hshape, hspelling, -, hdistinct, hrecorded⟩ := written_forms_identify hp hq
  have hkinds : ¬AgreeAt p q 3 := by
    rintro ⟨s, t, hs, ht, halike⟩
    cases hs
    cases ht
    exact halike
  have hagree : ∀ j ≤ 2, AgreeAt p q j := by
    intro j hj
    interval_cases j
    · exact ⟨_, _, rfl, rfl, rfl⟩
    · exact ⟨_, _, rfl, rfl, rfl⟩
    · exact ⟨_, _, rfl, rfl, trivial⟩
  refine ⟨hp, hq, fun h => ?_, fun h => ?_, hdistinct, rfl, ?_, fun h => ?_⟩
  · exact hkinds ((hshape.1 h).each 3 (by decide))
  · exact hkinds ((hspelling.1 h).1.each 3 (by decide))
  · exact (hrecorded 2 "id".toList rfl).2 hagree
  · exact hkinds ((hrecorded 3 "wildcard".toList rfl).1 h 3 le_rfl)

end Pattern

end Switchboard
