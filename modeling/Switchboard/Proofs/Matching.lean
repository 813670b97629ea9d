/-
Which path the host finds for a request.

- `Takes` says when the host lets a path take the segments of a request, and what it captures. It is more lenient than
  the reading that every capture holds some text (`Matches`), since a capture inside a path also takes an empty segment;
  `matches_iff` says that there is no other difference.
- `TriedBefore` is the order in which paths are tried: at the first place where two are not alike, text comes before a
  capture and a capture before a catch-all.
- `follow_some` and `follow_none`: the search finds a path that takes the request if there is one, and no other path
  that takes it is tried before. `locate_some` and `locate_eq_none_iff` say so of the routes of a server.
-/
import Switchboard.Host.Tree
import Switchboard.Proofs.Patterns

namespace Switchboard.Host

/-! ## Paths and requests -/

/-- The path matches: text stands for itself, a capture for a segment that is not empty, a catch-all for a rest that is
not empty. -/
inductive Matches : List Segment → List Text → Prop
  | done : Matches [] []
  | literal (text : Text) {ps parts} : Matches ps parts → Matches (.literal text :: ps) (text :: parts)
  | capture (name : Text) {part ps parts} : part ≠ [] → Matches ps parts →
      Matches (.capture name :: ps) (part :: parts)
  | catchAll (name : Text) {parts} : Text.join ['/'] parts ≠ [] → Matches [.catchAll name] parts

/-- The host lets the path take the segments, capturing these texts: a capture and a catch-all need no more than that
some text or separator is left. -/
inductive Takes : List Segment → List Text → List (Text × Text) → Prop
  | done : Takes [] [] []
  | literal (text : Text) {ps parts caught} : Takes ps parts caught →
      Takes (.literal text :: ps) (text :: parts) caught
  | capture (name : Text) {part ps parts caught} : part :: parts ≠ [[]] → Takes ps parts caught →
      Takes (.capture name :: ps) (part :: parts) ((name, part) :: caught)
  | catchAll (name : Text) {parts} : Text.join ['/'] parts ≠ [] →
      Takes [.catchAll name] parts [(name, Text.join ['/'] parts)]

/-- A path matches exactly if it takes the request and every text that it captures is not empty. -/
theorem matches_iff {ps : List Segment} {parts : List Text} :
    Matches ps parts ↔ ∃ caught, Takes ps parts caught ∧ ∀ entry ∈ caught, entry.2 ≠ [] := by
  constructor
  · intro h
    induction h with
    | done => exact ⟨[], .done, by simp⟩
    | literal text _ ih =>
      obtain ⟨caught, htakes, hcaught⟩ := ih
      exact ⟨caught, .literal text htakes, hcaught⟩
    | @capture name part ps parts hpart _ ih =>
      obtain ⟨caught, htakes, hcaught⟩ := ih
      refine ⟨(name, part) :: caught, .capture name (fun h => hpart (List.cons.inj h).1) htakes, ?_⟩
      exact List.forall_mem_cons.2 ⟨hpart, hcaught⟩
    | catchAll name hrest => exact ⟨_, .catchAll name hrest, by simpa using hrest⟩
  · rintro ⟨caught, h, hcaught⟩
    induction h with
    | done => exact .done
    | literal text _ ih => exact .literal text (ih hcaught)
    | capture name _ _ ih =>
      obtain ⟨hpart, hcaught⟩ := List.forall_mem_cons.1 hcaught
      exact .capture name hpart (ih hcaught)
    | catchAll name hrest => exact .catchAll name hrest

/-! ## The order of trying -/

/-- place of a segment in the order: text, capture, catch-all -/
def rank : Segment → Nat
  | .literal _ => 0
  | .capture _ => 1
  | .catchAll _ => 2

/-- after segments that are alike, the one path has a segment that comes before that of the other -/
inductive TriedBefore : List Segment → List Segment → Prop
  | here {s t : Segment} (ps qs : List Segment) : rank s < rank t → TriedBefore (s :: ps) (t :: qs)
  | past {s t : Segment} {ps qs : List Segment} : s.Alike t → TriedBefore ps qs → TriedBefore (s :: ps) (t :: qs)

/-- the one path is like the other or tried before it -/
def NotAfter (ps qs : List Segment) : Prop :=
  List.Forall₂ Segment.Alike ps qs ∨ TriedBefore ps qs

theorem NotAfter.past {s t : Segment} {ps qs : List Segment} (hst : s.Alike t) (h : NotAfter ps qs) :
    NotAfter (s :: ps) (t :: qs) :=
  h.imp (.cons hst) (.past hst)

theorem rank_eq_of_alike {s t : Segment} (h : s.Alike t) : rank s = rank t := by
  cases s <;> cases t <;> first | rfl | exact h.elim

/-- of two paths only one is tried before the other -/
theorem TriedBefore.asymm {ps qs : List Segment} (h : TriedBefore ps qs) : ¬TriedBefore qs ps := by
  intro h'
  induction h with
  | here ps qs hrank =>
    cases h' with
    | here _ _ hrank' => omega
    | past halike _ => exact absurd (rank_eq_of_alike halike) (by omega)
  | past halike _ ih =>
    cases h' with
    | here _ _ hrank' => exact absurd (rank_eq_of_alike halike) (by omega)
    | past _ h' => exact ih h'

/-! ## The search -/

variable {α : Type}

theorem Trail.literal?_eq_some {text : Text} {trail next : Trail α} :
    trail.literal? text = some next ↔
      ∃ rest, trail.ahead = .literal text :: rest ∧ next = { trail with ahead := rest } := by
  obtain ⟨ahead, captured, goal⟩ := trail
  cases ahead with
  | nil => simp [literal?]
  | cons s rest => cases s <;> simp [literal?, eq_comm]

theorem Trail.capture?_eq_some {text : Text} {trail next : Trail α} :
    trail.capture? text = some next ↔
      ∃ name rest, trail.ahead = .capture name :: rest ∧
        next = { trail with ahead := rest, captured := trail.captured ++ [(name, text)] } := by
  obtain ⟨ahead, captured, goal⟩ := trail
  cases ahead with
  | nil => simp [capture?]
  | cons s rest => cases s <;> simp [capture?, eq_comm]

theorem Trail.rest?_eq_some {text : Text} {trail : Trail α} {found : α × List (Text × Text)} :
    trail.rest? text = some found ↔
      ∃ name, trail.ahead = [.catchAll name] ∧ found = (trail.goal, trail.captured ++ [(name, text)]) := by
  obtain ⟨ahead, captured, goal⟩ := trail
  cases ahead with
  | nil => simp [rest?]
  | cons s rest =>
    cases s with
    | literal t => simp [rest?]
    | capture n => simp [rest?]
    | catchAll n => cases rest <;> simp [rest?, eq_comm]

theorem Trail.goal?_eq_some {trail : Trail α} {found : α × List (Text × Text)} :
    trail.goal? = some found ↔ trail.ahead = [] ∧ found = (trail.goal, trail.captured) := by
  obtain ⟨ahead, captured, goal⟩ := trail
  cases ahead <;> simp [goal?, eq_comm]

theorem Trail.mem_literal? {trails : List (Trail α)} {trail : Trail α} {text : Text} {rest : List Segment}
    (hmem : trail ∈ trails) (hahead : trail.ahead = .literal text :: rest) :
    { trail with ahead := rest } ∈ trails.filterMap (Trail.literal? text) :=
  List.mem_filterMap.2 ⟨trail, hmem, literal?_eq_some.2 ⟨rest, hahead, rfl⟩⟩

theorem Trail.mem_capture? {trails : List (Trail α)} {trail : Trail α} (text : Text) {name : Text}
    {rest : List Segment} (hmem : trail ∈ trails) (hahead : trail.ahead = .capture name :: rest) :
    { trail with ahead := rest, captured := trail.captured ++ [(name, text)] } ∈
      trails.filterMap (Trail.capture? text) :=
  List.mem_filterMap.2 ⟨trail, hmem, capture?_eq_some.2 ⟨name, rest, hahead, rfl⟩⟩

@[simp] theorem follow_nil (trails : List (Trail α)) : follow trails [] = trails.findSome? Trail.goal? := by
  cases trails <;> rfl

/-- the three ways past a segment, each tried when those before it lead nowhere -/
theorem follow_cons (trails : List (Trail α)) (part : Text) (parts : List Text) :
    follow trails (part :: parts) =
      ((follow (trails.filterMap (Trail.literal? part)) parts).or
        (if part :: parts = [[]] then none else follow (trails.filterMap (Trail.capture? part)) parts)).or
        (if Text.join ['/'] (part :: parts) = [] then none
          else trails.findSome? (Trail.rest? (Text.join ['/'] (part :: parts)))) := by
  cases trails with
  | nil => cases parts <;> simp [follow]
  | cons trail trails =>
    simp only [follow]
    cases follow ((trail :: trails).filterMap (Trail.literal? part)) parts with
    | some found => rfl
    | none =>
      cases if part :: parts = [[]] then none else follow ((trail :: trails).filterMap (Trail.capture? part)) parts with
      | some found => rfl
      | none => rfl

/-- A search without a find leaves no path that takes the request. -/
theorem follow_none {trails : List (Trail α)} {parts : List Text} (h : follow trails parts = none) :
    ∀ trail ∈ trails, ∀ caught, ¬Takes trail.ahead parts caught := by
  induction parts generalizing trails with
  | nil =>
    intro trail htrail caught htakes
    rw [follow_nil, List.findSome?_eq_none_iff] at h
    generalize hahead : trail.ahead = ahead at htakes
    cases htakes with
    | done =>
      have hgoal := Trail.goal?_eq_some.2 ⟨hahead, rfl⟩
      rw [h trail htrail] at hgoal
      cases hgoal
    | catchAll name hrest => exact hrest rfl
  | cons part parts ih =>
    intro trail htrail caught htakes
    rw [follow_cons, Option.or_eq_none_iff, Option.or_eq_none_iff] at h
    obtain ⟨⟨hliteral, hcapture⟩, hcatchAll⟩ := h
    generalize hahead : trail.ahead = ahead at htakes
    cases htakes with
    | literal _ htail => exact ih hliteral _ (Trail.mem_literal? htrail hahead) _ htail
    | capture name hleft htail =>
      rw [if_neg hleft] at hcapture
      exact ih hcapture _ (Trail.mem_capture? part htrail hahead) _ htail
    | catchAll name hrest =>
      rw [if_neg hrest, List.findSome?_eq_none_iff] at hcatchAll
      have hnone := hcatchAll trail htrail
      rw [Trail.rest?_eq_some.2 ⟨name, hahead, rfl⟩] at hnone
      cases hnone

/-- a trail with this goal takes the request, and none that takes it is tried before -/
def Finds (trails : List (Trail α)) (parts : List Text) (goal : α) (captured : List (Text × Text)) : Prop :=
  ∃ top ∈ trails, top.goal = goal ∧
    (∃ caught, captured = top.captured ++ caught ∧ Takes top.ahead parts caught) ∧
    ∀ other ∈ trails, ∀ caught, Takes other.ahead parts caught → NotAfter top.ahead other.ahead

section Finds

variable {trails : List (Trail α)} {part : Text} {parts : List Text} {goal : α} {captured : List (Text × Text)}

/-- past text, every other way past the segment is tried later -/
theorem Finds.past_literal (h : Finds (trails.filterMap (Trail.literal? part)) parts goal captured) :
    Finds trails (part :: parts) goal captured := by
  obtain ⟨next, hnext, hgoal, ⟨caught, hcaptured, htakes⟩, hfirst⟩ := h
  obtain ⟨top, htop, hstep⟩ := List.mem_filterMap.1 hnext
  obtain ⟨rest, hahead, rfl⟩ := Trail.literal?_eq_some.1 hstep
  refine ⟨top, htop, hgoal, ⟨caught, hcaptured, hahead ▸ .literal part htakes⟩, ?_⟩
  intro other hother caught' htakes'
  rw [hahead]
  generalize hother' : other.ahead = ahead at htakes'
  cases htakes' with
  | literal _ htail => exact .past rfl (hfirst _ (Trail.mem_literal? hother hother') _ htail)
  | capture name _ _ => exact Or.inr (.here _ _ (by simp [rank]))
  | catchAll name _ => exact Or.inr (.here _ _ (by simp [rank]))

/-- past a capture, if no trail with the text takes the request -/
theorem Finds.past_capture (hleft : part :: parts ≠ [[]])
    (hliteral : follow (trails.filterMap (Trail.literal? part)) parts = none)
    (h : Finds (trails.filterMap (Trail.capture? part)) parts goal captured) :
    Finds trails (part :: parts) goal captured := by
  obtain ⟨next, hnext, hgoal, ⟨caught, hcaptured, htakes⟩, hfirst⟩ := h
  obtain ⟨top, htop, hstep⟩ := List.mem_filterMap.1 hnext
  obtain ⟨name, rest, hahead, rfl⟩ := Trail.capture?_eq_some.1 hstep
  refine ⟨top, htop, hgoal, ⟨(name, part) :: caught, ?_, hahead ▸ .capture name hleft htakes⟩, ?_⟩
  · simpa using hcaptured
  · intro other hother caught' htakes'
    rw [hahead]
    generalize hother' : other.ahead = ahead at htakes'
    cases htakes' with
    | literal _ htail => exact absurd htail (follow_none hliteral _ (Trail.mem_literal? hother hother') _)
    | capture name' _ htail => exact .past trivial (hfirst _ (Trail.mem_capture? part hother hother') _ htail)
    | catchAll name' _ => exact Or.inr (.here _ _ (by simp [rank]))

theorem finds_catchAll (hrest : Text.join ['/'] (part :: parts) ≠ [])
    (hliteral : follow (trails.filterMap (Trail.literal? part)) parts = none)
    (hcapture : (if part :: parts = [[]] then none
      else follow (trails.filterMap (Trail.capture? part)) parts) = none)
    (h : trails.findSome? (Trail.rest? (Text.join ['/'] (part :: parts))) = some (goal, captured)) :
    Finds trails (part :: parts) goal captured := by
  obtain ⟨top, htop, hfound⟩ := List.exists_of_findSome?_eq_some h
  obtain ⟨name, hahead, hpair⟩ := Trail.rest?_eq_some.1 hfound
  cases hpair
  refine ⟨top, htop, rfl, ⟨_, rfl, hahead ▸ .catchAll name hrest⟩, ?_⟩
  intro other hother caught' htakes'
  rw [hahead]
  generalize hother' : other.ahead = ahead at htakes'
  cases htakes' with
  | literal _ htail => exact absurd htail (follow_none hliteral _ (Trail.mem_literal? hother hother') _)
  | capture name' hleft htail =>
    rw [if_neg hleft] at hcapture
    exact absurd htail (follow_none hcapture _ (Trail.mem_capture? part hother hother') _)
  | catchAll name' _ => exact Or.inl (.cons trivial .nil)

end Finds

/-- What the search finds takes the request, and no path that takes it is tried before. -/
theorem follow_some {trails : List (Trail α)} {parts : List Text} {goal : α} {captured : List (Text × Text)}
    (h : follow trails parts = some (goal, captured)) : Finds trails parts goal captured := by
  induction parts generalizing trails with
  | nil =>
    rw [follow_nil] at h
    obtain ⟨top, htop, hgoal⟩ := List.exists_of_findSome?_eq_some h
    obtain ⟨hahead, hfound⟩ := Trail.goal?_eq_some.1 hgoal
    cases hfound
    refine ⟨top, htop, rfl, ⟨[], by simp, hahead ▸ .done⟩, fun other _ caught htakes => ?_⟩
    rw [hahead]
    generalize other.ahead = ahead at htakes
    cases htakes with
    | done => exact Or.inl .nil
    | catchAll name hrest => exact absurd rfl hrest
  | cons part parts ih =>
    rw [follow_cons, Option.or_eq_some_iff, Option.or_eq_some_iff] at h
    rcases h with (hliteral | ⟨hliteral, hcapture⟩) | ⟨hneither, hcatchAll⟩
    · exact (ih hliteral).past_literal
    · split_ifs at hcapture with hleft
      exact (ih hcapture).past_capture hleft hliteral
    · obtain ⟨hliteral, hcapture⟩ := Option.or_eq_none_iff.1 hneither
      split_ifs at hcatchAll with hrest
      exact finds_catchAll hrest hliteral hcapture hcatchAll

/-! ## The route that is found -/

variable {ι ω : Type} {routes : List (Route ι ω)} {path : Text}

theorem locate_some {route : Route ι ω} {captured : List (Text × Text)}
    (h : locate routes path = some (route, captured)) :
    route ∈ routes ∧ Takes route.pattern.segments (path.split '/') captured ∧
      ∀ other ∈ routes, ∀ caught, Takes other.pattern.segments (path.split '/') caught →
        NotAfter route.pattern.segments other.pattern.segments := by
  obtain ⟨top, htop, rfl, ⟨caught, hcaptured, htakes⟩, hfirst⟩ := follow_some h
  obtain ⟨route, hroute, rfl⟩ := List.mem_map.1 htop
  obtain rfl : captured = caught := by simpa using hcaptured
  exact ⟨hroute, htakes, fun other hother => hfirst _ (List.mem_map.2 ⟨other, hother, rfl⟩)⟩

/-- No route is found exactly if none takes the path. -/
theorem locate_eq_none_iff :
    locate routes path = none ↔ ∀ route ∈ routes, ∀ caught, ¬Takes route.pattern.segments (path.split '/') caught := by
  constructor
  · intro h route hroute
    exact follow_none h _ (List.mem_map.2 ⟨route, hroute, rfl⟩)
  · intro h
    cases hfound : locate routes path with
    | none => rfl
    | some found =>
      obtain ⟨hroute, htakes, -⟩ := locate_some hfound
      exact absurd htakes (h _ hroute _)

end Switchboard.Host
