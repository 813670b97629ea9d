/-
Paths composed under a mount path without captures.

- `Path.split_compose`: the parts of a composed path are those of the mount path and of the route's path that are not
  empty, if the route's path does not end with a separator.
- `Pattern.segments_of_compose`: where the mount path captures nothing, its parts are literal text.
- `takes_literals_iff`, `takes_one_iff`: which requests such a path takes, alone and with one capture after it.
-/
import Switchboard.Proofs.Captured
import Switchboard.Proofs.Concatenation

namespace Switchboard

namespace Path

/-- Under a mount path, a path that does not end with a separator has the parts of both. -/
theorem split_compose {mount raw : Text} (hlast : (raw.split '/').getLast? ≠ some []) :
    Text.split '/' (compose mount raw) = [] :: (parts mount ++ parts raw) := by
  have hcomposed := concatenates_compose mount raw
  have hopen : (compose mount raw).getLast? ≠ some '/' := by
    rw [Ne, hcomposed.ended, ← Text.getLast?_split_eq_nil_iff]
    exact hlast
  rw [hcomposed.toNormal.split_eq, if_neg hopen, hcomposed.listed, List.append_nil]

end Path

/-! ## Patterns under a mount path -/

namespace Segment

/-- what captures nothing is literal text wherever something follows it -/
theorem literal_of_read {text : Text} {segment : Segment} (hnone : captured? text = none)
    (h : read false text = .ok segment) : segment = .literal text := by
  unfold read at h
  split at h
  · cases h
  · split at h
    · cases hnone
    · cases h
    · cases h
      rfl

theorem readAll_append {taken texts rest : List Text} {segments : List Segment}
    (hnone : ∀ text ∈ texts, captured? text = none) (hrest : rest ≠ [])
    (h : readAll taken (texts ++ rest) = .ok segments) :
    ∃ tail, readAll taken rest = .ok tail ∧ segments = texts.map .literal ++ tail := by
  induction texts generalizing segments with
  | nil => exact ⟨segments, h, rfl⟩
  | cons text texts ih =>
    obtain ⟨htext, htexts⟩ := List.forall_mem_cons.1 hnone
    have hmore : (texts ++ rest).isEmpty = false := by simp [hrest]
    simp only [List.cons_append, readAll, hmore] at h
    cases hread : read false text with
    | error fault =>
      rw [hread] at h
      cases h
    | ok segment =>
      obtain rfl := literal_of_read htext hread
      rw [hread] at h
      simp only [name?] at h
      cases htail : readAll taken (texts ++ rest) with
      | error fault =>
        rw [htail] at h
        cases h
      | ok others =>
        rw [htail] at h
        cases h
        obtain ⟨tail, hlast, rfl⟩ := ih htexts htail
        exact ⟨tail, hlast, rfl⟩

end Segment

/-- Under a mount path that captures nothing, a pattern is literal text and then what the route's own parts read as. -/
theorem Pattern.segments_of_compose {mount raw : Text} {pattern : Pattern}
    (hmount : ∀ part ∈ mount.split '/', Segment.captured? part = none)
    (hlast : (raw.split '/').getLast? ≠ some []) (hraw : Path.parts raw ≠ [])
    (h : Pattern.parse (Path.compose mount raw) = .ok pattern) :
    ∃ tail, Segment.readAll [] (Path.parts raw) = .ok tail ∧
      pattern.segments = ([] :: Path.parts mount).map .literal ++ tail := by
  unfold Pattern.parse at h
  rw [Path.split_compose hlast, ← List.cons_append] at h
  split at h
  · rename_i segments hread
    cases h
    refine Segment.readAll_append ?_ hraw hread
    refine List.forall_mem_cons.2 ⟨rfl, fun part hpart => ?_⟩
    exact hmount part (List.mem_filter.1 hpart).1
  · cases h

/-! ## Requests that such a path takes -/

namespace Host

theorem takes_literals_iff {texts parts : List Text} {captured : List (Text × Text)} :
    Takes (texts.map .literal) parts captured ↔ parts = texts ∧ captured = [] := by
  induction texts generalizing parts captured with
  | nil =>
    constructor
    · intro h
      cases h
      exact ⟨rfl, rfl⟩
    · rintro ⟨rfl, rfl⟩
      exact .done
  | cons text texts ih =>
    constructor
    · intro h
      cases h with
      | literal _ hrest =>
        obtain ⟨rfl, rfl⟩ := ih.1 hrest
        exact ⟨rfl, rfl⟩
    · rintro ⟨rfl, rfl⟩
      exact .literal text (ih.2 ⟨rfl, rfl⟩)

/-- with a capture at the end, one part more is taken, which is not empty -/
theorem takes_one_iff {texts parts : List Text} {name : Text} {captured : List (Text × Text)} :
    Takes (texts.map .literal ++ [.capture name]) parts captured ↔
      ∃ raw, raw ≠ [] ∧ parts = texts ++ [raw] ∧ captured = [(name, raw)] := by
  induction texts generalizing parts with
  | nil =>
    constructor
    · intro h
      cases h with
      | @capture _ part _ parts _ hne hrest =>
        cases hrest
        exact ⟨part, by simpa using hne, rfl, rfl⟩
    · rintro ⟨raw, hraw, rfl, rfl⟩
      exact .capture name (by simpa using hraw) .done
  | cons text texts ih =>
    constructor
    · intro h
      cases h with
      | literal _ hrest =>
        obtain ⟨raw, hraw, rfl, rfl⟩ := ih.1 hrest
        exact ⟨raw, hraw, rfl, rfl⟩
    · rintro ⟨raw, hraw, rfl, rfl⟩
      exact .literal text (ih.2 ⟨raw, hraw, rfl, rfl⟩)

end Host

end Switchboard
