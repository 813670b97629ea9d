/-
Composing paths is concatenating their parts.

The parts of a path are what stands between its separators and is not empty. A path that starts at the root and doubles
no separator is told by two things alone: its parts, and whether it ends with a separator (`Normal.eq_of_parts`). So a
composed path is told by them too:

- `Concatenates`: what a path under a mount path is, without the function that composes it. It has the parts of both,
  those of the mount path first, and its end is that of the path below.
- `concatenates_compose`: composed paths are that. Collapsing keeps the parts and the last of them.
- `compose_concatenates`: nothing else is, so that mount paths compose, and composed paths stay as they are.
-/
import Switchboard.Proofs.Coherence
import Switchboard.Proofs.Usability

namespace Switchboard

/-! ## Ends and doubled separators -/

namespace Text

theorem join_append {sep : Text} {as bs : List Text} (has : as ≠ []) (hbs : bs ≠ []) :
    join sep (as ++ bs) = join sep as ++ sep ++ join sep bs := by
  induction as with
  | nil => exact absurd rfl has
  | cons a as ih =>
    cases as with
    | nil =>
      obtain ⟨b, bs, rfl⟩ := List.exists_cons_of_ne_nil hbs
      rfl
    | cons a' as =>
      have hrest := ih (by simp)
      simp only [List.cons_append, join] at hrest ⊢
      rw [hrest]
      simp

/-- A separator is doubled where an empty part stands between others. -/
theorem doubled_iff {sep : Char} {t : Text} :
    [sep, sep] <:+: t ↔ ∃ before after, before ≠ [] ∧ after ≠ [] ∧ split sep t = before ++ [] :: after := by
  constructor
  · rintro ⟨before, after, rfl⟩
    refine ⟨split sep before, split sep after, split_ne_nil sep before, split_ne_nil sep after, ?_⟩
    have hnil : split sep ([] ++ sep :: after) = [] :: split sep after := split_append_sep (by simp) after
    rw [← hnil, ← split_append]
    simp
  · rintro ⟨before, after, hbefore, hafter, hsplit⟩
    have hinner : join [sep] ([] :: after) = sep :: join [sep] after := by
      obtain ⟨part, after, rfl⟩ := List.exists_cons_of_ne_nil hafter
      rfl
    refine ⟨join [sep] before, join [sep] after, ?_⟩
    rw [← join_split sep t, hsplit, join_append hbefore (by simp), hinner]
    simp

/-- The last part is empty where the text is empty or ends with a separator. -/
theorem getLast?_split_eq_nil_iff {sep : Char} {t : Text} :
    (split sep t).getLast? = some [] ↔ t = [] ∨ t.getLast? = some sep := by
  constructor
  · intro h
    obtain ⟨parts, hparts⟩ := List.getLast?_eq_some_iff.1 h
    have ht : t = join [sep] (parts ++ [[]]) := by rw [← hparts, join_split]
    by_cases hnil : parts = []
    · left
      rw [ht, hnil]
      rfl
    · right
      rw [ht, join_append hnil (by simp)]
      simp [join]
  · rintro (rfl | h)
    · rfl
    · obtain ⟨before, rfl⟩ := List.getLast?_eq_some_iff.1 h
      rw [split_append]
      simp [split]

end Text

namespace Path

/-- the parts of a path that are not empty -/
def parts (t : Text) : List Text :=
  (t.split '/').filter (· ≠ [])

theorem ne_nil_of_mem_parts {t part : Text} (h : part ∈ parts t) : part ≠ [] := by
  simpa using (List.mem_filter.1 h).2

/-! ## Normal paths -/

/-- a path that starts at the root and has no two separators in a row -/
structure Normal (path : Text) : Prop where
  rooted : path.head? = some '/'
  single : ¬['/', '/'] <:+: path

/-- Between the root and the end, the parts of a normal path are not empty. -/
theorem Normal.split_eq {path : Text} (h : Normal path) :
    path.split '/' = [] :: (parts path ++ if path.getLast? = some '/' then [[]] else []) := by
  obtain ⟨tail, rfl⟩ := List.head?_eq_some_iff.1 h.rooted
  have hsplit : Text.split '/' ('/' :: tail) = [] :: Text.split '/' tail := Text.split_cons_self '/' tail
  have hend : (Text.split '/' tail).getLast? = some [] ↔ ('/' :: tail).getLast? = some '/' := by
    have hall : (Text.split '/' ('/' :: tail)).getLast? = some [] ↔ _ := Text.getLast?_split_eq_nil_iff
    rw [hsplit, List.getLast?_cons_of_ne_nil (Text.split_ne_nil '/' tail)] at hall
    simpa using hall
  obtain ⟨inner, last, htail⟩ := (List.eq_nil_or_concat (Text.split '/' tail)).resolve_left (Text.split_ne_nil '/' tail)
  rw [List.concat_eq_append] at htail
  rw [htail, List.getLast?_concat, Option.some.injEq] at hend
  have hinner : ∀ part ∈ inner, part ≠ [] := by
    rintro _ hpart rfl
    obtain ⟨before, after, rfl⟩ := List.append_of_mem hpart
    refine h.single (Text.doubled_iff.2 ⟨[] :: before, after ++ [last], by simp, by simp, ?_⟩)
    rw [hsplit, htail]
    simp
  have hparts : parts ('/' :: tail) = inner ++ [last].filter (· ≠ []) := by
    rw [parts, hsplit, htail, List.filter_cons_of_neg (by simp), List.filter_append,
      List.filter_eq_self.2 (by simpa using hinner)]
  rw [hsplit, htail, hparts]
  by_cases hlast : last = []
  · rw [if_pos (hend.1 hlast), hlast]
    simp
  · rw [if_neg fun hsep => hlast (hend.2 hsep)]
    simp [hlast]

/-- A normal path is told by its parts and its end. -/
theorem Normal.eq_of_parts {path path' : Text} (h : Normal path) (h' : Normal path') (hparts : parts path = parts path')
    (hend : path.getLast? = some '/' ↔ path'.getLast? = some '/') : path = path' := by
  calc path
      = Text.join ['/'] (path.split '/') := (Text.join_split '/' path).symm
    _ = Text.join ['/'] (path'.split '/') := by rw [h.split_eq, h'.split_eq, hparts]; simp only [hend]
    _ = path' := Text.join_split '/' path'

/-! ## Composed paths -/

/-- The path that `raw` has under `mount`: normal, with the parts of both in order, and with a separator at its end
exactly if `raw` has one there or is empty. -/
structure Concatenates (mount raw path : Text) : Prop extends Normal path where
  listed : parts path = parts mount ++ parts raw
  ended : path.getLast? = some '/' ↔ raw = [] ∨ raw.getLast? = some '/'

/-- composed paths have the parts of both paths, and end as the path below does -/
theorem concatenates_compose (mount raw : Text) : Concatenates mount raw (compose mount raw) := by
  obtain ⟨first, rest, rest', hsplit, hcollapse, hfilter, hlast⟩ :=
    exists_split_collapse (['/'] ++ mount ++ ['/'] ++ raw)
  have hwhole : Text.split '/' (['/'] ++ mount ++ ['/'] ++ raw) = [] :: (mount.split '/' ++ raw.split '/') := by
    rw [← Text.split_append]
    simp
  obtain ⟨rfl, rfl⟩ : [] = first ∧ mount.split '/' ++ raw.split '/' = rest := List.cons.inj (hwhole.symm.trans hsplit)
  rw [List.getLast?_append_of_ne_nil _ (Text.split_ne_nil '/' raw)] at hlast
  have hrooted : (compose mount raw).head? = some '/' := head?_collapse _
  have hcompose : compose mount raw ≠ [] := by
    intro hnil
    rw [hnil] at hrooted
    cases hrooted
  refine { rooted := hrooted, single := not_doubled_collapse _, listed := ?_, ended := ?_ }
  · calc parts (compose mount raw)
        = rest'.filter (· ≠ []) := by rw [parts, compose, hcollapse, List.filter_cons_of_neg (by simp)]
      _ = (mount.split '/' ++ raw.split '/').filter (· ≠ []) := hfilter
      _ = parts mount ++ parts raw := by rw [List.filter_append]; rfl
  · have hrest : rest' ≠ [] := by
      rintro rfl
      exact Text.split_ne_nil '/' raw (List.getLast?_eq_none_iff.1 hlast.symm)
    have hsame : ((compose mount raw).split '/').getLast? = (raw.split '/').getLast? := by
      rw [compose, hcollapse, List.getLast?_cons_of_ne_nil hrest, hlast]
    calc (compose mount raw).getLast? = some '/'
        ↔ compose mount raw = [] ∨ (compose mount raw).getLast? = some '/' := by simp [hcompose]
      _ ↔ ((compose mount raw).split '/').getLast? = some [] := Text.getLast?_split_eq_nil_iff.symm
      _ ↔ raw = [] ∨ raw.getLast? = some '/' := by rw [hsame, Text.getLast?_split_eq_nil_iff]

/-- a composed path is never empty, so that it ends as the path below does in this sense too -/
theorem Concatenates.ended_alike {mount raw path : Text} (h : Concatenates mount raw path) :
    (path = [] ∨ path.getLast? = some '/') ↔ raw = [] ∨ raw.getLast? = some '/' := by
  have hne : path ≠ [] := by
    rintro rfl
    cases h.rooted
  rw [← h.ended]
  simp [hne]

theorem Concatenates.unique {mount raw path path' : Text} (h : Concatenates mount raw path)
    (h' : Concatenates mount raw path') : path = path' :=
  h.toNormal.eq_of_parts h'.toNormal (h.listed.trans h'.listed.symm) (h.ended.trans h'.ended.symm)

/-- **Composing concatenates.** A composed path is absolute, doubles no separator, has the parts of the mount path and
then those of the path below, and ends with a separator exactly if the path below is empty or does; no other path is so.
Hence mount paths compose, and what composing under the empty mount path leaves alone are the normal paths. -/
theorem compose_concatenates :
    (∀ mount raw path, Concatenates mount raw path ↔ path = compose mount raw) ∧
      (∀ outer mount raw, compose outer (compose mount raw) = compose (compose outer mount) raw) ∧
      ∀ path, Normal path ↔ compose [] path = path := by
  refine ⟨fun mount raw path => ⟨?_, ?_⟩, fun outer mount raw => ?_, fun path => ⟨fun h => ?_, fun h => ?_⟩⟩
  · intro h
    exact h.unique (concatenates_compose mount raw)
  · rintro rfl
    exact concatenates_compose mount raw
  · have hinner := concatenates_compose mount raw
    have hleft := concatenates_compose outer (compose mount raw)
    have hright := concatenates_compose (compose outer mount) raw
    refine hleft.toNormal.eq_of_parts hright.toNormal ?_ ?_
    · rw [hleft.listed, hinner.listed, hright.listed, (concatenates_compose outer mount).listed, List.append_assoc]
    · rw [hleft.ended, hinner.ended_alike, hright.ended]
  · have hcomposed := concatenates_compose [] path
    have hne : path ≠ [] := by
      rintro rfl
      cases h.rooted
    refine hcomposed.toNormal.eq_of_parts h ?_ ?_
    · rw [hcomposed.listed]
      rfl
    · rw [hcomposed.ended]
      simp [hne]
  · rw [← h]
    exact (concatenates_compose [] path).toNormal

end Path

end Switchboard
