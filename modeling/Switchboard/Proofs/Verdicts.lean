/-
What a route table answers, told by the entries it has accepted.

Entries are put to a table one after the other, the refused ones among them: `after`, `accepted` and `answers` are the
table, the accepted entries and the answers then.

- `Pattern.Meets`: two patterns capture at one position, after segments of equal shape and in the same way;
- `Repeats`, `Renames`: an earlier entry has the method and shape; an earlier pattern names a capture differently;
- `Clash`: the first position at which that is so, and the first entry that captures there.

A table holds no more than the first name of every position. `after_records` ties it to all accepted entries;
`clash_of_conflict?` and `exists_conflict?` say that the first name found is the one to report. `insert_decides` puts
these together, and adds that a refusal changes no later answer.
-/
import Switchboard.Proofs.Tables

namespace Switchboard

namespace Pattern

/-! ## Positions of captures -/

/-- a pattern that was read from some path -/
def Parsed (p : Pattern) : Prop :=
  ∃ path, parse path = .ok p

/-- The patterns have a capture of one kind at position `i`, under the names `m` and `n`, and segments of equal shape
before it. -/
def Meets (p q : Pattern) (i : Nat) (m n : Text) : Prop :=
  (p.segments.take i).map Segment.shape = (q.segments.take i).map Segment.shape ∧
    ((p.segments[i]? = some (.capture m) ∧ q.segments[i]? = some (.capture n)) ∨
      (p.segments[i]? = some (.catchAll m) ∧ q.segments[i]? = some (.catchAll n)))

theorem Parsed.sound {p : Pattern} (h : p.Parsed) : p.Sound := by
  obtain ⟨path, hpath⟩ := h
  exact (parse_sound hpath).2

theorem segments_eq_of_getElem? {segments : List Segment} {i : Nat} {s : Segment} (h : segments[i]? = some s) :
    segments = segments.take i ++ s :: segments.drop (i + 1) := by
  obtain ⟨hi, hs⟩ := List.getElem?_eq_some_iff.1 h
  rw [← hs, ← List.drop_eq_getElem_cons hi, List.take_append_drop]

/-- the shape of the path up to and including position `i` -/
def upTo (p : Pattern) (i : Nat) : Text :=
  Text.join ['/'] ((p.segments.take (i + 1)).map Segment.shape)

theorem upTo_eq {p : Pattern} {ps rest : List Segment} {s : Segment} (hps : p.segments = ps ++ s :: rest) :
    p.upTo ps.length = Text.join ['/'] ((ps ++ [s]).map Segment.shape) := by
  have htake : (ps ++ s :: rest).take (ps.length + 1) = ps ++ [s] := by simp [List.take_append]
  rw [upTo, hps, htake]

theorem mem_captures_of_getElem? {p : Pattern} {i : Nat} {s : Segment} {name : Text} (hs : p.segments[i]? = some s)
    (hname : s.name? = some name) : (p.upTo i, name) ∈ p.captures := by
  have hi : (p.segments.take i).length = i := by
    have hlt := (List.getElem?_eq_some_iff.1 hs).1
    rw [List.length_take, Nat.min_eq_left hlt.le]
  have hsplit := segments_eq_of_getElem? hs
  refine mem_captures.2 ⟨_, s, _, hsplit, hname, ?_⟩
  rw [← upTo_eq hsplit, hi]

theorem Meets.captures {p q : Pattern} {i : Nat} {m n : Text} (h : Meets p q i m n) :
    (p.upTo i, m) ∈ p.captures ∧ (p.upTo i, n) ∈ q.captures := by
  obtain ⟨hbefore, hkind⟩ := h
  have hrecorded : ∀ {s t : Segment}, p.segments[i]? = some s → q.segments[i]? = some t → s.shape = t.shape →
      s.name? = some m → t.name? = some n → (p.upTo i, m) ∈ p.captures ∧ (p.upTo i, n) ∈ q.captures := by
    intro s t hs ht hshape hm hn
    have hupTo : p.upTo i = q.upTo i := by
      simp only [upTo, List.take_add_one, hs, ht, List.map_append, hbefore, Option.toList_some, List.map_cons,
        List.map_nil, hshape]
    exact ⟨mem_captures_of_getElem? hs hm, hupTo ▸ mem_captures_of_getElem? ht hn⟩
  rcases hkind with ⟨hs, ht⟩ | ⟨hs, ht⟩
  · exact hrecorded hs ht rfl rfl rfl
  · exact hrecorded hs ht rfl rfl rfl

/-- Captures of sound patterns that are recorded under one shape are at one position. -/
theorem meets_of_captures {p q : Pattern} (hp : p.Sound) (hq : q.Sound) {ps rest : List Segment} {s : Segment}
    {m n : Text} (hps : p.segments = ps ++ s :: rest) (hm : s.name? = some m)
    (hn : (p.upTo ps.length, n) ∈ q.captures) : Meets p q ps.length m n := by
  obtain ⟨qs, t, rest', hqs, hname, hjoin⟩ := mem_captures.1 hn
  have hshapes := shapes_eq_of_join hp hq hps hqs ((upTo_eq hps).symm.trans hjoin)
  have hlength : ps.length = qs.length := by simpa using congrArg List.length hshapes
  simp only [List.map_append, List.map_cons, List.map_nil] at hshapes
  obtain ⟨hbefore, hlast⟩ := List.append_inj hshapes (by simpa using hlength)
  have hs : p.segments[ps.length]? = some s := by simp [hps]
  have ht : q.segments[ps.length]? = some t := by simp [hqs, hlength]
  refine ⟨?_, ?_⟩
  · rw [hps, hqs, List.take_left, hlength, List.take_left]
    exact hbefore
  · rcases Segment.same_kind hm hname (by simpa using hlast) with ⟨rfl, rfl⟩ | ⟨rfl, rfl⟩
    · exact Or.inl ⟨hs, ht⟩
    · exact Or.inr ⟨hs, ht⟩

theorem Meets.cut {p q : Pattern} {i : Nat} {m n : Text} (h : Meets p q i m n) {k : Nat} (hk : i < k) :
    Meets { p with segments := p.segments.take k } q i m n := by
  obtain ⟨hbefore, hkind⟩ := h
  simp only [Meets, List.take_take, Nat.min_eq_left hk.le, List.getElem?_take, if_pos hk]
  exact ⟨hbefore, hkind⟩

/-- Captures are recorded in the order of the segments. -/
theorem capturesAfter_eq_append {upTo : List Text} {segments : List Segment} {before after : List (Text × Text)}
    {shape name : Text} (h : capturesAfter upTo segments = before ++ (shape, name) :: after) :
    ∃ ps s rest, segments = ps ++ s :: rest ∧ s.name? = some name ∧
      shape = Text.join ['/'] (upTo ++ (ps ++ [s]).map Segment.shape) ∧ before = capturesAfter upTo ps := by
  induction segments generalizing upTo before with
  | nil => simp [capturesAfter] at h
  | cons segment segments ih =>
    simp only [capturesAfter] at h
    cases hname : segment.name? with
    | none =>
      rw [hname] at h
      obtain ⟨ps, s, rest, hps, hs, hshape, hbefore⟩ := ih h
      refine ⟨segment :: ps, s, rest, by rw [hps]; rfl, hs, by simpa using hshape, ?_⟩
      simp [capturesAfter, hname, hbefore]
    | some own =>
      rw [hname] at h
      cases before with
      | nil =>
        simp only [List.nil_append, List.cons.injEq, Prod.mk.injEq] at h
        obtain ⟨⟨hshape, rfl⟩, -⟩ := h
        exact ⟨[], segment, segments, rfl, hname, by simpa using hshape.symm, rfl⟩
      | cons c before =>
        simp only [List.cons_append, List.cons.injEq] at h
        obtain ⟨rfl, h⟩ := h
        obtain ⟨ps, s, rest, hps, hs, hshape, hbefore⟩ := ih h
        refine ⟨segment :: ps, s, rest, by rw [hps]; rfl, hs, by simpa using hshape, ?_⟩
        simp [capturesAfter, hname, hbefore]

end Pattern

namespace RouteTable

/-! ## Attempts -/

/-- the table after a series of insertions, whatever became of them -/
def after (table : RouteTable) (entries : List TableEntry) : RouteTable :=
  entries.foldl (fun table entry => (table.insert entry.1 entry.2).2) table

def accepted (table : RouteTable) : List TableEntry → List TableEntry
  | [] => []
  | entry :: entries =>
    match table.insert entry.1 entry.2 with
    | (.ok _, table') => entry :: table'.accepted entries
    | (.error _, table') => table'.accepted entries

/-- what the table says to every entry, and how many routes there are then -/
def answers (table : RouteTable) : List TableEntry → List (Except RouteError Unit × Nat)
  | [] => []
  | entry :: entries =>
    let (answer, table') := table.insert entry.1 entry.2
    (answer, table'.size) :: table'.answers entries

theorem answers_append (table : RouteTable) (entries more : List TableEntry) :
    table.answers (entries ++ more) = table.answers entries ++ (table.after entries).answers more := by
  induction entries generalizing table with
  | nil => rfl
  | cons entry entries ih => simp only [List.cons_append, answers, ih, after, List.foldl_cons]

/-- The table after a series of insertions records the entries that were accepted. -/
theorem after_records {table : RouteTable} {before : List TableEntry} (hr : Records table before)
    (entries : List TableEntry) (hsound : ∀ entry ∈ entries, entry.2.Sound) :
    Records (table.after entries) (before ++ table.accepted entries) := by
  induction entries generalizing table before with
  | nil => simpa [after, accepted] using hr
  | cons entry entries ih =>
    obtain ⟨hentry, hrest⟩ := List.forall_mem_cons.1 hsound
    rcases table.insert_cases entry.1 entry.2 with ⟨e, hinsert⟩ | ⟨next, hinsert⟩
    · have hsame := ih hr hrest
      simpa [after, accepted, hinsert] using hsame
    · have hnext := ih (insert_records hr hentry hinsert).2 hrest
      simpa [after, accepted, hinsert] using hnext

/-! ## Verdicts -/

/-- an earlier entry has the method and a pattern of the same shape -/
def Repeats (earlier : List TableEntry) (method : Method) (pattern : Pattern) : Prop :=
  ∃ entry ∈ earlier, entry.1 = method ∧ entry.2.shape = pattern.shape

/-- an earlier pattern has another name for a capture of the pattern -/
def Renames (earlier : List TableEntry) (pattern : Pattern) : Prop :=
  ∃ entry ∈ earlier, ∃ i m n, pattern.Meets entry.2 i m n ∧ n ≠ m

/-- The leftmost capture of the pattern that an earlier pattern names differently is at `i` and named `name`; `first` is
the first earlier pattern with a capture there, and names it `given`. -/
structure Clash (earlier : List TableEntry) (pattern : Pattern) (i : Nat) (name : Text) (first : Pattern)
    (given : Text) : Prop where
  place : pattern.Meets first i name given
  differs : given ≠ name
  earliest : ∃ before method after, earlier = before ++ (method, first) :: after ∧
    ∀ entry ∈ before, ∀ m n, ¬pattern.Meets entry.2 i m n
  leftmost : ∀ j < i, ∀ entry ∈ earlier, ∀ m n, pattern.Meets entry.2 j m n → n = m

variable {table : RouteTable} {earlier : List TableEntry}

theorem repeats_iff (hr : Records table earlier) {method : Method} {pattern : Pattern} :
    (method, pattern.shape) ∈ table.routes ↔ Repeats earlier method pattern := by
  simp only [hr.routes, Repeats, List.mem_map, Prod.mk.injEq]

/-- the first capture with another name, and none before it -/
theorem conflict?_eq_some {captures : List (Text × Text)} {name : Text} {found : CaptureName}
    (h : table.conflict? captures = some (name, found)) :
    ∃ before shape after, captures = before ++ (shape, name) :: after ∧ table.nameAt? shape = some found ∧
      found.name ≠ name ∧ table.conflict? before = none := by
  induction captures with
  | nil => cases h
  | cons c captures ih =>
    obtain ⟨key, own⟩ := c
    -- a capture that is passed over does not clash, and goes before the one that does
    have hpass : (∀ rest, table.conflict? ((key, own) :: rest) = table.conflict? rest) →
        ∃ before shape after, (key, own) :: captures = before ++ (shape, name) :: after ∧
          table.nameAt? shape = some found ∧ found.name ≠ name ∧ table.conflict? before = none := by
      intro hskip
      rw [hskip] at h
      obtain ⟨before, shape, after, hcaptures, hfound, hne, hnone⟩ := ih h
      exact ⟨(key, own) :: before, shape, after, by rw [hcaptures]; rfl, hfound, hne, by rw [hskip, hnone]⟩
    cases hkey : table.nameAt? key with
    | none => exact hpass fun rest => by simp only [conflict?, hkey]
    | some given =>
      by_cases hgiven : given.name = own
      · exact hpass fun rest => by simp only [conflict?, hkey, hgiven, if_true]
      · simp only [conflict?, hkey, if_neg hgiven, Option.some.injEq, Prod.mk.injEq] at h
        obtain ⟨rfl, rfl⟩ := h
        exact ⟨[], key, captures, rfl, hkey, hgiven, rfl⟩

theorem firstName_eq_some {shape : Text} {found : CaptureName} (h : firstName earlier shape = some found) :
    ∃ before method first after, earlier = before ++ (method, first) :: after ∧
      (shape, found.name) ∈ first.captures ∧ found.path = first.path ∧
      ∀ entry ∈ before, ∀ name, (shape, name) ∉ entry.2.captures := by
  obtain ⟨before, ⟨method, first⟩, after, hsplit, hfirst, hnone⟩ := List.findSome?_eq_some_iff.1 h
  obtain ⟨c, hc, rfl⟩ := Option.map_eq_some_iff.1 hfirst
  have hshape : c.1 = shape := by simpa using List.find?_some hc
  refine ⟨before, method, first, after, hsplit, hshape ▸ List.mem_of_find?_eq_some hc, rfl, ?_⟩
  intro entry hentry name hname
  have hmissing := List.find?_eq_none.1 (Option.map_eq_none_iff.1 (hnone entry hentry)) _ hname
  simp at hmissing

/-- The name that is found first is the one to report. -/
theorem clash_of_conflict? (hr : Records table earlier) {pattern : Pattern} (hp : pattern.Sound) {name : Text}
    {found : CaptureName} (h : table.conflict? pattern.captures = some (name, found)) :
    ∃ i first, found.path = first.path ∧ Clash earlier pattern i name first found.name := by
  obtain ⟨before, shape, after, hcaptures, hfound, hne, hnone⟩ := conflict?_eq_some h
  obtain ⟨ps, s, rest, hps, hname, rfl, rfl⟩ := Pattern.capturesAfter_eq_append hcaptures
  rw [List.nil_append, ← Pattern.upTo_eq hps] at hfound
  have hname? := (hr.names _).symm.trans hfound
  obtain ⟨old, method, first, new, hsplit, hfirst, hpath, hold⟩ := firstName_eq_some hname?
  have hfirstSound : first.Sound := hr.sound (method, first) (by simp [hsplit])
  refine ⟨ps.length, first, hpath, ?_, hne, ?_, ?_⟩
  · exact Pattern.meets_of_captures hp hfirstSound hps hname hfirst
  · refine ⟨old, method, new, hsplit, ?_⟩
    intro entry hentry m n hmeets
    exact hold entry hentry n hmeets.captures.2
  · intro j hj entry hentry m n hmeets
    have hcut : { pattern with segments := pattern.segments.take ps.length }.captures =
        Pattern.capturesAfter [] ps := by
      simp [Pattern.captures, hps]
    obtain ⟨hm, hn⟩ := (hmeets.cut hj).captures
    rw [hcut] at hm
    obtain ⟨given, hgiven⟩ := firstName_isSome hentry hn
    have hown : given.name = m := conflict?_eq_none_iff.1 hnone _ m hm given ((hr.names _).trans hgiven)
    have hother : given.name = n := firstName_eq hr.sound hr.beside hentry hn hgiven
    exact hother.symm.trans hown

theorem exists_conflict? (hr : Records table earlier) {pattern : Pattern} (h : Renames earlier pattern) :
    ∃ name found, table.conflict? pattern.captures = some (name, found) := by
  obtain ⟨entry, hentry, i, m, n, hmeets, hne⟩ := h
  obtain ⟨hm, hn⟩ := hmeets.captures
  obtain ⟨given, hgiven⟩ := firstName_isSome hentry hn
  have hother : given.name = n := firstName_eq hr.sound hr.beside hentry hn hgiven
  cases hconflict : table.conflict? pattern.captures with
  | some clash => exact ⟨clash.1, clash.2, rfl⟩
  | none =>
    have hown := conflict?_eq_none_iff.1 hconflict _ m hm given ((hr.names _).trans hgiven)
    exact absurd (hother.symm.trans hown) hne

theorem Clash.renames {pattern first : Pattern} {i : Nat} {name given : Text}
    (h : Clash earlier pattern i name first given) : Renames earlier pattern := by
  obtain ⟨before, method, after, hsplit, -⟩ := h.earliest
  exact ⟨(method, first), by simp [hsplit], i, name, given, h.place, h.differs⟩

/-! ## What becomes of an entry -/

variable {method : Method} {pattern : Pattern}

theorem insert_eq_duplicate_iff (hr : Records table earlier) :
    (table.insert method pattern).1 = .error (.duplicate method pattern.path) ↔ Repeats earlier method pattern := by
  rw [← repeats_iff hr]
  unfold insert
  split_ifs with hroute
  · simp [hroute]
  · cases hconflict : table.conflict? pattern.captures with
    | none => simp [hroute]
    | some clash => simp [hroute]

theorem insert_of_renames (hr : Records table earlier) (hp : pattern.Sound) (hnew : ¬Repeats earlier method pattern)
    (h : Renames earlier pattern) :
    ∃ i name first given, (table.insert method pattern).1 = .error (.conflicting pattern.path name first.path given) ∧
      Clash earlier pattern i name first given := by
  rw [← repeats_iff hr] at hnew
  obtain ⟨name, found, hconflict⟩ := exists_conflict? hr h
  obtain ⟨i, first, hpath, hclash⟩ := clash_of_conflict? hr hp hconflict
  refine ⟨i, name, first, found.name, ?_, hclash⟩
  simp only [insert, if_neg hnew, hconflict, hpath]

theorem insert_of_agree (hr : Records table earlier) (hp : pattern.Sound) (hnew : ¬Repeats earlier method pattern)
    (hagree : ¬Renames earlier pattern) :
    ∃ table', table.insert method pattern = (.ok (), table') ∧ table'.size = table.size + 1 := by
  rw [← repeats_iff hr] at hnew
  cases hconflict : table.conflict? pattern.captures with
  | some clash =>
    obtain ⟨i, first, -, hclash⟩ := clash_of_conflict? hr hp hconflict
    exact absurd hclash.renames hagree
  | none =>
    simp only [insert, if_neg hnew, hconflict]
    exact ⟨_, rfl, by simp [size]⟩

/-- a refusal stands between the answers before it and those there would be without it -/
theorem answers_refused {calls : List TableEntry} {e : RouteError}
    (h : ((table.after calls).insert method pattern).1 = .error e) (later : List TableEntry) :
    table.answers (calls ++ (method, pattern) :: later) =
      table.answers calls ++ (.error e, (table.after calls).size) :: (table.after calls).answers later := by
  rw [answers_append]
  simp only [answers, insert_error h]

/-- **What a table answers.** After any insertions into a new table, an entry is refused as a duplicate exactly if an
accepted one has its method and shape. Any other is refused exactly if an accepted pattern names one of its captures
differently, and the leftmost such capture is reported with the first accepted pattern that has it. What is left is
accepted and counted. A refusal leaves the table as it is, and changes no answer after it. -/
theorem insert_decides {calls : List TableEntry} (hcalls : ∀ call ∈ calls, call.2.Parsed) (method : Method)
    {pattern : Pattern} (hp : pattern.Parsed) :
    let table := empty.after calls
    let earlier := empty.accepted calls
    ((table.insert method pattern).1 = .error (.duplicate method pattern.path) ↔ Repeats earlier method pattern) ∧
    (¬Repeats earlier method pattern →
      ((∃ path name existing given, (table.insert method pattern).1 = .error (.conflicting path name existing given)) ↔
        Renames earlier pattern) ∧
      (∀ path name existing given, (table.insert method pattern).1 = .error (.conflicting path name existing given) →
        path = pattern.path ∧ ∃ i first, first.path = existing ∧ Clash earlier pattern i name first given) ∧
      (¬Renames earlier pattern →
        ∃ table', table.insert method pattern = (.ok (), table') ∧ table'.size = table.size + 1)) ∧
    ∀ e, (table.insert method pattern).1 = .error e → (table.insert method pattern).2 = table ∧ ∀ later,
      empty.answers (calls ++ later) = empty.answers calls ++ table.answers later ∧
      empty.answers (calls ++ (method, pattern) :: later) =
        empty.answers calls ++ (.error e, table.size) :: table.answers later := by
  intro table earlier
  have hr : Records table earlier := by
    simpa using after_records records_empty calls fun call hcall => (hcalls call hcall).sound
  refine ⟨insert_eq_duplicate_iff hr, ?_, ?_⟩
  · intro hnew
    by_cases hrenames : Renames earlier pattern
    · obtain ⟨i, name, first, given, herror, hclash⟩ := insert_of_renames hr hp.sound hnew hrenames
      refine ⟨?_, ?_, fun hagree => absurd hrenames hagree⟩
      · rw [herror]
        exact ⟨fun _ => hrenames, fun _ => ⟨_, _, _, _, rfl⟩⟩
      · intro path name' existing given' h
        rw [herror] at h
        cases h
        exact ⟨rfl, i, first, rfl, hclash⟩
    · obtain ⟨table', htable, hsize⟩ := insert_of_agree hr hp.sound hnew hrenames
      exact ⟨by simp [htable, hrenames], by simp [htable], fun _ => ⟨table', htable, hsize⟩⟩
  · intro e herror
    refine ⟨by rw [insert_error herror], fun later => ?_⟩
    exact ⟨answers_append empty calls later, answers_refused herror later⟩

/-- A pattern is refused for its second capture. The refused `/a/:key` before it counts for nothing, and of the two
accepted patterns that have the capture the first is reported. -/
theorem insert_decides_second :
    let under (path first : Text) (rest : List Segment) : Pattern :=
      { path, segments := .literal [] :: .literal ['a'] :: .capture first :: rest }
    let calls : List TableEntry :=
      [(.get, under "/a/:id".toList "id".toList []), (.put, under "/a/:key".toList "key".toList []),
        (.get, under "/a/:id/:x".toList "id".toList [.capture ['x']]),
        (.put, under "/a/:id/:x/b".toList "id".toList [.capture ['x'], .literal ['b']])]
    let pattern := under "/a/:id/:y".toList "id".toList [.capture ['y']]
    (∀ call ∈ calls, call.2.Parsed) ∧ pattern.Parsed ∧ (empty.accepted calls).length = 3 ∧
      ∃ i first, first.path = "/a/:id/:x".toList ∧ Clash (empty.accepted calls) pattern i ['y'] first ['x'] := by
  intro under calls pattern
  have hcalls : ∀ call ∈ calls, call.2.Parsed := by
    intro call hcall
    refine ⟨call.2.path, ?_⟩
    simp only [calls, List.mem_cons, List.not_mem_nil, or_false] at hcall
    rcases hcall with rfl | rfl | rfl | rfl <;> rfl
  have hpattern : pattern.Parsed := ⟨pattern.path, rfl⟩
  refine ⟨hcalls, hpattern, rfl, ?_⟩
  obtain ⟨hrepeats, hnew, -⟩ := insert_decides hcalls .post hpattern
  have hfresh : ¬Repeats (empty.accepted calls) .post pattern := by
    rw [← hrepeats]
    exact fun h => nomatch h
  exact ((hnew hfresh).2.1 _ _ _ _ rfl).2

end RouteTable

end Switchboard
