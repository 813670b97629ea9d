/-
What the route table knows of the routes entered into it.

`enterAll` enters methods and patterns in order. `Records` is the invariant that ties a table to the entries behind it:
its routes are their methods and shapes, the name of a capture position is that of the first entry with a capture there
(`firstName`), and any two entries stand `Beside` each other: not the same method and shape, and no capture position
with two names. `insert_records` is the step, `enterAll_records` the run. Nothing else keeps an entry out, so that entries
are accepted exactly if any two of them stand beside each other (`exists_enterAll_iff`).
-/
import Switchboard.Proofs.Patterns
import Switchboard.Route.Table

namespace Switchboard

abbrev TableEntry := Method × Pattern

namespace RouteTable

/-- the table after the entries, in order, or the refusal of the first that clashes -/
def enterAll (table : RouteTable) : List TableEntry → Except RouteError RouteTable
  | [] => .ok table
  | (method, pattern) :: entries =>
    match table.insert method pattern with
    | (.error e, _) => .error e
    | (.ok _, table') => enterAll table' entries

theorem enterAll_append {table table' : RouteTable} {entries : List TableEntry}
    (h : table.enterAll entries = .ok table') (more : List TableEntry) :
    table.enterAll (entries ++ more) = table'.enterAll more := by
  induction entries generalizing table with
  | nil =>
    cases h
    rfl
  | cons entry entries ih =>
    obtain ⟨method, pattern⟩ := entry
    simp only [enterAll, List.cons_append] at h ⊢
    rcases table.insert_cases method pattern with ⟨e, hi⟩ | ⟨next, hi⟩ <;> rw [hi] at h
    · cases h
    · rw [hi]
      exact ih h

/-! ## One entry -/

theorem nameAt?_append (table : RouteTable) (more : List CaptureName) (shape : Text) :
    nameAt? { table with names := table.names ++ more } shape =
      (table.nameAt? shape).or (more.find? (·.shape = shape)) := by
  simp [nameAt?, List.find?_append]

/-- a position keeps its name, and one without a name takes the first that is given to it -/
@[simp] theorem nameAt?_keepNames (table : RouteTable) (path : Text) (captures : List (Text × Text)) (shape : Text) :
    (table.keepNames path captures).nameAt? shape =
      (table.nameAt? shape).or
        ((captures.find? (·.1 = shape)).map fun c => { shape, name := c.2, path }) := by
  rw [keepNames, nameAt?_append]
  cases hname : table.nameAt? shape with
  | some earlier => rfl
  | none =>
    rw [Option.none_or, Option.none_or]
    induction captures with
    | nil => rfl
    | cons c captures ih =>
      obtain ⟨key, name⟩ := c
      by_cases hkey : key = shape
      · subst hkey
        simp [hname]
      · cases hkeyName : table.nameAt? key with
        | some earlier => simpa [hkey, hkeyName] using ih
        | none => simpa [hkey, hkeyName] using ih

theorem conflict?_eq_none_iff {table : RouteTable} {captures : List (Text × Text)} :
    table.conflict? captures = none ↔
      ∀ shape name, (shape, name) ∈ captures → ∀ earlier, table.nameAt? shape = some earlier → earlier.name = name := by
  induction captures with
  | nil => simp [conflict?]
  | cons c captures ih =>
    obtain ⟨key, given⟩ := c
    have hsplit : table.conflict? ((key, given) :: captures) = none ↔
        (∀ earlier, table.nameAt? key = some earlier → earlier.name = given) ∧ table.conflict? captures = none := by
      simp only [conflict?]
      cases hk : table.nameAt? key with
      | none => simp
      | some earlier =>
        by_cases hn : earlier.name = given
        · simp [hn]
        · simp [hn]
    rw [hsplit, ih]
    constructor
    · rintro ⟨hhead, htail⟩ shape name hmem
      rcases List.mem_cons.1 hmem with h | h
      · obtain ⟨rfl, rfl⟩ := Prod.mk.inj h
        exact hhead
      · exact htail shape name h
    · intro h
      exact ⟨h key given List.mem_cons_self, fun shape name hmem => h shape name (List.mem_cons_of_mem _ hmem)⟩

/-- what an accepted entry was checked for, and what it leaves in the table -/
theorem insert_ok {table table' : RouteTable} {method : Method} {pattern : Pattern}
    (h : table.insert method pattern = (.ok (), table')) :
    (method, pattern.shape) ∉ table.routes ∧ table.conflict? pattern.captures = none ∧
      table'.routes = table.routes ++ [(method, pattern.shape)] ∧
      ∀ shape, table'.nameAt? shape =
        (table.nameAt? shape).or
          ((pattern.captures.find? (·.1 = shape)).map fun c => { shape, name := c.2, path := pattern.path }) := by
  obtain ⟨hroute, hconflict, rfl⟩ := insert_eq_ok h
  exact ⟨hroute, hconflict, rfl, nameAt?_keepNames table pattern.path pattern.captures⟩

/-! ## The entries behind a table -/

/-- two entries that a table can hold: not the same method and shape, and no capture position with two names -/
def Beside (e f : TableEntry) : Prop :=
  (e.1 = f.1 → e.2.shape ≠ f.2.shape) ∧ e.2.NamesAgree f.2

theorem Beside.symm {e f : TableEntry} (h : Beside e f) : Beside f e :=
  ⟨fun hm hs => h.1 hm.symm hs.symm, h.2.symm⟩

/-- the name that the first entry with a capture at the position gives it -/
def firstName (entries : List TableEntry) (shape : Text) : Option CaptureName :=
  entries.findSome? fun (_, pattern) =>
    (pattern.captures.find? (·.1 = shape)).map fun c => { shape, name := c.2, path := pattern.path }

/-- the table holds exactly what these entries left in it -/
structure Records (table : RouteTable) (entries : List TableEntry) : Prop where
  sound : ∀ entry ∈ entries, entry.2.Sound
  routes : table.routes = entries.map fun (method, pattern) => (method, pattern.shape)
  names : ∀ shape, table.nameAt? shape = firstName entries shape
  beside : entries.Pairwise Beside

theorem records_empty : Records empty [] :=
  ⟨fun _ h => absurd h List.not_mem_nil, rfl, fun _ => rfl, List.Pairwise.nil⟩

theorem firstName_isSome {entries : List TableEntry} {entry : TableEntry} (hentry : entry ∈ entries)
    {shape name : Text} (hname : (shape, name) ∈ entry.2.captures) :
    ∃ earlier, firstName entries shape = some earlier := by
  apply Option.isSome_iff_exists.1
  rw [firstName, List.isSome_findSome?]
  refine List.any_eq_true.2 ⟨entry, hentry, ?_⟩
  simp only [Option.isSome_map, List.find?_isSome]
  exact ⟨(shape, name), hname, by simp⟩

theorem firstName_eq {entries : List TableEntry} (hsound : ∀ entry ∈ entries, entry.2.Sound)
    (hbeside : entries.Pairwise Beside) {entry : TableEntry} (hentry : entry ∈ entries) {shape name : Text}
    (hname : (shape, name) ∈ entry.2.captures) {earlier : CaptureName} (h : firstName entries shape = some earlier) :
    earlier.name = name := by
  induction entries with
  | nil => exact absurd hentry List.not_mem_nil
  | cons first entries ih =>
    have htail := List.pairwise_cons.1 hbeside
    simp only [firstName, List.findSome?_cons] at h
    cases hf : first.2.captures.find? (·.1 = shape) with
    | some c =>
      -- the first entry has a capture there: it is the entry itself, or one beside it
      rw [hf] at h
      cases h
      have hshape : c.1 = shape := by simpa using List.find?_some hf
      have hmem : (shape, c.2) ∈ first.2.captures := hshape ▸ List.mem_of_find?_eq_some hf
      rcases List.mem_cons.1 hentry with rfl | hrest
      · exact Pattern.name_unique (hsound _ List.mem_cons_self) hmem hname
      · exact (htail.1 entry hrest).2 shape c.2 name hmem hname
    | none =>
      rw [hf] at h
      have hne : entry ≠ first := by
        rintro rfl
        have hall := List.find?_eq_none.1 hf (shape, name) hname
        simp at hall
      rcases List.mem_cons.1 hentry with heq | hrest
      · exact absurd heq hne
      · exact ih (fun e he => hsound e (List.mem_cons_of_mem _ he)) htail.2 hrest h

/-- An entry that the table accepts stands beside all entries behind the table, and is recorded after them. -/
theorem insert_records {table table' : RouteTable} {entries : List TableEntry} (hr : Records table entries)
    {method : Method} {pattern : Pattern} (hp : pattern.Sound) (h : table.insert method pattern = (.ok (), table')) :
    (∀ entry ∈ entries, Beside entry (method, pattern)) ∧ Records table' (entries ++ [(method, pattern)]) := by
  obtain ⟨hroute, hconflict, hroutes, hnames⟩ := insert_ok h
  have hbeside : ∀ entry ∈ entries, Beside entry (method, pattern) := by
    intro entry hentry
    refine ⟨fun hm hs => hroute ?_, fun shape m n hm hn => ?_⟩
    · rw [hr.routes]
      exact List.mem_map.2 ⟨entry, hentry, Prod.ext hm hs⟩
    · obtain ⟨earlier, he⟩ := firstName_isSome hentry hm
      have hleft : earlier.name = m := firstName_eq hr.sound hr.beside hentry hm he
      have hright : earlier.name = n := conflict?_eq_none_iff.1 hconflict shape n hn earlier ((hr.names shape).trans he)
      exact hleft.symm.trans hright
  refine ⟨hbeside, ?_, ?_, fun shape => ?_, ?_⟩
  · intro entry hentry
    rcases List.mem_append.1 hentry with hentry | hentry
    · exact hr.sound entry hentry
    · rw [List.mem_singleton.1 hentry]
      exact hp
  · rw [hroutes, hr.routes]
    simp
  · rw [hnames, hr.names, firstName, firstName, List.findSome?_append]
    simp
  · refine List.pairwise_append.2 ⟨hr.beside, List.pairwise_singleton _ _, fun entry hentry other hother => ?_⟩
    rw [List.mem_singleton.1 hother]
    exact hbeside entry hentry

/-- Entries that are all accepted are recorded after those before them. -/
theorem enterAll_records {table table' : RouteTable} {entries more : List TableEntry} (hr : Records table entries)
    (hmore : ∀ entry ∈ more, entry.2.Sound) (h : table.enterAll more = .ok table') :
    Records table' (entries ++ more) := by
  induction more generalizing table entries with
  | nil =>
    cases h
    simpa using hr
  | cons entry more ih =>
    obtain ⟨method, pattern⟩ := entry
    simp only [enterAll] at h
    rcases table.insert_cases method pattern with ⟨e, hi⟩ | ⟨next, hi⟩ <;> rw [hi] at h
    · cases h
    · have hnext := (insert_records hr (hmore _ List.mem_cons_self) hi).2
      have hrest := ih hnext (fun e he => hmore e (List.mem_cons_of_mem _ he)) h
      simpa using hrest

/-! ## When entries are accepted -/

theorem mem_of_firstName {entries : List TableEntry} {shape : Text} {earlier : CaptureName}
    (h : firstName entries shape = some earlier) :
    ∃ entry ∈ entries, (shape, earlier.name) ∈ entry.2.captures := by
  obtain ⟨entry, hentry, hfound⟩ := List.exists_of_findSome?_eq_some h
  obtain ⟨c, hc, rfl⟩ := Option.map_eq_some_iff.1 hfound
  have hshape : c.1 = shape := by simpa using List.find?_some hc
  exact ⟨entry, hentry, hshape ▸ List.mem_of_find?_eq_some hc⟩

/-- An entry that stands beside all entries behind the table is accepted. -/
theorem exists_insert {table : RouteTable} {entries : List TableEntry} (hr : Records table entries) {method : Method}
    {pattern : Pattern} (h : ∀ entry ∈ entries, Beside entry (method, pattern)) :
    ∃ table', table.insert method pattern = (.ok (), table') := by
  have hroute : (method, pattern.shape) ∉ table.routes := by
    rw [hr.routes]
    intro hmem
    obtain ⟨entry, hentry, heq⟩ := List.mem_map.1 hmem
    obtain ⟨hmethod, hshape⟩ := Prod.mk.inj heq
    exact (h entry hentry).1 hmethod hshape
  have hconflict : table.conflict? pattern.captures = none := by
    refine conflict?_eq_none_iff.2 fun shape name hname earlier hearlier => ?_
    obtain ⟨entry, hentry, hcapture⟩ := mem_of_firstName ((hr.names shape).symm.trans hearlier)
    exact (h entry hentry).2 shape earlier.name name hcapture hname
  simp only [insert, hroute, if_false, hconflict]
  exact ⟨_, rfl⟩

theorem exists_enterAll {table : RouteTable} {entries more : List TableEntry} (hr : Records table entries)
    (hmore : ∀ entry ∈ more, entry.2.Sound) (h : (entries ++ more).Pairwise Beside) :
    ∃ table', table.enterAll more = .ok table' := by
  induction more generalizing table entries with
  | nil => exact ⟨table, rfl⟩
  | cons entry more ih =>
    obtain ⟨method, pattern⟩ := entry
    have hbeside : ∀ entry ∈ entries, Beside entry (method, pattern) := fun entry hentry =>
      (List.pairwise_append.1 h).2.2 entry hentry _ List.mem_cons_self
    obtain ⟨next, hnext⟩ := exists_insert hr hbeside
    have hrecords := (insert_records hr (hmore _ List.mem_cons_self) hnext).2
    obtain ⟨table', htable⟩ := ih hrecords (fun e he => hmore e (List.mem_cons_of_mem _ he)) (by simpa using h)
    exact ⟨table', by simp only [enterAll, hnext, htable]⟩

/-- **Entries are accepted in pairs.** A new table accepts entries one after the other exactly if any two stand beside
each other. -/
theorem exists_enterAll_iff {entries : List TableEntry} (hsound : ∀ entry ∈ entries, entry.2.Sound) :
    (∃ table, empty.enterAll entries = .ok table) ↔ entries.Pairwise Beside := by
  constructor
  · rintro ⟨table, h⟩
    simpa using (enterAll_records records_empty hsound h).beside
  · intro h
    exact exists_enterAll records_empty hsound (by simpa using h)

end RouteTable

end Switchboard
