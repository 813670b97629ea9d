/-
What an action is given of the path of a request.

Notions:
- `Segment.Filled`: texts put back in place of the captures of a path, in order and under their names;
- `Host.Recovers`: parameters that put back give the requested path;
- `Host.Reserved`: the names that the host keeps to itself;
- `Middleware.KeepsCaptures`: a middleware that leaves the parameters to those further in.

Results:
- `Segment.filled_of_takes`: what a path captures gives the requested path again;
- `Segment.Filled.names_eq` and `Segment.Filled.mem_names_iff`: the names are those that the path is written with;
- `decodeCaptures_eq_ok_iff`: parameters are decoded one by one;
- `Host.recovers_iff`: the parameters that the action of a route is given recover the path of the request exactly if the
  route names no capture as the host does. A name that the host keeps to itself is lost (`Host.reserved_capture_lost`).
-/
import Switchboard.Proofs.Layers
import Switchboard.Proofs.PathGrammar

namespace Switchboard

theorem Text.join_cons_congr {sep : Text} {as bs : List Text} (part : Text) (hnil : as = [] ↔ bs = [])
    (h : join sep as = join sep bs) : join sep (part :: as) = join sep (part :: bs) := by
  cases as with
  | nil => rw [hnil.1 rfl]
  | cons a as =>
    cases bs with
    | nil => exact absurd (hnil.2 rfl) (List.cons_ne_nil a as)
    | cons b bs => exact congrArg (part ++ sep ++ ·) h

namespace Segment

/-! ## Putting captured texts back -/

/-- The parts of a path with the texts put back that it has captured: each in place of the capture that it stands under
the name of, from left to right. Other parts stay. -/
inductive Filled : List Text → List (Text × Text) → List Text → Prop
  | done : Filled [] [] []
  | stays {part : Text} {parts filled : List Text} {params : List (Text × Text)} : (∀ name, ¬Catches part name) →
      Filled parts params filled → Filled (part :: parts) params (part :: filled)
  | caught {part name : Text} (raw : Text) {parts filled : List Text} {params : List (Text × Text)} :
      Catches part name → Filled parts params filled → Filled (part :: parts) ((name, raw) :: params) (raw :: filled)

theorem Filled.names_eq {parts filled filled' : List Text} {params params' : List (Text × Text)}
    (h : Filled parts params filled) (h' : Filled parts params' filled') :
    params.map (·.1) = params'.map (·.1) := by
  induction h generalizing params' filled' with
  | done =>
    cases h'
    rfl
  | stays hnone _ ih =>
    cases h' with
    | stays _ h' => exact ih h'
    | caught _ hcatches _ => exact absurd hcatches (hnone _)
  | caught raw hcatches _ ih =>
    cases h' with
    | stays hnone _ => exact absurd hcatches (hnone _)
    | caught raw' hcatches' h' => rw [List.map_cons, List.map_cons, ih h', hcatches.unique hcatches']

theorem Filled.mem_names_iff {parts filled : List Text} {params : List (Text × Text)} (h : Filled parts params filled)
    {name : Text} : name ∈ params.map (·.1) ↔ ∃ part ∈ parts, Catches part name := by
  induction h with
  | done => simp
  | @stays part parts filled params hnone _ ih =>
    rw [ih]
    simp [hnone name]
  | @caught part caught raw parts filled params hcatches _ ih =>
    have hpart : Catches part name ↔ name = caught :=
      ⟨fun h => h.unique hcatches, fun h => h ▸ hcatches⟩
    rw [List.map_cons, List.mem_cons, ih]
    simp [hpart]

theorem Grammatical.name?_written {parts : List Text} (h : Grammatical parts) {part : Text} (hpart : part ∈ parts)
    {name : Text} : (written part).name? = some name ↔ Catches part name := by
  refine @Segment.name?_written True part name (not_malformed_iff.2 ⟨h.unbraced part hpart, ?_, ?_⟩)
  · rintro name rfl
    exact h.captures name hpart
  · rintro name rfl
    obtain ⟨i, hi⟩ := List.getElem?_of_mem hpart
    exact ⟨trivial, (h.catchAlls i name hi).2⟩

theorem eq_of_written_eq_literal {part text : Text} (h : written part = .literal text) : part = text := by
  unfold written at h
  split at h <;> cases h
  rfl

/-- What a path captures of a request, put back, gives the segments of the request; those that a catch-all takes are
joined. -/
theorem filled_of_takes {parts texts : List Text} {captured : List (Text × Text)}
    (hnames : ∀ part ∈ parts, ∀ name, (written part).name? = some name ↔ Catches part name)
    (h : Host.Takes (parts.map written) texts captured) :
    ∃ filled, Filled parts captured filled ∧ (filled = [] ↔ texts = []) ∧
      Text.join ['/'] filled = Text.join ['/'] texts := by
  generalize hsegments : parts.map written = segments at h
  induction h generalizing parts with
  | done =>
    obtain rfl := List.map_eq_nil_iff.1 hsegments
    exact ⟨[], .done, by simp, rfl⟩
  | @literal text ps texts captured _ ih =>
    obtain ⟨part, parts, rfl, hpart, htail⟩ := List.map_eq_cons_iff.1 hsegments
    obtain ⟨hname, hrest⟩ := List.forall_mem_cons.1 hnames
    obtain ⟨filled, hfilled, hnil, heq⟩ := ih hrest htail
    obtain rfl := eq_of_written_eq_literal hpart
    have hnone : ∀ name, ¬Catches part name := by
      intro name hcatches
      have hsome := (hname name).2 hcatches
      rw [hpart] at hsome
      cases hsome
    exact ⟨part :: filled, .stays hnone hfilled, by simp, Text.join_cons_congr part hnil heq⟩
  | @capture name text ps texts captured _ _ ih =>
    obtain ⟨part, parts, rfl, hpart, htail⟩ := List.map_eq_cons_iff.1 hsegments
    obtain ⟨hname, hrest⟩ := List.forall_mem_cons.1 hnames
    obtain ⟨filled, hfilled, hnil, heq⟩ := ih hrest htail
    have hcatches : Catches part name := (hname name).1 (by rw [hpart]; rfl)
    exact ⟨text :: filled, .caught text hcatches hfilled, by simp, Text.join_cons_congr text hnil heq⟩
  | @catchAll name texts hleft =>
    obtain ⟨part, parts, rfl, hpart, htail⟩ := List.map_eq_cons_iff.1 hsegments
    obtain rfl := List.map_eq_nil_iff.1 htail
    have hcatches : Catches part name := (hnames part List.mem_cons_self name).1 (by rw [hpart]; rfl)
    have hne : texts ≠ [] := by
      rintro rfl
      exact hleft rfl
    exact ⟨[Text.join ['/'] texts], .caught _ hcatches .done, by simp [hne], rfl⟩

end Segment

/-! ## Decoding -/

/-- Parameters are decoded if every one of them is, and each by itself. -/
theorem decodeCaptures_eq_ok_iff {params values : List (Text × Text)} :
    decodeCaptures params = .ok values ↔
      List.Forall₂ (fun param value => value.1 = param.1 ∧ Text.Percent.decode? param.2 = some value.2) params
        values := by
  induction params generalizing values with
  | nil => simp [decodeCaptures, eq_comm]
  | cons param params ih =>
    obtain ⟨name, raw⟩ := param
    rw [List.forall₂_cons_left_iff]
    simp only [decodeCaptures]
    cases hraw : Text.Percent.decode? raw with
    | none => simp
    | some value =>
      constructor
      · intro h
        cases hrest : decodeCaptures params with
        | error e =>
          rw [hrest] at h
          cases h
        | ok rest =>
          rw [hrest] at h
          cases h
          exact ⟨(name, value), rest, ⟨rfl, rfl⟩, ih.1 hrest, rfl⟩
      · rintro ⟨⟨name', value'⟩, rest, ⟨hname, hvalue⟩, hrest, rfl⟩
        obtain rfl : name' = name := hname
        obtain rfl : value = value' := Option.some.inj hvalue
        rw [ih.2 hrest]
        rfl

/-! ## Through middlewares -/

/-- whatever else the middleware changes, it hands on what was captured -/
def Middleware.KeepsCaptures (m : Middleware) : Prop :=
  ∀ clock request passed finish, m clock request = .forward passed finish → passed.captures = request.captures

theorem Middleware.captures_reaching {clock : Nat} {ms : List Middleware} {request reached : Request}
    (hkeeps : ∀ m ∈ ms, m.KeepsCaptures) (h : reaching clock ms request = some reached) :
    reached.captures = request.captures := by
  induction ms generalizing request with
  | nil =>
    cases h
    rfl
  | cons m ms ih =>
    obtain ⟨hm, hms⟩ := List.forall_mem_cons.1 hkeeps
    simp only [reaching] at h
    cases hruling : m clock request with
    | answer response =>
      rw [hruling] at h
      cases h
    | forward passed finish =>
      rw [hruling] at h
      exact (ih hms h).trans (hm clock request passed finish hruling)

namespace Host

variable {ι ρ ω : Type}

/-! ## Parameters -/

/-- put back into the path as it is written, the parameters give the requested path -/
def Recovers (params : List (Text × Text)) (path requested : Text) : Prop :=
  ∃ filled, Segment.Filled (path.split '/') params filled ∧ Text.join ['/'] filled = requested

/-- a name that the host keeps to itself -/
def Reserved (name : Text) : Prop :=
  ∃ mark ∈ reservedNames, mark <+: name

def CapturesAs (path name : Text) : Prop :=
  ∃ part ∈ path.split '/', Segment.Catches part name

theorem mem_visible {captured : List (Text × Text)} {entry : Text × Text} :
    entry ∈ visible captured ↔ entry ∈ captured ∧ ¬Reserved entry.1 := by
  have hstarts : ∀ mark : Text, Text.startsWith mark entry.1 = true ↔ mark <+: entry.1 := by
    intro mark
    rw [Text.startsWith, Option.isSome_iff_exists]
    constructor
    · rintro ⟨rest, hrest⟩
      exact ⟨rest, (Text.after?_eq_some_iff.1 hrest).symm⟩
    · rintro ⟨rest, hrest⟩
      exact ⟨rest, Text.after?_eq_some_iff.2 hrest.symm⟩
  simp only [visible, List.mem_filter, Bool.not_eq_true', ← Bool.not_eq_true, List.any_eq_true, hstarts, Reserved]

/-- Of texts that recover the path, those under names of the host are held back, so that the rest recover it only if
there are none. -/
theorem recovers_visible_iff {captured : List (Text × Text)} {path requested : Text}
    (h : Recovers captured path requested) :
    Recovers (visible captured) path requested ↔ ∀ name, CapturesAs path name → ¬Reserved name := by
  obtain ⟨filled, hfilled, -⟩ := id h
  constructor
  · rintro ⟨filled', hvisible, -⟩ name hname
    have hlength : (visible captured).length = captured.length := by
      simpa using congrArg List.length (hvisible.names_eq hfilled)
    have hall : visible captured = captured := List.filter_sublist.eq_of_length hlength
    obtain ⟨entry, hentry, rfl⟩ := List.mem_map.1 (hfilled.mem_names_iff.2 hname)
    exact (mem_visible.1 (hall ▸ hentry)).2
  · intro hfree
    have hall : visible captured = captured := by
      refine List.filter_eq_self.2 fun entry hentry => ?_
      have hname : CapturesAs path entry.1 := hfilled.mem_names_iff.1 (List.mem_map_of_mem hentry)
      exact (List.mem_filter.1 (mem_visible.2 ⟨hentry, hfree _ hname⟩)).2
    rwa [hall]

/-- **Parameters recover the path.** A request that runs the action of a route goes through the route's middlewares with
what the path has captured, less what stands under names of the host. Its parameters stand under names of the route's own
path, and each is decoded by itself. They are all of the path's captures in order, and put back they give the requested
path, exactly if the path captures under no name of the host. -/
theorem recovers_iff {router : Router ι ρ ω} {server : Server ι ω} (h : router.OnHost)
    (bound : router.server = some server) {visit : Visit} {route : Route ι ω} {captured : List (Text × Text)}
    (handled : handling server visit.request.verb visit.request.path = .action route captured) :
    route ∈ server.routes ∧
      (∀ site, answer server visit site =
        let given := guarded visit.clock route route.dispatch (visit.capturing captured) site
        (visit.dressed given.1, given.2)) ∧
      (∀ reached, (∀ m ∈ route.middleware, m.middleware.KeepsCaptures) →
        Middleware.reaching visit.clock (route.middleware.map (·.middleware)) (visit.capturing captured) =
          some reached → reached.captures = some (visible captured)) ∧
      Recovers captured route.pattern.path visit.request.path ∧
      (∀ param ∈ visible captured, CapturesAs route.pattern.path param.1) ∧
      (∀ values, decodeCaptures (visible captured) = .ok values ↔
        List.Forall₂ (fun param value => value.1 = param.1 ∧ Text.Percent.decode? param.2 = some value.2)
          (visible captured) values) ∧
      (Recovers (visible captured) route.pattern.path visit.request.path ↔
        ∀ name, CapturesAs route.pattern.path name → ¬Reserved name) := by
  obtain ⟨⟨_, _, _, hroute, -⟩, htakes⟩ := routedTo_of_handling (h.holding bound) handled
  obtain ⟨accepted, hstanding, hserver⟩ := h.standing
  obtain ⟨mount, raw, hparse⟩ := hstanding.composed route ((hserver server bound).2 ▸ hroute)
  -- the segments of the route are those that the parts of its path are written for
  have hwritten : route.pattern.segments = (route.pattern.path.split '/').map Segment.written ∧
      Segment.Grammatical (route.pattern.path.split '/') := by
    rcases Pattern.parse_cases (Path.compose mount raw) with ⟨fault, herror, -⟩ | ⟨hok, hgrammatical⟩
    · cases herror.symm.trans hparse
    · rw [← Except.ok.inj (hok.symm.trans hparse)]
      exact ⟨rfl, hgrammatical⟩
  obtain ⟨hsegments, hgrammatical⟩ := hwritten
  rw [hsegments] at htakes
  obtain ⟨filled, hfilled, -, hjoin⟩ :=
    Segment.filled_of_takes (fun part hpart name => hgrammatical.name?_written hpart) htakes
  have hrecovers : Recovers captured route.pattern.path visit.request.path :=
    ⟨filled, hfilled, hjoin.trans (Text.join_split '/' visit.request.path)⟩
  refine ⟨hroute, fun site => ?_, fun reached hkeeps hreached => ?_, hrecovers, fun param hparam => ?_,
    fun values => decodeCaptures_eq_ok_iff, recovers_visible_iff hrecovers⟩
  · have hanswered := handles server visit.request.verb visit.request.path visit.clock visit.identified site rfl rfl
    rw [handled] at hanswered
    rw [answer_eq, hanswered]
    rfl
  · refine Middleware.captures_reaching ?_ hreached
    intro m hm
    obtain ⟨binding, hbinding, rfl⟩ := List.mem_map.1 hm
    exact hkeeps binding hbinding
  · exact hfilled.mem_names_iff.1 (List.mem_map_of_mem (mem_visible.1 hparam).1)

/-- whether the handling runs an action that passes the test -/
def Handling.acts (test : Route ι ω → List (Text × Text) → Bool) : Handling ι ω → Bool
  | .action route captured => test route captured
  | _ => false

theorem Handling.exists_of_acts {test : Route ι ω → List (Text × Text) → Bool} {handling : Handling ι ω}
    (h : handling.acts test = true) :
    ∃ route captured, handling = .action route captured ∧ test route captured = true := by
  cases handling with
  | action route captured => exact ⟨route, captured, rfl, h⟩
  | verbRefused | fallback | fallbackRefused | unmatched => cases h

/-- `GET /files/a%20b/c` where `/files/*rest` and `/files/new/:id` are paths for GET. -/
theorem recovers_iff_files :
    let visit : Visit := { request := .receive "GET" "/files/a%20b/c" [] [], clock := 0, freshId := [] }
    ∃ router site server route captured,
      Sample.outcome (Host.server {}) ["get /files/*rest Page@show", "get /files/new/:id Page@show"] =
        (.ok router, site) ∧
      router.server = some server ∧
      handling server visit.request.verb visit.request.path = .action route captured ∧
      visible captured = [("rest".toList, "a%20b/c".toList)] ∧
      decodeCaptures (visible captured) = .ok [("rest".toList, "a b/c".toList)] ∧
      Recovers (visible captured) route.pattern.path visit.request.path ∧
      ∀ name, CapturesAs route.pattern.path name → ¬Reserved name := by
  intro visit
  have hheld : (Router.hostOf (Sample.outcome (Host.server {})
      ["get /files/*rest Page@show", "get /files/new/:id Page@show"])).any (fun server =>
        (handling server visit.request.verb visit.request.path).acts fun _ captured =>
          captured = [("rest".toList, "a%20b/c".toList)]) = true := by
    decide +kernel
  obtain ⟨router, site, server, ran, bound, hacts⟩ := Router.exists_of_hostOf hheld
  obtain ⟨route, captured, handled, htest⟩ := Handling.exists_of_acts hacts
  obtain rfl : captured = [("rest".toList, "a%20b/c".toList)] := of_decide_eq_true htest
  obtain ⟨-, -, -, hrecovers, -, hdecoded, hiff⟩ := recovers_iff (Sample.onHost ran) bound handled
  have hvisible : visible [("rest".toList, "a%20b/c".toList)] = [("rest".toList, "a%20b/c".toList)] := by decide
  have hgiven : Recovers (visible [("rest".toList, "a%20b/c".toList)]) route.pattern.path visit.request.path :=
    hvisible.symm ▸ hrecovers
  refine ⟨router, site, server, route, _, ran, bound, handled, hvisible, (hdecoded _).2 ?_, hgiven, hiff.1 hgiven⟩
  rw [hvisible]
  exact .cons ⟨rfl, by decide +kernel⟩ .nil

/-- A capture under a name of the host is lost: `GET /a/x` where `/a/:__private__axum_fallback` is the path. -/
theorem reserved_capture_lost :
    let visit : Visit := { request := .receive "GET" "/a/x" [] [], clock := 0, freshId := [] }
    ∃ router site server route captured,
      Sample.outcome (Host.server {}) ["get /a/:__private__axum_fallback Page@show"] = (.ok router, site) ∧
      router.server = some server ∧
      handling server visit.request.verb visit.request.path = .action route captured ∧
      CapturesAs route.pattern.path "__private__axum_fallback".toList ∧ visible captured = [] ∧
      ¬Recovers (visible captured) route.pattern.path visit.request.path := by
  intro visit
  have hheld : (Router.hostOf (Sample.outcome (Host.server {})
      ["get /a/:__private__axum_fallback Page@show"])).any (fun server =>
        (handling server visit.request.verb visit.request.path).acts fun route captured =>
          visible captured = [] ∧ ":__private__axum_fallback".toList ∈ route.pattern.path.split '/') = true := by
    decide +kernel
  obtain ⟨router, site, server, ran, bound, hacts⟩ := Router.exists_of_hostOf hheld
  obtain ⟨route, captured, handled, htest⟩ := Handling.exists_of_acts hacts
  obtain ⟨hvisible, hpart⟩ := of_decide_eq_true htest
  have hname : CapturesAs route.pattern.path "__private__axum_fallback".toList :=
    ⟨_, hpart, .segment (Segment.isWord_iff.1 (by decide))⟩
  refine ⟨router, site, server, route, captured, ran, bound, handled, hname, hvisible, ?_⟩
  rw [hvisible]
  rintro ⟨filled, hfilled, -⟩
  exact absurd (hfilled.mem_names_iff.2 hname) List.not_mem_nil

end Host

end Switchboard
