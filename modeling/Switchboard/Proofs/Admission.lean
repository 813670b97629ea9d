/-
What a batch can break the host with after it has passed.

The table refuses most of what the host cannot hold. It lets two things through, and these are all:

- a path with more single captures than the host has labels for;
- a path with a capture where a path registered before it has a catch-all, or the other way round (`Crosses`): the
  shapes differ, and so do the capture positions.

`admits_iff` says so of routes that the table has accepted. `unhostable_iff_breaks` lifts it to whole runs of calls on
a router with the host behind it.
-/
import Switchboard.Proofs.Hosting

namespace Switchboard

namespace Path

theorem collapse_sep (t : Text) : ∃ rest, collapse ('/' :: t) = '/' :: rest := by
  induction t with
  | nil => exact ⟨[], rfl⟩
  | cons c t ih =>
    by_cases hc : c = '/'
    · subst hc
      simpa only [collapse] using ih
    · exact ⟨collapse (c :: t), by simp [collapse, hc]⟩

@[simp] theorem startsWith_compose (mount raw : Text) : Text.startsWith ['/'] (compose mount raw) = true := by
  obtain ⟨rest, hrest⟩ := collapse_sep (mount ++ ['/'] ++ raw)
  have hcompose : compose mount raw = '/' :: rest := by simpa [compose] using hrest
  simp [hcompose, Text.startsWith, Text.after?]

end Path

/-! ## Paths that cross -/

/-- one path has a capture where the other has a catch-all, after segments that are alike -/
inductive Crosses : List Segment → List Segment → Prop
  | caught (name other : Text) (rest rest' : List Segment) :
      Crosses (.capture name :: rest) (.catchAll other :: rest')
  | catching (name other : Text) (rest rest' : List Segment) :
      Crosses (.catchAll name :: rest) (.capture other :: rest')
  | past {s t : Segment} {ps qs : List Segment} : s.Alike t → Crosses ps qs → Crosses (s :: ps) (t :: qs)

theorem Crosses.not_alike {ps qs : List Segment} (h : Crosses ps qs) : ¬List.Forall₂ Segment.Alike ps qs := by
  intro hall
  induction h with
  | caught name other rest rest' => exact (List.forall₂_cons.1 hall).1
  | catching name other rest rest' => exact (List.forall₂_cons.1 hall).1
  | past _ _ ih => exact ih (List.forall₂_cons.1 hall).2

theorem collide_cons_of_alike {s t : Segment} (h : s.Alike t) (ps qs : List Segment) :
    Pattern.collide (s :: ps) (t :: qs) = Pattern.collide ps qs := by
  cases s with
  | literal a =>
    cases t with
    | literal b =>
      obtain rfl : a = b := h
      simp [Pattern.collide]
    | capture n => exact h.elim
    | catchAll n => exact h.elim
  | capture m =>
    cases t with
    | literal b => exact h.elim
    | capture n => rfl
    | catchAll n => exact h.elim
  | catchAll m =>
    cases t with
    | literal b => exact h.elim
    | capture n => exact h.elim
    | catchAll n => rfl

/-- segments that are not alike collide only where a capture meets a catch-all -/
theorem crosses_of_collide_cons {s t : Segment} (h : ¬s.Alike t) {ps qs : List Segment}
    (hcollide : Pattern.collide (s :: ps) (t :: qs) = true) : Crosses (s :: ps) (t :: qs) := by
  cases s with
  | literal a =>
    cases t with
    | literal b =>
      have hab : a = b := by simp [Pattern.collide] at hcollide; exact hcollide.1
      exact absurd hab h
    | capture n => cases hcollide
    | catchAll n => cases hcollide
  | capture m =>
    cases t with
    | literal b => cases hcollide
    | capture n => exact absurd trivial h
    | catchAll n => exact .caught m n ps qs
  | catchAll m =>
    cases t with
    | literal b => cases hcollide
    | capture n => exact .catching m n ps qs
    | catchAll n => exact absurd trivial h

/-- Segments collide if they are alike all along or cross. -/
theorem collide_iff {ps qs : List Segment} :
    Pattern.collide ps qs = true ↔ List.Forall₂ Segment.Alike ps qs ∨ Crosses ps qs := by
  constructor
  · intro h
    induction ps generalizing qs with
    | nil =>
      cases qs with
      | nil => exact Or.inl .nil
      | cons t qs => cases h
    | cons s ps ih =>
      cases qs with
      | nil => cases s <;> cases h
      | cons t qs =>
        by_cases hst : s.Alike t
        · rw [collide_cons_of_alike hst] at h
          exact (ih h).imp (.cons hst) (.past hst)
        · exact Or.inr (crosses_of_collide_cons hst h)
  · rintro (h | h)
    · induction h with
      | nil => rfl
      | cons hst _ ih => rwa [collide_cons_of_alike hst]
    · induction h with
      | caught name other rest rest' => rfl
      | catching name other rest rest' => rfl
      | past hst _ ih => rwa [collide_cons_of_alike hst]

/-! ## Routes that the table has accepted -/

namespace Host

variable {ι ω : Type}

/-- what the host gives up on: too many captures, or a path that crosses one it holds -/
def Breaks (held : List (Route ι ω)) (route : Route ι ω) : Prop :=
  captureLimit < route.pattern.captureCount ∨
    ∃ other ∈ held, Crosses other.pattern.segments route.pattern.segments

/-- routes that a table can hold are compatible unless their paths cross -/
theorem compatible_iff {a b : Route ι ω} (ha : a.pattern.Sound) (hb : b.pattern.Sound)
    (h : RouteTable.Beside a.entry b.entry) :
    compatible a b = true ↔ ¬Crosses a.pattern.segments b.pattern.segments := by
  by_cases hpath : a.pattern.hostPath = b.pattern.hostPath
  · -- one path: the methods differ, since the shapes do not
    have hsegments : a.pattern.segments = b.pattern.segments := (Pattern.hostPath_eq_iff ha hb).1 hpath
    have hmethod : a.method ≠ b.method := h.method_ne hsegments
    have halike : List.Forall₂ Segment.Alike a.pattern.segments b.pattern.segments := by
      rw [hsegments]
      exact List.forall₂_same.2 fun s _ => Segment.alike_refl s
    simpa [compatible, hpath, hmethod] using fun hcrosses : Crosses _ _ => hcrosses.not_alike halike
  · -- two paths: not alike all along, since the names of their captures agree
    have halike : ¬List.Forall₂ Segment.Alike a.pattern.segments b.pattern.segments := by
      intro hall
      exact hpath ((Pattern.hostPath_eq_iff ha hb).2 (h.segments_eq hall))
    have hcollide : Pattern.collide a.pattern.segments b.pattern.segments = true ↔
        Crosses a.pattern.segments b.pattern.segments := by
      rw [collide_iff]
      exact or_iff_right halike
    rw [← hcollide]
    simp [compatible, hpath]

/-- Beside routes with which it can stand in a table, the host holds a route that does not break it. -/
theorem admits_iff {held : List (Route ι ω)} {route : Route ι ω}
    (hroot : Text.startsWith ['/'] route.pattern.path = true) (hsound : route.pattern.Sound)
    (hheld : ∀ other ∈ held, other.pattern.Sound ∧ RouteTable.Beside other.entry route.entry) :
    admits held route = true ↔ ¬Breaks held route := by
  have hall : (held.all fun other => compatible other route) = true ↔
      ∀ other ∈ held, ¬Crosses other.pattern.segments route.pattern.segments := by
    rw [List.all_eq_true]
    exact forall₂_congr fun other hother => compatible_iff (hheld other hother).1 hsound (hheld other hother).2
  rw [admits, Bool.and_eq_true, hall]
  simp [Breaks, isRooted, hroot]

end Host

/-! ## Runs of calls -/

namespace Router

variable {ι ρ ω : Type}

/-- a call ends in a route that the server cannot hold only after its batch has passed -/
theorem perform_unhostable_iff {router : Router ι ρ ω} {site : Site ι ω} {call : Call ι ρ ω} :
    (∃ path site', router.perform site call = (.error (.unhostable path), site')) ↔
      ∃ lines mount server routes table s, call.batch? router.settings = some (lines, mount) ∧
        router.server = some server ∧ router.resolveBatch lines mount site = .ok (routes, table) s ∧
        ¬server.CanHold routes := by
  constructor
  · rintro ⟨path, site', h⟩
    cases hbatch : call.batch? router.settings with
    | none =>
      -- neither of the two calls without a batch hands over a route
      cases call with
      | init server resource =>
        simp only [perform] at h
        cases h
      | catchGetRequests handler =>
        simp only [perform, catchGetRequests] at h
        cases bound : router.server <;> rw [bound] at h <;> cases h
      | route lines mount => cases hbatch
      | web lines => cases hbatch
      | api lines => cases hbatch
    | some batch =>
      obtain ⟨lines, mount⟩ := batch
      rw [perform_batch hbatch] at h
      cases bound : router.server with
      | none =>
        simp only [route, bound] at h
        cases h
      | some server =>
        cases hresolve : router.resolveBatch lines mount site with
        | error e s =>
          rw [route_refused bound hresolve] at h
          cases h
        | ok found s =>
          obtain ⟨routes, table⟩ := found
          refine ⟨lines, mount, server, routes, table, s, rfl, rfl, hresolve, fun hold => ?_⟩
          rw [route_registered bound hresolve hold] at h
          cases h
  · rintro ⟨lines, mount, server, routes, table, s, hbatch, bound, hresolve, hold⟩
    obtain ⟨before, route, after, -, -, heq⟩ := route_unhostable bound hresolve hold
    exact ⟨_, _, (perform_batch hbatch).trans heq⟩

/-- a batch that has passed can be held unless one of its routes breaks the host -/
theorem OnHost.canHold_iff {router : Router ι ρ ω} (h : OnHost router) {server : Server ι ω}
    (bound : router.server = some server) {lines : List Text} {mount : Text} {site : Site ι ω}
    {routes : List (Route ι ω)} {table : RouteTable} {s : ResolutionState ι ω}
    (hresolve : router.resolveBatch lines mount site = .ok (routes, table) s) :
    server.CanHold routes ↔
      ∀ before route after, routes = before ++ route :: after → ¬Host.Breaks (server.routes ++ before) route := by
  obtain ⟨accepted, hstanding, hserver⟩ := h.standing
  obtain ⟨hadmits, hroutes⟩ := hserver server bound
  have hentered : Entered table (accepted ++ routes) := hstanding.toEntered.batch hresolve
  -- every route of the batch stands beside the routes handed over before it
  have hone : ∀ before route after, routes = before ++ route :: after →
      (server.admits (server.routes ++ before) route = true ↔ ¬Host.Breaks (server.routes ++ before) route) := by
    rintro before route after rfl
    obtain ⟨mount', raw, hparse⟩ := hentered.composed route (by simp)
    have hpath : route.pattern.path = Path.compose mount' raw := (Pattern.parse_sound hparse).1
    rw [hadmits, hroutes]
    refine Host.admits_iff (hpath ▸ Path.startsWith_compose mount' raw) (hentered.sound route (by simp)) ?_
    intro other hother
    have hbeside := hentered.records.beside
    rw [← List.append_assoc, List.map_append, List.pairwise_append] at hbeside
    refine ⟨hentered.sound other ?_, hbeside.2.2 _ (List.mem_map_of_mem hother) _ (by simp)⟩
    rw [← List.append_assoc]
    exact List.mem_append_left _ hother
  exact forall₃_congr fun before route after => forall_congr' fun hsplit => hone before route after hsplit

/-- **When the host gives up.** On a router with the host behind it, a call ends in a route that the host cannot hold
exactly if its batch has passed and one of the routes breaks the host, beside those registered before it. -/
theorem unhostable_iff_breaks {router : Router ι ρ ω} (h : OnHost router) (site : Site ι ω) (call : Call ι ρ ω) :
    (∃ path site', router.perform site call = (.error (.unhostable path), site')) ↔
      ∃ lines mount server routes table s, call.batch? router.settings = some (lines, mount) ∧
        router.server = some server ∧ router.resolveBatch lines mount site = .ok (routes, table) s ∧
        ∃ before route after, routes = before ++ route :: after ∧ Host.Breaks (server.routes ++ before) route := by
  rw [perform_unhostable_iff]
  constructor
  · rintro ⟨lines, mount, server, routes, table, s, hbatch, bound, hresolve, hold⟩
    rw [h.canHold_iff bound hresolve] at hold
    push Not at hold
    exact ⟨lines, mount, server, routes, table, s, hbatch, bound, hresolve, hold⟩
  · rintro ⟨lines, mount, server, routes, table, s, hbatch, bound, hresolve, before, route, after, hsplit, hbreaks⟩
    refine ⟨lines, mount, server, routes, table, s, hbatch, bound, hresolve, fun hold => ?_⟩
    exact (h.canHold_iff bound hresolve).1 hold before route after hsplit hbreaks

/-- The theorem on a router that holds `/f/:id`, where every call is measured by it. -/
theorem unhostable_iff_breaks_capture :
    ∃ router site, Sample.outcome (Host.server {}) ["get /f/:id Page@show"] = (.ok router, site) ∧
      ((∃ path site', router.perform site (.web ["get /f/* Page@show"]) = (.error (.unhostable path), site')) ↔
        ∃ lines mount server routes table s,
          Call.batch? router.settings (.web ["get /f/* Page@show"] : Call Unit Unit Unit) = some (lines, mount) ∧
          router.server = some server ∧ router.resolveBatch lines mount site = .ok (routes, table) s ∧
          ∃ before route after, routes = before ++ route :: after ∧ Host.Breaks (server.routes ++ before) route) := by
  have hheld : (hostOf (Sample.outcome (Host.server {}) ["get /f/:id Page@show"])).any
      (·.routes.length = 1) = true := by
    decide +kernel
  obtain ⟨router, site, server, ran, -, -⟩ := exists_of_hostOf hheld
  exact ⟨router, site, ran, unhostable_iff_breaks (Sample.onHost ran) site _⟩

/-- A capture and a catch-all at one place pass the table and are too much for the host. -/
theorem unhostable_catchAll :
    ∃ site, Sample.outcome (Host.server {}) ["get /f/:id Page@show", "get /f/* Page@show"] =
      (.error (.unhostable "/f/*"), site) :=
  haltOf_eq_some (by decide +kernel)

end Router

end Switchboard
