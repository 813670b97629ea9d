/-
When a new router accepts a batch.

Three accumulators are filled in the order of the lines: the shapes taken, the names of capture positions, and the
cache. None of them lets the order matter. A line resolves to the route of its blueprint, whatever came before, and the
table accepts routes that stand beside each other two by two.

- `Compatible`: two lines do not have both the same method and the same shape, and name captures at one place alike
  (`Pattern.SameNames`, which is what the table's names come to: `sameNames_iff`).
- `resolveBatch_fresh_iff`: a batch passes exactly if its lines have blueprints, any two of them beside each other.
- `acceptance_pairwise`: so a batch is accepted exactly if each line is accepted alone and any two are compatible, and
  in another order it is accepted with the same routes.
-/
import Switchboard.Proofs.Provision

namespace Switchboard

variable {ι ρ ω : Type}

/-! ## Names of captures -/

namespace Pattern

/-- Wherever both patterns have a capture of one kind after segments of the same shapes, they give it one name. -/
structure SameNames (p q : Pattern) : Prop where
  captures : ∀ before before' m n rest rest', p.segments = before ++ .capture m :: rest →
    q.segments = before' ++ .capture n :: rest' → before.map Segment.shape = before'.map Segment.shape → m = n
  catchAlls : ∀ before before' m n rest rest', p.segments = before ++ .catchAll m :: rest →
    q.segments = before' ++ .catchAll n :: rest' → before.map Segment.shape = before'.map Segment.shape → m = n

/-- captures of one kind after segments of the same shapes are recorded under one shape -/
theorem NamesAgree.eq_of_shapes {p q : Pattern} (h : NamesAgree p q) {before before' rest rest' : List Segment}
    {s t : Segment} {m n : Text} (hp : p.segments = before ++ s :: rest) (hq : q.segments = before' ++ t :: rest')
    (hs : s.name? = some m) (ht : t.name? = some n) (hshape : s.shape = t.shape)
    (hbefore : before.map Segment.shape = before'.map Segment.shape) : m = n := by
  have hkey : (before ++ [s]).map Segment.shape = (before' ++ [t]).map Segment.shape := by
    simp [hbefore, hshape]
  have hm := mem_captures.2 ⟨before, s, rest, hp, hs, rfl⟩
  have hn := mem_captures.2 ⟨before', t, rest', hq, ht, congrArg (Text.join ['/']) hkey⟩
  exact h _ m n hm hn

theorem sameNames_iff {p q : Pattern} (hp : p.Sound) (hq : q.Sound) : SameNames p q ↔ NamesAgree p q := by
  constructor
  · rintro h shape m n hm hn
    obtain ⟨before, s, rest, hps, hs, rfl⟩ := mem_captures.1 hm
    obtain ⟨before', t, rest', hqs, ht, hkey⟩ := mem_captures.1 hn
    have hshapes := shapes_eq_of_join hp hq hps hqs hkey
    simp only [List.map_append, List.map_cons, List.map_nil] at hshapes
    obtain ⟨hbefore, hshape⟩ := List.append_inj' hshapes rfl
    -- a name tells a capture from text, and a shape one kind of capture from the other
    rcases Segment.same_kind hs ht (List.cons.inj hshape).1 with ⟨rfl, rfl⟩ | ⟨rfl, rfl⟩
    · exact h.captures before before' m n rest rest' hps hqs hbefore
    · exact h.catchAlls before before' m n rest rest' hps hqs hbefore
  · intro h
    exact
      { captures := fun before before' m n rest rest' hps hqs => h.eq_of_shapes hps hqs rfl rfl rfl
        catchAlls := fun before before' m n rest rest' hps hqs => h.eq_of_shapes hps hqs rfl rfl rfl }

end Pattern

namespace Router

/-! ## Compatible lines -/

/-- method and pattern of a line, read without any module -/
def readEntry (settings : RoutingSettings) (mount line : Text) : Except RouteError TableEntry := do
  let spec ← RouteLine.read line settings.delimiter
  let pattern ← Pattern.parse (Path.compose mount spec.path)
  pure (spec.method, pattern)

/-- two lines that can stand in one batch -/
def Compatible (settings : RoutingSettings) (mount a b : Text) : Prop :=
  ∀ e f, readEntry settings mount a = .ok e → readEntry settings mount b = .ok f →
    ¬(e.1 = f.1 ∧ e.2.shape = f.2.shape) ∧ e.2.SameNames f.2

theorem readEntry_of_blueprint {router : Router ι ρ ω} {mount line : Text} {blueprint : Blueprint ι ω}
    (h : router.blueprint mount line = .ok blueprint) :
    readEntry router.settings mount line = .ok blueprint.entry ∧ blueprint.pattern.Sound := by
  obtain ⟨spec, pattern, loaded, action, middleware, hread, hparse, -, -, -, rfl⟩ := blueprint_eq_ok h
  refine ⟨?_, (Pattern.parse_sound hparse).2⟩
  exact except_bind_eq_ok.2 ⟨spec, hread, except_bind_eq_ok.2 ⟨pattern, hparse, rfl⟩⟩

/-- lines with blueprints are compatible exactly if their entries stand beside each other -/
theorem compatible_iff {router : Router ι ρ ω} {mount a b : Text} {p q : Blueprint ι ω}
    (ha : router.blueprint mount a = .ok p) (hb : router.blueprint mount b = .ok q) :
    Compatible router.settings mount a b ↔ RouteTable.Beside p.entry q.entry := by
  obtain ⟨hp, hpsound⟩ := readEntry_of_blueprint ha
  obtain ⟨hq, hqsound⟩ := readEntry_of_blueprint hb
  have hbeside : RouteTable.Beside p.entry q.entry ↔
      ¬(p.method = q.method ∧ p.pattern.shape = q.pattern.shape) ∧ p.pattern.SameNames q.pattern := by
    rw [Pattern.sameNames_iff hpsound hqsound, not_and]
    rfl
  rw [hbeside]
  constructor
  · intro h
    exact h _ _ hp hq
  · intro h e f he hf
    obtain rfl : p.entry = e := Except.ok.inj (hp.symm.trans he)
    obtain rfl : q.entry = f := Except.ok.inj (hq.symm.trans hf)
    exact h

/-! ## Batches of a new router -/

/-- a router that has just been bound to the server -/
def fresh (source : ModuleSource ι ρ ω) (settings : RoutingSettings) (server : Server ι ω) (resource : Option ρ) :
    Router ι ρ ω :=
  { Router.empty source settings with server := some server, context := { server := server.handle, resource } }

def Accepts (router : Router ι ρ ω) (lines : List Text) (mount : Text) (site : Site ι ω) : Prop :=
  ∀ e site', router.route lines mount site ≠ (.error (.refused e), site')

/-- If the batch is registered, then its routes are built from the blueprints, in order, and are all that the router
lists and that the server has taken on. -/
def Registers (router : Router ι ρ ω) (lines : List Text) (mount : Text) (site : Site ι ω)
    (blueprints : List (Blueprint ι ω)) : Prop :=
  ∀ server router' site', router.server = some server → router.route lines mount site = (.ok router', site') →
    ∃ routes, router'.server = some (server.holding routes) ∧ router'.registered = routes.map Route.summary ∧
      List.Forall₂ (Blueprint.Built site'.instances) blueprints routes

section Fresh

variable {router : Router ι ρ ω} {mount : Text} {site : Site ι ω} {lines : List Text}

theorem accepts_iff {server : Server ι ω} (bound : router.server = some server) :
    router.Accepts lines mount site ↔
      ∃ routes table s, router.resolveBatch lines mount site = .ok (routes, table) s := by
  cases hresolve : router.resolveBatch lines mount site with
  | error e s =>
    constructor
    · intro h
      exact absurd (route_refused bound hresolve) (h e s.2)
    · rintro ⟨routes, table, s', h⟩
      cases h
  | ok found s =>
    obtain ⟨routes, table⟩ := found
    refine ⟨fun _ => ⟨routes, table, s, rfl⟩, fun _ e site' h => ?_⟩
    by_cases hold : server.CanHold routes
    · rw [route_registered bound hresolve hold] at h
      cases h
    · obtain ⟨before, route, after, -, -, heq⟩ := route_unhostable bound hresolve hold
      rw [heq] at h
      cases h

/-- where the server can hold whatever it is handed, the router goes on after an accepted batch -/
theorem accepts_iff_ok {server : Server ι ω} (bound : router.server = some server)
    (willing : ∀ held route, server.admits held route = true) :
    router.Accepts lines mount site ↔ ∃ router' site', router.route lines mount site = (.ok router', site') := by
  constructor
  · intro h
    obtain ⟨routes, table, s, hresolve⟩ := (accepts_iff bound).1 h
    exact ⟨_, _, route_registered bound hresolve fun before route after _ => willing _ route⟩
  · rintro ⟨router', site', hroute⟩ e site'' h
    rw [h] at hroute
    cases hroute

theorem Blueprints.unique {blueprints others : List (Blueprint ι ω)} (h : router.Blueprints mount lines blueprints)
    (h' : router.Blueprints mount lines others) : blueprints = others :=
  List.right_unique_forall₂' (fun _ _ _ hb hc => Except.ok.inj (hb.symm.trans hc)) h h'

theorem Blueprints.sound {blueprints : List (Blueprint ι ω)} (h : router.Blueprints mount lines blueprints) :
    ∀ entry ∈ blueprints.map Blueprint.entry, entry.2.Sound := by
  intro entry hentry
  obtain ⟨blueprint, hblueprint, rfl⟩ := List.mem_map.1 hentry
  obtain ⟨line, -, hline⟩ := exists_of_mem_right h hblueprint
  exact (readEntry_of_blueprint hline).2

/-- lines are compatible two by two exactly if their blueprints stand beside each other -/
theorem Blueprints.pairwise_iff {blueprints : List (Blueprint ι ω)} (h : router.Blueprints mount lines blueprints) :
    lines.Pairwise (Compatible router.settings mount) ↔
      (blueprints.map Blueprint.entry).Pairwise RouteTable.Beside := by
  induction h with
  | nil => simp
  | @cons line blueprint lines blueprints hline hlines ih =>
    rw [List.map_cons, List.pairwise_cons, List.pairwise_cons, ih]
    refine and_congr_left' ⟨fun hall entry hentry => ?_, fun hall other hother => ?_⟩
    · obtain ⟨found, hfound, rfl⟩ := List.mem_map.1 hentry
      obtain ⟨other, hother, hblueprint⟩ := exists_of_mem_right hlines hfound
      exact (compatible_iff hline hblueprint).1 (hall other hother)
    · obtain ⟨found, hfound, hblueprint⟩ := exists_of_mem_left hlines hother
      exact (compatible_iff hline hblueprint).2 (hall _ (List.mem_map_of_mem hfound))

end Fresh

section Pairs

variable {source : ModuleSource ι ρ ω} {settings : RoutingSettings} {server : Server ι ω} {resource : Option ρ}

theorem backed_opening (mount : Text) (site : Site ι ω) :
    ModuleCache.Backed source (fresh source settings server resource).context
      ({}, (fresh source settings server resource).opening mount site) :=
  ModuleCache.backed_empty source _ _

/-- a batch that passes has blueprints, any two of which can stand in one table, and its routes are built from them -/
theorem blueprints_of_resolveBatch {lines : List Text} {mount : Text} {site : Site ι ω} {routes : List (Route ι ω)}
    {table : RouteTable} {s : ResolutionState ι ω}
    (h : (fresh source settings server resource).resolveBatch lines mount site = .ok (routes, table) s) :
    ∃ blueprints, (fresh source settings server resource).Blueprints mount lines blueprints ∧
      (blueprints.map Blueprint.entry).Pairwise RouteTable.Beside ∧
      List.Forall₂ (Blueprint.Built s.2.instances) blueprints routes := by
  obtain ⟨hresolves, henter⟩ := resolveAll_eq_ok h
  obtain ⟨-, blueprints, hblueprints, hbuilt⟩ := hresolves.built (backed_opening mount site)
  rw [entries_of_built hbuilt] at henter
  exact ⟨blueprints, hblueprints, (RouteTable.exists_enterAll_iff hblueprints.sound).1 ⟨table, henter⟩, hbuilt⟩

/-- A new router accepts exactly the batches with blueprints of which any two can stand in one table. -/
theorem fresh_accepts_iff {lines : List Text} {mount : Text} {site : Site ι ω} :
    (fresh source settings server resource).Accepts lines mount site ↔
      ∃ blueprints, (fresh source settings server resource).Blueprints mount lines blueprints ∧
        (blueprints.map Blueprint.entry).Pairwise RouteTable.Beside := by
  rw [accepts_iff rfl]
  constructor
  · rintro ⟨routes, table, s, hresolve⟩
    obtain ⟨blueprints, hblueprints, hbeside, -⟩ := blueprints_of_resolveBatch hresolve
    exact ⟨blueprints, hblueprints, hbeside⟩
  · rintro ⟨blueprints, hblueprints, hbeside⟩
    obtain ⟨routes, s, hresolves⟩ := hblueprints.exists_resolves (backed_opening mount site)
    obtain ⟨-, others, hothers, hbuilt⟩ := hresolves.built (backed_opening mount site)
    obtain rfl := hblueprints.unique hothers
    obtain ⟨table, henter⟩ := (RouteTable.exists_enterAll_iff hblueprints.sound).2 hbeside
    rw [← entries_of_built hbuilt] at henter
    exact ⟨routes, table, s, hresolves.resolveAll henter 1⟩

theorem Blueprints.registers {lines : List Text} {mount : Text} {blueprints : List (Blueprint ι ω)}
    (h : (fresh source settings server resource).Blueprints mount lines blueprints) (site : Site ι ω) :
    (fresh source settings server resource).Registers lines mount site blueprints := by
  intro held router' site' bound hroute
  cases bound
  have hsucceeds : Succeeds (fresh source settings server resource) site (.route lines mount) router' site' :=
    perform_eq_ok hroute
  cases hsucceeds with
  | registered hbatch hbound hresolve hold =>
    cases hbatch
    cases hbound
    obtain ⟨others, hothers, -, hbuilt⟩ := blueprints_of_resolveBatch hresolve
    obtain rfl := h.unique hothers
    exact ⟨_, rfl, rfl, hbuilt⟩

theorem fresh_accepts_singleton_iff {line mount : Text} {site : Site ι ω} :
    (fresh source settings server resource).Accepts [line] mount site ↔
      ∃ blueprint, (fresh source settings server resource).blueprint mount line = .ok blueprint := by
  rw [fresh_accepts_iff]
  constructor
  · rintro ⟨blueprints, hblueprints, -⟩
    obtain ⟨blueprint, -, hline⟩ := exists_of_mem_left hblueprints List.mem_cons_self
    exact ⟨blueprint, hline⟩
  · rintro ⟨blueprint, hline⟩
    exact ⟨[blueprint], .cons hline .nil, List.pairwise_singleton _ _⟩

theorem exists_blueprints {router : Router ι ρ ω} {mount : Text} {lines : List Text}
    (h : ∀ line ∈ lines, ∃ blueprint, router.blueprint mount line = .ok blueprint) :
    ∃ blueprints, router.Blueprints mount lines blueprints := by
  induction lines with
  | nil => exact ⟨[], .nil⟩
  | cons line lines ih =>
    obtain ⟨⟨blueprint, hline⟩, hlines⟩ := List.forall_mem_cons.1 h
    obtain ⟨blueprints, hblueprints⟩ := ih hlines
    exact ⟨blueprint :: blueprints, .cons hline hblueprints⟩

/-- Acceptance is a matter of single lines and of pairs of lines. -/
theorem fresh_accepts_iff_pairwise {lines : List Text} {mount : Text} {site : Site ι ω} :
    (fresh source settings server resource).Accepts lines mount site ↔
      (∀ line ∈ lines, (fresh source settings server resource).Accepts [line] mount site) ∧
        lines.Pairwise (Compatible settings mount) := by
  constructor
  · intro h
    obtain ⟨blueprints, hblueprints, hbeside⟩ := fresh_accepts_iff.1 h
    refine ⟨fun line hline => ?_, hblueprints.pairwise_iff.2 hbeside⟩
    obtain ⟨blueprint, -, hblueprint⟩ := exists_of_mem_left hblueprints hline
    exact fresh_accepts_singleton_iff.2 ⟨blueprint, hblueprint⟩
  · rintro ⟨halone, hpairs⟩
    obtain ⟨blueprints, hblueprints⟩ := exists_blueprints fun line hline =>
      fresh_accepts_singleton_iff.1 (halone line hline)
    exact fresh_accepts_iff.2 ⟨blueprints, hblueprints, hblueprints.pairwise_iff.1 hpairs⟩

/-- an accepted batch in another order is accepted, and stands for the same routes in that order -/
theorem Accepts.perm {lines lines' : List Text} {mount : Text} {site : Site ι ω}
    (h : (fresh source settings server resource).Accepts lines mount site) (hperm : lines.Perm lines') :
    (fresh source settings server resource).Accepts lines' mount site ∧
      ∃ blueprints blueprints', blueprints.Perm blueprints' ∧
        (fresh source settings server resource).Registers lines mount site blueprints ∧
        (fresh source settings server resource).Registers lines' mount site blueprints' := by
  obtain ⟨blueprints, hblueprints, hbeside⟩ := fresh_accepts_iff.1 h
  obtain ⟨blueprints', hlines', hsame⟩ := List.perm_comp_forall₂ hperm.symm hblueprints
  have hblueprints' : (fresh source settings server resource).Blueprints mount lines' blueprints' := hlines'
  have hbeside' : (blueprints'.map Blueprint.entry).Pairwise RouteTable.Beside :=
    ((hsame.map Blueprint.entry).pairwise_iff fun h => RouteTable.Beside.symm h).2 hbeside
  exact ⟨fresh_accepts_iff.2 ⟨blueprints', hblueprints', hbeside'⟩, blueprints, blueprints', hsame.symm,
    hblueprints.registers site, hblueprints'.registers site⟩

end Pairs

/-- **Acceptance is pairwise.** Of a router that is bound to any server and has no routes:
it accepts a batch exactly if it accepts each line alone and any two lines are compatible;
it accepts a batch that it accepts in any other order too, and registers the same routes in that order;
and where the server holds whatever it is handed, the routes of an accepted batch are all registered. -/
theorem acceptance_pairwise (source : ModuleSource ι ρ ω) (settings : RoutingSettings) (server : Server ι ω)
    (resource : Option ρ) (lines : List Text) (mount : Text) (site : Site ι ω) :
    ((fresh source settings server resource).Accepts lines mount site ↔
      (∀ line ∈ lines, (fresh source settings server resource).Accepts [line] mount site) ∧
        lines.Pairwise (Compatible settings mount)) ∧
    (∀ lines', lines.Perm lines' → (fresh source settings server resource).Accepts lines mount site →
      (fresh source settings server resource).Accepts lines' mount site ∧
        ∃ blueprints blueprints', blueprints.Perm blueprints' ∧
          (fresh source settings server resource).Registers lines mount site blueprints ∧
          (fresh source settings server resource).Registers lines' mount site blueprints') ∧
    ((∀ held route, server.admits held route = true) →
      ((fresh source settings server resource).Accepts lines mount site ↔
        ∃ router' site', (fresh source settings server resource).route lines mount site = (.ok router', site'))) :=
  ⟨fresh_accepts_iff_pairwise, fun _ hperm haccepts => haccepts.perm hperm, fun willing => accepts_iff_ok rfl willing⟩

/-- Two methods on one path, in both orders. -/
theorem acceptance_pairwise_users :
    ((fresh Sample.source {} (Server.recording {}) none).Accepts
        ["get /users/:id Page@show", "post /users/:id Page@show auth"] [] { world := () } ↔
      (∀ line ∈ (["get /users/:id Page@show", "post /users/:id Page@show auth"] : List Text),
        (fresh Sample.source {} (Server.recording {}) none).Accepts [line] [] { world := () }) ∧
        List.Pairwise (Compatible {} []) ["get /users/:id Page@show", "post /users/:id Page@show auth"]) ∧
    (fresh Sample.source {} (Server.recording {}) none).Accepts
      ["post /users/:id Page@show auth", "get /users/:id Page@show"] [] { world := () } := by
  obtain ⟨hpairs, hreordered, hwilling⟩ := acceptance_pairwise Sample.source {} (Server.recording {}) none
    ["get /users/:id Page@show", "post /users/:id Page@show auth"] [] { world := () }
  have hheld : (hostOf ((fresh Sample.source {} (Server.recording {}) none).route
      ["get /users/:id Page@show", "post /users/:id Page@show auth"] [] { world := () })).any
        (·.routes.length = 2) = true := by
    decide +kernel
  obtain ⟨router, site, -, hroute, -, -⟩ := exists_of_hostOf hheld
  have haccepts := (hwilling fun held route => rfl).2 ⟨router, site, hroute⟩
  exact ⟨hpairs, (hreordered _ (List.Perm.swap _ _ []) haccepts).1⟩

end Router

end Switchboard
