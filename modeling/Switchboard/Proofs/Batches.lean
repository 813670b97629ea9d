/-
Batches are registered as a whole or not at all.

Main statement: `route_all_or_none`. A batch on an initialised router whose server holds whatever it is handed is
refused with the error of the first line that fails, while nothing is handed to the server and no counter moves, or
every line's route is handed to the server, in the order of the lines and as the lines say.
-/
import Switchboard.Proofs.Runs

namespace Switchboard.Router

variable {ι ρ ω : Type}

/-- The error of the first line that fails when each line is resolved and then entered after the routes accepted
earlier and those of the lines before it. -/
def FirstFailure (router : Router ι ρ ω) (mount : Text) (accepted : List (Route ι ω)) (s : ResolutionState ι ω)
    (lines : List Text) (e : RouteError) : Prop :=
  ∃ before line after routes t table, lines = before ++ line :: after ∧ Resolves router mount s before routes t ∧
    RouteTable.empty.enterAll ((accepted ++ routes).map Route.entry) = .ok table ∧ Fails router mount table line t e

/-- Every line resolves, and the routes enter after those accepted earlier. -/
def Passes (router : Router ι ρ ω) (mount : Text) (accepted : List (Route ι ω)) (s : ResolutionState ι ω)
    (lines : List Text) (routes : List (Route ι ω)) : Prop :=
  ∃ t table, Resolves router mount s lines routes t ∧
    RouteTable.empty.enterAll ((accepted ++ routes).map Route.entry) = .ok table

/-- The batch is refused for the first line that fails; nothing was handed to the server and no counter moved. -/
def RefusedWhole (router : Router ι ρ ω) (accepted : List (Route ι ω)) (lines : List Text) (mount : Text)
    (site : Site ι ω) : Prop :=
  ∃ e site', router.route lines mount site = (.error (.refused e), site') ∧
    FirstFailure router mount accepted (router.cache, router.opening mount site) lines e ∧
    site'.registrations = site.registrations ∧ site'.measures = site.measures

/-- One route per line was handed to the server, in order and each as its line says; the listing and the counters of
registered routes grew by these. -/
def RegisteredWhole (router : Router ι ρ ω) (server : Server ι ω) (accepted : List (Route ι ω)) (lines : List Text)
    (mount : Text) (site : Site ι ω) : Prop :=
  ∃ routes router' site', router.route lines mount site = (.ok router', site') ∧
    Passes router mount accepted (router.cache, router.opening mount site) lines routes ∧
    List.Forall₂ (fun line route => ∃ spec, RouteLine.read line router.settings.delimiter = .ok spec ∧
      Stands router.settings mount spec route) lines routes ∧
    router'.server = some (server.holding routes) ∧
    site'.registrations = site.registrations ++ routes.map Route.summary ∧
    router'.registered = router.registered ++ routes.map Route.summary ∧
    site'.measures = site.measures ++ routes.map fun route => .registered route.method

/-- **All or none.** On a server that holds whatever it is handed, a batch of an initialised router is refused as a
whole or registered as a whole. The routes accepted earlier are those that the router lists, the last of the server. -/
theorem route_all_or_none {source : ModuleSource ι ρ ω} {settings : RoutingSettings} {site₀ site : Site ι ω}
    {calls : List (Call ι ρ ω)} {router : Router ι ρ ω} {server : Server ι ω}
    (ran : (Router.empty source settings).run site₀ calls = (.ok router, site)) (bound : router.server = some server)
    (willing : ∀ held route, server.admits held route = true) (lines : List Text) (mount : Text) :
    ∃ accepted, accepted <:+ server.routes ∧ accepted.map Route.summary = router.registered ∧
      (RefusedWhole router accepted lines mount site ∨ RegisteredWhole router server accepted lines mount site) := by
  have hempty : Standing (fun _ => True) (Router.empty source settings) [] := standing_empty source settings
  obtain ⟨accepted, hstanding⟩ := run_standing hempty (fun _ _ _ _ => trivial) ran
  rw [List.nil_append] at hstanding
  obtain ⟨given, -, -, hroutes, -⟩ := hstanding.bound server bound
  refine ⟨accepted, ⟨given.routes, hroutes.symm⟩, hstanding.listed.symm, ?_⟩
  obtain ⟨hquietOk, hquietError⟩ := resolveBatch_quiet router lines mount site
  -- what enters the table after its present content enters an empty table after the accepted routes
  have henter : ∀ routes : List (Route ι ω),
      RouteTable.empty.enterAll ((accepted ++ routes).map Route.entry) =
        router.table.enterAll (routes.map Route.entry) := by
    intro routes
    rw [List.map_append, RouteTable.enterAll_append hstanding.entered]
  cases hresolve : router.resolveBatch lines mount site with
  | error e s =>
    left
    obtain ⟨before, line, after, routes, t, table, hlines, hresolves, htable, hfails⟩ := resolveAll_eq_error hresolve
    have hquiet := hquietError e s hresolve
    refine ⟨e, s.2, route_refused bound hresolve, ?_, hquiet.registrations, hquiet.measures⟩
    exact ⟨before, line, after, routes, t, table, hlines, hresolves, (henter routes).trans htable, hfails⟩
  | ok found s =>
    right
    obtain ⟨routes, table⟩ := found
    obtain ⟨hresolves, htable⟩ := resolveAll_eq_ok hresolve
    have hquiet := hquietOk _ s hresolve
    have hold : server.CanHold routes := fun before route after _ => willing _ route
    refine ⟨routes, _, _, route_registered bound hresolve hold, ?_, hresolves.stands, rfl, ?_, rfl, ?_⟩
    · exact ⟨s, table, hresolves, (henter routes).trans htable⟩
    · simp [hquiet.registrations]
    · simp [hquiet.measures]

/-- A second route for `/users/:id` under another name, after a line that is fine. -/
theorem route_all_or_none_users :
    ∃ router site server,
      Sample.outcome (Server.recording {}) ["get /users/:id Page@show"] = (.ok router, site) ∧
      router.server = some server ∧ (∀ held route, server.admits held route = true) ∧
      ∃ accepted, accepted <:+ server.routes ∧ accepted.map Route.summary = router.registered ∧
        (RefusedWhole router accepted ["post /users Page@show auth", "get /users/:name Page@show"] [] site ∨
          RegisteredWhole router server accepted ["post /users Page@show auth", "get /users/:name Page@show"] []
            site) := by
  have hheld : (hostOf (Sample.outcome (Server.recording {}) ["get /users/:id Page@show"])).any
      (·.routes.length = 1) = true := by
    decide +kernel
  obtain ⟨router, site, server, ran, bound, -⟩ := exists_of_hostOf hheld
  have willing : ∀ held route, server.admits held route = true := by
    have hempty : Standing (fun offered : Server Unit Unit => offered = Server.recording {})
        (Router.empty Sample.source {}) [] := standing_empty Sample.source {}
    obtain ⟨accepted, hstanding⟩ := run_standing hempty Sample.offered ran
    obtain ⟨given, rfl, hadmits, -⟩ := hstanding.bound server bound
    intro held route
    rw [hadmits]
    rfl
  exact ⟨router, site, server, ran, bound, willing, route_all_or_none ran bound willing _ _⟩

end Switchboard.Router
