/-
The application with its usual routes.

The usual route lines name two controllers, six actions and two middlewares. Whatever the rest of the settings is, a
build that goes through leaves no choice about them.

- `delimiter_of_blueprint`: the lines are written with one delimiter, and no other is accepted.
- `Plan` is a route without its number: `plans` gives the six of the application, in order, below a mount path.
- `exists_built_of_build`: the server has a route for each line, built from the line's blueprint.
- `laid_of_build`: under a mount path that captures nothing, the server's routes are those planned.
-/
import Switchboard.Proofs.Composed
import Switchboard.Proofs.Registering
import Switchboard.Proofs.Truthfulness

namespace Switchboard

variable {ι ρ ω : Type}

/-! ## Routes and the lines they are built from -/

/-- A batch that is registered adds a route for each line, built from its blueprint. -/
theorem Router.exists_built_of_route {router router' : Router ι ρ ω} {server : Server ι ω} {lines : List Text}
    {mount : Text} {site site' : Site ι ω} (h : router.route lines mount site = (.ok router', site'))
    (bound : router.server = some server)
    (hbacked : ModuleCache.Backed router.source router.context (router.cache, site)) :
    ∃ blueprints routes cache table, router.Blueprints mount lines blueprints ∧
      List.Forall₂ (Blueprint.Built site'.instances) blueprints routes ∧ site.instances <+: site'.instances ∧
      router' = router.taking server routes cache table := by
  have hsucceeds : Succeeds router site (.route lines mount) router' site' := perform_eq_ok h
  cases hsucceeds with
  | registered hbatch hbound hresolve _ =>
    cases hbatch
    obtain rfl := Option.some.inj (bound.symm.trans hbound)
    obtain ⟨hresolves, -⟩ := resolveAll_eq_ok hresolve
    obtain ⟨hadvances, blueprints, hblueprints, hbuilt⟩ := hresolves.built (backed_of_opening hbacked)
    refine ⟨blueprints, _, _, _, hblueprints, hbuilt, ?_, rfl⟩
    rw [← router.opening_instances mount site]
    exact hadvances.instances

namespace App

variable {order : VisitOrder} {settings : Settings} {manifest : Manifest} {store : UserStore}

/-- The server that is built has a route for each web line and each API line, built from its blueprint. -/
theorem exists_built_of_build {router : AppRouter} {site : AppSite} {server : Server Instance UserStore}
    (built : build order settings manifest store = (.ok router, site)) (bound : router.server = some server) :
    ∃ web api, (boundRouter order settings manifest).Blueprints [] settings.routes.web web ∧
      (boundRouter order settings manifest).Blueprints settings.routing.apiMount settings.routes.api api ∧
      List.Forall₂ (Blueprint.Built site.instances) (web ++ api) server.routes := by
  obtain ⟨first, site₁, second, site₂, hweb, hapi, hcatch⟩ := build_eq_ok_iff.1 built
  obtain ⟨-, hbacked⟩ := standing_of_run (List.prefix_append _ _) run_init
  obtain ⟨web, routes, cache, table, hwebLines, hwebBuilt, -, rfl⟩ := Router.exists_built_of_route hweb rfl hbacked
  obtain ⟨-, hbacked'⟩ := standing_of_run (List.prefix_append [_, _] _) (run_web hweb)
  obtain ⟨api, more, cache', table', hapiLines, hapiBuilt, hgrown, rfl⟩ :=
    Router.exists_built_of_route hapi rfl hbacked'
  refine ⟨web, api, hwebLines, hapiLines, ?_⟩
  cases hcatch
  obtain rfl := Option.some.inj bound
  show List.Forall₂ _ (web ++ api) ((Host.server settings.server.handle).routes ++ routes ++ more)
  exact List.rel_append (hwebBuilt.imp fun _ _ hone => hone.mono hgrown) hapiBuilt

/-! ## The usual lines -/

def usualRoutes : RouteSettings :=
  { web := ["GET / HomeController@index"]
    api :=
      ["GET /users UserController@getUsers", "GET /users/:id UserController@getUser",
        "POST /users UserController@saveUser requireJson", "DELETE /users/:id UserController@deleteUser",
        "GET /test UserController@test timestamp"] }

/-- The web line has a blueprint with one delimiter only: what stands before it must be the name of a controller, and
what stands after it that of an action. -/
theorem delimiter_of_blueprint {mount : Text} {blueprint : Blueprint Instance UserStore}
    (h : (boundRouter order settings manifest).blueprint mount "GET / HomeController@index" = .ok blueprint) :
    settings.routing.delimiter = ['@'] := by
  obtain ⟨spec, pattern, loaded, action, middleware, hread, -, hload, haction, -⟩ := Router.blueprint_eq_ok h
  obtain ⟨word, hwords, -, -⟩ := RouteLine.read_eq_ok hread
  have htarget : spec.controller ++ settings.routing.delimiter ++ spec.action = "HomeController@index".toList := by
    have hline : Text.words "GET / HomeController@index".toList =
        ["GET".toList, "/".toList, "HomeController@index".toList] := by decide
    rw [hline] at hwords
    simp only [List.cons.injEq] at hwords
    exact hwords.2.2.1.symm
  rcases named_of_controller hload with ⟨hname, rfl⟩ | ⟨hname, rfl⟩
  · rw [hname] at htarget
    exact absurd (congrArg List.head? htarget) (by simp)
  · have hmem := ModuleRegistry.mem_of_lookup haction
    have hindex : spec.action = "index".toList := by
      simp only [homeController, Actions.entries_ofList, List.mem_reverse, List.mem_cons, List.not_mem_nil, or_false,
        Prod.mk.injEq] at hmem
      exact hmem.1
    rw [hname, hindex] at htarget
    have hwhole : "HomeController@index".toList = "HomeController".toList ++ ['@'] ++ "index".toList := by decide
    rw [hwhole] at htarget
    exact List.append_cancel_left (List.append_cancel_right htarget)

/-! ## Plans -/

/-- a route of the application, with its instance in place of the number -/
structure Plan where
  method : Method
  segments : List Segment
  inst : Instance
  handler : Instance → Handler UserStore
  /-- names of the middlewares -/
  middleware : List Text

/-- the route is as planned, its instance found among these -/
structure Plan.Laid (instances : List Instance) (plan : Plan) (route : Route Instance UserStore) : Prop where
  method : route.method = plan.method
  segments : route.pattern.segments = plan.segments
  inst : instances[route.slot]? = some plan.inst
  action : route.action = onWorld plan.handler
  middleware : route.middleware.map (·.name) = plan.middleware

/-- an action of the user controller, below a mount path with these parts -/
def userPlan (baseUrl : Text) (base : List Text) (method : Method) (below : List Segment)
    (handler : Instance → Handler UserStore) (middleware : List Text) : Plan :=
  { method, segments := ([] :: base).map .literal ++ below, inst := .user true baseUrl, handler, middleware }

def usersPath : List Segment := [.literal "users".toList]

def userPath : List Segment := [.literal "users".toList, .capture "id".toList]

def testPath : List Segment := [.literal "test".toList]

/-- the routes of the usual lines, in order -/
def plans (order : VisitOrder) (baseUrl : Text) (base : List Text) : List Plan :=
  [{ method := .get, segments := [.literal [], .literal []], inst := .home baseUrl, handler := showHome,
     middleware := [] },
    userPlan baseUrl base .get usersPath (getUsers order) [],
    userPlan baseUrl base .get userPath getUser [],
    userPlan baseUrl base .post usersPath (saveUser order) ["requireJson".toList],
    userPlan baseUrl base .delete userPath deleteUser [],
    userPlan baseUrl base .get testPath (fun _ => showStamp) ["timestamp".toList]]

/-- the path of a line, not yet under its mount path, is read as these segments -/
structure ReadsAs (path : Text) (segments : List Segment) : Prop where
  last : (path.split '/').getLast? ≠ some []
  parts : Path.parts path ≠ []
  read : Segment.readAll [] (Path.parts path) = .ok segments

/-- a line of the user controller -/
def userLine (method : Method) (path action : Text) (middleware : List Text) : RouteLine :=
  { method, path, controller := "UserController", action, middleware }

theorem read_usualRoutes :
    usualRoutes.api.map (RouteLine.read · ['@']) =
      [.ok (userLine .get "/users" "getUsers" []), .ok (userLine .get "/users/:id" "getUser" []),
        .ok (userLine .post "/users" "saveUser" ["requireJson".toList]),
        .ok (userLine .delete "/users/:id" "deleteUser" []),
        .ok (userLine .get "/test" "test" ["timestamp".toList])] := by
  decide

theorem laid_of_userLine {line path action : Text} {method : Method} {names : List Text}
    {handler : Instance → Handler UserStore} {segments : List Segment} {instances : List Instance}
    {blueprint : Blueprint Instance UserStore} {route : Route Instance UserStore}
    (hdelimiter : settings.routing.delimiter = ['@'])
    (hmount : ∀ part ∈ settings.routing.apiMount.split '/', Segment.captured? part = none)
    (hread : RouteLine.read line ['@'] = .ok (userLine method path action names)) (hpath : ReadsAs path segments)
    (haction : (userController order).actions.find? action = some (onWorld handler))
    (h : (boundRouter order settings manifest).blueprint settings.routing.apiMount line = .ok blueprint)
    (hbuilt : blueprint.Built instances route) :
    Plan.Laid instances
      (userPlan settings.server.handle.baseUrl (Path.parts settings.routing.apiMount) method segments handler names)
      route := by
  obtain ⟨spec, pattern, loaded, found, middleware, hspec, hparse, hload, hfound, hnames, rfl⟩ :=
    Router.blueprint_eq_ok h
  obtain rfl : spec = userLine method path action names := by
    have hsame : RouteLine.read line ['@'] = .ok spec := hdelimiter ▸ hspec
    exact Except.ok.inj (hsame.symm.trans hread)
  obtain rfl : loaded = userController order := by
    rcases named_of_controller hload with ⟨-, rfl⟩ | ⟨hname, -⟩
    · rfl
    · exact absurd hname (by simp [userLine])
  obtain rfl : found = onWorld handler := Option.some.inj (hfound.symm.trans haction)
  obtain ⟨tail, htail, hpattern⟩ := Pattern.segments_of_compose hmount hpath.last hpath.parts hparse
  obtain rfl : tail = segments := Except.ok.inj (htail.symm.trans hpath.read)
  refine ⟨hbuilt.method, ?_, hbuilt.inst, hbuilt.action, ?_⟩
  · rw [hbuilt.pattern, hpattern]
    rfl
  · rw [hbuilt.middleware]
    exact ModuleSource.names_of_middlewareList hnames

theorem laid_of_homeLine {instances : List Instance} {blueprint : Blueprint Instance UserStore}
    {route : Route Instance UserStore} (hdelimiter : settings.routing.delimiter = ['@'])
    (h : (boundRouter order settings manifest).blueprint [] "GET / HomeController@index" = .ok blueprint)
    (hbuilt : blueprint.Built instances route) :
    Plan.Laid instances
      { method := .get, segments := [.literal [], .literal []], inst := .home settings.server.handle.baseUrl,
        handler := showHome, middleware := [] } route := by
  obtain ⟨spec, pattern, loaded, action, middleware, hread, hparse, hload, haction, hnames, rfl⟩ :=
    Router.blueprint_eq_ok h
  have hline : RouteLine.read "GET / HomeController@index" ['@'] = .ok spec := hdelimiter ▸ hread
  cases hline
  cases hparse
  rcases named_of_controller hload with ⟨hname, -⟩ | ⟨-, rfl⟩
  · exact absurd hname (by decide)
  · cases haction
    cases hnames
    refine ⟨hbuilt.method, ?_, hbuilt.inst, hbuilt.action, ?_⟩
    · rw [hbuilt.pattern]
    · rw [hbuilt.middleware]
      rfl

/-- **The routes of the application.** With the usual lines, under a mount path that captures nothing, the server that
is built has the planned routes, in order and no others. -/
theorem laid_of_build {router : AppRouter} {site : AppSite} {server : Server Instance UserStore}
    (hroutes : settings.routes = usualRoutes)
    (hmount : ∀ part ∈ settings.routing.apiMount.split '/', Segment.captured? part = none)
    (built : build order settings manifest store = (.ok router, site)) (bound : router.server = some server) :
    List.Forall₂ (Plan.Laid site.instances)
      (plans order settings.server.handle.baseUrl (Path.parts settings.routing.apiMount)) server.routes := by
  obtain ⟨web, api, hweb, hapi, hall⟩ := exists_built_of_build built bound
  rw [hroutes] at hweb hapi
  -- a blueprint for every line, and a route for every blueprint
  rcases hweb with _ | ⟨hhome, _ | _⟩
  rcases hapi with _ | ⟨hlist, _ | ⟨hone, _ | ⟨hsave, _ | ⟨hdelete, _ | ⟨htest, _ | _⟩⟩⟩⟩⟩
  revert hall
  generalize server.routes = routes
  intro hall
  rcases hall with _ | ⟨home, _ | ⟨list, _ | ⟨one, _ | ⟨save, _ | ⟨delete, _ | ⟨test, _ | _⟩⟩⟩⟩⟩⟩
  have hdelimiter := delimiter_of_blueprint hhome
  have husers : ReadsAs "/users" usersPath := ⟨by decide, by decide, by decide⟩
  have huser : ReadsAs "/users/:id" userPath := ⟨by decide, by decide, by decide⟩
  have htestPath : ReadsAs "/test" testPath := ⟨by decide, by decide, by decide⟩
  have hread := read_usualRoutes
  simp only [usualRoutes, List.map_cons, List.map_nil, List.cons.injEq, and_true] at hread
  obtain ⟨readList, readOne, readSave, readDelete, readTest⟩ := hread
  exact .cons (laid_of_homeLine hdelimiter hhome home) <|
    .cons (laid_of_userLine hdelimiter hmount readList husers rfl hlist list) <|
    .cons (laid_of_userLine hdelimiter hmount readOne huser rfl hone one) <|
    .cons (laid_of_userLine hdelimiter hmount readSave husers rfl hsave save) <|
    .cons (laid_of_userLine hdelimiter hmount readDelete huser rfl hdelete delete) <|
    .cons (laid_of_userLine hdelimiter hmount readTest htestPath rfl htest test) .nil

end App

end Switchboard
