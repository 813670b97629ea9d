/-
The application tells the truth about its users.

- `Serves` is the invariant of the server that the application runs on: every route runs an action of the application on
  an instance with the server's base URL, behind middlewares of the application, and GET requests that no route answers
  are sent home. `serves_of_build` finds it on every server that `build` comes to, whatever lines are configured.
- `answer_effect`: so every request has an `Effect` on the store. `answers_sound` carries the invariants of site and store
  through a run of requests.
- `answer_truthful_iff`: status 201 says that one user with a fresh id was added, 204 that the user named in the path was
  removed, and any other status that nothing was. It fails where the location of a new user cannot be written into a
  header: the user is stored, and the answer is 500.
-/
import Switchboard.Proofs.Effects
import Switchboard.Proofs.Fallbacks
import Switchboard.Proofs.Provision
import Switchboard.Settings.Check

namespace Switchboard.App

variable {order : VisitOrder} {settings : Settings} {manifest : Manifest}

/-! ## Modules of the application -/

/-- the controllers of the application, by name -/
theorem named_of_controller {routing : RoutingSettings} {name : Text} {loaded : AppController}
    (h : (modules order routing manifest).source.controller name = .ok loaded) :
    name = "UserController" ∧ loaded = userController order ∨ name = "HomeController" ∧ loaded = homeController := by
  have hmem := ModuleRegistry.mem_of_controller h
  simpa only [modules, ModuleRegistry.withController, ModuleRegistry.withMiddleware, ModuleRegistry.empty,
    List.mem_cons, List.not_mem_nil, or_false, Prod.mk.injEq] using hmem

theorem baseUrl_of_controller {routing : RoutingSettings} {name : Text} {loaded : AppController}
    (h : (modules order routing manifest).source.controller name = .ok loaded) (context : Context StoreAccess) :
    (loaded.init context).baseUrl = context.server.baseUrl := by
  rcases named_of_controller h with ⟨-, rfl⟩ | ⟨-, rfl⟩
  · rfl
  · rfl

theorem exists_handler {routing : RoutingSettings} {name : Text} {loaded : AppController}
    (h : (modules order routing manifest).source.controller name = .ok loaded) {actionName : Text}
    {action : Action Instance UserStore} (haction : loaded.actions.find? actionName = some action) :
    ∃ handler ∈ handlers order, action = onWorld handler := by
  have hmem := ModuleRegistry.mem_of_lookup haction
  rcases named_of_controller h with ⟨-, rfl⟩ | ⟨-, rfl⟩
  · simp only [userController, Actions.entries_ofList, List.mem_reverse, List.mem_cons, List.not_mem_nil, or_false,
      Prod.mk.injEq] at hmem
    rcases hmem with ⟨-, rfl⟩ | ⟨-, rfl⟩ | ⟨-, rfl⟩ | ⟨-, rfl⟩ | ⟨-, rfl⟩
    · exact ⟨getUsers order, by simp [handlers], rfl⟩
    · exact ⟨getUser, by simp [handlers], rfl⟩
    · exact ⟨saveUser order, by simp [handlers], rfl⟩
    · exact ⟨deleteUser, by simp [handlers], rfl⟩
    · exact ⟨fun _ => showStamp, by simp [handlers], rfl⟩
  · simp only [homeController, Actions.entries_ofList, List.mem_reverse, List.mem_cons, List.not_mem_nil, or_false,
      Prod.mk.injEq] at hmem
    obtain ⟨-, rfl⟩ := hmem
    exact ⟨showHome, by simp [handlers], rfl⟩

theorem eq_of_middleware {routing : RoutingSettings} {name : Text} {m : Middleware}
    (h : (modules order routing manifest).source.middleware name = .ok m) : m = timestamp ∨ m = requireJson := by
  obtain ⟨stem, hmem⟩ := ModuleRegistry.exists_mem_of_middleware h
  simp only [modules, ModuleRegistry.withController, ModuleRegistry.withMiddleware, ModuleRegistry.empty,
    List.mem_cons, List.not_mem_nil, or_false, Prod.mk.injEq] at hmem
  rcases hmem with ⟨-, rfl⟩ | ⟨-, rfl⟩
  · exact Or.inr rfl
  · exact Or.inl rfl

/-- what holds of both middlewares of the application holds of all that a line lists -/
theorem forall_of_middlewareList {P : Middleware → Prop} (htimestamp : P timestamp) (hrequireJson : P requireJson)
    {routing : RoutingSettings} {names : List Text} {bindings : List MiddlewareBinding}
    (h : (modules order routing manifest).source.middlewareList names = .ok bindings) :
    ∀ m ∈ bindings.map (·.middleware), P m := by
  induction names generalizing bindings with
  | nil =>
    cases h
    simp
  | cons name names ih =>
    obtain ⟨m, hm, h⟩ := except_bind_eq_ok.1 h
    obtain ⟨others, hothers, h⟩ := except_bind_eq_ok.1 h
    cases h
    refine List.forall_mem_cons.2 ⟨?_, ih hothers⟩
    rcases eq_of_middleware hm with rfl | rfl
    · exact htimestamp
    · exact hrequireJson

/-! ## The server of the application -/

/-- A route of the application: an action on an instance with that base URL, behind middlewares of the application. -/
structure AppRoute (order : VisitOrder) (baseUrl : Text) (instances : List Instance)
    (route : Route Instance UserStore) : Prop where
  action : ∃ handler ∈ handlers order, route.action = onWorld handler
  inst : ∃ inst, instances[route.slot]? = some inst ∧ inst.baseUrl = baseUrl
  middleware : ∀ m ∈ route.middleware.map (·.middleware), Transparent m

/-- the server has routes of the application, and sends home the GET requests that none of them answers -/
structure Serves (order : VisitOrder) (baseUrl : Text) (server : Server Instance UserStore)
    (instances : List Instance) : Prop where
  routes : ∀ route ∈ server.routes, AppRoute order baseUrl instances route
  fallback : ∀ handler, server.fallback = some handler → handler = redirectHome

/-- what a blueprint builds from the modules of the application is a route of the application -/
theorem appRoute_of_built {router : AppRouter} {instances : List Instance} {mount line : Text}
    {blueprint : Blueprint Instance UserStore} {route : Route Instance UserStore}
    (hsource : router.source = (modules order settings.routing manifest).source)
    (hline : router.blueprint mount line = .ok blueprint) (hbuilt : blueprint.Built instances route) :
    AppRoute order router.context.server.baseUrl instances route := by
  obtain ⟨spec, pattern, loaded, action, middleware, -, -, hload, haction, hmiddleware, rfl⟩ :=
    Router.blueprint_eq_ok hline
  rw [hsource] at hload hmiddleware
  refine ⟨?_, ⟨_, hbuilt.inst, baseUrl_of_controller hload _⟩, ?_⟩
  · rw [hbuilt.action]
    exact exists_handler hload haction
  · rw [hbuilt.middleware]
    exact forall_of_middlewareList transparent_timestamp transparent_requireJson hmiddleware

theorem offered_of_build {call : Router.Call Instance StoreAccess UserStore} {access : Option StoreAccess}
    (h : call ∈ routeCalls settings access ++ [.catchGetRequests redirectHome])
    {offered : Server Instance UserStore} (hoffer : call.offer? = some offered) :
    offered = Host.server settings.server.handle := by
  simp only [routeCalls, List.cons_append, List.nil_append, List.mem_cons, List.not_mem_nil, or_false] at h
  rcases h with rfl | rfl | rfl | rfl
  · exact (Option.some.inj hoffer).symm
  · cases hoffer
  · cases hoffer
  · cases hoffer

/-- The router keeps the modules of the application, and its controllers are told about the application's server. -/
theorem source_of_build {store : UserStore} {router : AppRouter} {site : AppSite}
    (built : build order settings manifest store = (.ok router, site)) :
    router.source = (modules order settings.routing manifest).source ∧
      ∀ server, router.server = some server → router.context.server = settings.server.handle := by
  refine Router.run_induction
    (fun _ router _ => router.source = (modules order settings.routing manifest).source ∧
      ∀ server, router.server = some server → router.context.server = settings.server.handle)
    ?_ ⟨rfl, fun server h => by cases h⟩ built
  rintro call hmem - router site router' site' ⟨hsource, hcontext⟩ hcall
  cases hcall with
  | bound server resource hnone =>
    obtain rfl := offered_of_build hmem rfl
    exact ⟨hsource, fun _ _ => rfl⟩
  | ignored server resource hbound => exact ⟨hsource, hcontext⟩
  | registered hbatch hbound hresolve hold => exact ⟨hsource, fun _ _ => hcontext _ hbound⟩
  | fallback handler hbound => exact ⟨hsource, fun _ _ => hcontext _ hbound⟩

theorem built_of_build {store : UserStore} {router : AppRouter} {site : AppSite} {server : Server Instance UserStore}
    (built : build order settings manifest store = (.ok router, site)) (bound : router.server = some server) :
    ∀ route ∈ server.routes, ∃ mount line blueprint,
      router.blueprint mount line = .ok blueprint ∧ blueprint.Built site.instances route := by
  have hoffer : ∀ call ∈ routeCalls settings (some .granted) ++ [.catchGetRequests redirectHome], ∀ offered,
      call.offer? = some offered → offered = Host.server settings.server.handle :=
    fun call hcall offered hoffer => offered_of_build hcall hoffer
  obtain ⟨accepted, hprovided⟩ := Router.run_provided hoffer built
  obtain ⟨given, rfl, -, hroutes, -⟩ := hprovided.bound server bound
  intro route hroute
  rw [hroutes] at hroute
  exact hprovided.built route (by simpa [Host.server] using hroute)

theorem fallback_of_build {store : UserStore} {router : AppRouter} {site : AppSite}
    {server : Server Instance UserStore} (built : build order settings manifest store = (.ok router, site))
    (bound : router.server = some server) : ∀ handler, server.fallback = some handler → handler = redirectHome := by
  intro handler hhandler
  have hlast : server.fallback = Router.lastInstalled
      (routeCalls settings (some .granted) ++ [.catchGetRequests redirectHome]) :=
    Router.run_fallback (fun call hcall offered h => ⟨_, offered_of_build hcall h⟩) built bound
  rw [Router.lastInstalled_append, hhandler] at hlast
  exact Option.some.inj hlast

/-- Whatever lines are configured, the server that they come to serves the application. -/
theorem serves_of_build {store : UserStore} {router : AppRouter} {site : AppSite} {server : Server Instance UserStore}
    (built : build order settings manifest store = (.ok router, site)) (bound : router.server = some server) :
    Serves order settings.server.handle.baseUrl server site.instances := by
  obtain ⟨hsource, hcontext⟩ := source_of_build built
  refine ⟨fun route hroute => ?_, fallback_of_build built bound⟩
  obtain ⟨mount, line, blueprint, hline, hone⟩ := built_of_build built bound route hroute
  exact hcontext server bound ▸ appRoute_of_built hsource hline hone

/-! ## One request -/

/-- what answering does: an effect on the store, while the instances stay -/
structure Answers (baseUrl path : Text) (site : AppSite) (answer : Response × AppSite) : Prop where
  effect : Effect (locationAt baseUrl path) (fun id => StandsIn id path) site.world answer.1.status answer.2.world
  instances : answer.2.instances = site.instances

theorem answers_of_status {baseUrl path : Text} {site : AppSite} {response : Response}
    (h : response.status ∉ [201, 204]) : Answers baseUrl path site (response, site) where
  effect := .of_status h
  instances := rfl

/-- an action of the application answers, where the request has captured something on its path -/
theorem answers_dispatch {baseUrl path : Text} {site : AppSite} {route : Route Instance UserStore}
    (h : AppRoute order baseUrl site.instances route) {ps : List Segment} {captured : List (Text × Text)}
    (htakes : Host.Takes ps (path.split '/') captured) {request : Request} (hpath : request.path = path)
    (hcaptures : request.captures = some (Host.visible captured)) :
    Answers baseUrl path site (route.dispatch request site) := by
  obtain ⟨handler, hhandler, haction⟩ := h.action
  obtain ⟨inst, hinst, hbase⟩ := h.inst
  have heffect := affects_handler hhandler inst request site.world
  simp only [Route.dispatch, hinst, haction, onWorld]
  rw [hbase, hpath] at heffect
  constructor
  · exact heffect.mono fun id hid => standsIn_of_userId htakes hcaptures hid
  · obtain ⟨hlt, hget⟩ := List.getElem?_eq_some_iff.1 hinst
    show site.instances.set route.slot inst = site.instances
    rw [← hget, List.set_getElem_self]

theorem Answers.congr {baseUrl path : Text} {site : AppSite} {answer answer' : Response × AppSite}
    (h : Answers baseUrl path site answer) (hstatus : answer'.1.status = answer.1.status)
    (hsite : answer'.2 = answer.2) : Answers baseUrl path site answer' := by
  obtain ⟨heffect, hinstances⟩ := h
  rw [← hstatus, ← hsite] at heffect
  rw [← hsite] at hinstances
  exact ⟨heffect, hinstances⟩

/-- what a route of the application puts its middlewares around -/
theorem answers_guarded {baseUrl : Text} {site : AppSite} {route : Route Instance UserStore}
    (h : AppRoute order baseUrl site.instances route) (clock : Nat) {next : Handler AppSite} (request : Request)
    (hnext : ∀ request' : Request, request'.path = request.path → request'.captures = request.captures →
      Answers baseUrl request.path site (next request' site)) :
    Answers baseUrl request.path site (Host.guarded clock route next request site) :=
  chain_transparent clock h.middleware request
    (fun response hstatus => answers_of_status (by simp [hstatus])) hnext

theorem answers_answerOn {baseUrl : Text} {site : AppSite} {routes : List (Route Instance UserStore)}
    (h : ∀ route ∈ routes, AppRoute order baseUrl site.instances route) (clock : Nat) (request : Request)
    {ps : List Segment} {captured : List (Text × Text)} (htakes : Host.Takes ps (request.path.split '/') captured)
    (hcaptures : request.captures = some (Host.visible captured)) :
    Answers baseUrl request.path site (Host.answerOn clock routes request site) := by
  unfold Host.answerOn
  cases hroute : Host.routeFor? routes request.verb with
  | some route =>
    have happ := h route (Host.routeFor?_eq_some hroute).1
    exact answers_guarded happ clock request fun request' hpath hcaptured =>
      answers_dispatch happ htakes hpath (hcaptured.trans hcaptures)
  | none =>
    have hrefused : ∀ request' : Request, Answers baseUrl request.path site (Host.notAllowed request' site) :=
      fun request' => answers_of_status (by decide)
    simp only
    cases hlast : routes.getLast? with
    | none => exact (hrefused request).congr rfl rfl
    | some last =>
      have happ := h last (List.mem_of_getLast? hlast)
      exact (answers_guarded happ clock request fun request' _ _ => hrefused request').congr rfl rfl

theorem answers_respond {baseUrl : Text} {server : Server Instance UserStore} {site : AppSite}
    (h : Serves order baseUrl server site.instances) (clock : Nat) (request : Request) :
    Answers baseUrl request.path site (Host.respond server clock request site) := by
  unfold Host.respond
  cases hlocate : Host.locate server.routes request.path with
  | none =>
    simp only [Host.answerUnmatched]
    cases hfallback : server.fallback with
    | none => exact answers_of_status (by decide)
    | some handler =>
      obtain rfl := h.fallback handler hfallback
      simp only
      split_ifs
      · show Answers baseUrl request.path site ((Response.bare 303).withHeader "location" "/", site)
        exact answers_of_status (by decide)
      · exact answers_of_status (by decide)
  | some found =>
    obtain ⟨top, captured⟩ := found
    obtain ⟨-, htakes, -⟩ := Host.locate_some hlocate
    have hsiblings : ∀ route ∈ Host.siblings server.routes top, AppRoute order baseUrl site.instances route :=
      fun route hroute => h.routes route (Host.mem_siblings.1 hroute).1
    exact answers_answerOn hsiblings clock { request with captures := some (Host.visible captured) } htakes rfl

/-- Every request to the application has an effect on the store, and the instances stay. -/
theorem answer_effect {baseUrl : Text} {server : Server Instance UserStore} {site : AppSite}
    (h : Serves order baseUrl server site.instances) (visit : Visit) :
    Answers baseUrl visit.request.path site (Host.answer server visit site) := by
  have hrespond := answers_respond h visit.clock
    { visit.request with
      headers := visit.request.headers.setIfAbsent Host.idHeader
        ((visit.request.header? Host.idHeader).getD visit.freshId) }
  refine hrespond.congr ?_ rfl
  simp only [Host.answer]
  split_ifs <;> rfl

/-! ## Requests one after the other -/

theorem answers_append (server : Server Instance UserStore) (site : AppSite) (visits more : List Visit) :
    (Host.answers server site (visits ++ more)).2 =
      (Host.answers server (Host.answers server site visits).2 more).2 := by
  induction visits generalizing site with
  | nil => rfl
  | cons visit visits ih =>
    simp only [List.cons_append, Host.answers]
    exact ih _

/-- A run of requests keeps the instances and the soundness of the store, and ids only grow. -/
theorem answers_sound {baseUrl : Text} {server : Server Instance UserStore} {site : AppSite}
    (h : Serves order baseUrl server site.instances) (hs : site.world.Sound) (visits : List Visit) :
    (Host.answers server site visits).2.instances = site.instances ∧
      (Host.answers server site visits).2.world.Sound ∧
      site.world.lastId ≤ (Host.answers server site visits).2.world.lastId := by
  induction visits generalizing site with
  | nil => exact ⟨rfl, hs, le_rfl⟩
  | cons visit visits ih =>
    obtain ⟨heffect, hinstances⟩ := answer_effect h visit
    obtain ⟨hsound, hle⟩ := heffect.sound hs
    obtain ⟨hinstances', hsound', hle'⟩ := ih (hinstances ▸ h) hsound
    exact ⟨hinstances'.trans hinstances, hsound', hle.trans hle'⟩

/-! ## Telling the truth -/

/-- What the status of an answer says of the users: 201 that one user with an id of its own was added, 204 that the user
whose id stands in the path was removed, any other that they are as before. `earlier` are the stores up to the request. -/
structure Truthful (earlier : List UserStore) (path : Text) (before after : List User) (status : Nat) : Prop where
  created : status = 201 → ∃ user, after = before ++ [user] ∧ ∀ store ∈ earlier, ∀ other ∈ store.users, other.id ≠ user.id
  deleted : status = 204 → ∃ front user back, before = front ++ user :: back ∧ after = front ++ back ∧
    StandsIn user.id path
  others : status ≠ 201 → status ≠ 204 → after = before

/-- An effect is told truthfully unless it adds a user whose location cannot be written. -/
theorem Effect.truthful_iff {location : User → Text} {path : Text} {store store' : UserStore} {status : Nat}
    (h : Effect location (fun id => StandsIn id path) store status store') (hs : store.Sound)
    {earlier : List UserStore} (hearlier : ∀ old ∈ earlier, ∀ other ∈ old.users, other.id ≤ store.lastId) :
    Truthful earlier path store.users store'.users status ↔
      ∀ user, store'.users = store.users ++ [user] → Response.isHeaderValue (location user) = true := by
  cases h with
  | kept hcreated hdeleted =>
    refine iff_of_true ⟨fun h => absurd h hcreated, fun h => absurd h hdeleted, fun _ _ => rfl⟩ fun user h => ?_
    exact absurd (congrArg List.length h) (by simp)
  | added user hid =>
    have hfresh : ∀ old ∈ earlier, ∀ other ∈ old.users, other.id ≠ user.id := by
      intro old hold other hother
      have hle := hearlier old hold other hother
      omega
    cases hvalue : Response.isHeaderValue (location user) with
    | true =>
      refine iff_of_true ⟨fun _ => ⟨user, rfl, hfresh⟩, fun h => ?_, fun h => ?_⟩ fun other hother => ?_
      · cases h
      · exact absurd rfl h
      · obtain rfl : user = other := by simpa using hother
        exact hvalue
    | false =>
      refine iff_of_false (fun htruthful => ?_) fun h => ?_
      · have hsame := htruthful.others (by simp) (by simp)
        exact absurd (congrArg List.length hsame) (by simp)
      · rw [h user rfl] at hvalue
        cases hvalue
  | removed user hname hget =>
    obtain ⟨front, back, hbefore, hafter⟩ := hs.remove_eq hget
    refine iff_of_true ⟨fun h => ?_, fun _ => ⟨front, user, back, hbefore, hafter, hname⟩, fun _ h => ?_⟩
      fun other hother => ?_
    · cases h
    · exact absurd rfl h
    · rw [hbefore, hafter] at hother
      exact absurd (congrArg List.length hother) (by simp; omega)

/-- the stores that a run of requests comes by, up to its last -/
def storesAlong (server : Server Instance UserStore) (site : AppSite) (visits : List Visit) : List UserStore :=
  visits.inits.map fun seen => (Host.answers server site seen).2.world

/-- **The application tells the truth.** Whatever routes are configured and accepted, and whatever requests came before,
the answer to a request says truthfully what became of the users, unless it adds a user whose location cannot be
written into a header. -/
theorem answer_truthful_iff {router : AppRouter} {site before after : AppSite} {server : Server Instance UserStore}
    (built : build order settings manifest .empty = (.ok router, site)) (bound : router.server = some server)
    (visits : List Visit) (visit : Visit) {responses : List Response} {response : Response}
    (came : Host.answers server site visits = (responses, before))
    (answered : Host.answer server visit before = (response, after)) :
    Truthful (storesAlong server site visits) visit.request.path before.world.users after.world.users
        response.status ↔
      ∀ user, after.world.users = before.world.users ++ [user] →
        Response.isHeaderValue (locationAt settings.server.handle.baseUrl visit.request.path user) = true := by
  have hserves := serves_of_build built bound
  have hempty : site.world.Sound := Router.run_world built ▸ UserStore.sound_empty
  obtain ⟨hinstances, hsound, -⟩ := answers_sound hserves hempty visits
  have hanswers := answer_effect (hinstances ▸ hserves) visit
  rw [came] at hsound hanswers
  rw [answered] at hanswers
  refine hanswers.effect.truthful_iff hsound fun old hold other hother => ?_
  -- the ids of an earlier store were given out by then
  obtain ⟨seen, hseen, rfl⟩ := List.mem_map.1 hold
  obtain ⟨rest, rfl⟩ := (List.mem_inits _ _).1 hseen
  obtain ⟨hinstances', hsound', -⟩ := answers_sound hserves hempty seen
  obtain ⟨-, -, hle⟩ := answers_sound (hinstances' ▸ hserves) hsound' rest
  rw [← answers_append, came] at hle
  exact (hsound'.issued other hother).trans hle

/-! ## A user is created -/

def creating (baseUrl : Text) : Settings :=
  { server := { baseUrl }, routes := { api := ["POST /users UserController@saveUser"] } }

def creation : Visit :=
  { request := .receive "POST" "/api/users" [("content-type", "application/json")]
      "[\"alice\", \"password1\", \"a@x.io\"]"
    clock := 0, freshId := [] }

/-- The theorem on the first user of an application, who can be located. -/
theorem answer_truthful_iff_creation :
    ∃ router site server response after, build id (creating "http://x") {} .empty = (.ok router, site) ∧
      router.server = some server ∧ Host.answers server site [] = ([], site) ∧
      Host.answer server creation site = (response, after) ∧ response.status = 201 ∧
      (Truthful (storesAlong server site []) creation.request.path site.world.users after.world.users
          response.status ↔
        ∀ user, after.world.users = site.world.users ++ [user] →
          Response.isHeaderValue
            (locationAt (creating "http://x").server.handle.baseUrl creation.request.path user) = true) ∧
      Truthful (storesAlong server site []) creation.request.path site.world.users after.world.users
        response.status := by
  have hheld : (Router.hostOf (build id (creating "http://x") {} .empty)).any (fun server =>
      (Host.answer server creation (build id (creating "http://x") {} .empty).2).1.status = 201 ∧
      (Host.answer server creation (build id (creating "http://x") {} .empty).2).2.world.users.all fun user =>
        Response.isHeaderValue
          (locationAt (creating "http://x").server.handle.baseUrl creation.request.path user)) = true := by
    decide +kernel
  obtain ⟨router, site, server, built, bound, htest⟩ := Router.exists_of_hostOf hheld
  rw [built] at htest
  obtain ⟨hstatus, hlocated⟩ := of_decide_eq_true htest
  obtain ⟨response, after, hanswer⟩ : ∃ response after, Host.answer server creation site = (response, after) :=
    ⟨_, _, rfl⟩
  rw [hanswer] at hstatus hlocated
  have htruthful := answer_truthful_iff built bound [] creation rfl hanswer
  refine ⟨router, site, server, response, after, built, bound, rfl, hanswer, hstatus, htruthful,
    htruthful.2 fun user husers => ?_⟩
  have hmem : user ∈ after.world.users := by
    rw [husers]
    exact List.mem_append_right _ List.mem_cons_self
  exact List.all_eq_true.1 hlocated user hmem

/-- With a line break in the base URL, which no check of the settings minds, the user is stored and the answer is 500. -/
theorem creation_untold :
    ∃ router site server, build id (creating "http://x\ny") {} .empty = (.ok router, site) ∧
      (creating "http://x\ny").problems = [] ∧ router.server = some server ∧
      (Host.answer server creation site).1.status = 500 ∧
      (Host.answer server creation site).2.world.users.map (·.username) = [("alice" : Text)] ∧
      ¬Truthful (storesAlong server site []) creation.request.path site.world.users
        (Host.answer server creation site).2.world.users (Host.answer server creation site).1.status := by
  have hheld : (Router.hostOf (build id (creating "http://x\ny") {} .empty)).any (fun server =>
      (Host.answer server creation (build id (creating "http://x\ny") {} .empty).2).1.status = 500 ∧
      (Host.answer server creation (build id (creating "http://x\ny") {} .empty).2).2.world.users.map (·.username) =
        [("alice" : Text)]) = true := by
    decide +kernel
  obtain ⟨router, site, server, built, bound, htest⟩ := Router.exists_of_hostOf hheld
  rw [built] at htest
  obtain ⟨hstatus, husers⟩ := of_decide_eq_true htest
  refine ⟨router, site, server, built, by decide +kernel, bound, hstatus, husers, fun htruthful => ?_⟩
  have hempty : site.world = .empty := Router.run_world built
  have hsame := htruthful.others (by rw [hstatus]; decide) (by rw [hstatus]; decide)
  rw [hsame, hempty] at husers
  cases husers

end Switchboard.App
