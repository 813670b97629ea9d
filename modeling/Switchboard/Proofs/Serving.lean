/-
What the usual routes do with requests about users.

- `Usual` is a server with the usual routes, and `usual_of_build` finds it on every server that the usual lines come to.
- `dispatched_of_status`: an answer with status 201 or 204 is that of an action. `Usual.adds` and `Usual.removes` say of
  which one, where the request went and what became of the store.
- `Usual.shows`: a GET request for the path of one user is answered by that user, or by status 404.
-/
import Switchboard.Proofs.Layers
import Switchboard.Proofs.Spellings
import Switchboard.Proofs.Usual

namespace Switchboard

/-! ## Answers as they are sent -/

theorem Headers.get?_setIfAbsent_of_ne {name other : Text} (h : other ≠ name) (value : Text) (headers : Headers) :
    get? other (setIfAbsent name value headers) = get? other headers := by
  unfold setIfAbsent
  split_ifs
  · rfl
  · have hother : (other == name) = false := by simpa using h
    simp [get?, List.lookup_append, List.lookup_cons, hother]

@[simp] theorem Visit.status_dressed (visit : Visit) (response : Response) :
    (visit.dressed response).status = response.status := by
  simp only [Visit.dressed]
  split_ifs <;> rfl

theorem Visit.body_dressed {visit : Visit} (h : visit.request.verb ≠ "HEAD".toList) (response : Response) :
    (visit.dressed response).body = response.body := by
  simp only [Visit.dressed, if_neg h]
  rfl

theorem Visit.header?_dressed {name : Text} (h : name ≠ Host.idHeader) (visit : Visit) (response : Response) :
    (visit.dressed response).header? name = response.header? name := by
  refine (Headers.get?_setIfAbsent_of_ne h _ _).trans ?_
  split_ifs <;> rfl

/-- only GET routes answer requests with another verb -/
theorem Host.verb_of_routedVerb {method : Method} {verb : Text} (h : method.verb = routedVerb verb)
    (hget : method ≠ .get) : verb = method.verb := by
  unfold routedVerb at h
  split_ifs at h
  · exact absurd (verb_injective h) hget
  · exact h.symm

namespace App

variable {order : VisitOrder} {settings : Settings} {manifest : Manifest}

/-! ## Answers of actions -/

/-- what the host refuses, or leaves to the fallback, has a status of its own -/
theorem status_of_undispatched {baseUrl : Text} {server : Server Instance UserStore} {site : AppSite}
    (hserves : Serves order baseUrl server site.instances) (clock : Nat) (request : Request)
    (h : ∀ route captured, Host.handling server request.verb request.path ≠ .action route captured) :
    (Host.respond server clock request site).1.status ∉ [201, 204] := by
  rw [Host.respond_eq]
  cases hlocate : Host.locate server.routes request.path with
  | none =>
    simp only [Host.handling, hlocate]
    cases hfallback : server.fallback with
    | none => simp [Host.Handling.run]
    | some handler =>
      obtain rfl := hserves.fallback handler hfallback
      by_cases hget : Host.routedVerb request.verb = Method.get.verb
      · simp [hget, Host.Handling.run, Handler.atSite, redirectHome]
      · simp [hget, Host.Handling.run]
  | some found =>
    obtain ⟨top, captured⟩ := found
    have hroute : Host.routeFor? (Host.siblings server.routes top) request.verb = none := by
      by_contra hsome
      obtain ⟨route, hroute⟩ := Option.ne_none_iff_exists'.1 hsome
      exact h route captured (by simp only [Host.handling, hlocate, hroute])
    simp only [Host.handling, hlocate, hroute, Host.Handling.run]
    cases hlast : (Host.siblings server.routes top).getLast? with
    | none => simp [Host.notAllowed]
    | some last =>
      -- the middlewares around the refusal may answer, with status 415
      have happ := hserves.routes last (Host.mem_siblings.1 (List.mem_of_getLast? hlast)).1
      refine chain_transparent (P := fun answer => answer.1.status ∉ [201, 204]) clock happ.middleware _ ?_ ?_
      · intro response hstatus
        simp [hstatus]
      · intro request' _ _
        simp [Host.notAllowed]

/-- The answer to the visit is that of the route's action to a request for the same path, with what the route has
captured there. -/
structure Dispatched (server : Server Instance UserStore) (site : AppSite) (visit : Visit)
    (route : Route Instance UserStore) (captured : List (Text × Text)) (request : Request)
    (answer : Response × AppSite) : Prop where
  mem : route ∈ server.routes
  verb : route.method.verb = Host.routedVerb visit.request.verb
  takes : Host.Takes route.pattern.segments (visit.request.path.split '/') captured
  path : request.path = visit.request.path
  captures : request.captures = some (Host.visible captured)
  answer : answer = (visit.dressed (route.dispatch request site).1, (route.dispatch request site).2)

/-- An answer with status 201 or 204 is that of an action. -/
theorem dispatched_of_status {baseUrl : Text} {server : Server Instance UserStore} {site : AppSite}
    (hserves : Serves order baseUrl server site.instances) (hholding : Host.Holding server.routes) {visit : Visit}
    (hstatus : (Host.answer server visit site).1.status ∈ [201, 204]) :
    ∃ route captured request, Dispatched server site visit route captured request (Host.answer server visit site) := by
  rw [Host.answer_eq, visit.status_dressed] at hstatus
  have haction : ∃ route captured, Host.handling server visit.request.verb visit.request.path =
      .action route captured := by
    by_contra hnone
    push Not at hnone
    exact status_of_undispatched hserves visit.clock visit.identified hnone hstatus
  obtain ⟨route, captured, hhandling⟩ := haction
  obtain ⟨hrouted, htakes⟩ := Host.routedTo_of_handling hholding hhandling
  obtain ⟨-, -, -, hroute, -, hverb⟩ := hrouted
  have hrespond : Host.respond server visit.clock visit.identified site =
      Host.guarded visit.clock route route.dispatch (visit.capturing captured) site := by
    rw [Host.respond_eq]
    exact congrArg (fun handling : Host.Handling Instance UserStore =>
      handling.run (Host.guarded visit.clock) Route.dispatch Handler.atSite visit.identified site) hhandling
  rw [hrespond] at hstatus
  rw [Host.answer_eq, hrespond]
  -- the middlewares pass the request on, or answer with status 415
  refine chain_transparent (P := fun answer => answer.1.status ∈ [201, 204] → ∃ route captured request,
    Dispatched server site visit route captured request (visit.dressed answer.1, answer.2)) visit.clock
    (hserves.routes route hroute).middleware _ ?_ ?_ hstatus
  · intro response hrefused hstatus
    simp [hrefused] at hstatus
  · intro request hpath hcaptures _
    exact ⟨route, captured, request, hroute, hverb, htakes, hpath, hcaptures, rfl⟩

/-! ## What actions do where they create or delete -/

/-- what keeps the store tells of no user created or deleted -/
theorem status_of_kept {inst : Instance} {request : Request} {handler : Handler UserStore}
    (h : Affects inst request handler) {store : UserStore} (hkept : (handler request store).2 = store) :
    (handler request store).1.status ∉ [201, 204] := by
  have heffect := h store
  rw [hkept] at heffect
  generalize (handler request store).1.status = status at heffect
  suffices hgen : ∀ store', Effect (locationAt inst.baseUrl request.path) (fun id => userId request = .ok id) store
      status store' → store' = store → status ∉ [201, 204] from hgen store heffect rfl
  intro store' heffect hsame
  cases heffect with
  | kept hcreated hdeleted => simp [hcreated, hdeleted]
  | added user _ => exact absurd (congrArg (·.users.length) hsame) (by simp)
  | removed user _ hget =>
    have hmem : user ∈ (store.remove user.id).2.users := by
      rw [hsame]
      exact (UserStore.get?_eq_some hget).1
    simp [UserStore.remove] at hmem

theorem kept_by_looking {handler : Instance → Handler UserStore}
    (h : handler ∈ [showHome, getUsers order, getUser, fun _ => showStamp]) (inst : Instance) (request : Request)
    (store : UserStore) : (handler inst request store).2 = store := by
  simp only [List.mem_cons, List.not_mem_nil, or_false] at h
  rcases h with rfl | rfl | rfl | rfl
  · rfl
  · simp only [getUsers, withStore]
    split_ifs <;> rfl
  · simp only [getUser, withStore]
    split
    · rfl
    · split_ifs
      · split <;> rfl
      · rfl
  · simp only [showStamp]
    split <;> rfl

/-- A new user is shown in the answer, with the location, and takes the next id. -/
theorem created_by_saveUser {inst : Instance} {request : Request} {store : UserStore}
    (h : (saveUser order inst request store).1.status ∈ [201, 204]) :
    ∃ user, user.id = store.lastId + 1 ∧ saveUser order inst request store =
      ((Response.json 201 user.json).withHeader "location" (locationAt inst.baseUrl request.path user),
        { users := store.users ++ [user], lastId := store.lastId + 1 }) := by
  cases hsubmission : submission request with
  | error response =>
    simp only [saveUser, hsubmission] at h
    exact absurd h (status_of_submission hsubmission)
  | ok s =>
    simp only [saveUser, hsubmission, withStore] at h ⊢
    split_ifs at h ⊢ with hstore
    · cases hinsert : UserStore.insert order store s with
      | mk result store' =>
        rw [hinsert] at h
        cases result with
        | error e => cases e <;> simp [refusal] at h
        | ok user =>
          obtain ⟨hid, rfl⟩ := UserStore.insert_ok hinsert
          refine ⟨user, hid, ?_⟩
          simp only [Response.withCheckedHeader] at h ⊢
          split_ifs at h ⊢ with hvalue
          · rfl
          · simp at h
    · simp at h

/-- A user that is deleted is the one that the request names. -/
theorem deleted_by_deleteUser {inst : Instance} {request : Request} {store : UserStore}
    (h : (deleteUser inst request store).1.status ∈ [201, 204]) :
    ∃ id, userId request = .ok id ∧ deleteUser inst request store = (.bare 204, (store.remove id).2) := by
  cases hid : userId request with
  | error response =>
    simp only [deleteUser, hid] at h
    exact absurd h (status_of_userId hid)
  | ok id =>
    refine ⟨id, rfl, ?_⟩
    simp only [deleteUser, hid, withStore] at h ⊢
    split_ifs at h ⊢ with hstore
    · revert h
      cases store.remove id with
      | mk found store' =>
        cases found with
        | some user => exact fun _ => rfl
        | none => exact fun h => absurd h (by simp [userNotFound])
    · simp at h

/-! ## The server with the usual routes -/

/-- the server has the usual routes below a mount path with these parts -/
structure Usual (order : VisitOrder) (baseUrl : Text) (base : List Text) (server : Server Instance UserStore)
    (instances : List Instance) : Prop where
  laid : List.Forall₂ (Plan.Laid instances) (plans order baseUrl base) server.routes
  serves : Serves order baseUrl server instances
  holding : Host.Holding server.routes

theorem usual_of_build {store : UserStore} {router : AppRouter} {site : AppSite} {server : Server Instance UserStore}
    (hroutes : settings.routes = usualRoutes)
    (hmount : ∀ part ∈ settings.routing.apiMount.split '/', Segment.captured? part = none)
    (built : build order settings manifest store = (.ok router, site)) (bound : router.server = some server) :
    Usual order settings.server.handle.baseUrl (Path.parts settings.routing.apiMount) server site.instances where
  laid := laid_of_build hroutes hmount built bound
  serves := serves_of_build built bound
  holding := by
    have honHost : router.OnHost :=
      ⟨_, _, _, site, _, fun call hcall offered h => ⟨_, offered_of_build hcall h⟩, built⟩
    exact honHost.holding bound

def usersParts (base : List Text) : List Text :=
  [] :: base ++ ["users".toList]

section Plans

variable {baseUrl : Text} {base parts : List Text} {captured : List (Text × Text)}

theorem takes_usersPath_iff :
    Host.Takes (([] :: base).map .literal ++ usersPath) parts captured ↔ parts = usersParts base ∧ captured = [] := by
  have hsegments : ([] :: base).map .literal ++ usersPath = (usersParts base).map .literal := by
    simp [usersPath, usersParts]
  rw [hsegments, Host.takes_literals_iff]

theorem takes_userPath_iff :
    Host.Takes (([] :: base).map .literal ++ userPath) parts captured ↔
      ∃ raw, raw ≠ [] ∧ parts = usersParts base ++ [raw] ∧ captured = [("id".toList, raw)] := by
  have hsegments : ([] :: base).map .literal ++ userPath =
      (usersParts base).map .literal ++ [.capture "id".toList] := by
    simp [userPath, usersParts]
  rw [hsegments, Host.takes_one_iff]

/-- no other paths take a request for one user -/
theorem segments_of_takes {plan : Plan} (hplan : plan ∈ plans order baseUrl base) {raw : Text}
    (h : Host.Takes plan.segments (usersParts base ++ [raw]) captured) :
    plan.segments = ([] :: base).map .literal ++ userPath := by
  -- the other paths have fewer parts
  have hlength : ∀ texts : List Text, Host.Takes (texts.map .literal) (usersParts base ++ [raw]) captured →
      texts.length = base.length + 3 := by
    intro texts htakes
    rw [← (Host.takes_literals_iff.1 htakes).1]
    simp [usersParts]
  have hhome : ¬Host.Takes [.literal [], .literal []] (usersParts base ++ [raw]) captured := by
    intro htakes
    have hlen := hlength [[], []] htakes
    simp at hlen
  have hbelow : ∀ text : Text,
      ¬Host.Takes (([] :: base).map .literal ++ [.literal text]) (usersParts base ++ [raw]) captured := by
    intro text htakes
    have hlen := hlength ([] :: base ++ [text]) (by simpa using htakes)
    simp at hlen
  simp only [plans, List.mem_cons, List.not_mem_nil, or_false] at hplan
  rcases hplan with rfl | rfl | rfl | rfl | rfl | rfl
  · exact absurd h hhome
  · exact absurd h (hbelow _)
  · rfl
  · exact absurd h (hbelow _)
  · rfl
  · exact absurd h (hbelow _)

end Plans

theorem Plan.Laid.dispatch {site : AppSite} {plan : Plan} {route : Route Instance UserStore}
    (h : Plan.Laid site.instances plan route) (request : Request) :
    (route.dispatch request site).1 = (plan.handler plan.inst request site.world).1 ∧
      (route.dispatch request site).2.world = (plan.handler plan.inst request site.world).2 := by
  constructor
  · simp only [Route.dispatch, h.inst, h.action, onWorld]
  · simp only [Route.dispatch, h.inst, h.action, onWorld, Site.measure]

/-- The handlers that create and delete are those of two plans. -/
theorem plan_of_status {baseUrl : Text} {base : List Text} {plan : Plan} (hplan : plan ∈ plans order baseUrl base)
    {request : Request} {store : UserStore}
    (hstatus : (plan.handler plan.inst request store).1.status ∈ [201, 204]) :
    plan = userPlan baseUrl base .post usersPath (saveUser order) ["requireJson".toList] ∨
      plan = userPlan baseUrl base .delete userPath deleteUser [] := by
  have hlooking : plan.handler ∉ [showHome, getUsers order, getUser, fun _ => showStamp] := by
    intro hmem
    have hhandler : plan.handler ∈ handlers order := by
      simp only [List.mem_cons, List.not_mem_nil, or_false] at hmem
      rcases hmem with heq | heq | heq | heq <;> simp [handlers, heq]
    exact status_of_kept (affects_handler hhandler _ _) (kept_by_looking hmem _ _ _) hstatus
  simp only [plans, List.mem_cons, List.not_mem_nil, or_false] at hplan
  rcases hplan with rfl | rfl | rfl | rfl | rfl | rfl
  · exact absurd List.mem_cons_self hlooking
  · exact absurd (by simp [userPlan]) hlooking
  · exact absurd (by simp [userPlan]) hlooking
  · exact Or.inl rfl
  · exact Or.inr rfl
  · exact absurd (by simp [userPlan]) hlooking

namespace Usual

variable {baseUrl : Text} {base : List Text} {server : Server Instance UserStore} {site : AppSite} {visit : Visit}

/-- An answer with status 201 or 204 is that of one of the two plans. -/
theorem exists_plan (h : Usual order baseUrl base server site.instances)
    (hstatus : (Host.answer server visit site).1.status ∈ [201, 204]) :
    ∃ plan captured request, (plan = userPlan baseUrl base .post usersPath (saveUser order) ["requireJson".toList] ∨
        plan = userPlan baseUrl base .delete userPath deleteUser []) ∧
      visit.request.verb = plan.method.verb ∧ Host.Takes plan.segments (visit.request.path.split '/') captured ∧
      request.path = visit.request.path ∧ request.captures = some (Host.visible captured) ∧
      (Host.answer server visit site).1 = visit.dressed (plan.handler plan.inst request site.world).1 ∧
      (Host.answer server visit site).2.world = (plan.handler plan.inst request site.world).2 := by
  obtain ⟨route, captured, request, hroute, hverb, htakes, hpath, hcaptures, hanswer⟩ :=
    dispatched_of_status h.serves h.holding hstatus
  obtain ⟨plan, hplan, hlaid⟩ := exists_of_mem_right h.laid hroute
  obtain ⟨hresponse, hworld⟩ := hlaid.dispatch request
  rw [hlaid.method] at hverb
  rw [hlaid.segments] at htakes
  rw [hanswer, visit.status_dressed, hresponse] at hstatus
  have hone := plan_of_status hplan hstatus
  have hget : plan.method ≠ .get := by
    rcases hone with rfl | rfl <;> simp [userPlan]
  refine ⟨plan, captured, request, hone, Host.verb_of_routedVerb hverb hget, htakes, hpath, hcaptures, ?_, ?_⟩
  · rw [hanswer, hresponse]
  · rw [hanswer, hworld]

/-- A user is created by a POST request for the path of all users. The answer shows and locates the user. -/
theorem adds (h : Usual order baseUrl base server site.instances)
    (hstatus : (Host.answer server visit site).1.status = 201) :
    visit.request.verb = "POST".toList ∧ visit.request.path.split '/' = usersParts base ∧
      ∃ user, user.id = site.world.lastId + 1 ∧
        (Host.answer server visit site).2.world =
          { users := site.world.users ++ [user], lastId := site.world.lastId + 1 } ∧
        (Host.answer server visit site).1.body = user.json ∧
        (Host.answer server visit site).1.header? "location" =
          some (locationAt baseUrl visit.request.path user) := by
  have hactive : (Host.answer server visit site).1.status ∈ [201, 204] := by simp [hstatus]
  obtain ⟨plan, captured, request, hplan, hverb, htakes, hpath, -, hresponse, hworld⟩ := h.exists_plan hactive
  rw [hresponse, visit.status_dressed] at hstatus hactive
  rcases hplan with rfl | rfl
  · simp only [userPlan] at hverb htakes hactive hresponse hworld
    obtain ⟨user, hid, hsave⟩ := created_by_saveUser hactive
    rw [hsave] at hresponse hworld
    have hbody : visit.request.verb ≠ "HEAD".toList := by
      rw [hverb]
      decide
    refine ⟨hverb, (takes_usersPath_iff.1 htakes).1, user, hid, hworld, ?_, ?_⟩
    · rw [hresponse, Visit.body_dressed hbody]
      rfl
    · rw [hresponse, Visit.header?_dressed (by decide), hpath]
      exact Headers.get?_set _ _ _
  · simp only [userPlan] at hstatus hactive
    obtain ⟨id, -, hdelete⟩ := deleted_by_deleteUser hactive
    rw [hdelete] at hstatus
    cases hstatus

/-- A user is deleted by a DELETE request for a path that names the user. -/
theorem removes (h : Usual order baseUrl base server site.instances)
    (hstatus : (Host.answer server visit site).1.status = 204) :
    visit.request.verb = "DELETE".toList ∧
      ∃ raw id, visit.request.path.split '/' = usersParts base ++ [raw] ∧ Spells raw id ∧
        (Host.answer server visit site).2.world = (site.world.remove id).2 := by
  have hactive : (Host.answer server visit site).1.status ∈ [201, 204] := by simp [hstatus]
  obtain ⟨plan, captured, request, hplan, hverb, htakes, -, hcaptures, hresponse, hworld⟩ := h.exists_plan hactive
  rw [hresponse, visit.status_dressed] at hstatus hactive
  rcases hplan with rfl | rfl
  · simp only [userPlan] at hstatus hactive
    obtain ⟨user, -, hsave⟩ := created_by_saveUser hactive
    rw [hsave] at hstatus
    cases hstatus
  · simp only [userPlan] at hverb htakes hactive hworld
    obtain ⟨id, hid, hdelete⟩ := deleted_by_deleteUser hactive
    obtain ⟨raw, -, hparts, rfl⟩ := takes_userPath_iff.1 htakes
    rw [hdelete] at hworld
    exact ⟨hverb, raw, id, hparts, (userId_eq_ok_iff hcaptures).1 hid, hworld⟩

/-- A GET request for the path of one user goes to the route that shows it. -/
theorem routed (h : Usual order baseUrl base server site.instances) {path raw : Text}
    (hparts : path.split '/' = usersParts base ++ [raw]) (hraw : raw ≠ []) :
    ∃ route, Host.RoutedTo server "GET" path route ∧
      Plan.Laid site.instances (userPlan baseUrl base .get userPath getUser []) route := by
  have hplan : userPlan baseUrl base .get userPath getUser [] ∈ plans order baseUrl base := by simp [plans]
  obtain ⟨route, hroute, hlaid⟩ := exists_of_mem_left h.laid hplan
  have htakes : Host.Takes route.pattern.segments (path.split '/') [("id".toList, raw)] := by
    rw [hlaid.segments]
    exact takes_userPath_iff.2 ⟨raw, hraw, hparts, rfl⟩
  refine ⟨route, ?_, hlaid⟩
  cases hlocate : Host.locate server.routes path with
  | none => exact absurd htakes (Host.locate_eq_none_iff.1 hlocate route hroute _)
  | some found =>
    obtain ⟨top, captured⟩ := found
    have hforemost := h.holding.foremost hlocate
    -- what is found has the same path, as no other takes the request
    obtain ⟨plan, hother, htop⟩ := exists_of_mem_right h.laid hforemost.mem
    have htaken := hforemost.takes
    rw [htop.segments, hparts] at htaken
    have hsegments : route.pattern.segments = top.pattern.segments := by
      rw [hlaid.segments, htop.segments, segments_of_takes hother htaken]
      rfl
    refine ⟨top, captured, hforemost, hroute, ?_, ?_⟩
    · exact (Pattern.hostPath_eq_iff (h.holding.sound route hroute) (h.holding.sound top hforemost.mem)).2 hsegments
    · rw [hlaid.method]
      rfl

/-- It is answered by the user that the path names, if there is one. -/
theorem shows (h : Usual order baseUrl base server site.instances) (hverb : visit.request.verb = "GET".toList)
    {raw : Text} (hparts : visit.request.path.split '/' = usersParts base ++ [raw]) (hraw : raw ≠ []) {id : Nat}
    (hspells : Spells raw id) :
    (Host.answer server visit site).1 = visit.dressed
      (match site.world.get? id with
        | some user => .json 200 user.json
        | none => userNotFound) := by
  obtain ⟨route, hrouted, hlaid⟩ := h.routed hparts hraw
  obtain ⟨top, captured, hlocate, hroute, htakes⟩ := hrouted.located h.holding
  rw [hlaid.segments] at htakes
  obtain ⟨raw', -, hparts', rfl⟩ := takes_userPath_iff.1 htakes
  obtain rfl : raw = raw' := List.singleton_inj.1 (List.append_cancel_left (hparts.symm.trans hparts'))
  have hmiddleware : route.middleware = [] := List.map_eq_nil_iff.1 hlaid.middleware
  have hrespond : Host.respond server visit.clock visit.identified site =
      route.dispatch (visit.capturing [("id".toList, raw)]) site := by
    have hlocate' : Host.locate server.routes visit.identified.path = some (top, [("id".toList, raw)]) := hlocate
    have hroute' : Host.routeFor? (Host.siblings server.routes top) visit.identified.verb = some route :=
      (congrArg (Host.routeFor? _) hverb).trans hroute
    simp only [Host.respond, hlocate', Host.answerOn, hroute', Host.guarded, hmiddleware]
    rfl
  have hid : userId (visit.capturing [("id".toList, raw)]) = .ok id := (userId_eq_ok_iff rfl).2 hspells
  rw [Host.answer_eq, hrespond, (hlaid.dispatch _).1]
  simp only [userPlan, getUser, hid, withStore, Instance.hasStore]
  cases site.world.get? id <;> rfl

end Usual

end App

end Switchboard
