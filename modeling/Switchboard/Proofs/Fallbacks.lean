/-
Which requests come to the fallback.

The fallback of a server is the handler installed last (`run_fallback`). The host runs it where no path takes the
request, and a path is taken or not whatever the method. `catchesGets_iff` says what this comes to: GET requests are
caught as they should be unless a path takes the request while no GET route matches it. Such a request is refused on
that path.

What is said of the fallback is said by exchanging it: `LeavesToFallback` if the answer is that of whatever handler is
installed, `SparesFallback` if it is the same whatever handler is installed.
-/
import Switchboard.Proofs.Handling

namespace Switchboard

variable {ι ρ ω : Type}

namespace Router

/-! ## The handler installed last -/

def Call.handler? : Call ι ρ ω → Option (Handler ω)
  | .catchGetRequests handler => some handler
  | _ => none

def lastInstalled (calls : List (Call ι ρ ω)) : Option (Handler ω) :=
  (calls.filterMap Call.handler?).getLast?

theorem lastInstalled_append_of_none (calls : List (Call ι ρ ω)) {call : Call ι ρ ω} (h : call.handler? = none) :
    lastInstalled (calls ++ [call]) = lastInstalled calls := by
  simp [lastInstalled, h]

theorem lastInstalled_append (calls : List (Call ι ρ ω)) (handler : Handler ω) :
    lastInstalled (calls ++ [.catchGetRequests handler]) = some handler := by
  simp [lastInstalled, Call.handler?]

theorem exists_lastInstalled {calls : List (Call ι ρ ω)} {handler : Handler ω}
    (h : Call.catchGetRequests handler ∈ calls) : ∃ last, lastInstalled calls = some last := by
  have hmem : handler ∈ calls.filterMap Call.handler? := List.mem_filterMap.2 ⟨_, h, rfl⟩
  exact ⟨_, List.getLast?_eq_some_getLast (List.ne_nil_of_mem hmem)⟩

theorem handler?_of_batch? {settings : RoutingSettings} {call : Call ι ρ ω} {batch : List Text × Text}
    (h : call.batch? settings = some batch) : call.handler? = none := by
  cases call with
  | catchGetRequests handler => cases h
  | init | route | web | api => rfl

/-- the fallback of the bound server is the handler installed last, if any -/
structure Installed (done : List (Call ι ρ ω)) (router : Router ι ρ ω) : Prop where
  bound : ∀ server, router.server = some server → server.fallback = lastInstalled done
  unbound : router.server = none → lastInstalled done = none

theorem perform_installed {done : List (Call ι ρ ω)} {router router' : Router ι ρ ω} {site site' : Site ι ω}
    {call : Call ι ρ ω} (h : Installed done router)
    (hosts : ∀ offered, call.offer? = some offered → ∃ handle, offered = Host.server handle)
    (hcall : Succeeds router site call router' site') : Installed (done ++ [call]) router' := by
  cases hcall with
  | bound server resource hnone =>
    refine ⟨fun held hheld => ?_, fun hnone' => by cases hnone'⟩
    cases hheld
    obtain ⟨handle, rfl⟩ := hosts server rfl
    rw [lastInstalled_append_of_none done rfl, h.unbound hnone]
    rfl
  | ignored server resource hbound =>
    exact ⟨fun held hheld => by rw [lastInstalled_append_of_none done rfl, h.bound held hheld],
      fun hnone => by rw [lastInstalled_append_of_none done rfl, h.unbound hnone]⟩
  | registered hbatch hbound hresolve hold =>
    refine ⟨fun held hheld => ?_, fun hnone => by cases hnone⟩
    cases hheld
    rw [lastInstalled_append_of_none done (handler?_of_batch? hbatch), ← h.bound _ hbound]
    rfl
  | fallback handler hbound =>
    refine ⟨fun held hheld => ?_, fun hnone => by cases hnone⟩
    cases hheld
    rw [lastInstalled_append]

theorem run_fallback {source : ModuleSource ι ρ ω} {settings : RoutingSettings} {site₀ site : Site ι ω}
    {calls : List (Call ι ρ ω)} {router : Router ι ρ ω} {server : Server ι ω}
    (hosts : ∀ call ∈ calls, ∀ offered, call.offer? = some offered → ∃ handle, offered = Host.server handle)
    (ran : (Router.empty source settings).run site₀ calls = (.ok router, site)) (bound : router.server = some server) :
    server.fallback = lastInstalled calls := by
  have hstart : Installed [] (Router.empty source settings) :=
    { bound := fun held hheld => by cases hheld
      unbound := fun _ => rfl }
  have hend : Installed calls router := by
    refine run_induction (fun done router _ => Installed done router) ?_ hstart ran
    intro call hmem done router site router' site' hinstalled hcall
    exact perform_installed hinstalled (hosts call hmem) hcall
  exact hend.bound server bound

end Router

namespace Host

/-! ## Requests and the fallback -/

/-- the server with another fallback -/
def withFallback (server : Server ι ω) (handler : Handler ω) : Server ι ω :=
  { server with fallback := some handler }

/-- whatever handler is installed, it answers every request with this verb and path -/
def LeavesToFallback (server : Server ι ω) (verb path : Text) : Prop :=
  ∀ (handler : Handler ω) (clock : Nat) (request : Request) (site : Site ι ω), request.verb = verb →
    request.path = path → respond (withFallback server handler) clock request site = handler.atSite request site

/-- every request with this verb and path is answered in one way, whatever handler is installed -/
def SparesFallback (server : Server ι ω) (verb path : Text) : Prop :=
  ∀ (handler other : Handler ω) (clock : Nat) (request : Request) (site : Site ι ω), request.verb = verb →
    request.path = path →
    respond (withFallback server handler) clock request site = respond (withFallback server other) clock request site

theorem LeavesToFallback.not_spares {server : Server ι ω} {verb path : Text} (h : LeavesToFallback server verb path)
    (world : ω) : ¬SparesFallback server verb path := by
  intro hspares
  have hanswer : ∀ status, respond (withFallback server fun _ world => (.bare status, world)) 0
      { verb, path, headers := [], body := [] } { world } = (.bare status, { world }) :=
    fun status => h (fun _ world => (.bare status, world)) 0 _ _ rfl rfl
  have hsame := hspares (fun _ world => (.bare 200, world)) (fun _ world => (.bare 204, world)) 0
    { verb, path, headers := [], body := [] } { world } rfl rfl
  rw [hanswer 200, hanswer 204] at hsame
  cases hsame

theorem handling_withFallback {server : Server ι ω} (handler : Handler ω) (verb : Text) {path : Text}
    (h : locate server.routes path = none) :
    handling (withFallback server handler) verb path =
      if routedVerb verb = Method.get.verb then .fallback handler else .fallbackRefused := by
  simp only [handling, withFallback, h]

/-- a path that takes the request keeps it from the fallback -/
theorem spares_of_located {server : Server ι ω} {path : Text} {found : Route ι ω × List (Text × Text)}
    (h : locate server.routes path = some found) (verb : Text) : SparesFallback server verb path := by
  rintro handler other clock request site rfl rfl
  simp only [respond, withFallback, h]

theorem leaves_of_unlocated {server : Server ι ω} {verb path : Text} (h : locate server.routes path = none)
    (hverb : routedVerb verb = Method.get.verb) : LeavesToFallback server verb path := by
  rintro handler clock request site rfl rfl
  rw [respond_eq, handling_withFallback handler _ h, if_pos hverb]
  rfl

theorem spares_of_verb {server : Server ι ω} {verb : Text} (hverb : routedVerb verb ≠ Method.get.verb) (path : Text) :
    SparesFallback server verb path := by
  cases h : locate server.routes path with
  | some found => exact spares_of_located h verb
  | none =>
    rintro handler other clock request site rfl rfl
    rw [respond_eq, respond_eq, handling_withFallback handler _ h, handling_withFallback other _ h, if_neg hverb,
      if_neg hverb]

/-! ## Catching GET requests -/

def GetMatched (server : Server ι ω) (path : Text) : Prop :=
  ∃ route ∈ server.routes, route.method = .get ∧ Matches route.pattern.segments (path.split '/')

/-- The fallback is the handler installed last. It answers the GET requests for the path if no GET route matches the
path, and none of them if one does. It never answers a request with a verb other than GET and HEAD. -/
structure CatchesGets (calls : List (Router.Call ι ρ ω)) (server : Server ι ω) (path : Text) : Prop where
  installed : ∃ handler, Router.lastInstalled calls = some handler ∧ server.fallback = some handler
  unmatched : ¬GetMatched server path → LeavesToFallback server Method.get.verb path
  matched : GetMatched server path → SparesFallback server Method.get.verb path
  others : ∀ verb, verb ≠ Method.get.verb → verb ≠ "HEAD" → SparesFallback server verb path

/-- some path takes the request, while no GET route matches it -/
def Shadowed (server : Server ι ω) (path : Text) : Prop :=
  (∃ route ∈ server.routes, ∃ captured, Takes route.pattern.segments (path.split '/') captured) ∧
    ¬GetMatched server path

theorem locate_of_getMatched {server : Server ι ω} {path : Text} (h : GetMatched server path) :
    ∃ found, locate server.routes path = some found := by
  obtain ⟨route, hroute, -, hmatches⟩ := h
  obtain ⟨captured, htakes, -⟩ := matches_iff.1 hmatches
  cases hlocate : locate server.routes path with
  | none => exact absurd htakes (locate_eq_none_iff.1 hlocate route hroute captured)
  | some found => exact ⟨found, rfl⟩

/-- **Catching GET requests.** On a host that a run of calls has come to, one of which installed a handler, GET requests
for a path are caught as they should be exactly if the path is not shadowed. -/
theorem catchesGets_iff {source : ModuleSource ι ρ ω} {settings : RoutingSettings} {site₀ site : Site ι ω}
    {calls : List (Router.Call ι ρ ω)} {router : Router ι ρ ω} {server : Server ι ω}
    (hosts : ∀ call ∈ calls, ∀ offered, call.offer? = some offered → ∃ handle, offered = Host.server handle)
    (ran : (Router.empty source settings).run site₀ calls = (.ok router, site)) (bound : router.server = some server)
    (caught : ∃ handler, Router.Call.catchGetRequests handler ∈ calls) (path : Text) :
    CatchesGets calls server path ↔ ¬Shadowed server path := by
  constructor
  · rintro hcatches ⟨⟨route, hroute, captured, htakes⟩, hunmatched⟩
    cases hlocate : locate server.routes path with
    | none => exact locate_eq_none_iff.1 hlocate route hroute captured htakes
    | some found =>
      exact (hcatches.unmatched hunmatched).not_spares site.world (spares_of_located hlocate _)
  · intro hshadowed
    obtain ⟨handler, hhandler⟩ := caught
    obtain ⟨last, hlast⟩ := Router.exists_lastInstalled hhandler
    refine ⟨⟨last, hlast, (Router.run_fallback hosts ran bound).trans hlast⟩, fun hunmatched => ?_, fun hmatched => ?_,
      fun verb hget hhead => ?_⟩
    · cases hlocate : locate server.routes path with
      | none => exact leaves_of_unlocated hlocate (Host.routedVerb_verb .get)
      | some found =>
        obtain ⟨top, captured⟩ := found
        obtain ⟨htop, htakes, -⟩ := locate_some hlocate
        exact absurd ⟨⟨top, htop, captured, htakes⟩, hunmatched⟩ hshadowed
    · obtain ⟨found, hlocate⟩ := locate_of_getMatched hmatched
      exact spares_of_located hlocate _
    · refine spares_of_verb ?_ path
      simp only [routedVerb, hhead, if_false]
      exact hget

/-- A path that nothing takes, on a router with three batches around the fallback: its GET requests are caught. -/
theorem catchesGets_iff_batches :
    ∃ router site server,
      (Router.empty Sample.source {}).run { world := () } (Sample.batches (Host.server {})) = (.ok router, site) ∧
      router.server = some server ∧
      (CatchesGets (Sample.batches (Host.server {})) server "/nowhere" ↔ ¬Shadowed server "/nowhere") ∧
      CatchesGets (Sample.batches (Host.server {})) server "/nowhere" := by
  have hheld : (Router.hostOf ((Router.empty Sample.source {}).run { world := () }
      (Sample.batches (Host.server {})))).any
        (fun server => server.routes.length = 3 ∧ (locate server.routes "/nowhere").isNone) = true := by
    decide +kernel
  obtain ⟨router, site, server, ran, bound, htest⟩ := Router.exists_of_hostOf hheld
  have hosts : ∀ call ∈ Sample.batches (Host.server {}), ∀ offered, call.offer? = some offered →
      ∃ handle, offered = Host.server handle := by
    simp [Sample.batches, Sample.caughtCalls, Sample.calls, Router.Call.offer?]
  have caught : ∃ handler, Router.Call.catchGetRequests handler ∈ Sample.batches (Host.server {}) :=
    ⟨_, List.mem_append_left _ (List.mem_append_right _ List.mem_cons_self)⟩
  have hcatches := catchesGets_iff hosts ran bound caught "/nowhere"
  have hnone : locate server.routes "/nowhere" = none := Option.isNone_iff_eq_none.1 (of_decide_eq_true htest).2
  refine ⟨router, site, server, ran, bound, hcatches, hcatches.2 ?_⟩
  rintro ⟨⟨route, hroute, captured, htakes⟩, -⟩
  exact locate_eq_none_iff.1 hnone route hroute captured htakes

/-- With a route for `POST /a` alone, `GET /a` is refused and never comes to the fallback. -/
theorem get_refused_beside_post :
    ∃ router site server,
      (Router.empty Sample.source {}).run { world := () }
        (Sample.caughtCalls (Host.server {}) ["post /a Page@show"]) = (.ok router, site) ∧
      router.server = some server ∧ (∀ route ∈ server.routes, route.method = .post) ∧
      (answer server { request := .receive "GET" "/a" [] [], clock := 0, freshId := [] } site).1.status = 405 ∧
      ¬CatchesGets (Sample.caughtCalls (Host.server {}) ["post /a Page@show"]) server "/a" := by
  have hheld : (Router.hostOf ((Router.empty Sample.source {}).run { world := () }
      (Sample.caughtCalls (Host.server {}) ["post /a Page@show"]))).any (fun server =>
        (server.routes.all fun route => route.method = .post) ∧
        (locate server.routes "/a").isSome ∧
        (answer server { request := .receive "GET" "/a" [] [], clock := 0, freshId := [] }
          ((Router.empty Sample.source {}).run { world := () }
            (Sample.caughtCalls (Host.server {}) ["post /a Page@show"])).2).1.status = 405) = true := by
    decide +kernel
  obtain ⟨router, site, server, ran, bound, htest⟩ := Router.exists_of_hostOf hheld
  obtain ⟨hroutes, hlocate, hstatus⟩ := of_decide_eq_true htest
  rw [ran] at hstatus
  have hpost : ∀ route ∈ server.routes, route.method = .post := by simpa using hroutes
  refine ⟨router, site, server, ran, bound, hpost, hstatus, fun hcatches => ?_⟩
  have hunmatched : ¬GetMatched server "/a" := by
    rintro ⟨route, hroute, hget, -⟩
    rw [hpost route hroute] at hget
    cases hget
  obtain ⟨found, hfound⟩ := Option.isSome_iff_exists.1 hlocate
  exact (hcatches.unmatched hunmatched).not_spares () (spares_of_located hfound _)

end Host

end Switchboard
