/-
One batch or two, it comes to the same.

A batch is resolved against a scratch table that is committed at its end; two batches commit in between. The lines of
the second are then resolved at a site that is level with the one that the single batch has come to
(`Resolution.Matches`), only the routes of the first have been registered there (`rest_alike`).

Main statement: `route_append`. The joined batch and the two parts both succeed, with the same router and at sites that
nothing tells apart later, or both are refused, with the same error after the same loads.
-/
import Switchboard.Proofs.Lockstep

namespace Switchboard

variable {ι ρ ω : Type}

theorem Site.handing_append (site : Site ι ω) (routes more : List (Route ι ω)) :
    site.handing (routes ++ more) = (site.handing routes).handing more := by
  simp [Site.handing]

namespace Sample

def showUser : List Text := ["get /users/:id Page@show auth"]

def renameUser : List Text := ["post /users Users@show", "get /users/:name Page@show"]

end Sample

namespace Router

/-- a batch is resolved line by line, so its parts are resolved one after the other -/
theorem resolveAll_append (router : Router ι ρ ω) (mount : Text) (table : RouteTable) (number : Nat)
    (xs ys : List Text) :
    router.resolveAll mount table number (xs ++ ys) = (do
      let first ← router.resolveAll mount table number xs
      let rest ← router.resolveAll mount first.2 (number + xs.length) ys
      pure (first.1 ++ rest.1, rest.2)) := by
  induction xs generalizing table number with
  | nil => simp [resolveAll]
  | cons line xs ih =>
    simp only [List.cons_append, resolveAll, ih, bind_assoc, pure_bind, List.length_cons]
    simp only [Nat.add_assoc, Nat.add_comm 1]

/-- the router after a batch has been registered, which has left this cache and this table -/
def afterBatch (router : Router ι ρ ω) (server : Server ι ω) (routes : List (Route ι ω)) (table : RouteTable)
    (cache : ModuleCache ι ω) : Router ι ρ ω :=
  { router with
    server := some (server.holding routes), cache, registered := router.registered ++ routes.map Route.summary, table }

/-- the site after a batch has been registered -/
def batchRegistered (site : Site ι ω) (mount : Text) (routes : List (Route ι ω)) : Site ι ω :=
  (site.handing routes).report (.batchRegistered mount routes.length)

/-! ## The parts of a batch -/

section Parts

variable {router : Router ι ρ ω} {server : Server ι ω} {xs ys : List Text} {mount : Text} {site : Site ι ω}
  {routes more : List (Route ι ω)} {table last : RouteTable} {s s' : ResolutionState ι ω} {e : RouteError}

theorem resolveBatch_append_of_refused (h : router.resolveBatch xs mount site = .error e s) :
    router.resolveBatch (xs ++ ys) mount site = .error e s := by
  unfold resolveBatch at h ⊢
  rw [resolveAll_append]
  exact Resolution.bind_eq_error.2 (Or.inl h)

theorem resolveBatch_append_eq_error (h : router.resolveBatch xs mount site = .ok (routes, table) s)
    (hrest : router.resolveAll mount table (1 + xs.length) ys s = .error e s') :
    router.resolveBatch (xs ++ ys) mount site = .error e s' := by
  unfold resolveBatch at h ⊢
  rw [resolveAll_append]
  exact Resolution.bind_eq_error.2 (Or.inr ⟨_, s, h, Resolution.bind_eq_error.2 (Or.inl hrest)⟩)

theorem resolveBatch_append_eq_ok (h : router.resolveBatch xs mount site = .ok (routes, table) s)
    (hrest : router.resolveAll mount table (1 + xs.length) ys s = .ok (more, last) s') :
    router.resolveBatch (xs ++ ys) mount site = .ok (routes ++ more, last) s' := by
  unfold resolveBatch at h ⊢
  rw [resolveAll_append]
  exact Resolution.bind_eq_ok.2 ⟨_, s, h, Resolution.bind_eq_ok.2 ⟨_, s', hrest, rfl⟩⟩

theorem run_pair_error {halt : Halt} {site₁ : Site ι ω} (h : router.route xs mount site = (.error halt, site₁)) :
    router.run site [.route xs mount, .route ys mount] = (.error halt, site₁) := by
  simp only [run, perform, h]

theorem run_pair {first : Router ι ρ ω} {site₁ : Site ι ω} (h : router.route xs mount site = (.ok first, site₁)) :
    router.run site [.route xs mount, .route ys mount] = first.route ys mount site₁ := by
  simp only [run, perform, h]
  cases first.route ys mount site₁ with
  | mk result site₂ => cases result <;> rfl

/-- The second part of a batch, resolved on its own after the first part has been registered: it comes to what it comes
to in the joined batch, except that the routes of the first part have been handed to the server. -/
theorem rest_alike (router : Router ι ρ ω) (server : Server ι ω) (routes : List (Route ι ω)) (table : RouteTable)
    (s : ResolutionState ι ω) (ys : List Text) (mount : Text) (number : Nat) :
    (∃ found s' t', router.resolveAll mount table number ys s = .ok found s' ∧
        (router.afterBatch server routes table s.1).resolveBatch ys mount (batchRegistered s.2 mount routes) =
          .ok found t' ∧ t'.1 = s'.1 ∧ (s'.2.handing routes).Alike t'.2) ∨
      ∃ e s' t', router.resolveAll mount table number ys s = .error e s' ∧
        (router.afterBatch server routes table s.1).resolveBatch ys mount (batchRegistered s.2 mount routes) =
          .error e t' ∧ (s'.2.handing routes).Alike t'.2 := by
  let after := router.afterBatch server routes table s.1
  let start := after.opening mount (batchRegistered s.2 mount routes)
  have hstart : (s.2.handing routes).Alike start := by
    show Site.Alike _ (after.opening mount _)
    unfold opening
    split_ifs
    · exact ⟨⟨rfl, rfl, rfl⟩, rfl, rfl⟩
    · exact ⟨⟨rfl, rfl, rfl⟩, rfl, rfl⟩
  have hlevel : Resolution.LevelStates s (s.1, start) := ⟨rfl, hstart.instances, hstart.world, hstart.loads⟩
  have hquiet := Resolution.kept_quiet.resolveAll router mount table number ys s
  have hquiet' := Resolution.kept_quiet.resolveAll after mount table 1 ys (s.1, start)
  -- neither resolution moves a counter, so the sites still differ by the routes of the first part
  have hhanded : ∀ s' t' : ResolutionState ι ω, s.2.Quiet s'.2 → start.Quiet t'.2 → s'.2.Level t'.2 →
      (s'.2.handing routes).Alike t'.2 := by
    intro s' t' hs' ht' h
    refine ⟨⟨h.instances, h.world, h.loads⟩, ?_, ?_⟩
    · rw [ht'.measures, hstart.measures]
      simp [hs'.measures]
    · rw [ht'.registrations, hstart.registrations]
      simp [hs'.registrations]
  have hresolve : ∀ line, Resolution.Matches (router.resolve mount line) (after.resolve mount line) :=
    Resolution.matches_resolve router mount
  rcases Resolution.matches_resolveAll hresolve table number 1 ys s (s.1, start) hlevel with
    ⟨found, s', t', hs', ht', h⟩ | ⟨e, s', t', hs', ht', h⟩
  · exact Or.inl ⟨found, s', t', hs', ht', h.cache, hhanded s' t' (hquiet.1 _ s' hs') (hquiet'.1 _ t' ht') h.site⟩
  · exact Or.inr ⟨e, s', t', hs', ht', hhanded s' t' (hquiet.2 _ s' hs') (hquiet'.2 _ t' ht') h.site⟩

end Parts

/-! ## Both ways -/

/-- Joined or in parts, the batch is registered: one router comes of it, at sites that neither calls nor requests tell
apart. -/
structure RegisteredBothWays (router : Router ι ρ ω) (xs ys : List Text) (mount : Text) (site : Site ι ω)
    (router' : Router ι ρ ω) (joined parted : Site ι ω) : Prop where
  join : router.route (xs ++ ys) mount site = (.ok router', joined)
  part : router.run site [.route xs mount, .route ys mount] = (.ok router', parted)
  sites : joined.Alike parted
  calls : ∀ calls, OutcomesAlike (router'.run joined calls) (router'.run parted calls)
  visits : ∀ server', router'.server = some server' → ∀ visits,
    (Host.answers server' joined visits).1 = (Host.answers server' parted visits).1

/-- Joined or in parts, the batch is refused with one error after the same loads. The joined batch has registered
nothing. In parts, the first one is refused just like that, or it has been registered and that is all the difference. -/
structure RefusedBothWays (router : Router ι ρ ω) (xs ys : List Text) (mount : Text) (site : Site ι ω)
    (e : RouteError) (joined parted : Site ι ω) : Prop where
  join : router.route (xs ++ ys) mount site = (.error (.refused e), joined)
  part : router.run site [.route xs mount, .route ys mount] = (.error (.refused e), parted)
  loads : parted.loads = joined.loads
  unregistered : joined.registrations = site.registrations
  difference : router.route xs mount site = (.error (.refused e), joined) ∧ parted = joined ∨
    ∃ first site₁ routes, router.route xs mount site = (.ok first, site₁) ∧
      first.registered = router.registered ++ routes.map Route.summary ∧ (joined.handing routes).Alike parted

section BothWays

variable {router : Router ι ρ ω} {server : Server ι ω} {xs ys : List Text} {mount : Text} {site : Site ι ω}

/-- the first part is refused, and with it the joined batch -/
theorem refusedBothWays_of_first (bound : router.server = some server) {e : RouteError} {s : ResolutionState ι ω}
    (h : router.resolveBatch xs mount site = .error e s) : RefusedBothWays router xs ys mount site e s.2 s.2 := by
  have hfirst := route_refused bound h
  have hjoined : router.resolveBatch (xs ++ ys) mount site = .error e s := resolveBatch_append_of_refused h
  have hquiet := (resolveBatch_quiet router (xs ++ ys) mount site).2 e s hjoined
  exact ⟨route_refused bound hjoined, run_pair_error hfirst, rfl, hquiet.registrations, .inl ⟨hfirst, rfl⟩⟩

theorem canHold_of_calm (bound : router.server = some server) {lines : List Text} {routes : List (Route ι ω)}
    {table : RouteTable} {s : ResolutionState ι ω} (h : router.resolveBatch lines mount site = .ok (routes, table) s)
    (calm : ∀ path site', router.route lines mount site ≠ (.error (.unhostable path), site')) :
    server.CanHold routes := by
  by_contra hold
  obtain ⟨before, route, after, -, -, heq⟩ := route_unhostable bound h hold
  exact calm _ _ heq

/-- the first part passes: both ways then come to what the second part comes to -/
theorem bothWays_of_first (bound : router.server = some server)
    (calm : ∀ path site', router.run site [.route xs mount, .route ys mount] ≠ (.error (.unhostable path), site'))
    {routes : List (Route ι ω)} {table : RouteTable} {s : ResolutionState ι ω}
    (h : router.resolveBatch xs mount site = .ok (routes, table) s) :
    (∃ router' joined parted, RegisteredBothWays router xs ys mount site router' joined parted) ∨
      ∃ e joined parted, RefusedBothWays router xs ys mount site e joined parted := by
  have hold : server.CanHold routes :=
    canHold_of_calm bound h fun path site' heq => calm path site' (run_pair_error heq)
  have hfirst : router.route xs mount site =
      (.ok (router.afterBatch server routes table s.1), batchRegistered s.2 mount routes) :=
    route_registered bound h hold
  have hbound : (router.afterBatch server routes table s.1).server = some (server.holding routes) := rfl
  rcases rest_alike router server routes table s ys mount (1 + xs.length) with
    ⟨⟨more, last⟩, s', t', hs', ht', hcache, hsites⟩ | ⟨e, s', t', hs', ht', hsites⟩
  · left
    have hold' : (server.holding routes).CanHold more :=
      canHold_of_calm hbound ht' fun path site' heq => calm path site' ((run_pair hfirst).trans heq)
    have hjoin : router.route (xs ++ ys) mount site =
        (.ok (router.afterBatch server (routes ++ more) last s'.1), batchRegistered s'.2 mount (routes ++ more)) :=
      route_registered bound (resolveBatch_append_eq_ok h hs') (Server.canHold_append.2 ⟨hold, hold'⟩)
    have hsecond : (router.afterBatch server routes table s.1).route ys mount (batchRegistered s.2 mount routes) =
        (.ok ((router.afterBatch server routes table s.1).afterBatch (server.holding routes) more last t'.1),
          batchRegistered t'.2 mount more) :=
      route_registered hbound ht' hold'
    have hsame : (router.afterBatch server routes table s.1).afterBatch (server.holding routes) more last t'.1 =
        router.afterBatch server (routes ++ more) last s'.1 := by
      simp [afterBatch, Server.holding, hcache]
    have halike : (batchRegistered s'.2 mount (routes ++ more)).Alike (batchRegistered t'.2 mount more) := by
      unfold batchRegistered
      rw [Site.handing_append]
      exact (hsites.handing more).report _ _
    exact ⟨_, _, _, hjoin, (run_pair hfirst).trans (hsame ▸ hsecond), halike, run_alike _ halike,
      fun server' _ => Host.answers_alike server' halike⟩
  · right
    have hjoined : router.resolveBatch (xs ++ ys) mount site = .error e s' := resolveBatch_append_eq_error h hs'
    have hquiet := (resolveBatch_quiet router (xs ++ ys) mount site).2 e s' hjoined
    exact ⟨e, s'.2, t'.2, route_refused bound hjoined, (run_pair hfirst).trans (route_refused hbound ht'), hsites.loads,
      hquiet.registrations, .inr ⟨_, _, routes, hfirst, rfl, hsites⟩⟩

end BothWays

/-- **Batching does not matter.** On an initialised router whose server does not panic at one batch after the other, a
list of lines comes to the same whether it is registered as one batch or as two. -/
theorem route_append {router : Router ι ρ ω} {server : Server ι ω} (bound : router.server = some server)
    (xs ys : List Text) (mount : Text) (site : Site ι ω)
    (calm : ∀ path site', router.run site [.route xs mount, .route ys mount] ≠ (.error (.unhostable path), site')) :
    (∃ router' joined parted, RegisteredBothWays router xs ys mount site router' joined parted) ∨
      ∃ e joined parted, RefusedBothWays router xs ys mount site e joined parted := by
  cases hxs : router.resolveBatch xs mount site with
  | error e s => exact Or.inr ⟨e, s.2, s.2, refusedBothWays_of_first bound hxs⟩
  | ok found s =>
    obtain ⟨routes, table⟩ := found
    exact bothWays_of_first bound calm hxs

/-- Two batches, of which the second names a capture of the first one anew: refused both ways. -/
theorem route_append_users :
    ∃ router : Router Unit Unit Unit, ∃ server, router.server = some server ∧
      (∀ path site', router.run { world := () } [.route Sample.showUser [], .route Sample.renameUser []] ≠
        (.error (.unhostable path), site')) ∧
      ∃ e joined parted,
        RefusedBothWays router Sample.showUser Sample.renameUser [] { world := () } e joined parted := by
  let router : Router Unit Unit Unit := { Router.empty Sample.source {} with server := some (Server.recording {}) }
  have bound : router.server = some (Server.recording {}) := rfl
  have hrefused : (haltOf (router.run { world := () } [.route Sample.showUser [], .route Sample.renameUser []])).any
      (fun halt => halt matches .refused _) = true := by
    decide +kernel
  have calm : ∀ path site', router.run { world := () } [.route Sample.showUser [], .route Sample.renameUser []] ≠
      (.error (.unhostable path), site') := by
    intro path site' heq
    rw [heq] at hrefused
    cases hrefused
  refine ⟨router, Server.recording {}, bound, calm, ?_⟩
  refine (route_append bound Sample.showUser Sample.renameUser [] { world := () } calm).resolve_left ?_
  rintro ⟨router', joined, parted, hregistered⟩
  rw [hregistered.part] at hrefused
  cases hrefused

end Router

end Switchboard
