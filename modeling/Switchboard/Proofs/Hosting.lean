/-
Routers with the host behind them.

`Router.OnHost` are the routers that some run of calls comes to, where every server offered on the way is a host
without routes. Their invariant is `OnHost.standing`. It gives what holds of the routes of such a host (`Host.Holding`):
they can all stand in one table, so that a path is spelled one way and a method stands on a path once.
-/
import Switchboard.Host.Tree
import Switchboard.Proofs.Runs

namespace Switchboard

variable {ι ρ ω : Type}

namespace RouteTable

/-- entries beside each other that are alike all along have one path -/
theorem Beside.segments_eq {a b : Route ι ω} (h : Beside a.entry b.entry)
    (halike : List.Forall₂ Segment.Alike a.pattern.segments b.pattern.segments) :
    a.pattern.segments = b.pattern.segments :=
  h.2.eq_of_alike (by simp : a.pattern.segments = [] ++ a.pattern.segments ++ [])
    (by simp : b.pattern.segments = [] ++ b.pattern.segments ++ []) halike

theorem Beside.method_ne {a b : Route ι ω} (h : Beside a.entry b.entry)
    (hsegments : a.pattern.segments = b.pattern.segments) : a.method ≠ b.method :=
  fun hmethod => h.1 hmethod (by simp [Route.entry, Pattern.shape, hsegments])

end RouteTable

namespace Host

/-- routes that can all stand in one table -/
structure Holding (routes : List (Route ι ω)) : Prop where
  sound : ∀ route ∈ routes, route.pattern.Sound
  beside : ∀ a ∈ routes, ∀ b ∈ routes, a ≠ b → RouteTable.Beside a.entry b.entry

namespace Holding

variable {routes : List (Route ι ω)} {a b : Route ι ω}

theorem hostPath_eq (h : Holding routes) (ha : a ∈ routes) (hb : b ∈ routes)
    (halike : List.Forall₂ Segment.Alike a.pattern.segments b.pattern.segments) :
    a.pattern.hostPath = b.pattern.hostPath := by
  by_cases hab : a = b
  · rw [hab]
  · have hsegments := (h.beside a ha b hb hab).segments_eq halike
    exact (Pattern.hostPath_eq_iff (h.sound a ha) (h.sound b hb)).2 hsegments

/-- a method stands on a path once -/
theorem eq_of_method (h : Holding routes) (ha : a ∈ routes) (hb : b ∈ routes)
    (hpath : a.pattern.hostPath = b.pattern.hostPath) (hmethod : a.method = b.method) : a = b := by
  by_contra hab
  have hsegments := (Pattern.hostPath_eq_iff (h.sound a ha) (h.sound b hb)).1 hpath
  exact (h.beside a ha b hb hab).method_ne hsegments hmethod

end Holding

end Host

namespace Router

section Entered

variable {table : RouteTable} {routes : List (Route ι ω)}

theorem Entered.beside (h : Entered table routes) : routes.Pairwise fun a b => RouteTable.Beside a.entry b.entry :=
  List.pairwise_map.1 h.records.beside

theorem Entered.holding (h : Entered table routes) : Host.Holding routes := by
  have : Std.Symm fun a b : Route ι ω => RouteTable.Beside a.entry b.entry := ⟨fun _ _ h => h.symm⟩
  exact ⟨h.sound, fun a ha b hb hab => h.beside.forall ha hb hab⟩

end Entered

/-- A run of calls comes to the router; every server offered on the way is a host without routes. -/
def OnHost (router : Router ι ρ ω) : Prop :=
  ∃ source settings site₀ site calls,
    (∀ call ∈ calls, ∀ offered, call.offer? = some offered → ∃ handle, offered = Host.server handle) ∧
      (Router.empty source settings).run site₀ calls = (.ok router, site)

variable {router : Router ι ρ ω} {server : Server ι ω}

theorem OnHost.standing (h : OnHost router) :
    ∃ accepted, Standing (fun offered => ∃ handle, offered = Host.server handle) router accepted ∧
      ∀ server, router.server = some server → server.admits = Host.admits ∧ server.routes = accepted := by
  obtain ⟨source, settings, site₀, site, calls, hoffer, ran⟩ := h
  obtain ⟨accepted, hstanding⟩ := run_standing (standing_empty source settings) hoffer ran
  rw [List.nil_append] at hstanding
  refine ⟨accepted, hstanding, fun server bound => ?_⟩
  obtain ⟨given, ⟨handle, rfl⟩, hadmits, hroutes, -⟩ := hstanding.bound server bound
  exact ⟨hadmits, by simpa [Host.server] using hroutes⟩

theorem OnHost.holding (h : OnHost router) (bound : router.server = some server) : Host.Holding server.routes := by
  obtain ⟨accepted, hstanding, hserver⟩ := h.standing
  rw [(hserver server bound).2]
  exact hstanding.holding

end Router

theorem Sample.onHost {lines : List Text} {router : Router Unit Unit Unit} {site : Site Unit Unit}
    (ran : Sample.outcome (Host.server {}) lines = (.ok router, site)) : router.OnHost := by
  refine ⟨_, _, _, site, _, fun call hcall other hoffer => ?_, ran⟩
  exact ⟨{}, Sample.offered call hcall other hoffer⟩

end Switchboard
