/-
Which routes a request can reach.

The request for a route is its own path with a word for every capture, a word that no route has as literal text
(`exists_word_not_mem`). The route's path takes that request (`takes_fill`). Another path that takes it has the same
literal text or a capture wherever the route has text, and a capture wherever the route has one, so that it comes later
in the order of trying, or its path crosses that of the route, and then the host does not hold both
(`notAfter_or_crosses`, `OnHost.not_crosses`).

- `reached_iff`: a route of a host is reached by some target exactly if its literal text can stand in the path of a
  target: every character can be sent, and none of them ends the path.
- `query_unreached`: a route that is registered and never reached, since its path has a question mark.
-/
import Mathlib.Data.List.TakeWhile
import Switchboard.Http.Message
import Switchboard.Proofs.Admission
import Switchboard.Proofs.Handling

namespace Switchboard

variable {ι ρ ω : Type}

/-! ## Paths of targets -/

namespace Target

/-- characters that URLs are written with: unreserved ones, the percent sign and the delimiters -/
def UrlChar (c : Char) : Prop :=
  Text.isWordChar c = true ∨ c ∈ ("-.~%:/?#[]@!$&'()*+,;=" : Text)

theorem path_eq_self {t : Text} (hroot : t.head? = some '/') (h : ∀ c ∈ t, c ≠ '?' ∧ c ≠ '#') : path t = t := by
  have hbefore : beforeQuery t = t := by
    rw [beforeQuery, List.takeWhile_eq_self_iff]
    intro c hc
    simpa using h c hc
  simp [path, hroot, hbefore]

theorem mem_beforeQuery {t : Text} {c : Char} (h : c ∈ beforeQuery t) : c ∈ t ∧ c ≠ '?' ∧ c ≠ '#' := by
  have hpass := List.mem_takeWhile_imp h
  exact ⟨(List.takeWhile_prefix _).subset h, by simpa using hpass⟩

/-- the path of a target has no character that ends a path, and none that was not sent but the root -/
theorem mem_path {target : Text} {c : Char} (h : c ∈ path target) :
    (c ∈ target ∨ c = '/') ∧ c ≠ '?' ∧ c ≠ '#' := by
  unfold path at h
  split_ifs at h
  · obtain ⟨hmem, hpass⟩ := mem_beforeQuery h
    exact ⟨Or.inl hmem, hpass⟩
  · cases hscheme : afterScheme? target with
    | none => rw [hscheme] at h; exact absurd h List.not_mem_nil
    | some rest =>
      have hrest : ∀ d ∈ rest, d ∈ target := by
        intro d hd
        have hdrop := Text.after?_eq_some_iff.1 hscheme
        exact (List.dropWhile_suffix _).subset (hdrop ▸ List.mem_append_right _ hd)
      simp only [hscheme] at h
      split at h
      · rw [List.mem_singleton.1 h]
        exact ⟨Or.inr rfl, by decide, by decide⟩
      · obtain ⟨hmem, hpass⟩ := mem_beforeQuery h
        exact ⟨Or.inl (hrest c ((List.dropWhile_suffix _).subset hmem)), hpass⟩

end Target

/-! ## Patterns that the host holds -/

namespace Text

theorem exists_word_not_mem (texts : List Text) : ∃ word, Segment.isWord word = true ∧ word ∉ texts := by
  refine ⟨List.replicate ((texts.map List.length).sum + 1) 'x', ?_, ?_⟩
  · simp only [Segment.isWord, Bool.and_eq_true, List.all_eq_true, List.mem_replicate]
    exact ⟨by simp, fun c hc => by rw [hc.2]; decide⟩
  · intro hmem
    have hle := List.le_sum_of_mem (List.mem_map_of_mem (f := List.length) hmem)
    simp only [List.length_replicate] at hle
    omega

theorem mem_join {sep : Text} {parts : List Text} {c : Char} (h : c ∈ join sep parts) :
    c ∈ sep ∨ ∃ part ∈ parts, c ∈ part := by
  induction parts with
  | nil => exact absurd h List.not_mem_nil
  | cons part parts ih =>
    cases parts with
    | nil => exact Or.inr ⟨part, List.mem_cons_self, h⟩
    | cons next parts =>
      rw [join, List.mem_append, List.mem_append] at h
      rcases h with (h | h) | h
      · exact Or.inr ⟨part, List.mem_cons_self, h⟩
      · exact Or.inl h
      · rcases ih h with hsep | ⟨other, hother, hc⟩
        · exact Or.inl hsep
        · exact Or.inr ⟨other, List.mem_cons_of_mem part hother, hc⟩
      · simp

theorem mem_of_mem_split {sep c : Char} {t part : Text} (hpart : part ∈ split sep t) (hc : c ∈ part) : c ∈ t := by
  induction t generalizing part with
  | nil =>
    rw [split, List.mem_singleton] at hpart
    rwa [hpart] at hc
  | cons d rest ih =>
    by_cases hd : d = sep
    · simp only [split, hd, if_true, List.mem_cons] at hpart
      rcases hpart with rfl | hpart
      · exact absurd hc List.not_mem_nil
      · exact List.mem_cons_of_mem _ (ih hpart hc)
    · cases hs : split sep rest with
      | nil => exact absurd hs (split_ne_nil sep rest)
      | cons first parts =>
        simp only [split, hd, hs, if_false, List.mem_cons] at hpart
        rcases hpart with rfl | hpart
        · rcases List.mem_cons.1 hc with rfl | hc
          · exact List.mem_cons_self
          · exact List.mem_cons_of_mem _ (ih (by simp [hs]) hc)
        · exact List.mem_cons_of_mem _ (ih (by simp [hs, hpart]) hc)

end Text

namespace Segment

/-- a path in which nothing follows a catch-all -/
def Closed (ps : List Segment) : Prop :=
  ∀ before name rest, ps = before ++ .catchAll name :: rest → rest = []

theorem Closed.tail {s : Segment} {ps : List Segment} (h : Closed (s :: ps)) : Closed ps :=
  fun before name rest heq => h (s :: before) name rest (by rw [heq, List.cons_append])

theorem closed_of_readAll {taken texts : List Text} {segments : List Segment}
    (h : readAll taken texts = .ok segments) : Closed segments := by
  induction texts generalizing taken segments with
  | nil =>
    cases h
    intro before name rest heq
    simp at heq
  | cons text texts ih =>
    obtain ⟨segment, taken', tail, hread, htail, rfl⟩ := readAll_cons_ok h
    rintro (- | ⟨first, before⟩) name rest heq
    · -- a catch-all is read at the end alone
      obtain ⟨rfl, rfl⟩ : segment = .catchAll name ∧ tail = rest := by simpa using heq
      cases texts with
      | nil => cases htail; rfl
      | cons next texts =>
        simp only [read, List.isEmpty_cons] at hread
        split at hread
        · cases hread
        · split at hread
          · split_ifs at hread
            cases hread
          · cases hread
          · cases hread
    · obtain ⟨-, rfl⟩ : segment = first ∧ tail = before ++ .catchAll name :: rest := by simpa using heq
      exact ih htail before name rest rfl

/-- what a request has for a segment: its text, or this word for a capture -/
def fill (word : Text) : Segment → Text
  | literal text => text
  | capture _ => word
  | catchAll _ => word

theorem Clean.sep_not_mem_fill {s : Segment} (h : s.Clean) {word : Text} (hword : isWord word = true) :
    '/' ∉ s.fill word := by
  cases s with
  | literal text => exact fun hmem => (h '/' hmem).1 rfl
  | capture name => exact not_mem_word hword (by decide)
  | catchAll name => exact not_mem_word hword (by decide)

end Segment

/-- composed patterns begin at the root, with a further segment, and nothing follows a catch-all -/
theorem Pattern.rooted_closed {mount raw : Text} {p : Pattern} (h : Pattern.parse (Path.compose mount raw) = .ok p) :
    (∃ next rest, p.segments = .literal [] :: next :: rest) ∧ Segment.Closed p.segments := by
  obtain ⟨tail, htail⟩ := Path.collapse_sep (mount ++ ['/'] ++ raw)
  have hcompose : Path.compose mount raw = '/' :: tail := by simpa [Path.compose] using htail
  have hsplit : Text.split '/' ('/' :: tail) = [] :: Text.split '/' tail := Text.split_cons_self '/' tail
  unfold Pattern.parse at h
  rw [hcompose, hsplit] at h
  split at h
  · rename_i segments hread
    cases h
    obtain ⟨segment, taken, more, hfirst, hmore, rfl⟩ := Segment.readAll_cons_ok hread
    have hroot : segment = .literal [] := by cases hfirst; rfl
    obtain ⟨hlength, -⟩ := Segment.clean_of_readAll (fun _ ht => Text.not_mem_of_mem_split ht) hmore
    refine ⟨?_, Segment.closed_of_readAll hread⟩
    cases more with
    | nil => exact absurd (List.eq_nil_of_length_eq_zero hlength.symm) (Text.split_ne_nil '/' tail)
    | cons next rest => exact ⟨next, rest, by rw [hroot]⟩
  · cases h

/-! ## Paths that cross -/

theorem Crosses.symm {ps qs : List Segment} (h : Crosses ps qs) : Crosses qs ps := by
  induction h with
  | caught name other rest rest' => exact .catching other name rest' rest
  | catching name other rest rest' => exact .caught other name rest' rest
  | past hst _ ih => exact .past hst.symm ih

theorem Crosses.irrefl (ps : List Segment) : ¬Crosses ps ps := by
  intro h
  exact h.not_alike (List.forall₂_same.2 fun s _ => Segment.alike_refl s)

/-- No paths of a host cross. -/
theorem Router.OnHost.not_crosses {router : Router ι ρ ω} (h : router.OnHost) {server : Server ι ω}
    (bound : router.server = some server) {a b : Route ι ω} (ha : a ∈ server.routes) (hb : b ∈ server.routes) :
    ¬Crosses a.pattern.segments b.pattern.segments := by
  obtain ⟨accepted, hstanding, hserver⟩ := h.standing
  obtain ⟨given, ⟨handle, rfl⟩, -, -, hcan⟩ := hstanding.bound server bound
  have hroutes := (hserver server bound).2
  have hpairs : accepted.Pairwise fun a b => ¬Crosses a.pattern.segments b.pattern.segments := by
    rw [List.pairwise_iff_forall_sublist]
    intro a b hsub
    obtain ⟨before, rest, rfl, hbefore, hrest⟩ := List.cons_sublist_iff.1 hsub
    obtain ⟨middle, after, rfl⟩ := List.append_of_mem (List.singleton_sublist.1 hrest)
    have hadmits := hcan (before ++ middle) b after (by simp)
    have hcompatible : Host.compatible a b = true := by
      simp only [Host.server, Host.admits, Bool.and_eq_true, List.all_eq_true] at hadmits
      exact hadmits.2 a (by simp [hbefore])
    have hbeside : RouteTable.Beside a.entry b.entry :=
      List.pairwise_iff_forall_sublist.1 hstanding.beside hsub
    have hmem : ∀ route ∈ [a, b], route.pattern.Sound := fun route hroute =>
      hstanding.sound route (hsub.subset hroute)
    exact (Host.compatible_iff (hmem a (by simp)) (hmem b (by simp)) hbeside).1 hcompatible
  have hsymm : Std.Symm fun a b : Route ι ω => ¬Crosses a.pattern.segments b.pattern.segments :=
    ⟨fun _ _ hab hba => hab hba.symm⟩
  rw [hroutes] at ha hb
  exact hpairs.forall_of_forall (fun route _ => Crosses.irrefl _) ha hb

/-! ## Filled paths -/

namespace Host

variable {word : Text} {ps qs : List Segment}

/-- a path takes the request that has a word for each of its captures -/
theorem takes_fill (hword : word ≠ []) (hclosed : Segment.Closed ps) :
    ∃ caught, Takes ps (ps.map (Segment.fill word)) caught := by
  induction ps with
  | nil => exact ⟨[], .done⟩
  | cons s ps ih =>
    obtain ⟨caught, htakes⟩ := ih hclosed.tail
    cases s with
    | literal text => exact ⟨caught, .literal text htakes⟩
    | capture name => exact ⟨_, .capture name (fun h => hword (List.cons.inj h).1) htakes⟩
    | catchAll name =>
      obtain rfl := hclosed [] name ps rfl
      exact ⟨_, .catchAll name (by simpa [Text.join, Segment.fill] using hword)⟩

/-- Another path that takes that request, with literal text other than the word, comes later or crosses the path. -/
theorem notAfter_or_crosses (hclosed : Segment.Closed ps) (hfresh : Segment.literal word ∉ qs)
    {caught : List (Text × Text)} (h : Takes qs (ps.map (Segment.fill word)) caught) :
    NotAfter ps qs ∨ Crosses ps qs := by
  induction ps generalizing qs caught with
  | nil =>
    generalize hparts : List.map (Segment.fill word) [] = parts at h
    cases h with
    | done => exact Or.inl (Or.inl .nil)
    | literal text _ => cases hparts
    | capture name _ _ => cases hparts
    | catchAll name hrest => exact absurd (by rw [← hparts]; rfl) hrest
  | cons s ps ih =>
    have hpast : ∀ {t : Segment} {qs' : List Segment} {caught' : List (Text × Text)}, s.Alike t →
        Segment.literal word ∉ qs' → Takes qs' (ps.map (Segment.fill word)) caught' →
          NotAfter (s :: ps) (t :: qs') ∨ Crosses (s :: ps) (t :: qs') := by
      intro t qs' caught' halike hfresh' htail
      exact (ih hclosed.tail hfresh' htail).imp (.past halike) (.past halike)
    generalize hparts : List.map (Segment.fill word) (s :: ps) = parts at h
    cases h with
    | done => cases hparts
    | literal text htail =>
      obtain ⟨rfl, rfl⟩ := List.cons.inj hparts
      have hother : Segment.literal word ∉ _ := fun hmem => hfresh (List.mem_cons_of_mem _ hmem)
      cases s with
      | literal a => exact hpast rfl hother htail
      | capture m => exact absurd List.mem_cons_self hfresh
      | catchAll m => exact absurd List.mem_cons_self hfresh
    | capture name _ htail =>
      obtain ⟨rfl, rfl⟩ := List.cons.inj hparts
      have hother : Segment.literal word ∉ _ := fun hmem => hfresh (List.mem_cons_of_mem _ hmem)
      cases s with
      | literal a => exact Or.inl (Or.inr (.here _ _ (by simp [rank])))
      | capture m => exact hpast trivial hother htail
      | catchAll m => exact Or.inr (.catching m name _ _)
    | catchAll name hrest =>
      cases s with
      | literal a => exact Or.inl (Or.inr (.here _ _ (by simp [rank])))
      | capture m => exact Or.inl (Or.inr (.here _ _ (by simp [rank])))
      | catchAll m =>
        obtain rfl := hclosed [] m ps rfl
        exact Or.inl (Or.inl (.cons trivial .nil))

theorem Takes.mem_of_literal {parts : List Text} {caught : List (Text × Text)} (h : Takes ps parts caught)
    {text : Text} (htext : Segment.literal text ∈ ps) : text ∈ parts := by
  induction h with
  | done => exact absurd htext List.not_mem_nil
  | literal other _ ih =>
    rcases List.mem_cons.1 htext with heq | htext
    · cases heq
      exact List.mem_cons_self
    · exact List.mem_cons_of_mem _ (ih htext)
  | capture name _ _ ih =>
    rcases List.mem_cons.1 htext with heq | htext
    · cases heq
    · exact List.mem_cons_of_mem _ (ih htext)
  | catchAll name _ => simp at htext

/-! ## Reached routes -/

/-- the path of a request for the route, with the word for every capture -/
def filledPath (word : Text) (route : Route ι ω) : Text :=
  Text.join ['/'] (route.pattern.segments.map (Segment.fill word))

/-- A target that can be sent has a path that goes to the route, and is answered by its middlewares and its action. -/
def Reached (server : Server ι ω) (sendable : Char → Prop) (route : Route ι ω) : Prop :=
  ∃ target captured, (∀ c ∈ target, sendable c) ∧
    RoutedTo server route.method.verb (Target.path target) route ∧
    Handles server route.method.verb (Target.path target) (.action route captured)

/-- such a path is written with separators, the word and the literal text of the route -/
theorem mem_filledPath {word : Text} {route : Route ι ω} {c : Char} (h : c ∈ filledPath word route) :
    c = '/' ∨ c ∈ word ∨ ∃ text, Segment.literal text ∈ route.pattern.segments ∧ c ∈ text := by
  rcases Text.mem_join h with hsep | ⟨part, hpart, hc⟩
  · exact Or.inl (List.mem_singleton.1 hsep)
  · right
    obtain ⟨s, hs, rfl⟩ := List.mem_map.1 hpart
    cases s with
    | literal text => exact Or.inr ⟨text, hs, hc⟩
    | capture name => exact Or.inl hc
    | catchAll name => exact Or.inl hc

theorem exists_fresh_word (routes : List (Route ι ω)) :
    ∃ word, Segment.isWord word = true ∧ ∀ route ∈ routes, Segment.literal word ∉ route.pattern.segments := by
  obtain ⟨word, hword, hnew⟩ := Text.exists_word_not_mem
    (routes.flatMap fun route => route.pattern.segments.map (Segment.fill []))
  refine ⟨word, hword, ?_⟩
  intro route hroute hmem
  apply hnew
  exact List.mem_flatMap.2 ⟨route, hroute, List.mem_map.2 ⟨_, hmem, rfl⟩⟩

/-- the path of a request for the route is foremost, if the word is no route's literal text -/
theorem foremost_filledPath {router : Router ι ρ ω} (h : router.OnHost) {server : Server ι ω}
    (bound : router.server = some server) {route : Route ι ω} (hroute : route ∈ server.routes)
    (hclosed : Segment.Closed route.pattern.segments) {word : Text} (hword : Segment.isWord word = true)
    (hfresh : ∀ other ∈ server.routes, Segment.literal word ∉ other.pattern.segments) :
    ∃ captured, Foremost server.routes (filledPath word route) route captured := by
  have hholding := h.holding bound
  have hsound := hholding.sound route hroute
  have hsplit : Text.split '/' (filledPath word route) = route.pattern.segments.map (Segment.fill word) := by
    refine Text.split_join (by simpa using hsound.nonempty) fun part hpart => ?_
    obtain ⟨s, hs, rfl⟩ := List.mem_map.1 hpart
    exact (hsound.clean s hs).sep_not_mem_fill hword
  have hne : word ≠ [] := by
    intro hnil
    rw [hnil] at hword
    exact absurd hword (by decide)
  obtain ⟨captured, htakes⟩ := takes_fill hne hclosed
  refine ⟨captured, hroute, hsplit ▸ htakes, fun other hother caught hcaught => ?_⟩
  rw [hsplit] at hcaught
  rcases notAfter_or_crosses hclosed (hfresh other hother) hcaught with (halike | hbefore) | hcrosses
  · exact Or.inl (hholding.hostPath_eq hroute hother halike).symm
  · exact Or.inr hbefore
  · exact absurd hcrosses (h.not_crosses bound hroute hother)

/-- the route that a request goes to handles it -/
theorem RoutedTo.exists_handles {server : Server ι ω} (hholding : Holding server.routes) {verb path : Text}
    {route : Route ι ω} (h : RoutedTo server verb path route) :
    ∃ captured, Handles server verb path (.action route captured) := by
  obtain ⟨top, captured, htop, -⟩ := id h
  obtain ⟨found, caught, hlocate, -⟩ := hholding.locate_of_foremost htop
  rcases handling_of_locate hholding verb hlocate with ⟨other, hother, hhandling⟩ | ⟨hnone, -⟩
  · obtain rfl := hother.unique hholding h
    exact ⟨caught, hhandling ▸ handles server verb path⟩
  · exact absurd h (hnone route)

/-- what a target goes to has only literal text that its path can hold -/
theorem RoutedTo.literal {server : Server ι ω} (hholding : Holding server.routes) {verb target : Text}
    {route : Route ι ω} (h : RoutedTo server verb (Target.path target) route) {text : Text}
    (htext : Segment.literal text ∈ route.pattern.segments) {c : Char} (hc : c ∈ text) :
    (c ∈ target ∨ c = '/') ∧ c ≠ '?' ∧ c ≠ '#' := by
  obtain ⟨top, captured, htop, hroute, hpath, -⟩ := h
  have hsegments : route.pattern.segments = top.pattern.segments :=
    (Pattern.hostPath_eq_iff (hholding.sound route hroute) (hholding.sound top htop.mem)).1 hpath
  have hpart := htop.takes.mem_of_literal (hsegments ▸ htext)
  exact Target.mem_path (Text.mem_of_mem_split hpart hc)

/-- **Which routes can be reached.** A route of a host is reached by some target exactly if every character of its
literal text can be sent, and none of them starts a query or a fragment. -/
theorem reached_iff {router : Router ι ρ ω} (h : router.OnHost) {server : Server ι ω}
    (bound : router.server = some server) {route : Route ι ω} (hroute : route ∈ server.routes)
    {sendable : Char → Prop} (separators : sendable '/') (words : ∀ c, Text.isWordChar c = true → sendable c) :
    Reached server sendable route ↔
      ∀ text, Segment.literal text ∈ route.pattern.segments → ∀ c ∈ text, sendable c ∧ c ≠ '?' ∧ c ≠ '#' := by
  have hholding := h.holding bound
  constructor
  · rintro ⟨target, captured, hsent, hrouted, -⟩ text htext c hc
    obtain ⟨hmem, hpass⟩ := hrouted.literal hholding htext hc
    rcases hmem with hmem | rfl
    · exact ⟨hsent c hmem, hpass⟩
    · exact ⟨separators, hpass⟩
  · intro hliteral
    obtain ⟨accepted, hstanding, hserver⟩ := h.standing
    obtain ⟨mount, raw, hparse⟩ := hstanding.composed route ((hserver server bound).2 ▸ hroute)
    obtain ⟨⟨next, rest, hroot⟩, hclosed⟩ := Pattern.rooted_closed hparse
    obtain ⟨word, hword, hfresh⟩ := exists_fresh_word server.routes
    have hchars : ∀ c ∈ filledPath word route, sendable c ∧ c ≠ '?' ∧ c ≠ '#' := by
      intro c hc
      rcases mem_filledPath hc with rfl | hc | ⟨text, htext, hc⟩
      · exact ⟨separators, by decide, by decide⟩
      · have hletter : Text.isWordChar c = true := by
          simp only [Segment.isWord, Bool.and_eq_true, List.all_eq_true] at hword
          exact hword.2 c hc
        refine ⟨words c hletter, ?_, ?_⟩
        · rintro rfl
          exact absurd hletter (by decide)
        · rintro rfl
          exact absurd hletter (by decide)
      · exact hliteral text htext c hc
    have htarget : Target.path (filledPath word route) = filledPath word route := by
      apply Target.path_eq_self
      · rw [filledPath, hroot]
        rfl
      · exact fun c hc => (hchars c hc).2
    obtain ⟨captured, htop⟩ := foremost_filledPath h bound hroute hclosed hword hfresh
    have hrouted : RoutedTo server route.method.verb (filledPath word route) route :=
      ⟨route, captured, htop, hroute, rfl, (routedVerb_verb route.method).symm⟩
    obtain ⟨caught, hhandles⟩ := hrouted.exists_handles hholding
    refine ⟨filledPath word route, caught, fun c hc => (hchars c hc).1, ?_⟩
    rw [htarget]
    exact ⟨hrouted, hhandles⟩

/-- The theorem on a router with two routes under `/users`, where the one with a capture is reached. -/
theorem reached_iff_users :
    ∃ router site server route,
      Sample.outcome (Host.server {}) ["get /users/new Page@show", "get /users/:id Page@show"] = (.ok router, site) ∧
      router.server = some server ∧ route ∈ server.routes ∧
      (Reached server Target.UrlChar route ↔ ∀ text, Segment.literal text ∈ route.pattern.segments →
        ∀ c ∈ text, Target.UrlChar c ∧ c ≠ '?' ∧ c ≠ '#') ∧
      Reached server Target.UrlChar route := by
  have hheld : (Router.hostOf (Sample.outcome (Host.server {})
      ["get /users/new Page@show", "get /users/:id Page@show"])).any (fun server => server.routes.any fun route =>
        route.pattern.segments = [.literal [], .literal "users", .capture "id"]) = true := by
    decide +kernel
  obtain ⟨router, site, server, ran, bound, htest⟩ := Router.exists_of_hostOf hheld
  obtain ⟨route, hroute, hsegments⟩ := List.any_eq_true.1 htest
  have separators : Target.UrlChar '/' := Or.inr (by decide)
  have words : ∀ c, Text.isWordChar c = true → Target.UrlChar c := fun c hc => Or.inl hc
  have hreached := reached_iff (Sample.onHost ran) bound hroute separators words
  refine ⟨router, site, server, route, ran, bound, hroute, hreached, hreached.2 ?_⟩
  rw [of_decide_eq_true hsegments]
  intro text htext c hc
  have hletters : text = [] ∨ text = ("users" : Text) := by simpa using htext
  rcases hletters with rfl | rfl
  · exact absurd hc List.not_mem_nil
  · have hall : ("users" : Text).all (fun c => Text.isWordChar c && c != '?' && c != '#') = true := by decide
    obtain ⟨⟨hword, hquery⟩, hfragment⟩ : (Text.isWordChar c = true ∧ c ≠ '?') ∧ c ≠ '#' := by
      simpa using List.all_eq_true.1 hall c hc
    exact ⟨Or.inl hword, hquery, hfragment⟩

/-- The path `/a?b` is registered, and no target goes to it: what `GET /a?b` asks for is `/a`, where nothing is. -/
theorem query_unreached :
    ∃ router site server route,
      Sample.outcome (Host.server {}) ["get /a?b Page@show"] = (.ok router, site) ∧ router.server = some server ∧
      route ∈ server.routes ∧ route.pattern.path = "/a?b" ∧
      (∀ verb target, ¬RoutedTo server verb (Target.path target) route) ∧
      (answer server { request := .receive "GET" "/a?b" [] [], clock := 0, freshId := [] } site).1.status = 404 := by
  have hheld : (Router.hostOf (Sample.outcome (Host.server {}) ["get /a?b Page@show"])).any (fun server =>
      (server.routes.any fun route =>
        route.pattern.path = "/a?b" ∧ route.pattern.segments = [.literal [], .literal "a?b"]) ∧
      (answer server { request := .receive "GET" "/a?b" [] [], clock := 0, freshId := [] }
        (Sample.outcome (Host.server {}) ["get /a?b Page@show"]).2).1.status = 404) = true := by
    decide +kernel
  obtain ⟨router, site, server, ran, bound, htest⟩ := Router.exists_of_hostOf hheld
  obtain ⟨hroutes, hstatus⟩ := of_decide_eq_true htest
  obtain ⟨route, hroute, hshown⟩ := List.any_eq_true.1 hroutes
  obtain ⟨hpath, hsegments⟩ := of_decide_eq_true hshown
  rw [ran] at hstatus
  refine ⟨router, site, server, route, ran, bound, hroute, hpath, fun verb target hrouted => ?_, hstatus⟩
  have hholding := (Sample.onHost ran).holding bound
  have htext : Segment.literal ("a?b" : Text) ∈ route.pattern.segments := by simp [hsegments]
  have hmark : '?' ∈ ("a?b" : Text) := by decide
  exact (hrouted.literal hholding htext hmark).2.1 rfl

end Host

end Switchboard
