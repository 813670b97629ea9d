/-
The location of a created user stays valid.

- `placeOf` is the path in the location of a new user: below the path of the request that created it.
- `Deletes`: a DELETE request for that place, in any spelling of the id, that is answered with status 204. What it
  deletes is not stored any more, and no other request takes a stored user away (`get?_of_deletes`,
  `get?_of_not_deletes`).
- `answers_get?_iff` carries this through a run of requests: ids are not given out twice, so that nothing comes back.
- `location_stays_valid`: the location that an answer with status 201 tells is answered by the same user until the user
  is deleted, and by status 404 from then on.
-/
import Switchboard.Proofs.Serving

namespace Switchboard

/-! ## Stores -/

namespace UserStore

variable {store : UserStore}

@[simp] theorem get?_remove_self (store : UserStore) (id : Nat) : (store.remove id).2.get? id = none := by
  simp [get?, remove]

theorem get?_remove_of_ne {id other : Nat} (h : other ≠ id) : (store.remove other).2.get? id = store.get? id := by
  simp only [get?, remove, List.find?_filter]
  congr 1
  funext user
  by_cases huser : user.id = id
  · simp [huser, Ne.symm h]
  · simp [huser]

theorem get?_added {user : User} {id : Nat} (h : user.id ≠ id) (lastId : Nat) :
    get? { users := store.users ++ [user], lastId } id = store.get? id := by
  simp [get?, List.find?_append, h]

theorem Sound.get?_new (hs : store.Sound) {user : User} (h : store.lastId < user.id) (lastId : Nat) :
    get? { users := store.users ++ [user], lastId } user.id = some user := by
  have hnone : store.users.find? (·.id = user.id) = none := by
    rw [List.find?_eq_none]
    intro other hother
    have hle := hs.issued other hother
    simp
    omega
  simp [get?, List.find?_append, hnone]

end UserStore

namespace App

variable {order : VisitOrder} {settings : Settings} {manifest : Manifest}

/-- only an answer with status 204 takes a stored user away -/
theorem Effect.get?_eq {location : User → Text} {named : Nat → Prop} {store store' : UserStore} {status : Nat}
    (h : Effect location named store status store') (hstatus : status ≠ 204) {id : Nat} (hid : id ≤ store.lastId) :
    store'.get? id = store.get? id := by
  cases h with
  | kept _ _ => rfl
  | added user hnew => exact UserStore.get?_added (by omega) _
  | removed user _ _ => exact absurd rfl hstatus

/-! ## Places -/

/-- where a user is found that a request for the path has created -/
def placeOf (path : Text) (user : User) : Text :=
  Text.dropTrailing '/' path ++ '/' :: Text.ofNat user.id

theorem locationAt_eq (baseUrl path : Text) (user : User) :
    locationAt baseUrl path user = baseUrl ++ placeOf path user := by
  simp [locationAt, placeOf]

theorem getLast?_dropTrailing (c : Char) (t : Text) : (Text.dropTrailing c t).getLast? ≠ some c := by
  rw [Text.dropTrailing, List.getLast?_reverse]
  intro hlast
  have hfirst := List.head?_dropWhile_not (· = c) t.reverse
  rw [hlast] at hfirst
  simp at hfirst

section Places

variable {base : List Text} {collection : Text}

theorem dropTrailing_collection (h : collection.split '/' = usersParts base) :
    Text.dropTrailing '/' collection = collection := by
  have hwhole : collection = Text.join ['/'] ([] :: base) ++ "/users".toList := by
    rw [← Text.join_split '/' collection, h, usersParts, Text.join_append (by simp) (by simp)]
    simp [Text.join]
  rw [hwhole]
  simp [Text.dropTrailing]

theorem split_below (h : collection.split '/' = usersParts base) (raw : Text) :
    Text.split '/' (collection ++ '/' :: raw) = usersParts base ++ raw.split '/' := by
  rw [Text.split_append, h]

theorem eq_below (h : collection.split '/' = usersParts base) {path raw : Text}
    (hpath : path.split '/' = usersParts base ++ [raw]) : path = collection ++ '/' :: raw := by
  rw [← Text.join_split '/' path, hpath, Text.join_append (by simp [usersParts]) (by simp), ← h, Text.join_split]
  simp [Text.join]

theorem split_placeOf (h : collection.split '/' = usersParts base) (user : User) :
    Text.split '/' (placeOf collection user) = usersParts base ++ [Text.ofNat user.id] := by
  have hdigits : '/' ∉ Text.ofNat user.id := fun hmem => absurd (Text.isDigit_of_mem_ofNat hmem) (by decide)
  rw [placeOf, dropTrailing_collection h, split_below h, Text.split_eq_singleton hdigits]

/-- The place is an absolute path without empty parts, so that no slashes meet in a location. -/
theorem slashes_placeOf (h : collection.split '/' = usersParts base) (hbase : ∀ part ∈ base, part ≠ []) (user : User) :
    (placeOf collection user).head? = some '/' ∧ ¬['/', '/'] <:+: placeOf collection user := by
  have hparts : Text.split '/' (placeOf collection user) =
      [] :: (base ++ ["users".toList, Text.ofNat user.id]) := by
    rw [split_placeOf h]
    simp [usersParts]
  constructor
  · obtain ⟨part, parts, hrest⟩ := List.exists_cons_of_ne_nil
      (show base ++ ["users".toList, Text.ofNat user.id] ≠ [] by simp)
    rw [← Text.join_split '/' (placeOf collection user), hparts, hrest]
    rfl
  · rw [Text.doubled_iff, hparts]
    rintro ⟨before, after, hbefore, -, heq⟩
    obtain ⟨first, before, rfl⟩ := List.exists_cons_of_ne_nil hbefore
    have hmem : [] ∈ base ++ ["users".toList, Text.ofNat user.id] := by
      rw [(List.cons.inj heq).2]
      exact List.mem_append_right _ List.mem_cons_self
    rcases List.mem_append.1 hmem with hmem | hmem
    · exact hbase [] hmem rfl
    · simp only [List.mem_cons, List.not_mem_nil, or_false] at hmem
      rcases hmem with hmem | hmem
      · exact absurd hmem (by decide)
      · exact Text.ofNat_ne_nil user.id hmem.symm

end Places

/-! ## Deletions -/

/-- The visit is a DELETE request for the user with that id below the path, in any spelling of the id, and is answered
with status 204. -/
structure Deletes (server : Server Instance UserStore) (collection : Text) (id : Nat) (site : AppSite) (visit : Visit) :
    Prop where
  verb : visit.request.verb = "DELETE".toList
  names : ∃ raw, visit.request.path = collection ++ '/' :: raw ∧ Spells raw id
  status : (Host.answer server visit site).1.status = 204

def DeletedAlong (server : Server Instance UserStore) (collection : Text) (id : Nat) (site : AppSite)
    (visits : List Visit) : Prop :=
  ∃ before visit after, visits = before ++ visit :: after ∧
    Deletes server collection id (Host.answers server site before).2 visit

namespace Usual

variable {baseUrl collection : Text} {base : List Text} {server : Server Instance UserStore} {site : AppSite} {id : Nat}

theorem along (h : Usual order baseUrl base server site.instances) (hs : site.world.Sound) (visits : List Visit) :
    Usual order baseUrl base server (Host.answers server site visits).2.instances := by
  rw [(answers_sound h.serves hs visits).1]
  exact h

theorem get?_of_deletes (h : Usual order baseUrl base server site.instances)
    (hcollection : collection.split '/' = usersParts base) {visit : Visit}
    (hdeletes : Deletes server collection id site visit) :
    (Host.answer server visit site).2.world.get? id = none := by
  obtain ⟨-, raw, other, hparts, hother, hworld⟩ := h.removes hdeletes.status
  obtain ⟨named, hpath, hspells⟩ := hdeletes.names
  obtain rfl : raw = named := by
    have hsame := eq_below hcollection hparts
    rw [hpath] at hsame
    exact (List.cons.inj (List.append_cancel_left hsame)).2.symm
  rw [hworld, hother.unique hspells]
  exact UserStore.get?_remove_self _ id

/-- a request that does not delete the user leaves it alone, or its absence -/
theorem get?_of_not_deletes (h : Usual order baseUrl base server site.instances)
    (hcollection : collection.split '/' = usersParts base) (hid : id ≤ site.world.lastId) {visit : Visit}
    (hnot : ¬Deletes server collection id site visit) :
    (Host.answer server visit site).2.world.get? id = site.world.get? id := by
  by_cases hstatus : (Host.answer server visit site).1.status = 204
  · obtain ⟨hverb, raw, other, hparts, hother, hworld⟩ := h.removes hstatus
    have hne : other ≠ id := by
      rintro rfl
      exact hnot ⟨hverb, ⟨raw, eq_below hcollection hparts, hother⟩, hstatus⟩
    rw [hworld, UserStore.get?_remove_of_ne hne]
  · exact (answer_effect h.serves visit).effect.get?_eq hstatus hid

theorem next (h : Usual order baseUrl base server site.instances) (hs : site.world.Sound) (visit : Visit) :
    Usual order baseUrl base server (Host.answer server visit site).2.instances ∧
      (Host.answer server visit site).2.world.Sound ∧
      site.world.lastId ≤ (Host.answer server visit site).2.world.lastId := by
  have hanswers := answer_effect h.serves visit
  exact ⟨hanswers.instances ▸ h, hanswers.effect.sound hs⟩

/-- Nothing comes back: an id that was given out and is not stored is not stored after any run. -/
theorem answers_get?_of_none (h : Usual order baseUrl base server site.instances)
    (hcollection : collection.split '/' = usersParts base) (hs : site.world.Sound) (hid : id ≤ site.world.lastId)
    (hnone : site.world.get? id = none) (visits : List Visit) :
    (Host.answers server site visits).2.world.get? id = none := by
  induction visits generalizing site with
  | nil => exact hnone
  | cons visit visits ih =>
    obtain ⟨hnext, hsound, hle⟩ := h.next hs visit
    refine ih hnext hsound (hid.trans hle) ?_
    by_cases hdeletes : Deletes server collection id site visit
    · exact h.get?_of_deletes hcollection hdeletes
    · exact (h.get?_of_not_deletes hcollection hid hdeletes).trans hnone

/-- A run that does not delete the user leaves it as it is. -/
theorem answers_get?_of_kept (h : Usual order baseUrl base server site.instances)
    (hcollection : collection.split '/' = usersParts base) (hs : site.world.Sound) (hid : id ≤ site.world.lastId)
    {visits : List Visit} (hnot : ¬DeletedAlong server collection id site visits) :
    (Host.answers server site visits).2.world.get? id = site.world.get? id := by
  induction visits generalizing site with
  | nil => rfl
  | cons visit visits ih =>
    obtain ⟨hnext, hsound, hle⟩ := h.next hs visit
    have hfirst : ¬Deletes server collection id site visit := fun hdeletes => hnot ⟨[], visit, visits, rfl, hdeletes⟩
    have hrest : ¬DeletedAlong server collection id (Host.answer server visit site).2 visits := by
      rintro ⟨before, other, after, rfl, hdeletes⟩
      exact hnot ⟨visit :: before, other, after, rfl, hdeletes⟩
    exact (ih hnext hsound (hid.trans hle) hrest).trans (h.get?_of_not_deletes hcollection hid hfirst)

/-- A run that deletes the user leaves it deleted. -/
theorem answers_get?_of_deleted (h : Usual order baseUrl base server site.instances)
    (hcollection : collection.split '/' = usersParts base) (hs : site.world.Sound) (hid : id ≤ site.world.lastId)
    {visits : List Visit} (hdeleted : DeletedAlong server collection id site visits) :
    (Host.answers server site visits).2.world.get? id = none := by
  obtain ⟨before, visit, after, rfl, hdeletes⟩ := hdeleted
  obtain ⟨-, hsound, hle⟩ := answers_sound h.serves hs before
  have hmid := h.along hs before
  obtain ⟨hnext, hsound', hle'⟩ := hmid.next hsound visit
  rw [answers_append]
  exact hnext.answers_get?_of_none hcollection hsound' ((hid.trans hle).trans hle')
    (hmid.get?_of_deletes hcollection hdeletes) after

/-- At the place of a user, a GET request is answered by the user who is stored under the id. -/
theorem shows_placeOf (h : Usual order baseUrl base server site.instances)
    (hcollection : collection.split '/' = usersParts base) {user : User} (hid : user.id < 2 ^ 64) {look : Visit}
    (hverb : look.request.verb = "GET".toList) (hpath : look.request.path = placeOf collection user) :
    (∀ found, site.world.get? user.id = some found → (Host.answer server look site).1.status = 200 ∧
        (Host.answer server look site).1.body = found.json) ∧
      (site.world.get? user.id = none → (Host.answer server look site).1.status = 404) := by
  have hparts : look.request.path.split '/' = usersParts base ++ [Text.ofNat user.id] := by
    rw [hpath]
    exact split_placeOf hcollection user
  have hshows := h.shows hverb hparts (Text.ofNat_ne_nil user.id) (spells_ofNat hid)
  have hbody : look.request.verb ≠ "HEAD".toList := by
    rw [hverb]
    decide
  constructor
  · intro found hfound
    rw [hshows, hfound, look.status_dressed, Visit.body_dressed hbody]
    exact ⟨rfl, rfl⟩
  · intro hnone
    rw [hshows, hnone, look.status_dressed]
    rfl

end Usual

/-! ## Locations -/

/-- **Locations stay valid.** With the usual routes below a mount path that captures nothing, whatever requests came
before: an answer with status 201 tells the base URL without its trailing slashes, and then the place of the new user.
A GET request for the place, whatever requests have come since, is answered by the same user if none of them has deleted
the user, and by status 404 otherwise. Ids are numbers of 64 bits. -/
theorem location_stays_valid {router : AppRouter} {site before after : AppSite} {server : Server Instance UserStore}
    (usual : settings.routes = usualRoutes)
    (uncaptured : ∀ part ∈ settings.routing.apiMount.split '/', Segment.captured? part = none)
    (built : build order settings manifest .empty = (.ok router, site)) (bound : router.server = some server)
    {visits : List Visit} {creation : Visit} {responses : List Response} {created : Response}
    (came : Host.answers server site visits = (responses, before))
    (answered : Host.answer server creation before = (created, after)) (success : created.status = 201) :
    ∃ user, after.world.users = before.world.users ++ [user] ∧ created.body = user.json ∧
      created.header? "location" =
        some (Text.dropTrailing '/' settings.server.baseUrl ++ placeOf creation.request.path user) ∧
      (Text.dropTrailing '/' settings.server.baseUrl).getLast? ≠ some '/' ∧
      (placeOf creation.request.path user).head? = some '/' ∧
      ¬['/', '/'] <:+: placeOf creation.request.path user ∧
      (user.id < 2 ^ 64 → ∀ (later : List Visit) (look : Visit), look.request.verb = "GET".toList →
        look.request.path = placeOf creation.request.path user →
        (¬DeletedAlong server (Text.dropTrailing '/' creation.request.path) user.id after later →
          (Host.answer server look (Host.answers server after later).2).1.status = 200 ∧
            (Host.answer server look (Host.answers server after later).2).1.body = created.body) ∧
        (DeletedAlong server (Text.dropTrailing '/' creation.request.path) user.id after later →
          (Host.answer server look (Host.answers server after later).2).1.status = 404)) := by
  have hstart := usual_of_build usual uncaptured built bound
  have hempty : site.world.Sound := Router.run_world built ▸ UserStore.sound_empty
  obtain ⟨-, hsound, -⟩ := answers_sound hstart.serves hempty visits
  have hbefore := hstart.along hempty visits
  rw [came] at hsound hbefore
  have hstatus : (Host.answer server creation before).1.status = 201 := by
    rw [answered]
    exact success
  obtain ⟨-, hcollection, user, hid, hworld, hbody, hlocation⟩ := hbefore.adds hstatus
  obtain ⟨hafter, hsound', -⟩ := hbefore.next hsound creation
  rw [answered] at hworld hbody hlocation hafter hsound'
  have hstored : after.world.get? user.id = some user := by
    rw [hworld]
    exact hsound.get?_new (by omega) _
  have hissued : user.id ≤ after.world.lastId := by
    rw [hworld, hid]
  obtain ⟨hhead, hsingle⟩ := slashes_placeOf hcollection (fun part hpart => Path.ne_nil_of_mem_parts hpart) user
  refine ⟨user, by rw [hworld], hbody, ?_, getLast?_dropTrailing '/' _, hhead, hsingle, ?_⟩
  · rw [hlocation, locationAt_eq]
    rfl
  · intro hsize later look hverb hpath
    rw [dropTrailing_collection hcollection]
    obtain ⟨hfound, hgone⟩ := (hafter.along hsound' later).shows_placeOf hcollection hsize hverb hpath
    refine ⟨fun hkept => ?_, fun hdeleted => ?_⟩
    · rw [hbody]
      exact hfound user ((hafter.answers_get?_of_kept hcollection hsound' hissued hkept).trans hstored)
    · exact hgone (hafter.answers_get?_of_deleted hcollection hsound' hissued hdeleted)

/-- the usual routes, with a base URL that ends in slashes -/
def usualSettings : Settings :=
  { server := { baseUrl := "http://x//" }, routes := usualRoutes }

def usualManifest : Manifest :=
  { middlewares := [("timestamp", "timestamp.rs"), ("requireJson", "require_json.rs")] }

def firstLook : Visit :=
  { request := .receive "GET" "/api/users/1" [] [], clock := 0, freshId := [] }

/-- a request that deletes the first user, with the id spelled in another way -/
def firstDeletion : Visit :=
  { request := .receive "DELETE" "/api/users/%2B01" [] [], clock := 0, freshId := [] }

/-- The theorem on the first user of an application, before and after the deletion. -/
theorem location_stays_valid_creation :
    ∃ router site server created after,
      build id usualSettings usualManifest .empty = (.ok router, site) ∧ router.server = some server ∧
      Host.answer server creation site = (created, after) ∧ created.status = 201 ∧
      created.header? "location" = some "http://x/api/users/1" ∧
      (Host.answer server firstLook after).1.body = created.body ∧
      (Host.answer server firstLook (Host.answers server after [firstDeletion]).2).1.status = 404 := by
  have hheld : (Router.hostOf (build id usualSettings usualManifest .empty)).any (fun server =>
      let answered := Host.answer server creation (build id usualSettings usualManifest .empty).2
      answered.1.status = 201 ∧ answered.1.header? "location" = some ("http://x/api/users/1" : Text) ∧
        answered.2.world.users.map (·.id) = [1] ∧
        (Host.answer server firstDeletion answered.2).1.status = 204) = true := by
    decide +kernel
  obtain ⟨router, site, server, built, bound, htest⟩ := Router.exists_of_hostOf hheld
  rw [built] at htest
  obtain ⟨hstatus, hlocation, hids, hdeletion⟩ := of_decide_eq_true htest
  obtain ⟨created, after, hanswer⟩ : ∃ created after, Host.answer server creation site = (created, after) :=
    ⟨_, _, rfl⟩
  rw [hanswer] at hstatus hlocation hids hdeletion
  have uncaptured : ∀ part ∈ usualSettings.routing.apiMount.split '/', Segment.captured? part = none := by
    decide
  have came : Host.answers server site [] = ([], site) := rfl
  obtain ⟨user, husers, -, -, -, -, -, hvalid⟩ :=
    location_stays_valid rfl uncaptured built bound came hanswer hstatus
  have hid : user.id = 1 := by
    have hempty : site.world = .empty := Router.run_world built
    rw [husers, hempty] at hids
    simpa [UserStore.empty] using hids
  have hplace : firstLook.request.path = placeOf creation.request.path user := by
    rw [placeOf, hid]
    decide
  have hlooks := hvalid (by rw [hid]; decide)
  have hnone : ¬DeletedAlong server (Text.dropTrailing '/' creation.request.path) user.id after [] := by
    rintro ⟨before, visit, rest, hvisits, -⟩
    simp at hvisits
  have hdeleted : DeletedAlong server (Text.dropTrailing '/' creation.request.path) user.id after
      [firstDeletion] := by
    refine ⟨[], firstDeletion, [], rfl, rfl, ⟨"%2B01", by decide, ?_⟩, hdeletion⟩
    rw [hid]
    exact ⟨"+01", by decide +kernel, by decide⟩
  exact ⟨router, site, server, created, after, built, bound, hanswer, hstatus, hlocation,
    ((hlooks [] firstLook rfl hplace).1 hnone).2, (hlooks [firstDeletion] firstLook rfl hplace).2 hdeleted⟩

end App

end Switchboard
