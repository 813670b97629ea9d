/-
Ids in request paths.

A route hands its captured texts to the action, which decodes them and reads an id. `standsIn_of_userId` says where such
an id comes from: a segment of the request path spells it. A capture takes a segment as it is. A catch-all takes the
rest of the path; where that is more than one segment it holds a separator, decoding keeps the separator
(`sep_mem_of_decode?`), and what holds a separator is no number.
-/
import Switchboard.App.Controllers
import Switchboard.Host.Answer
import Switchboard.Proofs.Matching

namespace Switchboard

namespace Text

/-! ## Decoding keeps separators -/

theorem eq_sep_of_mem_encoding {c : Char} (h : 0x2F ∈ String.utf8EncodeChar c) : c = '/' := by
  have hbyte : ∀ n : Nat, (0x2F : UInt8) = UInt8.ofNat n → n % 256 = 0x2F := by
    intro n hn
    simpa using (congrArg UInt8.toNat hn).symm
  unfold String.utf8EncodeChar at h
  simp only at h
  split_ifs at h
  · have hval := hbyte _ (List.mem_singleton.1 h)
    have hc : c.toNat = 0x2F := by
      show c.val.toNat = 0x2F
      omega
    exact Char.toNat_inj.1 hc
  -- every byte of a longer encoding is at least 0x80
  · simp only [List.mem_cons, List.not_mem_nil, or_false] at h
    rcases h with h | h <;> have hval := hbyte _ h <;> omega
  · simp only [List.mem_cons, List.not_mem_nil, or_false] at h
    rcases h with h | h | h <;> have hval := hbyte _ h <;> omega
  · simp only [List.mem_cons, List.not_mem_nil, or_false] at h
    rcases h with h | h | h | h <;> have hval := hbyte _ h <;> omega

/-- a separator stands for its own byte, also after a percent sign -/
theorem sep_mem_bytes {raw : Text} (h : '/' ∈ raw) : 0x2F ∈ Percent.bytes raw := by
  induction raw using Percent.bytes.induct with
  | case1 => exact absurd h List.not_mem_nil
  | case2 high low rest m n hlow hhigh ih =>
    have hdigit : digitValue? '/' = none := by decide
    have hrest : '/' ∈ rest := by
      simp only [List.mem_cons] at h
      rcases h with h | rfl | rfl | h
      · exact absurd h (by decide)
      · rw [hdigit] at hhigh
        cases hhigh
      · rw [hdigit] at hlow
        cases hlow
      · exact h
    simp only [Percent.bytes, hhigh, hlow]
    exact List.mem_cons_of_mem _ (ih hrest)
  | case3 high low rest hdigits ih =>
    have hrest : '/' ∈ high :: low :: rest := by
      rcases List.mem_cons.1 h with h | h
      · exact absurd h (by decide)
      · exact h
    have hbytes : Percent.bytes ('%' :: high :: low :: rest) =
        String.utf8EncodeChar '%' ++ Percent.bytes (high :: low :: rest) := by
      simp only [Percent.bytes]
    rw [hbytes]
    exact List.mem_append_right _ (ih hrest)
  | case4 c rest hpercent ih =>
    have hbytes : Percent.bytes (c :: rest) = String.utf8EncodeChar c ++ Percent.bytes rest := by
      simp only [Percent.bytes]
    rw [hbytes]
    rcases List.mem_cons.1 h with rfl | h
    · exact List.mem_append_left _ (by decide)
    · exact List.mem_append_right _ (ih h)

theorem Percent.bytes_of_decode? {raw text : Text} (h : Percent.decode? raw = some text) :
    Percent.bytes raw = text.flatMap String.utf8EncodeChar := by
  obtain ⟨s, hs, rfl⟩ := Option.map_eq_some_iff.1 h
  unfold String.fromUTF8? at hs
  split_ifs at hs with hvalid
  cases hs
  have hencode : (String.ofByteArray _ hvalid).toList.utf8Encode = (Percent.bytes raw).toByteArray :=
    String.utf8Encode_toList
  exact (List.toByteArray_inj.1 hencode).symm

/-- Decoding keeps every separator. -/
theorem sep_mem_of_decode? {raw text : Text} (h : Percent.decode? raw = some text) (hsep : '/' ∈ raw) :
    '/' ∈ text := by
  have hmem := sep_mem_bytes hsep
  rw [Percent.bytes_of_decode? h] at hmem
  obtain ⟨c, hc, hbyte⟩ := List.mem_flatMap.1 hmem
  exact eq_sep_of_mem_encoding hbyte ▸ hc

theorem sep_not_mem_of_unsigned64? {text : Text} {n : Nat} (h : unsigned64? text = some n) : '/' ∉ text := by
  have hdigits : ∀ t : Text, (decimal? t).isSome = true → '/' ∉ t := by
    intro t ht hmem
    unfold decimal? at ht
    split_ifs at ht with hall
    · exact absurd (List.all_eq_true.1 hall.2 '/' hmem) (by decide)
    · cases ht
  obtain ⟨hdecimal, -⟩ := Option.filter_eq_some_iff.1 h
  have hsome := Option.isSome_of_eq_some hdecimal
  split at hsome
  · intro hmem
    rcases List.mem_cons.1 hmem with heq | hmem
    · exact absurd heq (by decide)
    · exact hdigits _ hsome hmem
  · exact hdigits _ hsome

theorem eq_singleton_of_join {parts : List Text} (h : '/' ∉ join ['/'] parts) (hne : join ['/'] parts ≠ []) :
    parts = [join ['/'] parts] := by
  cases parts with
  | nil => exact absurd rfl hne
  | cons part parts =>
    cases parts with
    | nil => rfl
    | cons next parts => exact absurd (by simp [join]) h

end Text

/-! ## Ids from captured texts -/

/-- a captured text without separators is a segment of the request -/
theorem Host.Takes.mem_parts {ps : List Segment} {parts : List Text} {caught : List (Text × Text)}
    (h : Host.Takes ps parts caught) {entry : Text × Text} (hentry : entry ∈ caught) (hsep : '/' ∉ entry.2) :
    entry.2 ∈ parts := by
  induction h with
  | done => exact absurd hentry List.not_mem_nil
  | literal text _ ih => exact List.mem_cons_of_mem _ (ih hentry)
  | capture name _ _ ih =>
    rcases List.mem_cons.1 hentry with rfl | hentry
    · exact List.mem_cons_self
    · exact List.mem_cons_of_mem _ (ih hentry)
  | @catchAll name parts hrest =>
    obtain rfl := List.mem_singleton.1 hentry
    rw [Text.eq_singleton_of_join hsep hrest]
    simp [Text.join]

namespace App

/-- a segment of the path, percent-decoded, spells the id -/
def StandsIn (id : Nat) (path : Text) : Prop :=
  ∃ part ∈ path.split '/', ∃ text, Text.Percent.decode? part = some text ∧ Text.unsigned64? text = some id

theorem exists_raw_of_decodeCaptures {captures decoded : List (Text × Text)}
    (h : decodeCaptures captures = .ok decoded) {entry : Text × Text} (hentry : entry ∈ decoded) :
    ∃ raw, (entry.1, raw) ∈ captures ∧ Text.Percent.decode? raw = some entry.2 := by
  induction captures generalizing decoded with
  | nil =>
    cases h
    exact absurd hentry List.not_mem_nil
  | cons capture captures ih =>
    obtain ⟨name, raw⟩ := capture
    simp only [decodeCaptures] at h
    cases hdecode : Text.Percent.decode? raw with
    | none =>
      rw [hdecode] at h
      cases h
    | some value =>
      rw [hdecode] at h
      cases hrest : decodeCaptures captures with
      | error e =>
        rw [hrest] at h
        cases h
      | ok rest =>
        rw [hrest] at h
        cases h
        rcases List.mem_cons.1 hentry with rfl | hentry
        · exact ⟨raw, List.mem_cons_self, hdecode⟩
        · obtain ⟨raw', hraw, htext⟩ := ih hrest hentry
          exact ⟨raw', List.mem_cons_of_mem _ hraw, htext⟩

/-- An id that an action reads from what a path has captured stands in the request path. -/
theorem standsIn_of_userId {ps : List Segment} {path : Text} {captured : List (Text × Text)}
    (htakes : Host.Takes ps (path.split '/') captured) {request : Request}
    (hcaptures : request.captures = some (Host.visible captured)) {id : Nat} (h : userId request = .ok id) :
    StandsIn id path := by
  simp only [userId, hcaptures] at h
  split at h
  · cases h
  · rename_i name value hdecode
    cases hid : Text.unsigned64? value with
    | none =>
      rw [hid] at h
      cases h
    | some n =>
      rw [hid] at h
      cases h
      obtain ⟨raw, hraw, htext⟩ := exists_raw_of_decodeCaptures hdecode (List.mem_singleton.2 rfl)
      have hsep : '/' ∉ raw := fun hmem => Text.sep_not_mem_of_unsigned64? hid (Text.sep_mem_of_decode? htext hmem)
      exact ⟨raw, htakes.mem_parts (List.mem_filter.1 hraw).1 hsep, value, htext, hid⟩
  · cases h

end App

end Switchboard
