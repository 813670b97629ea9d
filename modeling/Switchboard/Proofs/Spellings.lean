/-
Ids as they are written into paths and read from them.

- `Spells`: a captured text is read as the id. Digits may be percent-encoded, a plus sign may stand before them, and so
  may zeros.
- `spells_ofNat`: the digits of a 64-bit number spell it.
- `userId_eq_ok_iff`: the id that an action reads where its route captures one text.
-/
import Switchboard.Proofs.Captured

namespace Switchboard

namespace Text

theorem Percent.decode?_of_unmarked {t : Text} (h : '%' ∉ t) : Percent.decode? t = some t := by
  have hbytes : Percent.bytes t = t.flatMap String.utf8EncodeChar := by
    induction t using Percent.bytes.induct with
    | case1 => rfl
    | case2 | case3 => exact absurd List.mem_cons_self h
    | case4 c rest hpercent ih =>
      have hstep : Percent.bytes (c :: rest) = String.utf8EncodeChar c ++ Percent.bytes rest := by
        simp only [Percent.bytes]
      rw [hstep, ih fun hmem => h (List.mem_cons_of_mem c hmem), List.flatMap_cons]
  have hvalid : t.utf8Encode.IsValidUTF8 := ⟨t, rfl⟩
  have hread : String.fromUTF8? t.utf8Encode = some (String.ofList t) := dif_pos hvalid
  rw [Percent.decode?, hbytes]
  exact (congrArg (Option.map String.toList) hread).trans (congrArg some (String.toList_ofList))

theorem isDigit_of_mem_ofNat {n : Nat} {c : Char} (h : c ∈ ofNat n) : c.isDigit = true :=
  Nat.isDigit_of_mem_toDigits (by decide) (by decide) h

theorem ofNat_ne_nil (n : Nat) : ofNat n ≠ [] :=
  Nat.toDigits_ne_nil

@[simp] theorem decimal?_ofNat (n : Nat) : decimal? (ofNat n) = some n := by
  have hdigits : (ofNat n).all Char.isDigit = true := List.all_eq_true.2 fun _ => isDigit_of_mem_ofNat
  have hvalue : natOfDigits 10 (ofNat n) = n := by
    calc natOfDigits 10 (ofNat n)
        = Nat.ofDigitChars 10 (Nat.toDigits 10 n) 0 := by
          refine List.foldl_ext _ _ _ fun sofar c hc => ?_
          rw [digitValue?, if_pos (isDigit_of_mem_ofNat hc), Nat.mul_comm]
          rfl
      _ = n := Nat.ofDigitChars_toDigits (by decide) (by decide)
  rw [decimal?, if_pos ⟨ofNat_ne_nil n, hdigits⟩, hvalue]

theorem unsigned64?_ofNat {n : Nat} (h : n < 2 ^ 64) : unsigned64? (ofNat n) = some n := by
  unfold unsigned64?
  split
  · rename_i rest hplus
    have hmem : '+' ∈ ofNat n := by
      rw [hplus]
      exact List.mem_cons_self
    exact absurd (isDigit_of_mem_ofNat hmem) (by decide)
  · simp only [decimal?_ofNat]
    simpa using h

end Text

namespace App

/-- the captured text is read as the id -/
def Spells (raw : Text) (id : Nat) : Prop :=
  ∃ text, Text.Percent.decode? raw = some text ∧ Text.unsigned64? text = some id

theorem Spells.unique {raw : Text} {id id' : Nat} (h : Spells raw id) (h' : Spells raw id') : id = id' := by
  obtain ⟨text, hdecode, hread⟩ := h
  obtain ⟨text', hdecode', hread'⟩ := h'
  obtain rfl := Option.some.inj (hdecode.symm.trans hdecode')
  exact Option.some.inj (hread.symm.trans hread')

theorem spells_ofNat {id : Nat} (h : id < 2 ^ 64) : Spells (Text.ofNat id) id := by
  refine ⟨Text.ofNat id, Text.Percent.decode?_of_unmarked fun hmem => ?_, Text.unsigned64?_ofNat h⟩
  exact absurd (Text.isDigit_of_mem_ofNat hmem) (by decide)

/-- where one text is captured, it must spell the id -/
theorem userId_eq_ok_iff {request : Request} {name raw : Text} (hcaptures : request.captures = some [(name, raw)])
    {id : Nat} : userId request = .ok id ↔ Spells raw id := by
  simp only [userId, hcaptures, decodeCaptures, Spells]
  cases Text.Percent.decode? raw with
  | none => simp
  | some text =>
    cases hread : Text.unsigned64? text with
    | none => simp [Except.map, hread]
    | some n => simp [Except.map, hread]

end App

end Switchboard
