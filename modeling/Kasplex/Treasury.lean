import Kasplex.ChainSpec
import Kasplex.DigitText
import Kasplex.FeeHandler

/-!
# The treasury address

The address is spelled out in decimal digits and read as hexadecimal ones. The
spelling always has forty digits, so it is always an address; and the zeros in
the middle hide the zeros at the end of the chain id.
-/

namespace Treasury

open Primitives ChainSpec FeeHandler DigitText

/-- The forty digits of the treasury address. -/
def treasuryDigits (chainId : U64) : List Char :=
  padded 35 chainId.toNat ++ ['1', '0', '0', '0', '1']

/-- The four chains the node knows. -/
def supportedChainIds : List U64 :=
  [kasplexMainnetChainId, kasplexInternalL2ChainId, kasplexTestnetChainId, kasplexDevnetChainId]

theorem chainId_digits_length (chainId : U64) :
    (Nat.toDigits 10 chainId.toNat).length ≤ 20 := by
  rw [Nat.length_toDigits_le_iff (by decide) (by decide)]
  have := chainId.isLt
  omega

theorem treasuryDigits_length (chainId : U64) : (treasuryDigits chainId).length = 40 := by
  have := chainId_digits_length chainId
  rw [treasuryDigits, List.length_append, padded_length (by omega)]
  rfl

theorem isDigit_of_mem_treasuryDigits {chainId : U64} {c : Char}
    (mem : c ∈ treasuryDigits chainId) : c.isDigit := by
  rcases List.mem_append.mp mem with h | h
  · exact isDigit_of_mem_padded h
  · have hsuffix : ['1', '0', '0', '0', '1'].all Char.isDigit = true := by decide
    exact List.all_eq_true.mp hsuffix c h

/-- The digits of the chain id, the zeros and the suffix of the source. -/
theorem getTreasuryAddress_eq (chainId : U64) :
    getTreasuryAddress chainId =
      (addressFromStr ('0' :: 'x' :: treasuryDigits chainId)).getD 0 := by
  have hsub : 40 - ((Nat.toDigits 10 chainId.toNat).length + 5) =
      35 - (Nat.toDigits 10 chainId.toNat).length := by omega
  unfold getTreasuryAddress treasuryDigits padded
  simp only [List.length_cons, List.length_nil, hsub]

theorem hexDigit_of_isDigit {c : Char} (digit : c.isDigit) :
    hexDigit c = some (c.toNat - '0'.toNat) := by
  have hbounds : '0' ≤ c ∧ c ≤ '9' := by
    simpa [Char.isDigit, Char.le_def] using digit
  unfold hexDigit
  rw [if_pos hbounds]

/-- Decimal digits read as hexadecimal ones. -/
theorem foldlM_hexDigit {s : List Char} (digits : ∀ c ∈ s, c.isDigit) (acc : Nat) :
    s.foldlM (fun acc c => (hexDigit c).map (acc * 16 + ·)) acc =
      some (Nat.ofDigitChars 16 s acc) := by
  induction s generalizing acc with
  | nil => rfl
  | cons c s ih =>
    rw [List.foldlM_cons, hexDigit_of_isDigit (digits c List.mem_cons_self), Nat.ofDigitChars_cons,
      Nat.mul_comm 16]
    exact ih (fun d hd => digits d (List.mem_cons_of_mem _ hd)) _

/-- Forty digits are always an address, the one with the number they stand for. -/
theorem addressFromStr_treasuryDigits (chainId : U64) :
    addressFromStr ('0' :: 'x' :: treasuryDigits chainId) =
      some (BitVec.ofNat 160 (Nat.ofDigitChars 16 (treasuryDigits chainId) 0)) := by
  change (if (treasuryDigits chainId).length = 40 then
    ((treasuryDigits chainId).foldlM (fun acc c => (hexDigit c).map (acc * 16 + ·)) 0).map
      (BitVec.ofNat 160) else none) = _
  rw [if_pos (treasuryDigits_length chainId),
    foldlM_hexDigit (fun c => isDigit_of_mem_treasuryDigits)]
  rfl

theorem getTreasuryAddress_toNat (chainId : U64) :
    (getTreasuryAddress chainId).toNat = Nat.ofDigitChars 16 (treasuryDigits chainId) 0 := by
  have hlt : Nat.ofDigitChars 16 (treasuryDigits chainId) 0 <
      16 ^ (treasuryDigits chainId).length := ofDigitChars_lt fun c => isDigit_of_mem_treasuryDigits
  rw [treasuryDigits_length] at hlt
  rw [getTreasuryAddress_eq, addressFromStr_treasuryDigits, Option.getD_some, BitVec.toNat_ofNat]
  exact Nat.mod_eq_of_lt hlt

/-- The address shows the digits. -/
theorem hexDigits_getTreasuryAddress (chainId : U64) :
    hexDigits 40 (getTreasuryAddress chainId).toNat = treasuryDigits chainId := by
  rw [getTreasuryAddress_toNat, ← treasuryDigits_length chainId]
  exact hexDigits_ofDigitChars fun c => isDigit_of_mem_treasuryDigits

theorem getTreasuryAddress_eq_iff (a b : U64) :
    getTreasuryAddress a = getTreasuryAddress b ↔
      ∃ k, a.toNat = b.toNat * 10 ^ k ∨ b.toNat = a.toNat * 10 ^ k := by
  have ha := chainId_digits_length a
  have hb := chainId_digits_length b
  rw [← padded_eq_iff (show (Nat.toDigits 10 a.toNat).length ≤ 35 by omega) (by omega)]
  constructor
  · intro same
    have hdigits : treasuryDigits a = treasuryDigits b := by
      rw [← hexDigits_getTreasuryAddress, same, hexDigits_getTreasuryAddress]
    exact List.append_cancel_right hdigits
  · intro same
    rw [getTreasuryAddress_eq, getTreasuryAddress_eq, treasuryDigits, treasuryDigits, same]

/-- Chain ids less than a factor of ten apart have different treasuries. -/
theorem eq_of_getTreasuryAddress_eq {a b : U64} (hab : a.toNat < 10 * b.toNat)
    (hba : b.toNat < 10 * a.toNat) (same : getTreasuryAddress a = getTreasuryAddress b) :
    a = b := by
  have power : ∀ {x y k : Nat}, x < 10 * y → x = y * 10 ^ k → x = y := by
    intro x y k hlt hx
    cases k with
    | zero => rwa [Nat.pow_zero, Nat.mul_one] at hx
    | succ k =>
      have hle : y * 10 ≤ y * 10 ^ (k + 1) :=
        Nat.mul_le_mul_left y (Nat.le_self_pow (Nat.succ_ne_zero k) 10)
      omega
  obtain ⟨k, h | h⟩ := (getTreasuryAddress_eq_iff a b).mp same
  · exact BitVec.eq_of_toNat_eq (power hab h)
  · exact BitVec.eq_of_toNat_eq (power hba h).symm

/-- The supported ids all have six digits. -/
theorem supportedChainIds_range :
    ∀ a ∈ supportedChainIds, 100000 < a.toNat ∧ a.toNat < 1000000 := by
  simp [supportedChainIds, kasplexMainnetChainId, kasplexInternalL2ChainId,
    kasplexTestnetChainId, kasplexDevnetChainId]

theorem supported_treasuries_nodup : (supportedChainIds.map getTreasuryAddress).Nodup := by
  refine List.Nodup.map_on ?_ (by decide)
  intro a ha b hb
  have hra := supportedChainIds_range a ha
  have hrb := supportedChainIds_range b hb
  exact eq_of_getTreasuryAddress_eq (by omega) (by omega)

/-- The address is the decimal chain id, zeros and `10001` in forty digits, for
every chain id; and two chains share it exactly if one id is the other times a
power of ten, which no two of the supported ones are. -/
theorem treasury_address_digits_and_collisions (a b : U64) :
    addressFromStr ('0' :: 'x' :: treasuryDigits a) = some (getTreasuryAddress a) ∧
      hexDigits 40 (getTreasuryAddress a).toNat =
        Nat.toDigits 10 a.toNat ++
          List.replicate (35 - (Nat.toDigits 10 a.toNat).length) '0' ++
          ['1', '0', '0', '0', '1'] ∧
      (a = 0 ∨ (Nat.toDigits 10 a.toNat).head? ≠ some '0') ∧
      (getTreasuryAddress a = getTreasuryAddress b ↔
        ∃ k, a.toNat = b.toNat * 10 ^ k ∨ b.toNat = a.toNat * 10 ^ k) ∧
      (getTreasuryAddress a = getTreasuryAddress 0 ↔ a = 0) ∧
      (supportedChainIds.map getTreasuryAddress).Nodup := by
  refine ⟨?_, hexDigits_getTreasuryAddress a, ?_, getTreasuryAddress_eq_iff a b, ?_,
    supported_treasuries_nodup⟩
  · rw [getTreasuryAddress_eq, addressFromStr_treasuryDigits]
    rfl
  · by_cases hzero : a = 0
    · exact Or.inl hzero
    · refine Or.inr (head_toDigits_of_pos ?_)
      exact BitVec.lt_def.mp ((BitVec.pos_iff_ne_zero a).mpr hzero)
  · rw [getTreasuryAddress_eq_iff]
    constructor
    · rintro ⟨k, h | h⟩
      · exact BitVec.eq_of_toNat_eq (h.trans (Nat.zero_mul _))
      · apply BitVec.eq_of_toNat_eq
        exact (Nat.mul_eq_zero.mp h.symm).resolve_right (Nat.pow_pos (by decide)).ne'
    · rintro rfl
      exact ⟨0, Or.inl rfl⟩

end Treasury
