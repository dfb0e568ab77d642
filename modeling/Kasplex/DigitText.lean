import Mathlib.Algebra.Ring.Nat
import Mathlib.Data.List.Induction

/-!
# Numbers as digit strings

Decimal strings read as hexadecimal ones, and decimal strings with zeros behind
them. A string of a fixed length is determined by the number it stands for in
either base, and zeros at the end multiply by a power of ten.
-/

namespace DigitText

/-- The last `k` hexadecimal digits of a number. -/
def hexDigits : Nat → Nat → List Char
  | 0, _ => []
  | k + 1, v => hexDigits k (v / 16) ++ [Nat.digitChar (v % 16)]

theorem digitChar_of_isDigit {c : Char} (digit : c.isDigit) :
    c.toNat - '0'.toNat < 10 ∧ Nat.digitChar (c.toNat - '0'.toNat) = c := by
  have hbounds : 48 ≤ c.toNat ∧ c.toNat ≤ 57 := by
    simpa [Char.isDigit, UInt32.le_iff_toNat_le] using digit
  have hlt : c.toNat - '0'.toNat < 10 := by
    change c.toNat - 48 < 10
    omega
  refine ⟨hlt, ?_⟩
  apply Char.toNat_inj.mp
  rw [Nat.toNat_digitChar_of_lt_ten hlt]
  change 48 + (c.toNat - 48) = c.toNat
  omega

theorem ofDigitChars_concat (b : Nat) (s : List Char) (c : Char) :
    Nat.ofDigitChars b (s ++ [c]) 0 = b * Nat.ofDigitChars b s 0 + (c.toNat - '0'.toNat) := by
  rw [Nat.ofDigitChars_append, Nat.ofDigitChars_cons, Nat.ofDigitChars_nil]

/-- A decimal string, read as a hexadecimal number, is written the same way. -/
theorem hexDigits_ofDigitChars {s : List Char} (digits : ∀ c ∈ s, c.isDigit) :
    hexDigits s.length (Nat.ofDigitChars 16 s 0) = s := by
  induction s using List.reverseRecOn with
  | nil => rfl
  | append_singleton s c ih =>
    obtain ⟨hlt, hchar⟩ := digitChar_of_isDigit (digits c (by simp))
    have hdiv : (16 * Nat.ofDigitChars 16 s 0 + (c.toNat - '0'.toNat)) / 16 =
        Nat.ofDigitChars 16 s 0 := by omega
    have hmod : (16 * Nat.ofDigitChars 16 s 0 + (c.toNat - '0'.toNat)) % 16 =
        c.toNat - '0'.toNat := by omega
    rw [List.length_append, List.length_singleton, hexDigits, ofDigitChars_concat, hdiv, hmod,
      hchar, ih fun c hc => digits c (List.mem_append_left _ hc)]

theorem ofDigitChars_lt {s : List Char} (digits : ∀ c ∈ s, c.isDigit) :
    Nat.ofDigitChars 16 s 0 < 16 ^ s.length := by
  induction s using List.reverseRecOn with
  | nil => exact Nat.one_pos
  | append_singleton s c ih =>
    have hs := ih fun c hc => digits c (List.mem_append_left _ hc)
    obtain ⟨hlt, -⟩ := digitChar_of_isDigit (digits c (by simp))
    rw [ofDigitChars_concat, List.length_append, List.length_singleton, Nat.pow_succ]
    omega

/-- Decimal digits start with a zero for zero alone. -/
theorem head_toDigits_of_pos {n : Nat} (pos : 0 < n) : (Nat.toDigits 10 n).head? ≠ some '0' := by
  induction n using Nat.strongRecOn with
  | ind n ih =>
    by_cases hsmall : n < 10
    · rw [Nat.toDigits_of_lt_base hsmall, List.head?_cons]
      intro hzero
      have := Nat.digitChar_eq_zero.mp (Option.some.inj hzero)
      omega
    · obtain ⟨c, rest, hcons⟩ := List.exists_cons_of_ne_nil
        (Nat.toDigits_ne_nil (n := n / 10) (b := 10))
      have hhead : (Nat.toDigits 10 n).head? = (Nat.toDigits 10 (n / 10)).head? := by
        rw [Nat.toDigits_of_base_le (by decide) (by omega), hcons]
        rfl
      rw [hhead]
      exact ih (n / 10) (by omega) (by omega)

theorem toDigits_mul_pow {n : Nat} (pos : 0 < n) (k : Nat) :
    Nat.toDigits 10 (n * 10 ^ k) = Nat.toDigits 10 n ++ List.replicate k '0' := by
  induction k with
  | zero => simp
  | succ k ih =>
    have hpos : 0 < n * 10 ^ k := Nat.mul_pos pos (Nat.pow_pos (by decide))
    have happend := Nat.toDigits_append_toDigits (b := 10) (d := 0) (by decide) hpos (by decide)
    rw [Nat.pow_succ, ← Nat.mul_assoc, Nat.mul_comm (n * 10 ^ k) 10, ← Nat.add_zero (10 * _),
      ← happend, ih, Nat.toDigits_zero, List.append_assoc, List.replicate_succ']

/-- The decimal digits of a number, with zeros behind them up to a width. -/
def padded (width n : Nat) : List Char :=
  Nat.toDigits 10 n ++ List.replicate (width - (Nat.toDigits 10 n).length) '0'

theorem ofDigitChars_padded (width n : Nat) :
    Nat.ofDigitChars 10 (padded width n) 0 =
      10 ^ (width - (Nat.toDigits 10 n).length) * n := by
  rw [padded, Nat.ofDigitChars_append, Nat.ofDigitChars_ten_toDigits,
    Nat.ofDigitChars_replicate_zero]

theorem padded_length {width n : Nat} (fits : (Nat.toDigits 10 n).length ≤ width) :
    (padded width n).length = width := by
  rw [padded, List.length_append, List.length_replicate]
  omega

theorem isDigit_of_mem_padded {width n : Nat} {c : Char} (mem : c ∈ padded width n) :
    c.isDigit := by
  rcases List.mem_append.mp mem with h | h
  · exact Nat.isDigit_of_mem_toDigits (by decide) (by decide) h
  · rw [List.eq_of_mem_replicate h]
    rfl

theorem padded_mul_pow {width n k : Nat}
    (fits : (Nat.toDigits 10 (n * 10 ^ k)).length ≤ width) :
    padded width (n * 10 ^ k) = padded width n := by
  by_cases hzero : n = 0
  · rw [hzero, Nat.zero_mul]
  · have hdigits := toDigits_mul_pow (Nat.pos_of_ne_zero hzero) k
    rw [hdigits, List.length_append, List.length_replicate] at fits
    have hzeros : k + (width - ((Nat.toDigits 10 n).length + k)) =
        width - (Nat.toDigits 10 n).length := by omega
    rw [padded, hdigits, List.length_append, List.length_replicate, List.append_assoc,
      List.replicate_append_replicate, hzeros]
    rfl

/-- Zeros behind them make two numbers look the same exactly if one is the
other times a power of ten. -/
theorem padded_eq_iff {width a b : Nat} (ha : (Nat.toDigits 10 a).length ≤ width)
    (hb : (Nat.toDigits 10 b).length ≤ width) :
    padded width a = padded width b ↔ ∃ k, a = b * 10 ^ k ∨ b = a * 10 ^ k := by
  constructor
  · intro h
    have hvalue := congrArg (fun s => Nat.ofDigitChars 10 s 0) h
    simp only [ofDigitChars_padded] at hvalue
    have cancel : ∀ {i j x y : Nat}, j ≤ i → 10 ^ i * x = 10 ^ j * y → y = x * 10 ^ (i - j) := by
      intro i j x y hle hsame
      rw [← Nat.add_sub_cancel' hle, Nat.pow_add, Nat.mul_assoc] at hsame
      rw [Nat.mul_comm x]
      exact (Nat.eq_of_mul_eq_mul_left (Nat.pow_pos (by decide)) hsame).symm
    rcases Nat.le_total (width - (Nat.toDigits 10 b).length) (width - (Nat.toDigits 10 a).length)
      with hle | hle
    · exact ⟨_, Or.inr (cancel hle hvalue)⟩
    · exact ⟨_, Or.inl (cancel hle hvalue.symm)⟩
  · rintro ⟨k, rfl | rfl⟩
    · exact padded_mul_pow ha
    · exact (padded_mul_pow hb).symm

end DigitText
