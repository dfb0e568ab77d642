import Mathlib.Data.Nat.Digits.Defs
import Mathlib.Data.Nat.Digits.Lemmas
import Mathlib.Tactic.Linarith

/-!
# Byte codes and the recursive length encoding

Two ways of writing a number as bytes (fixed width and minimal), and the
length-delimited encodings of strings and lists built on the minimal one. The
notion that matters is a prefix code: a code word can be read off the front of
any byte string without knowing where it ends. Prefix codes compose, and a
concatenation of code words determines the words.
-/

namespace Rlp

/-- Big-endian bytes of a fixed number. -/
def fixedBytes : Nat → Nat → List UInt8
  | 0, _ => []
  | n + 1, v => UInt8.ofNat (v / 256 ^ n) :: fixedBytes n (v % 256 ^ n)

/-- Big-endian bytes without leading zeros; zero has none. -/
def minimalBytes (v : Nat) : List UInt8 := (Nat.digits 256 v).reverse.map UInt8.ofNat

/-- The tag and length in front of `length` bytes. -/
def lengthHeader (offset length : Nat) : List UInt8 :=
  if length < 56 then [UInt8.ofNat (offset + length)]
  else UInt8.ofNat (offset + 55 + (minimalBytes length).length) :: minimalBytes length

def encodeString (bytes : List UInt8) : List UInt8 :=
  match bytes with
  | [b] => if b.toNat < 128 then [b] else lengthHeader 128 1 ++ [b]
  | bytes => lengthHeader 128 bytes.length ++ bytes

def encodeNat (v : Nat) : List UInt8 := encodeString (minimalBytes v)

def encodeList (payload : List UInt8) : List UInt8 := lengthHeader 192 payload.length ++ payload

/-- Code words of the elements satisfying `P` can be split off any string. -/
def PrefixCode {α : Type*} (P : α → Prop) (enc : α → List UInt8) : Prop :=
  ∀ a b, P a → P b → ∀ x y, enc a ++ x = enc b ++ y → a = b ∧ x = y

theorem ofNat_inj_of_lt {m n : Nat} (hm : m < 256) (hn : n < 256)
    (h : UInt8.ofNat m = UInt8.ofNat n) : m = n := by
  have := congrArg UInt8.toNat h
  simp only [UInt8.toNat_ofNat'] at this
  omega

@[simp] theorem fixedBytes_length (n v : Nat) : (fixedBytes n v).length = n := by
  induction n generalizing v with
  | zero => rfl
  | succ n ih => simp [fixedBytes, ih]

theorem fixedBytes_inj {n x y : Nat} (hx : x < 256 ^ n) (hy : y < 256 ^ n)
    (h : fixedBytes n x = fixedBytes n y) : x = y := by
  induction n generalizing x y with
  | zero =>
    simp only [pow_zero] at hx hy
    omega
  | succ n ih =>
    have hpos : 0 < 256 ^ n := Nat.pow_pos (by decide)
    simp only [fixedBytes, List.cons.injEq] at h
    have hdiv : x / 256 ^ n = y / 256 ^ n := by
      apply ofNat_inj_of_lt _ _ h.1
      · exact Nat.div_lt_of_lt_mul (by rwa [pow_succ] at hx)
      · exact Nat.div_lt_of_lt_mul (by rwa [pow_succ] at hy)
    have hmod := ih (Nat.mod_lt x hpos) (Nat.mod_lt y hpos) h.2
    rw [← Nat.div_add_mod x (256 ^ n), ← Nat.div_add_mod y (256 ^ n), hdiv, hmod]

theorem minimalBytes_inj {x y : Nat} (h : minimalBytes x = minimalBytes y) : x = y := by
  have hmap : (Nat.digits 256 x).map UInt8.ofNat = (Nat.digits 256 y).map UInt8.ofNat := by
    have := congrArg List.reverse h
    simpa [minimalBytes, ← List.map_reverse] using this
  apply Nat.digits_inj_iff.mp
  have back : ∀ v, ((Nat.digits 256 v).map UInt8.ofNat).map UInt8.toNat = Nat.digits 256 v := by
    intro v
    rw [List.map_map]
    conv_rhs => rw [← List.map_id (Nat.digits 256 v)]
    apply List.map_congr_left
    intro d hd
    have := Nat.digits_lt_base (b := 256) (by decide) hd
    simp only [Function.comp_apply, UInt8.toNat_ofNat', id_eq]
    omega
  rw [← back x, ← back y, hmap]

theorem minimalBytes_length_le {k v : Nat} (h : v < 256 ^ k) : (minimalBytes v).length ≤ k := by
  simpa [minimalBytes] using (Nat.digits_length_le_iff (b := 256) (by decide) v).mpr h

theorem minimalBytes_length_pos {v : Nat} (h : 0 < v) : 0 < (minimalBytes v).length := by
  simpa [minimalBytes, List.length_pos_iff] using
    (Nat.digits_ne_nil_iff_ne_zero (b := 256)).mpr (by omega)

theorem lengthHeader_length_pos (offset length : Nat) :
    0 < (lengthHeader offset length).length := by
  unfold lengthHeader
  split <;> simp

/-- The first byte decides which form the header has. -/
theorem lengthHeader_eq_cons (offset length : Nat) :
    ∃ t rest, lengthHeader offset length = UInt8.ofNat (offset + t) :: rest ∧
      (length < 56 ∧ t = length ∧ rest = [] ∨
        56 ≤ length ∧ t = 55 + (minimalBytes length).length ∧ rest = minimalBytes length) := by
  unfold lengthHeader
  split
  · rename_i h
    exact ⟨length, [], rfl, Or.inl ⟨h, rfl, rfl⟩⟩
  · rename_i h
    exact ⟨_, _, by rw [Nat.add_assoc], Or.inr ⟨by omega, rfl, rfl⟩⟩

theorem lengthHeader_prefixCode {offset : Nat} (hoffset : offset ≤ 192) :
    PrefixCode (· < 2 ^ 64) (lengthHeader offset) := by
  intro a b ha hb x y h
  obtain ⟨s, p, hs, ha'⟩ := lengthHeader_eq_cons offset a
  obtain ⟨t, q, ht, hb'⟩ := lengthHeader_eq_cons offset b
  have la := minimalBytes_length_le (k := 8) (v := a) (by omega)
  have lb := minimalBytes_length_le (k := 8) (v := b) (by omega)
  rw [hs, ht, List.cons_append, List.cons_append, List.cons.injEq] at h
  have hst : s = t := by
    have := ofNat_inj_of_lt (by omega) (by omega) h.1
    omega
  rcases ha' with ⟨ha1, hs1, rfl⟩ | ⟨ha1, hs1, rfl⟩ <;>
    rcases hb' with ⟨hb1, ht1, rfl⟩ | ⟨hb1, ht1, rfl⟩
  · exact ⟨by omega, by simpa using h.2⟩
  · have := minimalBytes_length_pos (v := b) (by omega)
    omega
  · have := minimalBytes_length_pos (v := a) (by omega)
    omega
  · obtain ⟨hbytes, hrest⟩ := List.append_inj h.2 (by omega)
    exact ⟨minimalBytes_inj hbytes, hrest⟩

/-- Payloads behind a length header form a prefix code. -/
theorem delimited_prefixCode {offset : Nat} (hoffset : offset ≤ 192) :
    PrefixCode (fun p : List UInt8 => p.length < 2 ^ 64)
      (fun p => lengthHeader offset p.length ++ p) := by
  intro a b ha hb x y h
  rw [List.append_assoc, List.append_assoc] at h
  obtain ⟨hlen, hrest⟩ := lengthHeader_prefixCode hoffset _ _ ha hb _ _ h
  exact List.append_inj hrest hlen

theorem encodeList_prefixCode :
    PrefixCode (fun p : List UInt8 => p.length < 2 ^ 64) encodeList :=
  delimited_prefixCode (by decide)

/-- A string is its own code word below 128, and delimited otherwise. -/
theorem encodeString_cases (s : List UInt8) :
    (∃ b, s = [b] ∧ b.toNat < 128 ∧ encodeString s = [b]) ∨
      encodeString s = lengthHeader 128 s.length ++ s := by
  match s with
  | [] => exact Or.inr rfl
  | [b] =>
    by_cases hb : b.toNat < 128
    · exact Or.inl ⟨b, rfl, hb, by simp [encodeString, hb]⟩
    · exact Or.inr (by simp [encodeString, hb])
  | _ :: _ :: _ => exact Or.inr rfl

theorem delimited_head (s : List UInt8) (hs : s.length < 2 ^ 64) (b : UInt8) (x y : List UInt8)
    (h : b :: x = lengthHeader 128 s.length ++ y) : 128 ≤ b.toNat := by
  obtain ⟨t, p, ht, hc⟩ := lengthHeader_eq_cons 128 s.length
  have hl := minimalBytes_length_le (k := 8) (v := s.length) (by omega)
  rw [ht, List.cons_append, List.cons.injEq] at h
  rw [h.1, UInt8.toNat_ofNat']
  omega

theorem encodeString_prefixCode :
    PrefixCode (fun s : List UInt8 => s.length < 2 ^ 64) encodeString := by
  intro a b ha hb x y h
  rcases encodeString_cases a with ⟨c, rfl, hc, ea⟩ | ea <;>
    rcases encodeString_cases b with ⟨d, rfl, hd, eb⟩ | eb <;> rw [ea, eb] at h
  · simp only [List.cons_append, List.nil_append, List.cons.injEq] at h
    exact ⟨by rw [h.1], h.2⟩
  · rw [List.append_assoc] at h
    have := delimited_head b hb c x (b ++ y) h
    omega
  · rw [List.append_assoc] at h
    have := delimited_head a ha d y (a ++ x) h.symm
    omega
  · exact delimited_prefixCode (by decide) a b ha hb x y h

theorem encodeList_ne_nil (p : List UInt8) : encodeList p ≠ [] := by
  have hpos := lengthHeader_length_pos 192 p.length
  intro h
  rw [encodeList, List.append_eq_nil_iff] at h
  rw [h.1] at hpos
  simp at hpos

section Composition

variable {α β : Type*} {P : α → Prop} {Q : β → Prop} {f : α → List UInt8} {g : β → List UInt8}

theorem PrefixCode.comp (code : PrefixCode Q g) (k : α → β) (maps : ∀ a, P a → Q (k a))
    (inj : ∀ a b, P a → P b → k a = k b → a = b) : PrefixCode P (fun a => g (k a)) := by
  intro a b ha hb x y h
  obtain ⟨hk, hxy⟩ := code _ _ (maps a ha) (maps b hb) x y h
  exact ⟨inj a b ha hb hk, hxy⟩

/-- Two code words in a row split into the two. -/
theorem PrefixCode.append_inj (code : PrefixCode P f) {a b : α} (ha : P a) (hb : P b)
    {x y : List UInt8} (h : f a ++ x = f b ++ y) : a = b ∧ x = y :=
  code a b ha hb x y h

theorem PrefixCode.inj (code : PrefixCode P f) {a b : α} (ha : P a) (hb : P b)
    (h : f a = f b) : a = b :=
  (code a b ha hb [] [] (by simpa using h)).1

/-- A concatenation of nonempty code words determines the words. -/
theorem PrefixCode.flatMap_inj (code : PrefixCode P f) (nonempty : ∀ a, P a → f a ≠ [])
    {as bs : List α} (has : ∀ a ∈ as, P a) (hbs : ∀ b ∈ bs, P b)
    (h : as.flatMap f = bs.flatMap f) : as = bs := by
  induction as generalizing bs with
  | nil =>
    cases bs with
    | nil => rfl
    | cons b bs =>
      simp only [List.flatMap_nil, List.flatMap_cons] at h
      exact absurd (List.append_eq_nil_iff.mp h.symm).1 (nonempty b (hbs b List.mem_cons_self))
  | cons a as ih =>
    cases bs with
    | nil =>
      simp only [List.flatMap_nil, List.flatMap_cons] at h
      exact absurd (List.append_eq_nil_iff.mp h).1 (nonempty a (has a List.mem_cons_self))
    | cons b bs =>
      simp only [List.flatMap_cons] at h
      obtain ⟨rfl, hrest⟩ := code a b (has a List.mem_cons_self) (hbs b List.mem_cons_self) _ _ h
      rw [ih (fun c hc => has c (List.mem_cons_of_mem _ hc))
        (fun c hc => hbs c (List.mem_cons_of_mem _ hc)) hrest]

end Composition

end Rlp
