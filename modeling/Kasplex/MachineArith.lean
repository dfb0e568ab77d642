import Mathlib.Algebra.BigOperators.Group.List.Basic
import Mathlib.Algebra.Order.BigOperators.Group.List
import Mathlib.Tactic.Linarith
import Mathlib.Tactic.Ring

/-!
# Fixed-width unsigned arithmetic

Machine integers are bit vectors and every fact about them is read off
`toNat`. Plain `+`, `-` and `*` wrap, as release builds do; the saturating and
checked operations are defined here. A narrowing conversion that panics on an
oversized value is a `Fault`, kept apart from the errors a function returns.
-/

namespace MachineArith

/-- How a call can fail: by returning its error, or by panicking. -/
inductive Fault (ε : Type) where
  | error (err : ε)
  | panic (message : String)
  deriving DecidableEq, Repr

theorem bind_eq_ok {ε α β : Type} {x : Except ε α} {f : α → Except ε β} {b : β}
    (h : x >>= f = .ok b) : ∃ a, x = .ok a ∧ f a = .ok b := by
  cases x with
  | error e => cases h
  | ok a => exact ⟨a, rfl, h⟩

theorem bind_eq_error {ε α β : Type} {x : Except ε α} {f : α → Except ε β} {err : ε}
    (h : x >>= f = .error err) : x = .error err ∨ ∃ a, x = .ok a ∧ f a = .error err := by
  cases x with
  | error e =>
    cases h
    exact Or.inl rfl
  | ok a => exact Or.inr ⟨a, rfl, h⟩

/-- A chain fails where its first part fails or where its second does. -/
theorem exists_bind_eq_error_iff {ε α β : Type} {x : Except ε α} {f : α → Except ε β} :
    (∃ err, x >>= f = .error err) ↔
      (∃ err, x = .error err) ∨ ∃ a, x = .ok a ∧ ∃ err, f a = .error err := by
  cases x with
  | error e => exact iff_of_true ⟨e, rfl⟩ (Or.inl ⟨e, rfl⟩)
  | ok a => simp [bind, Except.bind]

/-- A guard in front of a computation. -/
theorem check_eq_ok_iff {ε α : Type} {p : Prop} [Decidable p] {err : ε} {x : Except ε α} {a : α} :
    (if ¬ p then .error err else x) = .ok a ↔ p ∧ x = .ok a := by
  by_cases h : p
  · simp [h]
  · simp [h]

theorem exists_of_isOk {ε α : Type} {x : Except ε α} (h : x.isOk = true) : ∃ a, x = .ok a := by
  cases x with
  | error e => cases h
  | ok a => exact ⟨a, rfl⟩

theorem exists_of_any {ε α : Type} {x : Except ε α} {P : α → Bool}
    (h : x.toOption.any P = true) : ∃ a, x = .ok a ∧ P a = true := by
  cases x with
  | error e => cases h
  | ok a => exact ⟨a, rfl, h⟩

theorem eq_ok_of_any {ε α : Type} [DecidableEq α] {x : Except ε α} {a : α}
    (h : (x.toOption.any fun b => decide (b = a)) = true) : x = .ok a := by
  obtain ⟨b, hx, hb⟩ := exists_of_any h
  rw [hx, of_decide_eq_true hb]

theorem map_eq_ok {ε α β : Type} {x : Except ε α} {f : α → β} {b : β}
    (h : x.map f = .ok b) : ∃ a, x = .ok a ∧ f a = b := by
  cases x with
  | error err => cases h
  | ok a => exact ⟨a, rfl, Except.ok.inj h⟩

theorem mapError_eq_ok {ε ε' α : Type} {x : Except ε α} {f : ε → ε'} {a : α}
    (h : x.mapError f = .ok a) : x = .ok a := by
  cases x with
  | error e => cases h
  | ok b => simpa [Except.mapError] using h

theorem mapError_eq_error {ε ε' α : Type} {x : Except ε α} {f : ε → ε'} {err : ε'}
    (h : x.mapError f = .error err) : ∃ e, x = .error e ∧ f e = err := by
  cases x with
  | error e =>
    cases h
    exact ⟨e, rfl, rfl⟩
  | ok a => cases h

theorem exists_mapError_eq_error_iff {ε ε' α : Type} {x : Except ε α} {f : ε → ε'} :
    (∃ err, x.mapError f = .error err) ↔ ∃ err, x = .error err := by
  cases x with
  | error e => exact iff_of_true ⟨f e, rfl⟩ ⟨e, rfl⟩
  | ok a => simp [Except.mapError]

variable {w : Nat}

def saturatingSub (x y : BitVec w) : BitVec w := BitVec.ofNat w (x.toNat - y.toNat)

def saturatingAdd (x y : BitVec w) : BitVec w :=
  BitVec.ofNat w (min (x.toNat + y.toNat) (2 ^ w - 1))

def saturatingMul (x y : BitVec w) : BitVec w :=
  BitVec.ofNat w (min (x.toNat * y.toNat) (2 ^ w - 1))

def checkedAdd (x y : BitVec w) : Option (BitVec w) :=
  if x.toNat + y.toNat < 2 ^ w then some (x + y) else none

def checkedMul (x y : BitVec w) : Option (BitVec w) :=
  if x.toNat * y.toNat < 2 ^ w then some (x * y) else none

/-- Checked narrowing: `none` when the value does not fit the target width. -/
def narrow (v : Nat) (x : BitVec w) : Option (BitVec v) :=
  if x.toNat < 2 ^ v then some (BitVec.ofNat v x.toNat) else none

/-- What a narrowing conversion panics with: the width of the value, what is left
of it in the target, and the greatest value there. -/
def conversionMessage (v : Nat) (x : BitVec w) : String :=
  "Uint conversion error: Overflow(" ++ (toString w ++ ", " ++ toString (x.toNat % 2 ^ v) ++
    ", " ++ toString (2 ^ v - 1) ++ ")")

/-- Narrowing that panics when the value does not fit. -/
def narrowOrPanic {ε : Type} (v : Nat) (x : BitVec w) : Except (Fault ε) (BitVec v) :=
  match narrow v x with
  | some y => .ok y
  | none => .error (.panic (conversionMessage v x))

@[simp] theorem toNat_saturatingSub (x y : BitVec w) :
    (saturatingSub x y).toNat = x.toNat - y.toNat := by
  have hx := x.isLt
  simp only [saturatingSub, BitVec.toNat_ofNat]
  exact Nat.mod_eq_of_lt (by omega)

@[simp] theorem toNat_saturatingAdd (x y : BitVec w) :
    (saturatingAdd x y).toNat = min (x.toNat + y.toNat) (2 ^ w - 1) := by
  have hw := Nat.two_pow_pos w
  simp only [saturatingAdd, BitVec.toNat_ofNat]
  exact Nat.mod_eq_of_lt (by omega)

@[simp] theorem toNat_saturatingMul (x y : BitVec w) :
    (saturatingMul x y).toNat = min (x.toNat * y.toNat) (2 ^ w - 1) := by
  have hw := Nat.two_pow_pos w
  simp only [saturatingMul, BitVec.toNat_ofNat]
  exact Nat.mod_eq_of_lt (by omega)

theorem toNat_saturatingMul_of_lt {x y : BitVec w} (h : x.toNat * y.toNat < 2 ^ w) :
    (saturatingMul x y).toNat = x.toNat * y.toNat := by
  rw [toNat_saturatingMul]
  omega

theorem toNat_add_of_lt {x y : BitVec w} (h : x.toNat + y.toNat < 2 ^ w) :
    (x + y).toNat = x.toNat + y.toNat := by
  rw [BitVec.toNat_add, Nat.mod_eq_of_lt h]

theorem toNat_mul_of_lt {x y : BitVec w} (h : x.toNat * y.toNat < 2 ^ w) :
    (x * y).toNat = x.toNat * y.toNat := by
  rw [BitVec.toNat_mul, Nat.mod_eq_of_lt h]

theorem toNat_sub_of_le {x y : BitVec w} (h : y.toNat ≤ x.toNat) :
    (x - y).toNat = x.toNat - y.toNat :=
  BitVec.toNat_sub_of_le (BitVec.le_def.mpr h)

/-- The smaller of two values, as `if` and as `min`. -/
theorem toNat_ite_le (x y : BitVec w) :
    (if x ≤ y then x else y).toNat = min x.toNat y.toNat := by
  by_cases h : x ≤ y
  · rw [if_pos h, Nat.min_eq_left (BitVec.le_def.mp h)]
  · have := BitVec.le_def.not.mp h
    rw [if_neg h, Nat.min_eq_right (by omega)]

theorem checkedAdd_eq_some {x y z : BitVec w} (h : checkedAdd x y = some z) :
    x.toNat + y.toNat < 2 ^ w ∧ z.toNat = x.toNat + y.toNat := by
  unfold checkedAdd at h
  split at h
  · rename_i hlt
    cases h
    exact ⟨hlt, toNat_add_of_lt hlt⟩
  · cases h

theorem checkedMul_eq_some {x y z : BitVec w} (h : checkedMul x y = some z) :
    x.toNat * y.toNat < 2 ^ w ∧ z.toNat = x.toNat * y.toNat := by
  unfold checkedMul at h
  split at h
  · rename_i hlt
    cases h
    exact ⟨hlt, toNat_mul_of_lt hlt⟩
  · cases h

theorem narrow_eq_some_iff {v : Nat} {x : BitVec w} {y : BitVec v} :
    narrow v x = some y ↔ y.toNat = x.toNat := by
  unfold narrow
  constructor
  · intro h
    split at h
    · rename_i hlt
      cases h
      rw [BitVec.toNat_ofNat, Nat.mod_eq_of_lt hlt]
    · cases h
  · intro h
    have hy := y.isLt
    rw [if_pos (by omega), ← h, BitVec.ofNat_toNat, BitVec.setWidth_eq]

theorem narrowOrPanic_eq_ok_iff {ε : Type} {v : Nat} {x : BitVec w} {y : BitVec v} :
    (narrowOrPanic v x : Except (Fault ε) (BitVec v)) = .ok y ↔ y.toNat = x.toNat := by
  rw [← narrow_eq_some_iff]
  unfold narrowOrPanic
  cases narrow v x <;> simp

example : conversionMessage 64 0x10000000000000000#256 =
    "Uint conversion error: Overflow(256, 0, 18446744073709551615)" := rfl

theorem conversionMessage_head {v : Nat} (x : BitVec w) :
    (conversionMessage v x).toList.head? = some 'U' := by
  have hlead : "Uint conversion error: Overflow(".toList.head? = some 'U' := by decide
  have happend : ∀ rest : String,
      ("Uint conversion error: Overflow(" ++ rest).toList.head? = some 'U' := by
    intro rest
    rw [String.toList_append, List.head?_append, hlead, Option.some_or]
  exact happend _

theorem narrowOrPanic_eq_error {ε : Type} {v : Nat} {x : BitVec w} {fault : Fault ε}
    (h : narrowOrPanic v x = .error fault) : fault = .panic (conversionMessage v x) := by
  unfold narrowOrPanic at h
  split at h
  · cases h
  · cases h
    rfl

/-- Widening keeps the value. -/
@[simp] theorem toNat_setWidth_of_le {v : Nat} (h : w ≤ v) (x : BitVec w) :
    (x.setWidth v).toNat = x.toNat := by
  have hx := x.isLt
  have hp := Nat.pow_le_pow_right (show 0 < 2 by decide) h
  rw [BitVec.toNat_setWidth, Nat.mod_eq_of_lt (by omega)]

end MachineArith
