import Kasplex.MachineArith

/-!
# Calls that may panic

A call returns if it ends in a value or an error, and it does so part by part.
-/

namespace Panics

open MachineArith

variable {ε ε' α β : Type}

def Returns (x : Except (Fault ε) α) : Prop := ∀ message, x ≠ .error (.panic message)

def Reports (x : Except (Fault ε) α) : Prop := ∃ err, x = .error (.error err)

/-- The call returns, and what is out of range comes back as an error. -/
structure Handles (outOfRange : Prop) (x : Except (Fault ε) α) : Prop where
  returns : Returns x
  reports : outOfRange → Reports x

@[simp] theorem returns_ok (a : α) : Returns (.ok a : Except (Fault ε) α) := by
  intro message h
  cases h

@[simp] theorem returns_error (err : ε) : Returns (.error (.error err) : Except (Fault ε) α) := by
  intro message h
  cases h

theorem Reports.returns {x : Except (Fault ε) α} (h : Reports x) : Returns x := by
  obtain ⟨err, rfl⟩ := h
  exact returns_error err

/-- Where nothing is out of range, returning is all there is. -/
theorem Returns.handles {x : Except (Fault ε) α} {outOfRange : Prop} (h : Returns x)
    (inRange : ¬ outOfRange) : Handles outOfRange x :=
  ⟨h, fun out => absurd out inRange⟩

theorem Returns.bind {x : Except (Fault ε) α} {f : α → Except (Fault ε) β} (first : Returns x)
    (rest : ∀ a, x = .ok a → Returns (f a)) : Returns (x >>= f) := by
  intro message h
  rcases bind_eq_error h with h | ⟨a, ha, h⟩
  · exact first message h
  · exact rest a ha message h

theorem Returns.map {x : Except (Fault ε) α} (f : α → β) (h : Returns x) : Returns (x.map f) := by
  intro message hpanic
  cases x with
  | ok a => cases hpanic
  | error fault =>
    have hfault : fault = .panic message := Except.error.inj hpanic
    exact h message (by rw [hfault])

/-- Wrapping the errors makes no panics. -/
theorem Returns.mapError {x : Except (Fault ε) α} {f : Fault ε → Fault ε'} (h : Returns x)
    (wraps : ∀ err, ∃ err', f (.error err) = .error err') : Returns (x.mapError f) := by
  intro message hpanic
  obtain ⟨fault, hx, hfault⟩ := mapError_eq_error hpanic
  cases fault with
  | error err =>
    obtain ⟨err', herr⟩ := wraps err
    rw [herr] at hfault
    cases hfault
  | panic message' => exact h message' hx

/-- A call that cannot panic at all does not under a wrapper either. -/
theorem returns_mapError_error (x : Except ε α) (f : ε → ε') :
    Returns (x.mapError fun err => Fault.error (f err)) := by
  intro message hpanic
  obtain ⟨err, -, herr⟩ := mapError_eq_error hpanic
  cases herr

section Narrowing

variable {v w : Nat} {x : BitVec w}

theorem narrowOrPanic_of_lt (h : x.toNat < 2 ^ v) :
    (narrowOrPanic v x : Except (Fault ε) (BitVec v)) = .ok (BitVec.ofNat v x.toNat) := by
  rw [narrowOrPanic_eq_ok_iff, BitVec.toNat_ofNat, Nat.mod_eq_of_lt h]

theorem narrowOrPanic_of_le (h : 2 ^ v ≤ x.toNat) :
    (narrowOrPanic v x : Except (Fault ε) (BitVec v)) =
      .error (.panic (conversionMessage v x)) := by
  unfold narrowOrPanic narrow
  rw [if_neg (Nat.not_lt.mpr h)]

theorem returns_narrowOrPanic_iff :
    Returns (narrowOrPanic v x : Except (Fault ε) (BitVec v)) ↔ x.toNat < 2 ^ v := by
  constructor
  · intro h
    by_contra oversized
    exact h (conversionMessage v x) (narrowOrPanic_of_le (Nat.not_lt.mp oversized))
  · intro h
    rw [narrowOrPanic_of_lt h]
    exact returns_ok _

/-- A narrowing at the head of a computation that returns after it. -/
theorem returns_narrowOrPanic_bind_iff {f : BitVec v → Except (Fault ε) β}
    (rest : ∀ y, y.toNat = x.toNat → Returns (f y)) :
    Returns (narrowOrPanic v x >>= f) ↔ x.toNat < 2 ^ v := by
  rw [← returns_narrowOrPanic_iff (ε := ε)]
  constructor
  · intro h message hx
    apply h message
    rw [hx]
    rfl
  · intro h
    exact h.bind fun y hy => rest y (narrowOrPanic_eq_ok_iff.mp hy)

end Narrowing

end Panics
