import Mathlib.Algebra.BigOperators.Group.Finset.Basic
import Mathlib.Algebra.BigOperators.Group.Finset.Piecewise
import Mathlib.Algebra.Order.BigOperators.Group.Finset

/-!
# Balance sheets over a finite set of holders

A sheet gives every holder a natural-number balance. Rewriting one entry moves
the total by the difference of the two values, whatever the other entries are,
so credits to holders that may coincide are added up one at a time.
-/

namespace Ledger

variable {A : Type*} [DecidableEq A]

/-- Add `amount` to the entry of `holder`. -/
def credit (sheet : A → Nat) (holder : A) (amount : Nat) : A → Nat :=
  Function.update sheet holder (sheet holder + amount)

theorem credit_apply (sheet : A → Nat) (holder a : A) (amount : Nat) :
    credit sheet holder amount a = sheet a + if a = holder then amount else 0 := by
  by_cases h : a = holder
  · subst h
    simp [credit]
  · simp [credit, h]

variable [Fintype A]

def total (sheet : A → Nat) : Nat := ∑ a, sheet a

theorem total_update (sheet : A → Nat) (holder : A) (value : Nat) :
    total (Function.update sheet holder value) + sheet holder = total sheet + value := by
  unfold total
  rw [Finset.sum_update_of_mem (Finset.mem_univ holder), add_right_comm,
    ← Finset.sum_erase_add Finset.univ sheet (Finset.mem_univ holder),
    Finset.sdiff_singleton_eq_erase]
  omega

@[simp] theorem total_credit (sheet : A → Nat) (holder : A) (amount : Nat) :
    total (credit sheet holder amount) = total sheet + amount := by
  have h := total_update sheet holder (sheet holder + amount)
  unfold credit
  omega

omit [DecidableEq A] in
theorem le_total (sheet : A → Nat) (holder : A) : sheet holder ≤ total sheet :=
  Finset.single_le_sum (fun _ _ => Nat.zero_le _) (Finset.mem_univ holder)

theorem total_single (holder : A) (amount : Nat) :
    total (fun a => if a = holder then amount else 0) = amount := by
  simp [total]

end Ledger
