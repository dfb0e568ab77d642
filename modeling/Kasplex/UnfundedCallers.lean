import Kasplex.FeeHandler

/-!
# Callers that cannot pay

The charge compares the caller's balance with nothing: a deduction beyond it
stops at zero, and the phases after it pay out the whole price. A transaction is
refused only for its accounts, its nonce, or a price that does not fit the
checked arithmetic.
-/

namespace UnfundedCallers

open Primitives MachineArith EvmState FeeHandler

/-- The database fails on the account and the journal does not have it. -/
def Unloadable (j : Journal) (a : Address) : Prop :=
  j.state a = none ∧ (j.database.fault a).isSome

/-- The grounds on which a charge is refused, none of which is the balance. -/
def RefusedAnyway (revm : Revm) (env : EvmEnv) (tx : TxEnv) (j : Journal) : Prop :=
  Unloadable j env.blockEnv.beneficiary ∨ Unloadable j tx.caller ∨
    (∃ err, revm.validateAccountNonceAndCode (j.account tx.caller) tx env.cfgEnv = .error err) ∨
    2 ^ 128 ≤ gasCost env tx ∨ 2 ^ 256 ≤ gasCost env tx + tx.value.toNat

/-- The balance covers the whole gas limit at the fee cap, and the value. -/
def Funded (tx : TxEnv) (j : Journal) : Prop :=
  tx.gasLimit.toNat * tx.gasPrice.toNat + tx.value.toNat ≤ (j.account tx.caller).balance.toNat

theorem loadAccount_error_iff {j : Journal} {a : Address} :
    (∃ err, j.loadAccount a = .error err) ↔ Unloadable j a := by
  unfold Journal.loadAccount Unloadable
  cases hstate : j.state a with
  | some account => simp
  | none =>
    cases hfault : j.database.fault a with
    | some err => simp
    | none => simp

/-- After another account is loaded, the same accounts cannot be. -/
theorem unloadable_of_loadAccount {j j' : Journal} {a b : Address}
    (h : j.loadAccount a = .ok j') : Unloadable j' b ↔ Unloadable j b := by
  unfold Journal.loadAccount at h
  cases hstate : j.state a with
  | some account =>
    simp only [hstate, Except.ok.injEq] at h
    rw [h]
  | none =>
    cases hfault : j.database.fault a with
    | some err => simp [hstate, hfault] at h
    | none =>
      simp only [hstate, hfault, Except.ok.injEq] at h
      subst h
      by_cases hb : b = a
      · subst hb
        simp [Unloadable, Journal.setAccount, hfault]
      · simp [Unloadable, Journal.setAccount, hb]

theorem effectiveBalanceSpending_error_iff (env : EvmEnv) (tx : TxEnv) :
    (∃ err, tx.effectiveBalanceSpending (env.blockEnv.basefee.setWidth 128) = .error err) ↔
      2 ^ 128 ≤ gasCost env tx ∨ 2 ^ 256 ≤ gasCost env tx + tx.value.toNat := by
  have hlimit : (tx.gasLimit.setWidth 128).toNat = tx.gasLimit.toNat :=
    toNat_setWidth_of_le (by decide) _
  unfold TxEnv.effectiveBalanceSpending checkedMul checkedAdd
  rw [hlimit]
  change _ ↔ 2 ^ 128 ≤ tx.gasLimit.toNat *
    (tx.effectiveGasPrice (env.blockEnv.basefee.setWidth 128)).toNat ∨ _
  by_cases hproduct : tx.gasLimit.toNat *
      (tx.effectiveGasPrice (env.blockEnv.basefee.setWidth 128)).toNat < 2 ^ 128
  · have hcost : ((tx.gasLimit.setWidth 128 *
        tx.effectiveGasPrice (env.blockEnv.basefee.setWidth 128)).setWidth 256).toNat =
          gasCost env tx := by
      rw [toNat_setWidth_of_le (by decide), toNat_mul_of_lt (by rwa [hlimit]), hlimit]
      rfl
    rw [if_pos hproduct]
    simp only [hcost]
    by_cases hsum : gasCost env tx + tx.value.toNat < 2 ^ 256
    · simp only [if_pos hsum]
      refine iff_of_false (by simp) ?_
      omega
    · simp only [if_neg hsum]
      exact iff_of_true ⟨_, rfl⟩ (Or.inr (by omega))
  · rw [if_neg hproduct]
    exact iff_of_true ⟨_, rfl⟩ (Or.inl (by omega))

/-- A charge is refused on these grounds and no other. -/
theorem deductCaller_error_iff (revm : Revm) (env : EvmEnv) (tx : TxEnv) (j : Journal) :
    (∃ err, validateAgainstStateAndDeductCaller revm env tx j = .error err) ↔
      RefusedAnyway revm env tx j := by
  unfold validateAgainstStateAndDeductCaller RefusedAnyway
  simp only [exists_bind_eq_error_iff, exists_mapError_eq_error_iff, loadAccount_error_iff,
    ← effectiveBalanceSpending_error_iff]
  constructor
  · rintro (h | ⟨j₁, h₁, h | ⟨j₂, h₂, h | ⟨_, _, h | ⟨_, _, err, h⟩⟩⟩⟩)
    · exact Or.inl h
    · exact Or.inr (Or.inl ((unloadable_of_loadAccount h₁).mp h))
    · rw [Journal.loadAccount_account h₂, Journal.loadAccount_account h₁] at h
      exact Or.inr (Or.inr (Or.inl h))
    · exact Or.inr (Or.inr (Or.inr h))
    · cases h
  · intro refused
    cases h₁ : j.loadAccount env.blockEnv.beneficiary with
    | error err => exact Or.inl (loadAccount_error_iff.mp ⟨err, h₁⟩)
    | ok j₁ =>
      refine Or.inr ⟨j₁, rfl, ?_⟩
      cases h₂ : j₁.loadAccount tx.caller with
      | error err => exact Or.inl (loadAccount_error_iff.mp ⟨err, h₂⟩)
      | ok j₂ =>
        refine Or.inr ⟨j₂, rfl, ?_⟩
        have hsame : j₂.account = j.account :=
          (Journal.loadAccount_account h₂).trans (Journal.loadAccount_account h₁)
        rw [hsame]
        rcases refused with h | h | h | h
        · obtain ⟨err, h⟩ := loadAccount_error_iff.mpr h
          rw [h₁] at h
          cases h
        · obtain ⟨err, h⟩ := loadAccount_error_iff.mpr ((unloadable_of_loadAccount h₁).mpr h)
          rw [h₂] at h
          cases h
        · exact Or.inl h
        · cases hchecked : revm.validateAccountNonceAndCode (j.account tx.caller) tx
              env.cfgEnv with
          | error err => exact Or.inl ⟨err, rfl⟩
          | ok u => exact Or.inr ⟨(), rfl, Or.inl h⟩

/-- The price in force is never above the cap. -/
theorem effectiveGasPrice_le (env : EvmEnv) (tx : TxEnv) :
    (effectiveGasPrice env tx).toNat ≤ tx.gasPrice.toNat := by
  unfold effectiveGasPrice
  cases hflat : tx.isFlat with
  | true => rw [effectiveGasPrice_of_flat _ hflat]
  | false =>
    cases hpriority : tx.gasPriorityFee with
    | none => rw [effectiveGasPrice_of_none _ hpriority]
    | some priority =>
      rw [effectiveGasPrice_of_some _ hflat hpriority]
      exact Nat.min_le_left _ _

/-- A funded caller can pay the price in force. -/
theorem Funded.covers {tx : TxEnv} {j : Journal} (funded : Funded tx j) (env : EvmEnv) :
    gasCost env tx ≤ j.balances tx.caller := by
  have hprice : gasCost env tx ≤ tx.gasLimit.toNat * tx.gasPrice.toNat :=
    Nat.mul_le_mul_left _ (effectiveGasPrice_le env tx)
  exact hprice.trans ((Nat.le_add_right _ _).trans funded)

/-- An unfunded caller is refused, by the charge and so by the whole transaction,
which then changes no account. -/
def RefusesUnfunded (revm : Revm) (env : EvmEnv) (tx : TxEnv) (entry : Journal) : Prop :=
  ¬ Funded tx entry →
    (∃ err, validateAgainstStateAndDeductCaller revm env tx entry = .error err) ∧
      ∀ db, entry = Journal.new db → ∃ err, transact revm env tx db = .error err

/-- The fee phases around any execution that keeps the total do not raise it. -/
def NeverRaisesTotal (revm : Revm) (env : EvmEnv) (tx : TxEnv) (entry : Journal) : Prop :=
  ∀ gas charged executed reimbursed rewarded,
    validateAgainstStateAndDeductCaller revm env tx entry = .ok charged →
    env.blockEnv.basefee.toNat ≤ (effectiveGasPrice env tx).toNat →
    gas.WellFormed tx.gasLimit →
    Ledger.total entry.balances < 2 ^ 256 →
    Ledger.total executed.balances = Ledger.total charged.balances →
    reimburseCaller env tx gas 0#256 executed = .ok reimbursed →
    rewardBeneficiary env tx gas reimbursed = .ok rewarded →
    Ledger.total rewarded.balances ≤ Ledger.total entry.balances

theorem transact_error_of_deductCaller {revm : Revm} {env : EvmEnv} {tx : TxEnv} {db : Database}
    {err : EvmError}
    (h : validateAgainstStateAndDeductCaller revm env tx (Journal.new db) = .error err) :
    ∃ err, transact revm env tx db = .error err := by
  unfold transact
  simp only [exists_bind_eq_error_iff]
  cases hv : (revm.validateEnv env tx).mapError EvmError.transaction with
  | error err => exact Or.inl ⟨err, rfl⟩
  | ok u => exact Or.inr ⟨u, rfl, Or.inl ⟨err, h⟩⟩

/-- An unfunded caller is refused and the total kept, exactly when the caller is
funded or the transaction is refused on other grounds. -/
theorem unfunded_refused_iff (revm : Revm) (env : EvmEnv) (tx : TxEnv) (entry : Journal) :
    RefusesUnfunded revm env tx entry ∧ NeverRaisesTotal revm env tx entry ↔
      Funded tx entry ∨ RefusedAnyway revm env tx entry := by
  rw [← deductCaller_error_iff]
  constructor
  · rintro ⟨refuses, -⟩
    by_cases funded : Funded tx entry
    · exact Or.inl funded
    · exact Or.inr (refuses funded).1
  · rintro (funded | ⟨err, refused⟩)
    · refine ⟨fun unfunded => absurd funded unfunded, ?_⟩
      intro gas charged executed reimbursed rewarded accepted price meter supply execution
        reimburse reward
      have hcover := funded.covers env
      obtain ⟨-, -, htotal⟩ := fee_phases_balances accepted price meter (by omega) execution.le
        reimburse reward
      omega
    · refine ⟨fun _ => ⟨⟨err, refused⟩, ?_⟩, ?_⟩
      · rintro db rfl
        exact transact_error_of_deductCaller refused
      · intro gas charged executed reimbursed rewarded accepted
        rw [refused] at accepted
        cases accepted

/-- A transfer from an account that holds nothing. -/
def poorTx : TxEnv := TxEnv.fromRecoveredTx ⟨transferTx 0x7#160 0 30000, 0x7#160⟩

def richState : Database := oneHolder 0x2#160 1000000000000000000

/-- The account without a balance is served, and the fees it could not pay are
created. -/
theorem unfunded_caller_accepted :
    ¬ Funded poorTx (Journal.new richState) ∧
    (transact transferEvm mainnetEnv poorTx richState).isOk = true ∧
    ∃ charged reimbursed rewarded,
      validateAgainstStateAndDeductCaller transferEvm mainnetEnv poorTx (Journal.new richState) =
        .ok charged ∧
      reimburseCaller mainnetEnv poorTx ⟨30000, 9000, 0⟩ 0#256 charged = .ok reimbursed ∧
      rewardBeneficiary mainnetEnv poorTx ⟨30000, 9000, 0⟩ reimbursed = .ok rewarded ∧
      Ledger.total rewarded.balances =
        Ledger.total (Journal.new richState).balances + 120000000000000000 := by
  refine ⟨?_, by decide +kernel, ?_⟩
  · unfold Funded
    decide +kernel
  have hrun : (do
      let charged ← validateAgainstStateAndDeductCaller transferEvm mainnetEnv poorTx
        (Journal.new richState)
      let reimbursed ← reimburseCaller mainnetEnv poorTx ⟨30000, 9000, 0⟩ 0#256 charged
      rewardBeneficiary mainnetEnv poorTx ⟨30000, 9000, 0⟩ reimbursed).isOk = true := by
    decide +kernel
  obtain ⟨rewarded, h⟩ := exists_of_isOk hrun
  obtain ⟨charged, hcharged, h⟩ := bind_eq_ok h
  obtain ⟨reimbursed, hreimbursed, hrewarded⟩ := bind_eq_ok h
  refine ⟨charged, reimbursed, rewarded, hcharged, hreimbursed, hrewarded, ?_⟩
  have hshort : gasCost mainnetEnv poorTx - (Journal.new richState).balances poorTx.caller =
      120000000000000000 := by decide +kernel
  have hsupply : Ledger.total (Journal.new richState).balances = 1000000000000000000 :=
    oneHolder_total _ _
  obtain ⟨-, -, htotal⟩ := fee_phases_balances hcharged (by decide +kernel)
    ⟨rfl, by decide +kernel, by decide +kernel, by decide +kernel⟩ (by rw [hshort, hsupply]; decide)
    le_rfl hreimbursed hrewarded
  rw [hshort] at htotal
  exact Nat.add_right_cancel htotal

end UnfundedCallers
