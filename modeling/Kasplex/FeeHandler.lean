import Kasplex.EvmState

/-!
# The fee phases of a transaction

`KasplexEvmHandler` replaces three phases of the stock handler: the caller is
charged for the whole gas limit up front, then reimbursed for what is left and
refunded, and finally the tip goes to the beneficiary and the base fee to the
treasury address of the chain. The three amounts are computed separately, in
64, 128 and 256 bits; the results below are about their sum.
-/

namespace FeeHandler

open Primitives MachineArith EvmState

section Treasury

/-- Hexadecimal digits in either case. -/
def hexDigit (c : Char) : Option Nat :=
  if '0' ≤ c ∧ c ≤ '9' then some (c.toNat - '0'.toNat)
  else if 'a' ≤ c ∧ c ≤ 'f' then some (c.toNat - 'a'.toNat + 10)
  else if 'A' ≤ c ∧ c ≤ 'F' then some (c.toNat - 'A'.toNat + 10)
  else none

/-- `Address::from_str`: an optional `0x`, then exactly forty digits. -/
def addressFromStr (s : List Char) : Option Address :=
  let digits := match s with
    | '0' :: 'x' :: rest => rest
    | _ => s
  if digits.length = 40 then
    (digits.foldlM (fun acc c => (hexDigit c).map (acc * 16 + ·)) 0).map (BitVec.ofNat 160)
  else none

/-- The decimal digits of the chain id, zeros, and the suffix `10001`, read as
hexadecimal digits. -/
def getTreasuryAddress (chainId : U64) : Address :=
  let chainIdStr := Nat.toDigits 10 chainId.toNat
  let suffix := ['1', '0', '0', '0', '1']
  let addressLength := 40
  let paddingNeeded := addressLength - (chainIdStr.length + suffix.length)
  let padding := List.replicate paddingNeeded '0'
  let addressHex := chainIdStr ++ padding ++ suffix
  (addressFromStr ('0' :: 'x' :: addressHex)).getD 0

example : getTreasuryAddress 202555 = 0x2025550000000000000000000000000000010001#160 := by
  decide +kernel

end Treasury

structure FrameResult where
  gas : Gas
  success : Bool
  logs : List Log
  output : Bytes
  deriving DecidableEq, Repr

/-- The phases of `revm` that the handler leaves as they are. -/
structure Revm where
  validateEnv : EvmEnv → TxEnv → Except InvalidTransaction Unit
  validateAccountNonceAndCode : Account → TxEnv → CfgEnv → Except InvalidTransaction Unit
  execution : EvmEnv → TxEnv → Journal → Except EvmError (FrameResult × Journal)

def bumpNonce (a : Account) : Account :=
  { a with nonce := (checkedAdd a.nonce 1).getD a.nonce }

/-- Warm the beneficiary, check nonce and code of the caller, bump the nonce of
a call, and deduct the price of the whole gas limit. The value is not deducted
here, and the deduction saturates at zero. The source loads the caller twice; the
second load finds it in the journal. -/
def validateAgainstStateAndDeductCaller (revm : Revm) (env : EvmEnv) (tx : TxEnv)
    (j : Journal) : Except EvmError Journal := do
  let basefee := env.blockEnv.basefee.setWidth 128
  let j ← j.loadAccount env.blockEnv.beneficiary
  let j ← j.loadAccount tx.caller
  let callerAccountInfo := j.account tx.caller
  (revm.validateAccountNonceAndCode callerAccountInfo tx env.cfgEnv).mapError .transaction
  let callerAccount := if tx.kind.isCall then bumpNonce callerAccountInfo else callerAccountInfo
  let spending ← (tx.effectiveBalanceSpending basefee).mapError .transaction
  let gasBalanceSpending := saturatingSub spending tx.value
  let newBalance := saturatingSub callerAccount.balance gasBalanceSpending
  pure (j.setAccount tx.caller { callerAccount with balance := newBalance })

/-- The price of a unit of gas under the block's base fee. -/
def effectiveGasPrice (env : EvmEnv) (tx : TxEnv) : U128 :=
  tx.effectiveGasPrice (env.blockEnv.basefee.setWidth 128)

/-- Refund in units of gas: what remains plus what was refunded. -/
def totalToRefund (gas : Gas) : U64 := gas.remaining + gas.refunded

def reimburseCaller (env : EvmEnv) (tx : TxEnv) (gas : Gas) (additionalRefund : U256)
    (j : Journal) : Except EvmError Journal :=
  let refundAmount :=
    (saturatingMul (effectiveGasPrice env tx) ((totalToRefund gas).setWidth 128)).setWidth 256 +
      additionalRefund
  j.balanceIncr tx.caller refundAmount

def spentMinusRefund (gas : Gas) : U64 := saturatingSub gas.spent gas.refunded

/-- The tip credited to the beneficiary; a plain 128-bit product. -/
def tipAmount (env : EvmEnv) (tx : TxEnv) (gas : Gas) : U128 :=
  saturatingSub (effectiveGasPrice env tx) (env.blockEnv.basefee.setWidth 128) *
    (spentMinusRefund gas).setWidth 128

/-- The base fee credited to the treasury. -/
def totalBaseFee (env : EvmEnv) (gas : Gas) : U256 :=
  (saturatingMul (env.blockEnv.basefee.setWidth 128)
    ((spentMinusRefund gas).setWidth 128)).setWidth 256

def rewardBeneficiary (env : EvmEnv) (tx : TxEnv) (gas : Gas) (j : Journal) :
    Except EvmError Journal := do
  let j ← j.balanceIncr env.blockEnv.beneficiary ((tipAmount env tx gas).setWidth 256)
  j.balanceIncr (getTreasuryAddress env.cfgEnv.chainId) (totalBaseFee env gas)

structure ExecutionResult where
  success : Bool
  gasUsed : U64
  logs : List Log
  deriving DecidableEq, Repr

/-- The outcome of one transaction: its result, the gas meter the fee phases
used, and the accounts it changed. -/
structure ResultAndState where
  result : ExecutionResult
  gas : Gas
  state : State

/-- One transaction through the handler. A failing phase drops the journal. -/
def transact (revm : Revm) (env : EvmEnv) (tx : TxEnv) (db : Database) :
    Except EvmError ResultAndState := do
  (revm.validateEnv env tx).mapError .transaction
  let j ← validateAgainstStateAndDeductCaller revm env tx (Journal.new db)
  let (frame, j) ← revm.execution env tx j
  let j ← reimburseCaller env tx frame.gas 0#256 j
  let j ← rewardBeneficiary env tx frame.gas j
  pure {
    result := ⟨frame.success, saturatingSub frame.gas.spent frame.gas.refunded, frame.logs⟩
    gas := frame.gas
    state := j.state }

/-- The phases an accepted transaction went through. -/
theorem transact_eq_ok {revm : Revm} {env : EvmEnv} {tx : TxEnv} {db : Database}
    {output : ResultAndState} (h : transact revm env tx db = .ok output) :
    ∃ charged frame executed reimbursed rewarded,
      revm.validateEnv env tx = .ok () ∧
      validateAgainstStateAndDeductCaller revm env tx (Journal.new db) = .ok charged ∧
      revm.execution env tx charged = .ok (frame, executed) ∧
      reimburseCaller env tx frame.gas 0#256 executed = .ok reimbursed ∧
      rewardBeneficiary env tx frame.gas reimbursed = .ok rewarded ∧
      output = {
        result := ⟨frame.success, saturatingSub frame.gas.spent frame.gas.refunded, frame.logs⟩
        gas := frame.gas
        state := rewarded.state } := by
  obtain ⟨u, hv, h⟩ := bind_eq_ok h
  obtain ⟨charged, hc, h⟩ := bind_eq_ok h
  obtain ⟨⟨frame, executed⟩, hx, h⟩ := bind_eq_ok h
  obtain ⟨reimbursed, hr, h⟩ := bind_eq_ok h
  obtain ⟨rewarded, hw, h⟩ := bind_eq_ok h
  cases h
  exact ⟨charged, frame, executed, reimbursed, rewarded, mapError_eq_ok hv, hc, hx, hr, hw, rfl⟩

/-- The meter of a transaction that passed the environment check is in order
when its execution ends. -/
def Revm.Metered (revm : Revm) : Prop :=
  ∀ env tx j frame j', revm.validateEnv env tx = .ok () →
    revm.execution env tx j = .ok (frame, j') → frame.gas.WellFormed tx.gasLimit

/-- The gas cost of the whole limit, exact. -/
def gasCost (env : EvmEnv) (tx : TxEnv) : Nat :=
  tx.gasLimit.toNat * (effectiveGasPrice env tx).toNat

/-- What an accepted charge does: the gas cost fits 128 bits, and only the
caller's balance moves, by the gas cost or down to zero. -/
theorem deductCaller_balances {revm : Revm} {env : EvmEnv} {tx : TxEnv} {j j' : Journal}
    (h : validateAgainstStateAndDeductCaller revm env tx j = .ok j') :
    gasCost env tx < 2 ^ 128 ∧
      j'.balances =
        Function.update j.balances tx.caller (j.balances tx.caller - gasCost env tx) := by
  obtain ⟨j₁, h₁, h⟩ := bind_eq_ok h
  obtain ⟨j₂, h₂, h⟩ := bind_eq_ok h
  obtain ⟨_, _, h⟩ := bind_eq_ok h
  obtain ⟨spending, hs, h⟩ := bind_eq_ok h
  obtain ⟨hlt, hspend⟩ := effectiveBalanceSpending_eq_ok (mapError_eq_ok hs)
  have hbal : j₂.balances = j.balances :=
    (Journal.loadAccount_balances h₂).trans (Journal.loadAccount_balances h₁)
  refine ⟨hlt, ?_⟩
  cases h
  rw [Journal.setAccount_balances, hbal]
  congr 1
  have hkeep : (if tx.kind.isCall then bumpNonce (j₂.account tx.caller)
      else j₂.account tx.caller).balance = (j₂.account tx.caller).balance := by
    split <;> rfl
  have hval : spending.toNat - tx.value.toNat = gasCost env tx := by
    rw [hspend]
    exact Nat.add_sub_cancel _ _
  rw [toNat_saturatingSub, toNat_saturatingSub, hval, hkeep, ← hbal]
  rfl

section Amounts

variable (env : EvmEnv) {tx : TxEnv} {gas : Gas} (wf : gas.WellFormed tx.gasLimit)
include wf

theorem totalToRefund_toNat :
    (totalToRefund gas).toNat = gas.remaining.toNat + gas.refunded.toNat := by
  have hr := wf.refunded_toNat
  have hb := wf.balanced
  have hl := gas.limit.isLt
  exact toNat_add_of_lt (by omega)

theorem spentMinusRefund_toNat :
    (spentMinusRefund gas).toNat + (totalToRefund gas).toNat = tx.gasLimit.toNat := by
  have hr := wf.refunded_toNat
  have hb := wf.balanced
  rw [totalToRefund_toNat wf, spentMinusRefund, toNat_saturatingSub, ← wf.limit]
  omega

/-- Neither the saturating product nor the added zero loses anything. -/
theorem refundAmount_toNat (cost : gasCost env tx < 2 ^ 128) :
    ((saturatingMul (effectiveGasPrice env tx)
      ((totalToRefund gas).setWidth 128)).setWidth 256 + 0#256).toNat =
      (effectiveGasPrice env tx).toNat *
        (gas.remaining.toNat + gas.refunded.toNat) := by
  have hle : (totalToRefund gas).toNat ≤ tx.gasLimit.toNat := by
    have := spentMinusRefund_toNat wf
    omega
  have hfit : (effectiveGasPrice env tx).toNat *
      (totalToRefund gas).toNat < 2 ^ 128 := by
    refine lt_of_le_of_lt ?_ cost
    rw [gasCost, Nat.mul_comm tx.gasLimit.toNat]
    exact Nat.mul_le_mul_left _ hle
  rw [BitVec.add_zero, toNat_setWidth_of_le (by decide), toNat_saturatingMul_of_lt,
    toNat_setWidth_of_le (by decide), totalToRefund_toNat wf]
  rwa [toNat_setWidth_of_le (by decide)]

theorem tipAmount_toNat (cost : gasCost env tx < 2 ^ 128) :
    (tipAmount env tx gas).toNat =
      ((effectiveGasPrice env tx).toNat -
        env.blockEnv.basefee.toNat) * (gas.spent.toNat - gas.refunded.toNat) := by
  have hle : (spentMinusRefund gas).toNat ≤ tx.gasLimit.toNat := by
    have := spentMinusRefund_toNat wf
    omega
  have hfit : ((effectiveGasPrice env tx).toNat -
      env.blockEnv.basefee.toNat) * (spentMinusRefund gas).toNat < 2 ^ 128 := by
    refine lt_of_le_of_lt ?_ cost
    rw [gasCost, Nat.mul_comm tx.gasLimit.toNat]
    exact Nat.mul_le_mul (Nat.sub_le _ _) hle
  have hs : (spentMinusRefund gas).toNat = gas.spent.toNat - gas.refunded.toNat := by
    simp [spentMinusRefund]
  rw [tipAmount, toNat_mul_of_lt]
  · simp only [toNat_saturatingSub, toNat_setWidth_of_le (show 64 ≤ 128 by decide), hs]
  · simpa only [toNat_saturatingSub, toNat_setWidth_of_le (show 64 ≤ 128 by decide)] using hfit

end Amounts

/-- Two 64-bit factors never saturate a 128-bit product. -/
theorem totalBaseFee_toNat (env : EvmEnv) (gas : Gas) :
    (totalBaseFee env gas).toNat =
      env.blockEnv.basefee.toNat * (gas.spent.toNat - gas.refunded.toNat) := by
  have hb := env.blockEnv.basefee.isLt
  have hs := (spentMinusRefund gas).isLt
  have hfit : env.blockEnv.basefee.toNat * (spentMinusRefund gas).toNat < 2 ^ 128 :=
    calc env.blockEnv.basefee.toNat * (spentMinusRefund gas).toNat
        < 2 ^ 64 * 2 ^ 64 := Nat.mul_lt_mul'' hb hs
      _ = 2 ^ 128 := by norm_num
  rw [totalBaseFee, toNat_setWidth_of_le (by decide), toNat_saturatingMul_of_lt,
    toNat_setWidth_of_le (by decide), toNat_setWidth_of_le (by decide), spentMinusRefund,
    toNat_saturatingSub]
  rwa [toNat_setWidth_of_le (by decide), toNat_setWidth_of_le (by decide)]

section Exactness

/-- Read as unsigned, the refund counter has its signed value. -/
theorem refunded_toInt {gas : Gas} {gasLimit : U64} (wf : gas.WellFormed gasLimit) :
    (gas.refunded.toNat : Int) = gas.refunded.toInt := by
  have h := BitVec.toInt_eq_toNat_cond gas.refunded
  have hnonneg := wf.refund_nonneg
  have hlt := gas.refunded.isLt
  split at h <;> omega

/-- The charged units of gas, with nothing cut off at zero. -/
theorem spentMinusRefund_toInt {gas : Gas} {gasLimit : U64} (wf : gas.WellFormed gasLimit) :
    ((spentMinusRefund gas).toNat : Int) = gas.spent.toNat - gas.refunded.toInt := by
  have hle := wf.refunded_toNat
  rw [spentMinusRefund, toNat_saturatingSub, ← refunded_toInt wf]
  omega

theorem coinbaseGasPrice_toInt {env : EvmEnv} {tx : TxEnv}
    (price : env.blockEnv.basefee.toNat ≤ (effectiveGasPrice env tx).toNat) :
    ((saturatingSub (effectiveGasPrice env tx) (env.blockEnv.basefee.setWidth 128)).toNat : Int) =
      (effectiveGasPrice env tx).toNat - env.blockEnv.basefee.toNat := by
  rw [toNat_saturatingSub, toNat_setWidth_of_le (by decide)]
  omega

/-- No step of the fee arithmetic wraps, saturates or loses a sign, once the
charge was accepted at a price of at least the base fee. -/
theorem fee_arithmetic_exact (revm : Revm) (env : EvmEnv) (tx : TxEnv) (gas : Gas)
    (entry charged : Journal)
    (deducted : validateAgainstStateAndDeductCaller revm env tx entry = .ok charged)
    (price : env.blockEnv.basefee.toNat ≤ (effectiveGasPrice env tx).toNat)
    (wf : gas.WellFormed tx.gasLimit) :
    ((saturatingSub (effectiveGasPrice env tx) (env.blockEnv.basefee.setWidth 128)).toNat : Int) =
        (effectiveGasPrice env tx).toNat - env.blockEnv.basefee.toNat ∧
      ((spentMinusRefund gas).toNat : Int) = gas.spent.toNat - gas.refunded.toInt ∧
      ((tipAmount env tx gas).toNat : Int) =
        ((effectiveGasPrice env tx).toNat - env.blockEnv.basefee.toNat) *
          (gas.spent.toNat - gas.refunded.toInt) ∧
      ((totalBaseFee env gas).toNat : Int) =
        env.blockEnv.basefee.toNat * (gas.spent.toNat - gas.refunded.toInt) ∧
      ((totalToRefund gas).toNat : Int) = gas.remaining.toNat + gas.refunded.toInt ∧
      ((saturatingMul (effectiveGasPrice env tx) ((totalToRefund gas).setWidth 128)).toNat : Int) =
        (effectiveGasPrice env tx).toNat * (gas.remaining.toNat + gas.refunded.toInt) := by
  obtain ⟨cost, -⟩ := deductCaller_balances deducted
  have hrefunded := refunded_toInt wf
  have hunits := spentMinusRefund_toInt wf
  have hle := wf.refunded_toNat
  refine ⟨coinbaseGasPrice_toInt price, hunits, ?_, ?_, ?_, ?_⟩
  · rw [tipAmount_toNat env wf cost, ← hrefunded, Nat.cast_mul, Nat.cast_sub price,
      Nat.cast_sub hle]
  · rw [totalBaseFee_toNat, ← hrefunded, Nat.cast_mul, Nat.cast_sub hle]
  · rw [totalToRefund_toNat wf, Nat.cast_add, hrefunded]
  · have hrefund := refundAmount_toNat env wf cost
    rw [BitVec.add_zero, toNat_setWidth_of_le (by decide)] at hrefund
    rw [hrefund, Nat.cast_mul, Nat.cast_add, hrefunded]

end Exactness

section Conservation

variable {revm : Revm} {env : EvmEnv} {tx : TxEnv} {gas : Gas} {j j' : Journal}

/-- The reimbursement credits the caller alone. -/
theorem reimburseCaller_balances (wf : gas.WellFormed tx.gasLimit)
    (cost : gasCost env tx < 2 ^ 128)
    (h : reimburseCaller env tx gas 0#256 j = .ok j')
    (fits : j.balances tx.caller + (effectiveGasPrice env tx).toNat *
      (gas.remaining.toNat + gas.refunded.toNat) < 2 ^ 256) :
    j'.balances = Ledger.credit j.balances tx.caller ((effectiveGasPrice env tx).toNat *
      (gas.remaining.toNat + gas.refunded.toNat)) := by
  have hamount := refundAmount_toNat env wf cost
  rw [← hamount] at fits ⊢
  exact Journal.balanceIncr_balances h fits

/-- The two rewards are credited one after the other, so that a treasury that
is also the beneficiary receives both. -/
theorem rewardBeneficiary_credits (h : rewardBeneficiary env tx gas j = .ok j')
    (fits : Ledger.total j.balances + (tipAmount env tx gas).toNat +
      (totalBaseFee env gas).toNat < 2 ^ 256) :
    j'.balances =
      Ledger.credit
        (Ledger.credit j.balances env.blockEnv.beneficiary (tipAmount env tx gas).toNat)
        (getTreasuryAddress env.cfgEnv.chainId) (totalBaseFee env gas).toNat := by
  obtain ⟨k, htip, hbase⟩ := bind_eq_ok h
  have hwide : ((tipAmount env tx gas).setWidth 256).toNat = (tipAmount env tx gas).toNat :=
    toNat_setWidth_of_le (by decide) _
  have hben := Ledger.le_total j.balances env.blockEnv.beneficiary
  have hk := Journal.balanceIncr_balances htip (by omega)
  rw [hwide] at hk
  have htreasury := Ledger.le_total k.balances (getTreasuryAddress env.cfgEnv.chainId)
  have htotal : Ledger.total k.balances =
      Ledger.total j.balances + (tipAmount env tx gas).toNat := by
    rw [hk, Ledger.total_credit]
  rw [Journal.balanceIncr_balances hbase (by omega), hk]

/-- The rewards in terms of the price and the gas paid for. -/
theorem rewardBeneficiary_balances (wf : gas.WellFormed tx.gasLimit)
    (cost : gasCost env tx < 2 ^ 128)
    (h : rewardBeneficiary env tx gas j = .ok j')
    (fits : Ledger.total j.balances +
      ((effectiveGasPrice env tx).toNat - env.blockEnv.basefee.toNat) *
        (gas.spent.toNat - gas.refunded.toNat) +
      env.blockEnv.basefee.toNat * (gas.spent.toNat - gas.refunded.toNat) < 2 ^ 256) :
    j'.balances =
      Ledger.credit
        (Ledger.credit j.balances env.blockEnv.beneficiary
          (((effectiveGasPrice env tx).toNat - env.blockEnv.basefee.toNat) *
            (gas.spent.toNat - gas.refunded.toNat)))
        (getTreasuryAddress env.cfgEnv.chainId)
        (env.blockEnv.basefee.toNat * (gas.spent.toNat - gas.refunded.toNat)) := by
  rw [← tipAmount_toNat env wf cost, ← totalBaseFee_toNat] at fits ⊢
  exact rewardBeneficiary_credits h fits

/-- Charge, reimbursement and the two rewards cancel exactly. -/
theorem fee_split (wf : gas.WellFormed tx.gasLimit)
    (price : env.blockEnv.basefee.toNat ≤ (effectiveGasPrice env tx).toNat) :
    gasCost env tx =
      (effectiveGasPrice env tx).toNat * (gas.remaining.toNat + gas.refunded.toNat) +
        (((effectiveGasPrice env tx).toNat - env.blockEnv.basefee.toNat) *
            (gas.spent.toNat - gas.refunded.toNat) +
          env.blockEnv.basefee.toNat * (gas.spent.toNat - gas.refunded.toNat)) := by
  have hr := wf.refunded_toNat
  have hlimit : tx.gasLimit.toNat = (gas.remaining.toNat + gas.refunded.toNat) +
      (gas.spent.toNat - gas.refunded.toNat) := by
    have hb := wf.balanced
    rw [← wf.limit]
    omega
  rw [← Nat.add_mul, Nat.sub_add_cancel price, ← Nat.mul_add, ← hlimit, Nat.mul_comm]
  rfl

/-- The three phases around an execution that does not raise the total: each moves
the balances it should, and together they add what the caller was short of. -/
theorem fee_phases_balances {entry charged executed reimbursed rewarded : Journal}
    (accepted : validateAgainstStateAndDeductCaller revm env tx entry = .ok charged)
    (price : env.blockEnv.basefee.toNat ≤ (effectiveGasPrice env tx).toNat)
    (meter : gas.WellFormed tx.gasLimit)
    (supply : Ledger.total entry.balances + (gasCost env tx - entry.balances tx.caller) < 2 ^ 256)
    (execution : Ledger.total executed.balances ≤ Ledger.total charged.balances)
    (reimburse : reimburseCaller env tx gas 0#256 executed = .ok reimbursed)
    (reward : rewardBeneficiary env tx gas reimbursed = .ok rewarded) :
    reimbursed.balances = Ledger.credit executed.balances tx.caller
        ((effectiveGasPrice env tx).toNat * (gas.remaining.toNat + gas.refunded.toNat)) ∧
      rewarded.balances =
        Ledger.credit
          (Ledger.credit reimbursed.balances env.blockEnv.beneficiary
            (((effectiveGasPrice env tx).toNat - env.blockEnv.basefee.toNat) *
              (gas.spent.toNat - gas.refunded.toNat)))
          (getTreasuryAddress env.cfgEnv.chainId)
          (env.blockEnv.basefee.toNat * (gas.spent.toNat - gas.refunded.toNat)) ∧
      Ledger.total rewarded.balances + Ledger.total charged.balances =
        Ledger.total entry.balances + (gasCost env tx - entry.balances tx.caller) +
          Ledger.total executed.balances := by
  obtain ⟨cost, hcharged⟩ := deductCaller_balances accepted
  have hsplit := fee_split meter price
  have hheld := Ledger.le_total entry.balances tx.caller
  have hcharge : Ledger.total charged.balances + gasCost env tx =
      Ledger.total entry.balances + (gasCost env tx - entry.balances tx.caller) := by
    have hupdate := Ledger.total_update entry.balances tx.caller
      (entry.balances tx.caller - gasCost env tx)
    rw [hcharged]
    omega
  have hcaller := Ledger.le_total executed.balances tx.caller
  have hreimbursed := reimburseCaller_balances meter cost reimburse (by omega)
  have hmiddle : Ledger.total reimbursed.balances = Ledger.total executed.balances +
      (effectiveGasPrice env tx).toNat * (gas.remaining.toNat + gas.refunded.toNat) := by
    rw [hreimbursed, Ledger.total_credit]
  have hrewarded := rewardBeneficiary_balances meter cost reward (by omega)
  refine ⟨hreimbursed, hrewarded, ?_⟩
  rw [hrewarded, Ledger.total_credit, Ledger.total_credit]
  omega

end Conservation

/-- The three fee phases around any execution that keeps the total move coins
and create none. `charged`, `executed`, `reimbursed` and `rewarded` are the
journals after each phase; the credits are stated per address, so they add up
whichever of caller, beneficiary and treasury coincide. -/
theorem fee_phases_conserve_total (revm : Revm) (env : EvmEnv) (tx : TxEnv) (gas : Gas)
    (entry charged executed reimbursed rewarded : Journal)
    (accepted : validateAgainstStateAndDeductCaller revm env tx entry = .ok charged)
    (covered : tx.gasLimit.toNat * (effectiveGasPrice env tx).toNat + tx.value.toNat ≤
      (entry.account tx.caller).balance.toNat)
    (price : env.blockEnv.basefee.toNat ≤ (effectiveGasPrice env tx).toNat)
    (meter : gas.WellFormed tx.gasLimit)
    (supply : Ledger.total entry.balances < 2 ^ 256)
    (execution : Ledger.total executed.balances = Ledger.total charged.balances)
    (reimburse : reimburseCaller env tx gas 0#256 executed = .ok reimbursed)
    (reward : rewardBeneficiary env tx gas reimbursed = .ok rewarded) :
    Ledger.total rewarded.balances = Ledger.total entry.balances ∧
    (∀ a, charged.balances a +
        (if a = tx.caller then tx.gasLimit.toNat * (effectiveGasPrice env tx).toNat else 0) =
      entry.balances a) ∧
    (∀ a, rewarded.balances a = executed.balances a +
      (if a = tx.caller then (effectiveGasPrice env tx).toNat *
        (gas.remaining.toNat + gas.refunded.toNat) else 0) +
      (if a = env.blockEnv.beneficiary then
        ((effectiveGasPrice env tx).toNat - env.blockEnv.basefee.toNat) *
          (gas.spent.toNat - gas.refunded.toNat) else 0) +
      (if a = getTreasuryAddress env.cfgEnv.chainId then
        env.blockEnv.basefee.toNat * (gas.spent.toNat - gas.refunded.toNat) else 0)) ∧
    tx.gasLimit.toNat * (effectiveGasPrice env tx).toNat =
      (effectiveGasPrice env tx).toNat * (gas.remaining.toNat + gas.refunded.toNat) +
        (effectiveGasPrice env tx).toNat * (gas.spent.toNat - gas.refunded.toNat) := by
  obtain ⟨cost, hcharged⟩ := deductCaller_balances accepted
  have hsplit := fee_split meter price
  have hcover : gasCost env tx ≤ entry.balances tx.caller :=
    le_trans (Nat.le_add_right _ _) covered
  obtain ⟨hreimbursed, hrewarded, htotal⟩ :=
    fee_phases_balances accepted price meter (by omega) execution.le reimburse reward
  refine ⟨?_, ?_, ?_, ?_⟩
  · omega
  · intro a
    rw [hcharged]
    by_cases ha : a = tx.caller
    · subst ha
      simp only [Function.update_self, if_pos]
      exact Nat.sub_add_cancel hcover
    · simp [ha]
  · intro a
    rw [hrewarded, hreimbursed, Ledger.credit_apply, Ledger.credit_apply, Ledger.credit_apply]
  · rw [← Nat.add_mul, Nat.sub_add_cancel price] at hsplit
    exact hsplit

/-- A plain transfer without value: 21000 gas and no account touched. -/
def transferEvm : Revm where
  validateEnv := fun env tx =>
    if tx.gasLimit < 21000 then .error (.other "call gas cost exceeds the gas limit")
    else if env.blockEnv.gasLimit < tx.gasLimit then .error .callerGasLimitMoreThanBlock
    else if tx.gasPrice < env.blockEnv.basefee.setWidth 128 then .error .gasPriceLessThanBasefee
    else .ok ()
  validateAccountNonceAndCode := fun caller tx cfg =>
    if caller.code ≠ [] then .error .rejectCallerWithCode
    else if cfg.disableNonceCheck then .ok ()
    else if caller.nonce < tx.nonce then .error .nonceTooHigh
    else if tx.nonce < caller.nonce then .error .nonceTooLow
    else .ok ()
  execution := fun _ tx j => .ok (⟨⟨tx.gasLimit, tx.gasLimit - 21000, 0⟩, true, [], []⟩, j)

theorem transferEvm_metered : transferEvm.Metered := by
  intro env tx j frame j' hv hx
  have hlimit : (21000 : U64).toNat ≤ tx.gasLimit.toNat := by
    by_contra hlt
    have hlow : tx.gasLimit < 21000 := BitVec.lt_def.mpr (Nat.lt_of_not_le hlt)
    simp only [transferEvm, if_pos hlow] at hv
    cases hv
  cases hx
  have hrem := toNat_sub_of_le hlimit
  have hspent : (Gas.spent ⟨tx.gasLimit, tx.gasLimit - 21000, 0⟩).toNat = 21000 := by
    change (tx.gasLimit - (tx.gasLimit - 21000)).toNat = 21000
    rw [toNat_sub_of_le (by omega), hrem, Nat.sub_sub_self hlimit]
    rfl
  refine ⟨rfl, ?_, Int.le_refl 0, ?_⟩
  · rw [hspent]
    change 21000 + (tx.gasLimit - 21000).toNat = tx.gasLimit.toNat
    rw [hrem]
    exact Nat.add_sub_of_le hlimit
  · rw [hspent]
    exact Int.natCast_nonneg 21000

theorem transferEvm_refuses (env : EvmEnv) (tx : TxEnv)
    (exceeds : env.blockEnv.gasLimit < tx.gasLimit) :
    ∃ err, transferEvm.validateEnv env tx = .error err := by
  by_cases hlow : tx.gasLimit < 21000
  · exact ⟨_, if_pos hlow⟩
  · exact ⟨_, (if_neg hlow).trans (if_pos exceeds)⟩

/-- Two thousand gwei, the fixed base fee. -/
def kasplexBaseFee : U64 := 2000000000000

def mainnetEnv : EvmEnv where
  cfgEnv := ⟨202555, .shanghai, false⟩
  blockEnv := ⟨1, 0x2#160, 1000, 30000000, kasplexBaseFee, 0, some 0⟩

/-- A zero-value transfer from `caller` at twice the base fee. -/
def transferTx (caller : Address) (nonce gasLimit : U64) : TransactionSigned where
  hash := nonce.setWidth 256 + 1
  fees := .eip1559 (2 * kasplexBaseFee.setWidth 128) (kasplexBaseFee.setWidth 128)
  chainId := some 202555
  nonce := nonce
  gasLimit := gasLimit
  kind := .call 0x1234#160
  value := 0
  input := []
  accessList := []
  authorizationList := []
  signature := caller.toNat.repr.toUTF8.toList

def oneHolder (holder : Address) (balance : U256) : Database where
  account := fun a => if a = holder then ⟨balance, 0, [], fun _ => 0⟩ else default
  fault := fun _ => none
  stateClearFlag := true

theorem oneHolder_total (holder : Address) (balance : U256) :
    Ledger.total (Journal.new (oneHolder holder balance)).balances = balance.toNat := by
  rw [← Ledger.total_single holder balance.toNat]
  congr 1
  funext a
  by_cases h : a = holder
  · simp [Journal.balances, Journal.account, Journal.new, oneHolder, h]
  · simp only [Journal.balances, Journal.account, Journal.new, oneHolder, h, if_false,
      Option.getD_none]
    rfl

/-- The amounts of a transfer whose caller has no balance at all. -/
theorem fee_arithmetic_exact_unfunded :
    let env := mainnetEnv
    let tx := TxEnv.fromRecoveredTx ⟨transferTx 0x3#160 0 30000, 0x3#160⟩
    let gas : Gas := ⟨30000, 5000, 4000⟩
    ∃ charged, validateAgainstStateAndDeductCaller transferEvm env tx
        (Journal.new (oneHolder 0x2#160 1)) = .ok charged ∧
      ((tipAmount env tx gas).toNat : Int) =
        ((effectiveGasPrice env tx).toNat - env.blockEnv.basefee.toNat) *
          (gas.spent.toNat - gas.refunded.toInt) := by
  intro env tx gas
  obtain ⟨charged, h⟩ := exists_of_isOk (show (validateAgainstStateAndDeductCaller transferEvm env
    tx (Journal.new (oneHolder 0x2#160 1))).isOk = true by decide +kernel)
  exact ⟨charged, h, (fee_arithmetic_exact transferEvm env tx gas _ charged h (by decide +kernel)
    ⟨rfl, by decide +kernel, by decide +kernel, by decide +kernel⟩).2.2.1⟩

/-- The beneficiary pays the transaction itself; 4000 of the gas is refunded. -/
theorem fee_phases_conserve_total_beneficiary_pays :
    let env := mainnetEnv
    let tx := TxEnv.fromRecoveredTx ⟨transferTx 0x2#160 0 30000, 0x2#160⟩
    let gas : Gas := ⟨30000, 5000, 4000⟩
    let entry := Journal.new (oneHolder 0x2#160 1000000000000000000)
    ∃ charged reimbursed rewarded,
      validateAgainstStateAndDeductCaller transferEvm env tx entry = .ok charged ∧
      reimburseCaller env tx gas 0#256 charged = .ok reimbursed ∧
      rewardBeneficiary env tx gas reimbursed = .ok rewarded ∧
      Ledger.total rewarded.balances = Ledger.total entry.balances := by
  intro env tx gas entry
  have hrun : (do
      let charged ← validateAgainstStateAndDeductCaller transferEvm env tx entry
      let reimbursed ← reimburseCaller env tx gas 0#256 charged
      rewardBeneficiary env tx gas reimbursed).isOk = true := by decide +kernel
  obtain ⟨rewarded, h⟩ := exists_of_isOk hrun
  obtain ⟨charged, hcharged, h⟩ := bind_eq_ok h
  obtain ⟨reimbursed, hreimbursed, hrewarded⟩ := bind_eq_ok h
  refine ⟨charged, reimbursed, rewarded, hcharged, hreimbursed, hrewarded, ?_⟩
  refine (fee_phases_conserve_total transferEvm env tx gas entry charged charged reimbursed
    rewarded hcharged (by decide +kernel) (by decide +kernel)
    ⟨rfl, by decide +kernel, by decide +kernel, by decide +kernel⟩ ?_ rfl hreimbursed hrewarded).1
  rw [oneHolder_total]
  exact BitVec.isLt _

end FeeHandler
