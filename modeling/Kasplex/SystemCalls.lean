import Kasplex.FeeHandler

/-!
# System calls

A system call is run as a free transaction: for its duration the block has no
base fee and the nonce check is off. Afterwards the environment is put back and
every account but the called contract is dropped from the changes.
-/

namespace SystemCalls

open Primitives MachineArith EvmState FeeHandler

/-- The machine between transactions: environment and committed state. -/
structure KasplexEvmWrapper where
  evmEnv : EvmEnv
  db : Database

/-- The free transaction of a system call. -/
def systemTx (caller contract : Address) (data : Bytes) : TxEnv where
  txType := .legacy
  caller := caller
  gasLimit := 30000000
  gasPrice := 0
  kind := .call contract
  value := 0
  data := data
  nonce := 0
  chainId := none
  accessList := []
  gasPriorityFee := none
  blobHashes := []
  maxFeePerBlobGas := 0
  authorizationList := []

namespace KasplexEvmWrapper

def transactRaw (revm : Revm) (evm : KasplexEvmWrapper) (tx : TxEnv) :
    Except EvmError ResultAndState × KasplexEvmWrapper :=
  (transact revm evm.evmEnv tx evm.db, evm)

/-- Exchange gas limit, base fee and nonce check for the given values. -/
def swapEnv (evm : KasplexEvmWrapper) (gasLimit basefee : U64) (disableNonceCheck : Bool) :
    KasplexEvmWrapper × U64 × U64 × Bool :=
  let evmEnv := {
    cfgEnv := { evm.evmEnv.cfgEnv with disableNonceCheck }
    blockEnv := { evm.evmEnv.blockEnv with gasLimit, basefee } }
  ({ evm with evmEnv }, evm.evmEnv.blockEnv.gasLimit, evm.evmEnv.blockEnv.basefee,
    evm.evmEnv.cfgEnv.disableNonceCheck)

/-- The second exchange puts everything back, whatever the outcome. -/
def transactSystemCall (revm : Revm) (evm : KasplexEvmWrapper) (caller contract : Address)
    (data : Bytes) : Except EvmError ResultAndState × KasplexEvmWrapper :=
  let tx := systemTx caller contract data
  let (evm, gasLimit, basefee, disableNonceCheck) := evm.swapEnv tx.gasLimit 0 true
  let (res, evm) := evm.transactRaw revm tx
  let (evm, _, _, _) := evm.swapEnv gasLimit basefee disableNonceCheck
  let res := res.map fun r => { r with state := fun a => if a = contract then r.state a else none }
  (res, evm)

end KasplexEvmWrapper

open KasplexEvmWrapper

/-- The environment the call itself runs in. -/
def callEnv (env : EvmEnv) : EvmEnv where
  cfgEnv := { env.cfgEnv with disableNonceCheck := true }
  blockEnv := { env.blockEnv with gasLimit := 30000000, basefee := 0 }

/-- The call runs in its own environment and leaves the machine as it was. -/
theorem transactSystemCall_eq (revm : Revm) (evm : KasplexEvmWrapper)
    (caller contract : Address) (data : Bytes) :
    evm.transactSystemCall revm caller contract data =
      ((transact revm (callEnv evm.evmEnv) (systemTx caller contract data) evm.db).map fun r =>
        { r with state := fun a => if a = contract then r.state a else none }, evm) := rfl

/-- Only the contract is left in the changes. -/
theorem transactSystemCall_state {revm : Revm} {evm : KasplexEvmWrapper}
    {caller contract : Address} {data : Bytes} {out : ResultAndState}
    (ok : (evm.transactSystemCall revm caller contract data).1 = .ok out) :
    ∃ full, transact revm (callEnv evm.evmEnv) (systemTx caller contract data) evm.db = .ok full ∧
      out.state contract = full.state contract ∧ ∀ a, a ≠ contract → out.state a = none := by
  rw [transactSystemCall_eq] at ok
  obtain ⟨full, hfull, rfl⟩ := map_eq_ok ok
  exact ⟨full, hfull, if_pos rfl, fun a ha => if_neg ha⟩

section Free

variable {revm : Revm} {env : EvmEnv} {caller contract : Address} {data : Bytes}
  {j j' : Journal} {gas : Gas}

theorem balanceIncr_zero {a : Address} (h : j.balanceIncr a 0#256 = .ok j') :
    j'.balances = j.balances := by
  have hfits : j.balances a + (0#256).toNat < 2 ^ 256 := (j.account a).balance.isLt
  rw [Journal.balanceIncr_balances h hfits]
  exact Function.update_eq_self a j.balances

/-- The charge takes nothing from the caller. -/
theorem deductCaller_free
    (h : validateAgainstStateAndDeductCaller revm (callEnv env) (systemTx caller contract data) j =
      .ok j') : j'.balances = j.balances := by
  obtain ⟨-, hbalances⟩ := deductCaller_balances h
  rw [hbalances]
  exact Function.update_eq_self _ _

theorem saturatingMul_zero {w : Nat} (x : BitVec w) : saturatingMul 0#w x = 0#w := by
  apply BitVec.eq_of_toNat_eq
  simp

/-- Nothing is paid back. -/
theorem reimburseCaller_free
    (h : reimburseCaller (callEnv env) (systemTx caller contract data) gas 0#256 j = .ok j') :
    j'.balances = j.balances := by
  have hamount : (saturatingMul (effectiveGasPrice (callEnv env) (systemTx caller contract data))
      ((totalToRefund gas).setWidth 128)).setWidth 256 + 0#256 = 0#256 := by
    change (saturatingMul 0#128 _).setWidth 256 + 0#256 = 0#256
    rw [saturatingMul_zero]
    rfl
  have hcredit : j.balanceIncr caller
      ((saturatingMul (effectiveGasPrice (callEnv env) (systemTx caller contract data))
        ((totalToRefund gas).setWidth 128)).setWidth 256 + 0#256) = .ok j' := h
  rw [hamount] at hcredit
  exact balanceIncr_zero hcredit

/-- Neither the beneficiary nor the treasury is credited with anything. -/
theorem rewardBeneficiary_free
    (h : rewardBeneficiary (callEnv env) (systemTx caller contract data) gas j = .ok j') :
    j'.balances = j.balances := by
  have htip : tipAmount (callEnv env) (systemTx caller contract data) gas = 0#128 := by
    change 0#128 * _ = 0#128
    exact BitVec.zero_mul
  have hbase : totalBaseFee (callEnv env) gas = 0#256 := by
    change (saturatingMul 0#128 _).setWidth 256 = 0#256
    rw [saturatingMul_zero]
    rfl
  obtain ⟨k, hbeneficiary, htreasury⟩ := bind_eq_ok h
  rw [htip] at hbeneficiary
  rw [hbase] at htreasury
  exact (balanceIncr_zero htreasury).trans (balanceIncr_zero hbeneficiary)

end Free

/-- A system call gives back the environment it found, whatever happens in it;
when it succeeds, committing its changes touches no account but the contract,
and none of the three fee phases has moved a balance, also not the contract's
own. -/
theorem system_call_leaves_no_residue (revm : Revm) (evm : KasplexEvmWrapper)
    (caller contract : Address) (data : Bytes) (distinct : contract ≠ caller) :
    (evm.transactSystemCall revm caller contract data).2.evmEnv = evm.evmEnv ∧
      ∀ out, (evm.transactSystemCall revm caller contract data).1 = .ok out →
        (∀ a, a ≠ contract → out.state a = none) ∧
        (∀ a, a ≠ contract → (evm.db.commit out.state).account a = evm.db.account a) ∧
        (evm.db.commit out.state).account caller = evm.db.account caller ∧
        ∃ charged frame executed reimbursed rewarded,
          validateAgainstStateAndDeductCaller revm (callEnv evm.evmEnv)
            (systemTx caller contract data) (Journal.new evm.db) = .ok charged ∧
          revm.execution (callEnv evm.evmEnv) (systemTx caller contract data) charged =
            .ok (frame, executed) ∧
          reimburseCaller (callEnv evm.evmEnv) (systemTx caller contract data) frame.gas 0#256
            executed = .ok reimbursed ∧
          rewardBeneficiary (callEnv evm.evmEnv) (systemTx caller contract data) frame.gas
            reimbursed = .ok rewarded ∧
          charged.balances = (Journal.new evm.db).balances ∧
          reimbursed.balances = executed.balances ∧
          rewarded.balances = reimbursed.balances ∧
          out.state contract = rewarded.state contract := by
  refine ⟨rfl, ?_⟩
  intro out ok
  obtain ⟨full, hfull, hcontract, hothers⟩ := transactSystemCall_state ok
  obtain ⟨charged, frame, executed, reimbursed, rewarded, -, hcharge, hrun, hback, hreward,
    rfl⟩ := transact_eq_ok hfull
  have hframe : ∀ a, a ≠ contract → (evm.db.commit out.state).account a = evm.db.account a := by
    intro a ha
    change (out.state a).getD (evm.db.account a) = evm.db.account a
    rw [hothers a ha]
    rfl
  exact ⟨hothers, hframe, hframe caller distinct.symm, charged, frame, executed, reimbursed,
    rewarded, hcharge, hrun, hback, hreward, deductCaller_free hcharge,
    reimburseCaller_free hback, rewardBeneficiary_free hreward, hcontract⟩

/-- The account system calls are made from. -/
def systemAddress : Address := 0xfffffffffffffffffffffffffffffffffffffffe#160

/-- A call to the beneficiary of the block on mainnet. -/
theorem system_call_leaves_no_residue_beneficiary :
    let evm : KasplexEvmWrapper := ⟨mainnetEnv, oneHolder 0x2#160 1⟩
    ∃ out, (evm.transactSystemCall transferEvm systemAddress 0x2#160 []).1 = .ok out ∧
      (evm.transactSystemCall transferEvm systemAddress 0x2#160 []).2.evmEnv = mainnetEnv ∧
      (evm.db.commit out.state).account systemAddress = evm.db.account systemAddress := by
  intro evm
  obtain ⟨out, ok⟩ := exists_of_isOk (show (evm.transactSystemCall transferEvm systemAddress
    0x2#160 []).1.isOk = true by decide +kernel)
  have h := system_call_leaves_no_residue transferEvm evm systemAddress 0x2#160 [] (by decide)
  exact ⟨out, ok, h.1, (h.2 out ok).2.2.1⟩

end SystemCalls
