import Kasplex.PayloadBuilder
import Kasplex.EngineTypes

/-!
# Blocks frozen by a build that runs alone

Three results about the block a build freezes: what its gas adds up to against
the gas limit, how its fees are split, and that replaying its transactions under
the environments derived from the header or the payload repeats the build.
-/

namespace BuiltBlocks

open Primitives MachineArith EvmState ChainSpec FeeHandler BlockExecutor EvmConfig
  PayloadAttributes SubmissionNumbers EngineTypes PayloadBuilder
open KasplexBlockExecutor (executeAll offer)

section GasLimit

theorem offers_evmEnv {transact : Transact} (ex : KasplexBlockExecutor) (txs : List Recovered) :
    (Runs.run (offer transact) ex txs).evmEnv = ex.evmEnv := by
  induction txs generalizing ex with
  | nil => rfl
  | cons tx txs ih => rw [Runs.run_cons, ih, offer_evmEnv]

/-- When every transaction, at its turn, fits in the gas left or is larger than
the block, the executor's gas stays within the block's limit, whatever does not
fit is refused without a trace, and a frozen block keeps the limit of its own
header. -/
theorem block_gas_within_limit (transact : Transact) (gas : GasDiscipline transact) :
    (∀ (ex : KasplexBlockExecutor) (txs : List Recovered), ex.gasUsed = 0 →
      Runs.Meets (offer transact) FitsOrOversized ex txs →
      (∀ ex', Runs.Reached (offer transact) ex txs ex' →
        ex'.gasUsed.toNat ≤ ex.evmEnv.blockEnv.gasLimit.toNat) ∧
      (∀ before tx after, txs = before ++ tx :: after →
        let ex' := Runs.run (offer transact) ex before
        ex.evmEnv.blockEnv.gasLimit.toNat - ex'.gasUsed.toNat < tx.tx.gasLimit.toNat →
        (∃ err, ex'.executeTransactionWithoutCommit transact tx = .error err) ∧
          ex'.offer transact tx = ex')) ∧
    (∀ (backend : Backend) (config : KasplexEvmConfig) (mapping mapping' : TxMapping)
      (args : BuildArguments) (payload : EthBuiltPayload), backend.transact = transact →
      (∀ db baseFee pre, backend.stateByBlockHash args.parentHeader.hash = .ok db →
        baseFee.toNat = args.attributes.baseFeePerGas.toNat →
        (KasplexBlockExecutor.new (buildEnv backend config.chainSpec args baseFee) db
          (buildCtx args) config.chainSpec).applyPreExecutionChanges backend.system = .ok pre →
        Runs.Meets (offer transact) FitsOrOversized pre args.attributes.transactions) →
      (kasplexPayload backend config mapping args).1 = .ok (.freeze payload, mapping') →
      payload.block.block.header.gasUsed.toNat ≤ payload.block.block.header.gasLimit.toNat) := by
  constructor
  · intro ex txs fresh meets
    have within : ex.gasUsed.toNat ≤ ex.evmEnv.blockEnv.gasLimit.toNat := by
      rw [fresh]
      exact Nat.zero_le _
    refine ⟨fun ex' reached => offers_gasUsed_le gas within meets reached, ?_⟩
    rintro before tx after rfl ex' exceeds
    have henv : ex'.evmEnv = ex.evmEnv := offers_evmEnv ex before
    have hused : ex'.gasUsed.toNat ≤ ex.evmEnv.blockEnv.gasLimit.toNat :=
      offers_gasUsed_le gas within meets ⟨before, tx :: after, rfl, rfl⟩
    have cond : FitsOrOversized ex' tx := (Runs.meets_append.mp meets).2.1
    apply oversized_refused gas ex' tx
    unfold FitsOrOversized at cond
    rw [henv] at cond ⊢
    rcases cond with fits | oversized
    · omega
    · exact oversized
  · rintro backend config mapping mapping' args payload rfl fitting frozen
    obtain ⟨db, baseFee, pre, last, included, outputs, outcome, f, rfl, -⟩ :=
      kasplexPayload_freeze frozen
    obtain ⟨henv, -, -, hgas⟩ := f.pre_eq
    obtain ⟨-, hheader, hlimit, -⟩ := f.block_eq
    have hused := offers_gasUsed_le gas (by rw [hgas]; exact Nat.zero_le _)
      (fitting db baseFee pre f.state f.fee f.prepared)
      (Runs.reached_run _ _ _)
    rw [← f.loop.offered, henv] at hused
    change outcome.block.sealedBlock.block.header.gasUsed.toNat ≤
      outcome.block.sealedBlock.block.header.gasLimit.toNat
    rw [hheader, hlimit]
    exact hused

/-- Transfers keep the gas discipline. -/
theorem transferEvm_gasDiscipline : GasDiscipline (transact transferEvm) :=
  transact_gasDiscipline transferEvm transferEvm_refuses transferEvm_metered

/-- An executor on the sample state, in a block with the given gas limit. -/
def sampleExecutor (gasLimit : U64) : KasplexBlockExecutor :=
  let env := buildEnv sampleBackend kasplexMainnet (transferArgs gasLimit) kasplexBaseFee
  KasplexBlockExecutor.new env (oneHolder sampleSigner 1000000000000000000)
    (buildCtx (transferArgs gasLimit)) kasplexMainnet

def sampleTxs : List Recovered :=
  [⟨transfer0, sampleSigner⟩, ⟨transfer5, sampleSigner⟩, ⟨transfer1, sampleSigner⟩]

/-- Three transfers of 30000 gas in a block of thirty million. -/
theorem block_gas_within_limit_transfers :
    Runs.Meets (offer (transact transferEvm)) FitsOrOversized (sampleExecutor 30000000)
      sampleTxs ∧
    (Runs.run (offer (transact transferEvm)) (sampleExecutor 30000000) sampleTxs).gasUsed.toNat ≤
      (sampleExecutor 30000000).evmEnv.blockEnv.gasLimit.toNat := by
  have meets : Runs.Meets (offer (transact transferEvm)) FitsOrOversized
      (sampleExecutor 30000000) sampleTxs := by decide +kernel
  have fresh : (sampleExecutor 30000000).gasUsed = 0 := by
    rw [sampleExecutor]
    rfl
  have within := block_gas_within_limit (transact transferEvm) transferEvm_gasDiscipline
  exact ⟨meets, (within.1 _ sampleTxs fresh meets).1 _ (Runs.reached_run _ _ _)⟩

/-- Two transfers of 30000 gas, in a block of 30000: the second one does not fit
in the 9000 left, is accepted all the same, and the block is frozen with 42000
gas used. -/
theorem block_gas_exceeds_limit :
    let ex := (sampleExecutor 30000).offer (transact transferEvm) ⟨transfer0, sampleSigner⟩
    GasDiscipline (transact transferEvm) ∧
    (ex.evmEnv.blockEnv.gasLimit.toNat - ex.gasUsed.toNat < transfer1.gasLimit.toNat ∧
      (ex.executeTransactionWithoutCommit (transact transferEvm)
        ⟨transfer1, sampleSigner⟩).isOk = true ∧
      ex.evmEnv.blockEnv.gasLimit.toNat <
        (ex.offer (transact transferEvm) ⟨transfer1, sampleSigner⟩).gasUsed.toNat) ∧
    ∃ payload mapping,
      (kasplexPayload sampleBackend sampleConfig TxMapping.empty (transferArgs 30000)).1 =
        .ok (.freeze payload, mapping) ∧
      payload.block.block.header.gasLimit.toNat < payload.block.block.header.gasUsed.toNat := by
  refine ⟨transferEvm_gasDiscipline, by decide +kernel, ?_⟩
  obtain ⟨payload, mapping, hbuild, hgas⟩ := exists_freeze
    (P := fun p => decide (p.block.block.header.gasLimit.toNat <
      p.block.block.header.gasUsed.toNat))
    (r := (kasplexPayload sampleBackend sampleConfig TxMapping.empty (transferArgs 30000)).1)
    (by decide +kernel)
  exact ⟨payload, mapping, hbuild, of_decide_eq_true hgas⟩

end GasLimit

section Fees

/-- The builder's tip and the handler's: whatever the type of the transaction,
both are the price above the base fee. -/
theorem effectiveTipPerGas_eq {tx : Recovered} {env : EvmEnv} {tip : U128}
    (h : tx.tx.effectiveTipPerGas env.blockEnv.basefee = some tip) :
    env.blockEnv.basefee.toNat ≤ (effectiveGasPrice env (TxEnv.fromRecoveredTx tx)).toNat ∧
      (effectiveGasPrice env (TxEnv.fromRecoveredTx tx)).toNat - env.blockEnv.basefee.toNat =
        tip.toNat := by
  have hbase : (env.blockEnv.basefee.setWidth 128).toNat = env.blockEnv.basefee.toNat :=
    toNat_setWidth_of_le (by decide) _
  by_cases hlow : tx.tx.fees.maxFeePerGas < env.blockEnv.basefee.setWidth 128
  · simp only [TransactionSigned.effectiveTipPerGas, if_pos hlow] at h
    cases h
  · have hcovers : env.blockEnv.basefee.toNat ≤ tx.tx.fees.maxFeePerGas.toNat := by
      have := BitVec.lt_def.not.mp hlow
      omega
    have hfee : (tx.tx.fees.maxFeePerGas - env.blockEnv.basefee.setWidth 128).toNat =
        tx.tx.fees.maxFeePerGas.toNat - env.blockEnv.basefee.toNat := by
      rw [toNat_sub_of_le (by omega), hbase]
    have hmax := tx.tx.fees.maxFeePerGas.isLt
    simp only [TransactionSigned.effectiveTipPerGas, if_neg hlow] at h
    unfold effectiveGasPrice
    cases hp : tx.tx.fees.maxPriorityFeePerGas with
    | none =>
      simp only [hp, Option.some.injEq] at h
      rw [← h, effectiveGasPrice_of_none _ hp]
      exact ⟨hcovers, hfee.symm⟩
    | some priority =>
      simp only [hp, Option.some.injEq] at h
      rw [← h, effectiveGasPrice_of_some _ (fromRecoveredTx_isFlat hp) hp, toNat_ite_le, hfee,
        hbase]
      change env.blockEnv.basefee.toNat ≤ min tx.tx.fees.maxFeePerGas.toNat _ ∧
        min tx.tx.fees.maxFeePerGas.toNat _ - env.blockEnv.basefee.toNat = _
      omega

/-- What one accepted transaction pays, in terms of the gas it reports. -/
theorem transact_fees {revm : Revm} (metered : revm.Metered) {env : EvmEnv} {tx : TxEnv}
    {db : Database} {output : ResultAndState} (h : transact revm env tx db = .ok output) :
    (tipAmount env tx output.gas).toNat =
        ((effectiveGasPrice env tx).toNat - env.blockEnv.basefee.toNat) *
          output.result.gasUsed.toNat ∧
      (totalBaseFee env output.gas).toNat =
        env.blockEnv.basefee.toNat * output.result.gasUsed.toNat := by
  obtain ⟨charged, frame, executed, _, _, hv, hc, hx, -, -, rfl⟩ := transact_eq_ok h
  have wf := metered env tx charged frame executed hv hx
  have hused := toNat_saturatingSub frame.gas.spent frame.gas.refunded
  have htip := tipAmount_toNat env wf (deductCaller_balances hc).1
  have hbase := totalBaseFee_toNat env frame.gas
  rw [← hused] at htip hbase
  exact ⟨htip, hbase⟩

/-- The tips credited over a block, by the handler's formula. -/
def tipsCredited (env : EvmEnv) (pairs : List (Recovered × ResultAndState)) : Nat :=
  (pairs.map fun p => (tipAmount env (TxEnv.fromRecoveredTx p.1) p.2.gas).toNat).sum

/-- The base fees credited over a block. -/
def baseFeesCredited (env : EvmEnv) (outputs : List ResultAndState) : Nat :=
  (outputs.map fun output => (totalBaseFee env output.gas).toNat).sum

/-- The builder's 256-bit sum of 128-bit tips does not wrap as long as the gas
fits 64 bits. -/
theorem tipFees_toNat (baseFee : U64) (pairs : List (Recovered × ResultAndState))
    (fits : gasTotal (pairs.map Prod.snd) < 2 ^ 64) :
    (tipFees baseFee pairs).toNat =
      (pairs.map fun p => ((p.1.tx.effectiveTipPerGas baseFee).getD 0).toNat *
        p.2.result.gasUsed.toNat).sum ∧
    (tipFees baseFee pairs).toNat ≤ 2 ^ 128 * gasTotal (pairs.map Prod.snd) := by
  induction pairs with
  | nil => simp [tipFees, gasTotal]
  | cons p rest ih =>
    obtain ⟨tx, output⟩ := p
    simp only [gasTotal, List.map_cons, List.sum_cons] at fits ih ⊢
    obtain ⟨hsum, hbound⟩ := ih (by omega)
    generalize htip : (tx.tx.effectiveTipPerGas baseFee).getD 0 = tip
    have hpaid : tip.toNat * output.result.gasUsed.toNat ≤
        2 ^ 128 * output.result.gasUsed.toNat := Nat.mul_le_mul_right _ tip.isLt.le
    have hproduct : (tip.setWidth 256 * output.result.gasUsed.setWidth 256).toNat =
        tip.toNat * output.result.gasUsed.toNat := by
      have hgas := output.result.gasUsed.isLt
      rw [toNat_mul_of_lt, toNat_setWidth_of_le (by decide), toNat_setWidth_of_le (by decide)]
      rw [toNat_setWidth_of_le (by decide), toNat_setWidth_of_le (by decide)]
      omega
    have hadd : (tip.setWidth 256 * output.result.gasUsed.setWidth 256 +
        tipFees baseFee rest).toNat = tip.toNat * output.result.gasUsed.toNat +
          (tipFees baseFee rest).toNat := by
      rw [toNat_add_of_lt, hproduct]
      rw [hproduct]
      omega
    simp only [tipFees, htip]
    rw [hadd]
    exact ⟨by rw [hsum], by omega⟩

section Credits

variable {revm : Revm} {env : EvmEnv} {pairs : List (Recovered × ResultAndState)}
  (metered : revm.Metered)
  (accepted : ∀ p ∈ pairs, ∃ db, transact revm env (TxEnv.fromRecoveredTx p.1) db = .ok p.2)
include metered accepted

theorem baseFeesCredited_eq :
    baseFeesCredited env (pairs.map Prod.snd) =
      env.blockEnv.basefee.toNat * gasTotal (pairs.map Prod.snd) := by
  unfold baseFeesCredited gasTotal
  rw [← List.sum_map_mul_left, List.map_map, List.map_map]
  congr 1
  apply List.map_congr_left
  intro p hp
  obtain ⟨db, h⟩ := accepted p hp
  exact (transact_fees metered h).2

theorem tipsCredited_eq
    (tips : ∀ p ∈ pairs, (p.1.tx.effectiveTipPerGas env.blockEnv.basefee).isSome) :
    tipsCredited env pairs =
      (pairs.map fun p => ((p.1.tx.effectiveTipPerGas env.blockEnv.basefee).getD 0).toNat *
        p.2.result.gasUsed.toNat).sum := by
  unfold tipsCredited
  congr 1
  apply List.map_congr_left
  intro p hp
  obtain ⟨db, h⟩ := accepted p hp
  obtain ⟨tip, htip⟩ := Option.isSome_iff_exists.mp (tips p hp)
  rw [(transact_fees metered h).1, (effectiveTipPerGas_eq htip).2, htip]
  rfl

end Credits

/-- The rewards an accepted transaction ended with. -/
theorem transact_rewards {revm : Revm} {env : EvmEnv} {tx : TxEnv} {db : Database}
    {output : ResultAndState} (h : transact revm env tx db = .ok output) :
    ∃ j j', rewardBeneficiary env tx output.gas j = .ok j' ∧ output.state = j'.state ∧
      (Ledger.total j.balances + (tipAmount env tx output.gas).toNat +
          (totalBaseFee env output.gas).toNat < 2 ^ 256 →
        j'.balances = Ledger.credit
          (Ledger.credit j.balances env.blockEnv.beneficiary (tipAmount env tx output.gas).toNat)
          (getTreasuryAddress env.cfgEnv.chainId) (totalBaseFee env output.gas).toNat) := by
  obtain ⟨_, frame, _, reimbursed, rewarded, -, -, -, -, hw, rfl⟩ := transact_eq_ok h
  exact ⟨reimbursed, rewarded, hw, rfl, rewardBeneficiary_credits hw⟩

/-- Fees of a frozen block. The gas in its header and receipts adds up the gas
of the transactions taken; the rewards of these transactions add up to the base
fee times that gas for the treasury, and for the beneficiary to the fees stored
beside the block. -/
theorem block_fee_accounting (revm : Revm) (metered : revm.Metered) (backend : Backend)
    (handler : backend.transact = transact revm) (config : KasplexEvmConfig)
    (mapping mapping' : TxMapping) (args : BuildArguments) (payload : EthBuiltPayload)
    (frozen : (kasplexPayload backend config mapping args).1 =
      .ok (.freeze payload, mapping')) :
    ∃ db baseFee pre last included outputs outcome,
      Frozen backend config.chainSpec mapping args db baseFee pre last included outputs outcome ∧
      payload.block = outcome.block.sealedBlock ∧
      payload.block.block.body.transactions = included.map Recovered.tx ∧
      (∀ p ∈ included.zip outputs, ∃ j j',
        rewardBeneficiary pre.evmEnv (TxEnv.fromRecoveredTx p.1) p.2.gas j = .ok j' ∧
        p.2.state = j'.state ∧
        (Ledger.total j.balances +
            (tipAmount pre.evmEnv (TxEnv.fromRecoveredTx p.1) p.2.gas).toNat +
            (totalBaseFee pre.evmEnv p.2.gas).toNat < 2 ^ 256 →
          j'.balances = Ledger.credit
            (Ledger.credit j.balances pre.evmEnv.blockEnv.beneficiary
              (tipAmount pre.evmEnv (TxEnv.fromRecoveredTx p.1) p.2.gas).toNat)
            (getTreasuryAddress pre.evmEnv.cfgEnv.chainId)
            (totalBaseFee pre.evmEnv p.2.gas).toNat)) ∧
      (gasTotal outputs < 2 ^ 64 →
        payload.block.block.header.gasUsed.toNat = gasTotal outputs ∧
        (∀ i, i < included.length →
          (outcome.executionResult.receipts[i]?).map (fun r => r.cumulativeGasUsed.toNat) =
            some (gasTotal (outputs.take (i + 1)))) ∧
        (∃ fee, payload.block.block.header.baseFeePerGas = some fee ∧
          baseFeesCredited pre.evmEnv outputs =
            fee.toNat * payload.block.block.header.gasUsed.toNat) ∧
        tipsCredited pre.evmEnv (included.zip outputs) = payload.fees.toNat) := by
  obtain ⟨db, baseFee, pre, last, included, outputs, outcome, f, rfl, -⟩ :=
    kasplexPayload_freeze frozen
  obtain ⟨henv, -, hreceipts, hgas⟩ := f.pre_eq
  obtain ⟨-, -, hresult, -, -, -⟩ := f.outcome_eq
  obtain ⟨hbody, hgasUsed, -, hbaseFee⟩ := f.block_eq
  have hexec : executeAll backend.transact pre included = .ok (outputs, last.builder.executor) :=
    f.loop.executed
  have heach := executeAll_each hexec
  rw [handler] at heach
  have hfee : pre.evmEnv.blockEnv.basefee = baseFee := by rw [henv]; rfl
  have hlen := executeAll_length hexec
  have hsnd : (included.zip outputs).map Prod.snd = outputs :=
    List.map_snd_zip (by omega)
  refine ⟨db, baseFee, pre, last, included, outputs, outcome, f, rfl, hbody, ?_, ?_⟩
  · intro p hp
    obtain ⟨db', hp⟩ := heach p hp
    exact transact_rewards hp
  · intro fits
    have hzero : pre.gasUsed.toNat = 0 := by rw [hgas]; rfl
    have hused := executeAll_gasUsed hexec (by omega)
    have hcumulative := executeAll_receipts hexec (by omega)
    have hheader : outcome.block.sealedBlock.block.header.gasUsed.toNat = gasTotal outputs := by
      rw [hgasUsed]
      omega
    refine ⟨hheader, ?_, ⟨baseFee, hbaseFee, ?_⟩, ?_⟩
    · intro i hi
      have hrow := congrArg (fun l : List Nat => l[i]?) hcumulative
      rw [hresult]
      change (last.builder.executor.receipts[i]?).map _ = _
      simpa [hreceipts, hzero, hlen, hi] using hrow
    · have hcredited := baseFeesCredited_eq metered heach
      rw [hsnd, hfee] at hcredited
      change _ = baseFee.toNat * outcome.block.sealedBlock.block.header.gasUsed.toNat
      rw [hheader, hcredited]
    · have htips : ∀ p ∈ included.zip outputs,
          (p.1.tx.effectiveTipPerGas pre.evmEnv.blockEnv.basefee).isSome := by
        intro p hp
        rw [hfee]
        exact f.loop.tips p.1 (List.of_mem_zip hp).1
      have htotal : last.totalFees = tipFees baseFee (included.zip outputs) :=
        f.loop.fees.trans (BitVec.zero_add _)
      rw [tipsCredited_eq metered heach htips, hfee]
      change _ = last.totalFees.toNat
      rw [htotal, (tipFees_toNat baseFee _ (by rw [hsnd]; exact fits)).1]

/-- Gas below a bound on the limits of the transactions taken. -/
theorem gasTotal_le {transact : Transact} (gas : GasDiscipline transact)
    {ex ex' : KasplexBlockExecutor} {txs : List Recovered} {outputs : List ResultAndState}
    (executed : executeAll transact ex txs = .ok (outputs, ex')) {limit : Nat}
    (limited : ∀ tx ∈ txs, tx.tx.gasLimit.toNat ≤ limit) :
    gasTotal outputs ≤ txs.length * limit := by
  have hlen := executeAll_length executed
  have hsnd : (txs.zip outputs).map Prod.snd = outputs := List.map_snd_zip (by omega)
  have heach : ∀ g ∈ outputs.map (fun output => output.result.gasUsed.toNat), g ≤ limit := by
    intro g hg
    obtain ⟨output, houtput, rfl⟩ := List.mem_map.mp hg
    rw [← hsnd] at houtput
    obtain ⟨p, hp, rfl⟩ := List.mem_map.mp houtput
    obtain ⟨db, hok⟩ := executeAll_each executed p hp
    have hbound := BitVec.le_def.mp (gas.bounded _ _ _ _ hok)
    exact hbound.trans (limited p.1 (List.of_mem_zip hp).1)
  have hsum := List.sum_le_card_nsmul _ limit heach
  rw [List.length_map, hlen] at hsum
  exact hsum

/-- The accounting of the sample block: two of three transfers taken. -/
theorem block_fee_accounting_transfers :
    ∃ payload mapping',
      (kasplexPayload sampleBackend sampleConfig TxMapping.empty (transferArgs 30000000)).1 =
        .ok (.freeze payload, mapping') ∧
      payload.fees = 84000000000000000 ∧
      ∃ db baseFee pre last included outputs outcome,
        Frozen sampleBackend sampleConfig.chainSpec TxMapping.empty (transferArgs 30000000) db
          baseFee pre last included outputs outcome ∧
        payload.block.block.header.gasUsed.toNat = gasTotal outputs ∧
        tipsCredited pre.evmEnv (included.zip outputs) = payload.fees.toNat := by
  obtain ⟨payload, mapping', frozen, hfees⟩ := exists_freeze
    (P := fun p => decide (p.fees = 84000000000000000))
    (r := (kasplexPayload sampleBackend sampleConfig TxMapping.empty (transferArgs 30000000)).1)
    (by decide +kernel)
  obtain ⟨db, baseFee, pre, last, included, outputs, outcome, f, -, -, -, accounting⟩ :=
    block_fee_accounting transferEvm transferEvm_metered sampleBackend rfl sampleConfig
      TxMapping.empty mapping' (transferArgs 30000000) payload frozen
  have hthree : (transferArgs 30000000).attributes.transactions.length = 3 ∧
      ∀ tx ∈ (transferArgs 30000000).attributes.transactions, tx.tx.gasLimit.toNat ≤ 30000 := by
    decide +kernel
  have hincluded := f.loop.sublist.length_le
  have hgasTotal := gasTotal_le transferEvm_gasDiscipline f.loop.executed
    (fun tx ht => hthree.2 tx (f.loop.sublist.subset ht))
  obtain ⟨hgas, -, -, htips⟩ := accounting (by omega)
  exact ⟨payload, mapping', frozen, of_decide_eq_true hfees, db, baseFee, pre, last, included,
    outputs, outcome, f, hgas, htips⟩

end Fees

section Replay

/-- Execute a block's transactions on a state, none skipped. -/
def executeBlock (backend : Backend) (spec : KasplexChainSpec) (evmEnv : EvmEnv)
    (ctx : KasplexBlockExecutionCtx) (db : Database) (txs : List Recovered) :
    Except (Fault BlockExecutionError) (BlockExecutionResult × Database) := do
  let executor ← (KasplexBlockExecutor.new evmEnv db ctx spec).applyPreExecutionChanges
    backend.system
  let (_, executor) ← (executeAll backend.transact executor txs).mapError .error
  pure (executor.finish, executor.db)

/-- The pre-execution changes read the parent hash and the beacon root of the
context, nothing else. -/
theorem applyPreExecutionChanges_withCtx {system : SystemCaller} {ex pre : KasplexBlockExecutor}
    (h : ex.applyPreExecutionChanges system = .ok pre) (ctx : KasplexBlockExecutionCtx)
    (parent : ctx.parentHash = ex.ctx.parentHash)
    (root : ctx.parentBeaconBlockRoot = ex.ctx.parentBeaconBlockRoot) :
    ({ ex with ctx } : KasplexBlockExecutor).applyPreExecutionChanges system =
      .ok { pre with ctx } := by
  obtain ⟨number, hnumber, h⟩ := bind_eq_ok h
  obtain ⟨db₁, h₁, h⟩ := bind_eq_ok h
  obtain ⟨db₂, h₂, h⟩ := bind_eq_ok h
  cases h
  simp only [KasplexBlockExecutor.applyPreExecutionChanges, parent, root, hnumber, bind,
    Except.bind, h₁, h₂, pure, Except.pure]

section FrozenReplay

variable {backend : Backend} {spec : KasplexChainSpec} {mapping : TxMapping}
  {args : BuildArguments} {db : Database} {baseFee : U64} {pre : KasplexBlockExecutor}
  {last : LoopState} {included : List Recovered} {outputs : List ResultAndState}
  {outcome : BlockBuilderOutcome}

/-- In the environment of the build, a context with the same parent replays the
block to the outcome of the build. -/
theorem executeBlock_frozen
    (f : Frozen backend spec mapping args db baseFee pre last included outputs outcome)
    (ctx : KasplexBlockExecutionCtx) (parent : ctx.parentHash = args.parentHeader.hash)
    (root : ctx.parentBeaconBlockRoot = none) :
    executeBlock backend spec (buildEnv backend spec args baseFee) ctx db included =
      .ok (outcome.executionResult, outcome.postState) := by
  obtain ⟨block, -, hresult, hpost, -, -⟩ := f.outcome_eq
  have hpre := applyPreExecutionChanges_withCtx f.prepared ctx parent root
  have hexec := executeAll_withCtx ctx f.loop.executed
  simp only [KasplexBlockExecutor.new] at hpre
  simp only [executeBlock, KasplexBlockExecutor.new, hpre, bind, Except.bind, hexec,
    Except.mapError, pure, Except.pure, hresult, hpost]
  rfl

end FrozenReplay

section Environments

variable {backend : Backend} {spec : KasplexChainSpec} {cfgAt : U64 → U64 → CfgEnv}
  {nextBaseFee : Header → NextBlockEnvAttributes → U64} {args : BuildArguments} {baseFee : U64}
  {txs : List TransactionSigned} {result : BlockExecutionResult} {stateRoot : B256} {block : Block}

/-- The header of a built block in terms of the request. -/
theorem builtHeader_eq (fills : backend.eth.FillsFields spec cfgAt nextBaseFee)
    (h : assembleBlock backend.alloy (buildEnv backend spec args baseFee) (buildCtx args) txs
      result stateRoot = .ok block) :
    block.header.number = args.parentHeader.header.number + 1 ∧
      block.header.timestamp = args.attributes.timestamp ∧
      block.header.beneficiary = args.attributes.beneficiary ∧
      block.header.gasLimit = args.attributes.gasLimit ∧
      block.header.mixHash = args.attributes.mixHash ∧
      block.header.baseFeePerGas = some baseFee ∧
      block.header.difficulty = 0 := by
  obtain ⟨htime, hnumber, hb⟩ := assembleBlock_eq_ok h
  have henv : buildEnv backend spec args baseFee = {
      cfgEnv := cfgAt args.attributes.timestamp (args.parentHeader.header.number + 1)
      blockEnv := {
        number := (args.parentHeader.header.number + 1).setWidth 256
        beneficiary := args.attributes.beneficiary
        timestamp := args.attributes.timestamp.setWidth 256
        gasLimit := args.attributes.gasLimit
        basefee := baseFee
        difficulty := 0
        prevrandao := some args.attributes.mixHash } } := by
    simp only [buildEnv, fills.nextEvmEnv]
    rfl
  rw [henv] at htime hnumber hb
  simp only [toNat_setWidth_of_le (show 64 ≤ 256 by decide)] at htime hnumber
  exact ⟨BitVec.eq_of_toNat_eq hnumber, BitVec.eq_of_toNat_eq htime, by rw [hb], by rw [hb],
    by rw [hb]; rfl, by rw [hb], by rw [hb]⟩

/-- The environment derived from the header of a built block is the one it was
built in. -/
theorem evmEnv_builtHeader (fills : backend.eth.FillsFields spec cfgAt nextBaseFee)
    (h : assembleBlock backend.alloy (buildEnv backend spec args baseFee) (buildCtx args) txs
      result stateRoot = .ok block) :
    backend.eth.evmEnv spec block.header = buildEnv backend spec args baseFee := by
  obtain ⟨hnumber, htime, hben, hlimit, hmix, hfee, -⟩ := builtHeader_eq fills h
  simp only [fills.evmEnv, hnumber, htime, hben, hlimit, hmix, hfee, buildEnv, fills.nextEvmEnv,
    nextBlockEnvAttributes, Option.getD_some]

theorem evmEnvForPayload_builtHeader (fills : backend.eth.FillsFields spec cfgAt nextBaseFee)
    (h : assembleBlock backend.alloy (buildEnv backend spec args baseFee) (buildCtx args) txs
      result stateRoot = .ok block) (blockHash : B256) :
    backend.eth.evmEnvForPayload spec
        ⟨.v1 (payloadFromBlock backend.alloy.encode2718 blockHash block), .none⟩ =
      buildEnv backend spec args baseFee := by
  obtain ⟨hnumber, htime, hben, hlimit, hmix, hfee, -⟩ := builtHeader_eq fills h
  have hcap : BitVec.ofNat 64 (min (baseFee.setWidth 256).toNat (2 ^ 64 - 1)) = baseFee := by
    have hlt := baseFee.isLt
    rw [toNat_setWidth_of_le (by decide), Nat.min_eq_left (by omega), BitVec.ofNat_toNat,
      BitVec.setWidth_eq]
  simp only [fills.evmEnvForPayload, ExecutionPayload.asV1, payloadFromBlock, hnumber, htime,
    hben, hlimit, hmix, hfee, hcap, buildEnv, fills.nextEvmEnv, nextBlockEnvAttributes,
    Option.getD_some]

end Environments

/-- Transactions with a working codec and a recoverable signer come back from
their encodings. -/
theorem txIteratorForPayload_encoded {alloy : Alloy} {p : ExecutionPayloadV1}
    {sidecar : ExecutionPayloadSidecar} {txs : List Recovered}
    (codec : ∀ r ∈ txs, alloy.decode2718Exact (alloy.encode2718 r.tx) = some r.tx)
    (signers : ∀ r ∈ txs, alloy.tryRecover r.tx = some r.signer)
    (encoded : p.transactions = (txs.map Recovered.tx).map alloy.encode2718) :
    KasplexEvmConfig.txIteratorForPayload alloy ⟨.v1 p, sidecar⟩ = some txs := by
  unfold KasplexEvmConfig.txIteratorForPayload
  simp only [ExecutionPayload.asV1, encoded]
  clear encoded
  induction txs with
  | nil => rfl
  | cons r txs ih =>
    have hr := codec r List.mem_cons_self
    have hs := signers r List.mem_cons_self
    have hrest := ih (fun t ht => codec t (List.mem_cons_of_mem _ ht))
      (fun t ht => signers t (List.mem_cons_of_mem _ ht))
    rw [List.map_cons, List.map_cons, List.mapM_cons, hrest]
    simp [hr, hs]

/-- Build and replay agree: the transactions of a frozen block, executed without
skipping under the environment and context of its payload, or of its header,
succeed with the receipts, the gas and the state of the build. -/
theorem build_and_replay_agree (backend : Backend) (config : KasplexEvmConfig)
    (cfgAt : U64 → U64 → CfgEnv) (nextBaseFee : Header → NextBlockEnvAttributes → U64)
    (fills : backend.eth.FillsFields config.chainSpec cfgAt nextBaseFee)
    (copies : backend.alloy.fromBlockUnchecked = payloadFromBlock backend.alloy.encode2718)
    (sha256 : Bytes → Vector UInt8 32) (request : KasplexPayloadAttributes) (version : UInt8)
    (mapping mapping' : TxMapping) (args : BuildArguments) (payload : EthBuiltPayload)
    (job : KasplexPayloadBuilderAttributes.tryNew backend.alloy sha256 args.parentHeader.hash
      request version = .ok args.attributes)
    (codec : ∀ r ∈ args.attributes.transactions,
      backend.alloy.decode2718Exact (backend.alloy.encode2718 r.tx) = some r.tx)
    (frozen : (kasplexPayload backend config mapping args).1 =
      .ok (.freeze payload, mapping')) :
    ∃ db baseFee pre last included outputs outcome,
      Frozen backend config.chainSpec mapping args db baseFee pre last included outputs outcome ∧
      payload.block = outcome.block.sealedBlock ∧
      outcome.block.recoveredTransactions = included ∧
      (let data := (blockToPayload backend.alloy mapping' payload.block).1
      ∃ ctx, (KasplexEvmConfig.contextForPayload data :
          Except (Fault BlockExecutionError) KasplexBlockExecutionCtx) = .ok ctx ∧
        KasplexEvmConfig.txIteratorForPayload backend.alloy data = some included ∧
        executeBlock backend config.chainSpec (config.evmEnvForPayload backend.eth data) ctx db
          included = .ok (outcome.executionResult, outcome.postState)) ∧
      executeBlock backend config.chainSpec
          (config.evmEnv backend.eth payload.block.block.header)
          (KasplexEvmConfig.contextForBlock payload.block) db included =
        .ok (outcome.executionResult, outcome.postState) := by
  obtain ⟨db, baseFee, pre, last, included, outputs, outcome, f, rfl, -⟩ :=
    kasplexPayload_freeze frozen
  obtain ⟨block, hsealed, -, -, hrecovered, stateRoot, hblock⟩ := f.outcome_eq
  obtain ⟨-, -, hb⟩ := assembleBlock_eq_ok hblock
  have hparent : block.header.parentHash = args.parentHeader.hash := by rw [hb]; rfl
  have hroot : block.header.parentBeaconBlockRoot = none := by rw [hb]; rfl
  have hfee : block.header.baseFeePerGas = some baseFee := by rw [hb]; rfl
  have hbody : block.body.transactions = included.map Recovered.tx := by rw [hb]
  refine ⟨db, baseFee, pre, last, included, outputs, outcome, f, rfl, hrecovered, ?_, ?_⟩
  · simp only [hsealed, blockToPayload, copies]
    have hnarrow : (narrowOrPanic 64 (baseFee.setWidth 256) :
        Except (Fault BlockExecutionError) U64) = .ok baseFee :=
      narrowOrPanic_eq_ok_iff.mpr (toNat_setWidth_of_le (by decide) _).symm
    refine ⟨⟨args.parentHeader.hash, none, [], none, baseFee, block.header.extraData⟩, ?_, ?_, ?_⟩
    · simp only [KasplexEvmConfig.contextForPayload, payloadFromBlock, Alloy.sealSlow, hfee,
        Option.getD_some, hnarrow, bind, Except.bind, pure, Except.pure, ExecutionPayload.asV1,
        hparent]
    · apply txIteratorForPayload_encoded
      · exact fun r hr => codec r (f.loop.sublist.subset hr)
      · intro r hr
        obtain ⟨-, -, hinputs⟩ := tryNew_eq_ok job
        have hlisted := congrArg
          KasplexPayloadBuilderAttributes.BuildInputs.transactions hinputs
        have hr := f.loop.sublist.subset hr
        change args.attributes.transactions = _ at hlisted
        rw [hlisted] at hr
        exact tryRecover_of_listed hr
      · simp only [payloadFromBlock, Alloy.sealSlow, hbody]
    · simp only [KasplexEvmConfig.evmEnvForPayload, Alloy.sealSlow,
        evmEnvForPayload_builtHeader fills hblock]
      exact executeBlock_frozen f _ rfl rfl
  · simp only [hsealed, Alloy.sealSlow, KasplexEvmConfig.evmEnv, evmEnv_builtHeader fills hblock]
    exact executeBlock_frozen f _ hparent hroot

/-- The sample block, built around a skipped transfer and replayed. -/
theorem build_and_replay_agree_transfers :
    ∃ payload mapping',
      (kasplexPayload sampleBackend sampleConfig TxMapping.empty (transferArgs 30000000)).1 =
        .ok (.freeze payload, mapping') ∧
      payload.block.block.header = sampleHeader ∧
      ∃ db baseFee pre last included outputs outcome,
        Frozen sampleBackend sampleConfig.chainSpec TxMapping.empty (transferArgs 30000000) db
          baseFee pre last included outputs outcome ∧
        executeBlock sampleBackend sampleConfig.chainSpec
          (sampleConfig.evmEnv sampleBackend.eth payload.block.block.header)
          (KasplexEvmConfig.contextForBlock payload.block) db included =
            .ok (outcome.executionResult, outcome.postState) := by
  obtain ⟨payload, mapping', frozen, hheader⟩ := exists_freeze
    (P := fun p => decide (p.block.block.header = sampleHeader))
    (r := (kasplexPayload sampleBackend sampleConfig TxMapping.empty (transferArgs 30000000)).1)
    (by decide +kernel)
  obtain ⟨db, baseFee, pre, last, included, outputs, outcome, f, -, -, -, hreplay⟩ :=
    build_and_replay_agree sampleBackend sampleConfig sampleCfg sampleNextBaseFee
      sampleEth_fillsFields rfl sampleSha256 (transferRequest 30000000) 2 TxMapping.empty mapping'
      (transferArgs 30000000) payload (tryNew_transferRequest 30000000) (by decide +kernel) frozen
  exact ⟨payload, mapping', frozen, of_decide_eq_true hheader, db, baseFee, pre, last, included,
    outputs, outcome, f, hreplay⟩

end Replay

end BuiltBlocks
