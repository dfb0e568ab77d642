import Kasplex.BuiltBlocks

/-!
# What a block depends on

A transaction that is refused at its turn leaves no trace, so leaving it out of
the request changes nothing; nor do the submission numbers, the identifier of
the payload, the withdrawals or the beacon root of the request.
-/

namespace Rebuilds

open Primitives MachineArith EvmState ChainSpec FeeHandler BlockExecutor EvmConfig
  PayloadAttributes SubmissionNumbers PayloadBuilder BuiltBlocks
open KasplexBlockExecutor (executeAll)

/-- The second list is the first one without some of the transactions that are
refused at their turn. -/
inductive Pruned (transact : Transact) :
    KasplexBlockExecutor → List Recovered → List Recovered → Prop
  | nil (ex : KasplexBlockExecutor) : Pruned transact ex [] []
  | taken {ex : KasplexBlockExecutor} {tx : Recovered} {output : ResultAndState}
      {txs kept : List Recovered} :
      transact ex.evmEnv (TxEnv.fromRecoveredTx tx) ex.db = .ok output →
      Pruned transact (ex.commitTransaction output tx).2 txs kept →
      Pruned transact ex (tx :: txs) (tx :: kept)
  | refused {ex : KasplexBlockExecutor} {tx : Recovered} {err : EvmError}
      {txs kept : List Recovered} :
      transact ex.evmEnv (TxEnv.fromRecoveredTx tx) ex.db = .error err →
      Pruned transact ex txs kept → Pruned transact ex (tx :: txs) (tx :: kept)
  | dropped {ex : KasplexBlockExecutor} {tx : Recovered} {err : EvmError}
      {txs kept : List Recovered} :
      transact ex.evmEnv (TxEnv.fromRecoveredTx tx) ex.db = .error err →
      Pruned transact ex txs kept → Pruned transact ex (tx :: txs) kept

section Loop

variable {transact : Transact} {baseFee : U64} {mapping mapping' : TxMapping}
  {cancel cancel' : Nat → Bool} {turn turn' : Nat} {st st' last : LoopState} {tx : Recovered}
  {txs kept : List Recovered}

/-- The turn of a transaction that is accepted and has a tip. -/
theorem executionLoop_taken (going : cancel turn = false) {output : ResultAndState} {tip : U128}
    (accepted : transact st.builder.executor.evmEnv (TxEnv.fromRecoveredTx tx)
      st.builder.executor.db = .ok output)
    (htip : tx.tx.effectiveTipPerGas baseFee = some tip) :
    executionLoop transact baseFee mapping cancel turn st (tx :: txs) =
      executionLoop transact baseFee mapping cancel (turn + 1) (st.take mapping tx output tip)
        txs := by
  rw [executionLoop, if_neg (Bool.eq_false_iff.mp going)]
  simp only [BlockBuilder.executeTransaction, executeTransaction_of_ok accepted, bind, Except.bind,
    pure, Except.pure, htip]
  rfl

/-- The turn of a transaction that is refused. -/
theorem executionLoop_refused (going : cancel turn = false) {err : EvmError}
    (refused : transact st.builder.executor.evmEnv (TxEnv.fromRecoveredTx tx)
      st.builder.executor.db = .error err) :
    executionLoop transact baseFee mapping cancel turn st (tx :: txs) =
      match err with
      | .transaction _ => executionLoop transact baseFee mapping cancel (turn + 1) st txs
      | err => .error (.error (.evm (.internal err))) := by
  rw [executionLoop, if_neg (Bool.eq_false_iff.mp going)]
  simp only [BlockBuilder.executeTransaction, executeTransaction_of_error refused, bind,
    Except.bind, List.dropLast_concat]
  cases err <;> rfl

theorem going_of_loop
    (h : executionLoop transact baseFee mapping cancel turn st (tx :: txs) = .ok (some last)) :
    cancel turn = false := by
  by_contra hcancel
  rw [Bool.not_eq_false] at hcancel
  rw [executionLoop, if_pos hcancel] at h
  cases h

/-- Two states of the loop that differ at most in the submission numbers. -/
def SameBlock (st st' : LoopState) : Prop :=
  st'.builder = st.builder ∧ st'.totalFees = st.totalFees

theorem SameBlock.take (same : SameBlock st st') (output : ResultAndState) (tip : U128) :
    SameBlock (st.take mapping tx output tip) (st'.take mapping' tx output tip) := by
  obtain ⟨hbuilder, hfees⟩ := same
  unfold SameBlock LoopState.take
  rw [hbuilder, hfees]
  exact ⟨rfl, rfl⟩

/-- A loop over a pruned list, whatever its numbers and as long as nobody
cancels it, ends with the same block. -/
theorem executionLoop_pruned (mapping' : TxMapping) (turn' : Nat) (st' : LoopState)
    {ex : KasplexBlockExecutor} (pruned : Pruned transact ex txs kept)
    (start : st.builder.executor = ex) (same : SameBlock st st')
    (going : ∀ turn, cancel' turn = false)
    (h : executionLoop transact baseFee mapping cancel turn st txs = .ok (some last)) :
    ∃ last', executionLoop transact baseFee mapping' cancel' turn' st' kept = .ok (some last') ∧
      SameBlock last last' := by
  induction pruned generalizing st st' turn turn' with
  | nil ex =>
    cases h
    exact ⟨st', rfl, same⟩
  | @taken ex tx output txs kept accepted pruned ih =>
    subst start
    have accepted' := accepted
    rw [← same.1] at accepted'
    rcases executionLoop_cons h with ⟨output', tip, haccepted, htip, h⟩ | ⟨err, hrefused, -⟩
    · cases accepted.symm.trans haccepted
      rw [executionLoop_taken (going turn') accepted' htip]
      exact ih _ _ rfl (same.take output tip) h
    · rw [executeTransaction_of_ok accepted] at hrefused
      cases hrefused
  | @refused ex tx err txs kept refused pruned ih =>
    subst start
    have refused' := refused
    rw [← same.1] at refused'
    rw [executionLoop_refused (going_of_loop h) refused] at h
    rw [executionLoop_refused (going turn') refused']
    cases err with
    | transaction e => exact ih _ _ rfl same h
    | database e => cases h
    | custom e => cases h
  | @dropped ex tx err txs kept refused pruned ih =>
    subst start
    rw [executionLoop_refused (going_of_loop h) refused] at h
    cases err with
    | transaction e => exact ih _ _ rfl same h
    | database e => cases h
    | custom e => cases h

/-- The transactions taken are what is left when all refused ones are dropped. -/
theorem executionLoop_taken_pruned
    (h : executionLoop transact baseFee mapping cancel turn st txs = .ok (some last)) :
    ∃ taken, Pruned transact st.builder.executor txs taken ∧
      last.builder.transactions = st.builder.transactions ++ taken := by
  induction txs generalizing turn st with
  | nil =>
    cases h
    exact ⟨[], Pruned.nil _, (List.append_nil _).symm⟩
  | cons tx txs ih =>
    cases ht : transact st.builder.executor.evmEnv (TxEnv.fromRecoveredTx tx)
        st.builder.executor.db with
    | ok output =>
      rcases executionLoop_cons h with ⟨output', tip, haccepted, htip, h⟩ | ⟨err, hrefused, -⟩
      · cases ht.symm.trans haccepted
        obtain ⟨taken, hpruned, htransactions⟩ := ih h
        refine ⟨tx :: taken, Pruned.taken ht hpruned, ?_⟩
        rw [htransactions]
        simp [LoopState.take]
      · rw [executeTransaction_of_ok ht] at hrefused
        cases hrefused
    | error err =>
      rw [executionLoop_refused (going_of_loop h) ht] at h
      cases err with
      | transaction e =>
        obtain ⟨taken, hpruned, htransactions⟩ := ih h
        exact ⟨taken, Pruned.dropped ht hpruned, htransactions⟩
      | database e => cases h
      | custom e => cases h

end Loop

/-- The requests agree on everything the block is made from, except for the
transactions. -/
structure SameRequest (args args' : BuildArguments) : Prop where
  parent : args'.parentHeader = args.parentHeader
  timestamp : args'.attributes.timestamp = args.attributes.timestamp
  beneficiary : args'.attributes.beneficiary = args.attributes.beneficiary
  gasLimit : args'.attributes.gasLimit = args.attributes.gasLimit
  mixHash : args'.attributes.mixHash = args.attributes.mixHash
  baseFeePerGas : args'.attributes.baseFeePerGas = args.attributes.baseFeePerGas
  extraData : args'.attributes.extraData = args.attributes.extraData

section Builds

variable {backend : Backend} {spec : KasplexChainSpec} {cfgAt : U64 → U64 → CfgEnv}
  {nextBaseFee : Header → NextBlockEnvAttributes → U64} {args args' : BuildArguments}
  {baseFee : U64}

theorem SameRequest.buildEnv_eq (fills : backend.eth.FillsFields spec cfgAt nextBaseFee)
    (same : SameRequest args args') :
    buildEnv backend spec args' baseFee = buildEnv backend spec args baseFee := by
  simp only [buildEnv, fills.nextEvmEnv, nextBlockEnvAttributes, same.parent, same.timestamp,
    same.beneficiary, same.gasLimit, same.mixHash]

theorem SameRequest.buildCtx_eq (same : SameRequest args args') :
    buildCtx args' = buildCtx args := by
  simp only [buildCtx, same.parent, same.extraData]

/-- A build whose stages come through freezes what they have built. -/
theorem kasplexPayload_of_buildBlock {config : KasplexEvmConfig} {mapping : TxMapping}
    {db : Database} {built : Option (LoopState × BlockBuilderOutcome)}
    (hdb : backend.stateByBlockHash args.parentHeader.hash = .ok db)
    (hfee : baseFee.toNat = args.attributes.baseFeePerGas.toNat)
    (hbuilt : buildBlock backend config.chainSpec mapping args db baseFee
      (buildEnv backend config.chainSpec args baseFee) (buildCtx args) = .ok built) :
    (kasplexPayload backend config mapping args).1 = .ok (freezeBlock mapping args built) := by
  have hnarrow : (narrowOrPanic 64 args.attributes.baseFeePerGas :
      Except (Fault PayloadBuilderError) U64) = .ok baseFee := narrowOrPanic_eq_ok_iff.mpr hfee
  simp only [kasplexPayload, hdb, hnarrow, Except.mapError]
  change (buildBlock backend config.chainSpec mapping args db baseFee
    (buildEnv backend config.chainSpec args baseFee) (buildCtx args)).map _ = _
  rw [hbuilt]
  rfl

end Builds

/-- Every block is built again, with the same fees, from any request that agrees
on parent, time, recipient, limits, base fee and extra data, and lists the same
transactions without some of the refused ones: down to those in the block. What
else the request says, the submission numbers and the cells of the config have
no influence. -/
theorem block_without_refused (backend : Backend) (config : KasplexEvmConfig)
    (cfgAt : U64 → U64 → CfgEnv) (nextBaseFee : Header → NextBlockEnvAttributes → U64)
    (fills : backend.eth.FillsFields config.chainSpec cfgAt nextBaseFee)
    (mapping mapping' : TxMapping) (args : BuildArguments) (payload : EthBuiltPayload)
    (frozen : (kasplexPayload backend config mapping args).1 = .ok (.freeze payload, mapping')) :
    ∃ db baseFee pre included,
      backend.stateByBlockHash args.parentHeader.hash = .ok db ∧
      baseFee.toNat = args.attributes.baseFeePerGas.toNat ∧
      (KasplexBlockExecutor.new (buildEnv backend config.chainSpec args baseFee) db
        (buildCtx args) config.chainSpec).applyPreExecutionChanges backend.system = .ok pre ∧
      included.map Recovered.tx = payload.block.block.body.transactions ∧
      Pruned backend.transact pre args.attributes.transactions included ∧
      ∀ config₂ mapping₂ args₂, config₂.chainSpec = config.chainSpec → SameRequest args args₂ →
        (∀ turn, args₂.cancel turn = false) →
        Pruned backend.transact pre args.attributes.transactions args₂.attributes.transactions →
          ∃ payload₂ mapping₂',
            (kasplexPayload backend config₂ mapping₂ args₂).1 = .ok (.freeze payload₂, mapping₂') ∧
              payload₂.block = payload.block ∧ payload₂.fees = payload.fees := by
  obtain ⟨db, baseFee, built, hdb, hfee, hbuilt, hfreeze⟩ := kasplexPayload_eq_ok frozen
  obtain ⟨last, outcome, rfl, rfl, -⟩ := freezeBlock_eq_freeze hfreeze
  obtain ⟨pre, hpre, hloop, hfin⟩ := buildBlock_eq_ok hbuilt
  obtain ⟨taken, hpruned, htaken⟩ := executionLoop_taken_pruned hloop
  have hbody : outcome.block.sealedBlock.block.body.transactions = taken.map Recovered.tx := by
    obtain ⟨stateRoot, block, -, hblock, rfl⟩ := finish_eq_ok hfin
    obtain ⟨-, -, hb⟩ := assembleBlock_eq_ok hblock
    change block.body.transactions = _
    rw [hb, htaken]
    rfl
  refine ⟨db, baseFee, pre, taken, hdb, hfee, hpre, hbody.symm, hpruned, ?_⟩
  intro config₂ mapping₂ args₂ hspec same going pruned
  obtain ⟨last₂, hloop₂, hbuilder, hfees⟩ :=
    executionLoop_pruned mapping₂ 0 ⟨⟨pre, []⟩, 0, []⟩ pruned rfl ⟨rfl, rfl⟩ going hloop
  have hbuilt₂ : buildBlock backend config₂.chainSpec mapping₂ args₂ db baseFee
      (buildEnv backend config₂.chainSpec args₂ baseFee) (buildCtx args₂) =
        .ok (some (last₂, outcome)) := by
    rw [hspec, same.buildEnv_eq fills, same.buildCtx_eq]
    simp only [buildBlock, hpre, hloop₂, hbuilder, hfin, Except.mapError, bind, Except.bind, pure,
      Except.pure]
  refine ⟨⟨args₂.attributes.payloadAttributes.id, outcome.block.sealedBlock, last₂.totalFees⟩,
    storeNumbers mapping₂ outcome.block last₂.transactionNumbers, ?_, rfl, hfees⟩
  exact kasplexPayload_of_buildBlock (by rw [same.parent]; exact hdb)
    (by rw [same.baseFeePerGas]; exact hfee) hbuilt₂

/-- The sample block again, from the two transfers that are in it. -/
theorem block_without_refused_transfers :
    ∃ payload mapping' included payload₂ mapping₂',
      (kasplexPayload sampleBackend sampleConfig TxMapping.empty (transferArgs 30000000)).1 =
        .ok (.freeze payload, mapping') ∧
      included.map Recovered.tx = [transfer0, transfer1] ∧
      (kasplexPayload sampleBackend sampleConfig TxMapping.empty
        { transferArgs 30000000 with
          attributes := { transferJob 30000000 with transactions := included } }).1 =
        .ok (.freeze payload₂, mapping₂') ∧
      payload₂.block = payload.block := by
  obtain ⟨payload, mapping', frozen, hbody⟩ := exists_freeze
    (P := fun p => decide (p.block.block.body.transactions = [transfer0, transfer1]))
    (r := (kasplexPayload sampleBackend sampleConfig TxMapping.empty (transferArgs 30000000)).1)
    (by decide +kernel)
  obtain ⟨db, baseFee, pre, included, -, -, -, htxs, hpruned, hrebuild⟩ :=
    block_without_refused sampleBackend sampleConfig sampleCfg sampleNextBaseFee
      sampleEth_fillsFields TxMapping.empty mapping' (transferArgs 30000000) payload frozen
  obtain ⟨payload₂, mapping₂', hbuilt, hblock, -⟩ := hrebuild sampleConfig TxMapping.empty
    { transferArgs 30000000 with
      attributes := { transferJob 30000000 with transactions := included } }
    rfl ⟨rfl, rfl, rfl, rfl, rfl, rfl, rfl⟩ (fun _ => rfl) hpruned
  exact ⟨payload, mapping', included, payload₂, mapping₂', frozen,
    htxs.trans (of_decide_eq_true hbody), hbuilt, hblock⟩

end Rebuilds
