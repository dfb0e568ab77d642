import Kasplex.BuiltBlocks
import Kasplex.TxList
import Kasplex.TxPoolContent

/-!
# From the pool's answer to the block

A list answered from the pool, encoded into a request and built. The executor
compares nothing with the gas limit of the block, and need not here: what the
pool was asked for bounds the gas of every block built from its answer.
-/

namespace SelectedBlocks

open Primitives MachineArith GreedyPrefix TxPool EvmState FeeHandler BlockExecutor EvmConfig
  PayloadAttributes SubmissionNumbers PayloadBuilder BuiltBlocks TxList TxPoolContent Codecs
open KasplexBlockExecutor (executeAll)

/-- Each transaction uses at most its limit. -/
theorem gasTotal_le_gasSum {transact : Transact} (gas : GasDiscipline transact)
    {ex last : KasplexBlockExecutor} {txs : List Recovered} {outputs : List ResultAndState}
    (executed : executeAll transact ex txs = .ok (outputs, last)) :
    gasTotal outputs ≤ gasSum (txs.map Recovered.tx) := by
  induction txs generalizing ex outputs with
  | nil =>
    cases executed
    exact le_refl _
  | cons tx txs ih =>
    obtain ⟨output, rest, rfl, ho, executed⟩ := executeAll_cons executed
    have hfirst : output.result.gasUsed.toNat ≤ tx.tx.gasLimit.toNat :=
      BitVec.le_def.mp (gas.bounded _ _ _ _ ho)
    have hrest := ih executed
    simp only [gasTotal, gasSum, List.map_cons, List.sum_cons] at hrest ⊢
    omega

/-- A frozen block contains transactions of the list, in their order. -/
theorem frozen_sublist {backend : Backend} {config : KasplexEvmConfig}
    {mapping mapping' : TxMapping} {args : BuildArguments} {payload : EthBuiltPayload}
    (frozen : (kasplexPayload backend config mapping args).1 = .ok (.freeze payload, mapping')) :
    payload.block.block.body.transactions.Sublist
      (args.attributes.transactions.map Recovered.tx) := by
  obtain ⟨db, baseFee, pre, last, included, outputs, outcome, f, rfl, -⟩ :=
    kasplexPayload_freeze frozen
  obtain ⟨hbody, -, -, -⟩ := f.block_eq
  change outcome.block.sealedBlock.block.body.transactions.Sublist _
  rw [hbody]
  exact f.loop.sublist.map Recovered.tx

/-- It uses at most the sum of the limits on the list. -/
theorem frozen_gasUsed_le {backend : Backend} (gas : GasDiscipline backend.transact)
    {config : KasplexEvmConfig} {mapping mapping' : TxMapping} {args : BuildArguments}
    {payload : EthBuiltPayload}
    (bound : gasSum (args.attributes.transactions.map Recovered.tx) < 2 ^ 64)
    (frozen : (kasplexPayload backend config mapping args).1 = .ok (.freeze payload, mapping')) :
    payload.block.block.header.gasUsed.toNat ≤
      gasSum (args.attributes.transactions.map Recovered.tx) := by
  obtain ⟨db, baseFee, pre, last, included, outputs, outcome, f, rfl, -⟩ :=
    kasplexPayload_freeze frozen
  obtain ⟨-, hgasUsed, -, -⟩ := f.block_eq
  obtain ⟨-, -, -, hfresh⟩ := f.pre_eq
  have hincluded := gasTotal_le_gasSum gas f.loop.executed
  have hlisted := gasSum_mono (f.loop.sublist.map Recovered.tx)
  have hzero : pre.gasUsed.toNat = 0 := by
    rw [hfresh]
    rfl
  have hused := executeAll_gasUsed f.loop.executed (by
    change pre.gasUsed.toNat + _ < _
    omega)
  change last.builder.executor.gasUsed.toNat = pre.gasUsed.toNat + _ at hused
  change outcome.block.sealedBlock.block.header.gasUsed.toNat ≤ _
  rw [hgasUsed]
  omega

/-- The block has the gas limit of the request. -/
theorem frozen_gasLimit {backend : Backend} {config : KasplexEvmConfig}
    {cfgAt : U64 → U64 → CfgEnv} {nextBaseFee : Header → NextBlockEnvAttributes → U64}
    (fills : backend.eth.FillsFields config.chainSpec cfgAt nextBaseFee)
    {mapping mapping' : TxMapping} {args : BuildArguments} {payload : EthBuiltPayload}
    (frozen : (kasplexPayload backend config mapping args).1 = .ok (.freeze payload, mapping')) :
    payload.block.block.header.gasLimit = args.attributes.gasLimit := by
  obtain ⟨db, baseFee, pre, last, included, outputs, outcome, f, rfl, -⟩ :=
    kasplexPayload_freeze frozen
  obtain ⟨-, -, hlimit, -⟩ := f.block_eq
  change outcome.block.sealedBlock.block.header.gasLimit = _
  rw [hlimit]
  simp only [buildEnv, fills.nextEvmEnv]
  rfl

/-- The pool's entries of a list of its transactions are recovered from the
bytes of the list. -/
theorem listedTransactions_encoded {alloy : Alloy} {codec : Codec TransactionSigned}
    (reads : ReadsLists alloy codec) {entries : List Recovered}
    (senders : ∀ t ∈ entries, alloy.tryRecover t.tx = some t.signer)
    (listable : codec.list.Value (entries.map Recovered.tx)) :
    listedTransactions alloy (codec.list.encode (entries.map Recovered.tx)) = entries := by
  have hread : decodeTransactions alloy (codec.list.encode (entries.map Recovered.tx)) =
      .ok (entries.map Recovered.tx) :=
    (decodeTransactions_eq_ok_iff reads).mpr ⟨[], listable, (List.append_nil _).symm⟩
  simp only [listedTransactions, hread]
  clear listable hread
  induction entries with
  | nil => rfl
  | cons t entries ih =>
    have hsigner := senders t List.mem_cons_self
    have hrest := ih fun t ht => senders t (List.mem_cons_of_mem _ ht)
    rw [List.map_cons, List.filterMap_cons, hsigner, hrest]
    rfl

/-- An answer lists eligible entries from the front, within the limits, with the
gas limits added up. -/
theorem answer_entries {alloy : Alloy} {pool : TransactionPool} {beneficiary : Address}
    {baseFee : U256} {blockMaxGasLimit maxBytesPerTxList : U64} {locals : List String}
    {maxTransactionsLists : U64} {answer : PreBuiltTxList}
    (answered : answer ∈ txPoolContent alloy pool beneficiary baseFee blockMaxGasLimit
      maxBytesPerTxList locals maxTransactionsLists) :
    ∃ entries : List Recovered,
      entries <+: (pool.pending.filter fun t => baseFee ≤ maxFee t.tx) ∧
      WithinLimits alloy blockMaxGasLimit maxBytesPerTxList (entries.map Recovered.tx) ∧
      answer.txList = (entries.map Recovered.tx).map (fun tx =>
        String.ofList ('0' :: 'x' :: hexEncode (alloy.encode2718 tx))) ∧
      answer.estimatedGasUsed = total TransactionSigned.gasLimit (entries.map Recovered.tx) := by
  obtain ⟨taken, hloop, hlongest⟩ := selectTransactions_isLongestPrefix alloy baseFee
    blockMaxGasLimit maxBytesPerTxList pool.pending
  obtain ⟨hfront, hwithin, -⟩ := hlongest
  rw [eligible_eq] at hfront
  obtain ⟨entries, hentries, rfl⟩ := List.prefix_map_iff.mp hfront
  unfold txPoolContent at answered
  rw [hloop] at answered
  split at answered
  · rw [List.mem_singleton.mp answered]
    exact ⟨entries, hentries, hwithin, rfl, rfl⟩
  · cases answered

/-- A list answered from the pool and encoded into a request comes back as the
pool's own entries, and a block built from it contains some of them in their
order. Where the gas limits in the pool add up within 64 bits, its gas is within
the estimate of the answer, which is within the gas limit of the block if that is
at least the limit the pool was asked for. -/
theorem selected_block_within_limit (backend : Backend) (gas : GasDiscipline backend.transact)
    (codec : Codec TransactionSigned) (reads : ReadsLists backend.alloy codec)
    (pool : TransactionPool) (beneficiary : Address) (baseFee : U256)
    (blockMaxGasLimit maxBytesPerTxList : U64) (locals : List String) (maxTransactionsLists : U64)
    (encodings : ∀ t ∈ pool.pending,
      backend.alloy.decode2718Exact (backend.alloy.encode2718 t.tx) = some t.tx)
    (senders : ∀ t ∈ pool.pending, backend.alloy.tryRecover t.tx = some t.signer)
    (answer : PreBuiltTxList) (txs : List TransactionSigned)
    (answered : answer ∈ txPoolContent backend.alloy pool beneficiary baseFee blockMaxGasLimit
      maxBytesPerTxList locals maxTransactionsLists)
    (read : answer.txList.mapM (decodeTxHex backend.alloy) = some txs)
    (listable : codec.list.Value txs)
    (config : KasplexEvmConfig) (cfgAt : U64 → U64 → CfgEnv)
    (nextBaseFee : Header → NextBlockEnvAttributes → U64)
    (fills : backend.eth.FillsFields config.chainSpec cfgAt nextBaseFee)
    (sha256 : Bytes → Vector UInt8 32) (parent : B256) (request : KasplexPayloadAttributes)
    (version : UInt8) (mapping mapping' : TxMapping) (args : BuildArguments)
    (payload : EthBuiltPayload)
    (requested : request.blockMetadata.txList = codec.list.encode txs)
    (job : KasplexPayloadBuilderAttributes.tryNew backend.alloy sha256 parent request version =
      .ok args.attributes)
    (frozen : (kasplexPayload backend config mapping args).1 = .ok (.freeze payload, mapping')) :
    args.attributes.transactions <+:
        (pool.pending.filter fun t => baseFee ≤ maxFee t.tx) ∧
      args.attributes.transactions.map Recovered.tx = txs ∧
      payload.block.block.body.transactions.Sublist txs ∧
      (gasSum (pool.pending.map Recovered.tx) < 2 ^ 64 →
        payload.block.block.header.gasUsed.toNat ≤ answer.estimatedGasUsed.toNat) ∧
      (blockMaxGasLimit ≤ request.blockMetadata.gasLimit →
        answer.estimatedGasUsed ≤ payload.block.block.header.gasLimit) := by
  obtain ⟨entries, hentries, hwithin, hlist, hestimate⟩ := answer_entries answered
  have hpool : ∀ t ∈ entries, t ∈ pool.pending :=
    fun t ht => List.mem_of_mem_filter (hentries.subset ht)
  have hcodec : ∀ tx ∈ entries.map Recovered.tx,
      backend.alloy.decode2718Exact (backend.alloy.encode2718 tx) = some tx := by
    intro tx htx
    obtain ⟨t, ht, rfl⟩ := List.mem_map.mp htx
    exact encodings t (hpool t ht)
  rw [hlist, mapM_decodeTxHex hcodec] at read
  cases read
  have hjob : args.attributes.transactions = entries := by
    rw [tryNew_transactions job, requested]
    exact listedTransactions_encoded reads (fun t ht => senders t (hpool t ht)) listable
  have hbody := frozen_sublist frozen
  rw [hjob] at hbody ⊢
  refine ⟨hentries, rfl, hbody, ?_, ?_⟩
  · intro gasBound
    have hsub : (entries.map Recovered.tx).Sublist (pool.pending.map Recovered.tx) :=
      (hentries.sublist.trans List.filter_sublist).map _
    have hgasBound := (gasSum_mono hsub).trans_lt gasBound
    have hused := frozen_gasUsed_le gas (by rw [hjob]; exact hgasBound) frozen
    have hsum : answer.estimatedGasUsed.toNat = gasSum (entries.map Recovered.tx) := by
      rw [hestimate]
      exact total_toNat hgasBound
    rwa [hsum, ← hjob]
  · intro limit
    have hasked := (hwithin _ ((List.mem_inits _ _).mpr List.prefix_rfl)).1
    have hlimit : args.attributes.gasLimit = request.blockMetadata.gasLimit := by
      obtain ⟨-, -, hinputs⟩ := tryNew_eq_ok job
      exact congrArg KasplexPayloadBuilderAttributes.BuildInputs.gasLimit hinputs
    rw [hestimate, frozen_gasLimit fills frozen, hlimit]
    exact BitVec.le_trans hasked limit

section Samples

def listBackend : Backend := { sampleBackend with alloy := listAlloy }

/-- The sample job, its list read by the decoder of every list. -/
def listJob : KasplexPayloadBuilderAttributes where
  payloadAttributes := {
    id := payloadIdKasplex listAlloy sampleSha256 sampleParent.hash (transferRequest 30000000) 2
    parent := sampleParent.hash
    timestamp := 1000
    suggestedFeeRecipient := 0xbe#160
    prevRandao := 7
    withdrawals := []
    parentBeaconBlockRoot := none }
  txListHash := listAlloy.keccak256 sampleTxList
  beneficiary := 0xbe#160
  gasLimit := 30000000
  timestamp := 1000
  mixHash := 7
  baseFeePerGas := 2000000000000
  transactions := listedTransactions listAlloy sampleTxList
  extraData := sampleExtraData

def listArgs : BuildArguments := ⟨sampleParent, listJob, fun _ => false⟩

theorem tryNew_listJob :
    KasplexPayloadBuilderAttributes.tryNew listAlloy sampleSha256 sampleParent.hash
      (transferRequest 30000000) 2 = .ok listJob := by
  have htime : (narrowOrPanic 64 (transferRequest 30000000).blockMetadata.timestamp :
      Except (Fault RlpError) U64) = .ok 1000 := narrowOrPanic_eq_ok_iff.mpr rfl
  simp only [KasplexPayloadBuilderAttributes.tryNew, htime, bind, Except.bind, pure, Except.pure]
  rfl

/-- The three transfers, pending. -/
def listPool : TransactionPool :=
  ⟨[⟨transfer0, sampleSigner⟩, ⟨transfer5, sampleSigner⟩, ⟨transfer1, sampleSigner⟩], []⟩

end Samples

/-- The three transfers are answered for, requested and built, one of them
skipped: 42000 gas of an estimate of 90000. -/
theorem selected_block_within_limit_transfers :
    ∃ answer ∈ txPoolContent listAlloy listPool 0 2000000000000 30000000 1000 [] 1,
      ∃ payload mapping',
        (kasplexPayload listBackend sampleConfig TxMapping.empty listArgs).1 =
          .ok (.freeze payload, mapping') ∧
        payload.block.block.body.transactions.Sublist [transfer0, transfer5, transfer1] ∧
        payload.block.block.header.gasUsed.toNat ≤ answer.estimatedGasUsed.toNat ∧
        answer.estimatedGasUsed ≤ payload.block.block.header.gasLimit := by
  have hselected : (selectTransactions listAlloy 2000000000000 30000000 1000 ⟨[], 0, 0⟩
      listPool.pending).transactions = [transfer0, transfer5, transfer1] := by decide +kernel
  obtain ⟨payload, mapping', frozen, -⟩ := exists_freeze (P := fun _ => true)
    (r := (kasplexPayload listBackend sampleConfig TxMapping.empty listArgs).1) (by decide +kernel)
  have hanswered := List.mem_singleton_self (⟨(selectTransactions listAlloy 2000000000000 30000000
      1000 ⟨[], 0, 0⟩ listPool.pending).transactions.map (fun tx =>
        String.ofList ('0' :: 'x' :: hexEncode (listAlloy.encode2718 tx))),
      (selectTransactions listAlloy 2000000000000 30000000 1000 ⟨[], 0, 0⟩
        listPool.pending).totalGasUsed,
      (selectTransactions listAlloy 2000000000000 30000000 1000 ⟨[], 0, 0⟩
        listPool.pending).totalBytes⟩ : PreBuiltTxList)
  refine ⟨_, hanswered, payload, mapping', frozen, ?_⟩
  obtain ⟨-, -, hbody, hused, hlimit⟩ := selected_block_within_limit listBackend
    transferEvm_gasDiscipline sampleCodec listAlloy_reads listPool 0 2000000000000 30000000 1000
    [] 1 (by decide +kernel) (by decide +kernel) _ [transfer0, transfer5, transfer1] hanswered
    (by
      rw [hselected]
      exact mapM_decodeTxHex (by decide +kernel))
    ((sampleCodec.list.exact sampleTxList _ []).mp (by decide +kernel)).1 sampleConfig sampleCfg
    sampleNextBaseFee sampleEth_fillsFields sampleSha256 sampleParent.hash
    (transferRequest 30000000) 2 TxMapping.empty mapping' listArgs payload
    (by decide +kernel) tryNew_listJob frozen
  exact ⟨hbody, hused (by decide +kernel), hlimit (by decide +kernel)⟩

end SelectedBlocks
