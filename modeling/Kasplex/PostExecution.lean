import Kasplex.LedgerRuns
import Kasplex.OwnBlocks

/-!
# Checks after the execution of a block

What a block says of its execution is compared with the execution: the gas with
that of the last receipt, receipts root and bloom with those of all receipts.
The assembler writes the executor's own sum and one bloom over all logs instead.
-/

namespace PostExecution

open Primitives MachineArith EvmState ChainSpec FeeHandler BlockExecutor EvmConfig
  PayloadAttributes PayloadBuilder SubmissionNumbers BuiltBlocks Consensus LedgerRuns
open KasplexBlockExecutor (executeAll)

/-- The check of the node library that the consensus delegates to. The requests it is
given besides are left out: an execution here has none. -/
abbrev PostExecutionCheck :=
  RecoveredBlock → KasplexChainSpec → List Receipt → Option (B256 × Bloom) →
    Except ConsensusError Unit

/-- The running sum in the last receipt, zero without receipts. -/
def cumulativeGasUsed (receipts : List Receipt) : U64 :=
  ((receipts.getLast?).map Receipt.cumulativeGasUsed).getD 0

/-- The blooms of the receipts, joined. -/
def receiptsBloom (alloy : Alloy) (receipts : List Receipt) : Bloom :=
  receipts.foldl (fun bloom receipt => bloom ||| alloy.logsBloom receipt.logs) 0

/-- What the check is documented to compare on a chain from Byzantium on and
before Prague. Root and bloom are computed from the receipts unless they are
handed in. -/
def ComparesReceipts (alloy : Alloy) (spec : KasplexChainSpec) (check : PostExecutionCheck) :
    Prop :=
  ∀ block receipts rootAndBloom, check block spec receipts rootAndBloom = .ok () ↔
    block.sealedBlock.block.header.gasUsed = cumulativeGasUsed receipts ∧
      (block.sealedBlock.block.header.receiptsRoot, block.sealedBlock.block.header.logsBloom) =
        rootAndBloom.getD (alloy.calculateReceiptRoot receipts, receiptsBloom alloy receipts)

def validateBlockPostExecution (check : PostExecutionCheck) (spec : KasplexChainSpec)
    (block : RecoveredBlock) (result : BlockExecutionResult)
    (stateRootAndBloom : Option (B256 × Bloom)) : Except ConsensusError Unit :=
  check block spec result.receipts stateRootAndBloom

/-- A bloom of several logs is that of its parts, joined. -/
structure JoinsBlooms (alloy : Alloy) : Prop where
  empty : alloy.logsBloom [] = 0
  append : ∀ logs logs', alloy.logsBloom (logs ++ logs') =
    alloy.logsBloom logs ||| alloy.logsBloom logs'

theorem receiptsBloom_eq {alloy : Alloy} (joins : JoinsBlooms alloy) (receipts : List Receipt) :
    receiptsBloom alloy receipts = alloy.logsBloom (receipts.flatMap Receipt.logs) := by
  unfold receiptsBloom
  induction receipts using List.reverseRecOn with
  | nil => exact joins.empty.symm
  | append_singleton receipts receipt ih =>
    rw [List.foldl_append, ih, List.flatMap_append, joins.append]
    simp

/-- The executor's gas is that of its last receipt. -/
def LastReceipt (ex : KasplexBlockExecutor) : Prop := cumulativeGasUsed ex.receipts = ex.gasUsed

theorem LastReceipt.commit (ex : KasplexBlockExecutor) (output : ResultAndState)
    (tx : Recovered) : LastReceipt (ex.commitTransaction output tx).2 := by
  simp [LastReceipt, cumulativeGasUsed, KasplexBlockExecutor.commitTransaction]

theorem executeAll_lastReceipt {transact : Transact} {ex last : KasplexBlockExecutor}
    {txs : List Recovered} {outputs : List ResultAndState} (start : LastReceipt ex)
    (h : executeAll transact ex txs = .ok (outputs, last)) : LastReceipt last := by
  induction txs generalizing ex outputs with
  | nil =>
    cases h
    exact start
  | cons tx txs ih =>
    obtain ⟨output, rest, rfl, -, h⟩ := executeAll_cons h
    exact ih (LastReceipt.commit ex output tx) h

/-- The gas of an executed block is that of its last receipt. -/
theorem executeBlock_gasUsed {backend : Backend} {spec : KasplexChainSpec} {env : EvmEnv}
    {ctx : KasplexBlockExecutionCtx} {db last : Database} {txs : List Recovered}
    {result : BlockExecutionResult}
    (h : executeBlock backend spec env ctx db txs = .ok (result, last)) :
    cumulativeGasUsed result.receipts = result.gasUsed := by
  obtain ⟨pre, hpre, h⟩ := bind_eq_ok h
  obtain ⟨⟨outputs, ex⟩, hexec, h⟩ := bind_eq_ok h
  cases h
  obtain ⟨db', rfl⟩ := applyPreExecutionChanges_eq_ok hpre
  have hfresh : LastReceipt { KasplexBlockExecutor.new env db ctx spec with db := db' } := rfl
  exact executeAll_lastReceipt hfresh (mapError_eq_ok hexec)

/-- The header says of the execution what the assembler would. -/
structure Reports (alloy : Alloy) (header : Header) (result : BlockExecutionResult) : Prop where
  gasUsed : header.gasUsed = result.gasUsed
  receiptsRoot : header.receiptsRoot = alloy.calculateReceiptRoot result.receipts
  logsBloom : header.logsBloom = alloy.logsBloom (result.receipts.flatMap Receipt.logs)

theorem validateBlockPostExecution_eq_ok_iff {backend : Backend} {spec : KasplexChainSpec}
    {check : PostExecutionCheck} (compares : ComparesReceipts backend.alloy spec check)
    (joins : JoinsBlooms backend.alloy) {env : EvmEnv} {ctx : KasplexBlockExecutionCtx}
    {db last : Database} {txs : List Recovered} {result : BlockExecutionResult}
    (executed : executeBlock backend spec env ctx db txs = .ok (result, last))
    (block : RecoveredBlock) :
    validateBlockPostExecution check spec block result none = .ok () ↔
      Reports backend.alloy block.sealedBlock.block.header result := by
  unfold validateBlockPostExecution
  rw [compares, executeBlock_gasUsed executed, Option.getD_none, Prod.mk.injEq,
    receiptsBloom_eq joins]
  constructor
  · rintro ⟨hgas, hroot, hbloom⟩
    exact ⟨hgas, hroot, hbloom⟩
  · rintro ⟨hgas, hroot, hbloom⟩
    exact ⟨hgas, hroot, hbloom⟩

/-- The block of a build is imported with the result and the state of the build. -/
theorem importBlock_frozen {backend : Backend} {config : KasplexEvmConfig}
    {cfgAt : U64 → U64 → CfgEnv} {nextBaseFee : Header → NextBlockEnvAttributes → U64}
    (fills : backend.eth.FillsFields config.chainSpec cfgAt nextBaseFee)
    {mapping : TxMapping} {args : BuildArguments} {db : Database} {baseFee : U64}
    {pre : KasplexBlockExecutor} {last : LoopState} {included : List Recovered}
    {outputs : List ResultAndState} {outcome : BlockBuilderOutcome}
    (f : Frozen backend config.chainSpec mapping args db baseFee pre last included outputs
      outcome) :
    importBlock backend config db outcome.block =
        .ok (outcome.executionResult, outcome.postState) ∧
      Reports backend.alloy outcome.block.sealedBlock.block.header outcome.executionResult := by
  obtain ⟨block, hsealed, hresult, -, hrecovered, stateRoot, hblock⟩ := f.outcome_eq
  obtain ⟨-, -, hb⟩ := assembleBlock_eq_ok hblock
  have hparent : block.header.parentHash = args.parentHeader.hash := by
    rw [hb]
    rfl
  have hroot : block.header.parentBeaconBlockRoot = none := by
    rw [hb]
    rfl
  constructor
  · unfold importBlock
    rw [hrecovered, hsealed]
    simp only [Alloy.sealSlow, KasplexEvmConfig.evmEnv, evmEnv_builtHeader fills hblock]
    exact executeBlock_frozen f _ hparent hroot
  · rw [hsealed, hresult]
    change Reports backend.alloy block.header _
    rw [hb]
    exact ⟨rfl, rfl, rfl⟩

/-- The check after execution accepts a block exactly when its header reports
the gas, the receipts root and the bloom that the assembler would have written;
so it accepts every block a build has frozen, imported on the state it was built
on. -/
theorem own_block_passes_post_execution (backend : Backend) (config : KasplexEvmConfig)
    (cfgAt : U64 → U64 → CfgEnv) (nextBaseFee : Header → NextBlockEnvAttributes → U64)
    (fills : backend.eth.FillsFields config.chainSpec cfgAt nextBaseFee)
    (check : PostExecutionCheck) (compares : ComparesReceipts backend.alloy config.chainSpec check)
    (joins : JoinsBlooms backend.alloy) :
    (∀ db block result post, importBlock backend config db block = .ok (result, post) →
      (validateBlockPostExecution check config.chainSpec block result none = .ok () ↔
        Reports backend.alloy block.sealedBlock.block.header result)) ∧
    ∀ (mapping mapping' : TxMapping) (args : BuildArguments) (payload : EthBuiltPayload),
      (kasplexPayload backend config mapping args).1 = .ok (.freeze payload, mapping') →
        ∃ db block result post, backend.stateByBlockHash args.parentHeader.hash = .ok db ∧
          block.sealedBlock = payload.block ∧
          importBlock backend config db block = .ok (result, post) ∧
          validateBlockPostExecution check config.chainSpec block result none = .ok () := by
  have hexact : ∀ db block result post, importBlock backend config db block = .ok (result, post) →
      (validateBlockPostExecution check config.chainSpec block result none = .ok () ↔
        Reports backend.alloy block.sealedBlock.block.header result) :=
    fun db block result post imported =>
      validateBlockPostExecution_eq_ok_iff compares joins imported block
  refine ⟨hexact, ?_⟩
  intro mapping mapping' args payload frozen
  obtain ⟨db, baseFee, pre, last, included, outputs, outcome, f, rfl, -⟩ :=
    kasplexPayload_freeze frozen
  obtain ⟨himport, hreports⟩ := importBlock_frozen fills f
  exact ⟨db, outcome.block, outcome.executionResult, outcome.postState, f.state, rfl, himport,
    (hexact _ _ _ _ himport).mpr hreports⟩

section Samples

/-- The documented comparison as a function. -/
def sampleCheck (alloy : Alloy) : PostExecutionCheck := fun block _ receipts rootAndBloom =>
  let header := block.sealedBlock.block.header
  if header.gasUsed ≠ cumulativeGasUsed receipts then .error (.shared "block used gas mismatch")
  else if (header.receiptsRoot, header.logsBloom) ≠
      rootAndBloom.getD (alloy.calculateReceiptRoot receipts, receiptsBloom alloy receipts) then
    .error (.shared "receipts mismatch")
  else .ok ()

theorem sampleCheck_compares (alloy : Alloy) (spec : KasplexChainSpec) :
    ComparesReceipts alloy spec (sampleCheck alloy) := by
  intro block receipts rootAndBloom
  simp only [sampleCheck, ne_eq, check_eq_ok_iff, and_true]

theorem sampleAlloy_joinsBlooms : JoinsBlooms sampleAlloy :=
  ⟨rfl, fun _ _ => (BitVec.or_self).symm⟩

end Samples

/-- The sample block, imported by the node that built it. -/
theorem own_block_passes_post_execution_transfers :
    ∃ payload mapping' db block result post,
      (kasplexPayload sampleBackend sampleConfig TxMapping.empty (transferArgs 30000000)).1 =
        .ok (.freeze payload, mapping') ∧
      block.sealedBlock = payload.block ∧
      importBlock sampleBackend sampleConfig db block = .ok (result, post) ∧
      validateBlockPostExecution (sampleCheck sampleAlloy) kasplexMainnet block result none =
        .ok () := by
  obtain ⟨payload, mapping', frozen, -⟩ := exists_freeze (P := fun _ => true)
    (r := (kasplexPayload sampleBackend sampleConfig TxMapping.empty (transferArgs 30000000)).1)
    (by decide +kernel)
  obtain ⟨db, block, result, post, -, hblock, himport, hcheck⟩ :=
    (own_block_passes_post_execution sampleBackend sampleConfig sampleCfg sampleNextBaseFee
      sampleEth_fillsFields (sampleCheck sampleAlloy) (sampleCheck_compares sampleAlloy _)
      sampleAlloy_joinsBlooms).2 TxMapping.empty mapping' (transferArgs 30000000) payload frozen
  exact ⟨payload, mapping', db, block, result, post, frozen, hblock, himport, hcheck⟩

end PostExecution
