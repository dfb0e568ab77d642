import Kasplex.BuiltBlocks
import Kasplex.EngineValidator
import Kasplex.Consensus

/-!
# The node's own blocks under its own rules

A request passes the checks of the engine, a build that runs alone freezes a
block for it, and the consensus rules are applied to that block. The checks read
the standard timestamp and no other field, while timestamp, base fee and extra
data of the header are those of the Kasplex part of the request.
-/

namespace OwnBlocks

open Primitives MachineArith ChainSpec EvmState FeeHandler BlockExecutor EvmConfig
  PayloadAttributes PayloadBuilder SubmissionNumbers EngineTypes EngineValidator Consensus
open KasplexPayloadBuilderAttributes (tryNew)

/-- A header whose fields are the request's, on a parent. -/
structure BuiltFrom (request : KasplexPayloadAttributes) (parent : SealedHeader)
    (header : Header) : Prop where
  parentHash : header.parentHash = parent.hash
  number : header.number = parent.header.number + 1
  timestamp : header.timestamp.toNat = request.blockMetadata.timestamp.toNat
  baseFee : ∃ fee, header.baseFeePerGas = some fee ∧ fee.toNat = request.baseFeePerGas.toNat
  extraData : header.extraData = request.blockMetadata.extraData
  gasLimit : header.gasLimit = request.blockMetadata.gasLimit
  difficulty : header.difficulty = 0
  nonce : header.nonce = 0
  ommers : header.ommersHash = emptyOmmerRootHash

section Requests

variable {cfgAt : U64 → U64 → CfgEnv}
  {nextBaseFee : Header → NextBlockEnvAttributes → U64} {sha256 : Bytes → Vector UInt8 32}
  {request : KasplexPayloadAttributes} {version : UInt8} {mapping mapping' : TxMapping}
  {payload : EthBuiltPayload}

theorem frozen_builtFrom (backend : Backend) (config : KasplexEvmConfig) (args : BuildArguments)
    (fills : backend.eth.FillsFields config.chainSpec cfgAt nextBaseFee)
    (job : tryNew backend.alloy sha256 args.parentHeader.hash request version =
      .ok args.attributes)
    (frozen : (kasplexPayload backend config mapping args).1 = .ok (.freeze payload, mapping')) :
    BuiltFrom request args.parentHeader payload.block.block.header := by
  obtain ⟨db, baseFee, pre, last, included, outputs, outcome, f, rfl, -⟩ :=
    kasplexPayload_freeze frozen
  obtain ⟨block, hsealed, -, -, -, stateRoot, hblock⟩ := f.outcome_eq
  obtain ⟨hnumber, htime, -, hlimit, -, hfee, hdifficulty⟩ :=
    BuiltBlocks.builtHeader_eq fills hblock
  obtain ⟨-, -, hb⟩ := assembleBlock_eq_ok hblock
  obtain ⟨hjobTime, -, hinputs⟩ := tryNew_eq_ok job
  have hjobFee : args.attributes.baseFeePerGas = request.baseFeePerGas :=
    congrArg KasplexPayloadBuilderAttributes.BuildInputs.baseFeePerGas hinputs
  have hjobExtra : args.attributes.extraData = request.blockMetadata.extraData :=
    congrArg KasplexPayloadBuilderAttributes.BuildInputs.extraData hinputs
  have hjobLimit : args.attributes.gasLimit = request.blockMetadata.gasLimit :=
    congrArg KasplexPayloadBuilderAttributes.BuildInputs.gasLimit hinputs
  have hextra : block.header.extraData = args.attributes.extraData := by
    rw [hb]
    rfl
  change BuiltFrom request args.parentHeader outcome.block.sealedBlock.block.header
  rw [hsealed]
  refine ⟨?_, hnumber, ?_, ⟨baseFee, hfee, ?_⟩, hextra.trans hjobExtra, hlimit.trans hjobLimit,
    hdifficulty, ?_, ?_⟩
  · change block.header.parentHash = args.parentHeader.hash
    rw [hb]
    rfl
  · change block.header.timestamp.toNat = request.blockMetadata.timestamp.toNat
    rw [htime, hjobTime]
  · rw [f.fee, hjobFee]
  · change block.header.nonce = 0
    rw [hb]
  · change block.header.ommersHash = emptyOmmerRootHash
    rw [hb]

end Requests

section Headers

variable {request : KasplexPayloadAttributes} {parent : SealedHeader} {header : Header}

/-- The fixed fee in the header is the fixed fee in the request. -/
theorem BuiltFrom.baseFee_iff (built : BuiltFrom request parent header) :
    header.baseFeePerGas = some kasplexBaseFee ↔
      request.baseFeePerGas = kasplexBaseFee.setWidth 256 := by
  obtain ⟨fee, hfee, hrequest⟩ := built.baseFee
  have hwide : (kasplexBaseFee.setWidth 256).toNat = kasplexBaseFee.toNat :=
    toNat_setWidth_of_le (by decide) _
  rw [hfee]
  constructor
  · intro h
    apply BitVec.eq_of_toNat_eq
    rw [← hrequest, hwide, Option.some.inj h]
  · intro h
    congr 1
    apply BitVec.eq_of_toNat_eq
    rw [hrequest, h, hwide]

theorem BuiltFrom.timestamp_iff (built : BuiltFrom request parent header) :
    parent.header.timestamp ≤ header.timestamp ↔
      parent.header.timestamp.toNat ≤ request.blockMetadata.timestamp.toNat := by
  rw [BitVec.le_def, built.timestamp]

/-- Everything but the base fee, the length of the extra data and the gas limit is
as the rules have it. -/
theorem BuiltFrom.rules_iff (built : BuiltFrom request parent header) :
    HeaderRules header ∧ ParentRules header parent ↔
      request.baseFeePerGas = kasplexBaseFee.setWidth 256 ∧
        request.blockMetadata.extraData.length ≤ 32 ∧
        request.blockMetadata.gasLimit ≤ maximumGasLimitBlock := by
  rw [← built.baseFee_iff, ← built.extraData, ← built.gasLimit]
  constructor
  · rintro ⟨alone, -⟩
    exact ⟨alone.baseFee, alone.extraData, alone.gasLimit⟩
  · rintro ⟨hfee, hextra, hlimit⟩
    exact ⟨⟨built.difficulty, built.nonce, built.ommers, hextra, hlimit, hfee⟩,
      ⟨built.parentHash, built.number, hfee⟩⟩

end Headers

section Samples

def sampleOmmersRoot (ommers : List Header) : B256 :=
  if ommers = [] then emptyOmmerRootHash else 0

def sampleWithdrawalsRoot (withdrawals : List Withdrawal) : B256 :=
  if withdrawals = [] then emptyWithdrawals else 0

/-- The shared rules as the library has them, on headers after the merge. -/
def sampleRules (alloy : Alloy) : SharedRules where
  validateHeaderExtraData := fun header maxSize =>
    if ¬ header.extraData.length ≤ maxSize then .error (.shared "extra data too long") else .ok ()
  validateHeaderGas := fun header =>
    if ¬ header.gasUsed ≤ header.gasLimit then .error (.shared "gas used exceeds gas limit")
    else if ¬ header.gasLimit ≤ maximumGasLimitBlock then
      .error (.shared "gas limit exceeds maximum")
    else .ok ()
  validateHeaderBaseFee := fun header _ =>
    if ¬ header.baseFeePerGas.isSome then .error .baseFeeMissing else .ok ()
  validateAgainstParentHashNumber := fun header parent =>
    if ¬ header.parentHash = parent.hash then .error (.shared "parent hash mismatch")
    else if ¬ header.number = parent.header.number + 1 then .error (.shared "number mismatch")
    else .ok ()
  calculateOmmersRoot := sampleOmmersRoot
  calculateWithdrawalsRoot := sampleWithdrawalsRoot
  validateBodyAgainstHeader := fun body header =>
    if ¬ header.ommersHash = sampleOmmersRoot body.ommers then
      .error (.shared "ommers hash mismatch")
    else if ¬ header.transactionsRoot = alloy.calculateTransactionRoot body.transactions then
      .error (.shared "transaction root mismatch")
    else if ¬ header.withdrawalsRoot = body.withdrawals.map sampleWithdrawalsRoot then
      .error (.shared "withdrawals root mismatch")
    else .ok ()

theorem sampleRules_asDocumented (alloy : Alloy) : (sampleRules alloy).AsDocumented alloy where
  extraData := fun header maxSize => by simp [sampleRules]
  gas := fun header => by simp only [sampleRules, check_eq_ok_iff, and_true]
  baseFee := fun header spec hasFee => check_eq_ok_iff.mpr ⟨hasFee, rfl⟩
  parent := fun header parent => by simp only [sampleRules, check_eq_ok_iff, and_true]
  body := fun body header => by
    simp only [sampleRules, check_eq_ok_iff, and_true]
    constructor
    · rintro ⟨hommers, htransactions, hwithdrawals⟩
      exact ⟨hommers, htransactions, hwithdrawals⟩
    · intro same
      exact ⟨same.ommers, same.transactions, same.withdrawals⟩
  noOmmers := rfl
  noWithdrawals := rfl

/-- An empty block later than its parent by the standard timestamp and earlier
by the one in the metadata. -/
def earlyRequest : KasplexPayloadAttributes :=
  let request := sampleRequest 1000 2000000000000
  { request with blockMetadata := { request.blockMetadata with timestamp := 800 } }

def emptyHeader : Header :=
  { sampleHeader with
    stateRoot := sampleParent.header.stateRoot
    transactionsRoot := emptyWithdrawals
    receiptsRoot := emptyWithdrawals
    gasUsed := 0 }

def earlyHeader : Header := { emptyHeader with timestamp := 800 }

/-- A hundred seconds after the parent, with the values the dev mode draws at
random fixed. -/
def sampleLocalBuilder : LocalPayloadAttributesBuilder where
  buildEth := fun parent =>
    let timestamp := parent.header.timestamp + 100
    (sampleRequest timestamp 0).payloadAttributes

def localHeader : Header :=
  { emptyHeader with
    beneficiary := 0
    gasLimit := maximumGasLimitBlock
    extraData := []
    baseFeePerGas := some 0 }

/-- The sample functions, with the hashes of the two empty blocks. -/
def ownAlloy : Alloy :=
  { sampleAlloy with
    hashSlow := fun header =>
      if header = earlyHeader then
        0x8735ce37d06c327c134a387570af0873cefb97c484067c196c487999a6e81d60#256
      else if header = localHeader then
        0x113379e53aa1f1377c63336a7d43457585e13c6b7c58e2a55ee3f05cbd205c7c#256
      else sampleAlloy.hashSlow header
    keccak256 := fun bytes =>
      if bytes = [] then 0xc5d2460186f7233c927e7db2dcc703c0e500b653ca82273b7bfad8045d85a470#256
      else sampleAlloy.keccak256 bytes }

def ownBackend : Backend := { sampleBackend with alloy := ownAlloy }

def ownSha256 (bytes : Bytes) : Vector UInt8 32 :=
  if bytes = payloadIdPreimage ownAlloy sampleParent.hash
      (sampleLocalBuilder.build sampleParent) then
    digestOf 0x2080fbbc2f07bb1e53f9e3223cdd0e3b227fb03c2c441d51b5b993c9df0a3286
  else sampleSha256 bytes

/-- A request on the sample parent and the block built for it alone. -/
theorem exists_build (request : KasplexPayloadAttributes) (header : Header)
    (h : ((tryNew ownAlloy ownSha256 sampleParent.hash request 2).toOption.any fun job =>
      (frozenPayload (kasplexPayload ownBackend sampleConfig TxMapping.empty
        ⟨sampleParent, job, fun _ => false⟩).1).any fun p =>
          decide (p.1.block.block.header = header)) = true) :
    ∃ job payload mapping',
      tryNew ownAlloy ownSha256 sampleParent.hash request 2 = .ok job ∧
      (kasplexPayload ownBackend sampleConfig TxMapping.empty
        ⟨sampleParent, job, fun _ => false⟩).1 = .ok (.freeze payload, mapping') ∧
      payload.block.block.header = header := by
  obtain ⟨job, hjob, h⟩ := exists_of_any h
  obtain ⟨payload, mapping', hbuild, hheader⟩ := exists_freeze
    (P := fun p => decide (p.block.block.header = header)) h
  exact ⟨job, payload, mapping', hjob, hbuild, of_decide_eq_true hheader⟩

end Samples

section Timestamp

/-- The engine's check of the timestamp carries over to the built header exactly
when the timestamp of the metadata is not before the parent either. The second
part says what the consensus rule answers. -/
theorem validated_timestamp_is_built_iff (rules : SharedRules) (backend : Backend)
    (documented : rules.AsDocumented backend.alloy) (config : KasplexEvmConfig)
    (cfgAt : U64 → U64 → CfgEnv) (nextBaseFee : Header → NextBlockEnvAttributes → U64)
    (fills : backend.eth.FillsFields config.chainSpec cfgAt nextBaseFee)
    (sha256 : Bytes → Vector UInt8 32) (request : KasplexPayloadAttributes) (version : UInt8)
    (mapping mapping' : TxMapping) (args : BuildArguments) (payload : EthBuiltPayload)
    (job : tryNew backend.alloy sha256 args.parentHeader.hash request version =
      .ok args.attributes)
    (frozen : (kasplexPayload backend config mapping args).1 = .ok (.freeze payload, mapping')) :
    ((validatePayloadAttributesAgainstHeader request args.parentHeader.header = .ok () →
        args.parentHeader.header.timestamp ≤ payload.block.block.header.timestamp) ↔
      request.payloadAttributes.timestamp < args.parentHeader.header.timestamp ∨
        args.parentHeader.header.timestamp.toNat ≤ request.blockMetadata.timestamp.toNat) ∧
    (validateHeaderAgainstParent rules ⟨payload.block.block.header, payload.block.hash⟩
        args.parentHeader = .error (.timestampIsInPast args.parentHeader.header.timestamp
          payload.block.block.header.timestamp) ↔
      request.blockMetadata.timestamp.toNat < args.parentHeader.header.timestamp.toNat) := by
  have built := frozen_builtFrom backend config args fills job frozen
  obtain ⟨fee, hfee, -⟩ := built.baseFee
  constructor
  · rw [validatePayloadAttributesAgainstHeader_eq_ok_iff, built.timestamp_iff]
    exact Decidable.or_iff_not_imp_left.symm
  · rw [validateHeaderAgainstParent_in_past_iff documented ⟨built.parentHash, built.number⟩
      (by rw [hfee]; rfl), BitVec.lt_def, built.timestamp]

/-- The sample block is not before its parent. -/
theorem validated_timestamp_is_built_iff_transfers :
    ∃ payload mapping',
      (kasplexPayload sampleBackend sampleConfig TxMapping.empty (transferArgs 30000000)).1 =
        .ok (.freeze payload, mapping') ∧
      sampleParent.header.timestamp ≤ payload.block.block.header.timestamp := by
  obtain ⟨payload, mapping', frozen, -⟩ := exists_freeze
    (P := fun p => decide (p.block.block.header = sampleHeader))
    (r := (kasplexPayload sampleBackend sampleConfig TxMapping.empty (transferArgs 30000000)).1)
    (by decide +kernel)
  have hrule := (validated_timestamp_is_built_iff (sampleRules sampleAlloy) sampleBackend
    (sampleRules_asDocumented sampleAlloy) sampleConfig sampleCfg sampleNextBaseFee
    sampleEth_fillsFields sampleSha256 (transferRequest 30000000) 2 TxMapping.empty mapping'
    (transferArgs 30000000) payload (tryNew_transferRequest 30000000) frozen).1.mpr
    (Or.inr (by decide))
  exact ⟨payload, mapping', frozen,
    hrule (validatePayloadAttributesAgainstHeader_eq_ok_iff.mpr (by decide))⟩

/-- A request at 1000 by its standard timestamp passes the check against a parent
at 900 and is built at 800. -/
theorem validated_request_built_in_past :
    (validatePayloadAttributesAgainstHeader earlyRequest sampleParent.header).isOk = true ∧
    ∃ job payload mapping',
      tryNew ownAlloy ownSha256 sampleParent.hash earlyRequest 2 = .ok job ∧
      (kasplexPayload ownBackend sampleConfig TxMapping.empty
        ⟨sampleParent, job, fun _ => false⟩).1 = .ok (.freeze payload, mapping') ∧
      payload.block.block.header.timestamp < sampleParent.header.timestamp ∧
      validateHeaderAgainstParent (sampleRules ownAlloy)
        ⟨payload.block.block.header, payload.block.hash⟩ sampleParent =
          .error (.timestampIsInPast 900 800) := by
  refine ⟨by decide, ?_⟩
  obtain ⟨job, payload, mapping', hjob, frozen, hheader⟩ :=
    exists_build earlyRequest earlyHeader (by decide +kernel)
  refine ⟨job, payload, mapping', hjob, frozen, ?_, ?_⟩
  · rw [hheader]
    decide
  · rw [hheader]
    rfl

end Timestamp

section OtherRules

/-- The three checks of the engine on a request. -/
structure PassesEngineChecks (version : EngineApiMessageVersion)
    (request : KasplexPayloadAttributes) (parent : Header) : Prop where
  wellFormed : ensureWellFormedAttributes version request = .ok ()
  versioned : validateVersionSpecificFields version (.payloadAttributes request) = .ok ()
  timestamp : validatePayloadAttributesAgainstHeader request parent = .ok ()

theorem passesEngineChecks_iff {version : EngineApiMessageVersion}
    {request : KasplexPayloadAttributes} {parent : Header} :
    PassesEngineChecks version request parent ↔
      ¬ request.payloadAttributes.timestamp < parent.timestamp := by
  rw [← validatePayloadAttributesAgainstHeader_eq_ok_iff]
  exact ⟨fun passed => passed.timestamp, fun passed => ⟨rfl, rfl, passed⟩⟩

/-- No request of dev mode leads to a header with the fixed base fee. -/
theorem local_baseFee_ne (builder : LocalPayloadAttributesBuilder) {parent : SealedHeader}
    {header : Header} (built : BuiltFrom (builder.build parent) parent header) :
    header.baseFeePerGas ≠ some kasplexBaseFee := by
  rw [ne_eq, built.baseFee_iff]
  change ¬ (0 : U256) = kasplexBaseFee.setWidth 256
  decide

/-- A request that passes the engine's checks is built into a header that obeys
the rules on difficulty, nonce, ommers, extra data, gas limit, base fee and the
link to its parent exactly when it asks for the fixed base fee, for at most 32
bytes of extra data and for a gas limit that is not above the largest. The other
two parts say what these rules are to the two validations. -/
theorem own_header_obeys_rules_iff (rules : SharedRules) (backend : Backend)
    (documented : rules.AsDocumented backend.alloy) (config : KasplexEvmConfig)
    (cfgAt : U64 → U64 → CfgEnv) (nextBaseFee : Header → NextBlockEnvAttributes → U64)
    (fills : backend.eth.FillsFields config.chainSpec cfgAt nextBaseFee)
    (sha256 : Bytes → Vector UInt8 32) (request : KasplexPayloadAttributes) (version : UInt8)
    (message : EngineApiMessageVersion) (mapping mapping' : TxMapping) (args : BuildArguments)
    (payload : EthBuiltPayload)
    (job : tryNew backend.alloy sha256 args.parentHeader.hash request version =
      .ok args.attributes)
    (frozen : (kasplexPayload backend config mapping args).1 = .ok (.freeze payload, mapping')) :
    ((PassesEngineChecks message request args.parentHeader.header →
        HeaderRules payload.block.block.header ∧
          ParentRules payload.block.block.header args.parentHeader) ↔
      request.payloadAttributes.timestamp < args.parentHeader.header.timestamp ∨
        (request.baseFeePerGas = kasplexBaseFee.setWidth 256 ∧
          request.blockMetadata.extraData.length ≤ 32 ∧
          request.blockMetadata.gasLimit ≤ maximumGasLimitBlock)) ∧
    (validateHeader rules config.chainSpec ⟨payload.block.block.header, payload.block.hash⟩ =
        .ok () ↔
      HeaderRules payload.block.block.header ∧
        payload.block.block.header.gasUsed ≤ payload.block.block.header.gasLimit) ∧
    (validateHeaderAgainstParent rules ⟨payload.block.block.header, payload.block.hash⟩
        args.parentHeader = .ok () ↔
      ParentRules payload.block.block.header args.parentHeader ∧
        args.parentHeader.header.timestamp ≤ payload.block.block.header.timestamp) := by
  have built := frozen_builtFrom backend config args fills job frozen
  refine ⟨?_, validateHeader_eq_ok_iff documented,
    validateHeaderAgainstParent_eq_ok_iff documented⟩
  rw [passesEngineChecks_iff, built.rules_iff]
  exact Decidable.or_iff_not_imp_left.symm

/-- The sample block is one of those. -/
theorem own_header_obeys_rules_iff_transfers :
    ∃ payload mapping',
      (kasplexPayload sampleBackend sampleConfig TxMapping.empty (transferArgs 30000000)).1 =
        .ok (.freeze payload, mapping') ∧
      HeaderRules payload.block.block.header ∧
      ParentRules payload.block.block.header sampleParent := by
  obtain ⟨payload, mapping', frozen, -⟩ := exists_freeze
    (P := fun p => decide (p.block.block.header = sampleHeader))
    (r := (kasplexPayload sampleBackend sampleConfig TxMapping.empty (transferArgs 30000000)).1)
    (by decide +kernel)
  have hrules := (own_header_obeys_rules_iff (sampleRules sampleAlloy) sampleBackend
    (sampleRules_asDocumented sampleAlloy) sampleConfig sampleCfg sampleNextBaseFee
    sampleEth_fillsFields sampleSha256 (transferRequest 30000000) 2 .v2 TxMapping.empty mapping'
    (transferArgs 30000000) payload (tryNew_transferRequest 30000000) frozen).1.mpr
    (Or.inr ⟨by decide, by decide, by decide⟩)
  exact ⟨payload, mapping', frozen, hrules (passesEngineChecks_iff.mpr (by decide))⟩

/-- Dev mode on a valid parent: the request passes the checks of the engine, and
its block has no base fee at all. -/
theorem local_header_breaks_rules :
    (validateHeader (sampleRules ownAlloy) kasplexMainnet sampleParent).isOk = true ∧
    PassesEngineChecks .v2 (sampleLocalBuilder.build sampleParent) sampleParent.header ∧
    ∃ job payload mapping',
      tryNew ownAlloy ownSha256 sampleParent.hash (sampleLocalBuilder.build sampleParent) 2 =
        .ok job ∧
      (kasplexPayload ownBackend sampleConfig TxMapping.empty
        ⟨sampleParent, job, fun _ => false⟩).1 = .ok (.freeze payload, mapping') ∧
      ¬ HeaderRules payload.block.block.header ∧
      validateHeader (sampleRules ownAlloy) kasplexMainnet
        ⟨payload.block.block.header, payload.block.hash⟩ =
          .error (.baseFeeDiff 0 2000000000000) ∧
      validateHeaderAgainstParent (sampleRules ownAlloy)
        ⟨payload.block.block.header, payload.block.hash⟩ sampleParent =
          .error (.baseFeeDiff 0 2000000000000) := by
  refine ⟨by decide +kernel, passesEngineChecks_iff.mpr (by decide), ?_⟩
  obtain ⟨job, payload, mapping', hjob, frozen, hheader⟩ :=
    exists_build (sampleLocalBuilder.build sampleParent) localHeader (by decide +kernel)
  have built : BuiltFrom (sampleLocalBuilder.build sampleParent) sampleParent
      payload.block.block.header :=
    frozen_builtFrom ownBackend sampleConfig ⟨sampleParent, job, fun _ => false⟩
      sampleEth_fillsFields hjob frozen
  refine ⟨job, payload, mapping', hjob, frozen, ?_, ?_, ?_⟩
  · exact fun passed => local_baseFee_ne sampleLocalBuilder built passed.baseFee
  · rw [hheader]
    rfl
  · rw [hheader]
    rfl

end OtherRules

section Bodies

/-- The patch leaves no header without a withdrawals root. -/
theorem fixWithdrawalsRoot_isSome (block : Block) :
    (fixWithdrawalsRoot block).header.withdrawalsRoot.isSome = true := by
  unfold fixWithdrawalsRoot
  cases hroot : block.header.withdrawalsRoot with
  | none => rfl
  | some root => simp [hroot]

section Checks

variable {alloy : Alloy} {rules : SharedRules} (documented : rules.AsDocumented alloy)
include documented

/-- A header with the withdrawals root, on a body without withdrawals. -/
theorem validateBodyAgainstHeader_of_no_withdrawals {body : BlockBody} {header : SealedHeader}
    (root : header.header.withdrawalsRoot.isSome = true) (lacking : body.withdrawals = none) :
    ∃ err, validateBodyAgainstHeader rules body header = .error err := by
  cases hbody : validateBodyAgainstHeader rules body header with
  | error err => exact ⟨err, rfl⟩
  | ok u =>
    have same := ((documented.body body header.header).mp hbody).withdrawals
    rw [same, lacking] at root
    cases root

/-- The assembler writes both sides of every root. -/
theorem assembleBlock_bodyMatches {evmEnv : EvmEnv} {ctx : KasplexBlockExecutionCtx}
    {transactions : List TransactionSigned} {output : BlockExecutionResult} {stateRoot : B256}
    {block : Block}
    (assembled : assembleBlock alloy evmEnv ctx transactions output stateRoot = .ok block) :
    BodyMatches alloy rules block.body block.header := by
  obtain ⟨-, -, hb⟩ := assembleBlock_eq_ok assembled
  rw [hb]
  refine ⟨documented.noOmmers.symm, rfl, ?_⟩
  change some emptyWithdrawals = some (rules.calculateWithdrawalsRoot [])
  rw [documented.noWithdrawals]

end Checks

/-- The block of an accepted payload has the patched root in its header and no
withdrawals in its body. -/
theorem decoded_withdrawals {alloy : Alloy}
    (decoded : ∀ p block, alloy.tryIntoBlock p = .ok block → block.body.withdrawals = none)
    {mapping : TxMapping} {data : ExecutionData} {recovered : RecoveredBlock}
    (accepted : (ensureWellFormedPayload alloy mapping data).1 = .ok recovered) :
    recovered.sealedBlock.block.header.withdrawalsRoot.isSome = true ∧
      recovered.sealedBlock.block.body.withdrawals = none := by
  obtain ⟨p, block, -, hblock, -, hsealed, -⟩ := ensureWellFormedPayload_eq_ok_iff.mp accepted
  rw [hsealed]
  refine ⟨fixWithdrawalsRoot_isSome block, ?_⟩
  change (fixWithdrawalsRoot block).body.withdrawals = none
  rw [fixWithdrawalsRoot_body]
  exact decoded p block hblock

/-- No accepted payload decodes to a block whose body passes for its header,
although every assembled block does pass; so an assembled block does not come
back from its payload: it has an empty list of withdrawals, the decoded one has
none. -/
theorem decoded_body_never_matches (alloy : Alloy) (rules : SharedRules)
    (documented : rules.AsDocumented alloy)
    (decoded : ∀ p block, alloy.tryIntoBlock p = .ok block → block.body.withdrawals = none) :
    (∀ mapping data recovered, (ensureWellFormedPayload alloy mapping data).1 = .ok recovered →
      ∃ err, validateBodyAgainstHeader rules recovered.sealedBlock.block.body
        ⟨recovered.sealedBlock.block.header, recovered.sealedBlock.hash⟩ = .error err) ∧
    (∀ evmEnv ctx transactions output stateRoot block,
      assembleBlock alloy evmEnv ctx transactions output stateRoot = .ok block →
      validateBodyAgainstHeader rules block.body ⟨block.header, (alloy.sealSlow block).hash⟩ =
        .ok () ∧
      ∀ mapping mapping' recovered,
        (ensureWellFormedPayload alloy mapping'
          (blockToPayload alloy mapping (alloy.sealSlow block)).1).1 = .ok recovered →
        recovered.sealedBlock.block ≠ block ∧
          block.body.withdrawals = some [] ∧
          recovered.sealedBlock.block.body.withdrawals = none) := by
  constructor
  · intro mapping data recovered accepted
    obtain ⟨hroot, hnone⟩ := decoded_withdrawals decoded accepted
    exact validateBodyAgainstHeader_of_no_withdrawals documented hroot hnone
  · intro evmEnv ctx transactions output stateRoot block assembled
    have hempty : block.body.withdrawals = some [] := by
      obtain ⟨-, -, hb⟩ := assembleBlock_eq_ok assembled
      rw [hb]
    refine ⟨(documented.body _ _).mpr (assembleBlock_bodyMatches documented assembled), ?_⟩
    intro mapping mapping' recovered accepted
    obtain ⟨-, hnone⟩ := decoded_withdrawals decoded accepted
    refine ⟨?_, hempty, hnone⟩
    intro same
    rw [same, hempty] at hnone
    cases hnone

theorem blockFromPayload_withdrawals {decode : Bytes → Option TransactionSigned}
    {trieRoot : List Bytes → B256} {p : ExecutionPayloadV1} {block : Block}
    (h : blockFromPayload decode trieRoot p = .ok block) : block.body.withdrawals = none := by
  unfold blockFromPayload at h
  split at h
  · cases h
  · split at h
    · cases h
    · cases h
    · cases h
      rfl

/-- The payload of the sample block, decoded. -/
theorem decoded_body_never_matches_transfers :
    ∃ recovered,
      (ensureWellFormedPayload sampleAlloy TxMapping.empty
        (blockToPayload sampleAlloy TxMapping.empty (sampleAlloy.sealSlow sampleBlock)).1).1 =
          .ok recovered ∧
      ∃ err, validateBodyAgainstHeader (sampleRules sampleAlloy)
        recovered.sealedBlock.block.body
        ⟨recovered.sealedBlock.block.header, recovered.sealedBlock.hash⟩ = .error err := by
  obtain ⟨recovered, accepted⟩ := exists_of_isOk (show (ensureWellFormedPayload sampleAlloy
    TxMapping.empty (blockToPayload sampleAlloy TxMapping.empty
      (sampleAlloy.sealSlow sampleBlock)).1).1.isOk = true by decide +kernel)
  have hfail := (decoded_body_never_matches sampleAlloy (sampleRules sampleAlloy)
    (sampleRules_asDocumented sampleAlloy) (fun p block => blockFromPayload_withdrawals)).1
    TxMapping.empty _ recovered accepted
  exact ⟨recovered, accepted, hfail⟩

/-- The sample block passes with the body it was assembled with, and its payload
is accepted for a block with the same header and another body, which does not
pass. -/
theorem decoded_body_lacks_withdrawals :
    (validateBodyAgainstHeader (sampleRules sampleAlloy) sampleBlock.body
      ⟨sampleBlock.header, (sampleAlloy.sealSlow sampleBlock).hash⟩).isOk = true ∧
    ∃ recovered,
      (ensureWellFormedPayload sampleAlloy TxMapping.empty (blockToPayload sampleAlloy
        TxMapping.empty (sampleAlloy.sealSlow sampleBlock)).1).1 = .ok recovered ∧
      recovered.sealedBlock.block.header = sampleBlock.header ∧
      recovered.sealedBlock.block.body ≠ sampleBlock.body ∧
      (validateBodyAgainstHeader (sampleRules sampleAlloy) recovered.sealedBlock.block.body
        ⟨recovered.sealedBlock.block.header, recovered.sealedBlock.hash⟩).isOk = false := by
  refine ⟨by decide +kernel, ?_⟩
  obtain ⟨recovered, accepted, hfacts⟩ := exists_of_any
    (x := (ensureWellFormedPayload sampleAlloy TxMapping.empty (blockToPayload sampleAlloy
      TxMapping.empty (sampleAlloy.sealSlow sampleBlock)).1).1)
    (P := fun recovered => decide (recovered.sealedBlock.block.header = sampleBlock.header ∧
      recovered.sealedBlock.block.body ≠ sampleBlock.body ∧
      (validateBodyAgainstHeader (sampleRules sampleAlloy) recovered.sealedBlock.block.body
        ⟨recovered.sealedBlock.block.header, recovered.sealedBlock.hash⟩).isOk = false))
    (by decide +kernel)
  exact ⟨recovered, accepted, of_decide_eq_true hfacts⟩

end Bodies

end OwnBlocks
