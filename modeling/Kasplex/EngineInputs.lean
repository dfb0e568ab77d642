import Kasplex.ConcurrentBuilds
import Kasplex.EngineValidator
import Kasplex.Panics

/-!
# Inputs of the engine API out of range

The metadata timestamp and the base fee of a request have 256 bits, and so has
the base fee of a payload; a block has 64 for each. Three of the narrowings
have no check in front of them and panic. The one in the validator comes after
the payload has been decoded, which refuses a base fee that does not fit, and
the tip is only asked for after the EVM has compared the cap with the base fee.
-/

namespace EngineInputs

open Primitives MachineArith EvmState ChainSpec BlockExecutor EvmConfig PayloadAttributes
  SubmissionNumbers PayloadBuilder EngineValidator Panics
open ConcurrentBuilds (Priced)

/-- The environment of a build fits a header, and its base fee is the one the
tips are taken from. -/
structure Buildable (evmEnv : EvmEnv) (baseFee : U64) : Prop where
  number : evmEnv.blockEnv.number.toNat < 2 ^ 64
  timestamp : evmEnv.blockEnv.timestamp.toNat < 2 ^ 64
  basefee : evmEnv.blockEnv.basefee = baseFee

theorem applyPreExecutionChanges_returns {system : SystemCaller} {ex : KasplexBlockExecutor}
    (number : ex.evmEnv.blockEnv.number.toNat < 2 ^ 64) :
    Returns (ex.applyPreExecutionChanges system) := by
  refine (returns_narrowOrPanic_bind_iff fun n _ => ?_).mpr number
  refine (returns_mapError_error _ _).bind fun db₁ _ => ?_
  refine (returns_mapError_error _ _).bind fun db₂ _ => ?_
  exact returns_ok _

theorem assembleBlock_returns {alloy : Alloy} {evmEnv : EvmEnv} {baseFee : U64}
    (env : Buildable evmEnv baseFee) (ctx : KasplexBlockExecutionCtx)
    (transactions : List TransactionSigned) (output : BlockExecutionResult) (stateRoot : B256) :
    Returns (assembleBlock alloy evmEnv ctx transactions output stateRoot) := by
  refine (returns_narrowOrPanic_bind_iff fun timestamp _ => ?_).mpr env.timestamp
  refine (returns_narrowOrPanic_bind_iff fun number _ => ?_).mpr env.number
  exact returns_ok _

theorem finish_returns {backend : Backend} {b : BlockBuilder} {baseFee : U64}
    (env : Buildable b.executor.evmEnv baseFee) : Returns (b.finish backend) := by
  refine (returns_mapError_error _ _).bind fun stateRoot _ => ?_
  refine Returns.bind ?_ fun block _ => returns_ok _
  exact (assembleBlock_returns env _ _ _ _).mapError fun err => ⟨_, rfl⟩

/-- Under a priced EVM the loop finds a tip for each transaction it takes. -/
theorem executionLoop_returns {transact : Transact} (priced : Priced transact) {baseFee : U64}
    {mapping : TxMapping} {cancel : Nat → Bool} {st : LoopState} (txs : List Recovered)
    (env : Buildable st.builder.executor.evmEnv baseFee) :
    Returns (executionLoop transact baseFee mapping cancel 0 st txs) := by
  intro message h
  obtain ⟨tx, db, output, haccepted, hnone⟩ := executionLoop_panic h
  rw [← env.basefee] at hnone
  exact priced.tip_isSome haccepted hnone

theorem buildBlock_returns {backend : Backend} (priced : Priced backend.transact)
    {spec : KasplexChainSpec} {mapping : TxMapping} {args : BuildArguments} {db : Database}
    {baseFee : U64} {evmEnv : EvmEnv} {ctx : KasplexBlockExecutionCtx}
    (env : Buildable evmEnv baseFee) :
    Returns (buildBlock backend spec mapping args db baseFee evmEnv ctx) := by
  refine Returns.bind ?_ fun pre hpre => ?_
  · exact (applyPreExecutionChanges_returns env.number).mapError fun err => ⟨_, rfl⟩
  obtain ⟨db', rfl⟩ := applyPreExecutionChanges_eq_ok (mapError_eq_ok hpre)
  refine (executionLoop_returns priced _ env).bind fun loop hloop => ?_
  cases loop with
  | none => exact returns_ok _
  | some last =>
    obtain ⟨included, outputs, trace⟩ := executionLoop_trace hloop
    have hlast : Buildable last.builder.executor.evmEnv baseFee := by
      rw [(executeAll_frame trace.executed).1]
      exact env
    exact (finish_returns hlast).bind fun outcome _ => returns_ok _

theorem tryNew_of_oversized (alloy : Alloy) (sha256 : Bytes → Vector UInt8 32) (parent : B256)
    (attributes : KasplexPayloadAttributes) (version : UInt8)
    (oversized : 2 ^ 64 ≤ attributes.blockMetadata.timestamp.toNat) :
    KasplexPayloadBuilderAttributes.tryNew alloy sha256 parent attributes version =
      .error (.panic (conversionMessage 64 attributes.blockMetadata.timestamp)) := by
  unfold KasplexPayloadBuilderAttributes.tryNew
  rw [narrowOrPanic_of_le oversized]
  rfl

theorem tryNew_of_fits (alloy : Alloy) (sha256 : Bytes → Vector UInt8 32) (parent : B256)
    {attributes : KasplexPayloadAttributes} (version : UInt8)
    (fits : attributes.blockMetadata.timestamp.toNat < 2 ^ 64) :
    ∃ job, KasplexPayloadBuilderAttributes.tryNew alloy sha256 parent attributes version =
      .ok job := by
  unfold KasplexPayloadBuilderAttributes.tryNew
  rw [narrowOrPanic_of_lt fits]
  exact ⟨_, rfl⟩

theorem tryNew_baseFeePerGas {alloy : Alloy} {sha256 : Bytes → Vector UInt8 32} {parent : B256}
    {attributes : KasplexPayloadAttributes} {version : UInt8}
    {job : KasplexPayloadBuilderAttributes}
    (h : KasplexPayloadBuilderAttributes.tryNew alloy sha256 parent attributes version = .ok job) :
    job.baseFeePerGas = attributes.baseFeePerGas := by
  obtain ⟨-, -, hinputs⟩ := tryNew_eq_ok h
  exact congrArg KasplexPayloadBuilderAttributes.BuildInputs.baseFeePerGas hinputs

theorem tryNew_returns_iff (alloy : Alloy) (sha256 : Bytes → Vector UInt8 32) (parent : B256)
    (attributes : KasplexPayloadAttributes) (version : UInt8) :
    Returns (KasplexPayloadBuilderAttributes.tryNew alloy sha256 parent attributes version) ↔
      attributes.blockMetadata.timestamp.toNat < 2 ^ 64 :=
  returns_narrowOrPanic_bind_iff fun _ _ => returns_ok _

/-- The state of the parent cannot be had, so the build ends before it reads
the base fee. -/
def StateMissing (backend : Backend) (parentHeader : SealedHeader) : Prop :=
  ∃ err, backend.stateByBlockHash parentHeader.hash = .error err

section Build

variable {backend : Backend} (config : KasplexEvmConfig) (mapping : TxMapping)
  (args : BuildArguments)

theorem kasplexPayload_of_stateMissing (missing : StateMissing backend args.parentHeader) :
    Reports (kasplexPayload backend config mapping args).1 := by
  obtain ⟨err, hstate⟩ := missing
  refine ⟨err, ?_⟩
  unfold kasplexPayload
  rw [hstate]
  rfl

/-- With the state at hand, a base fee beyond 64 bits panics. -/
theorem kasplexPayload_of_oversized (present : ¬ StateMissing backend args.parentHeader)
    (oversized : 2 ^ 64 ≤ args.attributes.baseFeePerGas.toNat) :
    (kasplexPayload backend config mapping args).1 =
      .error (.panic (conversionMessage 64 args.attributes.baseFeePerGas)) := by
  unfold kasplexPayload
  cases hstate : backend.stateByBlockHash args.parentHeader.hash with
  | error err => exact absurd ⟨err, hstate⟩ present
  | ok db =>
    dsimp only [Except.mapError]
    rw [narrowOrPanic_of_le oversized]

theorem kasplexPayload_returns (priced : Priced backend.transact) {cfgAt : U64 → U64 → CfgEnv}
    {nextBaseFee : Header → NextBlockEnvAttributes → U64}
    (fills : backend.eth.FillsFields config.chainSpec cfgAt nextBaseFee)
    (fits : args.attributes.baseFeePerGas.toNat < 2 ^ 64) :
    Returns (kasplexPayload backend config mapping args).1 := by
  unfold kasplexPayload
  cases hstate : backend.stateByBlockHash args.parentHeader.hash with
  | error err => exact returns_error err
  | ok db =>
    rw [narrowOrPanic_of_lt fits]
    refine (buildBlock_returns priced ?_).map _
    change Buildable (buildEnv backend config.chainSpec args _) _
    unfold buildEnv
    rw [fills.nextEvmEnv]
    refine ⟨?_, ?_, rfl⟩
    · exact lt_of_eq_of_lt (toNat_setWidth_of_le (by decide) _) (BitVec.isLt _)
    · exact lt_of_eq_of_lt (toNat_setWidth_of_le (by decide) _) (BitVec.isLt _)

end Build

/-- The base fee that is narrowed for the execution context: only V1 has it
read. -/
def contextFee : ExecutionPayload → U256
  | .v1 p => p.baseFeePerGas
  | _ => 0

theorem contextForPayload_returns_iff {ε : Type} (data : ExecutionData) :
    Returns (KasplexEvmConfig.contextForPayload data : Except (Fault ε) _) ↔
      (contextFee data.payload).toNat < 2 ^ 64 := by
  unfold KasplexEvmConfig.contextForPayload
  cases data.payload with
  | v1 p => exact returns_narrowOrPanic_bind_iff fun _ _ => returns_ok _
  | v2 p => exact iff_of_true (returns_ok _) (by simp [contextFee])
  | v3 p => exact iff_of_true (returns_ok _) (by simp [contextFee])

theorem checkBlock_returns {alloy : Alloy} (payload : ExecutionPayload) (block : Block)
    (fits : (contextFee payload).toNat < 2 ^ 64) : Returns (checkBlock alloy payload block) := by
  have logged : Returns (logMismatch payload : Except (Fault NewPayloadError) Unit) := by
    cases payload with
    | v1 p => exact (returns_narrowOrPanic_bind_iff fun _ _ => returns_ok _).mpr fits
    | v2 p => exact returns_ok _
    | v3 p => exact returns_ok _
  unfold checkBlock
  dsimp only
  split
  · exact logged.bind fun _ _ => returns_error _
  · split
    · exact returns_ok _
    · exact returns_error _

/-- The validator handles every payload: decoding stands before the narrowing,
and it refuses what would not fit. -/
theorem ensureWellFormedPayload_handles {alloy : Alloy}
    (rejects : ∀ p, 2 ^ 64 ≤ p.baseFeePerGas.toNat → ∃ err, alloy.tryIntoBlock p = .error err)
    (mapping : TxMapping) (data : ExecutionData) :
    Handles (2 ^ 64 ≤ data.payload.asV1.baseFeePerGas.toNat)
      (ensureWellFormedPayload alloy mapping data).1 := by
  unfold ensureWellFormedPayload processKasplexExecutionData
  cases hp : data.payload with
  | v1 p =>
    cases hblock : alloy.tryIntoBlock p with
    | error err =>
      simp only [hblock, bind, Except.bind]
      exact ⟨returns_error _, fun _ => ⟨_, rfl⟩⟩
    | ok block =>
      have fits : p.baseFeePerGas.toNat < 2 ^ 64 := by
        by_contra oversized
        obtain ⟨err, herr⟩ := rejects p (by omega)
        rw [hblock] at herr
        cases herr
      have inRange : ¬ 2 ^ 64 ≤ p.baseFeePerGas.toNat := by omega
      simp only [hblock, bind, Except.bind, pure, Except.pure]
      exact (checkBlock_returns (.v1 p) _ fits).handles inRange
  | v2 p => exact ⟨returns_error _, fun _ => ⟨_, rfl⟩⟩
  | v3 p => exact ⟨returns_error _, fun _ => ⟨_, rfl⟩⟩

/-- The four calls on one request and one payload: each returns, and a value
that does not fit comes back as an error. -/
structure InputsHandled (backend : Backend) (sha256 : Bytes → Vector UInt8 32)
    (config : KasplexEvmConfig) (mapping : TxMapping) (parentHeader : SealedHeader)
    (cancel : Nat → Bool) (attributes : KasplexPayloadAttributes) (version : UInt8)
    (data : ExecutionData) : Prop where
  tryNew : Handles (2 ^ 64 ≤ attributes.blockMetadata.timestamp.toNat)
    (KasplexPayloadBuilderAttributes.tryNew backend.alloy sha256 parentHeader.hash attributes
      version)
  kasplexPayload : ∀ job,
    KasplexPayloadBuilderAttributes.tryNew backend.alloy sha256 parentHeader.hash attributes
      version = .ok job →
    Handles (2 ^ 64 ≤ attributes.baseFeePerGas.toNat)
      (kasplexPayload backend config mapping ⟨parentHeader, job, cancel⟩).1
  contextForPayload : Handles (2 ^ 64 ≤ (contextFee data.payload).toNat)
    (KasplexEvmConfig.contextForPayload data : Except (Fault Empty) KasplexBlockExecutionCtx)
  ensureWellFormedPayload : Handles (2 ^ 64 ≤ data.payload.asV1.baseFeePerGas.toNat)
    (ensureWellFormedPayload backend.alloy mapping data).1

/-- What is narrowed without a check fits: the metadata timestamp, the base fee
of the request unless the build ends before, and the base fee of the payload. -/
structure InputsFit (backend : Backend) (parentHeader : SealedHeader)
    (attributes : KasplexPayloadAttributes) (data : ExecutionData) : Prop where
  timestamp : attributes.blockMetadata.timestamp.toNat < 2 ^ 64
  baseFee : attributes.baseFeePerGas.toNat < 2 ^ 64 ∨ StateMissing backend parentHeader
  contextFee : (contextFee data.payload).toNat < 2 ^ 64

/-- A request and a payload are handled without a panic exactly when what is
narrowed unchecked fits. The validator is never the one that panics. -/
theorem engine_inputs_handled_iff (backend : Backend) (sha256 : Bytes → Vector UInt8 32)
    (config : KasplexEvmConfig) (mapping : TxMapping) (parentHeader : SealedHeader)
    (cancel : Nat → Bool) (attributes : KasplexPayloadAttributes) (version : UInt8)
    (data : ExecutionData) (cfgAt : U64 → U64 → CfgEnv)
    (nextBaseFee : Header → NextBlockEnvAttributes → U64)
    (rejects : ∀ p, 2 ^ 64 ≤ p.baseFeePerGas.toNat →
      ∃ err, backend.alloy.tryIntoBlock p = .error err)
    (priced : Priced backend.transact)
    (fills : backend.eth.FillsFields config.chainSpec cfgAt nextBaseFee) :
    InputsHandled backend sha256 config mapping parentHeader cancel attributes version data ↔
      InputsFit backend parentHeader attributes data := by
  constructor
  · intro handled
    have timestamp := (tryNew_returns_iff _ _ _ _ _).mp handled.tryNew.returns
    have contextFits := (contextForPayload_returns_iff data).mp handled.contextForPayload.returns
    refine ⟨timestamp, ?_, contextFits⟩
    by_contra unfit
    obtain ⟨oversized, present⟩ := not_or.mp unfit
    obtain ⟨job, hjob⟩ := tryNew_of_fits backend.alloy sha256 parentHeader.hash version timestamp
    refine (handled.kasplexPayload job hjob).returns (conversionMessage 64 job.baseFeePerGas)
      (kasplexPayload_of_oversized config mapping ⟨parentHeader, job, cancel⟩ present ?_)
    rw [tryNew_baseFeePerGas hjob]
    omega
  · intro fit
    constructor
    · exact ((tryNew_returns_iff _ _ _ _ _).mpr fit.timestamp).handles (by
        have := fit.timestamp
        omega)
    · intro job hjob
      rcases fit.baseFee with fits | missing
      · have hfee : job.baseFeePerGas.toNat < 2 ^ 64 := by rwa [tryNew_baseFeePerGas hjob]
        exact (kasplexPayload_returns config mapping ⟨parentHeader, job, cancel⟩ priced fills
          hfee).handles (by omega)
      · have reported := kasplexPayload_of_stateMissing config mapping
          ⟨parentHeader, job, cancel⟩ missing
        exact ⟨reported.returns, fun _ => reported⟩
    · exact ((contextForPayload_returns_iff data).mpr fit.contextFee).handles (by
        have := fit.contextFee
        omega)
    · exact ensureWellFormedPayload_handles rejects mapping data

section Samples

/-- Decoding as documented refuses a base fee that has no header. -/
theorem blockFromPayload_rejects (decode : Bytes → Option TransactionSigned)
    (trieRoot : List Bytes → B256) (p : ExecutionPayloadV1)
    (oversized : 2 ^ 64 ≤ p.baseFeePerGas.toNat) :
    ∃ err, blockFromPayload decode trieRoot p = .error err := by
  have hnarrow : narrow 64 p.baseFeePerGas = none := if_neg (by omega)
  unfold blockFromPayload
  split
  · exact ⟨_, rfl⟩
  · rw [hnarrow]
    exact ⟨_, rfl⟩

def samplePayload : ExecutionPayloadV1 := payloadFromBlock encodeEip1559 0 sampleBlock

theorem engine_inputs_handled_iff_transfers :
    InputsFit sampleBackend sampleParent (transferRequest 30000000)
      ⟨.v1 samplePayload, .none⟩ ∧
    InputsHandled sampleBackend sampleSha256 sampleConfig TxMapping.empty sampleParent
      (fun _ => false) (transferRequest 30000000) 2 ⟨.v1 samplePayload, .none⟩ := by
  have fit : InputsFit sampleBackend sampleParent (transferRequest 30000000)
      ⟨.v1 samplePayload, .none⟩ := ⟨by decide, Or.inl (by decide), by decide⟩
  exact ⟨fit, (engine_inputs_handled_iff sampleBackend sampleSha256 sampleConfig TxMapping.empty
    sampleParent (fun _ => false) (transferRequest 30000000) 2 ⟨.v1 samplePayload, .none⟩
    sampleCfg sampleNextBaseFee (blockFromPayload_rejects sampleDecode sampleTrieRoot)
    ConcurrentBuilds.transferEvm_priced sampleEth_fillsFields).mpr fit⟩

/-- The least value that takes 65 bits. -/
def oversized : U256 := 0x10000000000000000

/-- The transfers at a time out of range. -/
def lateRequest : KasplexPayloadAttributes :=
  let request := transferRequest 30000000
  { request with blockMetadata := { request.blockMetadata with timestamp := oversized } }

/-- The transfers at a base fee out of range. -/
def dearRequest : KasplexPayloadAttributes :=
  { transferRequest 30000000 with baseFeePerGas := oversized }

def dearJob : KasplexPayloadBuilderAttributes :=
  { transferJob 30000000 with baseFeePerGas := oversized }

/-- The base fee goes through unread. -/
theorem tryNew_withBaseFee {alloy : Alloy} {sha256 : Bytes → Vector UInt8 32} {parent : B256}
    {attributes : KasplexPayloadAttributes} {version : UInt8}
    {job : KasplexPayloadBuilderAttributes} (fee : U256)
    (h : KasplexPayloadBuilderAttributes.tryNew alloy sha256 parent attributes version = .ok job) :
    KasplexPayloadBuilderAttributes.tryNew alloy sha256 parent
      { attributes with baseFeePerGas := fee } version = .ok { job with baseFeePerGas := fee } := by
  obtain ⟨timestamp, ht, h⟩ := bind_eq_ok h
  cases h
  unfold KasplexPayloadBuilderAttributes.tryNew
  dsimp only
  rw [ht]
  rfl

def dearPayload : ExecutionPayloadV1 := { samplePayload with baseFeePerGas := oversized }

/-- Each of the three narrowings panics on a value one past its range. -/
theorem oversized_inputs_panic :
    (KasplexPayloadBuilderAttributes.tryNew sampleAlloy sampleSha256 sampleParent.hash
        lateRequest 2 = .error (.panic (conversionMessage 64 oversized)) ∧
      ¬ InputsHandled sampleBackend sampleSha256 sampleConfig TxMapping.empty sampleParent
        (fun _ => false) lateRequest 2 ⟨.v1 samplePayload, .none⟩) ∧
    (KasplexPayloadBuilderAttributes.tryNew sampleAlloy sampleSha256 sampleParent.hash
        dearRequest 2 = .ok dearJob ∧
      (kasplexPayload sampleBackend sampleConfig TxMapping.empty
        ⟨sampleParent, dearJob, fun _ => false⟩).1 =
          .error (.panic (conversionMessage 64 oversized)) ∧
      ¬ InputsHandled sampleBackend sampleSha256 sampleConfig TxMapping.empty sampleParent
        (fun _ => false) dearRequest 2 ⟨.v1 samplePayload, .none⟩) ∧
    ((KasplexEvmConfig.contextForPayload ⟨.v1 dearPayload, .none⟩ :
        Except (Fault Empty) KasplexBlockExecutionCtx) =
          .error (.panic (conversionMessage 64 oversized)) ∧
      ¬ InputsHandled sampleBackend sampleSha256 sampleConfig TxMapping.empty sampleParent
        (fun _ => false) (transferRequest 30000000) 2 ⟨.v1 dearPayload, .none⟩) := by
  have late : KasplexPayloadBuilderAttributes.tryNew sampleAlloy sampleSha256 sampleParent.hash
      lateRequest 2 = .error (.panic (conversionMessage 64 oversized)) :=
    tryNew_of_oversized _ _ _ _ _ (by decide)
  have present : ¬ StateMissing sampleBackend sampleParent := by
    rintro ⟨err, h⟩
    cases h
  have build := kasplexPayload_of_oversized sampleConfig TxMapping.empty
    ⟨sampleParent, dearJob, fun _ => false⟩ present (by decide)
  have context : (KasplexEvmConfig.contextForPayload ⟨.v1 dearPayload, .none⟩ :
      Except (Fault Empty) KasplexBlockExecutionCtx) =
        .error (.panic (conversionMessage 64 oversized)) := rfl
  have started := tryNew_withBaseFee oversized (tryNew_transferRequest 30000000)
  refine ⟨⟨late, fun handled => ?_⟩, ⟨started, build, fun handled => ?_⟩,
    ⟨context, fun handled => ?_⟩⟩
  · exact handled.tryNew.returns _ late
  · exact (handled.kasplexPayload _ started).returns _ build
  · exact handled.contextForPayload.returns _ context

end Samples

end EngineInputs
