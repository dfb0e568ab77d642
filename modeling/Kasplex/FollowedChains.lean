import Kasplex.PostExecution

/-!
# A follower of the node's own chain

A leader builds block after block on its own head, and a follower is sent the
payloads. The follower decodes each payload, applies the header rules, executes
the transactions on its state and compares the outcome with the header. None of
its checks looks at what the leader knew besides the payload.
-/

namespace FollowedChains

open Primitives MachineArith EvmState ChainSpec FeeHandler BlockExecutor EvmConfig
  PayloadAttributes PayloadBuilder SubmissionNumbers EngineTypes EngineValidator BuiltBlocks
  LedgerRuns Consensus OwnBlocks PostExecution Paths
open KasplexPayloadBuilderAttributes (tryNew)

/-- The encoding of a transaction is read back as the transaction. -/
def Encodes (alloy : Alloy) (tx : TransactionSigned) : Prop :=
  alloy.decode2718Exact (alloy.encode2718 tx) = some tx

def sealedHeader (block : SealedBlock) : SealedHeader := ⟨block.block.header, block.hash⟩

/-- Nothing is checked: the ommers hash is left to the header rules. -/
def validateBlockPreExecution (_block : SealedBlock) : Except ConsensusError Unit := .ok ()

/-- One build of the leader: the request, and what came of it. -/
structure Built where
  request : KasplexPayloadAttributes
  version : UInt8
  attributes : KasplexPayloadBuilderAttributes
  cancel : Nat → Bool
  mapping : TxMapping
  mapping' : TxMapping
  payload : EthBuiltPayload

structure Leader where
  head : SealedHeader
  db : Database

structure Follower where
  head : SealedHeader
  db : Database
  mapping : TxMapping

/-- What the follower is sent. -/
def wire (alloy : Alloy) (b : Built) : ExecutionData :=
  (blockToPayload alloy b.mapping' b.payload.block).1

/-- A build on the head, in the head's state. Its block is the next head and the
state it led to the next state. -/
inductive LeaderStep (backend : Backend) (config : KasplexEvmConfig)
    (sha256 : Bytes → Vector UInt8 32) : Leader → Built → Leader → Prop
  | built {s : Leader} {b : Built} {baseFee : U64} {pre : KasplexBlockExecutor} {last : LoopState}
      {included : List Recovered} {outputs : List ResultAndState} {outcome : BlockBuilderOutcome} :
      tryNew backend.alloy sha256 s.head.hash b.request b.version = .ok b.attributes →
      (kasplexPayload backend config b.mapping ⟨s.head, b.attributes, b.cancel⟩).1 =
        .ok (.freeze b.payload, b.mapping') →
      Frozen backend config.chainSpec b.mapping ⟨s.head, b.attributes, b.cancel⟩ s.db baseFee pre
        last included outputs outcome →
      b.payload.block = outcome.block.sealedBlock →
      LeaderStep backend config sha256 s b
        ⟨sealedHeader outcome.block.sealedBlock, outcome.postState⟩

/-- A payload that every check of the follower accepts; the last one, the node
library's own, compares the state root. -/
inductive FollowStep (backend : Backend) (config : KasplexEvmConfig) (rules : SharedRules)
    (check : PostExecutionCheck) : Follower → ExecutionData → Follower → Prop
  | accepted {s : Follower} {data : ExecutionData} {block : RecoveredBlock}
      {ctx : KasplexBlockExecutionCtx} {txs : List Recovered} {result : BlockExecutionResult}
      {db : Database} :
      (ensureWellFormedPayload backend.alloy s.mapping data).1 = .ok block →
      validateHeader rules config.chainSpec (sealedHeader block.sealedBlock) = .ok () →
      validateHeaderAgainstParent rules (sealedHeader block.sealedBlock) s.head = .ok () →
      validateBlockPreExecution block.sealedBlock = .ok () →
      (KasplexEvmConfig.contextForPayload data :
        Except (Fault BlockExecutionError) KasplexBlockExecutionCtx) = .ok ctx →
      KasplexEvmConfig.txIteratorForPayload backend.alloy data = some txs →
      executeBlock backend config.chainSpec (config.evmEnvForPayload backend.eth data) ctx s.db
        txs = .ok (result, db) →
      validateBlockPostExecution check config.chainSpec block result none = .ok () →
      backend.stateRoot db = .ok block.sealedBlock.block.header.stateRoot →
      FollowStep backend config rules check s data ⟨sealedHeader block.sealedBlock, db,
        (ensureWellFormedPayload backend.alloy s.mapping data).2⟩

/-- What the leader has to be asked for. -/
structure Acceptable (s : Leader) (b : Built) : Prop where
  baseFee : b.request.baseFeePerGas = kasplexBaseFee.setWidth 256
  extraData : b.request.blockMetadata.extraData.length ≤ 32
  timestamp : s.head.header.timestamp.toNat ≤ b.request.blockMetadata.timestamp.toNat
  gasLimit : b.request.blockMetadata.gasLimit ≤ maximumGasLimitBlock
  gasUsed : b.payload.block.block.header.gasUsed ≤ b.request.blockMetadata.gasLimit

/-- The follower is where the leader is. -/
structure Level (leader : Leader) (follower : Follower) : Prop where
  head : follower.head = leader.head
  db : follower.db = leader.db

section Decoding

variable {decode : Bytes → Option TransactionSigned} {trieRoot : List Bytes → B256}
  {p : ExecutionPayloadV1} {block : Block}

/-- The block around the transactions of a payload. -/
def decodedBlock (trieRoot : List Bytes → B256) (p : ExecutionPayloadV1)
    (transactions : List TransactionSigned) (baseFee : U64) : Block where
  header := {
    parentHash := p.parentHash
    ommersHash := emptyOmmerRootHash
    beneficiary := p.feeRecipient
    stateRoot := p.stateRoot
    transactionsRoot := trieRoot p.transactions
    receiptsRoot := p.receiptsRoot
    logsBloom := p.logsBloom
    difficulty := 0
    number := p.blockNumber
    gasLimit := p.gasLimit
    gasUsed := p.gasUsed
    timestamp := p.timestamp
    extraData := p.extraData
    mixHash := p.prevRandao
    nonce := 0
    baseFeePerGas := some baseFee
    withdrawalsRoot := none
    blobGasUsed := none
    excessBlobGas := none
    parentBeaconBlockRoot := none
    requestsHash := none }
  body := ⟨transactions, [], none⟩

/-- What decodes, and into what. -/
theorem blockFromPayload_eq_ok (h : blockFromPayload decode trieRoot p = .ok block) :
    p.extraData.length ≤ 32 ∧ ∃ transactions baseFee,
      p.transactions.mapM decode = some transactions ∧
      baseFee.toNat = p.baseFeePerGas.toNat ∧
      block = decodedBlock trieRoot p transactions baseFee := by
  unfold blockFromPayload at h
  split at h
  · cases h
  · rename_i hextra
    split at h
    · cases h
    · cases h
    · rename_i baseFee transactions hnarrow htxs
      cases h
      exact ⟨by omega, transactions, baseFee, htxs, narrow_eq_some_iff.mp hnarrow, rfl⟩

end Decoding

section Frozen

variable {backend : Backend} {config : KasplexEvmConfig} {sha256 : Bytes → Vector UInt8 32}
  {mapping : TxMapping} {args : BuildArguments} {db : Database} {baseFee : U64}
  {pre : KasplexBlockExecutor} {last : LoopState} {included : List Recovered}
  {outputs : List ResultAndState} {outcome : BlockBuilderOutcome}
  {cfgAt : U64 → U64 → CfgEnv} {nextBaseFee : Header → NextBlockEnvAttributes → U64}

/-- The state root of a frozen block is that of the state it led to. -/
theorem frozen_stateRoot
    (f : Frozen backend config.chainSpec mapping args db baseFee pre last included outputs
      outcome) :
    backend.stateRoot outcome.postState =
      .ok outcome.block.sealedBlock.block.header.stateRoot := by
  obtain ⟨stateRoot, block, hroot, hblock, rfl⟩ := finish_eq_ok f.finished
  obtain ⟨-, -, hb⟩ := assembleBlock_eq_ok hblock
  change backend.stateRoot last.builder.executor.db = .ok block.header.stateRoot
  rw [hroot, hb]

/-- The payload of a frozen block. -/
def payloadData (alloy : Alloy) (block : SealedBlock) : ExecutionData :=
  ⟨.v1 (payloadFromBlock alloy.encode2718 block.hash block.block), .none⟩

theorem wire_eq {alloy : Alloy}
    (copies : alloy.fromBlockUnchecked = payloadFromBlock alloy.encode2718) (b : Built) :
    wire alloy b = payloadData alloy b.payload.block := by
  simp only [wire, blockToPayload, payloadData, copies]

/-- Whatever a build includes was recovered from the list of its request. -/
theorem included_recoverable {request : KasplexPayloadAttributes} {version : UInt8}
    (f : Frozen backend config.chainSpec mapping args db baseFee pre last included outputs outcome)
    (job : tryNew backend.alloy sha256 args.parentHeader.hash request version =
      .ok args.attributes) : ∀ r ∈ included, backend.alloy.tryRecover r.tx = some r.signer := by
  intro r hr
  obtain ⟨-, -, hinputs⟩ := tryNew_eq_ok job
  have hlisted := congrArg KasplexPayloadBuilderAttributes.BuildInputs.transactions hinputs
  have hr := f.loop.sublist.subset hr
  change args.attributes.transactions = _ at hlisted
  rw [hlisted] at hr
  exact tryRecover_of_listed hr

theorem mapM_recovered {alloy : Alloy} {txs : List Recovered}
    (recoverable : ∀ r ∈ txs, alloy.tryRecover r.tx = some r.signer) :
    (txs.map Recovered.tx).mapM alloy.tryRecover = some (txs.map Recovered.signer) := by
  induction txs with
  | nil => rfl
  | cons r txs ih =>
    rw [List.map_cons, List.mapM_cons, recoverable r List.mem_cons_self,
      ih fun t ht => recoverable t (List.mem_cons_of_mem _ ht)]
    rfl

/-- The senders of a frozen block are those that its transactions recover to. -/
theorem frozen_senders {request : KasplexPayloadAttributes} {version : UInt8}
    (f : Frozen backend config.chainSpec mapping args db baseFee pre last included outputs outcome)
    (job : tryNew backend.alloy sha256 args.parentHeader.hash request version =
      .ok args.attributes) :
    outcome.block.sealedBlock.block.body.transactions.mapM backend.alloy.tryRecover =
      some outcome.block.senders := by
  obtain ⟨hbody, -, -, -⟩ := f.block_eq
  have htxs : last.builder.transactions = included := f.loop.transactions
  have hsenders : outcome.block.senders = included.map Recovered.signer := by
    obtain ⟨_, _, -, -, rfl⟩ := finish_eq_ok f.finished
    rw [← htxs]
  rw [hbody, hsenders]
  exact mapM_recovered (included_recoverable f job)

/-- With short extra data a frozen block is decoded from its payload into a block of
the same header and hash. -/
theorem payloadData_accepted
    (rebuilds : backend.alloy.tryIntoBlock =
      blockFromPayload backend.alloy.decode2718Exact backend.alloy.orderedTrieRoot)
    (fills : backend.eth.FillsFields config.chainSpec cfgAt nextBaseFee)
    (f : Frozen backend config.chainSpec mapping args db baseFee pre last included outputs outcome)
    (codec : ∀ r ∈ included, Encodes backend.alloy r.tx)
    (recoverable : ∀ r ∈ included, backend.alloy.tryRecover r.tx = some r.signer)
    (mapping' : TxMapping)
    (extra : outcome.block.sealedBlock.block.header.extraData.length ≤ 32) :
    ∃ recovered, (ensureWellFormedPayload backend.alloy mapping'
        (payloadData backend.alloy outcome.block.sealedBlock)).1 = .ok recovered ∧
      sealedHeader recovered.sealedBlock = sealedHeader outcome.block.sealedBlock := by
  obtain ⟨block, hsealed, -, -, -, stateRoot, hblock⟩ := f.outcome_eq
  obtain ⟨-, -, -, -, -, hfee, hdifficulty⟩ := builtHeader_eq fills hblock
  obtain ⟨-, -, hb⟩ := assembleBlock_eq_ok hblock
  have hbody : block.body.transactions = included.map Recovered.tx := by rw [hb]
  have hmerged : (buildEnv backend config.chainSpec args baseFee).blockEnv.difficulty = 0 := by
    rw [← hdifficulty, hb]
  rw [hsealed] at extra ⊢
  change block.header.extraData.length ≤ 32 at extra
  have hcodec : ∀ tx ∈ block.body.transactions, Encodes backend.alloy tx := by
    rw [hbody]
    intro tx htx
    obtain ⟨r, hr, rfl⟩ := List.mem_map.mp htx
    exact codec r hr
  have hdecoded := blockFromPayload_eq backend.alloy.orderedTrieRoot
    (backend.alloy.hashSlow block.header) extra hfee hcodec
  rw [hbody] at hdecoded
  have hheader : (fixWithdrawalsRoot (rebuiltBlock (backend.alloy.calculateTransactionRoot
      (included.map Recovered.tx)) block)).header = block.header :=
    fixWithdrawalsRoot_rebuilt hblock hmerged rfl
  refine ⟨⟨backend.alloy.sealSlow (fixWithdrawalsRoot (rebuiltBlock
    (backend.alloy.calculateTransactionRoot (included.map Recovered.tx)) block)),
    included.map Recovered.signer⟩,
    ensureWellFormedPayload_eq_ok_iff.mpr ⟨_, _, rfl, ?_, ?_, rfl, Or.inr ?_⟩, ?_⟩
  · rw [rebuilds]
    exact hdecoded
  · change block.body.transactions.mapM backend.alloy.tryRecover = _
    rw [hbody]
    exact mapM_recovered recoverable
  · exact congrArg backend.alloy.hashSlow hheader.symm
  · simp only [sealedHeader, Alloy.sealSlow, hheader]

/-- And longer extra data is refused. -/
theorem payloadData_refused {alloy : Alloy}
    (rebuilds : alloy.tryIntoBlock = blockFromPayload alloy.decode2718Exact alloy.orderedTrieRoot)
    {block : SealedBlock} {mapping' : TxMapping} {recovered : RecoveredBlock}
    (accepted : (ensureWellFormedPayload alloy mapping' (payloadData alloy block)).1 =
      .ok recovered) :
    block.block.header.extraData.length ≤ 32 := by
  obtain ⟨p, decoded, hp, hdecoded, -⟩ := ensureWellFormedPayload_eq_ok_iff.mp accepted
  cases hp
  rw [rebuilds] at hdecoded
  exact (blockFromPayload_eq_ok hdecoded).1

/-- The payload is executed in the environment of the build, with its outcome. -/
theorem payloadData_executed
    (fills : backend.eth.FillsFields config.chainSpec cfgAt nextBaseFee)
    (f : Frozen backend config.chainSpec mapping args db baseFee pre last included outputs outcome)
    (codec : ∀ r ∈ included, Encodes backend.alloy r.tx)
    (recoverable : ∀ r ∈ included, backend.alloy.tryRecover r.tx = some r.signer) :
    let data := payloadData backend.alloy outcome.block.sealedBlock
    ∃ ctx, (KasplexEvmConfig.contextForPayload data :
        Except (Fault BlockExecutionError) KasplexBlockExecutionCtx) = .ok ctx ∧
      KasplexEvmConfig.txIteratorForPayload backend.alloy data = some included ∧
      executeBlock backend config.chainSpec (config.evmEnvForPayload backend.eth data) ctx db
        included = .ok (outcome.executionResult, outcome.postState) := by
  obtain ⟨block, hsealed, -, -, -, stateRoot, hblock⟩ := f.outcome_eq
  obtain ⟨-, -, -, -, -, hfee, -⟩ := builtHeader_eq fills hblock
  obtain ⟨-, -, hb⟩ := assembleBlock_eq_ok hblock
  have hbody : block.body.transactions = included.map Recovered.tx := by rw [hb]
  have hparent : block.header.parentHash = args.parentHeader.hash := by
    rw [hb]
    rfl
  have hnarrow : (narrowOrPanic 64 (baseFee.setWidth 256) :
      Except (Fault BlockExecutionError) U64) = .ok baseFee :=
    narrowOrPanic_eq_ok_iff.mpr (toNat_setWidth_of_le (by decide) _).symm
  rw [hsealed]
  refine ⟨⟨args.parentHeader.hash, none, [], none, baseFee, block.header.extraData⟩, ?_, ?_, ?_⟩
  · simp only [KasplexEvmConfig.contextForPayload, payloadData, payloadFromBlock, Alloy.sealSlow,
      hfee, Option.getD_some, hnarrow, bind, Except.bind, pure, Except.pure,
      ExecutionPayload.asV1, hparent]
  · apply txIteratorForPayload_encoded codec recoverable
    simp only [payloadFromBlock, Alloy.sealSlow, hbody]
  · simp only [KasplexEvmConfig.evmEnvForPayload, payloadData, Alloy.sealSlow,
      evmEnvForPayload_builtHeader fills hblock]
    exact executeBlock_frozen f _ rfl rfl

end Frozen

section Steps

variable {backend : Backend} {config : KasplexEvmConfig} {sha256 : Bytes → Vector UInt8 32}
  {cfgAt : U64 → U64 → CfgEnv} {nextBaseFee : Header → NextBlockEnvAttributes → U64}
  {rules : SharedRules} {check : PostExecutionCheck}
  (fills : backend.eth.FillsFields config.chainSpec cfgAt nextBaseFee)
  (copies : backend.alloy.fromBlockUnchecked = payloadFromBlock backend.alloy.encode2718)
  (rebuilds : backend.alloy.tryIntoBlock =
    blockFromPayload backend.alloy.decode2718Exact backend.alloy.orderedTrieRoot)
  (documented : rules.AsDocumented backend.alloy)
  (compares : ComparesReceipts backend.alloy config.chainSpec check)
  (joins : JoinsBlooms backend.alloy)
include fills copies rebuilds documented compares joins

/-- The follower accepts what an acceptable request led to, and catches up. -/
theorem leaderStep_followed {s t : Leader} {b : Built} {s' : Follower}
    (step : LeaderStep backend config sha256 s b t)
    (codec : ∀ r ∈ b.attributes.transactions, Encodes backend.alloy r.tx)
    (acceptable : Acceptable s b) (level : Level s s') :
    ∃ t', FollowStep backend config rules check s' (wire backend.alloy b) t' ∧ Level t t' := by
  cases step with
  | built job frozen f same =>
    have built := frozen_builtFrom backend config ⟨s.head, b.attributes, b.cancel⟩ fills job frozen
    have hused := acceptable.gasUsed
    rw [same] at built hused
    rw [← built.gasLimit] at hused
    obtain ⟨hheader, hparent⟩ := built.rules_iff.mpr
      ⟨acceptable.baseFee, acceptable.extraData, acceptable.gasLimit⟩
    have htime := built.timestamp_iff.mpr acceptable.timestamp
    obtain ⟨-, hreports⟩ := importBlock_frozen fills f
    have hrecoverable := included_recoverable f job
    have hcodec := fun r hr => codec r (f.loop.sublist.subset hr)
    obtain ⟨recovered, haccepted, hsealed⟩ := payloadData_accepted rebuilds fills f hcodec
      hrecoverable s'.mapping hheader.extraData
    obtain ⟨ctx, hctx, htxs, hexecuted⟩ := payloadData_executed fills f hcodec hrecoverable
    rw [← level.db] at hexecuted
    rw [wire_eq copies, same]
    have hsame := congrArg SealedHeader.header hsealed
    simp only [sealedHeader] at hsame
    refine ⟨_, .accepted haccepted ?_ ?_ rfl hctx htxs hexecuted ?_ ?_, hsealed, rfl⟩
    · rw [hsealed]
      exact (validateHeader_eq_ok_iff documented).mpr ⟨hheader, hused⟩
    · rw [hsealed, level.head]
      exact (validateHeaderAgainstParent_eq_ok_iff documented).mpr ⟨hparent, htime⟩
    · apply (validateBlockPostExecution_eq_ok_iff compares joins hexecuted recovered).mpr
      rwa [hsame]
    · rw [hsame]
      exact frozen_stateRoot f

/-- And so all along a chain of acceptable requests. -/
theorem leaderPath_followed {leader leader' : Leader} {builds : List Built} {follower : Follower}
    (acceptable : Path (fun s b t => LeaderStep backend config sha256 s b t ∧ Acceptable s b)
      leader builds leader')
    (codec : ∀ b ∈ builds, ∀ r ∈ b.attributes.transactions, Encodes backend.alloy r.tx)
    (level : Level leader follower) :
    ∃ follower', Path (FollowStep backend config rules check) follower
      (builds.map (wire backend.alloy)) follower' ∧ Level leader' follower' := by
  refine (acceptable.and_forall codec).follows ?_ level
  intro s b t s' step level
  exact leaderStep_followed fills copies rebuilds documented compares joins step.1.1 step.2
    step.1.2 level

omit compares joins in
/-- An accepted payload was built for an acceptable request, and leaves the
follower where the leader is. -/
theorem followStep_means {s t : Leader} {b : Built} {s' t' : Follower}
    (step : LeaderStep backend config sha256 s b t)
    (codec : ∀ r ∈ b.attributes.transactions, Encodes backend.alloy r.tx) (level : Level s s')
    (answer : FollowStep backend config rules check s' (wire backend.alloy b) t') :
    Acceptable s b ∧ Level t t' := by
  cases step with
  | built job frozen f same =>
    have built := frozen_builtFrom backend config ⟨s.head, b.attributes, b.cancel⟩ fills job frozen
    rw [same] at built
    have hrecoverable := included_recoverable f job
    have hcodec := fun r hr => codec r (f.loop.sublist.subset hr)
    obtain ⟨ctx, hctx, htxs, hexecuted⟩ := payloadData_executed fills f hcodec hrecoverable
    rw [wire_eq copies, same] at answer
    cases answer with
    | accepted haccepted halone hlink _ hctx' htxs' hexecuted' _ _ =>
      have hextra := payloadData_refused rebuilds haccepted
      obtain ⟨recovered, haccepted', hsealed⟩ := payloadData_accepted rebuilds fills f hcodec
        hrecoverable s'.mapping hextra
      cases haccepted.symm.trans haccepted'
      cases hctx.symm.trans hctx'
      cases htxs.symm.trans htxs'
      rw [level.db] at hexecuted'
      cases hexecuted.symm.trans hexecuted'
      rw [hsealed] at halone hlink
      rw [level.head] at hlink
      obtain ⟨hheader, hused⟩ := (validateHeader_eq_ok_iff documented).mp halone
      obtain ⟨hparent, htime⟩ := (validateHeaderAgainstParent_eq_ok_iff documented).mp hlink
      obtain ⟨hrequestFee, hrequestExtra, hrequestLimit⟩ := built.rules_iff.mp ⟨hheader, hparent⟩
      refine ⟨⟨hrequestFee, hrequestExtra, built.timestamp_iff.mp htime, hrequestLimit, ?_⟩,
        hsealed, rfl⟩
      rw [same, ← built.gasLimit]
      exact hused

end Steps

/-- A follower that starts level with the leader accepts all payloads of a chain
exactly when every build was asked for the fixed base fee, for short extra data,
for a time not before its parent and for a gas limit that is not above the
largest, and used no more gas than that limit. Having accepted them it is level
with the leader again, head and state. -/
theorem follower_levels_iff (backend : Backend) (config : KasplexEvmConfig)
    (sha256 : Bytes → Vector UInt8 32) (cfgAt : U64 → U64 → CfgEnv)
    (nextBaseFee : Header → NextBlockEnvAttributes → U64) (rules : SharedRules)
    (check : PostExecutionCheck)
    (fills : backend.eth.FillsFields config.chainSpec cfgAt nextBaseFee)
    (copies : backend.alloy.fromBlockUnchecked = payloadFromBlock backend.alloy.encode2718)
    (rebuilds : backend.alloy.tryIntoBlock =
      blockFromPayload backend.alloy.decode2718Exact backend.alloy.orderedTrieRoot)
    (documented : rules.AsDocumented backend.alloy)
    (compares : ComparesReceipts backend.alloy config.chainSpec check)
    (joins : JoinsBlooms backend.alloy) (leader leader' : Leader) (builds : List Built)
    (codec : ∀ b ∈ builds, ∀ r ∈ b.attributes.transactions, Encodes backend.alloy r.tx)
    (follower : Follower) (level : Level leader follower)
    (chain : Path (LeaderStep backend config sha256) leader builds leader') :
    ((∃ follower', Path (FollowStep backend config rules check) follower
        (builds.map (wire backend.alloy)) follower') ↔
      Path (fun s b t => LeaderStep backend config sha256 s b t ∧ Acceptable s b)
        leader builds leader') ∧
    ∀ follower', Path (FollowStep backend config rules check) follower
      (builds.map (wire backend.alloy)) follower' → Level leader' follower' := by
  have hmeans : ∀ follower', Path (FollowStep backend config rules check) follower
      (builds.map (wire backend.alloy)) follower' →
      Path (fun s b t => LeaderStep backend config sha256 s b t ∧ Acceptable s b) leader
        builds leader' ∧ Level leader' follower' := by
    intro follower' answers
    obtain ⟨hpath, hlevel⟩ := (chain.and_forall codec).answered (P := Acceptable)
      (fun s b t s' t' step level answer =>
        followStep_means fills copies rebuilds documented step.1 step.2 level answer) level answers
    exact ⟨hpath.mono fun _ _ _ step => ⟨step.1.1, step.2⟩, hlevel⟩
  refine ⟨⟨?_, ?_⟩, fun follower' answers => (hmeans follower' answers).2⟩
  · rintro ⟨follower', answers⟩
    exact (hmeans follower' answers).1
  · intro acceptable
    obtain ⟨follower', answers, -⟩ := leaderPath_followed fills copies rebuilds documented compares
      joins acceptable codec level
    exact ⟨follower', answers⟩

section Samples

def sampleDb : Database := oneHolder sampleSigner 1000000000000000000

/-- The sample block as it was built. -/
def sampleBuilt : RecoveredBlock :=
  ⟨sampleAlloy.sealSlow sampleBlock, [sampleSigner, sampleSigner]⟩

/-- The state the sample block leads to. -/
def transfersDb : Database :=
  match importBlock sampleBackend sampleConfig sampleDb sampleBuilt with
  | .ok (_, db) => db
  | .error _ => sampleDb

/-- The sample backend, which knows the state of the sample block as well. -/
def chainBackend : Backend :=
  { sampleBackend with
    stateByBlockHash := fun hash =>
      if hash = sampleHeaderHash then .ok transfersDb else sampleBackend.stateByBlockHash hash }

def secondRequest : KasplexPayloadAttributes := sampleRequest 1100 2000000000000

/-- The block built for the second request. -/
def secondBlock : Block := ⟨secondHeader, ⟨[], [], some []⟩⟩

def secondBuilt : RecoveredBlock := ⟨sampleAlloy.sealSlow secondBlock, []⟩

theorem sampleBuilt_sealed :
    sealedHeader sampleBuilt.sealedBlock = ⟨sampleHeader, sampleHeaderHash⟩ := by decide +kernel

/-- The sample transactions are read back from what they are listed as. -/
theorem sampleAlloy_encodes {txList : Bytes} {r : Recovered}
    (listed : r ∈ listedTransactions sampleAlloy txList) : Encodes sampleAlloy r.tx := by
  have hsigner := tryRecover_of_listed listed
  have hmem : r.tx ∈ sampleTransfers := by
    by_contra hout
    rw [show sampleAlloy.tryRecover r.tx = none from if_neg hout] at hsigner
    cases hsigner
  have hall : ∀ tx ∈ sampleTransfers, sampleAlloy.decode2718Exact (sampleAlloy.encode2718 tx) =
      some tx := by decide +kernel
  exact hall r.tx hmem

/-- A request and the block frozen for it, as a step of the leader. -/
theorem exists_sampleStep (head : SealedHeader) (request : KasplexPayloadAttributes)
    (block : RecoveredBlock) (db : Database)
    (known : chainBackend.stateByBlockHash head.hash = .ok db)
    (senders : block.sealedBlock.block.body.transactions.mapM sampleAlloy.tryRecover =
      some block.senders)
    (freezes : ((tryNew sampleAlloy sampleSha256 head.hash request 2).toOption.any fun job =>
      (frozenPayload (kasplexPayload chainBackend sampleConfig TxMapping.empty
        ⟨head, job, fun _ => false⟩).1).any fun p =>
          decide (p.1.block = block.sealedBlock)) = true) :
    ∃ b result db', importBlock chainBackend sampleConfig db block = .ok (result, db') ∧
      LeaderStep chainBackend sampleConfig sampleSha256 ⟨head, db⟩ b
        ⟨sealedHeader block.sealedBlock, db'⟩ ∧
      b.request = request ∧ b.payload.block = block.sealedBlock ∧
      ∀ r ∈ b.attributes.transactions, Encodes sampleAlloy r.tx := by
  obtain ⟨job, hjob, h⟩ := exists_of_any freezes
  obtain ⟨payload, mapping', frozen, hblock⟩ := exists_freeze
    (P := fun p => decide (p.block = block.sealedBlock)) h
  obtain ⟨db', baseFee, pre, last, included, outputs, outcome, f, hpayload, -⟩ :=
    kasplexPayload_freeze frozen
  cases known.symm.trans f.state
  have hsame : payload.block = outcome.block.sealedBlock :=
    congrArg EthBuiltPayload.block hpayload
  have hfrozen := of_decide_eq_true hblock
  have hsealed := hsame.symm.trans hfrozen
  have himport : importBlock chainBackend sampleConfig db outcome.block =
      .ok (outcome.executionResult, outcome.postState) :=
    (importBlock_frozen sampleEth_fillsFields f).1
  obtain ⟨-, -, hinputs⟩ := tryNew_eq_ok hjob
  have hlisted : job.transactions = listedTransactions sampleAlloy request.blockMetadata.txList :=
    congrArg KasplexPayloadBuilderAttributes.BuildInputs.transactions hinputs
  have hsenders : outcome.block.sealedBlock.block.body.transactions.mapM sampleAlloy.tryRecover =
      some outcome.block.senders := frozen_senders f hjob
  rw [hsealed, senders] at hsenders
  have hrecovered : outcome.block = block := by
    obtain ⟨sealedBlock, senders⟩ := block
    cases hsealed
    cases hsenders
    rfl
  cases hrecovered
  refine ⟨⟨request, 2, job, fun _ => false, TxMapping.empty, mapping', payload⟩, _, _, himport,
    .built hjob frozen f hsame, rfl, hfrozen, ?_⟩
  intro r hr
  change r ∈ job.transactions at hr
  rw [hlisted] at hr
  exact sampleAlloy_encodes hr

/-- The chain of the sample block and an empty block on it. -/
theorem exists_sampleChain :
    ∃ b b' leader',
      Path (fun s b t => LeaderStep chainBackend sampleConfig sampleSha256 s b t ∧
        Acceptable s b) ⟨sampleParent, sampleDb⟩ [b, b'] leader' ∧
      ∀ built ∈ [b, b'], ∀ r ∈ built.attributes.transactions, Encodes sampleAlloy r.tx := by
  obtain ⟨b, result, db, himport, step, hrequest, hblock, codec⟩ :=
    exists_sampleStep sampleParent (transferRequest 30000000) sampleBuilt sampleDb rfl
      (by decide +kernel) (by decide +kernel)
  have hdb : transfersDb = db := by
    change importBlock sampleBackend sampleConfig sampleDb sampleBuilt = _ at himport
    simp only [transfersDb, himport]
  cases hdb
  rw [sampleBuilt_sealed] at step
  obtain ⟨b', _, leader', -, step', hrequest', hblock', codec'⟩ :=
    exists_sampleStep ⟨sampleHeader, sampleHeaderHash⟩ secondRequest secondBuilt transfersDb rfl
      (by decide +kernel) (by decide +kernel)
  have hacceptable : Acceptable ⟨sampleParent, sampleDb⟩ b := by
    constructor <;> simp only [hrequest, hblock] <;> decide +kernel
  have hacceptable' : Acceptable ⟨⟨sampleHeader, sampleHeaderHash⟩, transfersDb⟩ b' := by
    constructor <;> simp only [hrequest', hblock'] <;> decide +kernel
  refine ⟨b, b', _, Path.cons ⟨step, hacceptable⟩
    (Path.cons ⟨step', hacceptable'⟩ (Path.nil _)), ?_⟩
  intro built hbuilt
  rcases List.mem_pair.mp hbuilt with rfl | rfl
  · exact codec
  · exact codec'

end Samples

/-- The two blocks, sent to a follower on the sample parent. -/
theorem follower_levels_iff_transfers :
    ∃ builds leader' follower',
      builds.length = 2 ∧
      Path (LeaderStep chainBackend sampleConfig sampleSha256) ⟨sampleParent, sampleDb⟩ builds
        leader' ∧
      Path (FollowStep chainBackend sampleConfig (sampleRules sampleAlloy)
        (sampleCheck sampleAlloy)) ⟨sampleParent, sampleDb, TxMapping.empty⟩
        (builds.map (wire sampleAlloy)) follower' ∧
      Level leader' follower' := by
  obtain ⟨b, b', leader', acceptable, codec⟩ := exists_sampleChain
  have chain := acceptable.mono fun _ _ _ step => step.1
  have hlevels := follower_levels_iff chainBackend sampleConfig sampleSha256 sampleCfg
    sampleNextBaseFee (sampleRules sampleAlloy) (sampleCheck sampleAlloy) sampleEth_fillsFields
    rfl rfl (sampleRules_asDocumented sampleAlloy) (sampleCheck_compares sampleAlloy _)
    sampleAlloy_joinsBlooms ⟨sampleParent, sampleDb⟩ leader' [b, b'] codec
    ⟨sampleParent, sampleDb, TxMapping.empty⟩ ⟨rfl, rfl⟩ chain
  obtain ⟨follower', answers⟩ := hlevels.1.mpr acceptable
  exact ⟨[b, b'], leader', follower', rfl, chain, answers, hlevels.2 follower' answers⟩

/-- Whatever a leader was asked for, importing its blocks from where it started
leads to where it is, and every block passes the check after execution. -/
theorem built_chain_imports (backend : Backend) (config : KasplexEvmConfig)
    (sha256 : Bytes → Vector UInt8 32) (cfgAt : U64 → U64 → CfgEnv)
    (nextBaseFee : Header → NextBlockEnvAttributes → U64) (check : PostExecutionCheck)
    (fills : backend.eth.FillsFields config.chainSpec cfgAt nextBaseFee)
    (compares : ComparesReceipts backend.alloy config.chainSpec check)
    (joins : JoinsBlooms backend.alloy) (leader leader' : Leader) (builds : List Built)
    (chain : Path (LeaderStep backend config sha256) leader builds leader') :
    ∃ blocks results,
      blocks.map RecoveredBlock.sealedBlock = builds.map (fun b => b.payload.block) ∧
      importChain backend config leader.db blocks = .ok (results, leader'.db) ∧
      List.Forall₂ (fun block result =>
        validateBlockPostExecution check config.chainSpec block result none = .ok ())
        blocks results := by
  induction chain with
  | nil => exact ⟨[], [], rfl, rfl, .nil⟩
  | cons hstep _ ih =>
    cases hstep with
    | built job frozen f same =>
      obtain ⟨blocks, results, hblocks, himported, hchecked⟩ := ih
      obtain ⟨himport, hreports⟩ := importBlock_frozen fills f
      have hcheck := (validateBlockPostExecution_eq_ok_iff compares joins himport _).mpr hreports
      refine ⟨_ :: blocks, _ :: results, ?_, ?_, .cons hcheck hchecked⟩
      · rw [List.map_cons, List.map_cons, hblocks, same]
      · simp only [importChain, himport, himported, bind, Except.bind, pure, Except.pure]

/-- The chain of the two sample blocks. -/
theorem built_chain_imports_transfers :
    ∃ builds leader' blocks results,
      builds.length = 2 ∧
      Path (LeaderStep chainBackend sampleConfig sampleSha256) ⟨sampleParent, sampleDb⟩ builds
        leader' ∧
      blocks.map RecoveredBlock.sealedBlock = builds.map (fun b => b.payload.block) ∧
      importChain chainBackend sampleConfig sampleDb blocks = .ok (results, leader'.db) := by
  obtain ⟨b, b', leader', acceptable, -⟩ := exists_sampleChain
  have chain := acceptable.mono fun _ _ _ step => step.1
  obtain ⟨blocks, results, hblocks, himported, -⟩ :=
    built_chain_imports chainBackend sampleConfig sampleSha256 sampleCfg sampleNextBaseFee
      (sampleCheck sampleAlloy) sampleEth_fillsFields (sampleCheck_compares sampleAlloy _)
      sampleAlloy_joinsBlooms ⟨sampleParent, sampleDb⟩ leader' [b, b'] chain
  exact ⟨[b, b'], leader', blocks, results, rfl, chain, hblocks, himported⟩

end FollowedChains
