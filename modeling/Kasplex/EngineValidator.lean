import Kasplex.PayloadBuilder
import Kasplex.EngineTypes

/-!
# Payload validation

A payload is decoded into a block, its missing withdrawals root is patched, and
the hash of the block is compared with the one the payload carries. Decoding
takes the submission number of every transaction out of the mapping, before the
hash is looked at. An all-zero hash stands for a hash that is not there.
-/

namespace EngineValidator

open Primitives MachineArith ChainSpec EvmState BlockExecutor EvmConfig PayloadAttributes
  SubmissionNumbers EngineTypes

inductive NewPayloadError where
  | payload (err : PayloadError)
  | senderRecovery
  deriving DecidableEq, Repr

/-- Give a block without a withdrawals root the root of no withdrawals. -/
def fixWithdrawalsRoot (block : Block) : Block :=
  if block.header.withdrawalsRoot.isNone then
    { block with header := { block.header with withdrawalsRoot := some emptyWithdrawals } }
  else block

/-- Look up every hash, which takes its number out of the mapping. -/
def takeNumbers (mapping : TxMapping) (hashes : List B256) : TxMapping :=
  hashes.foldl (fun m h => (m.getTxNumber h).2) mapping

/-- Numbers of the sidecar, stored if there is one for each transaction. -/
def restoreNumbers (mapping : TxMapping) (block : Block)
    (kasplexData : Option KasplexExecutionData) : TxMapping :=
  match kasplexData with
  | some data =>
    let numbers := data.kasplexSidecar.numbers
    if numbers ≠ [] ∧ numbers.length = block.body.transactions.length then
      mapping.insertAll ((block.body.transactions.map TransactionSigned.hash).zip numbers)
    else mapping
  | none => mapping

/-- Decode a payload; only V1 is read. -/
def processKasplexExecutionData (alloy : Alloy) (mapping : TxMapping)
    (payload : ExecutionPayload) (kasplexData : Option KasplexExecutionData) :
    Except PayloadError (Block × TxMapping) :=
  match payload with
  | .v1 p => do
    let block ← alloy.tryIntoBlock p
    let block := fixWithdrawalsRoot block
    let mapping := restoreNumbers mapping block kasplexData
    pure (block, takeNumbers mapping (block.body.transactions.map TransactionSigned.hash))
  | _ => .error (.baseFee 0)

/-- The carried hash of a V1 payload, zero for the other versions. -/
def expectedHash : ExecutionPayload → B256
  | .v1 p => p.blockHash
  | _ => 0

/-- The field by field comparison logged on a hash mismatch; its conversion of
the base fee can panic. -/
def logMismatch {ε : Type} : ExecutionPayload → Except (Fault ε) Unit
  | .v1 p => do
    let _ ← narrowOrPanic 64 p.baseFeePerGas
    pure ()
  | _ => pure ()

/-- The hash to compare with: a zero one is replaced by the computed one. -/
def hashToCompare (payload : ExecutionPayload) (blockHash : B256) : B256 :=
  if expectedHash payload = 0 then blockHash else expectedHash payload

/-- Hash check and sender recovery of a decoded block. -/
def checkBlock (alloy : Alloy) (payload : ExecutionPayload) (block : Block) :
    Except (Fault NewPayloadError) RecoveredBlock :=
  let sealedBlock := alloy.sealSlow block
  let blockHash := sealedBlock.hash
  if hashToCompare payload blockHash ≠ blockHash then do
    logMismatch payload
    .error (.error (.payload (.blockHash blockHash (hashToCompare payload blockHash))))
  else
    match block.body.transactions.mapM alloy.tryRecover with
    | some senders => .ok ⟨sealedBlock, senders⟩
    | none => .error (.error .senderRecovery)

/-- The validated block, or why there is none; and the mapping afterwards. -/
def ensureWellFormedPayload (alloy : Alloy) (mapping : TxMapping) (data : ExecutionData) :
    Except (Fault NewPayloadError) RecoveredBlock × TxMapping :=
  match processKasplexExecutionData alloy mapping data.payload none with
  | .error err => (.error (.error (.payload err)), mapping)
  | .ok (block, mapping) => (checkBlock alloy data.payload block, mapping)

def convertPayloadToBlock (alloy : Alloy) (mapping : TxMapping) (data : ExecutionData) :
    Except (Fault NewPayloadError) SealedBlock × TxMapping :=
  let (result, mapping) := ensureWellFormedPayload alloy mapping data
  (result.map RecoveredBlock.sealedBlock, mapping)

inductive InvalidPayloadAttributesError where
  | invalidTimestamp
  deriving DecidableEq, Repr

/-- A block may have the timestamp of its parent. -/
def validatePayloadAttributesAgainstHeader (attributes : KasplexPayloadAttributes)
    (header : Header) : Except InvalidPayloadAttributesError Unit :=
  if attributes.payloadAttributes.timestamp < header.timestamp then .error .invalidTimestamp
  else .ok ()

inductive EngineApiMessageVersion where
  | v1
  | v2
  | v3
  | v4
  | v5
  deriving DecidableEq, Repr

inductive PayloadOrAttributes where
  | executionPayload (payload : ExecutionData)
  | payloadAttributes (attributes : KasplexPayloadAttributes)

inductive EngineObjectValidationError where
  | payload (message : String)
  | payloadAttributes (message : String)
  | unsupportedFork
  | invalidParams (message : String)
  deriving DecidableEq, Repr

/-- No field depends on the version. -/
def validateVersionSpecificFields (_version : EngineApiMessageVersion)
    (_payloadOrAttrs : PayloadOrAttributes) : Except EngineObjectValidationError Unit :=
  .ok ()

/-- Nothing is checked beyond the types. -/
def ensureWellFormedAttributes (_version : EngineApiMessageVersion)
    (_attributes : KasplexPayloadAttributes) : Except EngineObjectValidationError Unit :=
  .ok ()

@[simp] theorem fixWithdrawalsRoot_body (block : Block) :
    (fixWithdrawalsRoot block).body = block.body := by
  unfold fixWithdrawalsRoot
  split <;> rfl

theorem validatePayloadAttributesAgainstHeader_eq_ok_iff
    {attributes : KasplexPayloadAttributes} {header : Header} :
    validatePayloadAttributesAgainstHeader attributes header = .ok () ↔
      ¬ attributes.payloadAttributes.timestamp < header.timestamp := by
  unfold validatePayloadAttributesAgainstHeader
  split
  · rename_i early
    simp [early]
  · rename_i late
    simp [late]

theorem takeNumbers_mapping (mapping : TxMapping) (hashes : List B256) (k : B256) :
    (takeNumbers mapping hashes).mapping k = if k ∈ hashes then none else mapping.mapping k := by
  induction hashes generalizing mapping with
  | nil => simp [takeNumbers]
  | cons h rest ih =>
    change (takeNumbers (mapping.getTxNumber h).2 rest).mapping k = _
    rw [ih]
    by_cases hrest : k ∈ rest
    · simp [hrest]
    · by_cases hk : k = h
      · subst hk
        simp [hrest, TxMapping.getTxNumber]
      · simp [hrest, hk, TxMapping.getTxNumber]

/-- The transactions a payload decodes to, none when it does not decode. -/
def decodedHashes (alloy : Alloy) : ExecutionPayload → List B256
  | .v1 p =>
    match alloy.tryIntoBlock p with
    | .ok block => block.body.transactions.map TransactionSigned.hash
    | .error _ => []
  | _ => []

/-- Validation takes the numbers of the decoded transactions, whether or not it
accepts the payload. -/
theorem ensureWellFormedPayload_mapping (alloy : Alloy) (mapping : TxMapping)
    (data : ExecutionData) :
    (ensureWellFormedPayload alloy mapping data).2 =
      takeNumbers mapping (decodedHashes alloy data.payload) := by
  unfold ensureWellFormedPayload processKasplexExecutionData decodedHashes
  cases data.payload with
  | v1 p =>
    cases hb : alloy.tryIntoBlock p with
    | error err =>
      simp only [hb, bind, Except.bind]
      rfl
    | ok block =>
      simp only [hb, bind, Except.bind, pure, Except.pure, restoreNumbers, fixWithdrawalsRoot_body]
  | v2 p => rfl
  | v3 p => rfl

theorem takeNumbers_eq_self_iff {mapping : TxMapping} {hashes : List B256} :
    takeNumbers mapping hashes = mapping ↔ ∀ k ∈ hashes, mapping.mapping k = none := by
  have hreorg : ∀ m : TxMapping, (takeNumbers m hashes).reorgInProgress = m.reorgInProgress := by
    induction hashes with
    | nil => exact fun _ => rfl
    | cons h rest ih => exact fun m => ih (m.getTxNumber h).2
  constructor
  · intro same k hk
    rw [← same, takeNumbers_mapping, if_pos hk]
  · intro absent
    have hentries : (takeNumbers mapping hashes).mapping = mapping.mapping := by
      funext k
      rw [takeNumbers_mapping]
      split
      · rename_i hk
        exact (absent k hk).symm
      · rfl
    exact congrArg₂ TxMapping.mk hentries (hreorg mapping)

theorem hashToCompare_eq_iff {payload : ExecutionPayload} {blockHash : B256} :
    hashToCompare payload blockHash = blockHash ↔
      expectedHash payload = 0 ∨ expectedHash payload = blockHash := by
  unfold hashToCompare
  by_cases h : expectedHash payload = 0
  · rw [if_pos h]
    exact iff_of_true rfl (Or.inl h)
  · rw [if_neg h]
    exact (or_iff_right h).symm

/-- A block that passes the check has the carried hash, or its own when the
carried one is zero. -/
theorem checkBlock_eq_ok {alloy : Alloy} {payload : ExecutionPayload} {block : Block}
    {recovered : RecoveredBlock} (h : checkBlock alloy payload block = .ok recovered) :
    recovered.sealedBlock = alloy.sealSlow block ∧
      block.body.transactions.mapM alloy.tryRecover = some recovered.senders ∧
      (expectedHash payload = 0 ∨ expectedHash payload = alloy.hashSlow block.header) := by
  unfold checkBlock at h
  by_cases hsame : hashToCompare payload (alloy.sealSlow block).hash = (alloy.sealSlow block).hash
  · rw [if_neg (not_not.mpr hsame)] at h
    cases hsenders : block.body.transactions.mapM alloy.tryRecover with
    | none => simp [hsenders] at h
    | some senders =>
      simp only [hsenders, Except.ok.injEq] at h
      subst h
      exact ⟨rfl, rfl, hashToCompare_eq_iff.mp hsame⟩
  · rw [if_pos hsame] at h
    obtain ⟨_, _, h⟩ := bind_eq_ok h
    cases h

theorem checkBlock_of_hash {alloy : Alloy} {payload : ExecutionPayload} {block : Block}
    {senders : List Address}
    (hash : expectedHash payload = 0 ∨ expectedHash payload = alloy.hashSlow block.header)
    (recoverable : block.body.transactions.mapM alloy.tryRecover = some senders) :
    checkBlock alloy payload block = .ok ⟨alloy.sealSlow block, senders⟩ := by
  have hsame : hashToCompare payload (alloy.sealSlow block).hash = (alloy.sealSlow block).hash :=
    hashToCompare_eq_iff.mpr hash
  unfold checkBlock
  rw [if_neg (not_not.mpr hsame), recoverable]

/-- What an accepted payload was: V1, decodable, with recoverable senders, and
with its own hash or none. -/
theorem ensureWellFormedPayload_eq_ok_iff {alloy : Alloy} {mapping : TxMapping}
    {data : ExecutionData} {recovered : RecoveredBlock} :
    (ensureWellFormedPayload alloy mapping data).1 = .ok recovered ↔
      ∃ p block, data.payload = .v1 p ∧ alloy.tryIntoBlock p = .ok block ∧
        block.body.transactions.mapM alloy.tryRecover = some recovered.senders ∧
        recovered.sealedBlock = alloy.sealSlow (fixWithdrawalsRoot block) ∧
        (p.blockHash = 0 ∨ p.blockHash = alloy.hashSlow (fixWithdrawalsRoot block).header) := by
  constructor
  · intro h
    cases hp : data.payload with
    | v1 p =>
      cases hb : alloy.tryIntoBlock p with
      | error err =>
        simp [ensureWellFormedPayload, processKasplexExecutionData, hp, hb, bind, Except.bind] at h
      | ok block =>
        simp only [ensureWellFormedPayload, processKasplexExecutionData, hp, hb, bind,
          Except.bind, pure, Except.pure] at h
        obtain ⟨hsealed, hsenders, hhash⟩ := checkBlock_eq_ok h
        rw [fixWithdrawalsRoot_body] at hsenders
        exact ⟨p, block, rfl, hb, hsenders, hsealed, hhash⟩
    | v2 p => simp [ensureWellFormedPayload, processKasplexExecutionData, hp] at h
    | v3 p => simp [ensureWellFormedPayload, processKasplexExecutionData, hp] at h
  · rintro ⟨p, block, hp, hb, hsenders, hsealed, hhash⟩
    simp only [ensureWellFormedPayload, processKasplexExecutionData, hp, hb, bind, Except.bind,
      pure, Except.pure]
    have hsenders : (fixWithdrawalsRoot block).body.transactions.mapM alloy.tryRecover =
        some recovered.senders := by rw [fixWithdrawalsRoot_body, hsenders]
    have hhash : expectedHash (.v1 p) = 0 ∨
        expectedHash (.v1 p) = alloy.hashSlow (fixWithdrawalsRoot block).header := hhash
    rw [checkBlock_of_hash hhash hsenders, ← hsealed]

/-- A V1 payload without a hash that decodes, with recoverable senders, into a
block that has one. -/
def DecodesWithoutHash (alloy : Alloy) (data : ExecutionData) : Prop :=
  ∃ p block senders, data.payload = .v1 p ∧ p.blockHash = 0 ∧
    alloy.tryIntoBlock p = .ok block ∧
    block.body.transactions.mapM alloy.tryRecover = some senders ∧
    alloy.hashSlow (fixWithdrawalsRoot block).header ≠ 0

/-- Accepted blocks have the hash their payload carries, exactly unless the
payload carries the zero hash and decodes all the same. -/
theorem accepted_hash_is_carried_iff (alloy : Alloy) (mapping : TxMapping)
    (data : ExecutionData) :
    ((∀ recovered, (ensureWellFormedPayload alloy mapping data).1 = .ok recovered →
        recovered.sealedBlock.hash = data.payload.asV1.blockHash) ∧
      (∀ sealedBlock, (convertPayloadToBlock alloy mapping data).1 = .ok sealedBlock →
        sealedBlock.hash = data.payload.asV1.blockHash)) ↔
      ¬ DecodesWithoutHash alloy data := by
  constructor
  · rintro ⟨bound, -⟩ ⟨p, block, senders, hp, hzero, hb, hsenders, hhash⟩
    have haccepted : (ensureWellFormedPayload alloy mapping data).1 =
        .ok ⟨alloy.sealSlow (fixWithdrawalsRoot block), senders⟩ :=
      ensureWellFormedPayload_eq_ok_iff.mpr ⟨p, block, hp, hb, hsenders, rfl, Or.inl hzero⟩
    have hsame := bound _ haccepted
    rw [hp] at hsame
    exact hhash (hsame.trans hzero)
  · intro hno
    have bound : ∀ recovered, (ensureWellFormedPayload alloy mapping data).1 = .ok recovered →
        recovered.sealedBlock.hash = data.payload.asV1.blockHash := by
      intro recovered h
      obtain ⟨p, block, hp, hb, hsenders, hsealed, hhash⟩ :=
        ensureWellFormedPayload_eq_ok_iff.mp h
      rw [hsealed, hp]
      change alloy.hashSlow (fixWithdrawalsRoot block).header = p.blockHash
      rcases hhash with hzero | hsame
      · by_contra hne
        rw [hzero] at hne
        exact hno ⟨p, block, recovered.senders, hp, hzero, hb, hsenders, hne⟩
      · exact hsame.symm
    refine ⟨bound, ?_⟩
    intro sealedBlock h
    unfold convertPayloadToBlock at h
    cases hresult : (ensureWellFormedPayload alloy mapping data).1 with
    | error err => simp [hresult, Except.map] at h
    | ok recovered =>
      simp only [hresult, Except.map, Except.ok.injEq] at h
      rw [← h]
      exact bound recovered hresult

/-- The block of two transfers. -/
def sampleBlock : Block := ⟨sampleHeader, ⟨[transfer0, transfer1], [], some []⟩⟩

/-- The sample block under a zero hash. -/
def hashlessPayload : ExecutionData :=
  ⟨.v1 (payloadFromBlock encodeEip1559 0 sampleBlock), .none⟩

/-- The zero hash is accepted for a block with another hash. -/
theorem zero_hash_accepted :
    ∃ recovered,
      (ensureWellFormedPayload sampleAlloy TxMapping.empty hashlessPayload).1 = .ok recovered ∧
      hashlessPayload.payload.asV1.blockHash = 0 ∧
      recovered.sealedBlock.hash =
        0xf033ab294201f7eb8096cb45ab7d62ffc1de1e62709e2ad1e89f7a2c2a0789fd#256 := by
  obtain ⟨recovered, h⟩ := exists_of_isOk (show (ensureWellFormedPayload sampleAlloy
    TxMapping.empty hashlessPayload).1.isOk = true by decide +kernel)
  have hhash : ((ensureWellFormedPayload sampleAlloy TxMapping.empty hashlessPayload).1.toOption.map
      fun r => r.sealedBlock.hash) =
        some 0xf033ab294201f7eb8096cb45ab7d62ffc1de1e62709e2ad1e89f7a2c2a0789fd#256 := by
    decide +kernel
  rw [h] at hhash
  exact ⟨recovered, h, rfl, Option.some.inj hhash⟩

section RoundTrip

/-- What is left of a block behind a payload: the fields the payload has, a
post-merge default for every other one. -/
def rebuiltBlock (transactionsRoot : B256) (block : Block) : Block where
  header := { block.header with
    ommersHash := emptyOmmerRootHash
    transactionsRoot := transactionsRoot
    difficulty := 0
    nonce := 0
    withdrawalsRoot := none
    blobGasUsed := none
    excessBlobGas := none
    parentBeaconBlockRoot := none
    requestsHash := none }
  body := ⟨block.body.transactions, [], none⟩

theorem blockFromPayload_eq {decode : Bytes → Option TransactionSigned}
    {encode : TransactionSigned → Bytes} {block : Block} {fee : U64}
    (trieRoot : List Bytes → B256) (blockHash : B256)
    (extra : block.header.extraData.length ≤ 32) (hasFee : block.header.baseFeePerGas = some fee)
    (codec : ∀ tx ∈ block.body.transactions, decode (encode tx) = some tx) :
    blockFromPayload decode trieRoot (payloadFromBlock encode blockHash block) =
      .ok (rebuiltBlock (trieRoot (block.body.transactions.map encode)) block) := by
  have hnarrow : narrow 64 (fee.setWidth 256) = some fee :=
    narrow_eq_some_iff.mpr (toNat_setWidth_of_le (by decide) _).symm
  have hdecode : (block.body.transactions.map encode).mapM decode =
      some block.body.transactions := by
    generalize block.body.transactions = txs at codec
    induction txs with
    | nil => rfl
    | cons tx txs ih =>
      rw [List.map_cons, List.mapM_cons, codec tx List.mem_cons_self,
        ih fun t ht => codec t (List.mem_cons_of_mem _ ht)]
      rfl
  unfold blockFromPayload rebuiltBlock
  simp only [payloadFromBlock, hasFee, Option.getD_some]
  rw [if_neg (by omega), hdecode, hnarrow]

/-- The payload of a block with a base fee has one. -/
theorem payloadFromBlock_baseFeePerGas_ne {encode : TransactionSigned → Bytes} {block : Block}
    {fee : U64} (blockHash : B256) (hasFee : block.header.baseFeePerGas = some fee)
    (nonzero : fee ≠ 0) : (payloadFromBlock encode blockHash block).baseFeePerGas ≠ 0 := by
  have hwide : (fee.setWidth 256).toNat = fee.toNat := toNat_setWidth_of_le (by decide) _
  simp only [payloadFromBlock, hasFee, Option.getD_some]
  intro h
  apply nonzero
  apply BitVec.eq_of_toNat_eq
  rw [← hwide, h]
  rfl

/-- Of an assembled block only the withdrawals root is lost, and that is
patched. -/
theorem fixWithdrawalsRoot_rebuilt {alloy : Alloy} {evmEnv : EvmEnv}
    {ctx : KasplexBlockExecutionCtx} {transactions : List TransactionSigned}
    {output : BlockExecutionResult} {stateRoot : B256} {block : Block}
    (assembled : assembleBlock alloy evmEnv ctx transactions output stateRoot = .ok block)
    (postMerge : evmEnv.blockEnv.difficulty = 0) (root : ctx.parentBeaconBlockRoot = none) :
    (fixWithdrawalsRoot (rebuiltBlock (alloy.calculateTransactionRoot transactions)
      block)).header = block.header := by
  obtain ⟨-, -, hb⟩ := assembleBlock_eq_ok assembled
  rw [hb]
  simp only [fixWithdrawalsRoot, rebuiltBlock, Option.isNone_none, if_true, postMerge, root]

/-- An assembled block survives the way through its payload: validation gives
back the header field by field, with its hash, and the transactions in order.
Decoding is relied on for payloads with a base fee only. -/
theorem payload_round_trip_preserves_header (alloy : Alloy)
    (copies : alloy.fromBlockUnchecked = payloadFromBlock alloy.encode2718)
    (rebuilds : ∀ p : ExecutionPayloadV1, p.baseFeePerGas ≠ 0 →
      alloy.tryIntoBlock p = blockFromPayload alloy.decode2718Exact alloy.orderedTrieRoot p)
    (config : KasplexEvmConfig) (parent : SealedHeader) (evmEnv : EvmEnv)
    (transactions : List TransactionSigned) (output : BlockExecutionResult) (stateRoot : B256)
    (block : Block) (mapping mapping' : TxMapping) (senders : List Address)
    (assembled : assembleBlock alloy evmEnv (config.contextForNextBlock parent) transactions
      output stateRoot = .ok block)
    (postMerge : evmEnv.blockEnv.difficulty = 0)
    (extra : block.header.extraData.length ≤ 32)
    (fee : evmEnv.blockEnv.basefee ≠ 0)
    (codec : ∀ tx ∈ transactions,
      alloy.decode2718Exact (alloy.encode2718 tx) = some tx)
    (recoverable : transactions.mapM alloy.tryRecover = some senders) :
    ∃ recovered,
      (ensureWellFormedPayload alloy mapping'
        (blockToPayload alloy mapping (alloy.sealSlow block)).1).1 = .ok recovered ∧
      recovered.sealedBlock.block.header = block.header ∧
      recovered.sealedBlock.hash = (alloy.sealSlow block).hash ∧
      recovered.sealedBlock.block.body.transactions = block.body.transactions ∧
      recovered.senders = senders := by
  obtain ⟨-, -, hb⟩ := assembleBlock_eq_ok assembled
  have hfee : block.header.baseFeePerGas = some evmEnv.blockEnv.basefee := by rw [hb]
  have hbody : block.body.transactions = transactions := by rw [hb]
  have hdecoded := blockFromPayload_eq alloy.orderedTrieRoot (alloy.hashSlow block.header) extra
    hfee (by rw [hbody]; exact codec)
  rw [hbody] at hdecoded
  have hheader := fixWithdrawalsRoot_rebuilt assembled postMerge rfl
  refine ⟨⟨alloy.sealSlow (fixWithdrawalsRoot (rebuiltBlock
    (alloy.calculateTransactionRoot transactions) block)), senders⟩,
    ensureWellFormedPayload_eq_ok_iff.mpr ⟨_, _, rfl, ?_, ?_, rfl, Or.inr ?_⟩, hheader, ?_, ?_, rfl⟩
  · rw [copies]
    exact (rebuilds _ (payloadFromBlock_baseFeePerGas_ne _ hfee fee)).trans hdecoded
  · rw [← recoverable, ← hbody]
    rfl
  · rw [copies]
    exact congrArg alloy.hashSlow hheader.symm
  · exact congrArg alloy.hashSlow hheader
  · change (fixWithdrawalsRoot _).body.transactions = _
    rw [fixWithdrawalsRoot_body]
    rfl

def sampleEnv : EvmEnv :=
  PayloadBuilder.buildEnv PayloadBuilder.sampleBackend kasplexMainnet
    (PayloadBuilder.transferArgs 30000000) FeeHandler.kasplexBaseFee

/-- The block of two transfers on its way through a payload. -/
theorem payload_round_trip_preserves_header_transfers :
    ∃ recovered,
      (ensureWellFormedPayload sampleAlloy TxMapping.empty
        (blockToPayload sampleAlloy TxMapping.empty (sampleAlloy.sealSlow sampleBlock)).1).1 =
          .ok recovered ∧
      recovered.sealedBlock.block.header = sampleHeader := by
  have assembled : assembleBlock sampleAlloy sampleEnv
      ((PayloadBuilder.sampleConfig.setNextBlockExtraData sampleExtraData).contextForNextBlock
        sampleParent) [transfer0, transfer1]
      ⟨[⟨.eip1559, true, 21000, []⟩, ⟨.eip1559, true, 42000, []⟩], 42000, 0⟩
      sampleHeader.stateRoot = .ok sampleBlock := by decide +kernel
  obtain ⟨recovered, haccepted, hheader, -⟩ :=
    payload_round_trip_preserves_header sampleAlloy rfl (fun _ _ => rfl)
      (PayloadBuilder.sampleConfig.setNextBlockExtraData sampleExtraData) sampleParent sampleEnv
      [transfer0, transfer1] _ _ sampleBlock TxMapping.empty TxMapping.empty
      [sampleSigner, sampleSigner] assembled (by decide +kernel) (by decide +kernel)
      (by decide +kernel) (by decide +kernel) (by decide +kernel)
  exact ⟨recovered, haccepted, hheader⟩

end RoundTrip

section Sidecar

/-- Storing the numbers of a sidecar touches the transactions of the block only. -/
theorem restoreNumbers_mapping_of_not_mem (mapping : TxMapping) (block : Block)
    (kasplexData : Option KasplexExecutionData) {k : B256}
    (other : k ∉ block.body.transactions.map TransactionSigned.hash) :
    (restoreNumbers mapping block kasplexData).mapping k = mapping.mapping k := by
  cases kasplexData with
  | none => rfl
  | some data =>
    simp only [restoreNumbers]
    split
    · apply TxMapping.insertAll_mapping_of_not_mem
      intro listed
      obtain ⟨⟨h, n⟩, hin, rfl⟩ := List.mem_map.mp listed
      exact other (List.of_mem_zip hin).1
    · rfl

/-- Decoding ends with the lookups, which leave no entry of the block whatever
was stored before them. -/
theorem processKasplexExecutionData_mapping {alloy : Alloy} {p : ExecutionPayloadV1}
    {block : Block} (mapping : TxMapping) (kasplexData : Option KasplexExecutionData)
    (decodes : alloy.tryIntoBlock p = .ok block) :
    ∃ mapping', processKasplexExecutionData alloy mapping (.v1 p) kasplexData =
        .ok (fixWithdrawalsRoot block, mapping') ∧
      ∀ k, mapping'.mapping k =
        if k ∈ block.body.transactions.map TransactionSigned.hash then none
        else mapping.mapping k := by
  refine ⟨takeNumbers (restoreNumbers mapping (fixWithdrawalsRoot block) kasplexData)
    (block.body.transactions.map TransactionSigned.hash), ?_, ?_⟩
  · simp only [processKasplexExecutionData, decodes, bind, Except.bind, pure, Except.pure,
      fixWithdrawalsRoot_body]
  · intro k
    rw [takeNumbers_mapping]
    split
    · rfl
    · rename_i other
      apply restoreNumbers_mapping_of_not_mem
      rwa [fixWithdrawalsRoot_body]

/-- The sidecar has done its work: with one number for each transaction, every
transaction is recorded under its number and nothing else has changed; with any
other count, nothing at all. -/
structure NumbersRestored (mapping mapping' : TxMapping) (block : Block) (numbers : List U64) :
    Prop where
  recorded : numbers.length = block.body.transactions.length →
    ∀ (i : Nat) (tx : TransactionSigned) (number : U64), block.body.transactions[i]? = some tx →
      numbers[i]? = some number → mapping'.getSubmissionBlock tx.hash = some number
  frame : numbers.length = block.body.transactions.length →
    ∀ k, k ∉ block.body.transactions.map TransactionSigned.hash →
      mapping'.getSubmissionBlock k = mapping.getSubmissionBlock k
  ignored : numbers.length ≠ block.body.transactions.length →
    ∀ k, mapping'.getSubmissionBlock k = mapping.getSubmissionBlock k

/-- The numbers of a sidecar are in the mapping after decoding only where there
was nothing to restore: the sidecar has another count than the block, and no
transaction of the block was recorded before. -/
theorem sidecar_numbers_restored_iff (alloy : Alloy) (mapping mapping' : TxMapping)
    (p : ExecutionPayloadV1) (data : KasplexExecutionData) (block block' : Block)
    (decodes : alloy.tryIntoBlock p = .ok block)
    (nonempty : block.body.transactions ≠ [])
    (processed : processKasplexExecutionData alloy mapping (.v1 p) (some data) =
      .ok (block', mapping')) :
    NumbersRestored mapping mapping' block data.kasplexSidecar.numbers ↔
      data.kasplexSidecar.numbers.length ≠ block.body.transactions.length ∧
        ∀ tx ∈ block.body.transactions, mapping.getSubmissionBlock tx.hash = none := by
  obtain ⟨m, hprocessed, hentries⟩ := processKasplexExecutionData_mapping mapping (some data)
    decodes
  rw [hprocessed] at processed
  cases processed
  have htaken : ∀ tx ∈ block.body.transactions, mapping'.getSubmissionBlock tx.hash = none :=
    fun tx htx => (hentries tx.hash).trans (if_pos (List.mem_map_of_mem htx))
  constructor
  · intro restored
    have hcount : data.kasplexSidecar.numbers.length ≠ block.body.transactions.length := by
      intro same
      obtain ⟨tx, rest, htxs⟩ := List.exists_cons_of_ne_nil nonempty
      obtain ⟨number, numbers, hnumbers⟩ : ∃ number numbers,
          data.kasplexSidecar.numbers = number :: numbers := by
        apply List.exists_cons_of_length_pos
        rw [same, htxs]
        exact Nat.zero_lt_succ _
      have hrecorded := restored.recorded same 0 tx number (by rw [htxs]; rfl)
        (by rw [hnumbers]; rfl)
      rw [htaken tx (by rw [htxs]; exact List.mem_cons_self)] at hrecorded
      cases hrecorded
    refine ⟨hcount, ?_⟩
    intro tx htx
    rw [← restored.ignored hcount tx.hash]
    exact htaken tx htx
  · rintro ⟨hcount, absent⟩
    refine ⟨fun same => absurd same hcount, fun same => absurd same hcount, ?_⟩
    intro _ k
    refine (hentries k).trans ?_
    split
    · rename_i listed
      obtain ⟨tx, htx, rfl⟩ := List.mem_map.mp listed
      exact (absent tx htx).symm
    · rfl

/-- The payload of the sample block with a sidecar of the given numbers. -/
def withNumbers (numbers : List U64) : KasplexExecutionData :=
  ⟨payloadFromBlock encodeEip1559 0 sampleBlock, ⟨0, 0, numbers, true⟩⟩

/-- The block that payload decodes to. -/
def decodedSample : Block := rebuiltBlock sampleHeader.transactionsRoot sampleBlock

theorem tryIntoBlock_withNumbers (numbers : List U64) :
    sampleAlloy.tryIntoBlock (withNumbers numbers).executionPayload = .ok decodedSample := by
  change sampleAlloy.tryIntoBlock (withNumbers []).executionPayload = .ok decodedSample
  decide +kernel

/-- A sidecar with another count leaves an empty mapping empty. -/
theorem sidecar_numbers_restored_iff_one : ∃ mapping',
    processKasplexExecutionData sampleAlloy TxMapping.empty
      (.v1 (withNumbers [5]).executionPayload) (some (withNumbers [5])) =
        .ok (fixWithdrawalsRoot decodedSample, mapping') ∧
    NumbersRestored TxMapping.empty mapping' decodedSample [5] := by
  obtain ⟨mapping', processed, -⟩ := processKasplexExecutionData_mapping
    TxMapping.empty (some (withNumbers [5])) (tryIntoBlock_withNumbers [5])
  refine ⟨mapping', processed, (sidecar_numbers_restored_iff _ _ _ _ _ _ _
    (tryIntoBlock_withNumbers [5]) (by decide) processed).mpr ⟨by decide, ?_⟩⟩
  exact fun _ _ => rfl

/-- Two numbers for two transfers: after decoding the first one has none. -/
theorem sidecar_numbers_lost : ∃ mapping',
    processKasplexExecutionData sampleAlloy TxMapping.empty
      (.v1 (withNumbers [5, 6]).executionPayload) (some (withNumbers [5, 6])) =
        .ok (fixWithdrawalsRoot decodedSample, mapping') ∧
    decodedSample.body.transactions = [transfer0, transfer1] ∧
    transfer0.hash ≠ transfer1.hash ∧
    mapping'.getSubmissionBlock transfer0.hash = none ∧
    ¬ NumbersRestored TxMapping.empty mapping' decodedSample [5, 6] := by
  obtain ⟨mapping', processed, entries⟩ := processKasplexExecutionData_mapping
    TxMapping.empty (some (withNumbers [5, 6])) (tryIntoBlock_withNumbers [5, 6])
  have htaken : mapping'.getSubmissionBlock transfer0.hash = none := by
    refine (entries transfer0.hash).trans (if_pos ?_)
    exact List.mem_map_of_mem (f := TransactionSigned.hash) List.mem_cons_self
  refine ⟨mapping', processed, rfl, by decide, htaken, ?_⟩
  intro restored
  have hrecorded := restored.recorded rfl 0 transfer0 5 rfl rfl
  rw [htaken] at hrecorded
  cases hrecorded

end Sidecar

end EngineValidator
