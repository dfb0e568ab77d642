import Kasplex.FollowedChains

/-!
# Payloads passed on

A node that has accepted a payload can send it on: it converts the block it
decoded back into a payload. What it sends is what it was sent, with the hash of
the block in place of a hash that was not there. So a chain that one node has
accepted, from whatever source, every other node on the same head accepts from
it, and both end in one state.
-/

namespace RelayedChains

open Primitives MachineArith EvmState ChainSpec FeeHandler BlockExecutor EvmConfig
  PayloadAttributes SubmissionNumbers EngineTypes EngineValidator BuiltBlocks PayloadBuilder
  Consensus OwnBlocks PostExecution FollowedChains Paths

/-- Only its own encoding is read as a transaction. -/
def StrictDecoding (alloy : Alloy) : Prop :=
  ∀ bytes tx, alloy.decode2718Exact bytes = some tx → alloy.encode2718 tx = bytes

/-- The payload with another hash, and nothing beside it. -/
def withHash (p : ExecutionPayloadV1) (blockHash : B256) : ExecutionData :=
  ⟨.v1 { p with blockHash }, .none⟩

section RoundTrip

variable {decode : Bytes → Option TransactionSigned} {encode : TransactionSigned → Bytes}
  {trieRoot : List Bytes → B256} {p : ExecutionPayloadV1} {block : Block}

theorem mapM_encode (strict : ∀ bytes tx, decode bytes = some tx → encode tx = bytes)
    {encoded : List Bytes} {txs : List TransactionSigned}
    (decoded : encoded.mapM decode = some txs) : txs.map encode = encoded := by
  induction encoded generalizing txs with
  | nil =>
    cases decoded
    rfl
  | cons bytes encoded ih =>
    rw [List.mapM_cons] at decoded
    obtain ⟨tx, htx, decoded⟩ := Option.bind_eq_some_iff.mp decoded
    obtain ⟨rest, hrest, decoded⟩ := Option.bind_eq_some_iff.mp decoded
    cases decoded
    rw [List.map_cons, strict bytes tx htx, ih hrest]

/-- A decoded block, its withdrawals root patched, is written as the payload it
was read from. -/
theorem payloadFromBlock_decoded
    (strict : ∀ bytes tx, decode bytes = some tx → encode tx = bytes)
    (decoded : blockFromPayload decode trieRoot p = .ok block) (blockHash : B256) :
    payloadFromBlock encode blockHash (fixWithdrawalsRoot block) = { p with blockHash } := by
  obtain ⟨-, txs, fee, htxs, hfee, rfl⟩ := blockFromPayload_eq_ok decoded
  have hwide : fee.setWidth 256 = p.baseFeePerGas := by
    apply BitVec.eq_of_toNat_eq
    rw [toNat_setWidth_of_le (by decide), hfee]
  simp only [decodedBlock, fixWithdrawalsRoot, payloadFromBlock, Option.isNone_none, if_true,
    Option.getD_some, hwide, mapM_encode strict htxs]

end RoundTrip

section Accepted

variable {alloy : Alloy}
  (copies : alloy.fromBlockUnchecked = payloadFromBlock alloy.encode2718)
  (rebuilds : alloy.tryIntoBlock = blockFromPayload alloy.decode2718Exact alloy.orderedTrieRoot)
  (strict : StrictDecoding alloy)

/-- What is accepted does not depend on the submission numbers. -/
theorem accepted_any_mapping {mapping : TxMapping} {data : ExecutionData}
    {recovered : RecoveredBlock}
    (accepted : (ensureWellFormedPayload alloy mapping data).1 = .ok recovered)
    (mapping' : TxMapping) : (ensureWellFormedPayload alloy mapping' data).1 = .ok recovered :=
  ensureWellFormedPayload_eq_ok_iff.mpr (ensureWellFormedPayload_eq_ok_iff.mp accepted)

include rebuilds in
/-- With the hash of its block put in, an accepted payload is accepted again. -/
theorem withHash_accepted {mapping mapping' : TxMapping} {p : ExecutionPayloadV1}
    {sidecar : ExecutionPayloadSidecar} {recovered : RecoveredBlock}
    (accepted : (ensureWellFormedPayload alloy mapping ⟨.v1 p, sidecar⟩).1 = .ok recovered) :
    (ensureWellFormedPayload alloy mapping' (withHash p recovered.sealedBlock.hash)).1 =
      .ok recovered := by
  obtain ⟨_, block, hp, hdecoded, hsenders, hsealed, -⟩ :=
    ensureWellFormedPayload_eq_ok_iff.mp accepted
  cases hp
  refine ensureWellFormedPayload_eq_ok_iff.mpr ⟨_, block, rfl, ?_, hsenders, hsealed, Or.inr ?_⟩
  · rw [← hdecoded, rebuilds]
    rfl
  · rw [hsealed]
    rfl

include copies rebuilds strict in
theorem blockToPayload_accepted {mapping mapping' : TxMapping} {p : ExecutionPayloadV1}
    {sidecar : ExecutionPayloadSidecar} {recovered : RecoveredBlock}
    (accepted : (ensureWellFormedPayload alloy mapping ⟨.v1 p, sidecar⟩).1 = .ok recovered) :
    (blockToPayload alloy mapping' recovered.sealedBlock).1 =
      withHash p recovered.sealedBlock.hash := by
  obtain ⟨_, block, hp, hdecoded, -, hsealed, -⟩ := ensureWellFormedPayload_eq_ok_iff.mp accepted
  cases hp
  rw [rebuilds] at hdecoded
  rw [hsealed]
  simp only [blockToPayload, copies, Alloy.sealSlow, payloadFromBlock_decoded strict hdecoded]
  rfl

end Accepted

/-- The way of a payload through a node and back: what is accepted is V1, and
the conversion of the accepted block gives every field of it back, the hash of
the block in place of a zero hash. Any node accepts the result again, into the
same block. -/
theorem accepted_payload_comes_back (alloy : Alloy)
    (copies : alloy.fromBlockUnchecked = payloadFromBlock alloy.encode2718)
    (rebuilds : alloy.tryIntoBlock = blockFromPayload alloy.decode2718Exact alloy.orderedTrieRoot)
    (strict : StrictDecoding alloy) (mapping mapping' mapping'' : TxMapping) (data : ExecutionData)
    (recovered : RecoveredBlock)
    (accepted : (ensureWellFormedPayload alloy mapping data).1 = .ok recovered) :
    ∃ p, data.payload = .v1 p ∧
      (p.blockHash = 0 ∨ p.blockHash = recovered.sealedBlock.hash) ∧
      (blockToPayload alloy mapping' recovered.sealedBlock).1 =
        withHash p recovered.sealedBlock.hash ∧
      (ensureWellFormedPayload alloy mapping''
        (blockToPayload alloy mapping' recovered.sealedBlock).1).1 = .ok recovered := by
  obtain ⟨p, block, hp, -, -, hsealed, hhash⟩ := ensureWellFormedPayload_eq_ok_iff.mp accepted
  obtain ⟨payload, sidecar⟩ := data
  cases hp
  have hback : (blockToPayload alloy mapping' recovered.sealedBlock).1 =
      withHash p recovered.sealedBlock.hash :=
    blockToPayload_accepted copies rebuilds strict accepted
  refine ⟨p, rfl, ?_, hback, ?_⟩
  · rw [hsealed]
    exact hhash
  · rw [hback]
    exact withHash_accepted rebuilds accepted

theorem sampleAlloy_strict : StrictDecoding sampleAlloy := by
  intro bytes tx decoded
  change sampleTransfers.find? (fun tx => decide (encodeEip1559 tx = bytes)) = some tx at decoded
  have hfound := List.find?_some decoded
  exact of_decide_eq_true hfound

/-- The payload without a hash comes back with one. -/
theorem accepted_payload_comes_back_hashless :
    ∃ (recovered : RecoveredBlock) (p : ExecutionPayloadV1),
      hashlessPayload.payload = .v1 p ∧ p.blockHash = 0 ∧ recovered.sealedBlock.hash ≠ 0 ∧
      (blockToPayload sampleAlloy TxMapping.empty recovered.sealedBlock).1 =
        withHash p recovered.sealedBlock.hash := by
  obtain ⟨recovered, accepted⟩ := exists_of_isOk (show (ensureWellFormedPayload sampleAlloy
    TxMapping.empty hashlessPayload).1.isOk = true by decide +kernel)
  have hhash : ((ensureWellFormedPayload sampleAlloy TxMapping.empty hashlessPayload).1.toOption.all
      fun r => decide (r.sealedBlock.hash ≠ 0)) = true := by decide +kernel
  rw [accepted] at hhash
  obtain ⟨p, hp, -, hback, -⟩ := accepted_payload_comes_back sampleAlloy rfl rfl sampleAlloy_strict
    TxMapping.empty TxMapping.empty TxMapping.empty hashlessPayload recovered accepted
  cases hp
  exact ⟨recovered, _, rfl, rfl, of_decide_eq_true hhash, hback⟩

/-- What a node sends on for a payload it was sent; a refused payload is not
touched. -/
def relay (alloy : Alloy) (data : ExecutionData) : ExecutionData :=
  match (ensureWellFormedPayload alloy TxMapping.empty data).1 with
  | .ok block => (blockToPayload alloy TxMapping.empty block.sealedBlock).1
  | .error _ => data

/-- Two nodes on one head, with one state. -/
structure SameChain (node node' : Follower) : Prop where
  head : node'.head = node.head
  db : node'.db = node.db

section Relays

variable {backend : Backend} {config : KasplexEvmConfig} {cfgAt : U64 → U64 → CfgEnv}
  {nextBaseFee : Header → NextBlockEnvAttributes → U64} {rules : SharedRules}
  {check : PostExecutionCheck}

theorem followStep_unique {s t t' : Follower} {data : ExecutionData}
    (step : FollowStep backend config rules check s data t)
    (step' : FollowStep backend config rules check s data t') : t = t' := by
  cases step with
  | accepted hpayload _ _ _ hctx htxs hexecuted _ _ =>
    cases step' with
    | accepted hpayload' _ _ _ hctx' htxs' hexecuted' _ _ =>
      cases hpayload.symm.trans hpayload'
      cases hctx.symm.trans hctx'
      cases htxs.symm.trans htxs'
      cases hexecuted.symm.trans hexecuted'
      rfl

variable (fills : backend.eth.FillsFields config.chainSpec cfgAt nextBaseFee)
  (copies : backend.alloy.fromBlockUnchecked = payloadFromBlock backend.alloy.encode2718)
  (rebuilds : backend.alloy.tryIntoBlock =
    blockFromPayload backend.alloy.decode2718Exact backend.alloy.orderedTrieRoot)
  (strict : StrictDecoding backend.alloy)
include fills copies rebuilds strict

/-- A node on the same head and state accepts what the first sends on. -/
theorem followStep_relayed {s t s' : Follower} {data : ExecutionData}
    (step : FollowStep backend config rules check s data t) (same : SameChain s s') :
    ∃ t', FollowStep backend config rules check s' (relay backend.alloy data) t' ∧
      SameChain t t' := by
  cases step with
  | @accepted recovered _ _ _ _ haccepted halone hlink hpre hctx htxs hexecuted hpost hroot =>
    have hagain := accepted_any_mapping haccepted TxMapping.empty
    obtain ⟨p, _, hp, -⟩ := ensureWellFormedPayload_eq_ok_iff.mp haccepted
    obtain ⟨payload, sidecar⟩ := data
    cases hp
    have hrelay : relay backend.alloy ⟨.v1 p, sidecar⟩ = withHash p recovered.sealedBlock.hash := by
      simp only [relay, hagain]
      exact blockToPayload_accepted copies rebuilds strict hagain
    have henv : config.evmEnvForPayload backend.eth (withHash p recovered.sealedBlock.hash) =
        config.evmEnvForPayload backend.eth ⟨.v1 p, sidecar⟩ := by
      simp only [KasplexEvmConfig.evmEnvForPayload, fills.evmEnvForPayload]
      rfl
    rw [← same.db, ← henv] at hexecuted
    rw [← same.head] at hlink
    rw [hrelay]
    exact ⟨_, .accepted (withHash_accepted rebuilds haccepted) halone hlink hpre hctx htxs
      hexecuted hpost hroot, rfl, rfl⟩

end Relays

/-- A chain of payloads that one node has accepted, whoever built it, is accepted
by every node on the same head and state when the first node sends it on, and
leads the second node to the head and the state of the first. -/
theorem relayed_chain_agrees (backend : Backend) (config : KasplexEvmConfig)
    (cfgAt : U64 → U64 → CfgEnv) (nextBaseFee : Header → NextBlockEnvAttributes → U64)
    (rules : SharedRules) (check : PostExecutionCheck)
    (fills : backend.eth.FillsFields config.chainSpec cfgAt nextBaseFee)
    (copies : backend.alloy.fromBlockUnchecked = payloadFromBlock backend.alloy.encode2718)
    (rebuilds : backend.alloy.tryIntoBlock =
      blockFromPayload backend.alloy.decode2718Exact backend.alloy.orderedTrieRoot)
    (strict : StrictDecoding backend.alloy) (node node' other : Follower)
    (chain : List ExecutionData)
    (accepted : Path (FollowStep backend config rules check) node chain node')
    (same : SameChain node other) :
    (∃ other', Path (FollowStep backend config rules check) other
        (chain.map (relay backend.alloy)) other') ∧
      ∀ other', Path (FollowStep backend config rules check) other
        (chain.map (relay backend.alloy)) other' → SameChain node' other' := by
  have hfollows : ∃ other', Path (FollowStep backend config rules check) other
      (chain.map (relay backend.alloy)) other' ∧ SameChain node' other' := by
    refine accepted.follows ?_ same
    intro s data t s' step same
    exact followStep_relayed fills copies rebuilds strict step same
  obtain ⟨last, hlast, hsame⟩ := hfollows
  refine ⟨⟨last, hlast⟩, fun other' hother => ?_⟩
  have hlevel : other' = last := by
    refine hother.unique ?_ hlast
    intro s data t t' step step'
    exact followStep_unique step step'
  rw [hlevel]
  exact hsame

/-- A second follower is sent two blocks by the first. -/
theorem relayed_chain_agrees_transfers :
    ∃ chain node' other', chain.length = 2 ∧
      Path (FollowStep chainBackend sampleConfig (sampleRules sampleAlloy)
        (sampleCheck sampleAlloy)) ⟨sampleParent, sampleDb, TxMapping.empty⟩ chain node' ∧
      Path (FollowStep chainBackend sampleConfig (sampleRules sampleAlloy)
        (sampleCheck sampleAlloy)) ⟨sampleParent, sampleDb, TxMapping.empty⟩
        (chain.map (relay sampleAlloy)) other' ∧
      SameChain node' other' := by
  obtain ⟨b, b', leader', acceptable, codec⟩ := exists_sampleChain
  have level : Level ⟨sampleParent, sampleDb⟩ ⟨sampleParent, sampleDb, TxMapping.empty⟩ :=
    ⟨rfl, rfl⟩
  obtain ⟨node', accepted, -⟩ := leaderPath_followed sampleEth_fillsFields rfl rfl
    (sampleRules_asDocumented sampleAlloy) (sampleCheck_compares sampleAlloy _)
    sampleAlloy_joinsBlooms acceptable codec level
  obtain ⟨⟨other', hother⟩, hsame⟩ := relayed_chain_agrees chainBackend sampleConfig sampleCfg
    sampleNextBaseFee (sampleRules sampleAlloy) (sampleCheck sampleAlloy) sampleEth_fillsFields
    rfl rfl sampleAlloy_strict _ _ ⟨sampleParent, sampleDb, TxMapping.empty⟩ _ accepted ⟨rfl, rfl⟩
  exact ⟨_, node', other', rfl, accepted, hother, hsame other' hother⟩

end RelayedChains
