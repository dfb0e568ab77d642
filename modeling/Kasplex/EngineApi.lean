import Kasplex.AuthApi
import Kasplex.PayloadAttributes
import Kasplex.EngineTypes

/-!
# The engine API on top of the stock one

Each method calls the stock method first. After a successful forkchoice update
the pool is cleaned for the number of the announced head, or of the best block
when that head is not known; after a new payload the transactions of its block
are removed, if the block can be found.
-/

namespace EngineApi

open Primitives ChainSpec SubmissionNumbers TxPool AuthApi EngineTypes PayloadAttributes

structure ForkchoiceState where
  headBlockHash : B256
  safeBlockHash : B256
  finalizedBlockHash : B256
  deriving DecidableEq, Repr

inductive PayloadStatusEnum where
  | valid
  | invalid (validationError : String)
  | syncing
  | accepted
  deriving DecidableEq, Repr

structure PayloadStatus where
  status : PayloadStatusEnum
  latestValidHash : Option B256
  deriving DecidableEq, Repr

structure ForkchoiceUpdated where
  payloadStatus : PayloadStatus
  payloadId : Option PayloadId
  deriving DecidableEq, Repr

/-- The stock engine API during one call. -/
structure InnerApi where
  newPayloadV2 : ExecutionData → Except ErrorObject PayloadStatus
  forkChoiceUpdatedV2 : ForkchoiceState → Option KasplexPayloadAttributes →
    Except ErrorObject ForkchoiceUpdated

/-- What the provider answers after the stock method has run. -/
structure Provider where
  headerByHash : B256 → Except String (Option Header)
  bestBlockNumber : Except String U64
  blockByHash : B256 → Except String (Option Block)

/-- The head number the pool is cleaned for. -/
def cleanupHead (provider : Provider) (state : ForkchoiceState) : Option U64 :=
  match provider.headerByHash state.headBlockHash with
  | .ok (some currentHeader) => some currentHeader.number
  | _ => provider.bestBlockNumber.toOption

def forkChoiceUpdatedV2 (spec : KasplexChainSpec) (inner : InnerApi) (provider : Provider)
    (pool : TransactionPool) (mapping : TxMapping) (state : ForkchoiceState)
    (attributes : Option KasplexPayloadAttributes) :
    Except ErrorObject ForkchoiceUpdated × TransactionPool × TxMapping :=
  match inner.forkChoiceUpdatedV2 state attributes with
  | .error err => (.error err, pool, mapping)
  | .ok result =>
    match cleanupHead provider state with
    | some newHeadNumber =>
      let (pool, mapping) := handleKasplexPoolReorg spec pool mapping newHeadNumber
      (.ok result, pool, mapping)
    | none => (.ok result, pool, mapping)

/-- The inner call validates the payload as well, and takes its numbers. That is
`ensureWellFormedPayload`, a step of its own in a run of the node. -/
def newPayloadV2 (alloy : Alloy) (inner : InnerApi) (provider : Provider)
    (pool : TransactionPool) (payload : KasplexExecutionData) :
    Except ErrorObject PayloadStatus × TransactionPool :=
  match inner.newPayloadV2 ⟨.v1 payload.executionPayload, .none⟩ with
  | .error err => (.error err, pool)
  | .ok result =>
    match provider.blockByHash payload.executionPayload.blockHash with
    | .ok (some block) => (.ok result, (removeIncludedTransactions pool (alloy.sealSlow block)).2)
    | _ => (.ok result, pool)

@[simp] theorem forkChoiceUpdatedV2_mapping (spec : KasplexChainSpec) (inner : InnerApi)
    (provider : Provider) (pool : TransactionPool) (mapping : TxMapping)
    (state : ForkchoiceState) (attributes : Option KasplexPayloadAttributes) :
    (forkChoiceUpdatedV2 spec inner provider pool mapping state attributes).2.2.mapping =
      mapping.mapping := by
  unfold forkChoiceUpdatedV2
  split
  · rfl
  · split
    · exact handleKasplexPoolReorg_mapping spec pool mapping _
    · rfl

/-- A transaction that an update takes out of the pool was selected, for the head
number the update looked up. -/
theorem selected_of_removed {spec : KasplexChainSpec} {inner : InnerApi} {provider : Provider}
    {pool : TransactionPool} {mapping : TxMapping} {state : ForkchoiceState}
    {attributes : Option KasplexPayloadAttributes} {h : B256} (held : pool.Holds h)
    (gone : ¬ (forkChoiceUpdatedV2 spec inner provider pool mapping state
      attributes).2.1.Holds h) :
    ∃ n, cleanupHead provider state = some n ∧ selectedForRemoval mapping n h = true := by
  unfold forkChoiceUpdatedV2 at gone
  split at gone
  · exact absurd held gone
  · split at gone
    · rename_i n hn
      refine ⟨n, hn, ?_⟩
      by_contra hselected
      apply gone
      by_cases hspec : spec.isKasplex
      · exact (handleKasplexPoolReorg_holds hspec pool mapping n h).mpr
          ⟨held, Bool.eq_false_iff.mpr hselected⟩
      · simpa [handleKasplexPoolReorg, hspec] using held
    · exact absurd held gone

end EngineApi
