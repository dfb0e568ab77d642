import Kasplex.SubmissionNumbers

/-!
# From blocks to payloads

`blockToPayload` turns a sealed block into a V1 payload without a sidecar. The
submission numbers of its transactions are read and written back, so that a
transaction without one has the number zero from then on.
-/

namespace EngineTypes

open Primitives SubmissionNumbers

structure KasplexExecutionDataSidecar where
  txHash : B256
  withdrawalsHash : B256
  numbers : List U64
  kasplexBlock : Bool
  deriving DecidableEq, Repr

structure KasplexExecutionData where
  executionPayload : ExecutionPayloadV1
  kasplexSidecar : KasplexExecutionDataSidecar
  deriving DecidableEq, Repr

/-- The numbers reported for a block. -/
def blockNumbers (mapping : TxMapping) (block : SealedBlock) : List U64 :=
  block.block.body.transactions.map fun tx => (mapping.getSubmissionBlock tx.hash).getD 0

def blockToPayload (alloy : Alloy) (mapping : TxMapping) (block : SealedBlock) :
    ExecutionData × TxMapping :=
  let numbers := blockNumbers mapping block
  let payload := alloy.fromBlockUnchecked block.hash block.block
  let mapping := mapping.insertAll
    ((block.block.body.transactions.map TransactionSigned.hash).zip numbers)
  (⟨.v1 payload, .none⟩, mapping)

theorem blockToPayload_mapping (alloy : Alloy) (mapping : TxMapping) (block : SealedBlock) :
    (blockToPayload alloy mapping block).2 =
      mapping.recordAgain (block.block.body.transactions.map TransactionSigned.hash) := by
  simp only [blockToPayload, blockNumbers, TxMapping.recordAgain, List.map_map, List.zip_map']
  rfl

end EngineTypes
