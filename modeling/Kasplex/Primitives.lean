import Kasplex.MachineArith

/-!
# Chain data shared by the crates

Transactions, headers, blocks, execution payloads and receipts with the fields
the node reads or writes. The functions of `alloy` that the node is linked
against are fields of `Alloy`: nothing is assumed of them here, and a result
that needs one of their laws takes it as a hypothesis.
-/

namespace Primitives

open MachineArith

abbrev U64 := BitVec 64
abbrev U128 := BitVec 128
abbrev U256 := BitVec 256
abbrev Address := BitVec 160
abbrev B256 := BitVec 256
abbrev Bloom := BitVec 2048
abbrev Bytes := List UInt8

inductive TxKind where
  | create
  | call (target : Address)
  deriving DecidableEq, Repr

def TxKind.isCall : TxKind → Bool
  | .create => false
  | .call _ => true

inductive TxType where
  | legacy
  | eip2930
  | eip1559
  | eip4844
  | eip7702
  deriving DecidableEq, Repr

/-- The price fields of each transaction type. A priority fee exists exactly
from EIP-1559 on. -/
inductive TxFees where
  | legacy (gasPrice : U128)
  | eip2930 (gasPrice : U128)
  | eip1559 (maxFeePerGas maxPriorityFeePerGas : U128)
  | eip4844 (maxFeePerGas maxPriorityFeePerGas maxFeePerBlobGas : U128)
      (blobHashes : List B256)
  | eip7702 (maxFeePerGas maxPriorityFeePerGas : U128)
  deriving DecidableEq, Repr

namespace TxFees

def txType : TxFees → TxType
  | .legacy _ => .legacy
  | .eip2930 _ => .eip2930
  | .eip1559 _ _ => .eip1559
  | .eip4844 _ _ _ _ => .eip4844
  | .eip7702 _ _ => .eip7702

/-- The gas price of the early types, the fee cap of the later ones. -/
def maxFeePerGas : TxFees → U128
  | .legacy p => p
  | .eip2930 p => p
  | .eip1559 m _ => m
  | .eip4844 m _ _ _ => m
  | .eip7702 m _ => m

def maxPriorityFeePerGas : TxFees → Option U128
  | .legacy _ => none
  | .eip2930 _ => none
  | .eip1559 _ p => some p
  | .eip4844 _ p _ _ => some p
  | .eip7702 _ p => some p

def maxFeePerBlobGas : TxFees → U128
  | .eip4844 _ _ b _ => b
  | _ => 0

def blobHashes : TxFees → List B256
  | .eip4844 _ _ _ h => h
  | _ => []

end TxFees

/-- A signed transaction; `hash` is the cached transaction hash. -/
structure TransactionSigned where
  hash : B256
  fees : TxFees
  chainId : Option U64
  nonce : U64
  gasLimit : U64
  kind : TxKind
  value : U256
  input : Bytes
  accessList : List (Address × List B256)
  authorizationList : List Bytes
  signature : Bytes
  deriving DecidableEq, Repr

/-- The tip the block builder credits, `none` below the base fee. -/
def TransactionSigned.effectiveTipPerGas (tx : TransactionSigned) (baseFee : U64) :
    Option U128 :=
  let baseFee := baseFee.setWidth 128
  if tx.fees.maxFeePerGas < baseFee then none
  else
    let fee := tx.fees.maxFeePerGas - baseFee
    match tx.fees.maxPriorityFeePerGas with
    | none => some fee
    | some priority => some (if fee ≤ priority then fee else priority)

structure Recovered where
  tx : TransactionSigned
  signer : Address
  deriving DecidableEq, Repr

structure Withdrawal where
  index : U64
  validatorIndex : U64
  address : Address
  amount : U64
  deriving DecidableEq, Repr

structure Log where
  address : Address
  topics : List B256
  data : Bytes
  deriving DecidableEq, Repr

structure Receipt where
  txType : TxType
  success : Bool
  cumulativeGasUsed : U64
  logs : List Log
  deriving DecidableEq, Repr

structure Header where
  parentHash : B256
  ommersHash : B256
  beneficiary : Address
  stateRoot : B256
  transactionsRoot : B256
  receiptsRoot : B256
  logsBloom : Bloom
  difficulty : U256
  number : U64
  gasLimit : U64
  gasUsed : U64
  timestamp : U64
  extraData : Bytes
  mixHash : B256
  nonce : U64
  baseFeePerGas : Option U64
  withdrawalsRoot : Option B256
  blobGasUsed : Option U64
  excessBlobGas : Option U64
  parentBeaconBlockRoot : Option B256
  requestsHash : Option B256
  deriving DecidableEq, Repr

structure SealedHeader where
  header : Header
  hash : B256
  deriving DecidableEq, Repr

structure BlockBody where
  transactions : List TransactionSigned
  ommers : List Header
  withdrawals : Option (List Withdrawal)
  deriving DecidableEq, Repr

structure Block where
  header : Header
  body : BlockBody
  deriving DecidableEq, Repr

structure SealedBlock where
  block : Block
  hash : B256
  deriving DecidableEq, Repr

/-- A sealed block with the sender of each of its transactions. -/
structure RecoveredBlock where
  sealedBlock : SealedBlock
  senders : List Address
  deriving DecidableEq, Repr

def RecoveredBlock.recoveredTransactions (b : RecoveredBlock) : List Recovered :=
  List.zipWith Recovered.mk b.sealedBlock.block.body.transactions b.senders

structure ExecutionPayloadV1 where
  parentHash : B256
  feeRecipient : Address
  stateRoot : B256
  receiptsRoot : B256
  logsBloom : Bloom
  prevRandao : B256
  blockNumber : U64
  gasLimit : U64
  gasUsed : U64
  timestamp : U64
  extraData : Bytes
  baseFeePerGas : U256
  blockHash : B256
  transactions : List Bytes
  deriving DecidableEq, Repr

structure ExecutionPayloadV2 where
  payloadInner : ExecutionPayloadV1
  withdrawals : List Withdrawal
  deriving DecidableEq, Repr

structure ExecutionPayloadV3 where
  payloadInner : ExecutionPayloadV2
  blobGasUsed : U64
  excessBlobGas : U64
  deriving DecidableEq, Repr

inductive ExecutionPayload where
  | v1 (payload : ExecutionPayloadV1)
  | v2 (payload : ExecutionPayloadV2)
  | v3 (payload : ExecutionPayloadV3)
  deriving DecidableEq, Repr

/-- Every version carries the V1 fields. -/
def ExecutionPayload.asV1 : ExecutionPayload → ExecutionPayloadV1
  | .v1 p => p
  | .v2 p => p.payloadInner
  | .v3 p => p.payloadInner.payloadInner

/-- Fields of newer payload versions that travel beside the payload. -/
structure ExecutionPayloadSidecar where
  parentBeaconBlockRoot : Option B256
  versionedHashes : List B256
  deriving DecidableEq, Repr

def ExecutionPayloadSidecar.none : ExecutionPayloadSidecar := ⟨Option.none, []⟩

structure ExecutionData where
  payload : ExecutionPayload
  sidecar : ExecutionPayloadSidecar
  deriving DecidableEq, Repr

inductive PayloadError where
  | extraData (bytes : Bytes)
  | baseFee (fee : U256)
  | blockHash (execution consensus : B256)
  | decode
  deriving DecidableEq, Repr

inductive RlpError where
  | overflow
  | leadingZero
  | inputTooShort
  | nonCanonicalSingleByte
  | nonCanonicalSize
  | unexpectedLength
  | unexpectedString
  | unexpectedList
  | listLengthMismatch
  | custom (message : String)
  deriving DecidableEq, Repr

/-- Functions of the linked `alloy` crates. -/
structure Alloy where
  hashSlow : Header → B256
  keccak256 : Bytes → B256
  encode2718 : TransactionSigned → Bytes
  decode2718Exact : Bytes → Option TransactionSigned
  tryRecover : TransactionSigned → Option Address
  orderedTrieRoot : List Bytes → B256
  calculateReceiptRoot : List Receipt → B256
  logsBloom : List Log → Bloom
  fromBlockUnchecked : B256 → Block → ExecutionPayloadV1
  tryIntoBlock : ExecutionPayloadV1 → Except PayloadError Block
  /-- One RLP list of transactions off the front, with the bytes left over. -/
  decodeTransactionVec : Bytes → Except RlpError (List TransactionSigned × Bytes)

namespace Alloy

variable (alloy : Alloy)

def calculateTransactionRoot (txs : List TransactionSigned) : B256 :=
  alloy.orderedTrieRoot (txs.map alloy.encode2718)

def sealSlow (block : Block) : SealedBlock := ⟨block, alloy.hashSlow block.header⟩

end Alloy

def emptyOmmerRootHash : B256 :=
  0x1dcc4de8dec75d7aab85b567b6ccd41ad312451b948a7413f0a142fd40d49347#256

def emptyWithdrawals : B256 :=
  0x56e81f171bcc55a6ff8345e692c0f86e5b48e01b996cadc001622fb5e363b421#256

/-- The largest gas limit of a block, half the range of 64 bits. -/
def maximumGasLimitBlock : U64 := 0x7fffffffffffffff

/-- What `fromBlockUnchecked` is documented to do: copy the header fields and
encode the transactions. -/
def payloadFromBlock (encode : TransactionSigned → Bytes) (blockHash : B256) (block : Block) :
    ExecutionPayloadV1 where
  parentHash := block.header.parentHash
  feeRecipient := block.header.beneficiary
  stateRoot := block.header.stateRoot
  receiptsRoot := block.header.receiptsRoot
  logsBloom := block.header.logsBloom
  prevRandao := block.header.mixHash
  blockNumber := block.header.number
  gasLimit := block.header.gasLimit
  gasUsed := block.header.gasUsed
  timestamp := block.header.timestamp
  extraData := block.header.extraData
  baseFeePerGas := (block.header.baseFeePerGas.getD 0).setWidth 256
  blockHash := blockHash
  transactions := block.body.transactions.map encode

/-- What `tryIntoBlock` is documented to do: check the extra data, narrow the base
fee, decode the transactions and rebuild a post-merge header around them. -/
def blockFromPayload (decode : Bytes → Option TransactionSigned) (trieRoot : List Bytes → B256)
    (p : ExecutionPayloadV1) : Except PayloadError Block :=
  if 32 < p.extraData.length then .error (.extraData p.extraData)
  else
    match narrow 64 p.baseFeePerGas, p.transactions.mapM decode with
    | none, _ => .error (.baseFee p.baseFeePerGas)
    | _, none => .error .decode
    | some baseFee, some transactions => .ok {
        header := {
          parentHash := p.parentHash
          ommersHash := emptyOmmerRootHash
          beneficiary := p.feeRecipient
          stateRoot := p.stateRoot
          transactionsRoot := trieRoot p.transactions
          receiptsRoot := p.receiptsRoot
          logsBloom := p.logsBloom
          difficulty := 0
          number := p.blockNumber
          gasLimit := p.gasLimit
          gasUsed := p.gasUsed
          timestamp := p.timestamp
          extraData := p.extraData
          mixHash := p.prevRandao
          nonce := 0
          baseFeePerGas := some baseFee
          withdrawalsRoot := none
          blobGasUsed := none
          excessBlobGas := none
          parentBeaconBlockRoot := none
          requestsHash := none }
        body := ⟨transactions, [], none⟩ }

theorem recoveredTransactions_mk (sealedBlock : SealedBlock) (txs : List Recovered)
    (body : sealedBlock.block.body.transactions = txs.map Recovered.tx) :
    RecoveredBlock.recoveredTransactions ⟨sealedBlock, txs.map Recovered.signer⟩ = txs := by
  unfold RecoveredBlock.recoveredTransactions
  rw [body, List.zipWith_map]
  exact List.ext_getElem? (fun i => by cases h : txs[i]? <;> simp [h])

end Primitives
