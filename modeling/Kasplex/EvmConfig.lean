import Kasplex.BlockExecutor

/-!
# Environments, contexts and block assembly

`KasplexEvmConfig` derives the environment of a block three ways: for the next
block on a parent, from a header, and from an execution payload. Extra data and
base fee of the next block are passed in through two cells of the config that
are set before and cleared after a block builder is made; every clone of the
config shares them.
-/

namespace EvmConfig

open Primitives MachineArith EvmState ChainSpec BlockExecutor

structure NextBlockEnvAttributes where
  timestamp : U64
  suggestedFeeRecipient : Address
  prevRandao : B256
  gasLimit : U64
  parentBeaconBlockRoot : Option B256
  withdrawals : Option (List Withdrawal)
  extraData : Bytes
  deriving DecidableEq, Repr

/-- The stock environment derivations the config delegates to. -/
structure EthEvmConfig where
  evmEnv : KasplexChainSpec → Header → EvmEnv
  nextEvmEnv : KasplexChainSpec → Header → NextBlockEnvAttributes → EvmEnv
  evmEnvForPayload : KasplexChainSpec → ExecutionData → EvmEnv

structure KasplexEvmConfig where
  chainSpec : KasplexChainSpec
  currentExtraData : Option Bytes
  currentBaseFeePerGas : Option U64
  deriving DecidableEq, Repr

namespace KasplexEvmConfig

def new (chainSpec : KasplexChainSpec) : KasplexEvmConfig := ⟨chainSpec, none, none⟩

def setNextBlockExtraData (c : KasplexEvmConfig) (extraData : Bytes) : KasplexEvmConfig :=
  { c with currentExtraData := some extraData }

def clearNextBlockExtraData (c : KasplexEvmConfig) : KasplexEvmConfig :=
  { c with currentExtraData := none }

def setNextBlockBaseFeePerGas (c : KasplexEvmConfig) (baseFeePerGas : U64) : KasplexEvmConfig :=
  { c with currentBaseFeePerGas := some baseFeePerGas }

def clearNextBlockBaseFeePerGas (c : KasplexEvmConfig) : KasplexEvmConfig :=
  { c with currentBaseFeePerGas := none }

def evmEnv (eth : EthEvmConfig) (c : KasplexEvmConfig) (header : Header) : EvmEnv :=
  eth.evmEnv c.chainSpec header

/-- The stock environment, with the base fee replaced if the cell holds one. -/
def nextEvmEnv (eth : EthEvmConfig) (c : KasplexEvmConfig) (parent : Header)
    (attributes : NextBlockEnvAttributes) : EvmEnv :=
  let evmEnv := eth.nextEvmEnv c.chainSpec parent attributes
  match c.currentBaseFeePerGas with
  | some baseFeePerGas =>
    { evmEnv with blockEnv := { evmEnv.blockEnv with basefee := baseFeePerGas } }
  | none => evmEnv

def contextForBlock (block : SealedBlock) : KasplexBlockExecutionCtx where
  parentHash := block.block.header.parentHash
  parentBeaconBlockRoot := block.block.header.parentBeaconBlockRoot
  ommers := []
  withdrawals := some []
  basefeePerGas := block.block.header.baseFeePerGas.getD 0
  extraData := block.block.header.extraData

/-- Extra data from the cell, or the parent's when the cell is empty. -/
def contextForNextBlock (c : KasplexEvmConfig) (parent : SealedHeader) :
    KasplexBlockExecutionCtx where
  parentHash := parent.hash
  parentBeaconBlockRoot := none
  ommers := []
  withdrawals := some []
  basefeePerGas := parent.header.baseFeePerGas.getD 0
  extraData := c.currentExtraData.getD parent.header.extraData

def evmEnvForPayload (eth : EthEvmConfig) (c : KasplexEvmConfig) (data : ExecutionData) : EvmEnv :=
  eth.evmEnvForPayload c.chainSpec data

/-- Only V1 payloads are read; the base fee conversion panics beyond 64 bits. -/
def contextForPayload {ε : Type} (data : ExecutionData) :
    Except (Fault ε) KasplexBlockExecutionCtx := do
  let parentHash := data.payload.asV1.parentHash
  let (parentBeaconBlockRoot, basefeePerGas, extraData) ← match data.payload with
    | .v1 p => do
      let fee ← narrowOrPanic 64 p.baseFeePerGas
      pure (none, fee, p.extraData)
    | _ => pure (none, 0, [])
  pure {
    parentHash, parentBeaconBlockRoot
    ommers := []
    withdrawals := none
    basefeePerGas, extraData }

/-- The recovered transactions of a payload; one that does not decode or has no
signer ends the execution. -/
def txIteratorForPayload (alloy : Alloy) (data : ExecutionData) : Option (List Recovered) :=
  data.payload.asV1.transactions.mapM fun bytes => do
    let tx ← alloy.decode2718Exact bytes
    let signer ← alloy.tryRecover tx
    pure ⟨tx, signer⟩

end KasplexEvmConfig

/-- Header and body of an executed block. -/
def assembleBlock (alloy : Alloy) (evmEnv : EvmEnv) (ctx : KasplexBlockExecutionCtx)
    (transactions : List TransactionSigned) (output : BlockExecutionResult) (stateRoot : B256) :
    Except (Fault BlockExecutionError) Block := do
  let timestamp ← narrowOrPanic 64 evmEnv.blockEnv.timestamp
  let number ← narrowOrPanic 64 evmEnv.blockEnv.number
  pure {
    header := {
      parentHash := ctx.parentHash
      ommersHash := emptyOmmerRootHash
      beneficiary := evmEnv.blockEnv.beneficiary
      stateRoot := stateRoot
      transactionsRoot := alloy.calculateTransactionRoot transactions
      receiptsRoot := alloy.calculateReceiptRoot output.receipts
      withdrawalsRoot := some emptyWithdrawals
      logsBloom := alloy.logsBloom (output.receipts.flatMap Receipt.logs)
      timestamp := timestamp
      mixHash := evmEnv.blockEnv.prevrandao.getD 0
      nonce := 0
      baseFeePerGas := some evmEnv.blockEnv.basefee
      number := number
      gasLimit := evmEnv.blockEnv.gasLimit
      difficulty := evmEnv.blockEnv.difficulty
      gasUsed := output.gasUsed
      extraData := ctx.extraData
      parentBeaconBlockRoot := ctx.parentBeaconBlockRoot
      blobGasUsed := none
      excessBlobGas := none
      requestsHash := none }
    body := ⟨transactions, [], some []⟩ }

/-- How the stock derivations fill a post-merge environment: field by field
from the attributes, the header or the payload. `cfgAt` is the configuration at
a timestamp and block number. -/
structure EthEvmConfig.FillsFields (eth : EthEvmConfig) (spec : KasplexChainSpec)
    (cfgAt : U64 → U64 → CfgEnv) (nextBaseFee : Header → NextBlockEnvAttributes → U64) :
    Prop where
  evmEnv : ∀ header, eth.evmEnv spec header = {
    cfgEnv := cfgAt header.timestamp header.number
    blockEnv := {
      number := header.number.setWidth 256
      beneficiary := header.beneficiary
      timestamp := header.timestamp.setWidth 256
      gasLimit := header.gasLimit
      basefee := header.baseFeePerGas.getD 0
      difficulty := 0
      prevrandao := some header.mixHash } }
  nextEvmEnv : ∀ parent attributes, eth.nextEvmEnv spec parent attributes = {
    cfgEnv := cfgAt attributes.timestamp (parent.number + 1)
    blockEnv := {
      number := (parent.number + 1).setWidth 256
      beneficiary := attributes.suggestedFeeRecipient
      timestamp := attributes.timestamp.setWidth 256
      gasLimit := attributes.gasLimit
      basefee := nextBaseFee parent attributes
      difficulty := 0
      prevrandao := some attributes.prevRandao } }
  evmEnvForPayload : ∀ data, eth.evmEnvForPayload spec data = {
    cfgEnv := cfgAt data.payload.asV1.timestamp data.payload.asV1.blockNumber
    blockEnv := {
      number := data.payload.asV1.blockNumber.setWidth 256
      beneficiary := data.payload.asV1.feeRecipient
      timestamp := data.payload.asV1.timestamp.setWidth 256
      gasLimit := data.payload.asV1.gasLimit
      basefee := BitVec.ofNat 64 (min data.payload.asV1.baseFeePerGas.toNat (2 ^ 64 - 1))
      difficulty := 0
      prevrandao := some data.payload.asV1.prevRandao } }

/-- The base fee in force: the cell's if set, the stock one otherwise. -/
theorem nextEvmEnv_basefee (eth : EthEvmConfig) (c : KasplexEvmConfig) (parent : Header)
    (attributes : NextBlockEnvAttributes) :
    (c.nextEvmEnv eth parent attributes).blockEnv.basefee =
      c.currentBaseFeePerGas.getD
        (eth.nextEvmEnv c.chainSpec parent attributes).blockEnv.basefee := by
  unfold KasplexEvmConfig.nextEvmEnv
  cases c.currentBaseFeePerGas <;> rfl

theorem assembleBlock_eq_ok {alloy : Alloy} {evmEnv : EvmEnv} {ctx : KasplexBlockExecutionCtx}
    {transactions : List TransactionSigned} {output : BlockExecutionResult} {stateRoot : B256}
    {block : Block}
    (h : assembleBlock alloy evmEnv ctx transactions output stateRoot = .ok block) :
    block.header.timestamp.toNat = evmEnv.blockEnv.timestamp.toNat ∧
      block.header.number.toNat = evmEnv.blockEnv.number.toNat ∧
      block = {
        header := {
          parentHash := ctx.parentHash
          ommersHash := emptyOmmerRootHash
          beneficiary := evmEnv.blockEnv.beneficiary
          stateRoot := stateRoot
          transactionsRoot := alloy.calculateTransactionRoot transactions
          receiptsRoot := alloy.calculateReceiptRoot output.receipts
          withdrawalsRoot := some emptyWithdrawals
          logsBloom := alloy.logsBloom (output.receipts.flatMap Receipt.logs)
          timestamp := block.header.timestamp
          mixHash := evmEnv.blockEnv.prevrandao.getD 0
          nonce := 0
          baseFeePerGas := some evmEnv.blockEnv.basefee
          number := block.header.number
          gasLimit := evmEnv.blockEnv.gasLimit
          difficulty := evmEnv.blockEnv.difficulty
          gasUsed := output.gasUsed
          extraData := ctx.extraData
          parentBeaconBlockRoot := ctx.parentBeaconBlockRoot
          blobGasUsed := none
          excessBlobGas := none
          requestsHash := none }
        body := ⟨transactions, [], some []⟩ } := by
  obtain ⟨timestamp, ht, h⟩ := bind_eq_ok h
  obtain ⟨number, hn, h⟩ := bind_eq_ok h
  cases h
  exact ⟨narrowOrPanic_eq_ok_iff.mp ht, narrowOrPanic_eq_ok_iff.mp hn, rfl⟩

theorem assembleBlock_eq_error {alloy : Alloy} {evmEnv : EvmEnv}
    {ctx : KasplexBlockExecutionCtx} {transactions : List TransactionSigned}
    {output : BlockExecutionResult} {stateRoot : B256} {fault : Fault BlockExecutionError}
    (h : assembleBlock alloy evmEnv ctx transactions output stateRoot = .error fault) :
    ∃ x : U256, fault = .panic (conversionMessage 64 x) := by
  rcases bind_eq_error h with h | ⟨timestamp, -, h⟩
  · exact ⟨_, narrowOrPanic_eq_error h⟩
  rcases bind_eq_error h with h | ⟨number, -, h⟩
  · exact ⟨_, narrowOrPanic_eq_error h⟩
  · cases h

end EvmConfig
