import Kasplex.EvmConfig
import Kasplex.PayloadAttributes
import Kasplex.SubmissionNumbers

/-!
# Building a payload

`kasplexPayload` passes extra data and base fee through the cells of the config,
reads environment and context back, and runs the requested transactions: one
that is invalid is skipped, any other error ends the build. A frozen block is
sealed with the fees its transactions pay to the beneficiary, and the submission
numbers of its transactions are stored again.
-/

namespace PayloadBuilder

open Primitives MachineArith EvmState ChainSpec BlockExecutor EvmConfig PayloadAttributes
  SubmissionNumbers FeeHandler
open KasplexBlockExecutor (executeAll offer)

inductive PayloadBuilderError where
  | provider (message : String)
  | internal (err : BlockExecutionError)
  | evm (err : BlockExecutionError)
  | missingPayload
  deriving DecidableEq, Repr

/-- What a build is linked against: the codecs, the stock environments, the
system calls, the EVM and the state provider. -/
structure Backend where
  alloy : Alloy
  eth : EthEvmConfig
  system : SystemCaller
  transact : Transact
  stateByBlockHash : B256 → Except PayloadBuilderError Database
  stateRoot : Database → Except BlockExecutionError B256

structure BuildArguments where
  parentHeader : SealedHeader
  attributes : KasplexPayloadBuilderAttributes
  /-- Whether the job is found cancelled at the given turn of the loop. -/
  cancel : Nat → Bool

structure EthBuiltPayload where
  id : PayloadId
  block : SealedBlock
  fees : U256
  deriving DecidableEq

inductive BuildOutcome where
  | freeze (payload : EthBuiltPayload)
  | cancelled
  deriving DecidableEq

/-- The executor and the transactions that went into the block so far. -/
structure BlockBuilder where
  executor : KasplexBlockExecutor
  transactions : List Recovered

structure BlockBuilderOutcome where
  executionResult : BlockExecutionResult
  postState : Database
  block : RecoveredBlock

namespace BlockBuilder

def executeTransaction (transact : Transact) (b : BlockBuilder) (tx : Recovered) :
    Except BlockExecutionError (U64 × BlockBuilder) := do
  let (gasUsed, executor) ← b.executor.executeTransaction transact tx
  pure (gasUsed, ⟨executor, b.transactions ++ [tx]⟩)

def finish (backend : Backend) (b : BlockBuilder) :
    Except (Fault PayloadBuilderError) BlockBuilderOutcome := do
  let executionResult := b.executor.finish
  let stateRoot ← (backend.stateRoot b.executor.db).mapError (.error ∘ .evm)
  let block ← (assembleBlock backend.alloy b.executor.evmEnv b.executor.ctx
    (b.transactions.map Recovered.tx) executionResult stateRoot).mapError
    (fun fault => match fault with
      | .error err => .error (.evm err)
      | .panic message => .panic message)
  pure {
    executionResult
    postState := b.executor.db
    block := ⟨backend.alloy.sealSlow block, b.transactions.map Recovered.signer⟩ }

end BlockBuilder

/-- The recorded number, which stays recorded; zero when there is none. -/
def extractTransactionNumber (mapping : TxMapping) (tx : Recovered) : U64 :=
  (mapping.getSubmissionBlock tx.tx.hash).getD 0

def tipMessage : String := "fee is always valid; execution succeeded"

/-- The two panics are told apart by their first letter. -/
theorem tipMessage_ne {v w : Nat} (x : BitVec w) : tipMessage ≠ conversionMessage v x := by
  intro h
  have htip : tipMessage.toList.head? = some 'f' := by decide
  rw [h, conversionMessage_head] at htip
  cases htip

structure LoopState where
  builder : BlockBuilder
  totalFees : U256
  transactionNumbers : List U64

/-- The loop over the requested transactions; `none` when cancelled. -/
def executionLoop (transact : Transact) (baseFee : U64) (mapping : TxMapping)
    (cancel : Nat → Bool) :
    Nat → LoopState → List Recovered → Except (Fault PayloadBuilderError) (Option LoopState)
  | _, st, [] => pure (some st)
  | turn, st, tx :: rest =>
    if cancel turn then pure none
    else
      let numbers := st.transactionNumbers ++ [extractTransactionNumber mapping tx]
      match st.builder.executeTransaction transact tx with
      | .ok (gasUsed, builder) =>
        match tx.tx.effectiveTipPerGas baseFee with
        | none => .error (.panic tipMessage)
        | some minerFee =>
          executionLoop transact baseFee mapping cancel (turn + 1) {
            builder
            totalFees := st.totalFees + minerFee.setWidth 256 * gasUsed.setWidth 256
            transactionNumbers := numbers } rest
      | .error (.validation (.invalidTx _ _))
      | .error (.validation (.transactionGasLimitMoreThanAvailableBlockGas _ _)) =>
        executionLoop transact baseFee mapping cancel (turn + 1)
          { st with transactionNumbers := numbers.dropLast } rest
      | .error err => .error (.error (.evm err))

/-- The attributes handed to the environment derivation. -/
def nextBlockEnvAttributes (attributes : KasplexPayloadBuilderAttributes) :
    NextBlockEnvAttributes where
  timestamp := attributes.timestamp
  suggestedFeeRecipient := attributes.beneficiary
  prevRandao := attributes.mixHash
  gasLimit := attributes.gasLimit
  parentBeaconBlockRoot := attributes.payloadAttributes.parentBeaconBlockRoot
  withdrawals := some attributes.payloadAttributes.withdrawals
  extraData := []

/-- The build from the block builder on: pre-execution changes, the loop, and
the finished block. -/
def buildBlock (backend : Backend) (spec : KasplexChainSpec) (mapping : TxMapping)
    (args : BuildArguments) (db : Database) (baseFee : U64) (evmEnv : EvmEnv)
    (ctx : KasplexBlockExecutionCtx) :
    Except (Fault PayloadBuilderError) (Option (LoopState × BlockBuilderOutcome)) := do
  let executor ← ((KasplexBlockExecutor.new evmEnv db ctx spec).applyPreExecutionChanges
    backend.system).mapError
    (fun fault => match fault with
      | .error err => .error (.internal err)
      | .panic message => .panic message)
  let loop ← executionLoop backend.transact baseFee mapping args.cancel 0
    ⟨⟨executor, []⟩, 0, []⟩ args.attributes.transactions
  match loop with
  | none => pure none
  | some st =>
    let outcome ← st.builder.finish backend
    pure (some (st, outcome))

/-- Store the collected numbers under the hashes of the block's transactions,
position by position. -/
def storeNumbers (mapping : TxMapping) (block : RecoveredBlock) (numbers : List U64) :
    TxMapping :=
  mapping.insertAll (numbers.zipIdx.filterMap fun (number, idx) =>
    (block.recoveredTransactions[idx]?).map fun tx => (tx.tx.hash, number))

/-- The outcome of the build and the submission numbers after it. -/
def freezeBlock (mapping : TxMapping) (args : BuildArguments) :
    Option (LoopState × BlockBuilderOutcome) → BuildOutcome × TxMapping
  | none => (.cancelled, mapping)
  | some (st, outcome) =>
    (.freeze ⟨args.attributes.payloadAttributes.id, outcome.block.sealedBlock, st.totalFees⟩,
      storeNumbers mapping outcome.block st.transactionNumbers)

/-- One build with nothing else running, and the config after it. The cells are
untouched when the build fails before it gets to them, and clear otherwise. -/
def kasplexPayload (backend : Backend) (config : KasplexEvmConfig) (mapping : TxMapping)
    (args : BuildArguments) :
    Except (Fault PayloadBuilderError) (BuildOutcome × TxMapping) × KasplexEvmConfig :=
  match (backend.stateByBlockHash args.parentHeader.hash).mapError Fault.error with
  | .error err => (.error err, config)
  | .ok db =>
    match (narrowOrPanic 64 args.attributes.baseFeePerGas :
      Except (Fault PayloadBuilderError) U64) with
    | .error err => (.error err, config)
    | .ok baseFee =>
      let config := config.setNextBlockExtraData args.attributes.extraData
      let config := config.setNextBlockBaseFeePerGas baseFee
      let evmEnv := config.nextEvmEnv backend.eth args.parentHeader.header
        (nextBlockEnvAttributes args.attributes)
      let ctx := config.contextForNextBlock args.parentHeader
      let config := config.clearNextBlockExtraData
      let config := config.clearNextBlockBaseFeePerGas
      ((buildBlock backend config.chainSpec mapping args db baseFee evmEnv ctx).map
        (freezeBlock mapping args), config)

section Loop

variable {transact : Transact} {baseFee : U64} {mapping : TxMapping} {cancel : Nat → Bool}

/-- What is collected after a transaction was taken. -/
def LoopState.take (mapping : TxMapping) (st : LoopState) (tx : Recovered)
    (output : ResultAndState) (tip : U128) : LoopState where
  builder := ⟨(st.builder.executor.commitTransaction output tx).2, st.builder.transactions ++ [tx]⟩
  totalFees := st.totalFees + tip.setWidth 256 * output.result.gasUsed.setWidth 256
  transactionNumbers := st.transactionNumbers ++ [extractTransactionNumber mapping tx]

/-- One turn: the loop is cancelled, it takes the transaction with a tip or
panics for want of one, or it skips the transaction or ends with its error. -/
theorem executionLoop_turn (transact : Transact) (baseFee : U64) (mapping : TxMapping)
    (cancel : Nat → Bool) (turn : Nat) (st : LoopState) (tx : Recovered) (rest : List Recovered) :
    executionLoop transact baseFee mapping cancel turn st (tx :: rest) = .ok none ∨
    (∃ output, transact st.builder.executor.evmEnv (TxEnv.fromRecoveredTx tx)
        st.builder.executor.db = .ok output ∧
      ((∃ tip, tx.tx.effectiveTipPerGas baseFee = some tip ∧
          executionLoop transact baseFee mapping cancel turn st (tx :: rest) =
            executionLoop transact baseFee mapping cancel (turn + 1)
              (st.take mapping tx output tip) rest) ∨
        (tx.tx.effectiveTipPerGas baseFee = none ∧
          executionLoop transact baseFee mapping cancel turn st (tx :: rest) =
            .error (.panic tipMessage)))) ∨
    ∃ err, st.builder.executor.executeTransaction transact tx = .error err ∧
      (executionLoop transact baseFee mapping cancel turn st (tx :: rest) =
          executionLoop transact baseFee mapping cancel (turn + 1) st rest ∨
        executionLoop transact baseFee mapping cancel turn st (tx :: rest) =
          .error (.error (.evm err))) := by
  by_cases hcancel : cancel turn = true
  · left
    rw [executionLoop, if_pos hcancel]
    rfl
  right
  rw [executionLoop, if_neg hcancel]
  cases ht : transact st.builder.executor.evmEnv (TxEnv.fromRecoveredTx tx)
    st.builder.executor.db with
  | ok output =>
    left
    have hx := executeTransaction_of_ok ht
    simp only [BlockBuilder.executeTransaction, hx, bind, Except.bind, pure, Except.pure]
    refine ⟨output, rfl, ?_⟩
    cases tx.tx.effectiveTipPerGas baseFee with
    | none => exact Or.inr ⟨rfl, rfl⟩
    | some tip => exact Or.inl ⟨tip, rfl, rfl⟩
  | error err =>
    right
    have hx := executeTransaction_of_error ht
    refine ⟨_, hx, ?_⟩
    simp only [BlockBuilder.executeTransaction, hx, bind, Except.bind, List.dropLast_concat]
    cases err with
    | transaction e => exact Or.inl rfl
    | database e => exact Or.inr rfl
    | custom e => exact Or.inr rfl

/-- One turn of a loop that runs to its end: the transaction is taken, with a
tip, or skipped without a trace. -/
theorem executionLoop_cons {turn : Nat} {st last : LoopState} {tx : Recovered}
    {rest : List Recovered}
    (h : executionLoop transact baseFee mapping cancel turn st (tx :: rest) = .ok (some last)) :
    (∃ output tip,
      transact st.builder.executor.evmEnv (TxEnv.fromRecoveredTx tx) st.builder.executor.db =
        .ok output ∧
      tx.tx.effectiveTipPerGas baseFee = some tip ∧
      executionLoop transact baseFee mapping cancel (turn + 1) (st.take mapping tx output tip)
        rest = .ok (some last)) ∨
    (∃ err, st.builder.executor.executeTransaction transact tx = .error err ∧
      executionLoop transact baseFee mapping cancel (turn + 1) st rest = .ok (some last)) := by
  rcases executionLoop_turn transact baseFee mapping cancel turn st tx rest with
    hnone | ⟨output, ht, ⟨tip, htip, hnext⟩ | ⟨-, hpanic⟩⟩ | ⟨err, hx, hnext | herror⟩
  · rw [hnone] at h
    cases h
  · exact Or.inl ⟨output, tip, ht, htip, hnext ▸ h⟩
  · rw [hpanic] at h
    cases h
  · exact Or.inr ⟨err, hx, hnext ▸ h⟩
  · rw [herror] at h
    cases h

/-- What the builder adds up over the transactions it took. -/
def tipFees (baseFee : U64) : List (Recovered × ResultAndState) → U256
  | [] => 0
  | (tx, output) :: rest =>
    ((tx.tx.effectiveTipPerGas baseFee).getD 0).setWidth 256 *
      output.result.gasUsed.setWidth 256 + tipFees baseFee rest

/-- A loop that ran to its end took `included`, with these outcomes. -/
structure LoopTrace (transact : Transact) (baseFee : U64) (mapping : TxMapping)
    (st : LoopState) (txs : List Recovered) (last : LoopState) (included : List Recovered)
    (outputs : List ResultAndState) : Prop where
  sublist : included.Sublist txs
  executed : executeAll transact st.builder.executor included = .ok (outputs, last.builder.executor)
  offered : last.builder.executor = Runs.run (offer transact) st.builder.executor txs
  transactions : last.builder.transactions = st.builder.transactions ++ included
  numbers : last.transactionNumbers =
    st.transactionNumbers ++ included.map (extractTransactionNumber mapping)
  tips : ∀ tx ∈ included, (tx.tx.effectiveTipPerGas baseFee).isSome
  fees : last.totalFees = st.totalFees + tipFees baseFee (included.zip outputs)

theorem LoopTrace.take {st last : LoopState} {tx : Recovered} {rest included : List Recovered}
    {output : ResultAndState} {outputs : List ResultAndState} {tip : U128}
    (accepted : transact st.builder.executor.evmEnv (TxEnv.fromRecoveredTx tx)
      st.builder.executor.db = .ok output)
    (htip : tx.tx.effectiveTipPerGas baseFee = some tip)
    (trace : LoopTrace transact baseFee mapping (st.take mapping tx output tip) rest last included
      outputs) :
    LoopTrace transact baseFee mapping st (tx :: rest) last (tx :: included)
      (output :: outputs) where
  sublist := trace.sublist.cons_cons tx
  executed := by
    have hrest : executeAll transact (st.builder.executor.commitTransaction output tx).2 included =
        .ok (outputs, last.builder.executor) := trace.executed
    simp [executeAll, KasplexBlockExecutor.executeTransactionWithoutCommit, accepted,
      Except.mapError, bind, Except.bind, hrest, pure, Except.pure]
  offered := by
    rw [Runs.run_cons, trace.offered]
    simp only [offer, executeTransaction_of_ok accepted, LoopState.take]
  transactions := by simp [trace.transactions, LoopState.take]
  numbers := by simp [trace.numbers, LoopState.take]
  tips := by
    intro t ht
    rcases List.mem_cons.mp ht with rfl | ht
    · simp [htip]
    · exact trace.tips t ht
  fees := by
    rw [trace.fees]
    simp only [List.zip_cons_cons, tipFees, htip, Option.getD_some, LoopState.take]
    exact BitVec.add_assoc _ _ _

theorem LoopTrace.skip {st last : LoopState} {tx : Recovered} {rest included : List Recovered}
    {outputs : List ResultAndState} {err : BlockExecutionError}
    (refused : st.builder.executor.executeTransaction transact tx = .error err)
    (trace : LoopTrace transact baseFee mapping st rest last included outputs) :
    LoopTrace transact baseFee mapping st (tx :: rest) last included outputs :=
  { trace with
    sublist := trace.sublist.cons tx
    offered := by
      rw [Runs.run_cons, offer_of_error refused]
      exact trace.offered }

theorem executionLoop_trace {turn : Nat} {st last : LoopState} {txs : List Recovered}
    (h : executionLoop transact baseFee mapping cancel turn st txs = .ok (some last)) :
    ∃ included outputs, LoopTrace transact baseFee mapping st txs last included outputs := by
  induction txs generalizing turn st with
  | nil =>
    cases h
    exact ⟨[], [], by simp, rfl, rfl, by simp, by simp, by simp, by simp [tipFees]⟩
  | cons tx rest ih =>
    rcases executionLoop_cons h with ⟨output, tip, accepted, htip, h⟩ | ⟨err, refused, h⟩
    · obtain ⟨included, outputs, trace⟩ := ih h
      exact ⟨tx :: included, output :: outputs, trace.take accepted htip⟩
    · obtain ⟨included, outputs, trace⟩ := ih h
      exact ⟨included, outputs, trace.skip refused⟩

/-- The loop panics only on an accepted transaction whose cap is below the base
fee it is given. -/
theorem executionLoop_panic {turn : Nat} {st : LoopState} {txs : List Recovered}
    {message : String}
    (h : executionLoop transact baseFee mapping cancel turn st txs = .error (.panic message)) :
    ∃ (tx : Recovered) (db : Database) (output : ResultAndState),
      transact st.builder.executor.evmEnv (TxEnv.fromRecoveredTx tx) db = .ok output ∧
      tx.tx.effectiveTipPerGas baseFee = none := by
  induction txs generalizing turn st with
  | nil => cases h
  | cons tx rest ih =>
    rcases executionLoop_turn transact baseFee mapping cancel turn st tx rest with
      hnone | ⟨output, ht, ⟨tip, -, hnext⟩ | ⟨htip, -⟩⟩ | ⟨err, -, hnext | herror⟩
    · rw [hnone] at h
      cases h
    · rw [hnext] at h
      obtain ⟨tx', db, output', h', hnone⟩ := ih h
      exact ⟨tx', db, output', h', hnone⟩
    · exact ⟨tx, _, output, ht, htip⟩
    · rw [hnext] at h
      exact ih h
    · rw [herror] at h
      cases h

end Loop

/-- The environment of a build alone: the stock one under the requested fee. -/
def buildEnv (backend : Backend) (spec : KasplexChainSpec) (args : BuildArguments)
    (baseFee : U64) : EvmEnv :=
  let evmEnv := backend.eth.nextEvmEnv spec args.parentHeader.header
    (nextBlockEnvAttributes args.attributes)
  { evmEnv with blockEnv := { evmEnv.blockEnv with basefee := baseFee } }

/-- The context of a build alone: the requested extra data on the parent. -/
def buildCtx (args : BuildArguments) : KasplexBlockExecutionCtx where
  parentHash := args.parentHeader.hash
  parentBeaconBlockRoot := none
  ommers := []
  withdrawals := some []
  basefeePerGas := args.parentHeader.header.baseFeePerGas.getD 0
  extraData := args.attributes.extraData

/-- The stages of a build alone that froze a block. -/
structure Frozen (backend : Backend) (spec : KasplexChainSpec) (mapping : TxMapping)
    (args : BuildArguments) (db : Database) (baseFee : U64) (pre : KasplexBlockExecutor)
    (last : LoopState) (included : List Recovered) (outputs : List ResultAndState)
    (outcome : BlockBuilderOutcome) : Prop where
  state : backend.stateByBlockHash args.parentHeader.hash = .ok db
  fee : baseFee.toNat = args.attributes.baseFeePerGas.toNat
  prepared : (KasplexBlockExecutor.new (buildEnv backend spec args baseFee) db (buildCtx args)
    spec).applyPreExecutionChanges backend.system = .ok pre
  loop : LoopTrace backend.transact baseFee mapping ⟨⟨pre, []⟩, 0, []⟩
    args.attributes.transactions last included outputs
  finished : last.builder.finish backend = .ok outcome

theorem buildBlock_eq_ok {backend : Backend} {spec : KasplexChainSpec} {mapping : TxMapping}
    {args : BuildArguments} {db : Database} {baseFee : U64} {evmEnv : EvmEnv}
    {ctx : KasplexBlockExecutionCtx} {last : LoopState} {outcome : BlockBuilderOutcome}
    (h : buildBlock backend spec mapping args db baseFee evmEnv ctx = .ok (some (last, outcome))) :
    ∃ pre, (KasplexBlockExecutor.new evmEnv db ctx spec).applyPreExecutionChanges
        backend.system = .ok pre ∧
      executionLoop backend.transact baseFee mapping args.cancel 0 ⟨⟨pre, []⟩, 0, []⟩
        args.attributes.transactions = .ok (some last) ∧
      last.builder.finish backend = .ok outcome := by
  obtain ⟨pre, hpre, h⟩ := bind_eq_ok h
  obtain ⟨loop, hloop, h⟩ := bind_eq_ok h
  cases loop with
  | none => cases h
  | some st =>
    obtain ⟨o, ho, h⟩ := bind_eq_ok h
    cases h
    exact ⟨pre, mapError_eq_ok hpre, hloop, ho⟩

theorem finish_eq_ok {backend : Backend} {b : BlockBuilder} {outcome : BlockBuilderOutcome}
    (h : b.finish backend = .ok outcome) :
    ∃ stateRoot block, backend.stateRoot b.executor.db = .ok stateRoot ∧
      assembleBlock backend.alloy b.executor.evmEnv b.executor.ctx
        (b.transactions.map Recovered.tx) b.executor.finish stateRoot = .ok block ∧
      outcome = ⟨b.executor.finish, b.executor.db,
        ⟨backend.alloy.sealSlow block, b.transactions.map Recovered.signer⟩⟩ := by
  obtain ⟨stateRoot, hroot, h⟩ := bind_eq_ok h
  obtain ⟨block, hblock, h⟩ := bind_eq_ok h
  cases h
  exact ⟨stateRoot, block, mapError_eq_ok hroot, mapError_eq_ok hblock, rfl⟩

theorem finish_panic {backend : Backend} {b : BlockBuilder} {message : String}
    (h : b.finish backend = .error (.panic message)) :
    ∃ x : U256, message = conversionMessage 64 x := by
  rcases bind_eq_error h with h | ⟨stateRoot, -, h⟩
  · obtain ⟨err, -, h⟩ := mapError_eq_error h
    cases h
  rcases bind_eq_error h with h | ⟨block, -, h⟩
  · obtain ⟨fault, hblock, h⟩ := mapError_eq_error h
    obtain ⟨x, rfl⟩ := assembleBlock_eq_error hblock
    cases h
    exact ⟨x, rfl⟩
  · cases h

/-- Whatever environment and context a build got, its header shows them. -/
theorem buildBlock_header {backend : Backend} {spec : KasplexChainSpec} {mapping : TxMapping}
    {args : BuildArguments} {db : Database} {baseFee : U64} {evmEnv : EvmEnv}
    {ctx : KasplexBlockExecutionCtx} {last : LoopState} {outcome : BlockBuilderOutcome}
    (h : buildBlock backend spec mapping args db baseFee evmEnv ctx = .ok (some (last, outcome))) :
    outcome.block.sealedBlock.block.header.extraData = ctx.extraData ∧
      outcome.block.sealedBlock.block.header.baseFeePerGas = some evmEnv.blockEnv.basefee := by
  obtain ⟨pre, hpre, hloop, hfin⟩ := buildBlock_eq_ok h
  obtain ⟨included, outputs, trace⟩ := executionLoop_trace hloop
  obtain ⟨db', rfl⟩ := applyPreExecutionChanges_eq_ok hpre
  obtain ⟨henv, hctx⟩ := executeAll_frame trace.executed
  obtain ⟨stateRoot, block, -, hblock, rfl⟩ := finish_eq_ok hfin
  obtain ⟨-, -, hb⟩ := assembleBlock_eq_ok hblock
  change block.header.extraData = _ ∧ block.header.baseFeePerGas = _
  rw [hb, henv, hctx]
  exact ⟨rfl, rfl⟩

/-- A build that panics for a missing tip accepted a transaction below the base
fee it adds up tips with. -/
theorem buildBlock_panic {backend : Backend} {spec : KasplexChainSpec} {mapping : TxMapping}
    {args : BuildArguments} {db : Database} {baseFee : U64} {evmEnv : EvmEnv}
    {ctx : KasplexBlockExecutionCtx}
    (h : buildBlock backend spec mapping args db baseFee evmEnv ctx =
      .error (.panic tipMessage)) :
    ∃ (tx : Recovered) (db : Database) (output : ResultAndState),
      backend.transact evmEnv (TxEnv.fromRecoveredTx tx) db = .ok output ∧
      tx.tx.effectiveTipPerGas baseFee = none := by
  rcases bind_eq_error h with h | ⟨pre, hpre, h⟩
  · obtain ⟨fault, h, hfault⟩ := mapError_eq_error h
    cases fault with
    | error err => cases hfault
    | panic message =>
      cases hfault
      obtain ⟨x, hx⟩ := applyPreExecutionChanges_panic h
      exact absurd hx (tipMessage_ne x)
  · obtain ⟨db', rfl⟩ := applyPreExecutionChanges_eq_ok (mapError_eq_ok hpre)
    rcases bind_eq_error h with h | ⟨loop, -, h⟩
    · exact executionLoop_panic h
    · cases loop with
      | none => cases h
      | some st =>
        rcases bind_eq_error h with h | ⟨outcome, -, h⟩
        · obtain ⟨x, hx⟩ := finish_panic h
          exact absurd hx (tipMessage_ne x)
        · cases h

/-- A build without an error read the state of the parent and the requested fee,
and came through in its own environment. -/
theorem kasplexPayload_eq_ok {backend : Backend} {config : KasplexEvmConfig}
    {mapping mapping' : TxMapping} {args : BuildArguments} {outcome : BuildOutcome}
    (h : (kasplexPayload backend config mapping args).1 = .ok (outcome, mapping')) :
    ∃ db baseFee built,
      backend.stateByBlockHash args.parentHeader.hash = .ok db ∧
      baseFee.toNat = args.attributes.baseFeePerGas.toNat ∧
      buildBlock backend config.chainSpec mapping args db baseFee
        (buildEnv backend config.chainSpec args baseFee) (buildCtx args) = .ok built ∧
      freezeBlock mapping args built = (outcome, mapping') := by
  unfold kasplexPayload at h
  split at h
  · cases h
  · rename_i db hdb
    split at h
    · cases h
    · rename_i baseFee hfee
      obtain ⟨built, hbuilt, h⟩ := map_eq_ok h
      exact ⟨db, baseFee, built, mapError_eq_ok hdb, narrowOrPanic_eq_ok_iff.mp hfee, hbuilt, h⟩

/-- A frozen block comes from a build that was not cancelled. -/
theorem freezeBlock_eq_freeze {mapping mapping' : TxMapping} {args : BuildArguments}
    {built : Option (LoopState × BlockBuilderOutcome)} {payload : EthBuiltPayload}
    (h : freezeBlock mapping args built = (.freeze payload, mapping')) :
    ∃ last outcome, built = some (last, outcome) ∧
      payload = ⟨args.attributes.payloadAttributes.id, outcome.block.sealedBlock,
        last.totalFees⟩ ∧
      mapping' = storeNumbers mapping outcome.block last.transactionNumbers := by
  cases built with
  | none => cases h
  | some pair =>
    cases h
    exact ⟨pair.1, pair.2, rfl, rfl, rfl⟩

theorem kasplexPayload_freeze {backend : Backend} {config : KasplexEvmConfig}
    {mapping mapping' : TxMapping} {args : BuildArguments} {payload : EthBuiltPayload}
    (h : (kasplexPayload backend config mapping args).1 = .ok (.freeze payload, mapping')) :
    ∃ db baseFee pre last included outputs outcome,
      Frozen backend config.chainSpec mapping args db baseFee pre last included outputs outcome ∧
      payload = ⟨args.attributes.payloadAttributes.id, outcome.block.sealedBlock,
        last.totalFees⟩ ∧
      mapping' = storeNumbers mapping outcome.block last.transactionNumbers := by
  obtain ⟨db, baseFee, built, hdb, hfee, hbuilt, hfreeze⟩ := kasplexPayload_eq_ok h
  obtain ⟨last, outcome, rfl, hpayload, hmapping⟩ := freezeBlock_eq_freeze hfreeze
  obtain ⟨pre, hpre, hloop, hfin⟩ := buildBlock_eq_ok hbuilt
  obtain ⟨included, outputs, trace⟩ := executionLoop_trace hloop
  exact ⟨db, baseFee, pre, last, included, outputs, outcome, ⟨hdb, hfee, hpre, trace, hfin⟩,
    hpayload, hmapping⟩

section FrozenBlock

variable {backend : Backend} {spec : KasplexChainSpec} {mapping : TxMapping}
  {args : BuildArguments} {db : Database} {baseFee : U64} {pre : KasplexBlockExecutor}
  {last : LoopState} {included : List Recovered} {outputs : List ResultAndState}
  {outcome : BlockBuilderOutcome}

/-- The executor the loop starts from: fresh, in the build's environment. -/
theorem Frozen.pre_eq
    (f : Frozen backend spec mapping args db baseFee pre last included outputs outcome) :
    pre.evmEnv = buildEnv backend spec args baseFee ∧ pre.ctx = buildCtx args ∧
      pre.receipts = [] ∧ pre.gasUsed = 0 := by
  obtain ⟨db', rfl⟩ := applyPreExecutionChanges_eq_ok f.prepared
  exact ⟨rfl, rfl, rfl, rfl⟩

/-- The parts of the outcome, in terms of the last executor and the build's
environment. -/
theorem Frozen.outcome_eq
    (f : Frozen backend spec mapping args db baseFee pre last included outputs outcome) :
    ∃ block, outcome.block.sealedBlock = backend.alloy.sealSlow block ∧
      outcome.executionResult = last.builder.executor.finish ∧
      outcome.postState = last.builder.executor.db ∧
      outcome.block.recoveredTransactions = included ∧
      ∃ stateRoot, assembleBlock backend.alloy (buildEnv backend spec args baseFee)
        (buildCtx args) (included.map Recovered.tx) last.builder.executor.finish stateRoot =
          .ok block := by
  obtain ⟨stateRoot, block, -, hblock, rfl⟩ := finish_eq_ok f.finished
  obtain ⟨henv, hctx, -, -⟩ := f.pre_eq
  obtain ⟨henv', hctx'⟩ := executeAll_frame f.loop.executed
  have htxs : last.builder.transactions = included := f.loop.transactions
  rw [htxs, henv', hctx', henv, hctx] at hblock
  refine ⟨block, rfl, rfl, rfl, ?_, stateRoot, hblock⟩
  rw [htxs]
  apply recoveredTransactions_mk
  obtain ⟨-, -, hb⟩ := assembleBlock_eq_ok hblock
  change block.body.transactions = included.map Recovered.tx
  rw [hb]

/-- What the block of a build holds, in the same terms. -/
theorem Frozen.block_eq
    (f : Frozen backend spec mapping args db baseFee pre last included outputs outcome) :
    outcome.block.sealedBlock.block.body.transactions = included.map Recovered.tx ∧
      outcome.block.sealedBlock.block.header.gasUsed = last.builder.executor.gasUsed ∧
      outcome.block.sealedBlock.block.header.gasLimit =
        (buildEnv backend spec args baseFee).blockEnv.gasLimit ∧
      outcome.block.sealedBlock.block.header.baseFeePerGas = some baseFee := by
  obtain ⟨block, hsealed, -, -, -, stateRoot, hblock⟩ := f.outcome_eq
  obtain ⟨-, -, hb⟩ := assembleBlock_eq_ok hblock
  rw [hsealed]
  change block.body.transactions = _ ∧ block.header.gasUsed = _ ∧ block.header.gasLimit = _ ∧
    block.header.baseFeePerGas = _
  rw [hb]
  exact ⟨rfl, rfl, rfl, rfl⟩

end FrozenBlock

section StoredNumbers

/-- Looking up each position of a tail in the whole list finds the tail. -/
theorem filterMap_zipIdx_lookup (number : Recovered → U64) (before txs : List Recovered) :
    (((txs.map number).zipIdx before.length).filterMap fun (n, idx) =>
        ((before ++ txs)[idx]?).map fun tx => (tx.tx.hash, n)) =
      txs.map fun tx => (tx.tx.hash, number tx) := by
  induction txs generalizing before with
  | nil => rfl
  | cons tx rest ih =>
    have hhere : (before ++ tx :: rest)[before.length]? = some tx := by simp
    have hrest := ih (before ++ [tx])
    rw [List.length_append, List.length_singleton, List.append_assoc, List.singleton_append]
      at hrest
    rw [List.map_cons, List.zipIdx_cons, List.filterMap_cons, List.map_cons, hrest]
    simp only [hhere, Option.map_some]

/-- Numbers that were read for the transactions of a block are stored under the
hashes they were read from. -/
theorem storeNumbers_of_aligned (mapping : TxMapping) (block : RecoveredBlock) :
    storeNumbers mapping block
        (block.recoveredTransactions.map (extractTransactionNumber mapping)) =
      mapping.recordAgain (block.recoveredTransactions.map fun tx => tx.tx.hash) := by
  unfold storeNumbers TxMapping.recordAgain
  rw [List.map_map]
  congr 1
  exact filterMap_zipIdx_lookup (extractTransactionNumber mapping) [] block.recoveredTransactions

/-- The numbers of a frozen block are stored again. -/
theorem Frozen.stored {backend : Backend} {spec : KasplexChainSpec} {mapping : TxMapping}
    {args : BuildArguments} {db : Database} {baseFee : U64} {pre : KasplexBlockExecutor}
    {last : LoopState} {included : List Recovered} {outputs : List ResultAndState}
    {outcome : BlockBuilderOutcome}
    (f : Frozen backend spec mapping args db baseFee pre last included outputs outcome) :
    storeNumbers mapping outcome.block last.transactionNumbers =
      mapping.recordAgain (included.map fun tx => tx.tx.hash) := by
  obtain ⟨block, -, -, -, hincluded, -⟩ := f.outcome_eq
  have hnumbers : last.transactionNumbers = included.map (extractTransactionNumber mapping) :=
    f.loop.numbers
  rw [hnumbers, ← hincluded]
  exact storeNumbers_of_aligned mapping outcome.block

/-- A build that freezes a block stores the numbers of its transactions again. -/
theorem kasplexPayload_freeze_mapping {backend : Backend} {config : KasplexEvmConfig}
    {mapping mapping' : TxMapping} {args : BuildArguments} {payload : EthBuiltPayload}
    (h : (kasplexPayload backend config mapping args).1 = .ok (.freeze payload, mapping')) :
    mapping' = mapping.recordAgain
      (payload.block.block.body.transactions.map TransactionSigned.hash) := by
  obtain ⟨db, baseFee, pre, last, included, outputs, outcome, f, rfl, rfl⟩ :=
    kasplexPayload_freeze h
  obtain ⟨hbody, -, -, -⟩ := f.block_eq
  rw [f.stored, hbody, List.map_map]
  rfl

/-- A cancelled build stores nothing. -/
theorem kasplexPayload_cancelled {backend : Backend} {config : KasplexEvmConfig}
    {mapping mapping' : TxMapping} {args : BuildArguments}
    (h : (kasplexPayload backend config mapping args).1 = .ok (.cancelled, mapping')) :
    mapping' = mapping := by
  obtain ⟨db, baseFee, built, -, -, -, hfreeze⟩ := kasplexPayload_eq_ok h
  cases built with
  | none =>
    cases hfreeze
    rfl
  | some pair => cases hfreeze

/-- The hashes of the block that a build has frozen. -/
def frozenHashes : Except (Fault PayloadBuilderError) (BuildOutcome × TxMapping) → List B256
  | .ok (.freeze payload, _) => payload.block.block.body.transactions.map TransactionSigned.hash
  | _ => []

/-- A build without an error stores the numbers of its block again. -/
theorem kasplexPayload_mapping {backend : Backend} {config : KasplexEvmConfig}
    {mapping mapping' : TxMapping} {args : BuildArguments} {outcome : BuildOutcome}
    (h : (kasplexPayload backend config mapping args).1 = .ok (outcome, mapping')) :
    mapping' = mapping.recordAgain
      (frozenHashes (kasplexPayload backend config mapping args).1) := by
  rw [h]
  cases outcome with
  | freeze payload => exact kasplexPayload_freeze_mapping h
  | cancelled => exact kasplexPayload_cancelled h

end StoredNumbers

section Samples

def sampleCfg (_timestamp _number : U64) : CfgEnv := ⟨kasplexMainnetChainId, .shanghai, false⟩

/-- An eighth below the parent's fee, the most it can fall after an empty
block. -/
def sampleNextBaseFee (parent : Header) (_attributes : NextBlockEnvAttributes) : U64 :=
  let fee := (parent.baseFeePerGas.getD 0).toNat
  BitVec.ofNat 64 (fee - fee / 8)

def sampleEth : EthEvmConfig where
  evmEnv := fun _ header => {
    cfgEnv := sampleCfg header.timestamp header.number
    blockEnv := ⟨header.number.setWidth 256, header.beneficiary, header.timestamp.setWidth 256,
      header.gasLimit, header.baseFeePerGas.getD 0, 0, some header.mixHash⟩ }
  nextEvmEnv := fun _ parent attributes => {
    cfgEnv := sampleCfg attributes.timestamp (parent.number + 1)
    blockEnv := ⟨(parent.number + 1).setWidth 256, attributes.suggestedFeeRecipient,
      attributes.timestamp.setWidth 256, attributes.gasLimit,
      sampleNextBaseFee parent attributes, 0, some attributes.prevRandao⟩ }
  evmEnvForPayload := fun _ data => {
    cfgEnv := sampleCfg data.payload.asV1.timestamp data.payload.asV1.blockNumber
    blockEnv := ⟨data.payload.asV1.blockNumber.setWidth 256, data.payload.asV1.feeRecipient,
      data.payload.asV1.timestamp.setWidth 256, data.payload.asV1.gasLimit,
      BitVec.ofNat 64 (min data.payload.asV1.baseFeePerGas.toNat (2 ^ 64 - 1)), 0,
      some data.payload.asV1.prevRandao⟩ }

theorem sampleEth_fillsFields :
    sampleEth.FillsFields kasplexMainnet sampleCfg sampleNextBaseFee :=
  ⟨fun _ => rfl, fun _ _ => rfl, fun _ => rfl⟩

/-- Before Cancun neither system call does anything. -/
def sampleSystem : SystemCaller where
  applyBlockhashesContractCall := fun _ _ db => .ok db
  applyBeaconRootContractCall := fun _ _ db => .ok db

/-- Transfers on the state of the sample parent. -/
def sampleBackend : Backend where
  alloy := sampleAlloy
  eth := sampleEth
  system := sampleSystem
  transact := transact transferEvm
  stateByBlockHash := fun hash =>
    if hash = sampleParent.hash then .ok (oneHolder sampleSigner 1000000000000000000)
    else .error (.provider "block not found")
  stateRoot := fun db =>
    if (db.account sampleSigner).balance = 832000000000000000 ∧
        (db.account 0xbe#160).balance = 84000000000000000 ∧
        (db.account (getTreasuryAddress kasplexMainnetChainId)).balance = 84000000000000000 then
      .ok sampleHeader.stateRoot
    else .ok sampleParent.header.stateRoot

/-- The job for a block of the three transfers. -/
def transferJob (gasLimit : U64) : KasplexPayloadBuilderAttributes where
  payloadAttributes := {
    id := payloadIdKasplex sampleAlloy sampleSha256 sampleParent.hash (transferRequest gasLimit) 2
    parent := sampleParent.hash
    timestamp := 1000
    suggestedFeeRecipient := 0xbe#160
    prevRandao := 7
    withdrawals := []
    parentBeaconBlockRoot := none }
  txListHash := sampleAlloy.keccak256 sampleTxList
  beneficiary := 0xbe#160
  gasLimit := gasLimit
  timestamp := 1000
  mixHash := 7
  baseFeePerGas := 2000000000000
  transactions := listedTransactions sampleAlloy sampleTxList
  extraData := sampleExtraData

theorem tryNew_transferRequest (gasLimit : U64) :
    KasplexPayloadBuilderAttributes.tryNew sampleAlloy sampleSha256 sampleParent.hash
      (transferRequest gasLimit) 2 = .ok (transferJob gasLimit) := by
  have htime : (narrowOrPanic 64 (transferRequest gasLimit).blockMetadata.timestamp :
      Except (Fault RlpError) U64) = .ok 1000 := narrowOrPanic_eq_ok_iff.mpr rfl
  simp only [KasplexPayloadBuilderAttributes.tryNew, htime, bind, Except.bind, pure, Except.pure]
  rfl

def transferArgs (gasLimit : U64) : BuildArguments :=
  ⟨sampleParent, transferJob gasLimit, fun _ => false⟩

/-- The payload and the numbers of a build that froze a block. -/
def frozenPayload {ε : Type} : Except ε (BuildOutcome × TxMapping) →
    Option (EthBuiltPayload × TxMapping)
  | .ok (.freeze payload, mapping) => some (payload, mapping)
  | _ => none

theorem exists_freeze {ε : Type} {r : Except ε (BuildOutcome × TxMapping)}
    {P : EthBuiltPayload → Bool} (h : (frozenPayload r).any (fun p => P p.1) = true) :
    ∃ payload mapping, r = .ok (.freeze payload, mapping) ∧ P payload = true := by
  match r, h with
  | .ok (.freeze payload, mapping), h => exact ⟨payload, mapping, rfl, h⟩

def sampleConfig : KasplexEvmConfig := KasplexEvmConfig.new kasplexMainnet

end Samples

end PayloadBuilder
