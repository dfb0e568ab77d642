import Kasplex.ChainSpec
import Kasplex.FeeHandler
import Kasplex.Runs

/-!
# The block executor

Transactions run one at a time against the committed state; an accepted one is
committed with a receipt carrying the gas used so far. The executor adds up gas
in 64 bits and compares nothing with the gas limit of the block: the only limit
in force is the one `transact` puts on a single transaction.
-/

namespace BlockExecutor

open Primitives MachineArith EvmState ChainSpec FeeHandler

structure KasplexBlockExecutionCtx where
  parentHash : B256
  parentBeaconBlockRoot : Option B256
  ommers : List Header
  withdrawals : Option (List Withdrawal)
  basefeePerGas : U64
  extraData : Bytes
  deriving DecidableEq, Repr

inductive BlockValidationError where
  | invalidTx (hash : B256) (err : InvalidTransaction)
  | transactionGasLimitMoreThanAvailableBlockGas (transactionGasLimit blockAvailableGas : U64)
  | missingParentBeaconBlockRoot
  | other (message : String)
  deriving DecidableEq, Repr

inductive BlockExecutionError where
  | validation (err : BlockValidationError)
  | internal (err : EvmError)
  deriving DecidableEq, Repr

/-- An invalid transaction is a validation error, all else is internal. -/
def BlockExecutionError.evm (err : EvmError) (hash : B256) : BlockExecutionError :=
  match err with
  | .transaction e => .validation (.invalidTx hash e)
  | e => .internal e

abbrev Transact := EvmEnv → TxEnv → Database → Except EvmError ResultAndState

/-- The two pre-block system calls. -/
structure SystemCaller where
  applyBlockhashesContractCall :
    EvmEnv → B256 → Database → Except BlockExecutionError Database
  applyBeaconRootContractCall :
    EvmEnv → Option B256 → Database → Except BlockExecutionError Database

structure BlockExecutionResult where
  receipts : List Receipt
  gasUsed : U64
  blobGasUsed : U64
  deriving DecidableEq, Repr

structure KasplexBlockExecutor where
  spec : KasplexChainSpec
  ctx : KasplexBlockExecutionCtx
  evmEnv : EvmEnv
  db : Database
  receipts : List Receipt
  gasUsed : U64

namespace KasplexBlockExecutor

def new (evmEnv : EvmEnv) (db : Database) (ctx : KasplexBlockExecutionCtx)
    (spec : KasplexChainSpec) : KasplexBlockExecutor where
  spec := spec
  ctx := ctx
  evmEnv := evmEnv
  db := db
  receipts := []
  gasUsed := 0

def applyPreExecutionChanges (system : SystemCaller) (ex : KasplexBlockExecutor) :
    Except (Fault BlockExecutionError) KasplexBlockExecutor := do
  let number ← narrowOrPanic 64 ex.evmEnv.blockEnv.number
  let stateClearFlag := ex.spec.isSpuriousDragonActiveAtBlock number
  let db := ex.db.setStateClearFlag stateClearFlag
  let db ← (system.applyBlockhashesContractCall ex.evmEnv ex.ctx.parentHash db).mapError .error
  let db ← (system.applyBeaconRootContractCall ex.evmEnv ex.ctx.parentBeaconBlockRoot
    db).mapError .error
  pure { ex with db }

def executeTransactionWithoutCommit (transact : Transact) (ex : KasplexBlockExecutor)
    (tx : Recovered) : Except BlockExecutionError ResultAndState :=
  (transact ex.evmEnv (TxEnv.fromRecoveredTx tx) ex.db).mapError
    (BlockExecutionError.evm · tx.tx.hash)

/-- The gas used, and the executor with receipt and changes added. -/
def commitTransaction (ex : KasplexBlockExecutor) (output : ResultAndState) (tx : Recovered) :
    U64 × KasplexBlockExecutor :=
  let gasUsed := output.result.gasUsed
  let total := ex.gasUsed + gasUsed
  let receipt : Receipt := ⟨tx.tx.fees.txType, output.result.success, total, output.result.logs⟩
  (gasUsed, { ex with
    gasUsed := total
    receipts := ex.receipts ++ [receipt]
    db := ex.db.commit output.state })

/-- Execute and commit; an error leaves the caller with the executor it had. -/
def executeTransaction (transact : Transact) (ex : KasplexBlockExecutor) (tx : Recovered) :
    Except BlockExecutionError (U64 × KasplexBlockExecutor) := do
  let output ← ex.executeTransactionWithoutCommit transact tx
  pure (ex.commitTransaction output tx)

def finish (ex : KasplexBlockExecutor) : BlockExecutionResult :=
  ⟨ex.receipts, ex.gasUsed, 0⟩

/-- Execute a block's transactions in order; the first error ends it. Besides
the executor, the outcome of each transaction is kept. -/
def executeAll (transact : Transact) :
    KasplexBlockExecutor → List Recovered →
      Except BlockExecutionError (List ResultAndState × KasplexBlockExecutor)
  | ex, [] => pure ([], ex)
  | ex, tx :: rest => do
    let output ← ex.executeTransactionWithoutCommit transact tx
    let (outputs, last) ← executeAll transact (ex.commitTransaction output tx).2 rest
    pure (output :: outputs, last)

/-- Offer one transaction: committed if accepted, dropped if refused. -/
def offer (transact : Transact) (ex : KasplexBlockExecutor) (tx : Recovered) :
    KasplexBlockExecutor :=
  match ex.executeTransaction transact tx with
  | .ok (_, ex') => ex'
  | .error _ => ex

end KasplexBlockExecutor

open KasplexBlockExecutor

/-- What `transact` promises about gas: a limit above the block's is refused,
and no more than the limit is reported as used. -/
structure GasDiscipline (transact : Transact) : Prop where
  refuses : ∀ env tx db, env.blockEnv.gasLimit < tx.gasLimit →
    ∃ err, transact env tx db = .error err
  bounded : ∀ env tx db output, transact env tx db = .ok output →
    output.result.gasUsed ≤ tx.gasLimit

/-- The transaction fits in the gas left, or not even in an empty block. -/
def FitsOrOversized (ex : KasplexBlockExecutor) (tx : Recovered) : Prop :=
  ex.gasUsed.toNat + tx.tx.gasLimit.toNat ≤ ex.evmEnv.blockEnv.gasLimit.toNat ∨
    ex.evmEnv.blockEnv.gasLimit.toNat < tx.tx.gasLimit.toNat

/-- Pre-execution changes touch the database alone. -/
theorem applyPreExecutionChanges_eq_ok {system : SystemCaller} {ex pre : KasplexBlockExecutor}
    (h : ex.applyPreExecutionChanges system = .ok pre) : ∃ db, pre = { ex with db } := by
  obtain ⟨number, -, h⟩ := bind_eq_ok h
  obtain ⟨db₁, -, h⟩ := bind_eq_ok h
  obtain ⟨db₂, -, h⟩ := bind_eq_ok h
  cases h
  exact ⟨db₂, rfl⟩

theorem applyPreExecutionChanges_panic {system : SystemCaller} {ex : KasplexBlockExecutor}
    {message : String} (h : ex.applyPreExecutionChanges system = .error (.panic message)) :
    ∃ x : U256, message = conversionMessage 64 x := by
  rcases bind_eq_error h with h | ⟨number, -, h⟩
  · cases narrowOrPanic_eq_error h
    exact ⟨_, rfl⟩
  rcases bind_eq_error h with h | ⟨db₁, -, h⟩
  · obtain ⟨err, -, h⟩ := mapError_eq_error h
    cases h
  rcases bind_eq_error h with h | ⟨db₂, -, h⟩
  · obtain ⟨err, -, h⟩ := mapError_eq_error h
    cases h
  · cases h

instance (ex : KasplexBlockExecutor) (tx : Recovered) : Decidable (FitsOrOversized ex tx) :=
  inferInstanceAs (Decidable (_ ∨ _))

theorem executeTransaction_eq_ok {transact : Transact} {ex ex' : KasplexBlockExecutor}
    {tx : Recovered} {gasUsed : U64} (h : ex.executeTransaction transact tx = .ok (gasUsed, ex')) :
    ∃ output, transact ex.evmEnv (TxEnv.fromRecoveredTx tx) ex.db = .ok output ∧
      gasUsed = output.result.gasUsed ∧ ex' = (ex.commitTransaction output tx).2 := by
  obtain ⟨output, ho, h⟩ := bind_eq_ok h
  cases h
  exact ⟨output, mapError_eq_ok ho, rfl, rfl⟩

theorem executeTransaction_of_ok {transact : Transact} {ex : KasplexBlockExecutor}
    {tx : Recovered} {output : ResultAndState}
    (h : transact ex.evmEnv (TxEnv.fromRecoveredTx tx) ex.db = .ok output) :
    ex.executeTransaction transact tx = .ok (ex.commitTransaction output tx) := by
  simp [executeTransaction, executeTransactionWithoutCommit, h, Except.mapError, bind,
    Except.bind, pure, Except.pure]

theorem executeTransaction_of_error {transact : Transact} {ex : KasplexBlockExecutor}
    {tx : Recovered} {err : EvmError}
    (h : transact ex.evmEnv (TxEnv.fromRecoveredTx tx) ex.db = .error err) :
    ex.executeTransaction transact tx = .error (.evm err tx.tx.hash) := by
  simp [executeTransaction, executeTransactionWithoutCommit, h, Except.mapError, bind, Except.bind]

theorem offer_of_error {transact : Transact} {ex : KasplexBlockExecutor} {tx : Recovered}
    {err : BlockExecutionError} (h : ex.executeTransaction transact tx = .error err) :
    ex.offer transact tx = ex := by
  simp [offer, h]

/-- An oversized transaction is refused and nothing changes. -/
theorem oversized_refused {transact : Transact} (gas : GasDiscipline transact)
    (ex : KasplexBlockExecutor) (tx : Recovered)
    (exceeds : ex.evmEnv.blockEnv.gasLimit.toNat < tx.tx.gasLimit.toNat) :
    (∃ err, ex.executeTransactionWithoutCommit transact tx = .error err) ∧
      ex.offer transact tx = ex := by
  obtain ⟨err, he⟩ := gas.refuses ex.evmEnv (TxEnv.fromRecoveredTx tx) ex.db
    (BitVec.lt_def.mpr exceeds)
  refine ⟨⟨.evm err tx.tx.hash, ?_⟩, offer_of_error (executeTransaction_of_error he)⟩
  simp [executeTransactionWithoutCommit, he, Except.mapError]

/-- One offer under the condition keeps the accumulated gas within the limit. -/
theorem offer_gasUsed_le {transact : Transact} (gas : GasDiscipline transact)
    {ex : KasplexBlockExecutor} {tx : Recovered} (cond : FitsOrOversized ex tx)
    (within : ex.gasUsed.toNat ≤ ex.evmEnv.blockEnv.gasLimit.toNat) :
    (ex.offer transact tx).gasUsed.toNat ≤ ex.evmEnv.blockEnv.gasLimit.toNat := by
  rcases cond with fits | exceeds
  · cases h : ex.executeTransaction transact tx with
    | error err => rwa [offer_of_error h]
    | ok pair =>
      obtain ⟨used, ex'⟩ := pair
      obtain ⟨output, ho, -, rfl⟩ := executeTransaction_eq_ok h
      have hused := BitVec.le_def.mp (gas.bounded _ _ _ _ ho)
      have hlimit := ex.evmEnv.blockEnv.gasLimit.isLt
      change output.result.gasUsed.toNat ≤ tx.tx.gasLimit.toNat at hused
      have hoffer : ex.offer transact tx = (ex.commitTransaction output tx).2 := by
        simp [offer, h]
      rw [hoffer]
      change (ex.gasUsed + output.result.gasUsed).toNat ≤ _
      rw [toNat_add_of_lt (by omega)]
      omega
  · rw [(oversized_refused gas ex tx exceeds).2]
    exact within

@[simp] theorem offer_evmEnv (transact : Transact) (ex : KasplexBlockExecutor) (tx : Recovered) :
    (ex.offer transact tx).evmEnv = ex.evmEnv := by
  cases h : ex.executeTransaction transact tx with
  | error err => rw [offer_of_error h]
  | ok pair =>
    obtain ⟨used, ex'⟩ := pair
    obtain ⟨output, -, -, rfl⟩ := executeTransaction_eq_ok h
    simp [offer, h, commitTransaction]

/-- The invariant of a run whose offers all meet the condition. -/
theorem offers_gasUsed_le {transact : Transact} (gas : GasDiscipline transact)
    {ex ex' : KasplexBlockExecutor} {txs : List Recovered}
    (within : ex.gasUsed.toNat ≤ ex.evmEnv.blockEnv.gasLimit.toNat)
    (meets : Runs.Meets (offer transact) FitsOrOversized ex txs)
    (reached : Runs.Reached (offer transact) ex txs ex') :
    ex'.gasUsed.toNat ≤ ex.evmEnv.blockEnv.gasLimit.toNat := by
  have inv := Runs.reached_invariant
    (fun s => s.evmEnv = ex.evmEnv ∧ s.gasUsed.toNat ≤ ex.evmEnv.blockEnv.gasLimit.toNat)
    (fun s tx hs cond => ⟨(offer_evmEnv transact s tx).trans hs.1, by
      have := offer_gasUsed_le gas cond (by rw [hs.1]; exact hs.2)
      rwa [hs.1] at this⟩) ⟨rfl, within⟩ meets reached
  exact inv.2

section Replay

variable {transact : Transact} {ex last : KasplexBlockExecutor} {txs : List Recovered}
  {outputs : List ResultAndState}

theorem executeAll_cons {tx : Recovered}
    (h : executeAll transact ex (tx :: txs) = .ok (outputs, last)) :
    ∃ output rest, outputs = output :: rest ∧
      transact ex.evmEnv (TxEnv.fromRecoveredTx tx) ex.db = .ok output ∧
      executeAll transact (ex.commitTransaction output tx).2 txs = .ok (rest, last) := by
  obtain ⟨output, ho, h⟩ := bind_eq_ok h
  obtain ⟨⟨rest, last'⟩, hrest, h⟩ := bind_eq_ok h
  cases h
  exact ⟨output, rest, rfl, mapError_eq_ok ho, hrest⟩

/-- Environment and context stay those of the start. -/
theorem executeAll_frame (h : executeAll transact ex txs = .ok (outputs, last)) :
    last.evmEnv = ex.evmEnv ∧ last.ctx = ex.ctx := by
  induction txs generalizing ex outputs with
  | nil =>
    cases h
    exact ⟨rfl, rfl⟩
  | cons tx txs ih =>
    obtain ⟨output, rest, -, -, h⟩ := executeAll_cons h
    obtain ⟨henv, hctx⟩ := ih h
    exact ⟨henv, hctx⟩

/-- Every outcome is that of `transact` under the one environment. -/
theorem executeAll_each (h : executeAll transact ex txs = .ok (outputs, last)) :
    ∀ p ∈ txs.zip outputs, ∃ db,
      transact ex.evmEnv (TxEnv.fromRecoveredTx p.1) db = .ok p.2 := by
  induction txs generalizing ex outputs with
  | nil =>
    intro p hp
    simp at hp
  | cons tx txs ih =>
    obtain ⟨output, rest, rfl, ho, h⟩ := executeAll_cons h
    intro p hp
    rcases List.mem_cons.mp hp with rfl | hp
    · exact ⟨ex.db, ho⟩
    · obtain ⟨db, hdb⟩ := ih h p hp
      exact ⟨db, hdb⟩

theorem executeAll_length (h : executeAll transact ex txs = .ok (outputs, last)) :
    outputs.length = txs.length := by
  induction txs generalizing ex outputs with
  | nil =>
    cases h
    rfl
  | cons tx txs ih =>
    obtain ⟨output, rest, rfl, -, h⟩ := executeAll_cons h
    simp [ih h]

/-- Execution reads nothing of the context. -/
theorem executeAll_withCtx (ctx : KasplexBlockExecutionCtx)
    (h : executeAll transact ex txs = .ok (outputs, last)) :
    executeAll transact { ex with ctx } txs = .ok (outputs, { last with ctx }) := by
  induction txs generalizing ex outputs with
  | nil =>
    cases h
    rfl
  | cons tx txs ih =>
    obtain ⟨output, rest, rfl, ho, h⟩ := executeAll_cons h
    have hrest := ih h
    simp only [commitTransaction] at hrest
    simp only [executeAll, executeTransactionWithoutCommit, commitTransaction, ho, Except.mapError,
      bind, Except.bind, hrest, pure, Except.pure]

/-- The gas the transactions report, added up without a bound. -/
def gasTotal (outputs : List ResultAndState) : Nat :=
  (outputs.map fun output => output.result.gasUsed.toNat).sum

theorem executeAll_gasUsed (h : executeAll transact ex txs = .ok (outputs, last))
    (fits : ex.gasUsed.toNat + gasTotal outputs < 2 ^ 64) :
    last.gasUsed.toNat = ex.gasUsed.toNat + gasTotal outputs := by
  induction txs generalizing ex outputs with
  | nil =>
    cases h
    simp [gasTotal]
  | cons tx txs ih =>
    obtain ⟨output, rest, rfl, -, h⟩ := executeAll_cons h
    simp only [gasTotal, List.map_cons, List.sum_cons] at fits ih ⊢
    have hstep : (ex.commitTransaction output tx).2.gasUsed.toNat =
        ex.gasUsed.toNat + output.result.gasUsed.toNat := toNat_add_of_lt (by omega)
    rw [ih h (by omega), hstep, Nat.add_assoc]

/-- The receipts carry the running sums. -/
theorem executeAll_receipts (h : executeAll transact ex txs = .ok (outputs, last))
    (fits : ex.gasUsed.toNat + gasTotal outputs < 2 ^ 64) :
    last.receipts.map (fun r => r.cumulativeGasUsed.toNat) =
      ex.receipts.map (fun r => r.cumulativeGasUsed.toNat) ++
        (List.range outputs.length).map fun i =>
          ex.gasUsed.toNat + gasTotal (outputs.take (i + 1)) := by
  induction txs generalizing ex outputs with
  | nil =>
    cases h
    simp
  | cons tx txs ih =>
    obtain ⟨output, rest, rfl, -, h⟩ := executeAll_cons h
    simp only [gasTotal, List.map_cons, List.sum_cons] at fits ih ⊢
    have hstep : (ex.commitTransaction output tx).2.gasUsed.toNat =
        ex.gasUsed.toNat + output.result.gasUsed.toNat := toNat_add_of_lt (by omega)
    have hstep' : (ex.gasUsed + output.result.gasUsed).toNat =
        ex.gasUsed.toNat + output.result.gasUsed.toNat := hstep
    rw [ih h (by omega), hstep]
    simp only [commitTransaction, List.map_append, List.map_cons, List.map_nil,
      List.append_assoc, List.cons_append, List.nil_append, List.length_cons,
      List.range_succ_eq_map, List.map_map, Function.comp_def, hstep']
    simp [Nat.add_assoc]

end Replay

/-- The handler keeps the gas discipline when the phases around it do. -/
theorem transact_gasDiscipline (revm : Revm)
    (refuses : ∀ env tx, env.blockEnv.gasLimit < tx.gasLimit →
      ∃ err, revm.validateEnv env tx = .error err)
    (metered : revm.Metered) :
    GasDiscipline (transact revm) where
  refuses := by
    intro env tx db exceeds
    obtain ⟨err, he⟩ := refuses env tx exceeds
    exact ⟨.transaction err, by simp [transact, he, Except.mapError, bind, Except.bind]⟩
  bounded := by
    intro env tx db output h
    obtain ⟨charged, frame, executed, _, _, hv, -, hx, -, -, rfl⟩ := transact_eq_ok h
    have wf := metered env tx charged frame executed hv hx
    have hb := wf.balanced
    rw [wf.limit] at hb
    apply BitVec.le_def.mpr
    rw [toNat_saturatingSub]
    omega

end BlockExecutor
