import Kasplex.BuiltBlocks
import Kasplex.Paths

/-!
# Chains of executed blocks

Blocks are executed one after the other, each on the state the one before it
left, in the environment and context of its own header. Seen from the accounts,
such a chain is a path of openings (the system calls of a block) and of turns,
one for each transaction, with the state it met and the outcome it had.
-/

namespace LedgerRuns

open Primitives MachineArith EvmState ChainSpec FeeHandler BlockExecutor EvmConfig
  PayloadAttributes PayloadBuilder BuiltBlocks Paths
open KasplexBlockExecutor (executeAll)

def importBlock (backend : Backend) (config : KasplexEvmConfig) (db : Database)
    (block : RecoveredBlock) :
    Except (Fault BlockExecutionError) (BlockExecutionResult × Database) :=
  executeBlock backend config.chainSpec
    (config.evmEnv backend.eth block.sealedBlock.block.header)
    (KasplexEvmConfig.contextForBlock block.sealedBlock) db block.recoveredTransactions

def importChain (backend : Backend) (config : KasplexEvmConfig) :
    Database → List RecoveredBlock →
      Except (Fault BlockExecutionError) (List BlockExecutionResult × Database)
  | db, [] => pure ([], db)
  | db, block :: rest => do
    let (result, db) ← importBlock backend config db block
    let (results, db) ← importChain backend config db rest
    pure (result :: results, db)

/-- One executed transaction: the state it met, its environment, its outcome. -/
structure Turn where
  db : Database
  env : EvmEnv
  tx : Recovered
  output : ResultAndState

/-- The transaction as the handler sees it. -/
def Turn.txEnv (t : Turn) : TxEnv := TxEnv.fromRecoveredTx t.tx

inductive LedgerEvent where
  | opened (env : EvmEnv) (ctx : KasplexBlockExecutionCtx)
  | executed (turn : Turn)

def LedgerEvent.turn? : LedgerEvent → Option Turn
  | .opened _ _ => none
  | .executed turn => some turn

def turns (events : List LedgerEvent) : List Turn := events.filterMap LedgerEvent.turn?

@[simp] theorem turns_opened (env : EvmEnv) (ctx : KasplexBlockExecutionCtx)
    (events : List LedgerEvent) : turns (.opened env ctx :: events) = turns events := rfl

@[simp] theorem turns_executed (t : Turn) (events : List LedgerEvent) :
    turns (.executed t :: events) = t :: turns events := rfl

@[simp] theorem turns_append (events events' : List LedgerEvent) :
    turns (events ++ events') = turns events ++ turns events' :=
  List.filterMap_append

/-- One event on the accounts, in an environment of `envs`. -/
inductive LedgerStep (backend : Backend) (spec : KasplexChainSpec) (envs : EvmEnv → Prop) :
    Database → LedgerEvent → Database → Prop
  | opened {db : Database} {env : EvmEnv} {ctx : KasplexBlockExecutionCtx}
      {pre : KasplexBlockExecutor} :
      envs env →
      (KasplexBlockExecutor.new env db ctx spec).applyPreExecutionChanges backend.system = .ok pre →
      LedgerStep backend spec envs db (.opened env ctx) pre.db
  | executed {turn : Turn} :
      envs turn.env →
      backend.transact turn.env turn.txEnv turn.db = .ok turn.output →
      LedgerStep backend spec envs turn.db (.executed turn) (turn.db.commit turn.output.state)

section Chains

variable {backend : Backend} {spec : KasplexChainSpec} {envs : EvmEnv → Prop}

/-- The transactions of a block are turns in its environment. -/
theorem executeAll_path {ex last : KasplexBlockExecutor} {txs : List Recovered}
    {outputs : List ResultAndState} (allowed : envs ex.evmEnv)
    (h : executeAll backend.transact ex txs = .ok (outputs, last)) :
    ∃ events, Path (LedgerStep backend spec envs) ex.db events last.db ∧
      (turns events).map Turn.tx = txs := by
  induction txs generalizing ex outputs with
  | nil =>
    cases h
    exact ⟨[], Path.nil _, rfl⟩
  | cons tx txs ih =>
    obtain ⟨output, rest, rfl, ho, h⟩ := executeAll_cons h
    obtain ⟨events, path, hturns⟩ :=
      ih (show envs (ex.commitTransaction output tx).2.evmEnv from allowed) h
    refine ⟨.executed ⟨ex.db, ex.evmEnv, tx, output⟩ :: events, ?_, ?_⟩
    · have hturn := @LedgerStep.executed backend spec envs ⟨ex.db, ex.evmEnv, tx, output⟩ allowed ho
      exact Path.cons hturn path
    · rw [turns_executed, List.map_cons, hturns]

theorem executeBlock_path {env : EvmEnv} {ctx : KasplexBlockExecutionCtx} {db last : Database}
    {txs : List Recovered} {result : BlockExecutionResult} (allowed : envs env)
    (h : executeBlock backend spec env ctx db txs = .ok (result, last)) :
    ∃ events, Path (LedgerStep backend spec envs) db events last ∧
      (turns events).map Turn.tx = txs := by
  obtain ⟨pre, hpre, h⟩ := bind_eq_ok h
  obtain ⟨⟨outputs, ex⟩, hexec, h⟩ := bind_eq_ok h
  cases h
  obtain ⟨db', hdb'⟩ := applyPreExecutionChanges_eq_ok hpre
  have henv : envs pre.evmEnv := by
    rw [hdb']
    exact allowed
  obtain ⟨events, path, hturns⟩ := executeAll_path henv (mapError_eq_ok hexec)
  exact ⟨.opened env ctx :: events, Path.cons (LedgerStep.opened allowed hpre) path, hturns⟩

/-- The environment of some header. -/
def HeaderEnv (backend : Backend) (config : KasplexEvmConfig) (env : EvmEnv) : Prop :=
  ∃ header, env = config.evmEnv backend.eth header

/-- A chain of blocks is a path of ledger events whose turns are its
transactions in order, each in the environment of a header. -/
theorem importChain_path {config : KasplexEvmConfig} {db last : Database}
    {blocks : List RecoveredBlock} {results : List BlockExecutionResult}
    (h : importChain backend config db blocks = .ok (results, last)) :
    ∃ events,
      Path (LedgerStep backend config.chainSpec (HeaderEnv backend config)) db events last ∧
      (turns events).map Turn.tx = blocks.flatMap RecoveredBlock.recoveredTransactions := by
  induction blocks generalizing db results with
  | nil =>
    cases h
    exact ⟨[], Path.nil _, rfl⟩
  | cons block blocks ih =>
    obtain ⟨⟨result, middle⟩, hblock, h⟩ := bind_eq_ok h
    obtain ⟨⟨rest, last'⟩, hrest, h⟩ := bind_eq_ok h
    cases h
    have henv : HeaderEnv backend config
        (config.evmEnv backend.eth block.sealedBlock.block.header) := ⟨_, rfl⟩
    obtain ⟨events, path, hturns⟩ := executeBlock_path henv hblock
    obtain ⟨events', path', hturns'⟩ := ih hrest
    refine ⟨events ++ events', path.append path', ?_⟩
    rw [turns_append, List.map_append, hturns, hturns', List.flatMap_cons]

end Chains

section Accounts

/-- Execution reads the database of the journal and does not replace it. -/
def KeepsDatabase (revm : Revm) : Prop :=
  ∀ env tx j frame j', revm.execution env tx j = .ok (frame, j') → j'.database = j.database

def balances (db : Database) (a : Address) : Nat := (db.account a).balance.toNat

theorem loadAccount_database {j j' : Journal} {a : Address} (h : j.loadAccount a = .ok j') :
    j'.database = j.database := by
  unfold Journal.loadAccount at h
  split at h
  · cases h
    rfl
  · split at h
    · cases h
    · cases h
      rfl

/-- A credit changes one balance, or nothing. -/
theorem balanceIncr_account {j j' : Journal} {a : Address} {amount : U256}
    (h : j.balanceIncr a amount = .ok j') :
    j'.database = j.database ∧
      ∃ balance, j'.account = Function.update j.account a { j.account a with balance } := by
  obtain ⟨k, hload, h⟩ := bind_eq_ok h
  have hdatabase := loadAccount_database hload
  have haccount := Journal.loadAccount_account hload
  cases hadd : checkedAdd (k.account a).balance amount with
  | none =>
    simp only [hadd] at h
    cases h
    refine ⟨hdatabase, (j.account a).balance, ?_⟩
    rw [haccount]
    exact (Function.update_eq_self a j.account).symm
  | some balance =>
    simp only [hadd] at h
    cases h
    refine ⟨hdatabase, balance, ?_⟩
    rw [Journal.setAccount_account, haccount]

variable {revm : Revm} {env : EvmEnv} {tx : TxEnv} {j j' : Journal} {gas : Gas}

/-- The charge passes the checks of the caller's account and rewrites that
account alone. -/
theorem deductCaller_account
    (h : validateAgainstStateAndDeductCaller revm env tx j = .ok j') :
    revm.validateAccountNonceAndCode (j.account tx.caller) tx env.cfgEnv = .ok () ∧
      j'.database = j.database ∧
      ∃ balance, j'.account = Function.update j.account tx.caller
        { (if tx.kind.isCall then bumpNonce (j.account tx.caller)
            else j.account tx.caller) with balance } := by
  obtain ⟨j₁, h₁, h⟩ := bind_eq_ok h
  obtain ⟨j₂, h₂, h⟩ := bind_eq_ok h
  obtain ⟨⟨⟩, hchecked, h⟩ := bind_eq_ok h
  obtain ⟨spending, -, h⟩ := bind_eq_ok h
  have haccount : j₂.account = j.account :=
    (Journal.loadAccount_account h₂).trans (Journal.loadAccount_account h₁)
  have hdatabase : j₂.database = j.database :=
    (loadAccount_database h₂).trans (loadAccount_database h₁)
  have hchecked := mapError_eq_ok hchecked
  rw [haccount] at hchecked h
  have hkeep : (if tx.kind.isCall then bumpNonce (j.account tx.caller)
      else j.account tx.caller).balance = (j.account tx.caller).balance := by
    split <;> rfl
  cases h
  refine ⟨hchecked, hdatabase,
    saturatingSub (j.account tx.caller).balance (saturatingSub spending tx.value), ?_⟩
  rw [Journal.setAccount_account, haccount, hkeep]

/-- Nonce and code of every account are the same. -/
def SameButBalances (before after : Address → Account) : Prop :=
  ∀ a, (after a).nonce = (before a).nonce ∧ (after a).code = (before a).code

theorem SameButBalances.trans {before middle after : Address → Account}
    (h : SameButBalances before middle) (h' : SameButBalances middle after) :
    SameButBalances before after :=
  fun a => ⟨(h' a).1.trans (h a).1, (h' a).2.trans (h a).2⟩

theorem balanceIncr_same {a : Address} {amount : U256} (h : j.balanceIncr a amount = .ok j') :
    SameButBalances j.account j'.account := by
  obtain ⟨-, balance, haccount⟩ := balanceIncr_account h
  intro b
  rw [haccount]
  by_cases hb : b = a
  · subst hb
    simp
  · simp [hb]

/-- The phases after the execution move balances only. -/
theorem rewards_same {reimbursed : Journal}
    (reimburse : reimburseCaller env tx gas 0#256 j = .ok reimbursed)
    (reward : rewardBeneficiary env tx gas reimbursed = .ok j') :
    j'.database = j.database ∧ SameButBalances j.account j'.account := by
  obtain ⟨k, htip, hbase⟩ := bind_eq_ok reward
  refine ⟨?_, (balanceIncr_same reimburse).trans ((balanceIncr_same htip).trans
    (balanceIncr_same hbase))⟩
  rw [(balanceIncr_account hbase).1, (balanceIncr_account htip).1,
    (balanceIncr_account reimburse).1]

/-- The accounts after a committed transaction are those its last phase left. -/
theorem commit_account {db : Database} (h : j.database = db) :
    (db.commit j.state).account = j.account := by
  subst h
  rfl

/-- The phases of a committed transaction, and the accounts they led to. -/
theorem transact_commit (keeps : KeepsDatabase revm) {db : Database} {output : ResultAndState}
    (h : transact revm env tx db = .ok output) :
    ∃ charged frame executed reimbursed rewarded,
      revm.validateEnv env tx = .ok () ∧
      validateAgainstStateAndDeductCaller revm env tx (Journal.new db) = .ok charged ∧
      revm.execution env tx charged = .ok (frame, executed) ∧
      reimburseCaller env tx frame.gas 0#256 executed = .ok reimbursed ∧
      rewardBeneficiary env tx frame.gas reimbursed = .ok rewarded ∧
      (db.commit output.state).account = rewarded.account ∧
      output.gas = frame.gas ∧
      output.result.gasUsed = saturatingSub frame.gas.spent frame.gas.refunded := by
  obtain ⟨charged, frame, executed, reimbursed, rewarded, hv, hc, hx, hr, hw, rfl⟩ :=
    transact_eq_ok h
  refine ⟨charged, frame, executed, reimbursed, rewarded, hv, hc, hx, hr, hw, ?_, rfl, rfl⟩
  apply commit_account
  rw [(rewards_same hr hw).1, keeps _ _ _ _ _ hx, (deductCaller_account hc).2.1]
  rfl

end Accounts

section Samples

theorem sampleSystem_account {ex pre : KasplexBlockExecutor}
    (h : ex.applyPreExecutionChanges sampleSystem = .ok pre) : pre.db.account = ex.db.account := by
  obtain ⟨number, -, h⟩ := bind_eq_ok h
  cases h
  rfl

/-- Two blocks of one transfer each. -/
def transferBlocks : List RecoveredBlock :=
  [⟨⟨⟨sampleHeader, ⟨[transfer0], [], some []⟩⟩, 1⟩, [sampleSigner]⟩,
    ⟨⟨⟨{ sampleHeader with number := 2, parentHash := 1 }, ⟨[transfer1], [], some []⟩⟩, 2⟩,
      [sampleSigner]⟩]

end Samples

end LedgerRuns
