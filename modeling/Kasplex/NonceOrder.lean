import Kasplex.LedgerRuns

/-!
# The nonces of a sender along a chain

The handler checks a transaction's nonce against its sender's account and bumps
the nonce of a call itself; the nonce of a creation is left to the execution,
which bumps it only if the sender's balance covers the value. That balance has
been charged for gas by then, and nobody has compared it with anything.
-/

namespace NonceOrder

open Primitives MachineArith EvmState ChainSpec FeeHandler BlockExecutor EvmConfig
  PayloadAttributes PayloadBuilder BuiltBlocks Paths LedgerRuns
open KasplexBlockExecutor (executeAll executeTransactionWithoutCommit)

/-- The code of an account that has delegated to another one. -/
def IsDelegation (code : Bytes) : Prop := code.length = 23 ∧ code.take 3 = [0xef, 0x01, 0x00]

/-- An account that may send transactions: no code but a delegation. -/
def MaySend (a : Account) : Prop := a.code = [] ∨ IsDelegation a.code

/-- What the stock phases do with nonces. A checked transaction has the nonce of
its sender's account, which may send. From nonce one on, such an account is
never made a contract and its nonce never falls; a creation raises it if the
sender still has its value. -/
structure NonceRules (revm : Revm) : Prop where
  checked : ∀ account tx cfg, cfg.disableNonceCheck = false →
    revm.validateAccountNonceAndCode account tx cfg = .ok () →
      account.nonce = tx.nonce ∧ MaySend account
  kept : ∀ env tx j frame j', revm.execution env tx j = .ok (frame, j') →
    ∀ a, MaySend (j.account a) → 0 < (j.account a).nonce.toNat →
      MaySend (j'.account a) ∧ (j.account a).nonce.toNat ≤ (j'.account a).nonce.toNat
  created : ∀ env tx j frame j', tx.kind = .create →
    revm.execution env tx j = .ok (frame, j') →
      tx.value.toNat ≤ j.balances tx.caller → MaySend (j.account tx.caller) →
        (j.account tx.caller).nonce.toNat + 1 < 2 ^ 64 →
          MaySend (j'.account tx.caller) ∧
            (j.account tx.caller).nonce.toNat < (j'.account tx.caller).nonce.toNat

/-- The system calls write to contracts only. -/
def LeavesSenders (system : SystemCaller) : Prop :=
  ∀ (ex pre : KasplexBlockExecutor), ex.applyPreExecutionChanges system = .ok pre →
    ∀ a, MaySend (ex.db.account a) → pre.db.account a = ex.db.account a

/-- The sender has used all nonces below `n`. -/
def Past (n : Nat) (a : Account) : Prop := n = 0 ∨ MaySend a ∧ n ≤ a.nonce.toNat

/-- A call, or a creation that its sender can pay for after the gas, with a
nonce that has a successor. -/
def UsesNonce (t : Turn) : Prop :=
  t.tx.tx.nonce.toNat + 1 < 2 ^ 64 ∧
    (t.tx.tx.kind.isCall = true ∨
      t.tx.tx.value.toNat ≤ balances t.db t.tx.signer - gasCost t.env t.txEnv)

/-- What a turn leaves behind: its nonce is reached, and past if it was used. -/
def Mark (t : Turn) (db : Database) : Prop :=
  Past t.tx.tx.nonce.toNat (db.account t.tx.signer) ∧
    (UsesNonce t → Past (t.tx.tx.nonce.toNat + 1) (db.account t.tx.signer))

/-- Later transactions of the sender have at least the nonces of earlier ones,
and larger ones where the earlier nonce was used. -/
def After (t t' : Turn) : Prop :=
  t.tx.signer = t'.tx.signer →
    t.tx.tx.nonce.toNat ≤ t'.tx.tx.nonce.toNat ∧
      (UsesNonce t → t.tx.tx.nonce.toNat < t'.tx.tx.nonce.toNat)

theorem Past.le {n : Nat} {a : Account} (past : Past n a) : n ≤ a.nonce.toNat := by
  rcases past with hzero | ⟨-, hle⟩
  · omega
  · exact hle

theorem Past.of_same {n : Nat} {a b : Account} (h : Past n a) (nonce : b.nonce = a.nonce)
    (code : b.code = a.code) : Past n b := by
  unfold Past MaySend at h ⊢
  rwa [nonce, code]

section Steps

variable {revm : Revm} {env : EvmEnv} {tx : TxEnv} {j j' : Journal} {frame : FrameResult}

theorem Past.execution (rules : NonceRules revm) {n : Nat} {a : Address}
    (h : revm.execution env tx j = .ok (frame, j')) (past : Past n (j.account a)) :
    Past n (j'.account a) := by
  rcases past with hzero | ⟨hsend, hle⟩
  · exact Or.inl hzero
  · rcases Nat.eq_zero_or_pos n with hzero | hpos
    · exact Or.inl hzero
    · obtain ⟨hsend', hle'⟩ := rules.kept _ _ _ _ _ h a hsend (by omega)
      exact Or.inr ⟨hsend', by omega⟩

/-- The bump adds one, except to the last nonce. -/
theorem bumpNonce_nonce (a : Account) :
    a.nonce.toNat ≤ (bumpNonce a).nonce.toNat ∧
      (a.nonce.toNat + 1 < 2 ^ 64 → (bumpNonce a).nonce.toNat = a.nonce.toNat + 1) := by
  have hlast := a.nonce.isLt
  have hone : (1 : U64).toNat = 1 := rfl
  unfold bumpNonce checkedAdd
  by_cases hroom : a.nonce.toNat + (1 : U64).toNat < 2 ^ 64
  · have hadd := toNat_add_of_lt hroom
    simp only [if_pos hroom, Option.getD_some]
    omega
  · simp only [if_neg hroom, Option.getD_none]
    omega

/-- The charge keeps what every account is past. -/
theorem Past.charge {n : Nat} {a : Address}
    (h : validateAgainstStateAndDeductCaller revm env tx j = .ok j')
    (past : Past n (j.account a)) : Past n (j'.account a) := by
  obtain ⟨-, -, balance, haccount⟩ := deductCaller_account h
  rw [haccount]
  by_cases ha : a = tx.caller
  · subst ha
    rw [Function.update_self]
    rcases past with hzero | ⟨hsend, hle⟩
    · exact Or.inl hzero
    · have hbump := (bumpNonce_nonce (j.account tx.caller)).1
      split
      · exact Or.inr ⟨hsend, hle.trans hbump⟩
      · exact Or.inr ⟨hsend, hle⟩
  · rwa [Function.update_of_ne ha]

/-- An accepted transaction has its sender's nonce. -/
theorem transact_nonce (rules : NonceRules revm) (check : env.cfgEnv.disableNonceCheck = false)
    {db : Database} {output : ResultAndState} (h : transact revm env tx db = .ok output) :
    (db.account tx.caller).nonce = tx.nonce ∧ MaySend (db.account tx.caller) := by
  obtain ⟨charged, -, -, -, -, -, hc, -⟩ := transact_eq_ok h
  exact rules.checked _ _ _ check (deductCaller_account hc).1

/-- A committed transaction keeps what every account is past. -/
theorem Past.committed (rules : NonceRules revm) (keeps : KeepsDatabase revm) {db : Database}
    {output : ResultAndState} (h : transact revm env tx db = .ok output) {n : Nat} {a : Address}
    (past : Past n (db.account a)) : Past n ((db.commit output.state).account a) := by
  obtain ⟨charged, frame, executed, reimbursed, rewarded, -, hc, hx, hr, hw, haccount, -⟩ :=
    transact_commit keeps h
  have hexecuted : Past n (executed.account a) := (Past.charge hc past).execution rules hx
  obtain ⟨hnonce, hcode⟩ := (rewards_same hr hw).2 a
  rw [haccount]
  exact hexecuted.of_same hnonce hcode

/-- After a call, or a creation that can be paid for, the nonce is used. -/
theorem transact_used (rules : NonceRules revm) (keeps : KeepsDatabase revm)
    (check : env.cfgEnv.disableNonceCheck = false) {db : Database} {output : ResultAndState}
    (h : transact revm env tx db = .ok output) (room : tx.nonce.toNat + 1 < 2 ^ 64)
    (paid : tx.kind.isCall = true ∨ tx.value.toNat ≤ balances db tx.caller - gasCost env tx) :
    Past (tx.nonce.toNat + 1) ((db.commit output.state).account tx.caller) := by
  obtain ⟨hnonce, hsend⟩ := transact_nonce rules check h
  obtain ⟨charged, frame, executed, reimbursed, rewarded, -, hc, hx, hr, hw, haccount, -⟩ :=
    transact_commit keeps h
  obtain ⟨-, -, balance, hcharged⟩ := deductCaller_account hc
  have hdeducted := (deductCaller_balances hc).2
  have hexecuted : Past (tx.nonce.toNat + 1) (executed.account tx.caller) := by
    cases hkind : tx.kind with
    | call target =>
      apply Past.execution rules hx
      have hbumped := (bumpNonce_nonce (db.account tx.caller)).2 (by rw [hnonce]; exact room)
      rw [hcharged, Function.update_self, hkind]
      refine Or.inr ⟨hsend, ?_⟩
      rw [← hnonce]
      exact hbumped.ge
    | create =>
      have hsame : charged.account tx.caller =
          { db.account tx.caller with balance } := by
        rw [hcharged, Function.update_self, hkind]
        rfl
      have hvalue : tx.value.toNat ≤ charged.balances tx.caller := by
        rw [hdeducted, Function.update_self]
        rcases paid with hcall | hvalue
        · rw [hkind] at hcall
          cases hcall
        · exact hvalue
      obtain ⟨hsend', hlt⟩ := rules.created _ _ _ _ _ hkind hx hvalue
        (by rw [hsame]; exact hsend) (by rw [hsame]; exact hnonce ▸ room)
      rw [hsame] at hlt
      refine Or.inr ⟨hsend', ?_⟩
      rw [← hnonce]
      exact hlt
  obtain ⟨hnonce', hcode'⟩ := (rewards_same hr hw).2 tx.caller
  rw [haccount]
  exact hexecuted.of_same hnonce' hcode'

end Steps

section Chains

variable {revm : Revm} {backend : Backend} {spec : KasplexChainSpec} {envs : EvmEnv → Prop}
  (rules : NonceRules revm) (keeps : KeepsDatabase revm)
  (handler : backend.transact = transact revm) (system : LeavesSenders backend.system)
include rules keeps handler system

theorem Past.step {db db' : Database} {e : LedgerEvent} {n : Nat} {a : Address}
    (h : LedgerStep backend spec envs db e db') (past : Past n (db.account a)) :
    Past n (db'.account a) := by
  cases h with
  | opened _ hpre =>
    rcases past with hzero | ⟨hsend, hle⟩
    · exact Or.inl hzero
    · rw [system _ _ hpre a hsend]
      exact Or.inr ⟨hsend, hle⟩
  | executed _ hok =>
    rw [handler] at hok
    exact past.committed rules keeps hok

theorem Mark.step {db db' : Database} {e : LedgerEvent} {t : Turn}
    (h : LedgerStep backend spec envs db e db') (mark : Mark t db) : Mark t db' :=
  ⟨mark.1.step rules keeps handler system h,
    fun used => (mark.2 used).step rules keeps handler system h⟩

omit system in
theorem mark_of_turn (checks : ∀ env, envs env → env.cfgEnv.disableNonceCheck = false)
    {db db' : Database} {t : Turn} (h : LedgerStep backend spec envs db (.executed t) db') :
    Mark t db' := by
  cases h with
  | executed allowed hok =>
    rw [handler] at hok
    obtain ⟨hnonce, hsend⟩ := transact_nonce rules (checks _ allowed) hok
    have hmet : Past t.tx.tx.nonce.toNat (t.db.account t.tx.signer) := by
      refine Or.inr ⟨hsend, ?_⟩
      have heq : (t.db.account t.tx.signer).nonce = t.tx.tx.nonce := hnonce
      rw [heq]
    exact ⟨hmet.committed rules keeps hok, fun used =>
      transact_used rules keeps (checks _ allowed) hok used.1 used.2⟩

omit keeps system in
/-- A turn finds the nonce of its sender. -/
theorem after_of_mark (checks : ∀ env, envs env → env.cfgEnv.disableNonceCheck = false)
    {db db' : Database} {t t' : Turn} (h : LedgerStep backend spec envs db (.executed t') db')
    (mark : Mark t db) : After t t' := by
  intro hsigner
  cases h with
  | executed allowed hok =>
    rw [handler] at hok
    have hnonce : (t'.db.account t'.tx.signer).nonce = t'.tx.tx.nonce :=
      (transact_nonce rules (checks _ allowed) hok).1
    obtain ⟨hreached, hpast⟩ := mark
    rw [hsigner] at hreached hpast
    rw [← hnonce]
    exact ⟨hreached.le, fun used => (hpast used).le⟩

/-- Along a path of ledger events the turns of each sender come in the order of
their nonces. -/
theorem turns_after (checks : ∀ env, envs env → env.cfgEnv.disableNonceCheck = false)
    {db last : Database} {events : List LedgerEvent}
    (path : Path (LedgerStep backend spec envs) db events last) :
    (turns events).Pairwise After := by
  apply List.pairwise_filterMap.mpr
  refine path.pairwise (fun e db => ∀ t, e.turn? = some t → Mark t db) ?_ ?_ ?_
  · intro db e db' h t ht
    cases e with
    | opened env ctx => cases ht
    | executed turn =>
      cases ht
      exact mark_of_turn rules keeps handler checks h
  · intro db e' db' e h mark t ht
    exact (mark t ht).step rules keeps handler system h
  · intro db e' db' e h mark t ht t' ht'
    cases e' with
    | opened env ctx => cases ht'
    | executed turn =>
      cases ht'
      exact after_of_mark rules handler checks h (mark t ht)

end Chains

/-- A call with a nonce that has a successor. -/
def isSpentCall (r : Recovered) : Bool :=
  r.tx.kind.isCall && decide (r.tx.nonce.toNat + 1 < 2 ^ 64)

/-- Turns in the order of the nonces have no two calls of one sender and nonce. -/
theorem spentCalls_nodup {ts : List Turn} (ordered : ts.Pairwise After) :
    (((ts.map Turn.tx).filter isSpentCall).map fun r => (r.signer, r.tx.nonce)).Nodup := by
  induction ts with
  | nil => exact List.nodup_nil
  | cons t ts ih =>
    obtain ⟨hlater, hrest⟩ := List.pairwise_cons.mp ordered
    rw [List.map_cons]
    by_cases hcall : isSpentCall t.tx = true
    · rw [List.filter_cons_of_pos hcall, List.map_cons]
      refine List.nodup_cons.mpr ⟨?_, ih hrest⟩
      intro hmem
      obtain ⟨r, hr, heq⟩ := List.mem_map.mp hmem
      obtain ⟨t', ht', rfl⟩ := List.mem_map.mp (List.mem_filter.mp hr).1
      obtain ⟨hsigner, hnonce⟩ := Prod.mk.inj heq
      have hused : UsesNonce t := by
        simp only [isSpentCall, Bool.and_eq_true, decide_eq_true_eq] at hcall
        exact ⟨hcall.2, Or.inl hcall.1⟩
      have hlt := (hlater t' ht' hsigner.symm).2 hused
      rw [hnonce] at hlt
      exact lt_irrefl _ hlt
    · rw [List.filter_cons_of_neg hcall]
      exact ih hrest

/-- Along every chain of blocks, with nothing assumed of who assembled them, the
transactions of each sender come in the order of their nonces: no later one has
a smaller nonce, none has the same as a call or a paid creation before it, and
so no call is executed twice. -/
theorem nonces_increase_along_chain (revm : Revm) (rules : NonceRules revm)
    (keeps : KeepsDatabase revm) (backend : Backend) (handler : backend.transact = transact revm)
    (system : LeavesSenders backend.system) (config : KasplexEvmConfig)
    (checks : ∀ header, (config.evmEnv backend.eth header).cfgEnv.disableNonceCheck = false)
    (db last : Database) (blocks : List RecoveredBlock) (results : List BlockExecutionResult)
    (imported : importChain backend config db blocks = .ok (results, last)) :
    ∃ events,
      Path (LedgerStep backend config.chainSpec (HeaderEnv backend config)) db events last ∧
      (turns events).map Turn.tx = blocks.flatMap RecoveredBlock.recoveredTransactions ∧
      (turns events).Pairwise (fun t t' => t.tx.signer = t'.tx.signer →
        t.tx.tx.nonce.toNat ≤ t'.tx.tx.nonce.toNat ∧
          (UsesNonce t → t.tx.tx.nonce.toNat < t'.tx.tx.nonce.toNat)) ∧
      (((blocks.flatMap RecoveredBlock.recoveredTransactions).filter isSpentCall).map
        fun r => (r.signer, r.tx.nonce)).Nodup := by
  obtain ⟨events, path, hturns⟩ := importChain_path imported
  have hchecks : ∀ env, HeaderEnv backend config env → env.cfgEnv.disableNonceCheck = false := by
    rintro env ⟨header, rfl⟩
    exact checks header
  have hordered := turns_after rules keeps handler system hchecks path
  refine ⟨events, path, hturns, hordered, ?_⟩
  rw [← hturns]
  exact spentCalls_nodup hordered

section Creations

/-- What the stock phases do with a creation whose sender cannot pay its value:
the frame ends out of funds before anything is written. The checks of nonce and
code read nothing else of the account. -/
structure OutOfFunds (revm : Revm) : Prop where
  fails : ∀ env tx j, tx.kind = .create → j.balances tx.caller < tx.value.toNat →
    revm.validateEnv env tx = .ok () →
      ∃ frame j', revm.execution env tx j = .ok (frame, j') ∧ j'.account = j.account ∧
        j'.database = j.database ∧ frame.gas.WellFormed tx.gasLimit
  reads : ∀ account account' tx cfg, account'.nonce = account.nonce →
    account'.code = account.code →
      revm.validateAccountNonceAndCode account' tx cfg =
        revm.validateAccountNonceAndCode account tx cfg

/-- Every account can be read. -/
def Readable (db : Database) : Prop := ∀ a, db.fault a = none

variable {revm : Revm} {env : EvmEnv} {tx : TxEnv} {j : Journal} {db : Database}

theorem loadAccount_readable (readable : Readable j.database) (a : Address) :
    ∃ j', j.loadAccount a = .ok j' := by
  unfold Journal.loadAccount
  cases j.state a with
  | some account => exact ⟨j, rfl⟩
  | none =>
    rw [readable a]
    exact ⟨_, rfl⟩

theorem balanceIncr_readable (readable : Readable j.database) (a : Address) (amount : U256) :
    ∃ j', j.balanceIncr a amount = .ok j' := by
  obtain ⟨k, hload⟩ := loadAccount_readable readable a
  unfold Journal.balanceIncr
  rw [hload]
  simp only [bind, Except.bind]
  cases checkedAdd (k.account a).balance amount with
  | none => exact ⟨_, rfl⟩
  | some balance => exact ⟨_, rfl⟩

theorem balanceIncr_le {j' : Journal} {a b : Address} {amount : U256}
    (h : j.balanceIncr a amount = .ok j') :
    j'.balances b ≤ j.balances b + if b = a then amount.toNat else 0 := by
  obtain ⟨k, hload, h⟩ := bind_eq_ok h
  have hbalances := Journal.loadAccount_balances hload
  cases hadd : checkedAdd (k.account a).balance amount with
  | none =>
    simp only [hadd] at h
    cases h
    rw [hbalances]
    exact Nat.le_add_right _ _
  | some balance =>
    obtain ⟨-, hsum⟩ := checkedAdd_eq_some hadd
    simp only [hadd] at h
    cases h
    have hheld : (k.account a).balance.toNat = j.balances a := congrFun hbalances a
    rw [Journal.setAccount_balances, hbalances]
    by_cases hb : b = a
    · subst hb
      rw [Function.update_self, if_pos rfl, ← hheld]
      exact hsum.le
    · rw [Function.update_of_ne hb]
      exact Nat.le_add_right _ _

/-- What the fee phases around an execution that pays nobody can add to a
balance is at most the gas cost. -/
theorem rewards_le {charged executed reimbursed rewarded : Journal} {gas : Gas}
    (accepted : validateAgainstStateAndDeductCaller revm env tx j = .ok charged)
    (price : env.blockEnv.basefee.toNat ≤ (effectiveGasPrice env tx).toNat)
    (meter : gas.WellFormed tx.gasLimit)
    (reimburse : reimburseCaller env tx gas 0#256 executed = .ok reimbursed)
    (reward : rewardBeneficiary env tx gas reimbursed = .ok rewarded) (a : Address) :
    rewarded.balances a ≤ executed.balances a + gasCost env tx := by
  have cost := (deductCaller_balances accepted).1
  have hsplit := fee_split meter price
  have hrefund := refundAmount_toNat env meter cost
  have htip := tipAmount_toNat env meter cost
  have hbase := totalBaseFee_toNat env gas
  obtain ⟨k, hbeneficiary, htreasury⟩ := bind_eq_ok reward
  have hfirst := balanceIncr_le (b := a) reimburse
  have hsecond := balanceIncr_le (b := a) hbeneficiary
  have hthird := balanceIncr_le (b := a) htreasury
  rw [hrefund] at hfirst
  rw [toNat_setWidth_of_le (by decide), htip] at hsecond
  rw [hbase] at hthird
  split at hfirst <;> split at hsecond <;> split at hthird <;> omega

/-- The sender of a creation cannot pay its value once the gas is charged. -/
def Unpayable (env : EvmEnv) (tx : TxEnv) (db : Database) : Prop :=
  tx.kind = .create ∧ balances db tx.caller - gasCost env tx < tx.value.toNat

/-- What one acceptance leaves for the next one to meet. -/
structure Repeatable (env : EvmEnv) (tx : TxEnv) (sender : Account) (db : Database) : Prop where
  readable : Readable db
  unpayable : Unpayable env tx db
  nonce : (db.account tx.caller).nonce = sender.nonce
  code : (db.account tx.caller).code = sender.code

/-- The charge of a readable state passes when the checks on the sender and the
price do. -/
theorem deductCaller_ok (readable : Readable j.database)
    (sender : revm.validateAccountNonceAndCode (j.account tx.caller) tx env.cfgEnv = .ok ())
    {spending : U256}
    (fits : tx.effectiveBalanceSpending (env.blockEnv.basefee.setWidth 128) = .ok spending) :
    ∃ j', validateAgainstStateAndDeductCaller revm env tx j = .ok j' := by
  obtain ⟨j₁, h₁⟩ := loadAccount_readable readable env.blockEnv.beneficiary
  have hreadable₁ : Readable j₁.database := by
    rw [loadAccount_database h₁]
    exact readable
  obtain ⟨j₂, h₂⟩ := loadAccount_readable hreadable₁ tx.caller
  have haccount : j₂.account = j.account :=
    (Journal.loadAccount_account h₂).trans (Journal.loadAccount_account h₁)
  simp only [validateAgainstStateAndDeductCaller, h₁, h₂, haccount, sender, fits, bind, Except.bind,
    Except.mapError, pure, Except.pure]
  exact ⟨_, rfl⟩

theorem rewards_ok (env : EvmEnv) (tx : TxEnv) (gas : Gas) (readable : Readable j.database) :
    ∃ reimbursed rewarded, reimburseCaller env tx gas 0#256 j = .ok reimbursed ∧
      rewardBeneficiary env tx gas reimbursed = .ok rewarded := by
  obtain ⟨reimbursed, hr⟩ := balanceIncr_readable readable tx.caller
    ((saturatingMul (effectiveGasPrice env tx)
      ((totalToRefund gas).setWidth 128)).setWidth 256 + 0#256)
  have hreadable : Readable reimbursed.database := by
    rw [(balanceIncr_account hr).1]
    exact readable
  obtain ⟨k, hk⟩ := balanceIncr_readable hreadable env.blockEnv.beneficiary
    ((tipAmount env tx gas).setWidth 256)
  have hreadable' : Readable k.database := by
    rw [(balanceIncr_account hk).1]
    exact hreadable
  obtain ⟨rewarded, hw⟩ := balanceIncr_readable hreadable'
    (getTreasuryAddress env.cfgEnv.chainId) (totalBaseFee env gas)
  refine ⟨reimbursed, rewarded, hr, ?_⟩
  simp only [rewardBeneficiary, hk, bind, Except.bind]
  exact hw

/-- A creation that cannot be paid is executed on every state of this kind, and
leaves a state of this kind. -/
theorem Repeatable.again (funds : OutOfFunds revm) {sender : Account}
    (valid : revm.validateEnv env tx = .ok ())
    (checked : revm.validateAccountNonceAndCode sender tx env.cfgEnv = .ok ())
    {spending : U256}
    (fits : tx.effectiveBalanceSpending (env.blockEnv.basefee.setWidth 128) = .ok spending)
    (price : env.blockEnv.basefee.toNat ≤ (effectiveGasPrice env tx).toNat)
    (state : Repeatable env tx sender db) :
    ∃ output, transact revm env tx db = .ok output ∧
      Repeatable env tx sender (db.commit output.state) := by
  obtain ⟨readable, ⟨hkind, hvalue⟩, hnonce, hcode⟩ := state
  have hsender : revm.validateAccountNonceAndCode ((Journal.new db).account tx.caller) tx
      env.cfgEnv = .ok () :=
    (funds.reads sender (db.account tx.caller) tx env.cfgEnv hnonce hcode).trans checked
  obtain ⟨charged, hc⟩ := deductCaller_ok (j := Journal.new db) readable hsender fits
  obtain ⟨-, hdatabase, balance, hcharged⟩ := deductCaller_account hc
  have hdeducted := (deductCaller_balances hc).2
  have hshort : charged.balances tx.caller < tx.value.toNat := by
    rw [hdeducted, Function.update_self]
    exact hvalue
  obtain ⟨frame, executed, hx, hsame, hexecuted, meter⟩ :=
    funds.fails env tx charged hkind hshort valid
  have hreadable : Readable executed.database := by
    rw [hexecuted, hdatabase]
    exact readable
  obtain ⟨reimbursed, rewarded, hr, hw⟩ := rewards_ok env tx frame.gas hreadable
  obtain ⟨hlast, hmoved⟩ := rewards_same hr hw
  have hfinal : (db.commit rewarded.state).account = rewarded.account := by
    apply commit_account
    rw [hlast, hexecuted, hdatabase]
    rfl
  refine ⟨⟨⟨frame.success, saturatingSub frame.gas.spent frame.gas.refunded, frame.logs⟩,
    frame.gas, rewarded.state⟩, ?_, readable, ⟨hkind, ?_⟩, ?_, ?_⟩
  · simp only [transact, valid, hc, hx, hr, hw, bind, Except.bind, Except.mapError, pure,
      Except.pure]
  · have hle := rewards_le hc price meter hr hw tx.caller
    have hbefore : executed.balances tx.caller = balances db tx.caller - gasCost env tx := by
      unfold Journal.balances
      rw [hsame]
      change charged.balances tx.caller = _
      rw [hdeducted, Function.update_self]
      rfl
    have hafter : balances (db.commit rewarded.state) tx.caller = rewarded.balances tx.caller := by
      unfold balances Journal.balances
      rw [hfinal]
    rw [hafter]
    omega
  · rw [hfinal, (hmoved tx.caller).1, hsame, hcharged, Function.update_self, hkind]
    exact hnonce
  · rw [hfinal, (hmoved tx.caller).2, hsame, hcharged, Function.update_self, hkind]
    exact hcode

theorem deductCaller_fits {j' : Journal}
    (h : validateAgainstStateAndDeductCaller revm env tx j = .ok j') :
    ∃ spending, tx.effectiveBalanceSpending (env.blockEnv.basefee.setWidth 128) = .ok spending := by
  obtain ⟨_, -, h⟩ := bind_eq_ok h
  obtain ⟨_, -, h⟩ := bind_eq_ok h
  obtain ⟨_, -, h⟩ := bind_eq_ok h
  obtain ⟨spending, hs, -⟩ := bind_eq_ok h
  exact ⟨spending, mapError_eq_ok hs⟩

/-- Copies of the creation, executed on such a state. -/
theorem Repeatable.run (funds : OutOfFunds revm) {sender : Account} {tx : Recovered}
    (valid : revm.validateEnv env (TxEnv.fromRecoveredTx tx) = .ok ())
    (checked : revm.validateAccountNonceAndCode sender (TxEnv.fromRecoveredTx tx) env.cfgEnv =
      .ok ())
    {spending : U256}
    (fits : (TxEnv.fromRecoveredTx tx).effectiveBalanceSpending
      (env.blockEnv.basefee.setWidth 128) = .ok spending)
    (price : env.blockEnv.basefee.toNat ≤ (effectiveGasPrice env (TxEnv.fromRecoveredTx tx)).toNat)
    (k : Nat) {ex : KasplexBlockExecutor} (henv : ex.evmEnv = env)
    (state : Repeatable env (TxEnv.fromRecoveredTx tx) sender ex.db) :
    ∃ outputs last, executeAll (transact revm) ex (List.replicate k tx) = .ok (outputs, last) ∧
      last.receipts.length = ex.receipts.length + k ∧
      (last.db.account tx.signer).nonce = sender.nonce := by
  induction k generalizing ex with
  | zero => exact ⟨[], ex, rfl, rfl, state.nonce⟩
  | succ k ih =>
    obtain ⟨output, hok, hnext⟩ := state.again funds valid checked fits price
    rw [← henv] at hok
    obtain ⟨outputs, last, hrest, hlength, hnonce⟩ :=
      ih (show (ex.commitTransaction output tx).2.evmEnv = env from henv) hnext
    refine ⟨output :: outputs, last, ?_, ?_, hnonce⟩
    · simp only [List.replicate_succ, executeAll, executeTransactionWithoutCommit, hok, hrest,
        Except.mapError, bind, Except.bind, pure, Except.pure]
    · rw [hlength]
      simp only [KasplexBlockExecutor.commitTransaction, List.length_append, List.length_singleton]
      omega

end Creations

/-- A creation that its sender's balance, less the gas, does not cover does not
use its nonce: once accepted, the same signed transaction is accepted again
right after, any number of times, each time with a receipt. -/
theorem unpaid_creation_repeats (revm : Revm) (funds : OutOfFunds revm) (ex : KasplexBlockExecutor)
    (tx : Recovered) (readable : Readable ex.db)
    (unpayable : Unpayable ex.evmEnv (TxEnv.fromRecoveredTx tx) ex.db)
    (price : ex.evmEnv.blockEnv.basefee.toNat ≤
      (effectiveGasPrice ex.evmEnv (TxEnv.fromRecoveredTx tx)).toNat)
    (accepted : (executeTransactionWithoutCommit (transact revm) ex tx).isOk = true) (k : Nat) :
    ∃ outputs last, executeAll (transact revm) ex (List.replicate k tx) = .ok (outputs, last) ∧
      last.receipts.length = ex.receipts.length + k ∧
      (last.db.account tx.signer).nonce = (ex.db.account tx.signer).nonce := by
  obtain ⟨output, haccepted⟩ := exists_of_isOk accepted
  obtain ⟨charged, _, _, _, _, hvalid, hc, -⟩ := transact_eq_ok (mapError_eq_ok haccepted)
  obtain ⟨spending, hfits⟩ := deductCaller_fits hc
  have hchecked := (deductCaller_account hc).1
  have hstart : Repeatable ex.evmEnv (TxEnv.fromRecoveredTx tx) (ex.db.account tx.signer) ex.db :=
    ⟨readable, unpayable, rfl, rfl⟩
  exact hstart.run funds hvalid hchecked hfits price k rfl

section Samples

def intrinsicGas (tx : TxEnv) : U64 := if tx.kind.isCall then 21000 else 53000

/-- Transfers without value, and creations without code: one that the sender can
pay bumps the nonce, one that he cannot ends out of funds. -/
def creatingEvm : Revm where
  validateEnv := fun env tx =>
    if tx.gasLimit < intrinsicGas tx then .error (.other "call gas cost exceeds the gas limit")
    else transferEvm.validateEnv env tx
  validateAccountNonceAndCode := transferEvm.validateAccountNonceAndCode
  execution := fun _ tx j =>
    let gas : Gas := ⟨tx.gasLimit, tx.gasLimit - intrinsicGas tx, 0⟩
    if tx.kind.isCall then .ok (⟨gas, true, [], []⟩, j)
    else if j.balances tx.caller < tx.value.toNat then .ok (⟨gas, false, [], []⟩, j)
    else .ok (⟨gas, true, [], []⟩, j.setAccount tx.caller (bumpNonce (j.account tx.caller)))

theorem wellFormed_of_used {limit used : U64} (h : used ≤ limit) :
    Gas.WellFormed ⟨limit, limit - used, 0⟩ limit := by
  have hle := BitVec.le_def.mp h
  have hrem := toNat_sub_of_le hle
  have hspent : (Gas.spent ⟨limit, limit - used, 0⟩).toNat = used.toNat := by
    change (limit - (limit - used)).toNat = used.toNat
    rw [toNat_sub_of_le (by omega), hrem, Nat.sub_sub_self hle]
  refine ⟨rfl, ?_, Int.le_refl 0, ?_⟩
  · rw [hspent]
    change used.toNat + (limit - used).toNat = limit.toNat
    omega
  · exact Int.natCast_nonneg _

theorem creatingEvm_outOfFunds : OutOfFunds creatingEvm where
  fails := by
    intro env tx j hkind hshort hvalid
    have henough : intrinsicGas tx ≤ tx.gasLimit := by
      by_contra hlow
      have hlt : tx.gasLimit < intrinsicGas tx := BitVec.not_le.mp hlow
      simp only [creatingEvm, if_pos hlt] at hvalid
      cases hvalid
    refine ⟨⟨⟨tx.gasLimit, tx.gasLimit - intrinsicGas tx, 0⟩, false, [], []⟩, j, ?_, rfl, rfl,
      wellFormed_of_used henough⟩
    simp only [creatingEvm, hkind, TxKind.isCall, if_pos hshort]
    rfl
  reads := by
    intro account account' tx cfg hnonce hcode
    simp only [creatingEvm, transferEvm, hnonce, hcode]

theorem creatingEvm_keepsDatabase : KeepsDatabase creatingEvm := by
  intro env tx j frame j' h
  simp only [creatingEvm] at h
  split at h
  · cases h
    rfl
  · split at h
    · cases h
      rfl
    · cases h
      rfl

theorem creatingEvm_nonceRules : NonceRules creatingEvm where
  checked := by
    intro account tx cfg hcheck hok
    simp only [creatingEvm, transferEvm, hcheck, Bool.false_eq_true, if_false] at hok
    split at hok
    · cases hok
    · rename_i hcode
      split at hok
      · cases hok
      · rename_i hhigh
        split at hok
        · cases hok
        · rename_i hlow
          refine ⟨?_, Or.inl (not_not.mp hcode)⟩
          exact BitVec.le_antisymm (BitVec.not_lt.mp hlow) (BitVec.not_lt.mp hhigh)
  kept := by
    intro env tx j frame j' h a hsend hpos
    simp only [creatingEvm] at h
    split at h
    · cases h
      exact ⟨hsend, le_refl _⟩
    · split at h
      · cases h
        exact ⟨hsend, le_refl _⟩
      · cases h
        rw [Journal.setAccount_account]
        by_cases ha : a = tx.caller
        · subst ha
          rw [Function.update_self]
          exact ⟨hsend, (bumpNonce_nonce _).1⟩
        · rw [Function.update_of_ne ha]
          exact ⟨hsend, le_refl _⟩
  created := by
    intro env tx j frame j' hkind h hvalue hsend hroom
    simp only [creatingEvm, hkind, TxKind.isCall, if_neg (Nat.not_lt.mpr hvalue)] at h
    cases h
    rw [Journal.setAccount_account, Function.update_self]
    have hbump := (bumpNonce_nonce (j.account tx.caller)).2 hroom
    exact ⟨hsend, by omega⟩

def creatingBackend : Backend := { sampleBackend with transact := transact creatingEvm }

theorem nonces_increase_along_chain_transfers :
    ∃ results last,
      importChain creatingBackend sampleConfig (oneHolder sampleSigner 1000000000000000000)
        transferBlocks = .ok (results, last) ∧
      (((transferBlocks.flatMap RecoveredBlock.recoveredTransactions).filter isSpentCall).map
        fun r => (r.signer, r.tx.nonce)).Nodup := by
  obtain ⟨⟨results, last⟩, imported⟩ := exists_of_isOk (show (importChain creatingBackend
    sampleConfig (oneHolder sampleSigner 1000000000000000000) transferBlocks).isOk = true by
      decide +kernel)
  have system : LeavesSenders creatingBackend.system :=
    fun ex pre hpre a _ => congrFun (sampleSystem_account hpre) a
  obtain ⟨-, -, -, -, hnodup⟩ := nonces_increase_along_chain creatingEvm creatingEvm_nonceRules
    creatingEvm_keepsDatabase creatingBackend rfl system sampleConfig (fun _ => rfl) _ last
    transferBlocks results imported
  exact ⟨results, last, imported, hnodup⟩

/-- A creation with a value of two ether, from an account that holds one. -/
def unpaidCreation : Recovered :=
  ⟨{ transfer0 with kind := .create, value := 2000000000000000000, gasLimit := 100000 },
    sampleSigner⟩

theorem unpaid_creation_repeats_thrice :
    ∃ outputs last,
      executeAll (transact creatingEvm) (sampleExecutor 30000000)
        [unpaidCreation, unpaidCreation, unpaidCreation] = .ok (outputs, last) ∧
      last.receipts.length = 3 ∧ (last.db.account sampleSigner).nonce = 0 := by
  have hlength : (sampleExecutor 30000000).receipts.length = 0 := by
    rw [sampleExecutor]
    rfl
  have hnonce : ((sampleExecutor 30000000).db.account sampleSigner).nonce = 0 := by
    rw [sampleExecutor]
    rfl
  have h := unpaid_creation_repeats creatingEvm creatingEvm_outOfFunds (sampleExecutor 30000000)
    unpaidCreation (fun _ => rfl) ⟨rfl, by decide +kernel⟩ (by decide +kernel) (by decide +kernel) 3
  rw [hlength] at h
  have hsigner : unpaidCreation.signer = sampleSigner := rfl
  rw [hsigner, hnonce] at h
  exact h

end Samples

end NonceOrder
