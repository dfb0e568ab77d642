import Kasplex.LedgerRuns
import Kasplex.UnfundedCallers

/-!
# Coins along a chain

Every turn moves the total of all balances by the part of the gas cost that its
sender did not have, so a chain keeps the total exactly when all its senders
could pay for their gas. The treasury collects the base fee of all gas used.
-/

namespace Supply

open Primitives MachineArith EvmState ChainSpec FeeHandler BlockExecutor EvmConfig
  PayloadAttributes PayloadBuilder BuiltBlocks Paths LedgerRuns

/-- The environment check refuses a price below the base fee. -/
def ChecksPrice (revm : Revm) : Prop :=
  ∀ env tx, revm.validateEnv env tx = .ok () →
    env.blockEnv.basefee.toNat ≤ (effectiveGasPrice env tx).toNat

/-- The system calls move no balance. -/
def MovesNothing (system : SystemCaller) : Prop :=
  ∀ (ex pre : KasplexBlockExecutor), ex.applyPreExecutionChanges system = .ok pre →
    balances pre.db = balances ex.db

/-- The part of the gas cost that the sender did not have. -/
def shortfall (t : Turn) : Nat := gasCost t.env t.txEnv - balances t.db t.tx.signer

/-- The execution of the turn neither mints nor burns. -/
def KeepsTotal (revm : Revm) (t : Turn) : Prop :=
  ∀ charged frame executed,
    validateAgainstStateAndDeductCaller revm t.env t.txEnv (Journal.new t.db) = .ok charged →
    revm.execution t.env t.txEnv charged = .ok (frame, executed) →
      Ledger.total executed.balances = Ledger.total charged.balances

/-- The execution of the turn does not mint; it may burn. -/
def MintsNothing (revm : Revm) (t : Turn) : Prop :=
  ∀ charged frame executed,
    validateAgainstStateAndDeductCaller revm t.env t.txEnv (Journal.new t.db) = .ok charged →
    revm.execution t.env t.txEnv charged = .ok (frame, executed) →
      Ledger.total executed.balances ≤ Ledger.total charged.balances

theorem KeepsTotal.mintsNothing {revm : Revm} {t : Turn} (h : KeepsTotal revm t) :
    MintsNothing revm t :=
  fun charged frame executed hc hx => (h charged frame executed hc hx).le

/-- The base fee of the gas that the turn used. -/
def baseFeePaid (t : Turn) : Nat := t.env.blockEnv.basefee.toNat * t.output.result.gasUsed.toNat

theorem opened_balances {system : SystemCaller} (moves : MovesNothing system) {env : EvmEnv}
    {ctx : KasplexBlockExecutionCtx} {spec : KasplexChainSpec} {db : Database}
    {pre : KasplexBlockExecutor}
    (h : (KasplexBlockExecutor.new env db ctx spec).applyPreExecutionChanges system = .ok pre) :
    balances pre.db = balances db :=
  moves _ _ h

/-- What an event adds, when openings add nothing. -/
def gain (f : Turn → Nat) (e : LedgerEvent) : Nat := (e.turn?.map f).getD 0

@[simp] theorem gain_opened (f : Turn → Nat) (env : EvmEnv) (ctx : KasplexBlockExecutionCtx) :
    gain f (.opened env ctx) = 0 := rfl

@[simp] theorem gain_executed (f : Turn → Nat) (t : Turn) : gain f (.executed t) = f t := rfl

theorem sum_gain (f : Turn → Nat) (events : List LedgerEvent) :
    (events.map (gain f)).sum = ((turns events).map f).sum := by
  induction events with
  | nil => rfl
  | cons e events ih =>
    cases e with
    | opened env ctx =>
      rw [List.map_cons, List.sum_cons, ih, turns_opened, gain_opened, Nat.zero_add]
    | executed t =>
      rw [List.map_cons, List.sum_cons, ih, turns_executed, gain_executed, List.map_cons,
        List.sum_cons]

section Turns

variable {revm : Revm} (metered : revm.Metered) (prices : ChecksPrice revm)
  (keeps : KeepsDatabase revm) {t : Turn}
  (accepted : transact revm t.env t.txEnv t.db = .ok t.output)
  (mints : MintsNothing revm t)
  (room : Ledger.total (balances t.db) + shortfall t < 2 ^ 256)
include metered prices keeps accepted mints room

/-- The balances after a turn: the execution's, with the refund, the tip and the
base fee credited. What the execution burned is missing from the total. -/
theorem turn_balances :
    ∃ charged frame executed refund tip,
      validateAgainstStateAndDeductCaller revm t.env t.txEnv (Journal.new t.db) = .ok charged ∧
      revm.execution t.env t.txEnv charged = .ok (frame, executed) ∧
      balances (t.db.commit t.output.state) =
        Ledger.credit (Ledger.credit (Ledger.credit executed.balances t.tx.signer refund)
          t.env.blockEnv.beneficiary tip)
          (getTreasuryAddress t.env.cfgEnv.chainId) (baseFeePaid t) ∧
      Ledger.total (balances (t.db.commit t.output.state)) + Ledger.total charged.balances =
        Ledger.total (balances t.db) + shortfall t + Ledger.total executed.balances := by
  obtain ⟨charged, frame, executed, reimbursed, rewarded, hv, hc, hx, hr, hw, haccount, hgas,
    hused⟩ := transact_commit keeps accepted
  have hwell := metered _ _ _ _ _ hv hx
  obtain ⟨hreimbursed, hrewarded, htotal⟩ :=
    fee_phases_balances hc (prices _ _ hv) hwell room (mints charged frame executed hc hx) hr hw
  have hafter : balances (t.db.commit t.output.state) = rewarded.balances := by
    funext a
    exact congrArg (fun account : Account => account.balance.toNat) (congrFun haccount a)
  have hunits : frame.gas.spent.toNat - frame.gas.refunded.toNat =
      t.output.result.gasUsed.toNat := by
    rw [hused, toNat_saturatingSub]
  rw [hreimbursed, hunits] at hrewarded
  rw [hafter]
  exact ⟨charged, frame, executed, _, _, hc, hx, hrewarded, htotal⟩

theorem turn_total_le :
    Ledger.total (balances (t.db.commit t.output.state)) ≤
      Ledger.total (balances t.db) + shortfall t := by
  obtain ⟨charged, frame, executed, _, _, hc, hx, -, htotal⟩ :=
    turn_balances metered prices keeps accepted mints room
  have hless := mints charged frame executed hc hx
  omega

theorem turn_total (total : KeepsTotal revm t) :
    Ledger.total (balances (t.db.commit t.output.state)) =
      Ledger.total (balances t.db) + shortfall t := by
  obtain ⟨charged, frame, executed, _, _, hc, hx, -, hafter⟩ :=
    turn_balances metered prices keeps accepted mints room
  have hsame := total charged frame executed hc hx
  omega

end Turns

section Chains

variable {revm : Revm} {backend : Backend} {spec : KasplexChainSpec} {envs : EvmEnv → Prop}
  (metered : revm.Metered) (prices : ChecksPrice revm) (keeps : KeepsDatabase revm)
  (handler : backend.transact = transact revm) (system : MovesNothing backend.system)
  {db last : Database} {events : List LedgerEvent}
  (path : Path (LedgerStep backend spec envs) db events last)
  (room : Ledger.total (balances db) + ((turns events).map shortfall).sum < 2 ^ 256)

/-- What holds of every turn holds of the turn of every event. -/
theorem forall_event {P : Turn → Prop} (all : ∀ t ∈ turns events, P t) :
    ∀ e ∈ events, ∀ t, e.turn? = some t → P t := by
  intro e he t ht
  exact all t (List.mem_filterMap.mpr ⟨e, he, ht⟩)

include metered prices keeps handler system path room

/-- The events of a path, each with the room its turn has. -/
theorem path_room (mints : ∀ t ∈ turns events, MintsNothing revm t) :
    Path (fun db e db' => (LedgerStep backend spec envs db e db' ∧
        ∀ t, e.turn? = some t → MintsNothing revm t) ∧
      Ledger.total (balances db) + gain shortfall e < 2 ^ 256) db events last := by
  rw [← sum_gain] at room
  refine ((path.and_forall (forall_event mints)).measure_le
    (m := fun db => Ledger.total (balances db)) ?_ room).2
  rintro db e db' ⟨hstep, hmints⟩ hroom
  cases hstep with
  | opened _ hpre =>
    rw [opened_balances system hpre, gain_opened, Nat.add_zero]
  | executed _ hok =>
    rw [handler] at hok
    exact turn_total_le metered prices keeps hok (hmints _ rfl) hroom

/-- Where nothing is minted or burned, the shortfalls are all that is added. -/
theorem path_total (total : ∀ t ∈ turns events, KeepsTotal revm t) :
    Ledger.total (balances last) =
      Ledger.total (balances db) + ((turns events).map shortfall).sum := by
  have hpath := path_room metered prices keeps handler system path room
    fun t ht => (total t ht).mintsNothing
  rw [← sum_gain]
  refine (hpath.and_forall (forall_event total)).measure_eq
    (m := fun db => Ledger.total (balances db)) ?_
  rintro db e db' ⟨⟨⟨hstep, hmints⟩, hroom⟩, htotal⟩
  cases hstep with
  | opened _ hpre =>
    rw [opened_balances system hpre, gain_opened, Nat.add_zero]
  | executed _ hok =>
    rw [handler] at hok
    exact turn_total metered prices keeps hok (hmints _ rfl) hroom (htotal _ rfl)

end Chains

/-- Along every chain of blocks whose executions neither mint nor burn, as long as
the total stays below `2 ^ 256`, it grows by what senders were short of for their
gas: it is kept exactly when every sender, at his turn, had the cost of his gas. -/
theorem supply_along_chain (revm : Revm) (metered : revm.Metered) (prices : ChecksPrice revm)
    (keeps : KeepsDatabase revm) (backend : Backend) (handler : backend.transact = transact revm)
    (system : MovesNothing backend.system) (config : KasplexEvmConfig) (db last : Database)
    (blocks : List RecoveredBlock) (results : List BlockExecutionResult)
    (imported : importChain backend config db blocks = .ok (results, last)) :
    ∃ events,
      Path (LedgerStep backend config.chainSpec (HeaderEnv backend config)) db events last ∧
      (turns events).map Turn.tx = blocks.flatMap RecoveredBlock.recoveredTransactions ∧
      ((∀ t ∈ turns events, KeepsTotal revm t) →
        Ledger.total (balances db) + ((turns events).map shortfall).sum < 2 ^ 256 →
          Ledger.total (balances last) =
              Ledger.total (balances db) + ((turns events).map shortfall).sum ∧
            (Ledger.total (balances last) = Ledger.total (balances db) ↔
              ∀ t ∈ turns events, gasCost t.env t.txEnv ≤ balances t.db t.tx.signer)) := by
  obtain ⟨events, path, hturns⟩ := importChain_path imported
  refine ⟨events, path, hturns, ?_⟩
  intro total room
  have htotal := path_total metered prices keeps handler system path room total
  refine ⟨htotal, ?_⟩
  have hsum : ((turns events).map shortfall).sum = 0 ↔
      ∀ t ∈ turns events, gasCost t.env t.txEnv ≤ balances t.db t.tx.signer := by
    rw [List.sum_eq_zero_iff]
    simp only [List.forall_mem_map, shortfall, Nat.sub_eq_zero_iff_le]
  rw [← hsum, htotal]
  omega

section Samples

theorem transferEvm_checksPrice : ChecksPrice transferEvm := by
  intro env tx h
  have hbase : (env.blockEnv.basefee.setWidth 128).toNat = env.blockEnv.basefee.toNat :=
    toNat_setWidth_of_le (by decide) _
  have hprice : env.blockEnv.basefee.toNat ≤ tx.gasPrice.toNat := by
    simp only [transferEvm] at h
    split at h
    · cases h
    · split at h
      · cases h
      · split at h
        · cases h
        · rename_i hlow
          rw [← hbase]
          exact BitVec.le_def.mp (BitVec.not_lt.mp hlow)
  unfold effectiveGasPrice
  cases hflat : tx.isFlat with
  | true => rwa [effectiveGasPrice_of_flat _ hflat]
  | false =>
    cases hpriority : tx.gasPriorityFee with
    | none => rwa [effectiveGasPrice_of_none _ hpriority]
    | some priority =>
      rw [effectiveGasPrice_of_some _ hflat hpriority, hbase]
      have hlimit := env.blockEnv.basefee.isLt
      omega

theorem transferEvm_keepsDatabase : KeepsDatabase transferEvm := by
  intro env tx j frame j' h
  cases h
  rfl

theorem transferEvm_keepsTotal (t : Turn) : KeepsTotal transferEvm t := by
  intro charged frame executed _ h
  cases h
  rfl

theorem sampleSystem_movesNothing : MovesNothing sampleSystem := by
  intro ex pre h
  unfold balances
  rw [sampleSystem_account h]

/-- Nobody is short of more than the gas limit at the fee cap. -/
theorem shortfall_le (t : Turn) :
    shortfall t ≤ t.tx.tx.gasLimit.toNat * t.tx.tx.fees.maxFeePerGas.toNat :=
  (Nat.sub_le _ _).trans
    (Nat.mul_le_mul_left _ (UnfundedCallers.effectiveGasPrice_le t.env t.txEnv))

theorem transferBlocks_room {events : List LedgerEvent}
    (txs : (turns events).map Turn.tx =
      transferBlocks.flatMap RecoveredBlock.recoveredTransactions) :
    Ledger.total (balances (oneHolder sampleSigner 1000000000000000000)) +
      ((turns events).map shortfall).sum < 2 ^ 256 := by
  have hsupply : Ledger.total (balances (oneHolder sampleSigner 1000000000000000000)) =
      1000000000000000000 := oneHolder_total _ _
  have hbound : ((turns events).map shortfall).sum ≤
      (((turns events).map Turn.tx).map fun r =>
        r.tx.gasLimit.toNat * r.tx.fees.maxFeePerGas.toNat).sum := by
    rw [List.map_map]
    exact List.sum_le_sum fun t _ => shortfall_le t
  have hcosts : ((transferBlocks.flatMap RecoveredBlock.recoveredTransactions).map fun r =>
      r.tx.gasLimit.toNat * r.tx.fees.maxFeePerGas.toNat).sum = 240000000000000000 := by
    decide +kernel
  rw [txs, hcosts] at hbound
  rw [hsupply]
  omega

theorem transferBlocks_imported :
    ∃ results last, importChain sampleBackend sampleConfig
      (oneHolder sampleSigner 1000000000000000000) transferBlocks = .ok (results, last) := by
  obtain ⟨⟨results, last⟩, imported⟩ := exists_of_isOk (show (importChain sampleBackend
    sampleConfig (oneHolder sampleSigner 1000000000000000000) transferBlocks).isOk = true by
      decide +kernel)
  exact ⟨results, last, imported⟩

end Samples

theorem supply_along_chain_transfers :
    ∃ results last events,
      importChain sampleBackend sampleConfig (oneHolder sampleSigner 1000000000000000000)
        transferBlocks = .ok (results, last) ∧
      Ledger.total (balances last) =
        Ledger.total (balances (oneHolder sampleSigner 1000000000000000000)) +
          ((turns events).map shortfall).sum := by
  obtain ⟨results, last, imported⟩ := transferBlocks_imported
  obtain ⟨events, -, htxs, h⟩ := supply_along_chain transferEvm transferEvm_metered
    transferEvm_checksPrice transferEvm_keepsDatabase sampleBackend rfl sampleSystem_movesNothing
    sampleConfig _ last transferBlocks results imported
  exact ⟨results, last, events, imported,
    (h (fun t _ => transferEvm_keepsTotal t) (transferBlocks_room htxs)).1⟩

end Supply
