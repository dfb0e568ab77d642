import Kasplex.PayloadBuilder

/-!
# Cancelled builds

A job is cancelled from outside while its build runs, and the build looks at the
flag before each transaction. Whatever the flag shows at the turns of the loop,
the build comes to one of two ends: it stops at a turn it reaches and leaves
nothing behind, or it is the build that nobody cancels.
-/

namespace CancelledBuilds

open Primitives MachineArith EvmState ChainSpec FeeHandler BlockExecutor EvmConfig
  PayloadAttributes PayloadBuilder SubmissionNumbers

def never (_turn : Nat) : Bool := false

section Loop

variable {transact : Transact} {baseFee : U64} {mapping : TxMapping} {cancel : Nat → Bool}

/-- What a turn that is not cancelled leads to. -/
def turnOf (transact : Transact) (baseFee : U64) (mapping : TxMapping) (st : LoopState)
    (tx : Recovered) : Except (Fault PayloadBuilderError) LoopState :=
  match executionLoop transact baseFee mapping never 0 st [tx] with
  | .ok (some st') => .ok st'
  | .ok none => .ok st
  | .error fault => .error fault

/-- It does not depend on the schedule, and the loop goes on from there. -/
theorem executionLoop_going {turn : Nat} (going : cancel turn = false) (st : LoopState)
    (tx : Recovered) (rest : List Recovered) :
    executionLoop transact baseFee mapping cancel turn st (tx :: rest) =
      (turnOf transact baseFee mapping st tx).bind fun st' =>
        executionLoop transact baseFee mapping cancel (turn + 1) st' rest := by
  have hgoing : ¬ cancel turn = true := Bool.eq_false_iff.mp going
  have hnever : ¬ never 0 = true := Bool.false_ne_true
  unfold turnOf
  rw [executionLoop, executionLoop, if_neg hgoing, if_neg hnever]
  cases hx : st.builder.executeTransaction transact tx with
  | ok taken =>
    cases tx.tx.effectiveTipPerGas baseFee with
    | none => rfl
    | some tip => rfl
  | error err =>
    cases err with
    | internal e => rfl
    | validation e => cases e <;> rfl

theorem executionLoop_stops {turn : Nat} (stops : cancel turn = true) (st : LoopState)
    (tx : Recovered) (rest : List Recovered) :
    executionLoop transact baseFee mapping cancel turn st (tx :: rest) = .ok none := by
  rw [executionLoop, if_pos stops]
  rfl

/-- The loop stops at the first turn that it reaches and finds cancelled. -/
theorem executionLoop_cancelled_iff (turn : Nat) (st : LoopState) (txs : List Recovered) :
    executionLoop transact baseFee mapping cancel turn st txs = .ok none ↔
      ∃ k < txs.length, cancel (turn + k) = true ∧
        ∃ last, executionLoop transact baseFee mapping never turn st (txs.take k) =
          .ok (some last) := by
  induction txs generalizing turn st with
  | nil =>
    constructor
    · intro h
      cases h
    · rintro ⟨k, hk, -⟩
      cases hk
  | cons tx rest ih =>
    by_cases hcancel : cancel turn = true
    · rw [executionLoop_stops hcancel]
      refine iff_of_true rfl ⟨0, Nat.succ_pos _, hcancel, st, rfl⟩
    · have hgoing : cancel turn = false := Bool.eq_false_iff.mpr hcancel
      have hnever : never turn = false := rfl
      rw [executionLoop_going hgoing]
      constructor
      · intro h
        obtain ⟨st', hturn, h⟩ := bind_eq_ok h
        obtain ⟨k, hk, hstop, last, hlast⟩ := (ih _ _).mp h
        refine ⟨k + 1, Nat.succ_lt_succ hk, ?_, last, ?_⟩
        · rw [← hstop]
          congr 1
          omega
        · rw [List.take_succ_cons, executionLoop_going hnever, hturn]
          exact hlast
      · rintro ⟨k, hk, hstop, last, hlast⟩
        cases k with
        | zero => exact absurd hstop hcancel
        | succ k =>
          rw [List.take_succ_cons, executionLoop_going hnever] at hlast
          obtain ⟨st', hturn, hlast⟩ := bind_eq_ok hlast
          rw [hturn]
          refine (ih _ _).mpr ⟨k, Nat.lt_of_succ_lt_succ hk, ?_, last, hlast⟩
          rw [← hstop]
          congr 1
          omega

/-- A loop that is not stopped is the loop that nobody cancels. -/
theorem executionLoop_never (turn : Nat) (st : LoopState) (txs : List Recovered)
    (runs : executionLoop transact baseFee mapping cancel turn st txs ≠ .ok none) :
    executionLoop transact baseFee mapping cancel turn st txs =
      executionLoop transact baseFee mapping never turn st txs := by
  induction txs generalizing turn st with
  | nil => rfl
  | cons tx rest ih =>
    by_cases hcancel : cancel turn = true
    · exact absurd (executionLoop_stops hcancel st tx rest) runs
    · have hgoing : cancel turn = false := Bool.eq_false_iff.mpr hcancel
      rw [executionLoop_going hgoing] at runs ⊢
      rw [executionLoop_going rfl]
      cases hturn : turnOf transact baseFee mapping st tx with
      | error fault => rfl
      | ok st' =>
        rw [hturn] at runs
        exact ih _ _ runs

end Loop

/-- The build gets to the turn of the loop with this number when nobody cancels
it before. -/
def ReachesTurn (backend : Backend) (config : KasplexEvmConfig) (mapping : TxMapping)
    (args : BuildArguments) (k : Nat) : Prop :=
  ∃ db baseFee pre last, backend.stateByBlockHash args.parentHeader.hash = .ok db ∧
    baseFee.toNat = args.attributes.baseFeePerGas.toNat ∧
    (KasplexBlockExecutor.new (buildEnv backend config.chainSpec args baseFee) db (buildCtx args)
      config.chainSpec).applyPreExecutionChanges backend.system = .ok pre ∧
    executionLoop backend.transact baseFee mapping never 0 ⟨⟨pre, []⟩, 0, []⟩
      (args.attributes.transactions.take k) = .ok (some last)

/-- A turn that is reached finds the job cancelled. -/
def StopsAtTurn (backend : Backend) (config : KasplexEvmConfig) (mapping : TxMapping)
    (args : BuildArguments) : Prop :=
  ∃ k < args.attributes.transactions.length, args.cancel k = true ∧
    ReachesTurn backend config mapping args k

section Builds

variable {backend : Backend} {spec : KasplexChainSpec} {mapping : TxMapping}
  {args : BuildArguments} {db : Database} {baseFee : U64} {evmEnv : EvmEnv}
  {ctx : KasplexBlockExecutionCtx}

theorem buildBlock_cancelled_iff :
    buildBlock backend spec mapping args db baseFee evmEnv ctx = .ok none ↔
      ∃ pre, (KasplexBlockExecutor.new evmEnv db ctx spec).applyPreExecutionChanges
          backend.system = .ok pre ∧
        executionLoop backend.transact baseFee mapping args.cancel 0 ⟨⟨pre, []⟩, 0, []⟩
          args.attributes.transactions = .ok none := by
  constructor
  · intro h
    obtain ⟨pre, hpre, h⟩ := bind_eq_ok h
    obtain ⟨loop, hloop, h⟩ := bind_eq_ok h
    cases loop with
    | none => exact ⟨pre, mapError_eq_ok hpre, hloop⟩
    | some st =>
      obtain ⟨outcome, -, h⟩ := bind_eq_ok h
      cases h
  · rintro ⟨pre, hpre, hloop⟩
    simp only [buildBlock, hpre, hloop, Except.mapError, bind, Except.bind, pure, Except.pure]

theorem buildBlock_never
    (runs : buildBlock backend spec mapping args db baseFee evmEnv ctx ≠ .ok none) :
    buildBlock backend spec mapping args db baseFee evmEnv ctx =
      buildBlock backend spec mapping { args with cancel := never } db baseFee evmEnv ctx := by
  cases hpre : (KasplexBlockExecutor.new evmEnv db ctx spec).applyPreExecutionChanges
    backend.system with
  | error fault =>
    unfold buildBlock
    rw [hpre]
    rfl
  | ok pre =>
    have hloop := executionLoop_never 0 ⟨⟨pre, []⟩, 0, []⟩ args.attributes.transactions
      fun hnone => runs (buildBlock_cancelled_iff.mpr ⟨pre, hpre, hnone⟩)
    simp only [buildBlock, hpre, hloop, Except.mapError, bind, Except.bind]

variable {config : KasplexEvmConfig}

/-- A build in a known state, with a fee in range, under any schedule. -/
theorem kasplexPayload_eq (config : KasplexEvmConfig) (mapping : TxMapping)
    (state : backend.stateByBlockHash args.parentHeader.hash = .ok db)
    (fee : baseFee.toNat = args.attributes.baseFeePerGas.toNat) (cancel : Nat → Bool) :
    kasplexPayload backend config mapping { args with cancel } =
      ((buildBlock backend config.chainSpec mapping { args with cancel } db baseFee
        (buildEnv backend config.chainSpec args baseFee) (buildCtx args)).map
          (freezeBlock mapping args),
        config.clearNextBlockExtraData.clearNextBlockBaseFeePerGas) := by
  have hfee : (narrowOrPanic 64 args.attributes.baseFeePerGas :
      Except (Fault PayloadBuilderError) U64) = .ok baseFee := narrowOrPanic_eq_ok_iff.mpr fee
  simp only [kasplexPayload, state, hfee, Except.mapError]
  rfl

theorem stopsAtTurn_iff (state : backend.stateByBlockHash args.parentHeader.hash = .ok db)
    (fee : baseFee.toNat = args.attributes.baseFeePerGas.toNat) :
    StopsAtTurn backend config mapping args ↔
      buildBlock backend config.chainSpec mapping args db baseFee
        (buildEnv backend config.chainSpec args baseFee) (buildCtx args) = .ok none := by
  rw [buildBlock_cancelled_iff]
  constructor
  · rintro ⟨k, hk, hcancel, db', baseFee', pre, last, hstate, hfee, hpre, hlast⟩
    cases state.symm.trans hstate
    cases BitVec.eq_of_toNat_eq (fee.trans hfee.symm)
    refine ⟨pre, hpre, (executionLoop_cancelled_iff _ _ _).mpr ⟨k, hk, ?_, last, hlast⟩⟩
    rw [Nat.zero_add]
    exact hcancel
  · rintro ⟨pre, hpre, hloop⟩
    obtain ⟨k, hk, hcancel, last, hlast⟩ := (executionLoop_cancelled_iff _ _ _).mp hloop
    rw [Nat.zero_add] at hcancel
    exact ⟨k, hk, hcancel, db, baseFee, pre, last, state, fee, hpre, hlast⟩

end Builds

/-- Every schedule of cancellations has one of two outcomes. If a turn that is
reached finds the job cancelled, the build is cancelled, no number is stored and
the cells are clear. Otherwise the build is the one that nobody cancels. -/
theorem cancelled_build_exact (backend : Backend) (config : KasplexEvmConfig)
    (mapping : TxMapping) (args : BuildArguments) :
    (StopsAtTurn backend config mapping args ∧
      kasplexPayload backend config mapping args =
        (.ok (.cancelled, mapping),
          config.clearNextBlockExtraData.clearNextBlockBaseFeePerGas)) ∨
    (¬ StopsAtTurn backend config mapping args ∧
      kasplexPayload backend config mapping args =
        kasplexPayload backend config mapping { args with cancel := never }) := by
  cases hdb : backend.stateByBlockHash args.parentHeader.hash with
  | error err =>
    refine Or.inr ⟨?_, by simp only [kasplexPayload, hdb, Except.mapError]⟩
    rintro ⟨k, -, -, db, _, _, _, hstate, -⟩
    cases hdb.symm.trans hstate
  | ok db =>
    cases hfee : (narrowOrPanic 64 args.attributes.baseFeePerGas :
      Except (Fault PayloadBuilderError) U64) with
    | error fault =>
      refine Or.inr ⟨?_, by simp only [kasplexPayload, hdb, hfee, Except.mapError]⟩
      rintro ⟨k, -, -, _, baseFee, _, _, -, hbaseFee, -⟩
      cases hfee.symm.trans (narrowOrPanic_eq_ok_iff.mpr hbaseFee)
    | ok baseFee =>
      have fee := narrowOrPanic_eq_ok_iff.mp hfee
      rw [stopsAtTurn_iff hdb fee, kasplexPayload_eq config mapping hdb fee never]
      have hcall := kasplexPayload_eq config mapping hdb fee args.cancel
      by_cases hstop : buildBlock backend config.chainSpec mapping args db baseFee
          (buildEnv backend config.chainSpec args baseFee) (buildCtx args) = .ok none
      · refine Or.inl ⟨hstop, hcall.trans ?_⟩
        rw [hstop]
        rfl
      · refine Or.inr ⟨hstop, hcall.trans ?_⟩
        rw [buildBlock_never hstop]

end CancelledBuilds
