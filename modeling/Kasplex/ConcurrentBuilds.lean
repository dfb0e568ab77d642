import Kasplex.PayloadBuilder

/-!
# Builds that share one config

Clones of the config share its two cells, and a build takes six steps on them:
it writes extra data and base fee, reads the environment and the context back,
and clears the two. Any number of builds may be interleaved step by step, and
other holders of a clone may derive a next-block environment in between. The
cells carry a build's parameters through only if nobody else writes a cell
between a build's own write and its read.
-/

namespace ConcurrentBuilds

open Primitives MachineArith EvmState ChainSpec FeeHandler BlockExecutor EvmConfig
  PayloadAttributes SubmissionNumbers PayloadBuilder
open KasplexBlockExecutor (executeAll offer)

abbrev BuildResult := Except (Fault PayloadBuilderError) (BuildOutcome × TxMapping)

/-- How far a build has come, with the local values it holds there. -/
inductive Phase where
  | waiting
  | extraDataSet (db : Database) (baseFee : U64)
  | baseFeeSet (db : Database) (baseFee : U64)
  | envRead (db : Database) (baseFee : U64) (env : EvmEnv)
  | ctxRead (db : Database) (baseFee : U64) (env : EvmEnv) (ctx : KasplexBlockExecutionCtx)
  | extraDataCleared (db : Database) (baseFee : U64) (env : EvmEnv)
      (ctx : KasplexBlockExecutionCtx)
  | baseFeeCleared (db : Database) (baseFee : U64) (env : EvmEnv)
      (ctx : KasplexBlockExecutionCtx)
  | finished (result : BuildResult)

/-- An environment derived outside of any build. -/
structure Observation where
  parent : Header
  attributes : NextBlockEnvAttributes
  env : EvmEnv
  deriving DecidableEq

structure State (ι : Type) where
  config : KasplexEvmConfig
  mapping : TxMapping
  phase : ι → Phase
  observed : List Observation

inductive Event (ι : Type) where
  | advance (call : ι)
  | nextEvmEnv (parent : Header) (attributes : NextBlockEnvAttributes)

variable {ι : Type} [DecidableEq ι]

def State.init (config : KasplexEvmConfig) (mapping : TxMapping) : State ι :=
  ⟨config, mapping, fun _ => .waiting, []⟩

def State.setPhase (s : State ι) (i : ι) (p : Phase) : State ι :=
  { s with phase := Function.update s.phase i p }

/-- The part of a build before it touches the cells. -/
def openState (backend : Backend) (args : BuildArguments) :
    Except (Fault PayloadBuilderError) (Database × U64) := do
  let db ← (backend.stateByBlockHash args.parentHeader.hash).mapError .error
  let baseFee ← narrowOrPanic 64 args.attributes.baseFeePerGas
  pure (db, baseFee)

/-- The next atomic step of one build. -/
def advance (backend : Backend) (args : BuildArguments) (s : State ι) (i : ι) : State ι :=
  match s.phase i with
  | .waiting =>
    match openState backend args with
    | .error err => s.setPhase i (.finished (.error err))
    | .ok (db, baseFee) =>
      { s.setPhase i (.extraDataSet db baseFee) with
        config := s.config.setNextBlockExtraData args.attributes.extraData }
  | .extraDataSet db baseFee =>
    { s.setPhase i (.baseFeeSet db baseFee) with
      config := s.config.setNextBlockBaseFeePerGas baseFee }
  | .baseFeeSet db baseFee =>
    s.setPhase i (.envRead db baseFee (s.config.nextEvmEnv backend.eth args.parentHeader.header
      (nextBlockEnvAttributes args.attributes)))
  | .envRead db baseFee env =>
    s.setPhase i (.ctxRead db baseFee env (s.config.contextForNextBlock args.parentHeader))
  | .ctxRead db baseFee env ctx =>
    { s.setPhase i (.extraDataCleared db baseFee env ctx) with
      config := s.config.clearNextBlockExtraData }
  | .extraDataCleared db baseFee env ctx =>
    { s.setPhase i (.baseFeeCleared db baseFee env ctx) with
      config := s.config.clearNextBlockBaseFeePerGas }
  | .baseFeeCleared db baseFee env ctx =>
    let result := (buildBlock backend s.config.chainSpec s.mapping args db baseFee env ctx).map
      (freezeBlock s.mapping args)
    { s.setPhase i (.finished result) with
      mapping := match result with
        | .ok (_, mapping) => mapping
        | .error _ => s.mapping }
  | .finished _ => s

def step (backend : Backend) (calls : ι → BuildArguments) (s : State ι) : Event ι → State ι
  | .advance i => advance backend (calls i) s i
  | .nextEvmEnv parent attributes =>
    { s with observed := s.observed ++
      [⟨parent, attributes, s.config.nextEvmEnv backend.eth parent attributes⟩] }

/-- Extra data written and not read back yet. -/
def Phase.awaitsContext : Phase → Bool
  | .extraDataSet _ _ | .baseFeeSet _ _ | .envRead _ _ _ => true
  | _ => false

/-- Base fee written and not read back yet. -/
def Phase.awaitsEnv : Phase → Bool
  | .baseFeeSet _ _ => true
  | _ => false

/-- The next step sets or clears the extra data. -/
def Phase.writesExtraData : Phase → Bool
  | .waiting | .ctxRead _ _ _ _ => true
  | _ => false

/-- The next step sets or clears the base fee. -/
def Phase.writesBaseFee : Phase → Bool
  | .extraDataSet _ _ | .extraDataCleared _ _ _ _ => true
  | _ => false

/-- The base fee written and not cleared again yet. -/
def Phase.holdsBaseFee : Phase → Bool
  | .baseFeeSet _ _ | .envRead _ _ _ | .ctxRead _ _ _ _ | .extraDataCleared _ _ _ _ => true
  | _ => false

/-- No build writes a cell that another one has written and not read back, and
outsiders look only while no base fee is set, as whenever no build is between
writing and clearing it (`outside_look_undisturbed`). -/
def Undisturbed (s : State ι) : Event ι → Prop
  | .advance i =>
    ((s.phase i).writesExtraData → ∀ j, j ≠ i → ¬ (s.phase j).awaitsContext) ∧
      ((s.phase i).writesBaseFee → ∀ j, j ≠ i → ¬ (s.phase j).awaitsEnv)
  | .nextEvmEnv _ _ => s.config.currentBaseFeePerGas = none

instance [Fintype ι] (s : State ι) : ∀ e, Decidable (Undisturbed s e)
  | .advance _ => inferInstanceAs (Decidable (_ ∧ _))
  | .nextEvmEnv _ _ => inferInstanceAs (Decidable (_ = _))

/-- What a finished build should have come to: a frozen block shows the call's
own parameters, and the tip is never missing. -/
def ResultKept (args : BuildArguments) (result : BuildResult) : Prop :=
  (∀ payload mapping, result = .ok (.freeze payload, mapping) →
    payload.block.block.header.extraData = args.attributes.extraData ∧
    ∃ fee, payload.block.block.header.baseFeePerGas = some fee ∧
      fee.toNat = args.attributes.baseFeePerGas.toNat) ∧
  result ≠ .error (.panic tipMessage)

/-- What holds of a build at each point: the cells have its parameters between
write and read, and what it has read is its own. -/
def PhaseKept (args : BuildArguments) (config : KasplexEvmConfig) : Phase → Prop
  | .waiting => True
  | .extraDataSet _ baseFee =>
    baseFee.toNat = args.attributes.baseFeePerGas.toNat ∧
      config.currentExtraData = some args.attributes.extraData
  | .baseFeeSet _ baseFee =>
    baseFee.toNat = args.attributes.baseFeePerGas.toNat ∧
      config.currentExtraData = some args.attributes.extraData ∧
      config.currentBaseFeePerGas = some baseFee
  | .envRead _ baseFee env =>
    baseFee.toNat = args.attributes.baseFeePerGas.toNat ∧
      config.currentExtraData = some args.attributes.extraData ∧ env.blockEnv.basefee = baseFee
  | .ctxRead _ baseFee env ctx | .extraDataCleared _ baseFee env ctx
  | .baseFeeCleared _ baseFee env ctx =>
    baseFee.toNat = args.attributes.baseFeePerGas.toNat ∧
      env.blockEnv.basefee = baseFee ∧ ctx.extraData = args.attributes.extraData
  | .finished result => ResultKept args result

/-- A build keeps its standing when the cells it still has to read are left
alone. -/
theorem PhaseKept.frame {args : BuildArguments} {config config' : KasplexEvmConfig} {p : Phase}
    (kept : PhaseKept args config p)
    (extra : p.awaitsContext → config'.currentExtraData = config.currentExtraData)
    (fee : p.awaitsEnv → config'.currentBaseFeePerGas = config.currentBaseFeePerGas) :
    PhaseKept args config' p := by
  cases p with
  | extraDataSet db baseFee => exact ⟨kept.1, (extra rfl).trans kept.2⟩
  | baseFeeSet db baseFee =>
    exact ⟨kept.1, (extra rfl).trans kept.2.1, (fee rfl).trans kept.2.2⟩
  | envRead db baseFee env => exact ⟨kept.1, (extra rfl).trans kept.2.1, kept.2.2⟩
  | waiting => exact kept
  | ctxRead db baseFee env ctx => exact kept
  | extraDataCleared db baseFee env ctx => exact kept
  | baseFeeCleared db baseFee env ctx => exact kept
  | finished result => exact kept

theorem openState_eq_ok {backend : Backend} {args : BuildArguments} {db : Database}
    {baseFee : U64} (h : openState backend args = .ok (db, baseFee)) :
    baseFee.toNat = args.attributes.baseFeePerGas.toNat := by
  obtain ⟨db', -, h⟩ := bind_eq_ok h
  obtain ⟨fee, hfee, h⟩ := bind_eq_ok h
  cases h
  exact narrowOrPanic_eq_ok_iff.mp hfee

theorem openState_eq_error {backend : Backend} {args : BuildArguments}
    {fault : Fault PayloadBuilderError} (h : openState backend args = .error fault) :
    fault ≠ .panic tipMessage := by
  rcases bind_eq_error h with h | ⟨db, -, h⟩
  · obtain ⟨err, -, rfl⟩ := mapError_eq_error h
    simp
  rcases bind_eq_error h with h | ⟨fee, -, h⟩
  · rw [narrowOrPanic_eq_error h]
    exact fun same => tipMessage_ne _ (Fault.panic.inj same).symm
  · cases h

/-- The price check of the EVM: an accepted transaction's cap covers the base
fee of the block. -/
def Priced (transact : Transact) : Prop :=
  ∀ env tx db output, transact env tx db = .ok output →
    env.blockEnv.basefee.toNat ≤ tx.gasPrice.toNat

theorem effectiveTipPerGas_isSome {tx : TransactionSigned} {baseFee : U64}
    (h : baseFee.toNat ≤ tx.fees.maxFeePerGas.toNat) :
    tx.effectiveTipPerGas baseFee ≠ none := by
  have hcap : ¬ tx.fees.maxFeePerGas < baseFee.setWidth 128 := by
    rw [BitVec.lt_def, toNat_setWidth_of_le (by decide)]
    omega
  unfold TransactionSigned.effectiveTipPerGas
  simp only [if_neg hcap]
  cases tx.fees.maxPriorityFeePerGas <;> simp

/-- A transaction the EVM has accepted has a tip over the base fee it was
accepted under. -/
theorem Priced.tip_isSome {transact : Transact} (priced : Priced transact) {env : EvmEnv}
    {tx : Recovered} {db : Database} {output : ResultAndState}
    (accepted : transact env (TxEnv.fromRecoveredTx tx) db = .ok output) :
    tx.tx.effectiveTipPerGas env.blockEnv.basefee ≠ none :=
  effectiveTipPerGas_isSome (priced env (TxEnv.fromRecoveredTx tx) db output accepted)

/-- A build that got its own environment and context ends as it should. -/
theorem buildBlock_resultKept {backend : Backend} (priced : Priced backend.transact)
    {spec : KasplexChainSpec} {mapping : TxMapping} {args : BuildArguments} {db : Database}
    {baseFee : U64} {env : EvmEnv} {ctx : KasplexBlockExecutionCtx}
    (fee : baseFee.toNat = args.attributes.baseFeePerGas.toNat)
    (envOwn : env.blockEnv.basefee = baseFee)
    (ctxOwn : ctx.extraData = args.attributes.extraData) :
    ResultKept args ((buildBlock backend spec mapping args db baseFee env ctx).map
      (freezeBlock mapping args)) := by
  constructor
  · intro payload mapping' h
    cases hbuild : buildBlock backend spec mapping args db baseFee env ctx with
    | error err => simp [hbuild, Except.map] at h
    | ok built =>
      cases built with
      | none => simp [hbuild, Except.map, freezeBlock] at h
      | some pair =>
        obtain ⟨last, outcome⟩ := pair
        simp only [hbuild, Except.map, freezeBlock, Except.ok.injEq, Prod.mk.injEq,
          BuildOutcome.freeze.injEq] at h
        obtain ⟨hextra, hfee⟩ := buildBlock_header hbuild
        rw [← h.1]
        exact ⟨hextra.trans ctxOwn, env.blockEnv.basefee, hfee, by rw [envOwn, fee]⟩
  · intro h
    cases hbuild : buildBlock backend spec mapping args db baseFee env ctx with
    | ok built => simp [hbuild, Except.map] at h
    | error err =>
      simp only [hbuild, Except.map, Except.error.injEq] at h
      subst h
      obtain ⟨tx, db', output, haccepted, hnone⟩ := buildBlock_panic hbuild
      rw [← envOwn] at hnone
      exact priced.tip_isSome haccepted hnone

/-- The invariant of undisturbed runs. -/
structure Kept (backend : Backend) (calls : ι → BuildArguments) (spec : KasplexChainSpec)
    (s : State ι) : Prop where
  chain : s.config.chainSpec = spec
  phases : ∀ i, PhaseKept (calls i) s.config (s.phase i)
  observed : ∀ o ∈ s.observed, o.env = backend.eth.nextEvmEnv spec o.parent o.attributes

section Step

variable {backend : Backend} {calls : ι → BuildArguments} {spec : KasplexChainSpec} {s : State ι}

/-- One build moves on under a new config: the others keep their standing if
the config agrees on the cells they await. -/
theorem setPhase_phases {i : ι} {p : Phase} {config' : KasplexEvmConfig}
    (phases : ∀ j, PhaseKept (calls j) s.config (s.phase j))
    (own : PhaseKept (calls i) config' p)
    (extra : ∀ j, j ≠ i → (s.phase j).awaitsContext →
      config'.currentExtraData = s.config.currentExtraData)
    (fee : ∀ j, j ≠ i → (s.phase j).awaitsEnv →
      config'.currentBaseFeePerGas = s.config.currentBaseFeePerGas) :
    ∀ j, PhaseKept (calls j) config' ((s.setPhase i p).phase j) := by
  intro j
  by_cases h : j = i
  · subst h
    simpa [State.setPhase] using own
  · have hphase : (s.setPhase i p).phase j = s.phase j := by simp [State.setPhase, h]
    rw [hphase]
    exact (phases j).frame (extra j h) (fee j h)

theorem advance_kept (priced : Priced backend.transact) (kept : Kept backend calls spec s)
    {i : ι} (cond : Undisturbed s (.advance i)) :
    Kept backend calls spec (advance backend (calls i) s i) := by
  have own := kept.phases i
  obtain ⟨extraFree, feeFree⟩ := cond
  unfold advance
  cases hphase : s.phase i with
  | waiting =>
    rw [hphase] at extraFree
    dsimp only
    cases hopen : openState backend (calls i) with
    | error err =>
      refine ⟨kept.chain, setPhase_phases kept.phases ?_ (fun _ _ _ => rfl) (fun _ _ _ => rfl),
        kept.observed⟩
      refine ⟨fun payload mapping h => (nomatch h), fun h => ?_⟩
      exact openState_eq_error hopen (Except.error.inj h)
    | ok pair =>
      obtain ⟨db, baseFee⟩ := pair
      refine ⟨kept.chain, setPhase_phases kept.phases ⟨openState_eq_ok hopen, rfl⟩ ?_
        (fun _ _ _ => rfl), kept.observed⟩
      exact fun j hj awaits => absurd awaits (extraFree rfl j hj)
  | extraDataSet db baseFee =>
    rw [hphase] at own feeFree
    refine ⟨kept.chain, setPhase_phases kept.phases ⟨own.1, own.2, rfl⟩ (fun _ _ _ => rfl) ?_,
      kept.observed⟩
    exact fun j hj awaits => absurd awaits (feeFree rfl j hj)
  | baseFeeSet db baseFee =>
    rw [hphase] at own
    refine ⟨kept.chain, setPhase_phases kept.phases ⟨own.1, own.2.1, ?_⟩ (fun _ _ _ => rfl)
      (fun _ _ _ => rfl), kept.observed⟩
    rw [nextEvmEnv_basefee, own.2.2]
    rfl
  | envRead db baseFee env =>
    rw [hphase] at own
    refine ⟨kept.chain, setPhase_phases kept.phases ⟨own.1, own.2.2, ?_⟩ (fun _ _ _ => rfl)
      (fun _ _ _ => rfl), kept.observed⟩
    simp [KasplexEvmConfig.contextForNextBlock, own.2.1]
  | ctxRead db baseFee env ctx =>
    rw [hphase] at own extraFree
    refine ⟨kept.chain, setPhase_phases kept.phases own ?_ (fun _ _ _ => rfl), kept.observed⟩
    exact fun j hj awaits => absurd awaits (extraFree rfl j hj)
  | extraDataCleared db baseFee env ctx =>
    rw [hphase] at own feeFree
    refine ⟨kept.chain, setPhase_phases kept.phases own (fun _ _ _ => rfl) ?_, kept.observed⟩
    exact fun j hj awaits => absurd awaits (feeFree rfl j hj)
  | baseFeeCleared db baseFee env ctx =>
    rw [hphase] at own
    exact ⟨kept.chain, setPhase_phases kept.phases
      (buildBlock_resultKept priced own.1 own.2.1 own.2.2) (fun _ _ _ => rfl) (fun _ _ _ => rfl),
      kept.observed⟩
  | finished result => exact kept

theorem step_kept (priced : Priced backend.transact) (kept : Kept backend calls spec s)
    {e : Event ι} (cond : Undisturbed s e) : Kept backend calls spec (step backend calls s e) := by
  cases e with
  | advance i => exact advance_kept priced kept cond
  | nextEvmEnv parent attributes =>
    refine ⟨kept.chain, kept.phases, ?_⟩
    intro o ho
    rcases List.mem_append.mp ho with ho | ho
    · exact kept.observed o ho
    · obtain rfl := List.mem_singleton.mp ho
      change s.config.currentBaseFeePerGas = none at cond
      simp [KasplexEvmConfig.nextEvmEnv, cond, kept.chain]

end Step

section OutsideLooks

variable {backend : Backend} {calls : ι → BuildArguments} {config : KasplexEvmConfig}
  {mapping : TxMapping}

/-- A base fee in the cell has a build that is yet to clear it. -/
def FeeHeld (s : State ι) : Prop :=
  s.config.currentBaseFeePerGas = none ∨ ∃ j, (s.phase j).holdsBaseFee

theorem setPhase_feeHeld {s : State ι} {i : ι} {p : Phase} {config' : KasplexEvmConfig}
    (held : FeeHeld s) (own : (s.phase i).holdsBaseFee → p.holdsBaseFee)
    (same : config'.currentBaseFeePerGas = s.config.currentBaseFeePerGas) :
    FeeHeld { s.setPhase i p with config := config' } := by
  rcases held with hnone | ⟨j, hj⟩
  · exact Or.inl (same.trans hnone)
  · refine Or.inr ⟨j, ?_⟩
    by_cases hji : j = i
    · subst hji
      simpa [State.setPhase] using own hj
    · simpa [State.setPhase, hji] using hj

theorem advance_feeHeld {s : State ι} (held : FeeHeld s) (args : BuildArguments) (i : ι) :
    FeeHeld (advance backend args s i) := by
  unfold advance
  cases hphase : s.phase i with
  | waiting =>
    dsimp only
    cases openState backend args with
    | error err => exact setPhase_feeHeld held (by rw [hphase]; exact nofun) rfl
    | ok pair => exact setPhase_feeHeld held (by rw [hphase]; exact nofun) rfl
  | extraDataSet db baseFee => exact Or.inr ⟨i, by simp [State.setPhase, Phase.holdsBaseFee]⟩
  | baseFeeSet db baseFee => exact setPhase_feeHeld held (fun _ => rfl) rfl
  | envRead db baseFee env => exact setPhase_feeHeld held (fun _ => rfl) rfl
  | ctxRead db baseFee env ctx => exact setPhase_feeHeld held (fun _ => rfl) rfl
  | extraDataCleared db baseFee env ctx => exact Or.inl rfl
  | baseFeeCleared db baseFee env ctx =>
    exact setPhase_feeHeld held (by rw [hphase]; exact nofun) rfl
  | finished result => exact held

/-- While no build is between writing and clearing the base fee, a look from
outside is undisturbed. -/
theorem outside_look_undisturbed (unset : config.currentBaseFeePerGas = none)
    {events : List (Event ι)} {s : State ι}
    (reached : Runs.Reached (step backend calls) (State.init config mapping) events s)
    (free : ∀ j, ¬ (s.phase j).holdsBaseFee) (parent : Header)
    (attributes : NextBlockEnvAttributes) : Undisturbed s (.nextEvmEnv parent attributes) := by
  have hmeets : Runs.Meets (step backend calls) (fun _ _ => True) (State.init config mapping)
      events := Runs.meets_of_forall (fun _ _ => trivial) _ _
  have hheld : FeeHeld s := by
    refine Runs.reached_invariant FeeHeld ?_ (Or.inl unset) hmeets reached
    intro s e held _
    cases e with
    | advance i => exact advance_feeHeld held (calls i) i
    | nextEvmEnv parent attributes => exact held
  exact hheld.resolve_right fun ⟨j, hj⟩ => free j hj

end OutsideLooks

/-- Builds whose writes do not disturb each other keep their parameters: every
block frozen in the run has the extra data and the base fee of its own call, no
call misses a tip, and every environment derived outside is the stock one. -/
theorem undisturbed_builds_keep_parameters (backend : Backend)
    (priced : Priced backend.transact) (calls : ι → BuildArguments) (config : KasplexEvmConfig)
    (mapping : TxMapping) (events : List (Event ι)) (s : State ι)
    (meets : Runs.Meets (step backend calls) Undisturbed (State.init config mapping) events)
    (reached : Runs.Reached (step backend calls) (State.init config mapping) events s) :
    (∀ i payload mapping', s.phase i = .finished (.ok (.freeze payload, mapping')) →
      payload.block.block.header.extraData = (calls i).attributes.extraData ∧
      ∃ fee, payload.block.block.header.baseFeePerGas = some fee ∧
        fee.toNat = (calls i).attributes.baseFeePerGas.toNat) ∧
    (∀ i, s.phase i ≠ .finished (.error (.panic tipMessage))) ∧
    (∀ o ∈ s.observed,
      o.env = backend.eth.nextEvmEnv config.chainSpec o.parent o.attributes) := by
  have start : Kept backend calls config.chainSpec (State.init config mapping : State ι) :=
    ⟨rfl, fun _ => trivial, by simp [State.init]⟩
  have kept := Runs.reached_invariant (Kept backend calls config.chainSpec)
    (fun _ _ kept cond => step_kept priced kept cond) start meets reached
  refine ⟨?_, ?_, kept.observed⟩
  · intro i payload mapping' h
    have hi := kept.phases i
    rw [h] at hi
    exact hi.1 payload mapping' rfl
  · intro i h
    have hi := kept.phases i
    rw [h] at hi
    exact hi.2 rfl

/-- A build whose steps are taken in one go is `kasplexPayload`. -/
theorem run_alone (backend : Backend) (calls : ι → BuildArguments) (s : State ι) (i : ι)
    (waiting : s.phase i = .waiting) :
    let alone := kasplexPayload backend s.config s.mapping (calls i)
    let last := Runs.run (step backend calls) s (List.replicate 7 (.advance i))
    last.phase i = .finished alone.1 ∧ last.config = alone.2 := by
  intro alone last
  cases hdb : (backend.stateByBlockHash (calls i).parentHeader.hash).mapError Fault.error with
  | error err =>
    have hopen : openState backend (calls i) = .error err := by
      simp [openState, hdb, bind, Except.bind]
    simp [alone, last, kasplexPayload, hdb, Runs.run, step, advance, waiting, hopen,
      State.setPhase]
  | ok db =>
    cases hfee : (narrowOrPanic 64 (calls i).attributes.baseFeePerGas :
        Except (Fault PayloadBuilderError) U64) with
    | error err =>
      have hopen : openState backend (calls i) = .error err := by
        simp [openState, hdb, hfee, bind, Except.bind]
      simp [alone, last, kasplexPayload, hdb, hfee, Runs.run, step, advance, waiting, hopen,
        State.setPhase]
    | ok baseFee =>
      have hopen : openState backend (calls i) = .ok (db, baseFee) := by
        simp [openState, hdb, hfee, bind, Except.bind, pure, Except.pure]
      simp [alone, last, kasplexPayload, hdb, hfee, Runs.run, step, advance, waiting, hopen,
        State.setPhase]

section Samples

theorem transferEvm_priced : Priced (transact transferEvm) := by
  intro env tx db output h
  obtain ⟨_, _, _, _, _, hv, -⟩ := transact_eq_ok h
  by_contra hlow
  have hprice : tx.gasPrice < env.blockEnv.basefee.setWidth 128 := by
    rw [BitVec.lt_def, toNat_setWidth_of_le (by decide)]
    omega
  simp only [transferEvm, if_pos hprice] at hv
  split at hv
  · cases hv
  · split at hv <;> cases hv

/-- Two requests: the transfers at five thousand gwei, more than any of them
pays, and an empty block at two thousand with extra data of its own. -/
def crossedCalls : Bool → BuildArguments
  | false => ⟨sampleParent, { transferJob 30000000 with baseFeePerGas := 5000000000000 },
      fun _ => false⟩
  | true => ⟨sampleParent, { transferJob 30000000 with
      transactions := []
      extraData := [0x78, 0x79, 0x7a] }, fun _ => false⟩

def sampleStart : State Bool := State.init sampleConfig TxMapping.empty

/-- The payload of a finished build. -/
def Phase.payload : Phase → Option EthBuiltPayload
  | .finished (.ok (.freeze payload, _)) => some payload
  | _ => none

/-- The message of a build that panicked. -/
def Phase.panicMessage : Phase → Option String
  | .finished (.error (.panic message)) => some message
  | _ => none

def outsideLook : Event Bool :=
  .nextEvmEnv sampleParent.header (nextBlockEnvAttributes (transferJob 30000000))

/-- One build after the other, and an outside look in between. -/
def eventsInTurn : List (Event Bool) :=
  List.replicate 7 (.advance false) ++ [outsideLook] ++ List.replicate 7 (.advance true)

/-- The second build writes both cells before the first has read them, and the
first clears them before the second has. -/
def eventsCrossed : List (Event Bool) :=
  [.advance false, .advance false, .advance true, .advance true, outsideLook] ++
    List.replicate 5 (.advance false) ++ List.replicate 5 (.advance true)

theorem undisturbed_builds_keep_parameters_in_turn :
    Runs.Meets (step sampleBackend crossedCalls) Undisturbed sampleStart eventsInTurn ∧
    ∀ payload mapping,
      (Runs.run (step sampleBackend crossedCalls) sampleStart eventsInTurn).phase true =
        .finished (.ok (.freeze payload, mapping)) →
      payload.block.block.header.extraData = (crossedCalls true).attributes.extraData := by
  have meets : Runs.Meets (step sampleBackend crossedCalls) Undisturbed sampleStart
      eventsInTurn := by decide +kernel
  have kept := undisturbed_builds_keep_parameters sampleBackend transferEvm_priced crossedCalls
    sampleConfig TxMapping.empty eventsInTurn _ meets (Runs.reached_run _ _ _)
  exact ⟨meets, fun payload mapping h => (kept.1 true payload mapping h).1⟩

/-- One build accepts a transfer below its own base fee and panics, the other
freezes a block with extra data and base fee derived from the parent, and the
look from outside finds a requested fee. -/
theorem crossed_builds_mix_parameters :
    Priced sampleBackend.transact ∧
    ((Runs.run (step sampleBackend crossedCalls) sampleStart eventsCrossed).phase
      false).panicMessage = some tipMessage ∧
    (((Runs.run (step sampleBackend crossedCalls) sampleStart eventsCrossed).phase
      true).payload.any fun payload =>
        payload.block.block.header.extraData ≠ (crossedCalls true).attributes.extraData ∧
        payload.block.block.header.baseFeePerGas ≠ some 2000000000000) = true ∧
    ∃ o ∈ (Runs.run (step sampleBackend crossedCalls) sampleStart eventsCrossed).observed,
      o.env ≠ sampleBackend.eth.nextEvmEnv kasplexMainnet o.parent o.attributes :=
  ⟨transferEvm_priced, by decide +kernel, by decide +kernel, by decide +kernel⟩

end Samples

end ConcurrentBuilds
