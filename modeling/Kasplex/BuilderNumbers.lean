import Kasplex.NodeRuns

/-!
# The numbers a build collects

The builder pushes a number before it executes a transaction and pops it again
when the transaction is skipped; after the block is sealed the numbers are paired
with its transactions by position. The loop is stated here for any block builder,
so that a transaction may end in every outcome the loop knows, with the shared
mapping passed through it.
-/

namespace BuilderNumbers

open Primitives MachineArith BlockExecutor EvmConfig PayloadAttributes PayloadBuilder
  SubmissionNumbers EngineTypes NodeRuns

/-- A block builder as the loop uses it. -/
structure BuilderOps (σ : Type) where
  executeTransaction : σ → Recovered → Except BlockExecutionError (U64 × σ)
  finish : σ → Except (Fault PayloadBuilderError) RecoveredBlock

/-- The block is made of the transactions that were executed, in order. -/
structure BuilderOps.Keeps {σ : Type} (ops : BuilderOps σ) (taken : σ → List Recovered) :
    Prop where
  grows : ∀ s tx gasUsed s', ops.executeTransaction s tx = .ok (gasUsed, s') →
    taken s' = taken s ++ [tx]
  recovered : ∀ s block, ops.finish s = .ok block → block.recoveredTransactions = taken s
  body : ∀ s block, ops.finish s = .ok block →
    block.sealedBlock.block.body.transactions = (taken s).map Recovered.tx

structure Progress (σ : Type) where
  builder : σ
  totalFees : U256
  transactionNumbers : List U64

section Loop

variable {σ : Type} (ops : BuilderOps σ) (baseFee : U64) (cancel : Nat → Bool)

/-- The loop of the build, and the mapping after it. -/
def numberLoop : Nat → Progress σ → List Recovered → TxMapping →
    Except (Fault PayloadBuilderError) (Option (Progress σ)) × TxMapping
  | _, st, [], mapping => (.ok (some st), mapping)
  | turn, st, tx :: rest, mapping =>
    if cancel turn then (.ok none, mapping)
    else
      let numbers := st.transactionNumbers ++ [extractTransactionNumber mapping tx]
      match ops.executeTransaction st.builder tx with
      | .ok (gasUsed, builder) =>
        match tx.tx.effectiveTipPerGas baseFee with
        | none => (.error (.panic tipMessage), mapping)
        | some minerFee =>
          numberLoop (turn + 1) {
            builder
            totalFees := st.totalFees + minerFee.setWidth 256 * gasUsed.setWidth 256
            transactionNumbers := numbers } rest mapping
      | .error (.validation (.invalidTx _ _))
      | .error (.validation (.transactionGasLimitMoreThanAvailableBlockGas _ _)) =>
        numberLoop (turn + 1) { st with transactionNumbers := numbers.dropLast } rest mapping
      | .error err => (.error (.error (.evm err)), mapping)

/-- The build from the loop on: the sealed block with the collected numbers, and
the mapping after they are stored. -/
def buildNumbers (start : σ) (txs : List Recovered) (mapping : TxMapping) :
    Except (Fault PayloadBuilderError) (Option (RecoveredBlock × Progress σ)) × TxMapping :=
  match numberLoop ops baseFee cancel 0 ⟨start, 0, []⟩ txs mapping with
  | (.error err, mapping) => (.error err, mapping)
  | (.ok none, mapping) => (.ok none, mapping)
  | (.ok (some st), mapping) =>
    match ops.finish st.builder with
    | .error err => (.error err, mapping)
    | .ok block => (.ok (some (block, st)), storeNumbers mapping block st.transactionNumbers)

/-- One turn: the loop ends, takes the transaction with its number, or goes on as
if the transaction had not been there. -/
theorem numberLoop_cons (turn : Nat) (st : Progress σ) (tx : Recovered) (rest : List Recovered)
    (mapping : TxMapping) :
    (∃ result, (∀ last, result ≠ .ok (some last)) ∧
      numberLoop ops baseFee cancel turn st (tx :: rest) mapping = (result, mapping)) ∨
    (∃ gasUsed builder totalFees,
      ops.executeTransaction st.builder tx = .ok (gasUsed, builder) ∧
      numberLoop ops baseFee cancel turn st (tx :: rest) mapping =
        numberLoop ops baseFee cancel (turn + 1) ⟨builder, totalFees,
          st.transactionNumbers ++ [extractTransactionNumber mapping tx]⟩ rest mapping) ∨
    numberLoop ops baseFee cancel turn st (tx :: rest) mapping =
      numberLoop ops baseFee cancel (turn + 1) st rest mapping := by
  rw [numberLoop]
  split
  · exact Or.inl ⟨_, by simp, rfl⟩
  · simp only [List.dropLast_concat]
    split
    · rename_i gasUsed builder hexecuted
      split
      · exact Or.inl ⟨_, by simp, rfl⟩
      · exact Or.inr (Or.inl ⟨gasUsed, builder, _, hexecuted, rfl⟩)
    · exact Or.inr (Or.inr rfl)
    · exact Or.inr (Or.inr rfl)
    · exact Or.inl ⟨_, by simp, rfl⟩

/-- The loop writes nothing. -/
theorem numberLoop_mapping (turn : Nat) (st : Progress σ) (txs : List Recovered)
    (mapping : TxMapping) :
    (numberLoop ops baseFee cancel turn st txs mapping).2 = mapping := by
  induction txs generalizing turn st with
  | nil => rfl
  | cons tx rest ih =>
    rcases numberLoop_cons ops baseFee cancel turn st tx rest mapping with
      ⟨result, -, hend⟩ | ⟨gasUsed, builder, totalFees, -, htaken⟩ | hskipped
    · rw [hend]
    · rw [htaken, ih]
    · rw [hskipped, ih]

variable {ops baseFee cancel} {taken : σ → List Recovered}

/-- The numbers stay those of the transactions taken. -/
theorem numberLoop_numbers (keeps : ops.Keeps taken)
    {turn : Nat} {st last : Progress σ} {txs : List Recovered} {mapping : TxMapping}
    (aligned : st.transactionNumbers =
      (taken st.builder).map (extractTransactionNumber mapping))
    (h : (numberLoop ops baseFee cancel turn st txs mapping).1 = .ok (some last)) :
    last.transactionNumbers = (taken last.builder).map (extractTransactionNumber mapping) := by
  induction txs generalizing turn st with
  | nil =>
    cases h
    exact aligned
  | cons tx rest ih =>
    rcases numberLoop_cons ops baseFee cancel turn st tx rest mapping with
      ⟨result, hend, hloop⟩ | ⟨gasUsed, builder, totalFees, hexecuted, hloop⟩ | hloop
    · rw [hloop] at h
      exact absurd h (hend last)
    · rw [hloop] at h
      refine ih ?_ h
      simp only [keeps.grows _ _ _ _ hexecuted, List.map_append, List.map_singleton, aligned]
    · rw [hloop] at h
      exact ih aligned h

end Loop

/-- One number for each transaction, at its position, and the mapping with these
numbers under their hashes. -/
structure Aligned (mapping : TxMapping) (included : List Recovered) (numbers : List U64)
    (mapping' : TxMapping) : Prop where
  length : numbers.length = included.length
  entry : ∀ (i : Nat) (tx : Recovered), included[i]? = some tx →
    numbers[i]? = some ((mapping.getSubmissionBlock tx.tx.hash).getD 0)
  stored : ∀ tx ∈ included, mapping'.getSubmissionBlock tx.tx.hash =
    some ((mapping.getSubmissionBlock tx.tx.hash).getD 0)
  others : ∀ h, (∀ tx ∈ included, tx.tx.hash ≠ h) →
    mapping'.getSubmissionBlock h = mapping.getSubmissionBlock h

theorem aligned_recordAgain (mapping : TxMapping) (included : List Recovered) :
    Aligned mapping included (included.map (extractTransactionNumber mapping))
      (mapping.recordAgain (included.map fun tx => tx.tx.hash)) where
  length := List.length_map _
  entry := fun i tx htx => by
    rw [List.getElem?_map, htx]
    rfl
  stored := fun tx htx => by
    change (mapping.recordAgain _).mapping tx.tx.hash = _
    rw [TxMapping.recordAgain_mapping, if_pos (List.mem_map.mpr ⟨tx, htx, rfl⟩)]
    rfl
  others := fun h habsent => by
    change (mapping.recordAgain _).mapping h = _
    rw [TxMapping.recordAgain_mapping, if_neg]
    · rfl
    · intro hlisted
      obtain ⟨tx, htx, hhash⟩ := List.mem_map.mp hlisted
      exact habsent tx htx hhash

/-- What a conversion reports after the numbers are stored. -/
theorem Aligned.blockNumbers_eq {mapping mapping' : TxMapping} {included : List Recovered}
    {numbers : List U64} (aligned : Aligned mapping included numbers mapping')
    {block : SealedBlock} (body : block.block.body.transactions = included.map Recovered.tx) :
    blockNumbers mapping' block = numbers := by
  unfold blockNumbers
  rw [body, List.map_map]
  apply List.ext_getElem?
  intro i
  rw [List.getElem?_map]
  cases htx : included[i]? with
  | none =>
    rw [List.getElem?_eq_none_iff] at htx
    rw [Option.map_none, List.getElem?_eq_none_iff.mpr (by rw [aligned.length]; exact htx)]
  | some tx =>
    rw [Option.map_some, aligned.entry i tx htx]
    simp only [Function.comp_apply, aligned.stored tx (List.mem_of_getElem? htx),
      Option.getD_some]

section Outcomes

variable {σ : Type} {ops : BuilderOps σ} {taken : σ → List Recovered} {start : σ}

/-- A sealed block has its numbers aligned and stored. -/
theorem buildNumbers_of_block (keeps : ops.Keeps taken) (fresh : taken start = [])
    {baseFee : U64} {cancel : Nat → Bool} {txs : List Recovered} {mapping mapping' : TxMapping}
    {block : RecoveredBlock} {st : Progress σ}
    (h : buildNumbers ops baseFee cancel start txs mapping = (.ok (some (block, st)), mapping')) :
    Aligned mapping (taken st.builder) st.transactionNumbers mapping' ∧
      block.sealedBlock.block.body.transactions = (taken st.builder).map Recovered.tx := by
  have hkept := numberLoop_mapping ops baseFee cancel 0 ⟨start, 0, []⟩ txs mapping
  unfold buildNumbers at h
  cases hloop : numberLoop ops baseFee cancel 0 ⟨start, 0, []⟩ txs mapping with
  | mk result kept =>
    rw [hloop] at hkept h
    change kept = mapping at hkept
    subst hkept
    match result, h with
    | .ok (some last), h =>
      cases hfinish : ops.finish last.builder with
      | error err => simp [hfinish] at h
      | ok b =>
        simp only [hfinish, Prod.mk.injEq, Except.ok.injEq, Option.some.injEq] at h
        obtain ⟨⟨rfl, rfl⟩, rfl⟩ := h
        have hnumbers := numberLoop_numbers keeps
          (show [] = (taken start).map (extractTransactionNumber kept) by rw [fresh]; rfl)
          (congrArg Prod.fst hloop)
        refine ⟨?_, keeps.body _ _ hfinish⟩
        rw [hnumbers, ← keeps.recovered _ _ hfinish, storeNumbers_of_aligned]
        exact aligned_recordAgain kept b.recoveredTransactions

theorem buildNumbers_of_loop {baseFee : U64} {cancel : Nat → Bool} {txs : List Recovered}
    {mapping mapping' : TxMapping} {block : RecoveredBlock} {last : Progress σ}
    (loop : numberLoop ops baseFee cancel 0 ⟨start, 0, []⟩ txs mapping =
      (.ok (some last), mapping'))
    (finished : ops.finish last.builder = .ok block) :
    buildNumbers ops baseFee cancel start txs mapping =
      (.ok (some (block, last)), storeNumbers mapping' block last.transactionNumbers) := by
  simp only [buildNumbers, loop, finished]

/-- Without a block nothing is stored. -/
theorem buildNumbers_of_no_block {baseFee : U64} {cancel : Nat → Bool} {txs : List Recovered}
    {mapping : TxMapping}
    (h : ∀ block st, (buildNumbers ops baseFee cancel start txs mapping).1 ≠
      .ok (some (block, st))) :
    (buildNumbers ops baseFee cancel start txs mapping).2 = mapping := by
  have hkept := numberLoop_mapping ops baseFee cancel 0 ⟨start, 0, []⟩ txs mapping
  unfold buildNumbers at h ⊢
  cases hloop : numberLoop ops baseFee cancel 0 ⟨start, 0, []⟩ txs mapping with
  | mk result kept =>
    rw [hloop] at hkept h
    change kept = mapping at hkept
    subst hkept
    match result, h with
    | .error err, h => rfl
    | .ok none, h => rfl
    | .ok (some last), h =>
      cases hfinish : ops.finish last.builder with
      | error err => simp only [hfinish]
      | ok b => exact absurd (by simp only [hfinish]) (h b last)

end Outcomes

section Payload

/-- The block builder of a build. -/
def builderOps (backend : Backend) : BuilderOps BlockBuilder where
  executeTransaction := BlockBuilder.executeTransaction backend.transact
  finish := fun b => (b.finish backend).map BlockBuilderOutcome.block

def progress (st : LoopState) : Progress BlockBuilder :=
  ⟨st.builder, st.totalFees, st.transactionNumbers⟩

theorem builderOps_keeps (backend : Backend) :
    (builderOps backend).Keeps BlockBuilder.transactions := by
  have assembled : ∀ b block, (builderOps backend).finish b = .ok block →
      block.recoveredTransactions = b.transactions ∧
        block.sealedBlock.block.body.transactions = b.transactions.map Recovered.tx := by
    intro b block h
    obtain ⟨outcome, hfinish, rfl⟩ := map_eq_ok h
    obtain ⟨stateRoot, assembled, -, hblock, rfl⟩ := finish_eq_ok hfinish
    obtain ⟨-, -, hb⟩ := assembleBlock_eq_ok hblock
    have hbody : assembled.body.transactions = b.transactions.map Recovered.tx := by rw [hb]
    exact ⟨recoveredTransactions_mk _ _ hbody, hbody⟩
  refine ⟨?_, fun b block h => (assembled b block h).1, fun b block h => (assembled b block h).2⟩
  intro b tx gasUsed b' h
  obtain ⟨⟨gas, executor⟩, -, h⟩ := bind_eq_ok h
  cases h
  rfl

/-- The loop of a build is this loop with its block builder. -/
theorem numberLoop_builderOps (backend : Backend) (baseFee : U64) (mapping : TxMapping)
    (cancel : Nat → Bool) (turn : Nat) (st : LoopState) (txs : List Recovered) :
    numberLoop (builderOps backend) baseFee cancel turn (progress st) txs mapping =
      ((executionLoop backend.transact baseFee mapping cancel turn st txs).map
        (Option.map progress), mapping) := by
  induction txs generalizing turn st with
  | nil => rfl
  | cons tx rest ih =>
    simp only [numberLoop, executionLoop]
    have hops : (builderOps backend).executeTransaction (progress st).builder tx =
        st.builder.executeTransaction backend.transact tx := rfl
    by_cases hcancel : cancel turn = true
    · rw [if_pos hcancel, if_pos hcancel]
      rfl
    · rw [if_neg hcancel, if_neg hcancel, hops]
      simp only [List.dropLast_concat]
      cases st.builder.executeTransaction backend.transact tx with
      | ok executed =>
        obtain ⟨gasUsed, builder⟩ := executed
        cases tx.tx.effectiveTipPerGas baseFee with
        | none => rfl
        | some minerFee => exact ih (turn + 1) ⟨builder, _, _⟩
      | error err =>
        cases err with
        | validation invalid =>
          cases invalid with
          | invalidTx hash e => exact ih (turn + 1) st
          | transactionGasLimitMoreThanAvailableBlockGas limit available => exact ih (turn + 1) st
          | missingParentBeaconBlockRoot => rfl
          | other message => rfl
        | internal e => rfl

/-- A payload is frozen from a block with its numbers. -/
theorem kasplexPayload_numbers {backend : Backend} {config : KasplexEvmConfig}
    {mapping mapping' : TxMapping} {args : BuildArguments} {payload : EthBuiltPayload}
    (h : (kasplexPayload backend config mapping args).1 = .ok (.freeze payload, mapping')) :
    ∃ baseFee pre block st,
      buildNumbers (builderOps backend) baseFee args.cancel ⟨pre, []⟩
          args.attributes.transactions mapping = (.ok (some (block, st)), mapping') ∧
        payload.block = block.sealedBlock := by
  obtain ⟨db, baseFee, built, -, -, hbuilt, hfreeze⟩ := kasplexPayload_eq_ok h
  obtain ⟨last, outcome, rfl, rfl, rfl⟩ := freezeBlock_eq_freeze hfreeze
  obtain ⟨pre, -, hloop, hfinish⟩ := buildBlock_eq_ok hbuilt
  have hnumbers := numberLoop_builderOps backend baseFee mapping args.cancel 0
    ⟨⟨pre, []⟩, 0, []⟩ args.attributes.transactions
  rw [hloop] at hnumbers
  refine ⟨baseFee, pre, outcome.block, progress last, ?_, rfl⟩
  have hsealed : (builderOps backend).finish (progress last).builder = .ok outcome.block := by
    change (last.builder.finish backend).map BlockBuilderOutcome.block = _
    rw [hfinish]
    rfl
  exact buildNumbers_of_loop hnumbers hsealed

/-- A build that freezes no block leaves the numbers of the node alone. -/
theorem step_mapping_of_no_block {alloy : Alloy} {backend : Backend} {args : BuildArguments}
    {s : Node}
    (h : ∀ payload mapping', (kasplexPayload backend s.config s.mapping args).1 ≠
      .ok (.freeze payload, mapping')) :
    (step alloy s (.kasplexPayload backend args)).mapping = s.mapping := by
  have hnone : frozenHashes (kasplexPayload backend s.config s.mapping args).1 = [] := by
    unfold frozenHashes
    split
    · rename_i payload mapping' hbuild
      exact absurd hbuild (h payload mapping')
    · rfl
  rw [step_kasplexPayload_mapping, hnone]
  rfl

/-- Builder numbers stay aligned. Whatever block builder the loop drives, and
however its transactions end, a sealed block has one number for each of its
transactions, read at the start and stored under its hash; without a block the
mapping is what it was. So it is for a build of the node, whose numbers are those
of the loop with its own block builder: the following conversion reports them. -/
theorem builder_numbers_aligned :
    (∀ (σ : Type) (ops : BuilderOps σ) (taken : σ → List Recovered) (start : σ) (baseFee : U64)
      (cancel : Nat → Bool) (txs : List Recovered) (mapping : TxMapping),
      ops.Keeps taken → taken start = [] →
      (∀ block st mapping',
        buildNumbers ops baseFee cancel start txs mapping = (.ok (some (block, st)), mapping') →
        Aligned mapping (taken st.builder) st.transactionNumbers mapping' ∧
          block.sealedBlock.block.body.transactions = (taken st.builder).map Recovered.tx ∧
          blockNumbers mapping' block.sealedBlock = st.transactionNumbers) ∧
      ((∀ block st, (buildNumbers ops baseFee cancel start txs mapping).1 ≠
          .ok (some (block, st))) →
        (buildNumbers ops baseFee cancel start txs mapping).2 = mapping)) ∧
    (∀ (alloy : Alloy) (backend : Backend) (s : Node) (args : BuildArguments),
      (∀ payload mapping', (kasplexPayload backend s.config s.mapping args).1 =
          .ok (.freeze payload, mapping') →
        (step alloy s (.kasplexPayload backend args)).mapping = mapping' ∧
        ∃ baseFee pre block st,
          buildNumbers (builderOps backend) baseFee args.cancel ⟨pre, []⟩
              args.attributes.transactions s.mapping = (.ok (some (block, st)), mapping') ∧
          payload.block = block.sealedBlock ∧
          payload.block.block.body.transactions = st.builder.transactions.map Recovered.tx ∧
          Aligned s.mapping st.builder.transactions st.transactionNumbers mapping' ∧
          blockNumbers mapping' payload.block = st.transactionNumbers) ∧
      ((∀ payload mapping', (kasplexPayload backend s.config s.mapping args).1 ≠
          .ok (.freeze payload, mapping')) →
        (step alloy s (.kasplexPayload backend args)).mapping = s.mapping)) := by
  constructor
  · intro σ ops taken start baseFee cancel txs mapping keeps fresh
    refine ⟨?_, buildNumbers_of_no_block⟩
    intro block st mapping' h
    obtain ⟨aligned, body⟩ := buildNumbers_of_block keeps fresh h
    exact ⟨aligned, body, aligned.blockNumbers_eq body⟩
  · intro alloy backend s args
    refine ⟨?_, step_mapping_of_no_block⟩
    intro payload mapping' frozen
    refine ⟨?_, ?_⟩
    · simp only [step]
      split
      · rename_i outcome mapping config hbuild
        rw [hbuild] at frozen
        cases frozen
        rfl
      · rename_i err config hbuild
        rw [hbuild] at frozen
        cases frozen
    · obtain ⟨baseFee, pre, block, st, hnumbers, hblock⟩ := kasplexPayload_numbers frozen
      obtain ⟨aligned, body⟩ := buildNumbers_of_block (builderOps_keeps backend) rfl hnumbers
      refine ⟨baseFee, pre, block, st, hnumbers, hblock, ?_, aligned, ?_⟩
      · rw [hblock]
        exact body
      · rw [hblock]
        exact aligned.blockNumbers_eq body

/-- A build with the first transfer submitted: the skipped one between the two
leaves no number behind. -/
theorem builder_numbers_aligned_transfers :
    ∃ payload mapping' baseFee pre block st,
      (kasplexPayload sampleBackend afterSubmission.config afterSubmission.mapping
        (transferArgs 30000000)).1 = .ok (.freeze payload, mapping') ∧
      buildNumbers (builderOps sampleBackend) baseFee (fun _ => false) ⟨pre, []⟩
        (transferArgs 30000000).attributes.transactions afterSubmission.mapping =
          (.ok (some (block, st)), mapping') ∧
      payload.block.block.body.transactions = st.builder.transactions.map Recovered.tx ∧
      Aligned afterSubmission.mapping st.builder.transactions st.transactionNumbers mapping' ∧
      blockNumbers mapping' payload.block = st.transactionNumbers ∧
      st.transactionNumbers = [1, 0] := by
  obtain ⟨payload, mapping', frozen, -⟩ := exists_freeze
    (P := fun p => decide (p.block.block.header = sampleHeader))
    (r := (kasplexPayload sampleBackend afterSubmission.config afterSubmission.mapping
      (transferArgs 30000000)).1) (by decide +kernel)
  obtain ⟨-, baseFee, pre, block, st, built, -, body, aligned, hnumbers⟩ :=
    (builder_numbers_aligned.2 sampleAlloy sampleBackend afterSubmission
      (transferArgs 30000000)).1 payload mapping' frozen
  refine ⟨payload, mapping', baseFee, pre, block, st, frozen, built, body, aligned, hnumbers, ?_⟩
  have hlist : ((frozenPayload (kasplexPayload sampleBackend afterSubmission.config
      afterSubmission.mapping (transferArgs 30000000)).1).map fun p =>
        blockNumbers p.2 p.1.block) = some [1, 0] := by decide +kernel
  rw [frozen] at hlist
  exact hnumbers.symm.trans (Option.some.inj hlist)

end Payload

end BuilderNumbers
