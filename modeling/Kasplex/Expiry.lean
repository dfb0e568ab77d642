import Kasplex.NodeRuns

/-!
# Expiry, decided three times

The mapping, the pool crate and its cleanup each test whether a transaction is
too old for a head. The cleanup takes the number zero for a missing one, the
other two take it for a number. They agree as long as no zero is recorded, and a
zero is recorded for a transaction that is built or converted without a number.
-/

namespace Expiry

open Primitives ChainSpec EvmConfig PayloadAttributes PayloadBuilder SubmissionNumbers EngineTypes
  EngineValidator TxPool AuthApi EngineApi Runs NodeRuns

/-- The three decisions on a pooled transaction coincide. The cleanup decides on
Kasplex chains only. -/
structure OneDecision (pool : TransactionPool) (mapping : TxMapping) (h : B256) (n : U64) :
    Prop where
  tests : mapping.isTransactionExpired h n = isTransactionExpiredForPool h mapping n
  cleanup : ∀ spec : KasplexChainSpec, spec.isKasplex = true →
    (isTransactionExpiredForPool h mapping n = true ↔
      ¬ (handleKasplexPoolReorg spec pool mapping n).1.Holds h)

def NoZero (mapping : TxMapping) : Prop := ∀ h, mapping.mapping h ≠ some 0

/-- Test and selection differ on the number zero alone. -/
theorem selected_eq_expired {mapping : TxMapping} {h : B256} (nonzero : mapping.mapping h ≠ some 0)
    (n : U64) : selectedForRemoval mapping n h = isTransactionExpiredForPool h mapping n := by
  rw [Bool.eq_iff_iff, selectedForRemoval_iff]
  simp only [isTransactionExpiredForPool, TxMapping.getSubmissionBlock]
  cases hk : mapping.mapping h with
  | none => simp
  | some k =>
    have hpos : 0#64 < k := by
      rw [BitVec.pos_iff_ne_zero]
      rintro rfl
      exact nonzero hk
    simpa using fun _ => hpos

/-- A pool with one transaction of the given hash. -/
def poolOf (h : B256) : TransactionPool :=
  ⟨[⟨⟨h, .legacy 0, none, 0, 0, .create, 0, [], [], [], []⟩, 0⟩], []⟩

theorem poolOf_holds (h : B256) : (poolOf h).Holds h := Or.inl List.mem_cons_self

theorem oneDecision_iff {mapping : TxMapping} :
    (∀ pool h n, pool.Holds h → OneDecision pool mapping h n) ↔ NoZero mapping := by
  constructor
  · intro agree h zero
    have hcleanup := (agree (poolOf h) h 101 (poolOf_holds h)).cleanup kasplexMainnet rfl
    rw [handleKasplexPoolReorg_holds rfl] at hcleanup
    have hexpired : isTransactionExpiredForPool h mapping 101 = true := by
      simp only [isTransactionExpiredForPool, TxMapping.getSubmissionBlock, zero]
      decide
    have hkept : selectedForRemoval mapping 101 h = false := by
      simp only [selectedForRemoval, TxMapping.getSubmissionBlock, zero]
      rfl
    exact hcleanup.mp hexpired ⟨poolOf_holds h, hkept⟩
  · intro nozero pool h n held
    refine ⟨rfl, ?_⟩
    intro spec kasplex
    rw [handleKasplexPoolReorg_holds kasplex, and_iff_right held, Bool.not_eq_false,
      selected_eq_expired (nozero h)]

theorem insertAll_noZero_iff {mapping : TxMapping} (nozero : NoZero mapping)
    (entries : List (B256 × U64)) :
    NoZero (mapping.insertAll entries) ↔ ∀ h, entries.reverse.lookup h ≠ some 0 := by
  refine forall_congr' fun h => ?_
  rw [TxMapping.insertAll_mapping]
  cases entries.reverse.lookup h with
  | none => exact iff_of_true (nozero h) (by simp)
  | some n => rfl

theorem recordAgain_noZero_iff {mapping : TxMapping} (nozero : NoZero mapping)
    (hashes : List B256) :
    NoZero (mapping.recordAgain hashes) ↔
      ∀ h ∈ hashes, (mapping.getSubmissionBlock h).isSome = true := by
  refine forall_congr' fun h => ?_
  rw [TxMapping.recordAgain_mapping]
  by_cases listed : h ∈ hashes
  · rw [if_pos listed]
    change _ ↔ (h ∈ hashes → (mapping.mapping h).isSome = true)
    have hentry := nozero h
    cases hk : mapping.mapping h with
    | none => simp [listed]
    | some k =>
      rw [hk] at hentry
      exact iff_of_true hentry (fun _ => rfl)
  · rw [if_neg listed]
    exact iff_of_true (nozero h) (fun absurdly => absurd absurdly listed)

/-- No event stores a zero: the last number submitted for a transaction is not
zero, and what is built or converted has a number. -/
def StoresNoZero (s : Node) : Event → Prop
  | .sendRawTransaction services tx =>
    ∀ h, (submitted (.sendRawTransaction services tx)).reverse.lookup h ≠ some 0
  | .sendRawTransactions calls =>
    ∀ h, (submitted (.sendRawTransactions calls)).reverse.lookup h ≠ some 0
  | .kasplexPayload backend args =>
    ∀ payload mapping', (kasplexPayload backend s.config s.mapping args).1 =
        .ok (.freeze payload, mapping') →
      ∀ h ∈ payload.block.block.body.transactions.map TransactionSigned.hash,
        (s.mapping.getSubmissionBlock h).isSome = true
  | .blockToPayload block =>
    ∀ h ∈ block.block.body.transactions.map TransactionSigned.hash,
      (s.mapping.getSubmissionBlock h).isSome = true
  | _ => True

/-- The condition on an event is exact. -/
theorem storesNoZero_iff (alloy : Alloy) (s : Node) (e : Event) (nozero : NoZero s.mapping) :
    StoresNoZero s e ↔ NoZero (step alloy s e).mapping := by
  cases e with
  | sendRawTransaction services tx =>
    change _ ↔ NoZero (sendRawTransaction services s.pool s.mapping tx).2.2
    rw [sendRawTransaction_mapping, insertAll_noZero_iff nozero]
    rfl
  | sendRawTransactions calls =>
    change _ ↔ NoZero (sendRawTransactions s.pool s.mapping calls).2.2
    rw [sendRawTransactions_mapping, insertAll_noZero_iff nozero]
    rfl
  | forkChoiceUpdatedV2 inner provider state attributes =>
    refine iff_of_true trivial ?_
    intro h
    change (forkChoiceUpdatedV2 _ _ _ _ _ _ _).2.2.mapping h ≠ _
    rw [forkChoiceUpdatedV2_mapping]
    exact nozero h
  | newPayloadV2 inner provider payload => exact iff_of_true trivial nozero
  | kasplexPayload backend args =>
    rw [step_kasplexPayload_mapping, recordAgain_noZero_iff nozero]
    change (∀ payload mapping', (kasplexPayload backend s.config s.mapping args).1 = _ → _) ↔ _
    constructor
    · intro numbered h frozen
      unfold frozenHashes at frozen
      split at frozen
      · rename_i payload mapping' hbuild
        exact numbered payload mapping' hbuild h frozen
      · cases frozen
    · intro numbered payload mapping' hbuild
      rw [hbuild] at numbered
      exact numbered
  | blockToPayload block =>
    change _ ↔ NoZero (blockToPayload alloy s.mapping block).2
    rw [blockToPayload_mapping, recordAgain_noZero_iff nozero]
    rfl
  | ensureWellFormedPayload data =>
    refine iff_of_true trivial ?_
    intro h
    change (ensureWellFormedPayload alloy s.mapping data).2.mapping h ≠ _
    rw [ensureWellFormedPayload_mapping, takeNumbers_mapping]
    split
    · simp
    · exact nozero h
  | poolChange pool => exact iff_of_true trivial nozero

/-- From an empty mapping, the three decisions agree on every pooled transaction,
at every head, in every state of a run, exactly when no event of the run stores a
zero. -/
theorem expiry_agrees_iff (alloy : Alloy) (config : KasplexEvmConfig) (start : TransactionPool)
    (es : List Event) :
    (∀ t, Reached (step alloy) ⟨config, start, .empty⟩ es t →
        ∀ pool h n, pool.Holds h → OneDecision pool t.mapping h n) ↔
      Meets (step alloy) StoresNoZero ⟨config, start, .empty⟩ es := by
  have hstart : NoZero TxMapping.empty := by
    intro h
    simp [TxMapping.empty]
  have hruns : Meets (step alloy) StoresNoZero ⟨config, start, .empty⟩ es ↔
      ∀ t, Reached (step alloy) ⟨config, start, .empty⟩ es t → NoZero t.mapping :=
    meets_iff_reached (fun s : Node => NoZero s.mapping) (storesNoZero_iff alloy) hstart
  simp only [oneDecision_iff]
  exact hruns.symm

/-- A submitted transfer is judged alike by all three. -/
theorem expiry_agrees_iff_submission :
    OneDecision (poolOf transfer0.hash) (run (step sampleAlloy) sampleNode
      [submitTransfer]).mapping transfer0.hash 101 := by
  have hsubmitted : submitted submitTransfer = [(transfer0.hash, 1)] := by decide +kernel
  have numbered : Meets (step sampleAlloy) StoresNoZero sampleNode [submitTransfer] := by
    refine ⟨?_, trivial⟩
    intro h
    change List.lookup h (submitted submitTransfer).reverse ≠ some 0
    rw [hsubmitted]
    change List.lookup h [(transfer0.hash, 1)] ≠ some 0
    rw [List.lookup_cons]
    split
    · exact fun same => absurd (Option.some.inj same) (by decide)
    · exact fun same => by cases same
  exact (expiry_agrees_iff sampleAlloy sampleConfig .empty [submitTransfer]).mpr numbered _
    (reached_run (step sampleAlloy) sampleNode [submitTransfer]) (poolOf transfer0.hash)
    transfer0.hash 101 (poolOf_holds transfer0.hash)

/-- A transfer that was never submitted is built: at head 101 it is expired by
both tests, and the cleanup keeps it. -/
theorem built_without_number_disagrees :
    (step sampleAlloy sampleNode buildTransfers).mapping.isTransactionExpired transfer0.hash
        101 = true ∧
      isTransactionExpiredForPool transfer0.hash
        (step sampleAlloy sampleNode buildTransfers).mapping 101 = true ∧
      (handleKasplexPoolReorg kasplexMainnet (poolOf transfer0.hash)
        (step sampleAlloy sampleNode buildTransfers).mapping 101).1.Holds transfer0.hash := by
  refine ⟨?_, ?_, ?_⟩
  · decide +kernel
  · decide +kernel
  · decide +kernel

end Expiry
