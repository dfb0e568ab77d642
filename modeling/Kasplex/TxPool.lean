import Kasplex.ChainSpec
import Kasplex.SubmissionNumbers

/-!
# Cleanups of the transaction pool

The pool is kept by the node library. The crate reads its two lists, selects
hashes, and has the selected ones removed: by submission number after a
forkchoice update, by inclusion after a new payload. Neither cleanup writes a
submission number.
-/

namespace TxPool

open Primitives ChainSpec SubmissionNumbers

/-- The transactions of the pool, ready ones and the others. -/
structure TransactionPool where
  pending : List Recovered
  queued : List Recovered
  deriving DecidableEq, Repr

namespace TransactionPool

def empty : TransactionPool := ⟨[], []⟩

def pendingHashes (pool : TransactionPool) : List B256 := pool.pending.map fun t => t.tx.hash

def queuedHashes (pool : TransactionPool) : List B256 := pool.queued.map fun t => t.tx.hash

/-- Removal as if discarded. What this does to the standing of the transactions
that stay is the library's business. -/
def removeTransactions (pool : TransactionPool) (hashes : List B256) : TransactionPool where
  pending := pool.pending.filter fun t => t.tx.hash ∉ hashes
  queued := pool.queued.filter fun t => t.tx.hash ∉ hashes

/-- A transaction of this hash is pending or queued. -/
def Holds (pool : TransactionPool) (txHash : B256) : Prop :=
  txHash ∈ pool.pendingHashes ∨ txHash ∈ pool.queuedHashes

instance (pool : TransactionPool) (txHash : B256) : Decidable (pool.Holds txHash) :=
  inferInstanceAs (Decidable (_ ∨ _))

end TransactionPool

/-- The test of the reorg cleanup: a recorded number that is too old for the new
head, or beyond it. Zero counts as not recorded. -/
def selectedForRemoval (mapping : TxMapping) (newHeadNumber : U64) (txHash : B256) : Bool :=
  let txNumber := (mapping.getSubmissionBlock txHash).getD 0
  if 0 < txNumber then
    if txNumber + unexecutedTxRetentionBlocks < newHeadNumber then true
    else if newHeadNumber < txNumber then true
    else false
  else false

/-- The cleanup after a forkchoice update; it never fails, and does nothing on
other chains. -/
def handleKasplexPoolReorg (spec : KasplexChainSpec) (pool : TransactionPool)
    (mapping : TxMapping) (newHeadNumber : U64) : TransactionPool × TxMapping :=
  if !spec.isKasplex then (pool, mapping)
  else
    let mapping := mapping.markStartPoolReorg
    let txsToRemove := pool.pendingHashes.filter (selectedForRemoval mapping newHeadNumber) ++
      pool.queuedHashes.filter (selectedForRemoval mapping newHeadNumber)
    let pool := if 0 < txsToRemove.length then pool.removeTransactions txsToRemove else pool
    (pool, mapping.markPoolReorged)

/-- How many transactions of the block were found in the pool, and the pool
without them. -/
def removeIncludedTransactions (pool : TransactionPool) (block : SealedBlock) :
    Nat × TransactionPool :=
  let blockTxHashes := block.block.body.transactions.map TransactionSigned.hash
  let txsToRemove := pool.pendingHashes.filter (· ∈ blockTxHashes) ++
    pool.queuedHashes.filter (· ∈ blockTxHashes)
  let pool := if 0 < txsToRemove.length then pool.removeTransactions txsToRemove else pool
  (txsToRemove.length, pool)

def isTransactionExpiredForPool (txHash : B256) (mapping : TxMapping)
    (currentBlockNumber : U64) : Bool :=
  match mapping.getSubmissionBlock txHash with
  | some txNumber =>
    txNumber + unexecutedTxRetentionBlocks < currentBlockNumber ||
      currentBlockNumber < txNumber
  | none => false

theorem removeTransactions_holds (pool : TransactionPool) (hashes : List B256) (h : B256) :
    (pool.removeTransactions hashes).Holds h ↔ pool.Holds h ∧ h ∉ hashes := by
  have side : ∀ txs : List Recovered,
      h ∈ (txs.filter fun t => t.tx.hash ∉ hashes).map (fun t => t.tx.hash) ↔
        h ∈ txs.map (fun t => t.tx.hash) ∧ h ∉ hashes := by
    intro txs
    simp only [List.mem_map, List.mem_filter, decide_eq_true_eq]
    constructor
    · rintro ⟨t, ⟨ht, hno⟩, rfl⟩
      exact ⟨⟨t, ht, rfl⟩, hno⟩
    · rintro ⟨⟨t, ht, rfl⟩, hno⟩
      exact ⟨t, ⟨ht, hno⟩, rfl⟩
  unfold TransactionPool.Holds
  rw [or_and_right]
  exact or_congr (side pool.pending) (side pool.queued)

theorem removeTransactions_append (pool : TransactionPool) (first second : List B256) :
    (pool.removeTransactions first).removeTransactions second =
      pool.removeTransactions (first ++ second) := by
  simp only [TransactionPool.removeTransactions, List.filter_filter, List.mem_append, not_or,
    Bool.decide_and, Bool.and_comm]

@[simp] theorem removeTransactions_nil (pool : TransactionPool) :
    pool.removeTransactions [] = pool := by
  simp [TransactionPool.removeTransactions]

/-- Hashes that the pool does not have make no difference to a removal. -/
theorem removeTransactions_congr {pool : TransactionPool} {first second : List B256}
    (same : ∀ h, pool.Holds h → (h ∈ first ↔ h ∈ second)) :
    pool.removeTransactions first = pool.removeTransactions second := by
  have side : ∀ txs : List Recovered, (∀ t ∈ txs, pool.Holds t.tx.hash) →
      (txs.filter fun t => t.tx.hash ∉ first) = txs.filter fun t => t.tx.hash ∉ second := by
    intro txs held
    refine List.filter_congr ?_
    intro t ht
    rw [decide_eq_decide, same _ (held t ht)]
  unfold TransactionPool.removeTransactions
  rw [side pool.pending fun t ht => Or.inl (List.mem_map_of_mem ht),
    side pool.queued fun t ht => Or.inr (List.mem_map_of_mem ht)]

/-- Whether the removal is skipped for want of hashes makes no difference. -/
theorem removeTransactions_of_pos (pool : TransactionPool) (hashes : List B256) :
    (if 0 < hashes.length then pool.removeTransactions hashes else pool) =
      pool.removeTransactions hashes := by
  cases hashes with
  | nil => simp
  | cons h rest => simp

/-- Removing the selected hashes of both lists keeps exactly the others; whether
there was anything to remove makes no difference. -/
theorem removeSelected_holds (pool : TransactionPool) (selected : B256 → Bool) (h : B256) :
    (if 0 < (pool.pendingHashes.filter selected ++ pool.queuedHashes.filter selected).length then
        pool.removeTransactions
          (pool.pendingHashes.filter selected ++ pool.queuedHashes.filter selected)
      else pool).Holds h ↔ pool.Holds h ∧ selected h = false := by
  have listed : h ∈ pool.pendingHashes.filter selected ++ pool.queuedHashes.filter selected ↔
      pool.Holds h ∧ selected h = true := by
    simp only [List.mem_append, List.mem_filter, TransactionPool.Holds, or_and_right]
  have removed : pool.Holds h ∧ h ∉ pool.pendingHashes.filter selected ++
      pool.queuedHashes.filter selected ↔ pool.Holds h ∧ selected h = false := by
    rw [listed]
    constructor
    · rintro ⟨hin, hno⟩
      exact ⟨hin, Bool.eq_false_iff.mpr fun hs => hno ⟨hin, hs⟩⟩
    · rintro ⟨hin, hs⟩
      exact ⟨hin, fun both => by simp [hs] at both⟩
  rw [removeTransactions_of_pos, removeTransactions_holds, removed]

/-- What the reorg cleanup leaves in the pool. -/
theorem handleKasplexPoolReorg_holds {spec : KasplexChainSpec} (kasplex : spec.isKasplex = true)
    (pool : TransactionPool) (mapping : TxMapping) (n : U64) (h : B256) :
    (handleKasplexPoolReorg spec pool mapping n).1.Holds h ↔
      pool.Holds h ∧ selectedForRemoval mapping n h = false := by
  unfold handleKasplexPoolReorg
  rw [kasplex]
  exact removeSelected_holds pool (selectedForRemoval mapping n) h

@[simp] theorem handleKasplexPoolReorg_mapping (spec : KasplexChainSpec) (pool : TransactionPool)
    (mapping : TxMapping) (n : U64) :
    (handleKasplexPoolReorg spec pool mapping n).2.mapping = mapping.mapping := by
  unfold handleKasplexPoolReorg
  split <;> rfl

/-- A hash is selected for a nonzero number outside the window below the head. -/
theorem selectedForRemoval_iff {mapping : TxMapping} {n : U64} {h : B256} :
    selectedForRemoval mapping n h = true ↔
      ∃ k, mapping.mapping h = some k ∧ 0 < k ∧
        (k + unexecutedTxRetentionBlocks < n ∨ n < k) := by
  unfold selectedForRemoval TxMapping.getSubmissionBlock
  cases hk : mapping.mapping h with
  | none => simp
  | some k =>
    simp only [Option.getD_some, Option.some.injEq, exists_eq_left']
    by_cases hold : k + unexecutedTxRetentionBlocks < n
    · simp [hold]
    · simp [hold]

end TxPool
