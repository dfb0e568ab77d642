import Kasplex.Primitives

/-!
# Submission numbers of transactions

One map, shared by the whole process, from transaction hashes to the block
number recorded at submission. Two readers exist: `getSubmissionBlock` leaves
the entry, `getTxNumber` removes it and reports an absent entry as zero.
-/

namespace SubmissionNumbers

open Primitives

/-- Blocks an unexecuted transaction is kept for. -/
def unexecutedTxRetentionBlocks : U64 := 100

structure TxMapping where
  mapping : B256 → Option U64
  reorgInProgress : Bool

namespace TxMapping

def empty : TxMapping := ⟨fun _ => none, false⟩

def insert (m : TxMapping) (txHash : B256) (blockNumber : U64) : TxMapping :=
  { m with mapping := Function.update m.mapping txHash (some blockNumber) }

def getSubmissionBlock (m : TxMapping) (txHash : B256) : Option U64 := m.mapping txHash

/-- The number of a hash, zero when absent; the entry is removed. -/
def getTxNumber (m : TxMapping) (txHash : B256) : U64 × TxMapping :=
  ((m.mapping txHash).getD 0, { m with mapping := Function.update m.mapping txHash none })

def markStartPoolReorg (m : TxMapping) : TxMapping := { m with reorgInProgress := true }

def markPoolReorged (m : TxMapping) : TxMapping := { m with reorgInProgress := false }

/-- Submitted too long ago, or after the current block. -/
def isTransactionExpired (m : TxMapping) (txHash : B256) (currentBlockNumber : U64) : Bool :=
  match m.mapping txHash with
  | some submissionBlock =>
    submissionBlock + unexecutedTxRetentionBlocks < currentBlockNumber ||
      currentBlockNumber < submissionBlock
  | none => false

/-- Insert the numbers one after the other. -/
def insertAll (m : TxMapping) : List (B256 × U64) → TxMapping
  | [] => m
  | (h, n) :: rest => (m.insert h n).insertAll rest

@[simp] theorem insert_mapping_self (m : TxMapping) (h : B256) (n : U64) :
    (m.insert h n).mapping h = some n := by
  simp [insert]

theorem insert_mapping_of_ne (m : TxMapping) {h k : B256} (n : U64) (ne : k ≠ h) :
    (m.insert h n).mapping k = m.mapping k := by
  simp [insert, ne]

theorem insert_eq_self_iff {m : TxMapping} {h : B256} {n : U64} :
    m.insert h n = m ↔ m.mapping h = some n := by
  constructor
  · intro same
    rw [← same, insert_mapping_self]
  · intro recorded
    simp only [insert, ← recorded, Function.update_eq_self]

theorem insertAll_append (m : TxMapping) (before after : List (B256 × U64)) :
    m.insertAll (before ++ after) = (m.insertAll before).insertAll after := by
  induction before generalizing m with
  | nil => rfl
  | cons e rest ih => exact ih (m.insert e.1 e.2)

/-- A listed hash ends with the last number listed for it. -/
theorem insertAll_mapping (m : TxMapping) (entries : List (B256 × U64)) (k : B256) :
    (m.insertAll entries).mapping k = (entries.reverse.lookup k).or (m.mapping k) := by
  induction entries generalizing m with
  | nil => rfl
  | cons e rest ih =>
    obtain ⟨h, n⟩ := e
    rw [insertAll, ih, List.reverse_cons, List.lookup_append, Option.or_assoc]
    congr 1
    by_cases hk : k = h
    · subst hk
      simp
    · have hne : (k == h) = false := beq_eq_false_iff_ne.mpr hk
      rw [insert_mapping_of_ne m n hk, List.lookup_cons, hne, List.lookup_nil]
      rfl

/-- Hashes that are not listed keep their entry. -/
theorem insertAll_mapping_of_not_mem (m : TxMapping) (entries : List (B256 × U64)) (k : B256)
    (absent : k ∉ entries.map Prod.fst) : (m.insertAll entries).mapping k = m.mapping k := by
  have hnone : entries.reverse.lookup k = none := by
    rw [List.lookup_eq_none_iff]
    intro e he
    rw [bne_iff_ne]
    rintro rfl
    exact absent (List.mem_map_of_mem (List.mem_reverse.mp he))
  rw [insertAll_mapping, hnone]
  rfl

/-- If all numbers listed for a hash agree, that is the number it ends with. -/
theorem insertAll_mapping_of_mem (m : TxMapping) (entries : List (B256 × U64)) (k : B256)
    (n : U64) (listed : k ∈ entries.map Prod.fst)
    (agree : ∀ e ∈ entries, e.1 = k → e.2 = n) :
    (m.insertAll entries).mapping k = some n := by
  rw [insertAll_mapping]
  cases hlookup : entries.reverse.lookup k with
  | none =>
    obtain ⟨e, he, rfl⟩ := List.mem_map.mp listed
    have hne := List.lookup_eq_none_iff.mp hlookup e (List.mem_reverse.mpr he)
    exact absurd rfl (bne_iff_ne.mp hne)
  | some v =>
    obtain ⟨before, after, hsplit, -⟩ := List.lookup_eq_some_iff.mp hlookup
    have hin : (k, v) ∈ entries := by
      rw [← List.mem_reverse, hsplit]
      exact List.mem_append_right _ List.mem_cons_self
    exact congrArg some (agree (k, v) hin rfl)

/-- Store for each hash the number it has, zero when it has none. -/
def recordAgain (m : TxMapping) (hashes : List B256) : TxMapping :=
  m.insertAll (hashes.map fun h => (h, (m.getSubmissionBlock h).getD 0))

/-- Storing the numbers again changes the absent ones to zero, and only those
of the listed hashes. -/
theorem recordAgain_mapping (m : TxMapping) (hashes : List B256) (k : B256) :
    (m.recordAgain hashes).mapping k =
      if k ∈ hashes then some ((m.mapping k).getD 0) else m.mapping k := by
  have hfst : (hashes.map fun h => (h, (m.getSubmissionBlock h).getD 0)).map Prod.fst = hashes := by
    simp [Function.comp_def]
  unfold recordAgain
  split
  · rename_i hk
    refine insertAll_mapping_of_mem m _ k _ (by rwa [hfst]) ?_
    intro e he hek
    obtain ⟨h, -, rfl⟩ := List.mem_map.mp he
    change h = k at hek
    rw [hek]
    rfl
  · rename_i hk
    exact insertAll_mapping_of_not_mem m _ k (by rwa [hfst])

end TxMapping

end SubmissionNumbers
