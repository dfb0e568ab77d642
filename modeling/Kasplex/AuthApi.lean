import Kasplex.TxPool
import Kasplex.PayloadAttributes

/-!
# Submissions over the authenticated API

A raw transaction is decoded and its fee cap checked; then its submission number
is recorded, one above the latest header, and only then is it handed to the
pool. A batch submits one after the other and lists the hashes that went in.
-/

namespace AuthApi

open Primitives MachineArith SubmissionNumbers TxPool PayloadAttributes

structure ErrorObject where
  code : Int
  message : String
  deriving DecidableEq, Repr

/-- What provider, decoder and pool answer during one call; an error is its
text. -/
structure Services where
  latestHeader : Except String (Option SealedHeader)
  recoverRawTransaction : Bytes → Except String Recovered
  tryFromConsensus : Recovered → Except String Recovered
  /-- The hash under which the pool added the transaction, and the pool after. -/
  addTransaction : TransactionPool → Recovered → Except String (B256 × TransactionPool)

def minL2BaseFee : U256 := 2000000000000

/-- Decoding and the check of the fee cap. -/
def recoverChecked (services : Services) (tx : Bytes) : Except ErrorObject Recovered :=
  if tx.isEmpty then .error ⟨1, "Empty transaction data"⟩
  else
    match services.recoverRawTransaction tx with
    | .error e => .error ⟨1, "Failed to decode transaction: " ++ e⟩
    | .ok recovered =>
      let gasFeeCap : U256 := recovered.tx.fees.maxFeePerGas.setWidth 256
      if gasFeeCap < minL2BaseFee then
        .error ⟨1, "max fee per gas (" ++ toString gasFeeCap.toNat ++
          ") is less than the minimum base fee (2000 GWei)"⟩
      else .ok recovered

/-- Record the number after the latest header; without one nothing is
recorded. -/
def recordNumber (services : Services) (mapping : TxMapping) (recovered : Recovered) :
    TxMapping :=
  match services.latestHeader with
  | .ok (some header) => mapping.insert recovered.tx.hash (header.header.number + 1)
  | _ => mapping

def addToPool (services : Services) (pool : TransactionPool) (recovered : Recovered) :
    Except ErrorObject (B256 × TransactionPool) := do
  let poolTransaction ← (services.tryFromConsensus recovered).mapError fun e =>
    ⟨1, "Failed to convert transaction to pool format: " ++ e⟩
  (services.addTransaction pool poolTransaction).mapError fun e =>
    ⟨1, "Failed to add transaction to pool: " ++ e⟩

/-- The number is recorded before the pool has seen the transaction, and kept if
the pool refuses it. -/
def sendRawTransaction (services : Services) (pool : TransactionPool) (mapping : TxMapping)
    (tx : Bytes) : Except ErrorObject B256 × TransactionPool × TxMapping :=
  match recoverChecked services tx with
  | .error err => (.error err, pool, mapping)
  | .ok recovered =>
    let mapping := recordNumber services mapping recovered
    match addToPool services pool recovered with
    | .error err => (.error err, pool, mapping)
    | .ok (hash, pool) => (.ok hash, pool, mapping)

/-- The batch, with what is answered to each of its elements. -/
def sendRawTransactions (pool : TransactionPool) (mapping : TxMapping) :
    List (Services × Bytes) → List B256 × TransactionPool × TxMapping
  | [] => ([], pool, mapping)
  | (services, tx) :: rest =>
    let (result, pool, mapping) := sendRawTransaction services pool mapping tx
    let (hashes, pool, mapping) := sendRawTransactions pool mapping rest
    match result with
    | .ok hash => (hash :: hashes, pool, mapping)
    | .error _ => (hashes, pool, mapping)

/-- The entry a call writes, whatever becomes of the transaction. -/
def recordedNumber (services : Services) (tx : Bytes) : Option (B256 × U64) :=
  match recoverChecked services tx with
  | .error _ => none
  | .ok recovered =>
    match services.latestHeader with
    | .ok (some header) => some (recovered.tx.hash, header.header.number + 1)
    | _ => none

theorem recoverChecked_eq_ok_iff {services : Services} {tx : Bytes} {recovered : Recovered} :
    recoverChecked services tx = .ok recovered ↔
      tx ≠ [] ∧ services.recoverRawTransaction tx = .ok recovered ∧
        minL2BaseFee ≤ recovered.tx.fees.maxFeePerGas.setWidth 256 := by
  unfold recoverChecked
  cases tx with
  | nil => simp
  | cons byte rest =>
    simp only [List.isEmpty_cons, Bool.false_eq_true, if_false, ne_eq, reduceCtorEq,
      not_false_eq_true, true_and]
    cases services.recoverRawTransaction (byte :: rest) with
    | error e => simp
    | ok r =>
      by_cases hlow : r.tx.fees.maxFeePerGas.setWidth 256 < minL2BaseFee
      · simp only [if_pos hlow]
        refine iff_of_false (by simp) ?_
        rintro ⟨hr, hcap⟩
        cases hr
        exact absurd hcap (BitVec.not_le.mpr hlow)
      · simp only [if_neg hlow, Except.ok.injEq]
        constructor
        · rintro rfl
          exact ⟨rfl, BitVec.not_lt.mp hlow⟩
        · rintro ⟨hr, -⟩
          exact hr

theorem recoverChecked_eq_ok {services : Services} {tx : Bytes} {recovered : Recovered}
    (h : recoverChecked services tx = .ok recovered) :
    services.recoverRawTransaction tx = .ok recovered :=
  (recoverChecked_eq_ok_iff.mp h).2.1

/-- The three ways a call can go. -/
theorem sendRawTransaction_cases (services : Services) (pool : TransactionPool)
    (mapping : TxMapping) (tx : Bytes) :
    (∃ err, recoverChecked services tx = .error err ∧
      sendRawTransaction services pool mapping tx = (.error err, pool, mapping)) ∨
    (∃ recovered err, recoverChecked services tx = .ok recovered ∧
      addToPool services pool recovered = .error err ∧
      sendRawTransaction services pool mapping tx =
        (.error err, pool, recordNumber services mapping recovered)) ∨
    (∃ recovered hash pool', recoverChecked services tx = .ok recovered ∧
      addToPool services pool recovered = .ok (hash, pool') ∧
      sendRawTransaction services pool mapping tx =
        (.ok hash, pool', recordNumber services mapping recovered)) := by
  unfold sendRawTransaction
  cases hchecked : recoverChecked services tx with
  | error err => exact Or.inl ⟨err, rfl, rfl⟩
  | ok recovered =>
    cases hadded : addToPool services pool recovered with
    | error err => exact Or.inr (Or.inl ⟨recovered, err, rfl, hadded, by simp only [hadded]⟩)
    | ok outcome =>
      exact Or.inr (Or.inr ⟨recovered, outcome.1, outcome.2, rfl, hadded, by simp only [hadded]⟩)

theorem sendRawTransaction_mapping (services : Services) (pool : TransactionPool)
    (mapping : TxMapping) (tx : Bytes) :
    (sendRawTransaction services pool mapping tx).2.2 =
      mapping.insertAll (recordedNumber services tx).toList := by
  unfold sendRawTransaction recordedNumber
  cases recoverChecked services tx with
  | error err => rfl
  | ok recovered =>
    have recorded : recordNumber services mapping recovered = mapping.insertAll
        (match services.latestHeader with
          | .ok (some header) => some (recovered.tx.hash, header.header.number + 1)
          | _ => none : Option (B256 × U64)).toList := by
      unfold recordNumber
      split <;> rfl
    simp only
    split <;> exact recorded

theorem sendRawTransactions_mapping (pool : TransactionPool) (mapping : TxMapping)
    (calls : List (Services × Bytes)) :
    (sendRawTransactions pool mapping calls).2.2 =
      mapping.insertAll (calls.flatMap fun c => (recordedNumber c.1 c.2).toList) := by
  induction calls generalizing pool mapping with
  | nil => rfl
  | cons c rest ih =>
    obtain ⟨services, tx⟩ := c
    rw [List.flatMap_cons, TxMapping.insertAll_append,
      ← sendRawTransaction_mapping services pool mapping tx,
      ← ih (sendRawTransaction services pool mapping tx).2.1]
    simp only [sendRawTransactions]
    split <;> rfl

/-- A call records the transaction its bytes decode to. -/
theorem recordedNumber_eq_some {services : Services} {tx : Bytes} {h : B256} {n : U64}
    (recorded : recordedNumber services tx = some (h, n)) :
    ∃ recovered, services.recoverRawTransaction tx = .ok recovered ∧ recovered.tx.hash = h := by
  unfold recordedNumber at recorded
  cases hchecked : recoverChecked services tx with
  | error err => simp [hchecked] at recorded
  | ok recovered =>
    simp only [hchecked] at recorded
    split at recorded
    · cases recorded
      exact ⟨recovered, recoverChecked_eq_ok hchecked, rfl⟩
    · cases recorded

/-- A transaction accepted on a header has the number after it. -/
theorem recordedNumber_of_accepted {services : Services} {pool : TransactionPool}
    {mapping : TxMapping} {tx : Bytes} {recovered : Recovered} {header : SealedHeader}
    {hash : B256} (decoded : services.recoverRawTransaction tx = .ok recovered)
    (latest : services.latestHeader = .ok (some header))
    (accepted : (sendRawTransaction services pool mapping tx).1 = .ok hash) :
    recordedNumber services tx = some (recovered.tx.hash, header.header.number + 1) := by
  cases hchecked : recoverChecked services tx with
  | error err => simp [sendRawTransaction, hchecked] at accepted
  | ok r =>
    have hr : r = recovered := by
      have both := (recoverChecked_eq_ok hchecked).symm.trans decoded
      exact Except.ok.inj both
    simp only [recordedNumber, hchecked, latest, hr]

section Failures

/-- The pool does not take the transaction: it cannot be converted, or it is
refused. -/
def Refused (services : Services) (pool : TransactionPool) (recovered : Recovered) : Prop :=
  (∃ e, services.tryFromConsensus recovered = .error e) ∨
    ∃ t e, services.tryFromConsensus recovered = .ok t ∧ services.addTransaction pool t = .error e

/-- The transaction passes the checks and gets a number it did not have, and is
then refused. -/
def FailsAfterRecording (services : Services) (pool : TransactionPool) (mapping : TxMapping)
    (tx : Bytes) : Prop :=
  ∃ recovered header, tx ≠ [] ∧ services.recoverRawTransaction tx = .ok recovered ∧
    minL2BaseFee ≤ recovered.tx.fees.maxFeePerGas.setWidth 256 ∧
    services.latestHeader = .ok (some header) ∧ Refused services pool recovered ∧
    mapping.getSubmissionBlock recovered.tx.hash ≠ some (header.header.number + 1)

theorem addToPool_error_iff {services : Services} {pool : TransactionPool}
    {recovered : Recovered} :
    (∃ err, addToPool services pool recovered = .error err) ↔
      Refused services pool recovered := by
  unfold addToPool Refused
  rw [exists_bind_eq_error_iff, exists_mapError_eq_error_iff]
  simp only [exists_mapError_eq_error_iff]
  refine or_congr_right (exists_congr fun t => ?_)
  constructor
  · rintro ⟨hconverted, e, hrefused⟩
    exact ⟨e, mapError_eq_ok hconverted, hrefused⟩
  · rintro ⟨e, hconverted, hrefused⟩
    exact ⟨by rw [hconverted]; rfl, e, hrefused⟩

/-- Recording changes the mapping unless there is no header, or the number is
there already. -/
theorem recordNumber_eq_self_iff {services : Services} {mapping : TxMapping}
    {recovered : Recovered} :
    recordNumber services mapping recovered = mapping ↔
      ∀ header, services.latestHeader = .ok (some header) →
        mapping.getSubmissionBlock recovered.tx.hash = some (header.header.number + 1) := by
  unfold recordNumber
  split
  · rename_i header hlatest
    rw [TxMapping.insert_eq_self_iff]
    constructor
    · intro recorded header' hlatest'
      cases hlatest.symm.trans hlatest'
      exact recorded
    · exact fun recorded => recorded header hlatest
  · rename_i hnone
    refine iff_of_true rfl ?_
    intro header hlatest
    exact absurd hlatest (hnone header)

/-- A call that fails leaves everything as it was, unless it fails after
recording. -/
theorem failed_unchanged_iff {services : Services} {pool : TransactionPool}
    {mapping : TxMapping} {tx : Bytes} {err : ErrorObject}
    (failed : (sendRawTransaction services pool mapping tx).1 = .error err) :
    (sendRawTransaction services pool mapping tx).2 = (pool, mapping) ↔
      ¬ FailsAfterRecording services pool mapping tx := by
  rcases sendRawTransaction_cases services pool mapping tx with
    ⟨e, hchecked, hsend⟩ | ⟨recovered, e, hchecked, hrefused, hsend⟩ |
    ⟨recovered, hash, pool', hchecked, hadded, hsend⟩
  · rw [hsend]
    refine iff_of_true rfl ?_
    rintro ⟨recovered, header, hbytes, hdecoded, hcap, -⟩
    rw [recoverChecked_eq_ok_iff.mpr ⟨hbytes, hdecoded, hcap⟩] at hchecked
    cases hchecked
  · rw [hsend, Prod.mk.injEq, and_iff_right rfl, recordNumber_eq_self_iff]
    obtain ⟨hbytes, hdecoded, hcap⟩ := recoverChecked_eq_ok_iff.mp hchecked
    constructor
    · rintro recorded ⟨r, header, -, hdecoded', -, hlatest, -, hnumber⟩
      cases hdecoded.symm.trans hdecoded'
      exact hnumber (recorded header hlatest)
    · intro traceless header hlatest
      by_contra hnumber
      exact traceless ⟨recovered, header, hbytes, hdecoded, hcap, hlatest,
        addToPool_error_iff.mp ⟨e, hrefused⟩, hnumber⟩
  · rw [hsend] at failed
    cases failed

/-- The batch up to an element, and from it on. -/
theorem sendRawTransactions_append (pool : TransactionPool) (mapping : TxMapping)
    (before after : List (Services × Bytes)) :
    (sendRawTransactions pool mapping (before ++ after)).1 =
      (sendRawTransactions pool mapping before).1 ++
        (sendRawTransactions (sendRawTransactions pool mapping before).2.1
          (sendRawTransactions pool mapping before).2.2 after).1 ∧
    (sendRawTransactions pool mapping (before ++ after)).2 =
      (sendRawTransactions (sendRawTransactions pool mapping before).2.1
        (sendRawTransactions pool mapping before).2.2 after).2 := by
  induction before generalizing pool mapping with
  | nil => exact ⟨rfl, rfl⟩
  | cons c rest ih =>
    obtain ⟨services, tx⟩ := c
    simp only [List.cons_append, sendRawTransactions]
    obtain ⟨hhashes, hstate⟩ := ih (sendRawTransaction services pool mapping tx).2.1
      (sendRawTransaction services pool mapping tx).2.2
    cases (sendRawTransaction services pool mapping tx).1 with
    | ok hash => exact ⟨by simp only [hhashes, List.cons_append], by simp only [hstate]⟩
    | error err => exact ⟨hhashes, hstate⟩

/-- Conversion keeps the hash of a transaction and the pool reports it. -/
def Services.KeepsHash (services : Services) : Prop :=
  ∀ recovered t pool hash pool', services.tryFromConsensus recovered = .ok t →
    services.addTransaction pool t = .ok (hash, pool') → hash = recovered.tx.hash

theorem sent_hash {services : Services} (keeps : services.KeepsHash) {pool : TransactionPool}
    {mapping : TxMapping} {tx : Bytes} {hash : B256}
    (sent : (sendRawTransaction services pool mapping tx).1 = .ok hash) :
    ∃ recovered, services.recoverRawTransaction tx = .ok recovered ∧
      hash = recovered.tx.hash := by
  rcases sendRawTransaction_cases services pool mapping tx with
    ⟨e, -, hsend⟩ | ⟨recovered, e, -, -, hsend⟩ | ⟨recovered, h, pool', hchecked, hadded, hsend⟩
  · rw [hsend] at sent
    cases sent
  · rw [hsend] at sent
    cases sent
  · rw [hsend] at sent
    cases sent
    obtain ⟨t, hconverted, hadded⟩ := bind_eq_ok hadded
    exact ⟨recovered, recoverChecked_eq_ok hchecked,
      keeps _ _ _ _ _ (mapError_eq_ok hconverted) (mapError_eq_ok hadded)⟩

theorem error_of_failsAfterRecording {services : Services} {pool : TransactionPool}
    {mapping : TxMapping} {tx : Bytes} (fails : FailsAfterRecording services pool mapping tx) :
    ∃ err, (sendRawTransaction services pool mapping tx).1 = .error err := by
  obtain ⟨recovered, header, hbytes, hdecoded, hcap, -, hrefused, -⟩ := fails
  obtain ⟨err, hadded⟩ := addToPool_error_iff.mpr hrefused
  have hchecked := recoverChecked_eq_ok_iff.mpr ⟨hbytes, hdecoded, hcap⟩
  exact ⟨err, by simp only [sendRawTransaction, hchecked, hadded]⟩

/-- An element that is not among the returned hashes failed. -/
theorem error_of_not_returned {services : Services} (keeps : services.KeepsHash)
    {pool : TransactionPool} {mapping : TxMapping} {before after : List (Services × Bytes)}
    {tx : Bytes}
    (unreturned : ∀ recovered, services.recoverRawTransaction tx = .ok recovered →
      recovered.tx.hash ∉
        (sendRawTransactions pool mapping (before ++ (services, tx) :: after)).1) :
    ∃ err, (sendRawTransaction services (sendRawTransactions pool mapping before).2.1
      (sendRawTransactions pool mapping before).2.2 tx).1 = .error err := by
  cases hsent : (sendRawTransaction services (sendRawTransactions pool mapping before).2.1
      (sendRawTransactions pool mapping before).2.2 tx).1 with
  | error err => exact ⟨err, rfl⟩
  | ok hash =>
    exfalso
    obtain ⟨recovered, hdecoded, hhash⟩ := sent_hash keeps hsent
    apply unreturned recovered hdecoded
    rw [(sendRawTransactions_append pool mapping before _).1]
    refine List.mem_append_right _ ?_
    simp only [sendRawTransactions, hsent, hhash, List.mem_cons, true_or]

/-- Failed submissions leave no trace exactly when they do not fail after
recording: for a single call, and for each element of a batch whose hash is not
among those returned, in the state at its turn. -/
theorem failed_submissions_traceless_iff (services : Services) (pool : TransactionPool)
    (mapping : TxMapping) (tx : Bytes) :
    ((∀ err, (sendRawTransaction services pool mapping tx).1 = .error err →
        (sendRawTransaction services pool mapping tx).2 = (pool, mapping)) ↔
      ¬ FailsAfterRecording services pool mapping tx) ∧
    (∀ before after : List (Services × Bytes), services.KeepsHash →
      (∀ recovered, services.recoverRawTransaction tx = .ok recovered →
        recovered.tx.hash ∉
          (sendRawTransactions pool mapping (before ++ (services, tx) :: after)).1) →
      ((sendRawTransactions pool mapping (before ++ [(services, tx)])).2 =
          (sendRawTransactions pool mapping before).2 ↔
        ¬ FailsAfterRecording services (sendRawTransactions pool mapping before).2.1
          (sendRawTransactions pool mapping before).2.2 tx)) := by
  refine ⟨⟨?_, ?_⟩, ?_⟩
  · intro unchanged fails
    obtain ⟨err, failed⟩ := error_of_failsAfterRecording fails
    exact (failed_unchanged_iff failed).mp (unchanged err failed) fails
  · intro traceless err failed
    exact (failed_unchanged_iff failed).mpr traceless
  · intro before after keeps unreturned
    obtain ⟨err, failed⟩ := error_of_not_returned keeps unreturned
    rw [(sendRawTransactions_append pool mapping before [(services, tx)]).2,
      ← failed_unchanged_iff failed]
    simp only [sendRawTransactions, failed]

/-- A node at block one, whose pool refuses what it has. -/
def knownServices : Services where
  latestHeader := .ok (some ⟨sampleHeader, sampleAlloy.hashSlow sampleHeader⟩)
  recoverRawTransaction := fun bytes =>
    match sampleDecode bytes with
    | some tx => .ok ⟨tx, sampleSigner⟩
    | none => .error "FailedToDecodeSignedTransaction"
  tryFromConsensus := .ok
  addTransaction := fun pool t =>
    if pool.Holds t.tx.hash then .error "AlreadyImported"
    else .ok (t.tx.hash, { pool with pending := pool.pending ++ [t] })

theorem knownServices_keepsHash : knownServices.KeepsHash := by
  intro recovered t pool hash pool' hconverted hadded
  cases hconverted
  simp only [knownServices] at hadded
  split at hadded
  · cases hadded
  · cases hadded
    rfl

/-- A pool with the first transfer. -/
def knownPool : TransactionPool := ⟨[⟨transfer0, sampleSigner⟩], []⟩

/-- Sent twice on block one, the transfer keeps its number and the second call
leaves no trace. -/
theorem failed_submissions_traceless_iff_same_header :
    (sendRawTransactions knownPool (TxMapping.empty.insert transfer0.hash 2)
      ([] ++ [(knownServices, encodeEip1559 transfer0)])).2 =
        (knownPool, TxMapping.empty.insert transfer0.hash 2) := by
  have hdecoded : (knownServices.recoverRawTransaction (encodeEip1559 transfer0)).toOption =
      some ⟨transfer0, sampleSigner⟩ := by decide +kernel
  have hreturned : (sendRawTransactions knownPool (TxMapping.empty.insert transfer0.hash 2)
      ([] ++ [(knownServices, encodeEip1559 transfer0)])).1 = [] := by decide +kernel
  refine ((failed_submissions_traceless_iff knownServices knownPool _
    (encodeEip1559 transfer0)).2 [] [] knownServices_keepsHash ?_).mpr ?_
  · intro recovered _
    rw [hreturned]
    exact List.not_mem_nil
  · rintro ⟨recovered, header, -, hrecovered, -, hlatest, -, hnumber⟩
    rw [hrecovered] at hdecoded
    cases Option.some.inj hdecoded
    cases hlatest
    exact hnumber (TxMapping.insert_mapping_self _ _ _)

/-- A transfer the pool has since block zero is sent again on block one: the pool
refuses it, and its number is another one afterwards. -/
theorem refused_submission_renumbers :
    (sendRawTransaction knownServices knownPool (TxMapping.empty.insert transfer0.hash 1)
      (encodeEip1559 transfer0)).1.toOption = none ∧
    (TxMapping.empty.insert transfer0.hash 1).getSubmissionBlock transfer0.hash = some 1 ∧
    (sendRawTransaction knownServices knownPool (TxMapping.empty.insert transfer0.hash 1)
      (encodeEip1559 transfer0)).2.2.getSubmissionBlock transfer0.hash = some 2 ∧
    (sendRawTransactions knownPool (TxMapping.empty.insert transfer0.hash 1)
      [(knownServices, encodeEip1559 transfer0)]).1 = [] ∧
    (sendRawTransactions knownPool (TxMapping.empty.insert transfer0.hash 1)
      [(knownServices, encodeEip1559 transfer0)]).2.2.getSubmissionBlock transfer0.hash =
        some 2 := by
  refine ⟨?_, ?_, ?_, ?_, ?_⟩
  · decide +kernel
  · decide +kernel
  · decide +kernel
  · decide +kernel
  · decide +kernel

end Failures

end AuthApi
