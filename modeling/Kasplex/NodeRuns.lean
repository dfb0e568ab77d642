import Kasplex.Runs
import Kasplex.EngineApi
import Kasplex.EngineValidator

/-!
# Runs of the node

The components share the submission numbers and the pool. A run is a sequence of
their calls in any order; the pool may change in any way between them, as the
node library maintains it. Two questions are asked of whole runs: what becomes
of the number of a transaction, and whether a fresh transaction stays in the
pool.
-/

namespace NodeRuns

open Primitives ChainSpec EvmConfig PayloadAttributes PayloadBuilder SubmissionNumbers EngineTypes
  EngineValidator TxPool AuthApi EngineApi Runs

structure Node where
  config : KasplexEvmConfig
  pool : TransactionPool
  mapping : TxMapping

/-- One call, with the answers of the components outside the node. -/
inductive Event where
  | sendRawTransaction (services : Services) (tx : Bytes)
  | sendRawTransactions (calls : List (Services × Bytes))
  | forkChoiceUpdatedV2 (inner : InnerApi) (provider : Provider) (state : ForkchoiceState)
      (attributes : Option KasplexPayloadAttributes)
  | newPayloadV2 (inner : InnerApi) (provider : Provider) (payload : KasplexExecutionData)
  | kasplexPayload (backend : Backend) (args : BuildArguments)
  | blockToPayload (block : SealedBlock)
  | ensureWellFormedPayload (data : ExecutionData)
  | poolChange (pool : TransactionPool)

/-- An engine call does here what it adds to the stock call, whose answer is given.
The validation of a payload inside the stock call is the event
`ensureWellFormedPayload`. -/
def step (alloy : Alloy) (s : Node) : Event → Node
  | .sendRawTransaction services tx =>
    let (_, pool, mapping) := sendRawTransaction services s.pool s.mapping tx
    { s with pool, mapping }
  | .sendRawTransactions calls =>
    let (_, pool, mapping) := sendRawTransactions s.pool s.mapping calls
    { s with pool, mapping }
  | .forkChoiceUpdatedV2 inner provider state attributes =>
    let (_, pool, mapping) := forkChoiceUpdatedV2 s.config.chainSpec inner provider s.pool
      s.mapping state attributes
    { s with pool, mapping }
  | .newPayloadV2 inner provider payload =>
    { s with pool := (newPayloadV2 alloy inner provider s.pool payload).2 }
  | .kasplexPayload backend args =>
    match kasplexPayload backend s.config s.mapping args with
    | (.ok (_, mapping), config) => { s with config, mapping }
    | (.error _, config) => { s with config }
  | .blockToPayload block => { s with mapping := (blockToPayload alloy s.mapping block).2 }
  | .ensureWellFormedPayload data =>
    { s with mapping := (ensureWellFormedPayload alloy s.mapping data).2 }
  | .poolChange pool => { s with pool }

/-- The entries a submission writes. -/
def submitted : Event → List (B256 × U64)
  | .sendRawTransaction services tx => (recordedNumber services tx).toList
  | .sendRawTransactions calls => calls.flatMap fun c => (recordedNumber c.1 c.2).toList
  | _ => []

/-- The hashes whose numbers a validation takes. -/
def validated (alloy : Alloy) : Event → List B256
  | .ensureWellFormedPayload data => decodedHashes alloy data.payload
  | _ => []

/-- The head number for which an event cleans the pool. -/
def announced : Event → Option U64
  | .forkChoiceUpdatedV2 inner provider state attributes =>
    match inner.forkChoiceUpdatedV2 state attributes with
    | .ok _ => cleanupHead provider state
    | .error _ => none
  | _ => none

section Entries

variable (alloy : Alloy) (s : Node) {e : Event} {h : B256}

/-- Also a build that fails or is cancelled stores the numbers of its block
again: it has none. -/
theorem step_kasplexPayload_mapping (backend : Backend) (args : BuildArguments) :
    (step alloy s (.kasplexPayload backend args)).mapping = s.mapping.recordAgain
      (frozenHashes (kasplexPayload backend s.config s.mapping args).1) := by
  simp only [step]
  split
  · rename_i outcome mapping config hbuild
    exact kasplexPayload_mapping (congrArg Prod.fst hbuild)
  · rename_i err config hbuild
    rw [hbuild]
    rfl

/-- The hashes whose numbers a build or a conversion stores as it reads them. -/
def readAgain (s : Node) : Event → List B256
  | .kasplexPayload backend args =>
    frozenHashes (kasplexPayload backend s.config s.mapping args).1
  | .blockToPayload block => block.block.body.transactions.map TransactionSigned.hash
  | _ => []

/-- What any event does to the entries: it stores what is submitted, stores
again what it reads, and takes what it validates. -/
theorem step_mapping (e : Event) :
    (step alloy s e).mapping.mapping =
      (takeNumbers ((s.mapping.insertAll (submitted e)).recordAgain (readAgain s e))
        (validated alloy e)).mapping := by
  cases e with
  | sendRawTransaction services tx =>
    exact congrArg TxMapping.mapping (sendRawTransaction_mapping services s.pool s.mapping tx)
  | sendRawTransactions calls =>
    exact congrArg TxMapping.mapping (sendRawTransactions_mapping s.pool s.mapping calls)
  | forkChoiceUpdatedV2 inner provider state attributes =>
    exact forkChoiceUpdatedV2_mapping _ _ _ _ _ _ _
  | newPayloadV2 inner provider payload => rfl
  | kasplexPayload backend args =>
    exact congrArg TxMapping.mapping (step_kasplexPayload_mapping alloy s backend args)
  | blockToPayload block =>
    exact congrArg TxMapping.mapping (blockToPayload_mapping alloy s.mapping block)
  | ensureWellFormedPayload data =>
    exact congrArg TxMapping.mapping (ensureWellFormedPayload_mapping alloy s.mapping data)
  | poolChange pool => rfl

/-- A hash that is not submitted keeps its entry, loses it to a validation, or
gets a zero where it had none. -/
theorem step_entry (unsubmitted : h ∉ (submitted e).map Prod.fst) :
    (step alloy s e).mapping.mapping h =
        (if h ∈ validated alloy e then none else s.mapping.mapping h) ∨
      (h ∉ validated alloy e ∧ s.mapping.mapping h = none ∧
        (step alloy s e).mapping.mapping h = some 0) := by
  have hentry : (step alloy s e).mapping.mapping h =
      if h ∈ validated alloy e then none
      else if h ∈ readAgain s e then some ((s.mapping.mapping h).getD 0)
      else s.mapping.mapping h := by
    rw [step_mapping, takeNumbers_mapping, TxMapping.recordAgain_mapping,
      TxMapping.insertAll_mapping_of_not_mem _ _ _ unsubmitted]
  by_cases taken : h ∈ validated alloy e
  · left
    rw [hentry, if_pos taken, if_pos taken]
  · rw [hentry, if_neg taken, if_neg taken]
    cases s.mapping.mapping h with
    | none =>
      by_cases hread : h ∈ readAgain s e
      · exact Or.inr ⟨taken, rfl, if_pos hread⟩
      · exact Or.inl (if_neg hread)
    | some k => exact Or.inl (ite_self _)

/-- A submission does nothing else. -/
theorem submitted_alone (listed : h ∈ (submitted e).map Prod.fst) :
    validated alloy e = [] ∧ readAgain s e = [] := by
  cases e with
  | sendRawTransaction services tx => exact ⟨rfl, rfl⟩
  | sendRawTransactions calls => exact ⟨rfl, rfl⟩
  | _ => cases listed

/-- A submitted hash has the number it is submitted with. -/
theorem step_entry_submitted {n : U64} (listed : h ∈ (submitted e).map Prod.fst)
    (agree : ∀ m, (h, m) ∈ submitted e → m = n) :
    (step alloy s e).mapping.mapping h = some n := by
  have agree' : ∀ entry ∈ submitted e, entry.1 = h → entry.2 = n := by
    rintro ⟨k, m⟩ hentry rfl
    exact agree m hentry
  obtain ⟨hvalidated, hread⟩ := submitted_alone alloy s listed
  rw [step_mapping, hvalidated, hread]
  exact s.mapping.insertAll_mapping_of_mem (submitted e) h n listed agree'

end Entries

section Samples

/-- A node at the sample parent, which takes every transaction it can decode. -/
def sampleServices : Services where
  latestHeader := .ok (some sampleParent)
  recoverRawTransaction := fun bytes =>
    match sampleDecode bytes with
    | some tx => .ok ⟨tx, sampleSigner⟩
    | none => .error "FailedToDecodeSignedTransaction"
  tryFromConsensus := .ok
  addTransaction := fun pool t => .ok (t.tx.hash, { pool with pending := pool.pending ++ [t] })

def sampleNode : Node := ⟨sampleConfig, .empty, .empty⟩

def submitTransfer : Event := .sendRawTransaction sampleServices (encodeEip1559 transfer0)

def afterSubmission : Node := step sampleAlloy sampleNode submitTransfer

def sampleInner : InnerApi where
  newPayloadV2 := fun data => .ok ⟨.valid, some data.payload.asV1.blockHash⟩
  forkChoiceUpdatedV2 := fun state _ => .ok ⟨⟨.valid, some state.headBlockHash⟩, none⟩

def sampleProvider : Provider where
  headerByHash := fun hash =>
    if hash = sampleParent.hash then .ok (some sampleParent.header)
    else if hash = sampleAlloy.hashSlow sampleHeader then .ok (some sampleHeader)
    else .ok none
  bestBlockNumber := .ok sampleHeader.number
  blockByHash := fun hash =>
    if hash = sampleAlloy.hashSlow sampleHeader then .ok (some sampleBlock) else .ok none

/-- A forkchoice update without attributes. -/
def announce (head : B256) : Event :=
  .forkChoiceUpdatedV2 sampleInner sampleProvider ⟨head, head, head⟩ none

def buildTransfers : Event := .kasplexPayload sampleBackend (transferArgs 30000000)

end Samples

section Numbers

/-- The builder and the conversion to a payload report this number for a
transaction, wherever it stands. -/
def Reports (mapping : TxMapping) (h : B256) (k : U64) : Prop :=
  (∀ tx : Recovered, tx.tx.hash = h → extractTransactionNumber mapping tx = k) ∧
    ∀ (block : SealedBlock) (i : Nat) (tx : TransactionSigned),
      block.block.body.transactions[i]? = some tx → tx.hash = h →
        (blockNumbers mapping block)[i]? = some k

/-- A payload that passes validation: it decodes, carries its own hash or none,
and its senders can be recovered. -/
def WellFormed (alloy : Alloy) (payload : ExecutionPayload) : Prop :=
  ∃ p block senders, payload = .v1 p ∧ alloy.tryIntoBlock p = .ok block ∧
    block.body.transactions.mapM alloy.tryRecover = some senders ∧
    (p.blockHash = 0 ∨ p.blockHash = alloy.hashSlow (fixWithdrawalsRoot block).header)

/-- No payload with this transaction is validated, and no payload with any
recorded transaction is rejected. A recorded zero cannot be lost. -/
def LeavesNumbers (alloy : Alloy) (h : B256) (k : U64) (s : Node) : Event → Prop
  | .ensureWellFormedPayload data =>
    (k = 0 ∨ h ∉ decodedHashes alloy data.payload) ∧
      (¬ WellFormed alloy data.payload →
        ∀ x ∈ decodedHashes alloy data.payload, s.mapping.getSubmissionBlock x = none)
  | _ => True

/-- A validation that rejects its payload changes no submission number. -/
def RejectsWithoutTrace (alloy : Alloy) (s : Node) : Event → Prop
  | .ensureWellFormedPayload data =>
    (∀ recovered, (ensureWellFormedPayload alloy s.mapping data).1 ≠ .ok recovered) →
      (ensureWellFormedPayload alloy s.mapping data).2 = s.mapping
  | _ => True

/-- An event that submits the transaction, whether or not it gets a number. -/
def Submits (h : B256) : Event → Prop
  | .sendRawTransaction services tx =>
    ∃ recovered, services.recoverRawTransaction tx = .ok recovered ∧ recovered.tx.hash = h
  | .sendRawTransactions calls =>
    ∃ c ∈ calls, ∃ recovered, c.1.recoverRawTransaction c.2 = .ok recovered ∧
      recovered.tx.hash = h
  | _ => False

theorem reports_iff {mapping : TxMapping} {h : B256} {k : U64} :
    Reports mapping h k ↔ (mapping.mapping h).getD 0 = k := by
  constructor
  · rintro ⟨hextract, -⟩
    exact hextract ⟨⟨h, .legacy 0, none, 0, 0, .create, 0, [], [], [], []⟩, 0⟩ rfl
  · rintro rfl
    refine ⟨?_, ?_⟩
    · rintro tx rfl
      rfl
    · rintro block i tx hi rfl
      simp [blockNumbers, hi, TxMapping.getSubmissionBlock]

theorem not_submitted_of_not_submits {h : B256} {e : Event} (once : ¬ Submits h e) :
    h ∉ (submitted e).map Prod.fst := by
  intro listed
  obtain ⟨⟨k, n⟩, hentry, rfl⟩ := List.mem_map.mp listed
  cases e with
  | sendRawTransaction services tx =>
    exact once (recordedNumber_eq_some (Option.mem_toList.mp hentry))
  | sendRawTransactions calls =>
    obtain ⟨c, hc, hentry⟩ := List.mem_flatMap.mp hentry
    exact once ⟨c, hc, recordedNumber_eq_some (Option.mem_toList.mp hentry)⟩
  | _ => cases hentry

theorem wellFormed_iff {alloy : Alloy} {data : ExecutionData} (mapping : TxMapping) :
    WellFormed alloy data.payload ↔
      ∃ recovered, (ensureWellFormedPayload alloy mapping data).1 = .ok recovered := by
  simp only [ensureWellFormedPayload_eq_ok_iff]
  constructor
  · rintro ⟨p, block, senders, hp, hb, hsenders, hhash⟩
    exact ⟨⟨alloy.sealSlow (fixWithdrawalsRoot block), senders⟩, p, block, hp, hb, hsenders, rfl,
      hhash⟩
  · rintro ⟨recovered, p, block, hp, hb, hsenders, -, hhash⟩
    exact ⟨p, block, recovered.senders, hp, hb, hsenders, hhash⟩

/-- What one event does to the number reported for a transaction that it does
not submit. -/
theorem step_reported {alloy : Alloy} {s : Node} {e : Event} {h : B256}
    (once : ¬ Submits h e) :
    ((step alloy s e).mapping.mapping h).getD 0 =
      if h ∈ validated alloy e then 0 else (s.mapping.mapping h).getD 0 := by
  rcases step_entry alloy s (not_submitted_of_not_submits once) with
    hstep | ⟨hkept, hnone, hzero⟩
  · rw [hstep]
    split <;> rfl
  · rw [hzero, if_neg hkept, hnone]
    rfl

/-- The condition on an event is exact. -/
theorem leavesNumbers_iff {alloy : Alloy} {s : Node} {e : Event} {h : B256} {k : U64}
    (once : ¬ Submits h e) (reported : (s.mapping.mapping h).getD 0 = k) :
    LeavesNumbers alloy h k s e ↔
      ((step alloy s e).mapping.mapping h).getD 0 = k ∧ RejectsWithoutTrace alloy s e := by
  rw [step_reported once, reported]
  cases e with
  | ensureWellFormedPayload data =>
    refine and_congr ?_ ?_
    · change _ ↔ (if h ∈ decodedHashes alloy data.payload then 0 else k) = k
      by_cases hin : h ∈ decodedHashes alloy data.payload
      · rw [if_pos hin, or_iff_left (not_not.mpr hin)]
        exact eq_comm
      · rw [if_neg hin]
        exact iff_of_true (Or.inr hin) rfl
    · refine imp_congr ?_ ?_
      · rw [wellFormed_iff s.mapping, not_exists]
      · rw [ensureWellFormedPayload_mapping, takeNumbers_eq_self_iff]
        rfl
  | _ => simp [LeavesNumbers, RejectsWithoutTrace, validated]

/-- Over a run that does not submit a transaction again, its number is reported
throughout and rejections leave no trace, exactly if no payload with it is
validated and no payload with a recorded transaction is rejected. -/
theorem numbers_stable_iff (alloy : Alloy) (s : Node) (h : B256) (k : U64)
    (recorded : s.mapping.getSubmissionBlock h = some k) (es : List Event)
    (once : ∀ e ∈ es, ¬ Submits h e) :
    ((∀ t, Reached (step alloy) s es t → Reports t.mapping h k) ∧
        Meets (step alloy) (RejectsWithoutTrace alloy) s es) ↔
      Meets (step alloy) (LeavesNumbers alloy h k) s es := by
  have start : (s.mapping.mapping h).getD 0 = k := by
    change s.mapping.mapping h = some k at recorded
    rw [recorded]
    rfl
  simp only [reports_iff]
  exact (meets_iff_invariant (fun s : Node => (s.mapping.mapping h).getD 0 = k)
    (fun s e => leavesNumbers_iff) start once).symm

/-- A payload of an empty block, without a hash. -/
def emptyPayload : ExecutionData :=
  ⟨.v1 (payloadFromBlock encodeEip1559 0 ⟨sampleParent.header, ⟨[], [], some []⟩⟩), .none⟩

def quietRun : List Event :=
  [buildTransfers, .blockToPayload (sampleAlloy.sealSlow sampleBlock),
    .ensureWellFormedPayload emptyPayload, announce (sampleAlloy.hashSlow sampleHeader),
    buildTransfers]

/-- A submitted transfer is built twice around a conversion, the validation of
another payload and a forkchoice update. -/
theorem numbers_stable_iff_quiet_run :
    Reports (run (step sampleAlloy) afterSubmission quietRun).mapping transfer0.hash 1 := by
  have hempty : decodedHashes sampleAlloy emptyPayload.payload = [] := by decide +kernel
  have once : ∀ e ∈ quietRun, ¬ Submits transfer0.hash e := by
    simp [quietRun, buildTransfers, announce, Submits]
  have quiet : Meets (step sampleAlloy) (LeavesNumbers sampleAlloy transfer0.hash 1)
      afterSubmission quietRun := by
    simp [quietRun, Meets, LeavesNumbers, hempty, buildTransfers, announce]
  exact ((numbers_stable_iff sampleAlloy afterSubmission transfer0.hash 1 (by decide +kernel)
    quietRun once).mpr quiet).1 _ (reached_run _ _ _)

/-- The block of the two transfers under a hash that is not its own. -/
def misnamedPayload : ExecutionData :=
  ⟨.v1 (payloadFromBlock encodeEip1559 1 sampleBlock), .none⟩

/-- The rejection of a payload takes the number of a submitted transfer. -/
theorem rejected_payload_takes_number :
    afterSubmission.mapping.getSubmissionBlock transfer0.hash = some 1 ∧
      (ensureWellFormedPayload sampleAlloy afterSubmission.mapping misnamedPayload).1.isOk =
        false ∧
      extractTransactionNumber
        (step sampleAlloy afterSubmission (.ensureWellFormedPayload misnamedPayload)).mapping
        ⟨transfer0, sampleSigner⟩ = 0 := by
  refine ⟨?_, ?_, ?_⟩
  · decide +kernel
  · decide +kernel
  · decide +kernel

end Numbers

section FreshTransactions

/-- The transaction is sent again only on the header it was first sent on, and
that header is not announced while the transaction has its number. -/
structure OffSubmissionHead (h : B256) (number : U64) (s : Node) (e : Event) : Prop where
  resubmission : ∀ n, (h, n) ∈ submitted e → n = number + 1
  cleanup : announced e = some number → s.mapping.getSubmissionBlock h ≠ some (number + 1)

/-- The number of the submission, or none that the cleanup looks at. -/
def HasNumberOrNone (h : B256) (number : U64) (s : Node) : Prop :=
  s.mapping.mapping h = some (number + 1) ∨ s.mapping.mapping h = none ∨
    s.mapping.mapping h = some 0

theorem step_hasNumberOrNone {alloy : Alloy} {s : Node} {e : Event} {h : B256} {number : U64}
    (inv : HasNumberOrNone h number s) (off : OffSubmissionHead h number s e) :
    HasNumberOrNone h number (step alloy s e) := by
  by_cases listed : h ∈ (submitted e).map Prod.fst
  · exact Or.inl (step_entry_submitted alloy s listed off.resubmission)
  · rcases step_entry alloy s listed with hstep | ⟨-, -, hzero⟩
    · by_cases htaken : h ∈ validated alloy e
      · rw [if_pos htaken] at hstep
        exact Or.inr (Or.inl hstep)
      · rw [if_neg htaken] at hstep
        unfold HasNumberOrNone
        rw [hstep]
        exact inv
    · exact Or.inr (Or.inr hzero)

/-- Only a cleanup takes a transaction out of the pool in an event that has a
head. -/
theorem selected_of_step {alloy : Alloy} {s : Node} {e : Event} {h : B256} {n : U64}
    (head : announced e = some n) (held : s.pool.Holds h)
    (gone : ¬ (step alloy s e).pool.Holds h) : selectedForRemoval s.mapping n h = true := by
  cases e with
  | forkChoiceUpdatedV2 inner provider state attributes =>
    obtain ⟨n', hn', hselected⟩ := selected_of_removed held gone
    cases hinner : inner.forkChoiceUpdatedV2 state attributes with
    | error err => simp [announced, hinner] at head
    | ok result =>
      simp only [announced, hinner, hn', Option.some.injEq] at head
      rwa [← head]
  | _ => cases head

theorem toNat_number_succ {number : U64} (room : number.toNat + 101 < 2 ^ 64) :
    (number + 1).toNat = number.toNat + 1 :=
  MachineArith.toNat_add_of_lt (by change _ + 1 < _; omega)

/-- The two ends of the window of a transaction sent on a header, away from that
header. -/
theorem removed_outside_window {s : Node} {h : B256} {number n : U64}
    (room : number.toNat + 101 < 2 ^ 64) (inv : HasNumberOrNone h number s)
    (off : n = number → s.mapping.getSubmissionBlock h ≠ some (number + 1))
    (selected : selectedForRemoval s.mapping n h = true) :
    s.mapping.mapping h = some (number + 1) ∧
      (n.toNat < number.toNat ∨ number.toNat + 101 < n.toNat) := by
  obtain ⟨k, hk, hpos, hwindow⟩ := selectedForRemoval_iff.mp selected
  have hnumber : s.mapping.mapping h = some (number + 1) := by
    rcases inv with hnumber | hnone | hzero
    · exact hnumber
    · rw [hnone] at hk
      cases hk
    · rw [hzero] at hk
      cases hk
      exact absurd hpos (by decide)
  refine ⟨hnumber, ?_⟩
  have hne : n.toNat ≠ number.toNat := fun heq => off (BitVec.eq_of_toNat_eq heq) hnumber
  cases hk.symm.trans hnumber
  have hone := toNat_number_succ room
  have hold : (number + 1 + unexecutedTxRetentionBlocks).toNat = number.toNat + 101 := by
    rw [MachineArith.toNat_add_of_lt (by rw [hone]; change _ + 100 < _; omega), hone]
    rfl
  rcases hwindow with hwindow | hwindow
  · rw [BitVec.lt_def, hold] at hwindow
    exact Or.inr hwindow
  · rw [BitVec.lt_def, hone] at hwindow
    exact Or.inl (by omega)

/-- A transaction accepted on a header is not taken out of the pool by a cleanup
for that header's number or one of the hundred after it, and as one of the
future only by a cleanup for a smaller number, in runs that keep off the header
itself. -/
theorem fresh_transaction_kept (alloy : Alloy) (s : Node) (services : Services) (tx : Bytes)
    (recovered : Recovered) (header : SealedHeader) (hash : B256)
    (decoded : services.recoverRawTransaction tx = .ok recovered)
    (latest : services.latestHeader = .ok (some header))
    (accepted : (sendRawTransaction services s.pool s.mapping tx).1 = .ok hash)
    (room : header.header.number.toNat + 101 < 2 ^ 64) (before after : List Event) (e : Event)
    (off : Meets (step alloy) (OffSubmissionHead recovered.tx.hash header.header.number)
      (step alloy s (.sendRawTransaction services tx)) (before ++ e :: after))
    (n : U64) (head : announced e = some n)
    (held : (run (step alloy) (step alloy s (.sendRawTransaction services tx))
      before).pool.Holds recovered.tx.hash) :
    let t := run (step alloy) (step alloy s (.sendRawTransaction services tx)) before
    (header.header.number.toNat ≤ n.toNat →
        n.toNat ≤ header.header.number.toNat + unexecutedTxRetentionBlocks.toNat →
        (step alloy t e).pool.Holds recovered.tx.hash) ∧
      (∀ k, t.mapping.getSubmissionBlock recovered.tx.hash = some k → n < k →
        ¬ (step alloy t e).pool.Holds recovered.tx.hash →
          n.toNat < header.header.number.toNat) := by
  intro t
  obtain ⟨hbefore, hevent, -⟩ := meets_append.mp off
  have start : HasNumberOrNone recovered.tx.hash header.header.number
      (step alloy s (.sendRawTransaction services tx)) := by
    have hrecorded := recordedNumber_of_accepted decoded latest accepted
    refine Or.inl (step_entry_submitted alloy s ?_ ?_)
    · simp [submitted, hrecorded]
    · intro m hm
      simpa [submitted, hrecorded] using hm
  have inv : HasNumberOrNone recovered.tx.hash header.header.number t :=
    run_invariant _ (fun _ _ => step_hasNumberOrNone) start hbefore
  have removed : ¬ (step alloy t e).pool.Holds recovered.tx.hash →
      t.mapping.mapping recovered.tx.hash = some (header.header.number + 1) ∧
        (n.toNat < header.header.number.toNat ∨ header.header.number.toNat + 101 < n.toNat) := by
    intro gone
    refine removed_outside_window room inv ?_ (selected_of_step head held gone)
    rintro rfl
    exact hevent.cleanup head
  refine ⟨?_, ?_⟩
  · intro hlow hhigh
    change n.toNat ≤ _ + 100 at hhigh
    by_contra gone
    obtain ⟨-, hout⟩ := removed gone
    omega
  · intro k hk hfuture gone
    obtain ⟨hnumber, hout⟩ := removed gone
    cases hk.symm.trans hnumber
    rw [BitVec.lt_def, toNat_number_succ room] at hfuture
    omega

/-- The transfer sent on block zero is still there after block one, with it, is
built and announced. -/
theorem fresh_transaction_kept_next_block :
    (step sampleAlloy (run (step sampleAlloy) afterSubmission [buildTransfers])
      (announce (sampleAlloy.hashSlow sampleHeader))).pool.Holds transfer0.hash := by
  have head : announced (announce (sampleAlloy.hashSlow sampleHeader)) = some 1 := by
    decide +kernel
  have off : Meets (step sampleAlloy) (OffSubmissionHead transfer0.hash 0) afterSubmission
      ([buildTransfers] ++ announce (sampleAlloy.hashSlow sampleHeader) :: []) := by
    refine ⟨⟨?_, ?_⟩, ⟨?_, ?_⟩, trivial⟩
    · simp [submitted, buildTransfers]
    · simp [announced, buildTransfers]
    · simp [submitted, announce]
    · rw [head]
      simp
  exact (fresh_transaction_kept sampleAlloy sampleNode sampleServices (encodeEip1559 transfer0)
    ⟨transfer0, sampleSigner⟩ sampleParent transfer0.hash (by decide +kernel) rfl
    (by decide +kernel) (by decide) [buildTransfers] []
    (announce (sampleAlloy.hashSlow sampleHeader)) off 1 head (by decide +kernel)).1
    (by decide) (by decide)

/-- The transfer sent on block zero is gone after block zero is announced
again. -/
theorem announced_again_evicts :
    sampleServices.latestHeader = .ok (some sampleParent) ∧
      (sendRawTransaction sampleServices sampleNode.pool sampleNode.mapping
        (encodeEip1559 transfer0)).1.toOption = some transfer0.hash ∧
      announced (announce sampleParent.hash) = some sampleParent.header.number ∧
      afterSubmission.pool.Holds transfer0.hash ∧
      ¬ (step sampleAlloy afterSubmission (announce sampleParent.hash)).pool.Holds
        transfer0.hash := by
  refine ⟨rfl, ?_, ?_, ?_, ?_⟩
  · decide +kernel
  · decide +kernel
  · decide +kernel
  · decide +kernel

end FreshTransactions

end NodeRuns
