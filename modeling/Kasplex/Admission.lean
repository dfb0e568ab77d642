import Kasplex.NodeRuns

/-!
# How transactions get into the pool

Besides the authenticated API there are two methods of the public one that hand
a transaction to the pool, and they neither check its fee cap nor record a
number. The authenticated API checks the cap, but hands a transaction on without
a number when there is no latest header. A run keeps track of what entered the
pool through any of these methods, and of what still waits in it.
-/

namespace Admission

open Primitives EngineValidator SubmissionNumbers TxPool AuthApi Runs
open PayloadAttributes (transfer0 encodeEip1559 sampleSigner sampleParent sampleAlloy)
open NodeRuns (Node sampleNode sampleServices)

/-- What decoder, pool and the stock API answer during one call. -/
structure EthServices where
  recoverRawTransaction : Bytes → Except String Recovered
  fromPooled : Recovered → Recovered
  /-- The hash under which the pool added the transaction, and the pool after. -/
  addTransaction : TransactionPool → Recovered → Except String (B256 × TransactionPool)
  /-- The stock method for a transaction that is signed already. -/
  sendTransaction : TransactionPool → Recovered → Except String (B256 × TransactionPool)

/-- The answer to a caller and the pool after, from what the pool answers. -/
def submit (pool : TransactionPool) :
    Except String (B256 × TransactionPool) → Except String B256 × TransactionPool
  | .error e => (.error e, pool)
  | .ok (hash, pool) => (.ok hash, pool)

def ethSendRawTransaction (services : EthServices) (pool : TransactionPool) (tx : Bytes) :
    Except String B256 × TransactionPool :=
  match services.recoverRawTransaction tx with
  | .error e => (.error e, pool)
  | .ok recovered =>
    submit pool (services.addTransaction pool (services.fromPooled recovered))

def ethSendTransaction (services : EthServices) (pool : TransactionPool) (tx : Recovered) :
    Except String B256 × TransactionPool :=
  submit pool (services.sendTransaction pool tx)

/-- A call of one of the methods. A batch is sent element by element; what does
not submit is a call of the node. -/
inductive Event where
  | ethSendRawTransaction (services : EthServices) (tx : Bytes)
  | ethSendTransaction (services : EthServices) (tx : Recovered)
  | authSendRawTransaction (services : Services) (tx : Bytes)
  | other (e : NodeRuns.Event) (unsubmitting : ∀ h, ¬ NodeRuns.Submits h e)

def step (alloy : Alloy) (s : Node) : Event → Node
  | .ethSendRawTransaction services tx =>
    { s with pool := (ethSendRawTransaction services s.pool tx).2 }
  | .ethSendTransaction services tx =>
    { s with pool := (ethSendTransaction services s.pool tx).2 }
  | .authSendRawTransaction services tx =>
    NodeRuns.step alloy s (.sendRawTransaction services tx)
  | .other e _ => NodeRuns.step alloy s e

/-- The transaction a call submits. -/
def decoded : Event → Option Recovered
  | .ethSendRawTransaction services tx => (services.recoverRawTransaction tx).toOption
  | .ethSendTransaction _ tx => some tx
  | .authSendRawTransaction services tx => (services.recoverRawTransaction tx).toOption
  | .other _ _ => none

/-- The call returns a hash. -/
def accepted (s : Node) : Event → Bool
  | .ethSendRawTransaction services tx => (ethSendRawTransaction services s.pool tx).1.isOk
  | .ethSendTransaction services tx => (ethSendTransaction services s.pool tx).1.isOk
  | .authSendRawTransaction services tx =>
    (sendRawTransaction services s.pool s.mapping tx).1.isOk
  | .other _ _ => false

def admitted (s : Node) (e : Event) : List Recovered :=
  if accepted s e then (decoded e).toList else []

def validated (alloy : Alloy) : Event → List B256
  | .other e _ => NodeRuns.validated alloy e
  | _ => []

/-- A payload with the transaction is validated, or the transaction leaves the
pool. -/
def Consumes (alloy : Alloy) (s : Node) (e : Event) (h : B256) : Prop :=
  h ∈ validated alloy e ∨ (s.pool.Holds h ∧ ¬ (step alloy s e).pool.Holds h)

/-- A node, with the transactions that entered its pool by one of the methods and
the hashes that have not been consumed since. -/
structure Tracked where
  node : Node
  entered : List Recovered
  waiting : B256 → Prop

def Tracked.init (s : Node) : Tracked := ⟨s, [], fun _ => False⟩

def track (alloy : Alloy) (t : Tracked) (e : Event) : Tracked where
  node := step alloy t.node e
  entered := t.entered ++ admitted t.node e
  waiting h := (t.waiting h ∧ ¬ Consumes alloy t.node e h) ∨
    ∃ recovered ∈ admitted t.node e, recovered.tx.hash = h

def Capped (tx : TransactionSigned) : Prop := minL2BaseFee ≤ tx.fees.maxFeePerGas.setWidth 256

def Numbered (mapping : TxMapping) (h : B256) : Prop :=
  ∃ number, mapping.getSubmissionBlock h = some number ∧ number ≠ 0

/-- What entered has a fee cap the chain can charge, and what waits has a
number. -/
structure Kept (t : Tracked) : Prop where
  capped : ∀ recovered ∈ t.entered, Capped recovered.tx
  numbered : ∀ h, t.waiting h → Numbered t.node.mapping h

/-- A submission without cap or number leaves the pool as it is. -/
def AddsNothing (alloy : Alloy) (t : Tracked) (e : Event) : Prop :=
  ∀ recovered, decoded e = some recovered →
    ¬ (Capped recovered.tx ∧ Numbered (step alloy t.node e).mapping recovered.tx.hash) →
      (step alloy t.node e).pool = t.node.pool

/-- The number a submission over the authenticated API finds or gets. -/
def FindsNumber (services : Services) (mapping : TxMapping) (h : B256) : Prop :=
  match services.latestHeader with
  | .ok (some header) => header.header.number + 1 ≠ 0
  | _ => Numbered mapping h

/-- What the public methods hand to the pool has its cap and a number already,
unless the pool refuses it. A submission over the authenticated API finds or
gets a number, unless it is refused and does not wait already. -/
def Established (t : Tracked) : Event → Prop
  | .ethSendRawTransaction services tx =>
    ∀ recovered outcome, services.recoverRawTransaction tx = .ok recovered →
      services.addTransaction t.node.pool (services.fromPooled recovered) = .ok outcome →
        Capped recovered.tx ∧ Numbered t.node.mapping recovered.tx.hash
  | .ethSendTransaction services tx =>
    ∀ outcome, services.sendTransaction t.node.pool tx = .ok outcome →
      Capped tx.tx ∧ Numbered t.node.mapping tx.tx.hash
  | .authSendRawTransaction services tx =>
    ∀ recovered, tx ≠ [] → services.recoverRawTransaction tx = .ok recovered →
      Capped recovered.tx →
        FindsNumber services t.node.mapping recovered.tx.hash ∨
          (Refused services t.node.pool recovered ∧ ¬ t.waiting recovered.tx.hash)
  | .other _ _ => True

theorem submit_ok {pool : TransactionPool} {answer : Except String (B256 × TransactionPool)} :
    (submit pool answer).1.isOk = answer.isOk := by
  cases answer with
  | error e => rfl
  | ok outcome => rfl

theorem submit_pool {pool : TransactionPool} {answer : Except String (B256 × TransactionPool)}
    (refused : (submit pool answer).1.isOk = false) : (submit pool answer).2 = pool := by
  cases answer with
  | error e => rfl
  | ok outcome => cases refused

/-- Without a hash in return the pool is as before, for every method. -/
theorem pool_of_not_accepted {alloy : Alloy} {s : Node} {e : Event} {recovered : Recovered}
    (submission : decoded e = some recovered) (refused : accepted s e = false) :
    (step alloy s e).pool = s.pool := by
  cases e with
  | ethSendRawTransaction services tx =>
    change (ethSendRawTransaction services s.pool tx).2 = s.pool
    change (ethSendRawTransaction services s.pool tx).1.isOk = false at refused
    unfold ethSendRawTransaction at refused ⊢
    split
    · rfl
    · rename_i r hr
      rw [hr] at refused
      exact submit_pool refused
  | ethSendTransaction services tx => exact submit_pool refused
  | authSendRawTransaction services tx =>
    change (sendRawTransaction services s.pool s.mapping tx).2.1 = s.pool
    change (sendRawTransaction services s.pool s.mapping tx).1.isOk = false at refused
    rcases sendRawTransaction_cases services s.pool s.mapping tx with
      ⟨err, -, hsend⟩ | ⟨r, err, -, -, hsend⟩ | ⟨r, hash, pool', -, -, hsend⟩
    · rw [hsend]
    · rw [hsend]
    · rw [hsend] at refused
      cases refused
  | other e unsubmitting => cases submission

/-- The invariant after a call, in terms of what it admits and of what keeps
waiting. -/
theorem track_kept_iff {alloy : Alloy} {t : Tracked} (kept : Kept t) (e : Event) :
    Kept (track alloy t e) ↔
      (∀ recovered ∈ admitted t.node e, Capped recovered.tx ∧
        Numbered (step alloy t.node e).mapping recovered.tx.hash) ∧
      ∀ h, t.waiting h → ¬ Consumes alloy t.node e h →
        Numbered (step alloy t.node e).mapping h := by
  constructor
  · rintro ⟨capped, numbered⟩
    refine ⟨?_, ?_⟩
    · intro recovered hin
      exact ⟨capped recovered (List.mem_append_right _ hin),
        numbered _ (Or.inr ⟨recovered, hin, rfl⟩)⟩
    · intro h waiting unconsumed
      exact numbered h (Or.inl ⟨waiting, unconsumed⟩)
  · rintro ⟨new, old⟩
    refine ⟨?_, ?_⟩
    · intro recovered hin
      rcases List.mem_append.mp hin with hin | hin
      · exact kept.capped recovered hin
      · exact (new recovered hin).1
    · rintro h (⟨waiting, unconsumed⟩ | ⟨recovered, hin, rfl⟩)
      · exact old h waiting unconsumed
      · exact (new recovered hin).2

theorem mem_admitted {s : Node} {e : Event} {recovered : Recovered} :
    recovered ∈ admitted s e ↔ accepted s e = true ∧ decoded e = some recovered := by
  unfold admitted
  split
  · rename_i haccepted
    rw [Option.mem_toList, and_iff_right haccepted]
  · rename_i hrefused
    refine iff_of_false List.not_mem_nil ?_
    exact fun both => hrefused both.1

theorem addsNothing_of_kept {alloy : Alloy} {t : Tracked} {e : Event} (kept : Kept t)
    (after : Kept (track alloy t e)) : AddsNothing alloy t e := by
  intro recovered submission unestablished
  refine pool_of_not_accepted submission ?_
  by_contra haccepted
  rw [Bool.not_eq_false] at haccepted
  exact unestablished (((track_kept_iff kept e).mp after).1 recovered
    (mem_admitted.mpr ⟨haccepted, submission⟩))

section Recording

variable {services : Services} {mapping : TxMapping} {recovered : Recovered} {h : B256}

theorem recordNumber_own :
    Numbered (recordNumber services mapping recovered) recovered.tx.hash ↔
      FindsNumber services mapping recovered.tx.hash := by
  unfold recordNumber FindsNumber
  cases hlatest : services.latestHeader with
  | error err => rfl
  | ok latest =>
    cases latest with
    | none => rfl
    | some header =>
      change (∃ number, (TxMapping.insert _ _ _).mapping _ = some number ∧ _) ↔ _
      simp only [TxMapping.insert_mapping_self, Option.some.injEq, exists_eq_left']

theorem recordNumber_other (other : h ≠ recovered.tx.hash) :
    Numbered (recordNumber services mapping recovered) h ↔ Numbered mapping h := by
  unfold recordNumber
  split
  · unfold Numbered
    change (∃ number, (TxMapping.insert _ _ _).mapping _ = some number ∧ _) ↔ _
    rw [TxMapping.insert_mapping_of_ne _ _ other]
    rfl
  · rfl

end Recording

section Exactness

variable {alloy : Alloy} {t : Tracked}

theorem track_kept_iff_of_mapping (kept : Kept t) {e : Event}
    (same : (step alloy t.node e).mapping = t.node.mapping) :
    Kept (track alloy t e) ↔ ∀ recovered ∈ admitted t.node e,
      Capped recovered.tx ∧ Numbered t.node.mapping recovered.tx.hash := by
  rw [track_kept_iff kept, same]
  exact and_iff_left fun h waiting _ => kept.numbered h waiting

theorem established_raw_iff (kept : Kept t) (services : EthServices) (tx : Bytes) :
    Established t (.ethSendRawTransaction services tx) ↔
      Kept (track alloy t (.ethSendRawTransaction services tx)) := by
  rw [track_kept_iff_of_mapping kept rfl]
  simp only [mem_admitted, Established, accepted, decoded, ethSendRawTransaction]
  cases services.recoverRawTransaction tx with
  | error e => simp [Except.toOption]
  | ok r =>
    simp only [submit_ok, Except.toOption, Option.some.injEq, Except.ok.injEq]
    constructor
    · rintro established recovered ⟨hok, rfl⟩
      obtain ⟨outcome, hadded⟩ := MachineArith.exists_of_isOk hok
      exact established r outcome rfl hadded
    · rintro established recovered outcome rfl hadded
      exact established r ⟨by rw [hadded]; rfl, rfl⟩

theorem established_send_iff (kept : Kept t) (services : EthServices) (tx : Recovered) :
    Established t (.ethSendTransaction services tx) ↔
      Kept (track alloy t (.ethSendTransaction services tx)) := by
  rw [track_kept_iff_of_mapping kept rfl]
  simp only [mem_admitted, Established, accepted, decoded, ethSendTransaction, submit_ok,
    Option.some.injEq]
  constructor
  · rintro established recovered ⟨hok, rfl⟩
    obtain ⟨outcome, hadded⟩ := MachineArith.exists_of_isOk hok
    exact established outcome hadded
  · intro established outcome hadded
    exact established tx ⟨by rw [hadded]; rfl, rfl⟩

theorem established_other (kept : Kept t) (e : NodeRuns.Event)
    (unsubmitting : ∀ h, ¬ NodeRuns.Submits h e) :
    Kept (track alloy t (.other e unsubmitting)) := by
  rw [track_kept_iff kept]
  refine ⟨?_, ?_⟩
  · intro recovered hin
    cases hin
  · intro h waiting unconsumed
    obtain ⟨number, hnumber, nonzero⟩ := kept.numbered h waiting
    have hkept : h ∉ NodeRuns.validated alloy e := fun hin => unconsumed (Or.inl hin)
    rcases NodeRuns.step_entry alloy t.node (NodeRuns.not_submitted_of_not_submits
      (unsubmitting h)) with hstep | ⟨-, hnone, -⟩
    · rw [if_neg hkept] at hstep
      exact ⟨number, hstep.trans hnumber, nonzero⟩
    · cases hnone.symm.trans hnumber

/-- The condition on a submission that passes the checks. -/
theorem established_checked_iff {services : Services} {tx : Bytes} {recovered : Recovered}
    (checked : recoverChecked services tx = .ok recovered) :
    Established t (.authSendRawTransaction services tx) ↔
      FindsNumber services t.node.mapping recovered.tx.hash ∨
        (Refused services t.node.pool recovered ∧ ¬ t.waiting recovered.tx.hash) := by
  obtain ⟨hbytes, hdecoded, hcap⟩ := recoverChecked_eq_ok_iff.mp checked
  constructor
  · intro established
    exact established recovered hbytes hdecoded hcap
  · intro finds r _ hdecoded' _
    cases hdecoded.symm.trans hdecoded'
    exact finds

theorem waiting_numbered_iff (kept : Kept t) {services : Services} {recovered : Recovered} :
    (∀ h, t.waiting h → Numbered (recordNumber services t.node.mapping recovered) h) ↔
      (t.waiting recovered.tx.hash → FindsNumber services t.node.mapping recovered.tx.hash) := by
  constructor
  · intro numbered waiting
    exact recordNumber_own.mp (numbered _ waiting)
  · intro finds h waiting
    by_cases hown : h = recovered.tx.hash
    · subst hown
      exact recordNumber_own.mpr (finds waiting)
    · exact (recordNumber_other hown).mpr (kept.numbered h waiting)

theorem established_of_unchecked (kept : Kept t) {services : Services} {tx : Bytes}
    {err : ErrorObject} (unchecked : recoverChecked services tx = .error err)
    (hsend : sendRawTransaction services t.node.pool t.node.mapping tx =
      (.error err, t.node.pool, t.node.mapping)) :
    Established t (.authSendRawTransaction services tx) ↔
      Kept (track alloy t (.authSendRawTransaction services tx)) := by
  have hmapping : (step alloy t.node (.authSendRawTransaction services tx)).mapping =
      t.node.mapping := congrArg (fun r => r.2.2) hsend
  rw [track_kept_iff_of_mapping kept hmapping]
  simp only [mem_admitted, accepted, hsend]
  refine iff_of_true ?_ ?_
  · intro recovered hbytes hdecoded hcap
    rw [recoverChecked_eq_ok_iff.mpr ⟨hbytes, hdecoded, hcap⟩] at unchecked
    cases unchecked
  · rintro recovered ⟨hok, -⟩
    cases hok

/-- A refused submission changes the number of its transaction only. -/
theorem established_of_refused (kept : Kept t) {services : Services} {tx : Bytes}
    {recovered : Recovered} {err : ErrorObject}
    (checked : recoverChecked services tx = .ok recovered)
    (refused : addToPool services t.node.pool recovered = .error err)
    (hsend : sendRawTransaction services t.node.pool t.node.mapping tx =
      (.error err, t.node.pool, recordNumber services t.node.mapping recovered)) :
    Established t (.authSendRawTransaction services tx) ↔
      Kept (track alloy t (.authSendRawTransaction services tx)) := by
  have hpool : (step alloy t.node (.authSendRawTransaction services tx)).pool = t.node.pool :=
    congrArg (fun r => r.2.1) hsend
  have hmapping : (step alloy t.node (.authSendRawTransaction services tx)).mapping =
      recordNumber services t.node.mapping recovered := congrArg (fun r => r.2.2) hsend
  have hunconsumed : ∀ h, ¬ Consumes alloy t.node (.authSendRawTransaction services tx) h := by
    rintro h (hin | ⟨held, gone⟩)
    · cases hin
    · rw [hpool] at gone
      exact gone held
  rw [established_checked_iff checked, and_iff_right (addToPool_error_iff.mp ⟨err, refused⟩),
    or_iff_not_imp_right, not_not, ← waiting_numbered_iff kept, track_kept_iff kept, hmapping]
  simp only [mem_admitted, accepted, hsend]
  constructor
  · intro numbered
    refine ⟨?_, ?_⟩
    · rintro r ⟨hok, -⟩
      cases hok
    · intro h waiting _
      exact numbered h waiting
  · rintro ⟨-, numbered⟩ h waiting
    exact numbered h waiting (hunconsumed h)

/-- A submission that is taken has to find its number. -/
theorem established_of_added (kept : Kept t) {services : Services} {tx : Bytes}
    {recovered : Recovered} {hash : B256} {pool' : TransactionPool}
    (checked : recoverChecked services tx = .ok recovered)
    (added : addToPool services t.node.pool recovered = .ok (hash, pool'))
    (hsend : sendRawTransaction services t.node.pool t.node.mapping tx =
      (.ok hash, pool', recordNumber services t.node.mapping recovered)) :
    Established t (.authSendRawTransaction services tx) ↔
      Kept (track alloy t (.authSendRawTransaction services tx)) := by
  have hmapping : (step alloy t.node (.authSendRawTransaction services tx)).mapping =
      recordNumber services t.node.mapping recovered := congrArg (fun r => r.2.2) hsend
  have hnot : ¬ Refused services t.node.pool recovered := by
    intro refused
    obtain ⟨err, hrefused⟩ := addToPool_error_iff.mpr refused
    cases added.symm.trans hrefused
  obtain ⟨-, hdecoded, hcap⟩ := recoverChecked_eq_ok_iff.mp checked
  rw [established_checked_iff checked, or_iff_left fun both => hnot both.1,
    track_kept_iff kept, hmapping]
  simp only [mem_admitted, accepted, decoded, hsend, hdecoded]
  constructor
  · intro finds
    refine ⟨?_, ?_⟩
    · rintro r ⟨-, hr⟩
      cases hr
      exact ⟨hcap, recordNumber_own.mpr finds⟩
    · intro h waiting _
      exact (waiting_numbered_iff kept).mpr (fun _ => finds) h waiting
  · rintro ⟨new, -⟩
    exact recordNumber_own.mp (new recovered ⟨rfl, rfl⟩).2

theorem established_auth_iff (kept : Kept t) (services : Services) (tx : Bytes) :
    Established t (.authSendRawTransaction services tx) ↔
      Kept (track alloy t (.authSendRawTransaction services tx)) := by
  rcases sendRawTransaction_cases services t.node.pool t.node.mapping tx with
    ⟨err, unchecked, hsend⟩ | ⟨recovered, err, checked, refused, hsend⟩ |
    ⟨recovered, hash, pool', checked, added, hsend⟩
  · exact established_of_unchecked kept unchecked hsend
  · exact established_of_refused kept checked refused hsend
  · exact established_of_added kept checked added hsend

/-- The condition on a call is exact. -/
theorem established_iff (kept : Kept t) (e : Event) :
    Established t e ↔ Kept (track alloy t e) ∧ AddsNothing alloy t e := by
  have hkept : Established t e ↔ Kept (track alloy t e) := by
    cases e with
    | ethSendRawTransaction services tx => exact established_raw_iff kept services tx
    | ethSendTransaction services tx => exact established_send_iff kept services tx
    | authSendRawTransaction services tx => exact established_auth_iff kept services tx
    | other e unsubmitting => exact iff_of_true trivial (established_other kept e unsubmitting)
  rw [hkept]
  exact (and_iff_left_of_imp (addsNothing_of_kept kept)).symm

end Exactness

/-- A batch is a run of its elements. -/
theorem batch_run (alloy : Alloy) (t : Tracked) (calls : List (Services × Bytes)) :
    (run (track alloy) t (calls.map fun c => .authSendRawTransaction c.1 c.2)).node =
      NodeRuns.step alloy t.node (.sendRawTransactions calls) := by
  induction calls generalizing t with
  | nil => rfl
  | cons c rest ih =>
    obtain ⟨services, tx⟩ := c
    rw [List.map_cons, run_cons, ih]
    simp only [track, step, NodeRuns.step, sendRawTransactions]
    split <;> rfl

/-- In every state of a run, what entered the pool has its fee cap and what still
waits has a number, and no submission without them changes the pool, exactly when
every call of the run establishes them. -/
theorem admission_kept_iff (alloy : Alloy) (s : Node) (es : List Event) :
    ((∀ t, Reached (track alloy) (Tracked.init s) es t → Kept t) ∧
        Meets (track alloy) (AddsNothing alloy) (Tracked.init s) es) ↔
      Meets (track alloy) Established (Tracked.init s) es := by
  have start : Kept (Tracked.init s) := by
    refine ⟨?_, ?_⟩
    · intro recovered hin
      cases hin
    · intro h waiting
      cases waiting
  exact (meets_iff_invariant Kept (fun t e (_ : True) kept => established_iff kept e) start
    fun _ _ => trivial).symm

def sampleEthServices : EthServices where
  recoverRawTransaction := sampleServices.recoverRawTransaction
  fromPooled := id
  addTransaction := sampleServices.addTransaction
  sendTransaction := sampleServices.addTransaction

/-- A provider that has no latest header. -/
def headlessServices : Services := { sampleServices with latestHeader := .ok none }

/-- A transfer is sent over the authenticated API, and again over the public
one. -/
def sentAgain : List Event :=
  [.authSendRawTransaction sampleServices (encodeEip1559 transfer0),
    .ethSendRawTransaction sampleEthServices (encodeEip1559 transfer0)]

theorem admission_kept_iff_sent_again :
    Kept (run (track sampleAlloy) (Tracked.init sampleNode) sentAgain) := by
  have hdecoded : (sampleEthServices.recoverRawTransaction (encodeEip1559 transfer0)).toOption =
      some ⟨transfer0, sampleSigner⟩ := by decide +kernel
  have established : Meets (track sampleAlloy) Established (Tracked.init sampleNode)
      sentAgain := by
    refine ⟨?_, ?_, trivial⟩
    · intro recovered _ _ _
      left
      change sampleParent.header.number + 1 ≠ 0
      decide
    · intro recovered outcome hrecovered _
      rw [hrecovered] at hdecoded
      cases Option.some.inj hdecoded
      refine ⟨?_, 1, ?_, ?_⟩
      · change minL2BaseFee ≤ transfer0.fees.maxFeePerGas.setWidth 256
        decide
      · decide +kernel
      · decide
  exact ((admission_kept_iff sampleAlloy sampleNode sentAgain).mpr established).1 _
    (reached_run (track sampleAlloy) (Tracked.init sampleNode) sentAgain)

/-- A transfer sent over the public API is in the pool without a number, and so
is one sent over the authenticated API while there is no latest header. -/
theorem submissions_enter_unnumbered :
    let sent := track sampleAlloy (Tracked.init sampleNode)
      (.ethSendRawTransaction sampleEthServices (encodeEip1559 transfer0))
    let headless := track sampleAlloy (Tracked.init sampleNode)
      (.authSendRawTransaction headlessServices (encodeEip1559 transfer0))
    (sent.node.pool.Holds transfer0.hash ∧ ¬ Kept sent) ∧
      (headless.node.pool.Holds transfer0.hash ∧ ¬ Kept headless) := by
  intro sent headless
  refine ⟨⟨?_, ?_⟩, ⟨?_, ?_⟩⟩
  · decide +kernel
  · intro kept
    obtain ⟨number, hnumber, -⟩ := kept.numbered transfer0.hash
      (Or.inr ⟨⟨transfer0, sampleSigner⟩, by decide +kernel, rfl⟩)
    cases hnumber
  · decide +kernel
  · intro kept
    obtain ⟨number, hnumber, -⟩ := kept.numbered transfer0.hash
      (Or.inr ⟨⟨transfer0, sampleSigner⟩, by decide +kernel, rfl⟩)
    have hnone : headless.node.mapping.getSubmissionBlock transfer0.hash = none := by
      decide +kernel
    cases hnone.symm.trans hnumber

end Admission
