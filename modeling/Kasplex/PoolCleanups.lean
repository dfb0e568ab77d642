import Kasplex.Runs
import Kasplex.TxPool
import Kasplex.EngineValidator

/-!
# Cleanups that overlap

A cleanup takes a snapshot of the pool, looks at its hashes one after the other,
and removes the selected ones in one go. Any number of cleanups may be
interleaved step by step, so that a snapshot can be stale and a hash removed
twice. As long as nothing is submitted meanwhile, what is left does not depend on
the interleaving: it is what every one of the cleanups keeps.
-/

namespace PoolCleanups

open Primitives ChainSpec SubmissionNumbers PayloadAttributes EngineValidator TxPool Runs

/-- A cleanup, with what it is called for. -/
inductive Call where
  | handleKasplexPoolReorg (newHeadNumber : U64)
  | removeIncludedTransactions (block : SealedBlock)

/-- The test in the loops of a cleanup. -/
def Call.selects (mapping : TxMapping) : Call → B256 → Bool
  | .handleKasplexPoolReorg newHeadNumber, txHash => selectedForRemoval mapping newHeadNumber txHash
  | .removeIncludedTransactions block, txHash =>
    (block.block.body.transactions.map TransactionSigned.hash).contains txHash

/-- How far a cleanup has come. In the two loops it holds the hashes of its
snapshot that it has not looked at, and those it has selected. -/
inductive Phase where
  | waiting
  | reorgMarked
  | pendingLoop (pending queued txsToRemove : List B256)
  | queuedLoop (queued txsToRemove : List B256)
  | removed (removedCount : Nat)
  | finished (removedCount : Nat)
  deriving DecidableEq

def Phase.isFinished : Phase → Bool
  | .finished _ => true
  | _ => false

structure State (ι : Type) where
  pool : TransactionPool
  mapping : TxMapping
  phase : ι → Phase

variable {ι : Type} [DecidableEq ι]

def State.init (pool : TransactionPool) (mapping : TxMapping) : State ι :=
  ⟨pool, mapping, fun _ => .waiting⟩

def State.setPhase (s : State ι) (i : ι) (p : Phase) : State ι :=
  { s with phase := Function.update s.phase i p }

def snapshot (pool : TransactionPool) : Phase :=
  .pendingLoop pool.pendingHashes pool.queuedHashes []

/-- One round of a loop. -/
def Call.look (call : Call) (mapping : TxMapping) (txHash : B256) (txsToRemove : List B256) :
    List B256 :=
  if call.selects mapping txHash then txsToRemove ++ [txHash] else txsToRemove

/-- The next atomic step of one cleanup. -/
def advance (spec : KasplexChainSpec) (call : Call) (s : State ι) (i : ι) : State ι :=
  match s.phase i with
  | .waiting =>
    match call with
    | .handleKasplexPoolReorg _ =>
      if !spec.isKasplex then s.setPhase i (.finished 0)
      else { s.setPhase i .reorgMarked with mapping := s.mapping.markStartPoolReorg }
    | .removeIncludedTransactions _ => s.setPhase i (snapshot s.pool)
  | .reorgMarked => s.setPhase i (snapshot s.pool)
  | .pendingLoop (txHash :: pending) queued txsToRemove =>
    s.setPhase i (.pendingLoop pending queued (call.look s.mapping txHash txsToRemove))
  | .pendingLoop [] queued txsToRemove => s.setPhase i (.queuedLoop queued txsToRemove)
  | .queuedLoop (txHash :: queued) txsToRemove =>
    s.setPhase i (.queuedLoop queued (call.look s.mapping txHash txsToRemove))
  | .queuedLoop [] txsToRemove =>
    { s.setPhase i (.removed txsToRemove.length) with
      pool := if 0 < txsToRemove.length then s.pool.removeTransactions txsToRemove else s.pool }
  | .removed removedCount =>
    match call with
    | .handleKasplexPoolReorg _ =>
      { s.setPhase i (.finished removedCount) with mapping := s.mapping.markPoolReorged }
    | .removeIncludedTransactions _ => s.setPhase i (.finished removedCount)
  | .finished _ => s

def step (spec : KasplexChainSpec) (calls : ι → Call) (s : State ι) (i : ι) : State ι :=
  advance spec (calls i) s i

section Tests

/-- Only the numbers matter to the test. -/
theorem Call.selects_congr (call : Call) {m m' : TxMapping} (same : m.mapping = m'.mapping) :
    call.selects m = call.selects m' := by
  funext h
  cases call with
  | handleKasplexPoolReorg n =>
    change selectedForRemoval m n h = selectedForRemoval m' n h
    rw [Bool.eq_iff_iff, selectedForRemoval_iff, selectedForRemoval_iff, same]
  | removeIncludedTransactions block => rfl

theorem Call.look_congr (call : Call) {m m' : TxMapping} (same : m.mapping = m'.mapping) :
    call.look m = call.look m' := by
  funext h txsToRemove
  unfold look
  rw [call.selects_congr same]

end Tests

section Coverage

variable (start : TransactionPool) (drops : B256 → Prop) (gone : List B256)

/-- What was selected is to be dropped, and what is to be dropped and not yet
gone is still in the lists. -/
def Covered (left selected : List B256) : Prop :=
  (∀ h ∈ selected, drops h) ∧
    ∀ h, start.Holds h → drops h → h ∈ gone ∨ h ∈ left ∨ h ∈ selected

def PhaseCovered : Phase → Prop
  | .waiting | .reorgMarked => True
  | .pendingLoop pending queued txsToRemove =>
    Covered start drops gone (pending ++ queued) txsToRemove
  | .queuedLoop queued txsToRemove => Covered start drops gone queued txsToRemove
  | .removed _ | .finished _ => Covered start drops gone [] []

variable {start drops gone}

theorem PhaseCovered.mono {p : Phase} (covered : PhaseCovered start drops gone p)
    (more : List B256) : PhaseCovered start drops (gone ++ more) p := by
  have each : ∀ left selected, Covered start drops gone left selected →
      Covered start drops (gone ++ more) left selected := by
    rintro left selected ⟨hselected, hrest⟩
    refine ⟨hselected, ?_⟩
    intro h held dropped
    exact (hrest h held dropped).imp_left (List.mem_append_left more)
  cases p with
  | waiting => trivial
  | reorgMarked => trivial
  | pendingLoop pending queued txsToRemove => exact each _ _ covered
  | queuedLoop queued txsToRemove => exact each _ _ covered
  | removed removedCount => exact each _ _ covered
  | finished removedCount => exact each _ _ covered

/-- A stale snapshot lacks only what is gone. -/
theorem snapshot_covered : PhaseCovered start drops gone
    (snapshot (start.removeTransactions gone)) := by
  refine ⟨by simp, ?_⟩
  intro h held dropped
  by_cases hgone : h ∈ gone
  · exact Or.inl hgone
  · have hleft := (removeTransactions_holds start gone h).mpr ⟨held, hgone⟩
    exact Or.inr (Or.inl (List.mem_append.mpr hleft))

theorem look_covered {call : Call} {mapping : TxMapping} {h : B256} {left selected : List B256}
    (covered : Covered start (fun h => call.selects mapping h = true) gone (h :: left) selected) :
    Covered start (fun h => call.selects mapping h = true) gone left
      (call.look mapping h selected) := by
  obtain ⟨hselected, hrest⟩ := covered
  unfold Call.look
  split
  · rename_i hlook
    refine ⟨?_, ?_⟩
    · intro k hk
      rcases List.mem_append.mp hk with hk | hk
      · exact hselected k hk
      · rw [List.mem_singleton.mp hk]
        exact hlook
    · intro k held dropped
      rcases hrest k held dropped with hk | hk | hk
      · exact Or.inl hk
      · rcases List.mem_cons.mp hk with rfl | hk
        · exact Or.inr (Or.inr (by simp))
        · exact Or.inr (Or.inl hk)
      · exact Or.inr (Or.inr (List.mem_append_left _ hk))
  · rename_i hlook
    refine ⟨hselected, ?_⟩
    intro k held dropped
    rcases hrest k held dropped with hk | hk | hk
    · exact Or.inl hk
    · rcases List.mem_cons.mp hk with rfl | hk
      · exact absurd dropped hlook
      · exact Or.inr (Or.inl hk)
    · exact Or.inr (Or.inr hk)

theorem removal_covered {selected : List B256} (covered : Covered start drops gone [] selected) :
    Covered start drops (gone ++ selected) [] [] := by
  refine ⟨by simp, ?_⟩
  intro h held dropped
  rcases covered.2 h held dropped with hgone | hleft | hselected
  · exact Or.inl (List.mem_append_left _ hgone)
  · cases hleft
  · exact Or.inl (List.mem_append_right _ hselected)

end Coverage

section Interleaving

variable {spec : KasplexChainSpec} {calls : ι → Call} {start : TransactionPool}
  {mapping : TxMapping} {s : State ι}

/-- The invariant of interleaved cleanups: the pool is the first one without some
hashes, each of them dropped by a call, and each call has the rest of its own in
view. -/
structure Progress (calls : ι → Call) (start : TransactionPool) (mapping : TxMapping)
    (gone : List B256) (s : State ι) : Prop where
  pool : s.pool = start.removeTransactions gone
  numbers : s.mapping.mapping = mapping.mapping
  dropped : ∀ h ∈ gone, ∃ i, (calls i).selects mapping h = true
  phases : ∀ i, PhaseCovered start (fun h => (calls i).selects mapping h = true) gone (s.phase i)

/-- One cleanup moves on without touching the pool. -/
theorem Progress.setPhase {gone : List B256} (progress : Progress calls start mapping gone s)
    {i : ι} {p : Phase} {m : TxMapping} (numbers : m.mapping = s.mapping.mapping)
    (own : PhaseCovered start (fun h => (calls i).selects mapping h = true) gone p) :
    Progress calls start mapping gone { s.setPhase i p with mapping := m } := by
  refine ⟨progress.pool, numbers.trans progress.numbers, progress.dropped, ?_⟩
  intro j
  by_cases hj : j = i
  · subst hj
    simpa [State.setPhase] using own
  · simpa [State.setPhase, hj] using progress.phases j

/-- One cleanup removes what it has selected. -/
theorem Progress.remove {gone : List B256} (progress : Progress calls start mapping gone s)
    {i : ι} {txsToRemove : List B256} (atRemoval : s.phase i = .queuedLoop [] txsToRemove) :
    Progress calls start mapping (gone ++ txsToRemove)
      { s.setPhase i (.removed txsToRemove.length) with
        pool := s.pool.removeTransactions txsToRemove } := by
  have own := progress.phases i
  rw [atRemoval] at own
  refine ⟨?_, progress.numbers, ?_, ?_⟩
  · change s.pool.removeTransactions txsToRemove = _
    rw [progress.pool, removeTransactions_append]
  · intro h hh
    rcases List.mem_append.mp hh with hh | hh
    · exact progress.dropped h hh
    · exact ⟨i, own.1 h hh⟩
  · intro j
    by_cases hj : j = i
    · subst hj
      simpa [State.setPhase, PhaseCovered] using removal_covered own
    · simpa [State.setPhase, hj] using (progress.phases j).mono txsToRemove

theorem step_progress (kasplex : spec.isKasplex = true) {gone : List B256}
    (progress : Progress calls start mapping gone s) (i : ι) :
    ∃ gone', Progress calls start mapping gone' (step spec calls s i) := by
  have own := progress.phases i
  unfold step advance
  cases hphase : s.phase i with
  | waiting =>
    dsimp only
    cases hcall : calls i with
    | handleKasplexPoolReorg n =>
      simp only [kasplex, Bool.not_true, Bool.false_eq_true, if_false]
      exact ⟨gone, progress.setPhase rfl trivial⟩
    | removeIncludedTransactions block =>
      refine ⟨gone, progress.setPhase rfl ?_⟩
      rw [progress.pool]
      exact snapshot_covered
  | reorgMarked =>
    refine ⟨gone, progress.setPhase rfl ?_⟩
    rw [progress.pool]
    exact snapshot_covered
  | pendingLoop pending queued txsToRemove =>
    rw [hphase] at own
    cases pending with
    | nil => exact ⟨gone, progress.setPhase rfl own⟩
    | cons h rest =>
      refine ⟨gone, progress.setPhase rfl ?_⟩
      rw [(calls i).look_congr progress.numbers]
      exact look_covered own
  | queuedLoop queued txsToRemove =>
    rw [hphase] at own
    cases queued with
    | nil =>
      dsimp only
      rw [removeTransactions_of_pos]
      exact ⟨_, progress.remove hphase⟩
    | cons h rest =>
      refine ⟨gone, progress.setPhase rfl ?_⟩
      rw [(calls i).look_congr progress.numbers]
      exact look_covered own
  | removed removedCount =>
    rw [hphase] at own
    dsimp only
    split
    · exact ⟨gone, progress.setPhase rfl own⟩
    · exact ⟨gone, progress.setPhase rfl own⟩
  | finished removedCount => exact ⟨gone, progress⟩

theorem run_progress (kasplex : spec.isKasplex = true) (calls : ι → Call)
    (start : TransactionPool) (mapping : TxMapping) (schedule : List ι) :
    ∃ gone, Progress calls start mapping gone
      (run (step spec calls) (State.init start mapping) schedule) := by
  have meets : Meets (step spec calls) (fun _ _ => True) (State.init start mapping) schedule :=
    meets_of_forall (fun _ _ => trivial) _ schedule
  refine run_invariant (fun s => ∃ gone, Progress calls start mapping gone s) ?_ ?_ meets
  · rintro s i ⟨gone, progress⟩ -
    exact step_progress kasplex progress i
  · exact ⟨[], (removeTransactions_nil start).symm, rfl, by simp, fun _ => trivial⟩

omit [DecidableEq ι] in
/-- When all cleanups have finished, what any of them drops is gone, and nothing
else. -/
theorem Progress.finished {gone : List B256} (progress : Progress calls start mapping gone s)
    (finished : ∀ i, (s.phase i).isFinished = true) {h : B256} (held : start.Holds h) :
    h ∈ gone ↔ ∃ i, (calls i).selects mapping h = true := by
  constructor
  · exact progress.dropped h
  · rintro ⟨i, selected⟩
    have own := progress.phases i
    have hfinished := finished i
    cases hphase : s.phase i with
    | finished removedCount =>
      rw [hphase] at own
      rcases own.2 h held selected with hgone | hleft | hleft
      · exact hgone
      · cases hleft
      · cases hleft
    | _ =>
      rw [hphase] at hfinished
      cases hfinished

end Interleaving

section Termination

variable (spec : KasplexChainSpec) (calls : ι → Call)

def size (pool : TransactionPool) : Nat := pool.pending.length + pool.queued.length

/-- A bound on the steps a cleanup still takes while the pool has at most so many
transactions. -/
def Phase.stepsLeft (bound : Nat) : Phase → Nat
  | .waiting => bound + 5
  | .reorgMarked => bound + 4
  | .pendingLoop pending queued _ => pending.length + queued.length + 3
  | .queuedLoop queued _ => queued.length + 2
  | .removed _ => 1
  | .finished _ => 0

theorem Phase.isFinished_of_stepsLeft {bound : Nat} {p : Phase}
    (ended : p.stepsLeft bound = 0) : p.isFinished = true := by
  cases p with
  | finished removedCount => rfl
  | _ => simp [stepsLeft] at ended

theorem snapshot_stepsLeft (pool : TransactionPool) (bound : Nat) :
    (snapshot pool).stepsLeft bound = size pool + 3 := by
  simp [snapshot, Phase.stepsLeft, size, TransactionPool.pendingHashes,
    TransactionPool.queuedHashes]

theorem removeTransactions_size (pool : TransactionPool) (hashes : List B256) :
    size (pool.removeTransactions hashes) ≤ size pool :=
  Nat.add_le_add (List.length_filter_le _ _) (List.length_filter_le _ _)

/-- A step changes the phase of its own cleanup, and can only take transactions
out of the pool. -/
theorem step_frame (s : State ι) (i : ι) :
    ∃ hashes m p, step spec calls s i =
      ⟨s.pool.removeTransactions hashes, m, Function.update s.phase i p⟩ := by
  have unmoved : ∀ m p, ∃ hashes m' p',
      ({ s.setPhase i p with mapping := m } : State ι) =
        ⟨s.pool.removeTransactions hashes, m', Function.update s.phase i p'⟩ := by
    intro m p
    exact ⟨[], m, p, by simp [State.setPhase]⟩
  unfold step advance
  split
  · split
    · split
      · exact unmoved _ _
      · exact unmoved _ _
    · exact unmoved _ _
  · exact unmoved _ _
  · exact unmoved _ _
  · exact unmoved _ _
  · exact unmoved _ _
  · dsimp only
    rw [removeTransactions_of_pos]
    exact ⟨_, _, _, rfl⟩
  · split
    · exact unmoved _ _
    · exact unmoved _ _
  · exact ⟨[], s.mapping, s.phase i, by simp⟩

theorem step_size (s : State ι) (i : ι) : size (step spec calls s i).pool ≤ size s.pool := by
  obtain ⟨hashes, m, p, hstep⟩ := step_frame spec calls s i
  rw [hstep]
  exact removeTransactions_size s.pool hashes

theorem step_other (s : State ι) {i j : ι} (other : j ≠ i) :
    (step spec calls s i).phase j = s.phase j := by
  obtain ⟨hashes, m, p, hstep⟩ := step_frame spec calls s i
  rw [hstep]
  exact Function.update_of_ne other p s.phase

theorem step_own {s : State ι} {bound : Nat} (small : size s.pool ≤ bound) (i : ι) :
    ((step spec calls s i).phase i).stepsLeft bound ≤ (s.phase i).stepsLeft bound - 1 := by
  have hsnapshot := snapshot_stepsLeft s.pool bound
  unfold step advance
  cases hphase : s.phase i with
  | waiting =>
    dsimp only
    split
    · split <;> simp [State.setPhase, Phase.stepsLeft]
    · simp only [State.setPhase, Function.update_self, hsnapshot]
      change _ ≤ bound + 5 - 1
      omega
  | reorgMarked =>
    simp only [State.setPhase, Function.update_self, hsnapshot]
    change _ ≤ bound + 4 - 1
    omega
  | pendingLoop pending queued txsToRemove =>
    cases pending with
    | nil => simp [State.setPhase, Phase.stepsLeft]
    | cons h rest =>
      simp only [State.setPhase, Function.update_self, Phase.stepsLeft, List.length_cons]
      omega
  | queuedLoop queued txsToRemove =>
    cases queued with
    | nil => simp [State.setPhase, Phase.stepsLeft]
    | cons h rest => simp [State.setPhase, Phase.stepsLeft]
  | removed removedCount =>
    dsimp only
    split <;> simp [State.setPhase, Phase.stepsLeft]
  | finished removedCount => simp [hphase, Phase.stepsLeft]

theorem run_stepsLeft {s : State ι} {bound : Nat} (small : size s.pool ≤ bound)
    (schedule : List ι) (j : ι) :
    ((run (step spec calls) s schedule).phase j).stepsLeft bound ≤
      (s.phase j).stepsLeft bound - schedule.count j := by
  induction schedule generalizing s with
  | nil => exact Nat.le_refl _
  | cons i rest ih =>
    have hrest := ih ((step_size spec calls s i).trans small)
    rw [run_cons]
    by_cases hj : j = i
    · subst hj
      have hown := step_own spec calls small j
      rw [List.count_cons_self]
      omega
    · rw [step_other spec calls s hj] at hrest
      rw [List.count_cons_of_ne (Ne.symm hj)]
      exact hrest

/-- No interleaving keeps a cleanup from finishing. -/
theorem run_finished (pool : TransactionPool) (mapping : TxMapping) {schedule : List ι} {j : ι}
    (enough : size pool + 5 ≤ schedule.count j) :
    ((run (step spec calls) (State.init pool mapping) schedule).phase j).isFinished = true := by
  have hleft : _ ≤ size pool + 5 - schedule.count j :=
    run_stepsLeft spec calls (s := State.init pool mapping) (Nat.le_refl (size pool)) schedule j
  rw [Nat.sub_eq_zero_of_le enough] at hleft
  exact Phase.isFinished_of_stepsLeft (Nat.le_zero.mp hleft)

end Termination

section Alone

variable (spec : KasplexChainSpec) (calls : ι → Call)

theorem look_filter (call : Call) (mapping : TxMapping) (h : B256) (rest selected : List B256) :
    call.look mapping h selected ++ rest.filter (call.selects mapping) =
      selected ++ (h :: rest).filter (call.selects mapping) := by
  unfold Call.look
  by_cases hselected : call.selects mapping h = true
  · simp [hselected]
  · simp [hselected]

/-- A loop whose rounds look at one hash each, run to its end. -/
theorem run_loop (s : State ι) (i : ι) (loop : List B256 → List B256 → Phase)
    (round : ∀ h rest selected, step spec calls (s.setPhase i (loop (h :: rest) selected)) i =
      s.setPhase i (loop rest ((calls i).look s.mapping h selected)))
    (hashes selected : List B256) :
    run (step spec calls) (s.setPhase i (loop hashes selected))
        (List.replicate hashes.length i) =
      s.setPhase i (loop [] (selected ++ hashes.filter ((calls i).selects s.mapping))) := by
  induction hashes generalizing selected with
  | nil => simp
  | cons h rest ih =>
    rw [List.length_cons, List.replicate_succ, run_cons, round, ih, look_filter]

theorem run_pendingLoop (s : State ι) (i : ι) (pending queued selected : List B256) :
    run (step spec calls) (s.setPhase i (.pendingLoop pending queued selected))
        (List.replicate pending.length i) =
      s.setPhase i (.pendingLoop [] queued
        (selected ++ pending.filter ((calls i).selects s.mapping))) := by
  refine run_loop spec calls s i (fun rest selected => .pendingLoop rest queued selected) ?_
    pending selected
  intro h rest selected
  simp [step, advance, State.setPhase]

theorem run_queuedLoop (s : State ι) (i : ι) (queued selected : List B256) :
    run (step spec calls) (s.setPhase i (.queuedLoop queued selected))
        (List.replicate queued.length i) =
      s.setPhase i (.queuedLoop []
        (selected ++ queued.filter ((calls i).selects s.mapping))) := by
  refine run_loop spec calls s i .queuedLoop ?_ queued selected
  intro h rest selected
  simp [step, advance, State.setPhase]

/-- The hashes a cleanup selects when nobody else moves. -/
def Call.txsToRemove (call : Call) (pool : TransactionPool) (mapping : TxMapping) : List B256 :=
  pool.pendingHashes.filter (call.selects mapping) ++
    pool.queuedHashes.filter (call.selects mapping)

theorem run_snapshot (s : State ι) (i : ι) :
    run (step spec calls) (s.setPhase i (snapshot s.pool)) (List.replicate (size s.pool + 2) i) =
      { s.setPhase i (.removed ((calls i).txsToRemove s.pool s.mapping).length) with
        pool := if 0 < ((calls i).txsToRemove s.pool s.mapping).length then
            s.pool.removeTransactions ((calls i).txsToRemove s.pool s.mapping)
          else s.pool } := by
  have hsteps : List.replicate (size s.pool + 2) i =
      List.replicate s.pool.pendingHashes.length i ++
        (i :: (List.replicate s.pool.queuedHashes.length i ++ [i])) := by
    rw [← List.replicate_one, ← List.replicate_add, ← List.replicate_succ, ← List.replicate_add]
    congr 1
    simp only [size, TransactionPool.pendingHashes, TransactionPool.queuedHashes,
      List.length_map]
    omega
  have hswitch : ∀ selected,
      step spec calls (s.setPhase i (.pendingLoop [] s.pool.queuedHashes selected)) i =
        s.setPhase i (.queuedLoop s.pool.queuedHashes selected) := by
    intro selected
    simp [step, advance, State.setPhase]
  rw [hsteps, run_append, snapshot, run_pendingLoop, run_cons, hswitch, run_append,
    run_queuedLoop]
  simp [step, advance, State.setPhase, Call.txsToRemove]

theorem run_ended {s : State ι} {i : ι} {removedCount : Nat}
    (ended : s.phase i = .finished removedCount) (n : Nat) :
    run (step spec calls) s (List.replicate n i) = s := by
  have hstep : step spec calls s i = s := by simp [step, advance, ended]
  induction n with
  | zero => rfl
  | succ n ih => rw [List.replicate_succ, run_cons, hstep, ih]

/-- The steps of a cleanup after a forkchoice update, taken in one go. -/
theorem run_alone_reorg (s : State ι) (i : ι) (waiting : s.phase i = .waiting) {n : U64}
    (hcall : calls i = .handleKasplexPoolReorg n) :
    let last := run (step spec calls) s (List.replicate (size s.pool + 5) i)
    (last.pool, last.mapping) = handleKasplexPoolReorg spec s.pool s.mapping n := by
  have hsteps : List.replicate (size s.pool + 5) i =
      i :: i :: (List.replicate (size s.pool + 2) i ++ [i]) := by
    rw [← List.replicate_one, ← List.replicate_add, ← List.replicate_succ, ← List.replicate_succ]
  intro last
  cases hspec : spec.isKasplex with
  | false =>
    have hfirst : step spec calls s i = s.setPhase i (.finished 0) := by
      simp [step, advance, waiting, hcall, hspec]
    have hlast : last = s.setPhase i (.finished 0) := by
      change run _ _ _ = _
      rw [List.replicate_succ, run_cons, hfirst]
      exact run_ended spec calls (Function.update_self i (Phase.finished 0) s.phase) _
    rw [hlast]
    simp [State.setPhase, handleKasplexPoolReorg, hspec]
  | true =>
    let marked : State ι := { s with mapping := s.mapping.markStartPoolReorg }
    have hfirst : step spec calls s i = marked.setPhase i .reorgMarked := by
      simp [step, advance, waiting, hcall, hspec, State.setPhase, marked]
    have hsecond : step spec calls (marked.setPhase i .reorgMarked) i =
        marked.setPhase i (snapshot marked.pool) := by
      simp [step, advance, State.setPhase]
    have hlast : last = run (step spec calls) (run (step spec calls)
        (marked.setPhase i (snapshot marked.pool)) (List.replicate (size marked.pool + 2) i))
          [i] := by
      change run _ _ _ = _
      rw [hsteps, run_cons, hfirst, run_cons, hsecond, run_append]
    have hremoved : (calls i).txsToRemove marked.pool marked.mapping =
        s.pool.pendingHashes.filter (selectedForRemoval s.mapping.markStartPoolReorg n) ++
          s.pool.queuedHashes.filter (selectedForRemoval s.mapping.markStartPoolReorg n) := by
      rw [hcall]
      rfl
    rw [hlast, run_snapshot, hremoved]
    simp [step, advance, State.setPhase, hcall, handleKasplexPoolReorg, hspec, marked]

/-- The steps of a cleanup after a new payload, taken in one go. -/
theorem run_alone_included (s : State ι) (i : ι) (waiting : s.phase i = .waiting)
    {block : SealedBlock} (hcall : calls i = .removeIncludedTransactions block) :
    let last := run (step spec calls) s (List.replicate (size s.pool + 4) i)
    last.phase i = .finished (removeIncludedTransactions s.pool block).1 ∧
      last.pool = (removeIncludedTransactions s.pool block).2 ∧ last.mapping = s.mapping := by
  have hsteps : List.replicate (size s.pool + 4) i =
      i :: (List.replicate (size s.pool + 2) i ++ [i]) := by
    rw [← List.replicate_one, ← List.replicate_add, ← List.replicate_succ]
  have hfirst : step spec calls s i = s.setPhase i (snapshot s.pool) := by
    simp [step, advance, waiting, hcall]
  intro last
  have hlast : last = run (step spec calls) (run (step spec calls)
      (s.setPhase i (snapshot s.pool)) (List.replicate (size s.pool + 2) i)) [i] := by
    change run _ _ _ = _
    rw [hsteps, run_cons, hfirst, run_append]
  have hremoved : (calls i).txsToRemove s.pool s.mapping =
      s.pool.pendingHashes.filter
          (· ∈ block.block.body.transactions.map TransactionSigned.hash) ++
        s.pool.queuedHashes.filter
          (· ∈ block.block.body.transactions.map TransactionSigned.hash) := by
    simp only [hcall, Call.txsToRemove, ← List.contains_eq_mem]
    rfl
  rw [hlast, run_snapshot, hremoved]
  simp [step, advance, State.setPhase, hcall, removeIncludedTransactions]

end Alone

section Confluence

/-- A cleanup leaves the transaction in the pool: it has no number, or one whose
window reaches the head, or it is not in the block. -/
def Outlives (mapping : TxMapping) (h : B256) : Call → Prop
  | .handleKasplexPoolReorg newHeadNumber =>
    mapping.getSubmissionBlock h = none ∨ mapping.getSubmissionBlock h = some 0 ∨
      ∃ number, mapping.getSubmissionBlock h = some number ∧
        number.toNat ≤ newHeadNumber.toNat ∧
        newHeadNumber.toNat ≤ number.toNat + unexecutedTxRetentionBlocks.toNat
  | .removeIncludedTransactions block =>
    h ∉ block.block.body.transactions.map TransactionSigned.hash

theorem selected_window {mapping : TxMapping} {h : B256} {number n : U64}
    (recorded : mapping.mapping h = some number) (nonzero : number ≠ 0)
    (room : number.toNat ≤ 2 ^ 64 - 1 - unexecutedTxRetentionBlocks.toNat) :
    selectedForRemoval mapping n h = true ↔
      ¬ (number.toNat ≤ n.toNat ∧
        n.toNat ≤ number.toNat + unexecutedTxRetentionBlocks.toNat) := by
  have hpos : 0 < number.toNat := by
    refine Nat.pos_of_ne_zero ?_
    intro hzero
    exact nonzero (BitVec.eq_of_toNat_eq hzero)
  have hold : (number + unexecutedTxRetentionBlocks).toNat =
      number.toNat + unexecutedTxRetentionBlocks.toNat := by
    refine MachineArith.toNat_add_of_lt ?_
    change _ ≤ 2 ^ 64 - 1 - 100 at room
    change _ + 100 < _
    omega
  rw [selectedForRemoval_iff]
  constructor
  · rintro ⟨k, hk, -, hwindow⟩ ⟨hlow, hhigh⟩
    cases hk.symm.trans recorded
    rcases hwindow with hwindow | hwindow
    · rw [BitVec.lt_def, hold] at hwindow
      omega
    · rw [BitVec.lt_def] at hwindow
      omega
  · intro outside
    refine ⟨number, recorded, hpos, ?_⟩
    rw [BitVec.lt_def, BitVec.lt_def, hold]
    omega

theorem outlives_iff {mapping : TxMapping}
    (room : ∀ h number, mapping.getSubmissionBlock h = some number →
      number.toNat ≤ 2 ^ 64 - 1 - unexecutedTxRetentionBlocks.toNat) (h : B256) (call : Call) :
    Outlives mapping h call ↔ ¬ call.selects mapping h = true := by
  cases call with
  | removeIncludedTransactions block => simp [Outlives, Call.selects]
  | handleKasplexPoolReorg n =>
    change (mapping.mapping h = none ∨ _) ↔ ¬ selectedForRemoval mapping n h = true
    by_cases nonzero : ∃ number, mapping.mapping h = some number ∧ number ≠ 0
    · obtain ⟨number, recorded, nonzero⟩ := nonzero
      rw [selected_window recorded nonzero (room h number recorded), not_not]
      change (_ ∨ mapping.mapping h = some 0 ∨ ∃ k, mapping.mapping h = some k ∧ _) ↔ _
      simp only [recorded, reduceCtorEq, Option.some.injEq, exists_eq_left', false_or]
      exact or_iff_right nonzero
    · refine iff_of_true ?_ ?_
      · change mapping.mapping h = none ∨ mapping.mapping h = some 0 ∨ _
        cases hk : mapping.mapping h with
        | none => exact Or.inl rfl
        | some k =>
          by_cases hzero : k = 0
          · exact Or.inr (Or.inl (congrArg some hzero))
          · exact absurd ⟨k, hk, hzero⟩ nonzero
      · intro selected
        obtain ⟨k, hk, hpos, -⟩ := selectedForRemoval_iff.mp selected
        refine nonzero ⟨k, hk, ?_⟩
        rintro rfl
        exact absurd hpos (by decide)

/-- However cleanups on a Kasplex chain are interleaved, each of them finishes
once it has had enough steps. When all have finished, the pool is the first one
without what one of them removes, the numbers are the first ones, and any other
interleaving ends with the same pool. -/
theorem cleanups_confluent (spec : KasplexChainSpec) (kasplex : spec.isKasplex = true)
    (calls : ι → Call) (pool : TransactionPool) (mapping : TxMapping)
    (room : ∀ h number, mapping.getSubmissionBlock h = some number →
      number.toNat ≤ 2 ^ 64 - 1 - unexecutedTxRetentionBlocks.toNat) (schedule : List ι) :
    let last := run (step spec calls) (State.init pool mapping) schedule
    (∀ i, size pool + 5 ≤ schedule.count i → (last.phase i).isFinished = true) ∧
    ((∀ i, (last.phase i).isFinished = true) →
      (∀ t, t ∈ last.pool.pending ↔
        t ∈ pool.pending ∧ ∀ i, Outlives mapping t.tx.hash (calls i)) ∧
      (∀ t, t ∈ last.pool.queued ↔
        t ∈ pool.queued ∧ ∀ i, Outlives mapping t.tx.hash (calls i)) ∧
      last.mapping.mapping = mapping.mapping ∧
      ∀ other, (∀ i, ((run (step spec calls) (State.init pool mapping) other).phase
          i).isFinished = true) →
        (run (step spec calls) (State.init pool mapping) other).pool = last.pool) := by
  intro last
  refine ⟨fun i => run_finished spec calls pool mapping, ?_⟩
  intro finished
  obtain ⟨gone, progress⟩ := run_progress kasplex calls pool mapping schedule
  have hgone : ∀ h, pool.Holds h → (h ∉ gone ↔ ∀ i, Outlives mapping h (calls i)) := by
    intro h held
    rw [progress.finished finished held, not_exists]
    exact forall_congr' fun i => (outlives_iff room h (calls i)).symm
  have hpool : last.pool = pool.removeTransactions gone := progress.pool
  refine ⟨?_, ?_, progress.numbers, ?_⟩
  · intro t
    rw [hpool]
    simp only [TransactionPool.removeTransactions, List.mem_filter, decide_eq_true_eq]
    exact and_congr_right fun ht => hgone _ (Or.inl (List.mem_map_of_mem ht))
  · intro t
    rw [hpool]
    simp only [TransactionPool.removeTransactions, List.mem_filter, decide_eq_true_eq]
    exact and_congr_right fun ht => hgone _ (Or.inr (List.mem_map_of_mem ht))
  · intro other finished'
    obtain ⟨gone', progress'⟩ := run_progress kasplex calls pool mapping other
    rw [progress'.pool, hpool]
    refine removeTransactions_congr ?_
    intro h held
    rw [progress'.finished finished' held, progress.finished finished held]

/-- A pool with two transfers, one of them queued. -/
def transferPool : TransactionPool := ⟨[⟨transfer0, sampleSigner⟩], [⟨transfer1, sampleSigner⟩]⟩

/-- The first transfer, sent on block zero. -/
def transferNumbers : TxMapping := TxMapping.empty.insert transfer0.hash 1

/-- The head goes back to block zero, and a block with the first transfer
arrives. -/
def overlappingCalls : Bool → Call
  | false => .handleKasplexPoolReorg 0
  | true => .removeIncludedTransactions (sampleAlloy.sealSlow
      { sampleBlock with body := { sampleBlock.body with transactions := [transfer0] } })

def alternating : List Bool := (List.replicate 7 [false, true]).flatten

theorem transferNumbers_room (h : B256) (number : U64)
    (recorded : transferNumbers.getSubmissionBlock h = some number) :
    number.toNat ≤ 2 ^ 64 - 1 - unexecutedTxRetentionBlocks.toNat := by
  change transferNumbers.mapping h = some number at recorded
  unfold transferNumbers at recorded
  by_cases hh : h = transfer0.hash
  · rw [hh, TxMapping.insert_mapping_self] at recorded
    cases recorded
    decide
  · rw [TxMapping.insert_mapping_of_ne _ _ hh] at recorded
    cases recorded

/-- Both cleanups have the first transfer in their snapshots and both remove it;
the second transfer stays. -/
theorem cleanups_confluent_overlap :
    let last := run (step kasplexMainnet overlappingCalls)
      (State.init transferPool transferNumbers) alternating
    ⟨transfer0, sampleSigner⟩ ∉ last.pool.pending ∧
      ⟨transfer1, sampleSigner⟩ ∈ last.pool.queued := by
  intro last
  obtain ⟨hfinish, hexact⟩ := cleanups_confluent kasplexMainnet rfl overlappingCalls transferPool
    transferNumbers transferNumbers_room alternating
  obtain ⟨hpending, hqueued, -⟩ := hexact fun i => hfinish i (by cases i <;> decide)
  refine ⟨?_, ?_⟩
  · rw [hpending]
    rintro ⟨-, houtlives⟩
    exact houtlives true List.mem_cons_self
  · rw [hqueued]
    refine ⟨List.mem_cons_self, ?_⟩
    intro i
    cases i with
    | false => exact Or.inl (by decide +kernel)
    | true =>
      change transfer1.hash ∉ [transfer0.hash]
      decide +kernel

end Confluence

end PoolCleanups
