import Kasplex.PayloadBuilder
import Mathlib.Data.List.Basic

/-!
# Numbers written back by overlapping calls

A payload build and a block conversion first read the numbers of their
transactions, one lookup at a time, and store them again afterwards, one insert
at a time. The lock covers a single lookup or insert only, so submissions,
payload validations and other calls may run between any two of them. A number
that was read before a submission is written over it afterwards; this is the
only way in which a submitted number is lost.
-/

namespace ConcurrentNumbers

open Primitives MachineArith EvmConfig SubmissionNumbers PayloadBuilder Runs

/-- How far a call has come. A number is kept beside the hash it was read for. -/
inductive Phase where
  | idle
  | reading (left : List B256) (numbers : List (B256 × U64))
  | storing (numbers : List (B256 × U64))
  deriving DecidableEq

structure State (ι : Type) where
  mapping : TxMapping
  phase : ι → Phase

/-- `skip` takes back the number of a transaction that was refused, `abandon`
ends a build that is cancelled or fails, `take` is the lookup of a payload
validation, which removes the entry. -/
inductive Event (ι : Type) where
  | start (call : ι) (hashes : List B256)
  | advance (call : ι)
  | skip (call : ι)
  | abandon (call : ι)
  | insert (txHash : B256) (number : U64)
  | take (txHash : B256)

variable {ι : Type} [DecidableEq ι]

def State.init (mapping : TxMapping) : State ι := ⟨mapping, fun _ => .idle⟩

def State.setPhase (s : State ι) (i : ι) (p : Phase) : State ι :=
  { s with phase := Function.update s.phase i p }

/-- The next lookup or insert of one call. -/
def advance (s : State ι) (i : ι) : State ι :=
  match s.phase i with
  | .idle => s
  | .reading (h :: left) numbers =>
    s.setPhase i (.reading left (numbers ++ [(h, (s.mapping.getSubmissionBlock h).getD 0)]))
  | .reading [] numbers => s.setPhase i (.storing numbers)
  | .storing ((h, n) :: numbers) =>
    { s.setPhase i (.storing numbers) with mapping := s.mapping.insert h n }
  | .storing [] => s.setPhase i .idle

def step (s : State ι) : Event ι → State ι
  | .start i hashes =>
    match s.phase i with
    | .idle => s.setPhase i (.reading hashes [])
    | _ => s
  | .advance i => advance s i
  | .skip i =>
    match s.phase i with
    | .reading left numbers => s.setPhase i (.reading left numbers.dropLast)
    | _ => s
  | .abandon i =>
    match s.phase i with
    | .reading _ _ => s.setPhase i .idle
    | _ => s
  | .insert h n => { s with mapping := s.mapping.insert h n }
  | .take h => { s with mapping := (s.mapping.getTxNumber h).2 }

/-- The numbers a call has read and not written back. -/
def Phase.held : Phase → List (B256 × U64)
  | .idle => []
  | .reading _ numbers | .storing numbers => numbers

/-- Somebody other than the calls changes the entry of the hash. -/
def Touches (h : B256) : Event ι → Prop
  | .insert k _ | .take k => k = h
  | _ => False

@[simp] theorem setPhase_mapping (s : State ι) (i : ι) (p : Phase) :
    (s.setPhase i p).mapping = s.mapping := rfl

@[simp] theorem setPhase_phase_self (s : State ι) (i : ι) (p : Phase) :
    (s.setPhase i p).phase i = p := by
  simp [State.setPhase]

@[simp] theorem setPhase_setPhase (s : State ι) (i : ι) (p q : Phase) :
    (s.setPhase i p).setPhase i q = s.setPhase i q := by
  simp [State.setPhase]

theorem setPhase_eq_self {s : State ι} {i : ι} {p : Phase} (phase : s.phase i = p) :
    s.setPhase i p = s := by
  simp [State.setPhase, ← phase]

theorem setPhase_held {P : List (B256 × U64) → Prop} {s : State ι} {i : ι} {p : Phase}
    (own : P p.held) (others : ∀ j, P (s.phase j).held) :
    ∀ j, P ((s.setPhase i p).phase j).held := by
  intro j
  by_cases hj : j = i
  · subst hj
    simpa [State.setPhase] using own
  · simpa [State.setPhase, hj] using others j

/-! ## What one event does -/

/-- The effect of an event: none, a new list of numbers held by one call, each
held before or just read, one of them written back, or a change from outside. -/
inductive Move (s : State ι) : Event ι → State ι → Prop
  | still (e : Event ι) : Move s e s
  | hold (e : Event ι) (i : ι) (p : Phase)
      (known : ∀ x ∈ p.held, x ∈ (s.phase i).held ∨ x.2 = (s.mapping.mapping x.1).getD 0) :
      Move s e (s.setPhase i p)
  | writeBack (e : Event ι) (i : ι) (k : B256) (m : U64) (rest : List (B256 × U64))
      (held : (s.phase i).held = (k, m) :: rest) :
      Move s e { s.setPhase i (.storing rest) with mapping := s.mapping.insert k m }
  | insert (k : B256) (m : U64) : Move s (.insert k m) { s with mapping := s.mapping.insert k m }
  | take (k : B256) : Move s (.take k) { s with mapping := (s.mapping.getTxNumber k).2 }

theorem advance_move (s : State ι) (i : ι) : Move s (.advance i) (advance s i) := by
  unfold advance
  split
  · exact .still _
  · rename_i h left numbers hp
    refine .hold _ i _ fun x hx => ?_
    rcases List.mem_append.mp hx with hx | hx
    · left
      rw [hp]
      exact hx
    · right
      rw [List.mem_singleton.mp hx]
      rfl
  · rename_i numbers hp
    refine .hold _ i _ fun x hx => Or.inl ?_
    rw [hp]
    exact hx
  · rename_i h n numbers hp
    exact .writeBack _ i h n numbers (by rw [hp]; rfl)
  · exact .hold _ i _ fun x hx => absurd hx List.not_mem_nil

theorem step_move (s : State ι) (e : Event ι) : Move s e (step s e) := by
  cases e with
  | start i hashes =>
    simp only [step]
    split
    · exact .hold _ i _ fun x hx => absurd hx List.not_mem_nil
    · exact .still _
  | advance i => exact advance_move s i
  | skip i =>
    simp only [step]
    split
    · rename_i left numbers hp
      refine .hold _ i _ fun x hx => Or.inl ?_
      rw [hp]
      exact List.dropLast_subset numbers hx
    · exact .still _
  | abandon i =>
    simp only [step]
    split
    · exact .hold _ i _ fun x hx => absurd hx List.not_mem_nil
    · exact .still _
  | insert h n => exact .insert h n
  | take h => exact .take h

/-! ## What every run keeps -/

/-- A property of entries, read as a property of the numbers held too: a held
number is the entry that writing it back would leave. -/
structure Holds (ok : B256 → Option U64 → Prop) (s : State ι) : Prop where
  recorded : ∀ h, ok h (s.mapping.mapping h)
  held : ∀ i, ∀ x ∈ (s.phase i).held, ok x.1 (some x.2)

/-- The changes from outside leave entries with the property. -/
structure Admits (ok : B256 → Option U64 → Prop) (e : Event ι) : Prop where
  insert : ∀ h n, e = .insert h n → ok h (some n)
  take : ∀ h, e = .take h → ok h none

theorem update_recorded {ok : B256 → Option U64 → Prop} {entries : B256 → Option U64} {k : B256}
    {v : Option U64} (recorded : ∀ h, ok h (entries h)) (hv : ok k v) :
    ∀ h, ok h (Function.update entries k v h) := by
  intro h
  by_cases hk : h = k
  · subst hk
    rwa [Function.update_self]
  · rw [Function.update_of_ne hk]
    exact recorded h

theorem step_holds {ok : B256 → Option U64 → Prop}
    (reads : ∀ h v, ok h v → ok h (some (v.getD 0))) {s : State ι} {e : Event ι}
    (holds : Holds ok s) (admits : Admits ok e) : Holds ok (step s e) := by
  have hmove := step_move s e
  generalize step s e = t at hmove
  cases hmove with
  | still => exact holds
  | hold _ i p known =>
    refine ⟨holds.recorded, setPhase_held (P := fun l => ∀ x ∈ l, ok x.1 (some x.2)) ?_ holds.held⟩
    intro x hx
    rcases known x hx with hx | hx
    · exact holds.held i x hx
    · rw [hx]
      exact reads x.1 _ (holds.recorded x.1)
  | writeBack _ i k m rest held =>
    have hall : ∀ x ∈ (k, m) :: rest, ok x.1 (some x.2) := held ▸ holds.held i
    obtain ⟨hfirst, hrest⟩ := List.forall_mem_cons.mp hall
    exact ⟨update_recorded holds.recorded hfirst,
      setPhase_held (P := fun l => ∀ x ∈ l, ok x.1 (some x.2)) hrest holds.held⟩
  | insert k m => exact ⟨update_recorded holds.recorded (admits.insert k m rfl), holds.held⟩
  | take k => exact ⟨update_recorded holds.recorded (admits.take k rfl), holds.held⟩

theorem run_holds {ok : B256 → Option U64 → Prop}
    (reads : ∀ h v, ok h v → ok h (some (v.getD 0))) {s : State ι} {es : List (Event ι)}
    (holds : Holds ok s) (admits : ∀ e ∈ es, Admits ok e) : Holds ok (run step s es) := by
  induction es generalizing s with
  | nil => exact holds
  | cons e es ih =>
    obtain ⟨hfirst, hrest⟩ := List.forall_mem_cons.mp admits
    exact ih (step_holds reads holds hfirst) hrest

/-- Overlapping calls make no number up: whatever a hash has, in the mapping or
in the hands of a call, is zero, the number it started with, or one that was
submitted for it. -/
theorem numbers_come_from_submissions (mapping : TxMapping) (es : List (Event ι)) (h : B256)
    (n : U64) :
    ((run step (State.init mapping) es).mapping.mapping h = some n ∨
      ∃ i, (h, n) ∈ ((run step (State.init mapping) es).phase i).held) →
    n = 0 ∨ mapping.mapping h = some n ∨ Event.insert h n ∈ es := by
  let ok : B256 → Option U64 → Prop := fun k v =>
    ∀ m, v = some m → m = 0 ∨ mapping.mapping k = some m ∨ Event.insert k m ∈ es
  have hreads : ∀ k v, ok k v → ok k (some (v.getD 0)) := by
    intro k v hv m hm
    cases hm
    cases v with
    | none => exact Or.inl rfl
    | some m => exact hv m rfl
  have hstart : Holds ok (State.init mapping : State ι) :=
    ⟨fun k m hm => Or.inr (Or.inl hm), fun i x hx => absurd hx List.not_mem_nil⟩
  have hadmits : ∀ e ∈ es, Admits ok e := by
    intro e he
    refine ⟨?_, fun k _ m hm => nomatch hm⟩
    rintro k m rfl m' hm
    cases hm
    exact Or.inr (Or.inr he)
  have hholds := run_holds hreads hstart hadmits
  rintro (hrecorded | ⟨i, hheld⟩)
  · exact hholds.recorded h n hrecorded
  · exact hholds.held i _ hheld n rfl

/-- A conversion reads its transaction before the submission and writes zero
over the number afterwards. -/
def racedEvents : List (Event Unit) :=
  [.start () [5], .advance (), .insert 5 7, .advance (), .advance ()]

theorem numbers_come_from_submissions_raced :
    (run step (State.init TxMapping.empty) racedEvents).mapping.mapping 5 = some 0 ∧
      ((0 : U64) = 0 ∨ TxMapping.empty.mapping 5 = some 0 ∨
        Event.insert 5 0 ∈ racedEvents) :=
  ⟨by decide, numbers_come_from_submissions TxMapping.empty racedEvents 5 0 (Or.inl (by decide))⟩

/-! ## One call after another -/

theorem run_reading (s : State ι) (i : ι) (left : List B256) (numbers : List (B256 × U64))
    (phase : s.phase i = .reading left numbers) :
    run step s (List.replicate (left.length + 1) (.advance i)) =
      s.setPhase i (.storing (numbers ++
        left.map fun h => (h, (s.mapping.getSubmissionBlock h).getD 0))) := by
  induction left generalizing s numbers with
  | nil => simp [step, advance, phase]
  | cons h left ih =>
    have hfirst : step s (.advance i) =
        s.setPhase i (.reading left
          (numbers ++ [(h, (s.mapping.getSubmissionBlock h).getD 0)])) := by
      simp only [step, advance, phase]
    rw [List.length_cons, List.replicate_succ, run_cons, hfirst,
      ih _ _ (setPhase_phase_self s i _), setPhase_setPhase, setPhase_mapping, List.append_assoc]
    rfl

theorem run_storing (s : State ι) (i : ι) (before after : List (B256 × U64))
    (phase : s.phase i = .storing (before ++ after)) :
    run step s (List.replicate before.length (.advance i)) =
      ⟨s.mapping.insertAll before, (s.setPhase i (.storing after)).phase⟩ := by
  induction before generalizing s with
  | nil => exact (setPhase_eq_self phase).symm
  | cons x before ih =>
    obtain ⟨h, n⟩ := x
    have hfirst : step s (.advance i) =
        ⟨s.mapping.insert h n, (s.setPhase i (.storing (before ++ after))).phase⟩ := by
      simp only [step, advance, phase, List.cons_append]
    have hrest := ih ⟨s.mapping.insert h n, (s.setPhase i (.storing (before ++ after))).phase⟩
      (setPhase_phase_self s i _)
    rw [List.length_cons, List.replicate_succ, run_cons, hfirst, hrest]
    simp [State.setPhase, TxMapping.insertAll]

/-- The transactions of a build that were not skipped. -/
def taken {α : Type} (turns : List (α × Bool)) : List α := (turns.filter Prod.snd).map Prod.fst

/-- The turns of a build: the number of each transaction is read, and taken back
where the transaction is skipped. -/
def turnEvents (i : ι) : List (B256 × Bool) → List (Event ι)
  | [] => []
  | (_, true) :: turns => .advance i :: turnEvents i turns
  | (_, false) :: turns => .advance i :: .skip i :: turnEvents i turns

theorem run_turns (s : State ι) (i : ι) (turns : List (B256 × Bool)) (left : List B256)
    (numbers : List (B256 × U64))
    (phase : s.phase i = .reading (turns.map Prod.fst ++ left) numbers) :
    run step s (turnEvents i turns) = s.setPhase i (.reading left (numbers ++
      (taken turns).map fun h => (h, (s.mapping.getSubmissionBlock h).getD 0))) := by
  induction turns generalizing s numbers with
  | nil =>
    rw [taken, List.filter_nil, List.map_nil, List.map_nil, List.append_nil]
    exact (setPhase_eq_self phase).symm
  | cons turn turns ih =>
    obtain ⟨h, kept⟩ := turn
    have hread : step s (.advance i) = s.setPhase i (.reading (turns.map Prod.fst ++ left)
        (numbers ++ [(h, (s.mapping.getSubmissionBlock h).getD 0)])) := by
      simp only [step, advance, phase, List.map_cons, List.cons_append]
    cases kept with
    | true =>
      rw [turnEvents, run_cons, hread, ih _ _ (setPhase_phase_self s i _), setPhase_setPhase,
        setPhase_mapping, List.append_assoc]
      rfl
    | false =>
      have hskip : step (s.setPhase i (.reading (turns.map Prod.fst ++ left)
          (numbers ++ [(h, (s.mapping.getSubmissionBlock h).getD 0)]))) (.skip i) =
            s.setPhase i (.reading (turns.map Prod.fst ++ left) numbers) := by
        simp only [step, setPhase_phase_self, List.dropLast_concat, setPhase_setPhase]
      rw [turnEvents, run_cons, hread, run_cons, hskip, ih _ _ (setPhase_phase_self s i _),
        setPhase_setPhase, setPhase_mapping]
      rfl

/-- A call that nobody interrupts: it starts, its transactions have their turns,
and the numbers that are left are stored. -/
def callEvents (i : ι) (turns : List (B256 × Bool)) : List (Event ι) :=
  .start i (turns.map Prod.fst) :: (turnEvents i turns ++ (.advance i ::
    (List.replicate (taken turns).length (.advance i) ++ [.advance i])))

theorem step_start {s : State ι} {i : ι} (idle : s.phase i = .idle) (hashes : List B256) :
    step s (.start i hashes) = s.setPhase i (.reading hashes []) := by
  simp only [step, idle]

/-- It stores the numbers of what was not skipped again, in one go. -/
theorem run_call (s : State ι) (i : ι) (turns : List (B256 × Bool)) (idle : s.phase i = .idle) :
    run step s (callEvents i turns) =
      { s with mapping := s.mapping.recordAgain (taken turns) } := by
  have hturns := run_turns (s.setPhase i (.reading (turns.map Prod.fst) [])) i turns [] []
    (by rw [setPhase_phase_self, List.append_nil])
  rw [setPhase_setPhase, setPhase_mapping, List.nil_append] at hturns
  have hlength : (taken turns).length = ((taken turns).map fun h =>
      (h, (s.mapping.getSubmissionBlock h).getD 0)).length := (List.length_map _).symm
  rw [callEvents, run_cons, step_start idle, run_append, hturns, run_cons, run_append, hlength,
    run_storing _ _ _ [] (by simp [step, advance])]
  simp [step, advance, State.setPhase, TxMapping.recordAgain, ← idle]

/-- A conversion skips nothing and stores all its numbers again. -/
theorem run_alone (s : State ι) (i : ι) (hashes : List B256) (idle : s.phase i = .idle) :
    run step s (.start i hashes :: (List.replicate (hashes.length + 1) (.advance i) ++
      (List.replicate hashes.length (.advance i) ++ [.advance i]))) =
      { s with mapping := s.mapping.recordAgain hashes } := by
  have hturns : turnEvents i (hashes.map fun h => (h, true)) =
      List.replicate hashes.length (.advance i) := by
    induction hashes with
    | nil => rfl
    | cons h hashes ih => rw [List.map_cons, turnEvents, ih, List.length_cons, List.replicate_succ]
  have hlist : (hashes.map fun h => (h, true)).map Prod.fst = hashes := by
    rw [List.map_map]
    exact List.map_id hashes
  have htaken : taken (hashes.map fun h => (h, true)) = hashes := by
    rw [taken, List.filter_eq_self.mpr (by simp), hlist]
  have hrun := run_call s i (hashes.map fun h => (h, true)) idle
  rw [callEvents, hlist, hturns, htaken, List.append_cons, ← List.replicate_succ'] at hrun
  rw [← List.replicate_succ', hrun]

/-- A build that gives up after some turns leaves nothing behind. -/
theorem run_abandoned (s : State ι) (i : ι) (turns : List (B256 × Bool)) (left : List B256)
    (idle : s.phase i = .idle) :
    run step s (.start i (turns.map Prod.fst ++ left) :: (turnEvents i turns ++ [.abandon i])) =
      s := by
  have hturns := run_turns (s.setPhase i (.reading (turns.map Prod.fst ++ left) [])) i turns left
    [] (setPhase_phase_self s i _)
  rw [run_cons, step_start idle, run_append, hturns]
  simp only [run_cons, run_nil, step, setPhase_setPhase, setPhase_phase_self]
  exact setPhase_eq_self idle

theorem exists_turns {α : Type} {included txs : List α} (sublist : included.Sublist txs) :
    ∃ turns : List (α × Bool), turns.map Prod.fst = txs ∧ taken turns = included := by
  induction sublist with
  | slnil => exact ⟨[], rfl, rfl⟩
  | cons tx _ ih =>
    obtain ⟨turns, rfl, rfl⟩ := ih
    exact ⟨(tx, false) :: turns, rfl, rfl⟩
  | cons_cons tx _ ih =>
    obtain ⟨turns, rfl, rfl⟩ := ih
    exact ⟨(tx, true) :: turns, rfl, rfl⟩

/-- A build with nothing else running is such a call: it has a turn for every
transaction of its list, and what it does not skip is the block. -/
theorem kasplexPayload_alone {backend : Backend} {config : KasplexEvmConfig}
    {args : BuildArguments} {payload : EthBuiltPayload} {mapping' : TxMapping} (s : State ι)
    (i : ι) (idle : s.phase i = .idle)
    (frozen : (kasplexPayload backend config s.mapping args).1 =
      .ok (.freeze payload, mapping')) :
    ∃ turns, turns.map Prod.fst = args.attributes.transactions.map (fun r => r.tx.hash) ∧
      taken turns = payload.block.block.body.transactions.map TransactionSigned.hash ∧
      run step s (callEvents i turns) = { s with mapping := mapping' } := by
  obtain ⟨db, baseFee, pre, last, included, outputs, outcome, f, rfl, -⟩ :=
    kasplexPayload_freeze frozen
  obtain ⟨hbody, -, -, -⟩ := f.block_eq
  obtain ⟨turns, hlist, htaken⟩ := exists_turns (f.loop.sublist.map fun r => r.tx.hash)
  have hblock : taken turns =
      outcome.block.sealedBlock.block.body.transactions.map TransactionSigned.hash := by
    rw [htaken, hbody, List.map_map]
    rfl
  refine ⟨turns, hlist, hblock, ?_⟩
  rw [run_call s i turns idle, hblock, kasplexPayload_freeze_mapping frozen]

/-! ## The number that is lost -/

/-- A number read before the entry changed, and still to be written back. -/
def Stale (h : B256) (n : U64) (s : State ι) : Prop :=
  ∃ i, ∃ m, (h, m) ∈ (s.phase i).held ∧ m ≠ n

/-- A call left alone from here on writes back every number it holds. -/
theorem held_written (s : State ι) (i : ι) (h : B256) (m : U64) (held : (h, m) ∈ (s.phase i).held) :
    ∃ k, (run step s (List.replicate k (.advance i))).mapping.mapping h = some m := by
  have hstored : ∀ (t : State ι) (numbers : List (B256 × U64)), t.phase i = .storing numbers →
      (h, m) ∈ numbers →
      ∃ k, (run step t (List.replicate k (.advance i))).mapping.mapping h = some m := by
    intro t numbers hp hmem
    obtain ⟨before, after, rfl⟩ := List.append_of_mem hmem
    refine ⟨(before ++ [(h, m)]).length, ?_⟩
    rw [run_storing t i (before ++ [(h, m)]) after (by simpa using hp)]
    simp [TxMapping.insertAll_append, TxMapping.insertAll]
  cases hp : s.phase i with
  | idle => simp [hp, Phase.held] at held
  | storing numbers => exact hstored s numbers hp (by simpa [hp, Phase.held] using held)
  | reading left numbers =>
    have hmem : (h, m) ∈ numbers := by simpa [hp, Phase.held] using held
    obtain ⟨k, hk⟩ := hstored _ _ (setPhase_phase_self s i _) (List.mem_append_left _ hmem)
    refine ⟨left.length + 1 + k, ?_⟩
    rw [List.replicate_add, run_append, run_reading s i left numbers hp]
    exact hk

omit [DecidableEq ι] in
theorem not_touches_advance (h : B256) (i : ι) (k : Nat) :
    ∀ e ∈ List.replicate k (Event.advance i), ¬ Touches h e := by
  intro e he
  rw [(List.mem_replicate.mp he).2]
  exact id

/-- A recorded number survives every further run without another submission or
validation of its transaction exactly when no call holds a different number that
it read for it before. -/
theorem number_kept_iff (s : State ι) (h : B256) (n : U64)
    (recorded : s.mapping.mapping h = some n) :
    (∀ es, (∀ e ∈ es, ¬ Touches h e) → (run step s es).mapping.mapping h = some n) ↔
      ¬ Stale h n s := by
  constructor
  · rintro hkept ⟨i, m, held, hne⟩
    obtain ⟨k, hk⟩ := held_written s i h m held
    rw [hkept _ (not_touches_advance h i k)] at hk
    exact hne (Option.some.inj hk).symm
  · intro hfresh es untouched
    have hstart : Holds (fun k v => k = h → v = some n) s := by
      refine ⟨fun k hk => hk ▸ recorded, ?_⟩
      rintro i ⟨k, m⟩ hx rfl
      refine congrArg some (by_contra fun hne => hfresh ⟨i, m, hx, hne⟩)
    have hadmits : ∀ e ∈ es, Admits (fun k v => k = h → v = some n) e := by
      intro e he
      refine ⟨?_, ?_⟩
      · rintro k m rfl rfl
        exact absurd rfl (untouched _ he)
      · rintro k rfl rfl
        exact absurd rfl (untouched _ he)
    refine (run_holds ?_ hstart hadmits).recorded h rfl
    intro k v hv hk
    rw [hv hk]
    rfl

def heldAcrossSubmission : State Unit :=
  run step (State.init TxMapping.empty) (racedEvents.take 3)

theorem number_kept_iff_raced :
    Stale 5 7 heldAcrossSubmission ∧
      ((∀ es, (∀ e ∈ es, ¬ Touches 5 e) →
        (run step heldAcrossSubmission es).mapping.mapping 5 = some 7) ↔
          ¬ Stale 5 7 heldAcrossSubmission) :=
  ⟨⟨(), 0, by decide, by decide⟩, number_kept_iff heldAcrossSubmission 5 7 (by decide)⟩

end ConcurrentNumbers
