import Kasplex.Runs
import Kasplex.SubmissionNumbers
import Mathlib.Data.Finmap
import Mathlib.Data.Finset.Card

/-!
# The store of the transaction mapping

The state behind the lock: a finite map of numbers, a set of deleted hashes and
a flag. Every method is one critical section. A history of calls determines each
answer by the last call that had a say in it, and the three parts do not
influence one another, but that clearing resets them all. There is one such
state in a process: a mapping that is called new is a clone of the global one,
so the history that counts is that of the process and not of the mapping asked.
-/

namespace MappingStore

open Primitives MachineArith SubmissionNumbers Runs

abbrev Numbers := Finmap fun _ : B256 => U64

structure TxMappingState where
  mapping : Numbers
  deleted : Finset B256
  reorgInProgress : Bool

namespace TxMappingState

/-- The state of the global mapping before the first call of the process. -/
def default : TxMappingState := ⟨∅, ∅, false⟩

variable (s : TxMappingState)

def setMapping (mapping : Numbers) : TxMappingState := { s with mapping }

def getTxNumber (txHash : B256) : U64 × TxMappingState :=
  ((s.mapping.lookup txHash).getD 0, { s with mapping := s.mapping.erase txHash })

def addDeletedTransaction (txHash : B256) : TxMappingState :=
  { s with deleted := insert txHash s.deleted }

def isDeletedTransaction (txHash : B256) : Bool := txHash ∈ s.deleted

def markStartPoolReorg : TxMappingState := { s with reorgInProgress := true }

def markPoolReorged : TxMappingState := { s with reorgInProgress := false }

def isReorgComplete : Bool := !s.reorgInProgress

def insertNumber (txHash : B256) (blockNumber : U64) : TxMappingState :=
  { s with mapping := s.mapping.insert txHash blockNumber }

def isTransactionExpired (txHash : B256) (currentBlockNumber : U64) : Bool :=
  match s.mapping.lookup txHash with
  | some submissionBlock =>
    submissionBlock + unexecutedTxRetentionBlocks < currentBlockNumber ||
      currentBlockNumber < submissionBlock
  | none => false

def getSubmissionBlock (txHash : B256) : Option U64 := s.mapping.lookup txHash

def clear (_ : TxMappingState) : TxMappingState := ⟨∅, ∅, false⟩

def len : Nat := s.mapping.keys.card

def isEmpty : Bool := s.len = 0

/-- What the rest of the node sees of the store. -/
def toTxMapping : TxMapping := ⟨fun h => s.mapping.lookup h, s.reorgInProgress⟩

end TxMappingState

/-- A call that writes. -/
inductive Call where
  | setMapping (mapping : Numbers)
  | getTxNumber (txHash : B256)
  | addDeletedTransaction (txHash : B256)
  | markStartPoolReorg
  | markPoolReorged
  | insert (txHash : B256) (blockNumber : U64)
  | clear

def step (s : TxMappingState) : Call → TxMappingState
  | .setMapping mapping => s.setMapping mapping
  | .getTxNumber h => (s.getTxNumber h).2
  | .addDeletedTransaction h => s.addDeletedTransaction h
  | .markStartPoolReorg => s.markStartPoolReorg
  | .markPoolReorged => s.markPoolReorged
  | .insert h n => s.insertNumber h n
  | .clear => s.clear

/-! ## The part of each call -/

/-- The entry a call leaves for a hash, if it has a say in it. -/
def Call.entry (h : B256) : Call → Option (Option U64)
  | .setMapping mapping => some (mapping.lookup h)
  | .getTxNumber k => if k = h then some none else none
  | .insert k n => if k = h then some (some n) else none
  | .clear => some none
  | _ => none

def Call.deletion (h : B256) : Call → Option Bool
  | .addDeletedTransaction k => if k = h then some true else none
  | .clear => some false
  | _ => none

def Call.reorg : Call → Option Bool
  | .markStartPoolReorg => some true
  | .markPoolReorged => some false
  | .clear => some false
  | _ => none

/-- The last say of a history; none, where it has had none. -/
def lastEntry (calls : List Call) (h : B256) : Option U64 :=
  (calls.reverse.findSome? (Call.entry h)).getD none

theorem step_entry (h : B256) (s : TxMappingState) (c : Call) :
    (step s c).mapping.lookup h = (c.entry h).getD (s.mapping.lookup h) := by
  cases c with
  | getTxNumber k =>
    by_cases hk : k = h
    · subst hk
      simp [step, TxMappingState.getTxNumber, Call.entry]
    · have hne : h ≠ k := fun same => hk same.symm
      simp [step, TxMappingState.getTxNumber, Call.entry, hk, Finmap.lookup_erase_ne hne]
  | insert k n =>
    by_cases hk : k = h
    · subst hk
      simp [step, TxMappingState.insertNumber, Call.entry]
    · have hne : h ≠ k := fun same => hk same.symm
      simp [step, TxMappingState.insertNumber, Call.entry, hk, Finmap.lookup_insert_of_ne _ hne]
  | _ => rfl

theorem step_deletion (h : B256) (s : TxMappingState) (c : Call) :
    (step s c).isDeletedTransaction h = (c.deletion h).getD (s.isDeletedTransaction h) := by
  cases c with
  | addDeletedTransaction k =>
    by_cases hk : k = h
    · simp [step, TxMappingState.addDeletedTransaction, TxMappingState.isDeletedTransaction,
        Call.deletion, hk]
    · have hne : h ≠ k := fun same => hk same.symm
      simp [step, TxMappingState.addDeletedTransaction, TxMappingState.isDeletedTransaction,
        Call.deletion, hk, hne]
  | _ => rfl

theorem step_reorg (s : TxMappingState) (c : Call) :
    (step s c).reorgInProgress = c.reorg.getD s.reorgInProgress := by
  cases c <;> rfl

/-! ## Refinement -/

/-- The calls on the mapping that the store is modelled by. Deletion marks are
not part of it. -/
def mappingStep (m : TxMapping) : Call → TxMapping
  | .setMapping mapping => { m with mapping := fun h => mapping.lookup h }
  | .getTxNumber h => (m.getTxNumber h).2
  | .addDeletedTransaction _ => m
  | .markStartPoolReorg => m.markStartPoolReorg
  | .markPoolReorged => m.markPoolReorged
  | .insert h n => m.insert h n
  | .clear => TxMapping.empty

theorem insertNumber_toTxMapping (s : TxMappingState) (h : B256) (n : U64) :
    (s.insertNumber h n).toTxMapping = s.toTxMapping.insert h n := by
  have hentries : (fun k => (s.mapping.insert h n).lookup k) =
      Function.update (fun k => s.mapping.lookup k) h (some n) := by
    funext k
    by_cases hk : k = h
    · subst hk
      rw [Finmap.lookup_insert, Function.update_self]
    · rw [Finmap.lookup_insert_of_ne _ hk, Function.update_of_ne hk]
  simp only [TxMappingState.toTxMapping, TxMappingState.insertNumber, TxMapping.insert, hentries]

theorem getTxNumber_toTxMapping (s : TxMappingState) (h : B256) :
    ((s.getTxNumber h).1, (s.getTxNumber h).2.toTxMapping) = s.toTxMapping.getTxNumber h := by
  have hentries : (fun k => (s.mapping.erase h).lookup k) =
      Function.update (fun k => s.mapping.lookup k) h none := by
    funext k
    by_cases hk : k = h
    · subst hk
      rw [Finmap.lookup_erase, Function.update_self]
    · rw [Finmap.lookup_erase_ne hk, Function.update_of_ne hk]
  simp only [TxMappingState.toTxMapping, TxMappingState.getTxNumber, TxMapping.getTxNumber,
    hentries]

theorem step_toTxMapping (s : TxMappingState) (c : Call) :
    (step s c).toTxMapping = mappingStep s.toTxMapping c := by
  cases c with
  | insert h n => exact insertNumber_toTxMapping s h n
  | getTxNumber h => exact congrArg Prod.snd (getTxNumber_toTxMapping s h)
  | _ => rfl

theorem run_toTxMapping (s : TxMappingState) (calls : List Call) :
    (run step s calls).toTxMapping = run mappingStep s.toTxMapping calls := by
  induction calls generalizing s with
  | nil => rfl
  | cons c calls ih => rw [run_cons, run_cons, ih, step_toTxMapping]

/-! ## Histories -/

/-- The hashes a call may leave an entry for. -/
def Call.hashes : Call → Finset B256
  | .setMapping mapping => mapping.keys
  | .insert h _ => {h}
  | _ => ∅

def namedHashes : List Call → Finset B256
  | [] => ∅
  | c :: calls => c.hashes ∪ namedHashes calls

/-- The hashes with an entry after a history, found from the calls alone. -/
def recordedHashes (calls : List Call) : Finset B256 :=
  (namedHashes calls).filter fun h => (lastEntry calls h).isSome

theorem mem_hashes_of_entry {c : Call} {h : B256} {n : U64} (entry : c.entry h = some (some n)) :
    h ∈ c.hashes := by
  cases c with
  | setMapping mapping =>
    have hlookup : mapping.lookup h = some n := Option.some.inj entry
    exact Finmap.mem_keys.mpr (Finmap.mem_of_lookup_eq_some hlookup)
  | insert k m =>
    by_cases hk : k = h
    · simp [Call.hashes, hk]
    · simp [Call.entry, hk] at entry
  | getTxNumber k =>
    by_cases hk : k = h <;> simp [Call.entry, hk] at entry
  | clear => cases entry
  | addDeletedTransaction k => cases entry
  | markStartPoolReorg => cases entry
  | markPoolReorged => cases entry

theorem mem_namedHashes {calls : List Call} {c : Call} {h : B256} (called : c ∈ calls)
    (named : h ∈ c.hashes) : h ∈ namedHashes calls := by
  induction calls with
  | nil => cases called
  | cons first rest ih =>
    rw [namedHashes, Finset.mem_union]
    rcases List.mem_cons.mp called with rfl | later
    · exact Or.inl named
    · exact Or.inr (ih later)

theorem lastEntry_eq_some {calls : List Call} {h : B256} {n : U64}
    (last : lastEntry calls h = some n) : ∃ c ∈ calls, c.entry h = some (some n) := by
  unfold lastEntry at last
  cases hfound : calls.reverse.findSome? (Call.entry h) with
  | none =>
    rw [hfound] at last
    cases last
  | some entry =>
    rw [hfound] at last
    obtain ⟨c, hc, hentry⟩ := List.exists_of_findSome?_eq_some hfound
    change entry = some n at last
    exact ⟨c, List.mem_reverse.mp hc, last ▸ hentry⟩

theorem mem_recordedHashes {calls : List Call} {h : B256} :
    h ∈ recordedHashes calls ↔ (lastEntry calls h).isSome := by
  unfold recordedHashes
  rw [Finset.mem_filter, and_iff_right_iff_imp]
  intro hsome
  obtain ⟨n, hlast⟩ := Option.isSome_iff_exists.mp hsome
  obtain ⟨c, hc, hentry⟩ := lastEntry_eq_some hlast
  exact mem_namedHashes hc (mem_hashes_of_entry hentry)

/-- Every answer is the last say that the calls have had in it: numbers by
insertions, lookups that remove, replacements and clearings, deletion marks and
the reorg flag by their own methods and by clearings. The length counts the hashes
with a number, and the rest of the node sees the mapping that the same calls lead
to, expiry included. -/
structure AnswersFor (calls : List Call) (s : TxMappingState) : Prop where
  submissionBlock : ∀ h, s.getSubmissionBlock h = lastEntry calls h
  txNumber : ∀ h, (s.getTxNumber h).1 = (lastEntry calls h).getD 0
  deleted : ∀ h, s.isDeletedTransaction h =
    (calls.reverse.findSome? (Call.deletion h)).getD false
  reorgComplete : s.isReorgComplete = !(calls.reverse.findSome? Call.reorg).getD false
  len : s.len = (recordedHashes calls).card
  isEmpty : s.isEmpty = true ↔ ∀ h, lastEntry calls h = none
  mapping : s.toTxMapping = run mappingStep TxMapping.empty calls
  expired : ∀ h n, s.isTransactionExpired h n =
    (run mappingStep TxMapping.empty calls).isTransactionExpired h n

theorem run_answersFor (calls : List Call) :
    AnswersFor calls (run step TxMappingState.default calls) := by
  have hentries : ∀ h, (run step TxMappingState.default calls).mapping.lookup h =
      lastEntry calls h := by
    intro h
    exact @run_register _ _ _ step (fun s => s.mapping.lookup h) _ (step_entry h) _ calls
  have hkeys : (run step TxMappingState.default calls).mapping.keys = recordedHashes calls := by
    ext h
    rw [mem_recordedHashes, ← hentries, Finmap.mem_keys, Finmap.lookup_isSome]
  have hrun : (run step TxMappingState.default calls).toTxMapping =
      run mappingStep TxMapping.empty calls := run_toTxMapping TxMappingState.default calls
  refine ⟨hentries, fun h => congrArg (Option.getD · 0) (hentries h), fun h => ?_, ?_,
    congrArg Finset.card hkeys, ?_, hrun, fun h n => ?_⟩
  · exact @run_register _ _ _ step (fun s => s.isDeletedTransaction h) _ (step_deletion h) _ calls
  · exact congrArg (!·) (@run_register _ _ _ step (fun s => s.reorgInProgress) _ step_reorg _ calls)
  · unfold TxMappingState.isEmpty TxMappingState.len
    rw [hkeys, decide_eq_true_eq, Finset.card_eq_zero, Finset.eq_empty_iff_forall_notMem]
    refine forall_congr' fun k => ?_
    rw [mem_recordedHashes, Option.not_isSome_iff_eq_none]
  · rw [← hrun]
    rfl

/-! ## One store for the process -/

/-- A mapping in the hands of the program: the place of its state. -/
structure Handle where
  state : Nat
deriving DecidableEq

/-- The states made so far, the global mapping once it was asked for, and the
mappings the program holds. -/
structure Process where
  states : List TxMappingState
  globalTxMapping : Option Handle
  handles : List Handle

namespace Process

def start : Process := ⟨[], none, []⟩

/-- The first access makes the state. -/
def getGlobalTxMapping (p : Process) : Handle × Process :=
  match p.globalTxMapping with
  | some handle => (handle, p)
  | none =>
    let handle := Handle.mk p.states.length
    (handle, { p with
      states := p.states ++ [TxMappingState.default], globalTxMapping := some handle })

/-- The clone has the state of the original. -/
def clone (handle : Handle) (p : Process) : Handle × Process := (handle, p)

/-- A clone of the global mapping. -/
def default (p : Process) : Handle × Process :=
  let (handle, p) := p.getGlobalTxMapping
  clone handle p

def new (p : Process) : Handle × Process := p.default

def call (handle : Handle) (c : Call) (p : Process) : Process :=
  { p with states := p.states.modify handle.state fun s => MappingStore.step s c }

def hold : Handle × Process → Process
  | (handle, p) => { p with handles := p.handles ++ [handle] }

end Process

/-- What a program does with mappings: it gets one, or clones one it holds, or calls
a method of one it holds. -/
inductive Event where
  | new
  | default
  | getGlobalTxMapping
  | clone (held : Nat)
  | call (held : Nat) (c : Call)

namespace Process

/-- Nothing happens through a mapping that is not held. -/
def step (p : Process) : Event → Process
  | .new => hold p.new
  | .default => hold p.default
  | .getGlobalTxMapping => hold p.getGlobalTxMapping
  | .clone held => (p.handles[held]?).elim p fun handle => hold (clone handle p)
  | .call held c => (p.handles[held]?).elim p fun handle => call handle c p

def madeCall (p : Process) : Event → List Call
  | .call held c => if held < p.handles.length then [c] else []
  | _ => []

/-- The calls of a history, through whatever mapping each was made. -/
def callsMade (p : Process) : List Event → List Call
  | [] => []
  | e :: events => p.madeCall e ++ (p.step e).callsMade events

/-- The one state there is, if the global mapping was asked for, and nothing held
that is not the global mapping. -/
inductive Holds (s : TxMappingState) : Process → Prop
  | start : s = TxMappingState.default → Holds s start
  | global {handles : List Handle} :
      (∀ handle ∈ handles, handle = ⟨0⟩) → Holds s ⟨[s], some ⟨0⟩, handles⟩

theorem Holds.hold_global {s : TxMappingState} {p : Process} (h : Holds s p) :
    Holds s (hold p.getGlobalTxMapping) := by
  cases h with
  | start fresh =>
    subst fresh
    exact .global fun handle held => List.mem_singleton.mp held
  | global same => exact .global (List.forall_mem_append.mpr ⟨same, by simp⟩)

/-- What an event does to the one state. -/
theorem Holds.step {s : TxMappingState} {p : Process} (h : Holds s p) (e : Event) :
    Holds (run MappingStore.step s (p.madeCall e)) (p.step e) := by
  cases e with
  | new => exact h.hold_global
  | default => exact h.hold_global
  | getGlobalTxMapping => exact h.hold_global
  | clone held =>
    simp only [Process.step]
    cases hheld : p.handles[held]? with
    | none => exact h
    | some handle =>
      cases h with
      | start _ => cases hheld
      | global same =>
        have hhandle := same handle (List.mem_of_getElem? hheld)
        exact .global (List.forall_mem_append.mpr ⟨same, by simp [hhandle]⟩)
  | call held c =>
    simp only [Process.step, madeCall]
    cases hheld : p.handles[held]? with
    | none =>
      have hout := List.getElem?_eq_none_iff.mp hheld
      rw [if_neg hout.not_gt]
      exact h
    | some handle =>
      cases h with
      | start _ => cases hheld
      | global same =>
        obtain ⟨hin, -⟩ := List.getElem?_eq_some_iff.mp hheld
        rw [if_pos hin, same handle (List.mem_of_getElem? hheld)]
        exact .global same

theorem Holds.run {s : TxMappingState} {p : Process} (h : Holds s p) (events : List Event) :
    Holds (Runs.run MappingStore.step s (p.callsMade events)) (Runs.run Process.step p events) := by
  induction events generalizing s p with
  | nil => exact h
  | cons e events ih =>
    rw [callsMade, run_append, run_cons]
    exact ih (h.step e)

end Process

/-- In every process, whatever mappings it has got or cloned and whichever of them
it made its calls through, every mapping it holds answers from all the calls since
the process started. -/
theorem answers_follow_history (events : List Event) :
    ∀ handle ∈ (run Process.step Process.start events).handles,
      ∃ s, (run Process.step Process.start events).states[handle.state]? = some s ∧
        AnswersFor (Process.start.callsMade events) s := by
  intro handle held
  have hrun := (Process.Holds.start rfl).run events
  have hanswers := run_answersFor (Process.start.callsMade events)
  generalize run step TxMappingState.default (Process.start.callsMade events) = s at hrun hanswers
  generalize run Process.step Process.start events = p at hrun held ⊢
  cases hrun with
  | start _ => cases held
  | global same =>
    rw [same handle held]
    exact ⟨s, rfl, hanswers⟩

/-- A number is recorded, and a new mapping asked for it. -/
theorem answers_follow_history_shared :
    let p := run Process.step Process.start [.getGlobalTxMapping, .call 0 (.insert 7 5), .new]
    ∃ handle s, p.handles[1]? = some handle ∧ p.states[handle.state]? = some s ∧
      s.getSubmissionBlock 7 = some 5 := by
  intro p
  obtain ⟨s, hstate, answers⟩ := answers_follow_history
    [.getGlobalTxMapping, .call 0 (.insert 7 5), .new] ⟨0⟩ List.mem_cons_self
  exact ⟨⟨0⟩, s, rfl, hstate, (answers.submissionBlock 7).trans (by decide)⟩

end MappingStore
