import Kasplex.AuthApi
import Mathlib.Data.Finmap

/-!
# Content of the pool above a tip

Both lists of the pool are gone through, and what tips at least the asked amount
at the fixed base fee is filed under its sender and its nonce, written in
decimal. A later transaction of the same sender and nonce takes the place of an
earlier one. The first transaction that cannot be converted ends the call.
-/

namespace MinTipContent

open Primitives MachineArith TxPool AuthApi

variable {R V : Type}

/-- The inner map of a sender, by nonce. -/
abbrev SenderContent (R : Type) := Finmap fun _ : String => R

abbrev Content (R : Type) := Finmap fun _ : Address => SenderContent R

structure TxpoolContent (R : Type) where
  pending : Content R
  queued : Content R

def baseFee : U64 := 2000000000000

/-- The tip above the base fee; zero for a transaction below it. -/
def effectiveTip (baseFee : U64) (tx : TransactionSigned) : U256 :=
  let maxFeePerGas : U256 := tx.fees.maxFeePerGas.setWidth 256
  let baseFee : U256 := baseFee.setWidth 256
  if baseFee < maxFeePerGas then
    let feeCapTip := maxFeePerGas - baseFee
    match tx.fees.maxPriorityFeePerGas with
    | some priority =>
      let priorityFee : U256 := priority.setWidth 256
      if priorityFee ≤ feeCapTip then priorityFee else feeCapTip
    | none => feeCapTip
  else 0

def nonceKey (nonce : U64) : String := nonce.toNat.repr

/-- One transaction; `fillPending` is the conversion into the answer's form. -/
def insertWithMinTip (fillPending : Recovered → Except ErrorObject R) (minTip : U256)
    (baseFee : U64) (content : Content R) (tx : Recovered) :
    Except ErrorObject (Bool × Content R) :=
  if minTip ≤ effectiveTip baseFee tx.tx then do
    let own := (content.lookup tx.signer).getD ∅
    let filled ← fillPending tx
    pure (true, content.insert tx.signer (own.insert (nonceKey tx.tx.nonce) filled))
  else pure (false, content)

def insertAllWithMinTip (fillPending : Recovered → Except ErrorObject R) (minTip : U256)
    (baseFee : U64) : Content R → List Recovered → Except ErrorObject (Content R)
  | content, [] => pure content
  | content, tx :: rest => do
    let (_, content) ← insertWithMinTip fillPending minTip baseFee content tx
    insertAllWithMinTip fillPending minTip baseFee content rest

def txPoolContentWithMinTip (fillPending : Recovered → Except ErrorObject R)
    (toValue : TxpoolContent R → Except String V) (pool : TransactionPool) (minTip : U256) :
    Except ErrorObject V := do
  let pending ← insertAllWithMinTip fillPending minTip baseFee ∅ pool.pending
  let queued ← insertAllWithMinTip fillPending minTip baseFee ∅ pool.queued
  (toValue ⟨pending, queued⟩).mapError fun e => ⟨1, "Failed to serialize: " ++ e⟩

/-! ## The tip -/

theorem sub_setWidth {a b : U128} (le : b ≤ a) :
    (a - b).setWidth 256 = a.setWidth 256 - b.setWidth 256 := by
  have hwide : ∀ x : U128, (x.setWidth 256).toNat = x.toNat := toNat_setWidth_of_le (by decide)
  have hle : b.setWidth 256 ≤ a.setWidth 256 := by
    rw [BitVec.le_def, hwide, hwide]
    exact BitVec.le_def.mp le
  apply BitVec.eq_of_toNat_eq
  rw [BitVec.toNat_sub_of_le hle, hwide, hwide, hwide, BitVec.toNat_sub_of_le le]

theorem min_setWidth (a b : U128) :
    (if b.setWidth 256 ≤ a.setWidth 256 then b.setWidth 256 else a.setWidth 256 : U256) =
      (if a ≤ b then a else b).setWidth 256 := by
  have hwide : ∀ x : U128, (x.setWidth 256).toNat = x.toNat := toNat_setWidth_of_le (by decide)
  have hle : b.setWidth 256 ≤ a.setWidth 256 ↔ b ≤ a := by
    rw [BitVec.le_def, BitVec.le_def, hwide, hwide]
  by_cases hab : a ≤ b <;> by_cases hba : b ≤ a
  · rw [if_pos (hle.mpr hba), if_pos hab, BitVec.le_antisymm hab hba]
  · rw [if_neg (hle.not.mpr hba), if_pos hab]
  · rw [if_pos (hle.mpr hba), if_neg hab]
  · exact absurd (BitVec.le_total a b) (not_or.mpr ⟨hab, hba⟩)

/-- It is the tip the block builder credits, with nothing for the transactions
whose fee cap does not reach the base fee. -/
theorem effectiveTip_eq (baseFee : U64) (tx : TransactionSigned) :
    effectiveTip baseFee tx = ((tx.effectiveTipPerGas baseFee).getD 0).setWidth 256 := by
  have hwide : ∀ x : U128, (x.setWidth 256).toNat = x.toNat := toNat_setWidth_of_le (by decide)
  have hbase : baseFee.setWidth 256 = (baseFee.setWidth 128).setWidth 256 := by
    apply BitVec.eq_of_toNat_eq
    rw [hwide, toNat_setWidth_of_le (by decide), toNat_setWidth_of_le (by decide)]
  have hlt : ∀ x y : U128, (x.setWidth 256 : U256) < y.setWidth 256 ↔ x < y := by
    intro x y
    rw [BitVec.lt_def, BitVec.lt_def, hwide, hwide]
  unfold effectiveTip TransactionSigned.effectiveTipPerGas
  simp only [hbase, hlt]
  generalize baseFee.setWidth 128 = fee
  by_cases hbelow : tx.fees.maxFeePerGas < fee
  · rw [if_neg (BitVec.not_lt.mpr (BitVec.le_of_lt hbelow)), if_pos hbelow]
    rfl
  · have habove := BitVec.not_lt.mp hbelow
    rw [if_neg hbelow, ← sub_setWidth habove]
    by_cases hequal : fee < tx.fees.maxFeePerGas
    · rw [if_pos hequal]
      cases tx.fees.maxPriorityFeePerGas with
      | none => rfl
      | some priority => exact min_setWidth _ _
    · rw [if_neg hequal, BitVec.le_antisymm (BitVec.not_lt.mp hequal) habove, BitVec.sub_self]
      cases tx.fees.maxPriorityFeePerGas with
      | none => rfl
      | some priority =>
        have hzero : 0#128 ≤ priority := BitVec.le_def.mpr (Nat.zero_le _)
        have hmin : (if 0#128 ≤ priority then 0#128 else priority) = 0#128 := if_pos hzero
        exact (congrArg (BitVec.setWidth 256) hmin).symm

/-! ## The filing -/

/-- The asked tip is met by what the builder would credit for the transaction. -/
def Passes (minTip : U256) (baseFee : U64) (tx : Recovered) : Prop :=
  minTip ≤ ((tx.tx.effectiveTipPerGas baseFee).getD 0).setWidth 256

instance (minTip : U256) (baseFee : U64) (tx : Recovered) : Decidable (Passes minTip baseFee tx) :=
  inferInstanceAs (Decidable (_ ≤ _))

def entry (content : Content R) (sender : Address) (key : String) : Option R :=
  (content.lookup sender).bind fun own => own.lookup key

theorem entry_empty (sender : Address) (key : String) : entry (∅ : Content R) sender key = none :=
  rfl

theorem entry_insert (content : Content R) (sender sender' : Address) (key key' : String) (r : R) :
    entry (content.insert sender (((content.lookup sender).getD ∅).insert key r)) sender' key' =
      if sender = sender' ∧ key = key' then some r else entry content sender' key' := by
  unfold entry
  by_cases hsender : sender = sender'
  · subst hsender
    rw [Finmap.lookup_insert]
    by_cases hkey : key = key'
    · subst hkey
      simp
    · have hne : key' ≠ key := fun same => hkey same.symm
      simp only [hkey, and_false, if_false, Option.bind_some, Finmap.lookup_insert_of_ne _ hne]
      cases content.lookup sender <;> rfl
  · have hne : sender' ≠ sender := fun same => hsender same.symm
    simp only [hsender, false_and, if_false, Finmap.lookup_insert_of_ne _ hne]

theorem nonceKey_injective {a b : U64} (same : nonceKey a = nonceKey b) : a = b := by
  have hdigits := congrArg String.toList same
  unfold nonceKey at hdigits
  rw [Nat.toList_repr, Nat.toList_repr] at hdigits
  have hvalue := congrArg (fun digits => Nat.ofDigitChars 10 digits 0) hdigits
  simp only [Nat.ofDigitChars_ten_toDigits] at hvalue
  exact BitVec.eq_of_toNat_eq hvalue

section Last

variable {α : Type} {P : α → Prop} {x t : α} {xs rest : List α}

/-- The last of the list with a property. -/
def LastOf (P : α → Prop) (xs : List α) (t : α) : Prop :=
  ∃ earlier later, xs = earlier ++ t :: later ∧ P t ∧ ∀ u ∈ later, ¬ P u

theorem lastOf_cons :
    LastOf P (x :: rest) t ↔ LastOf P rest t ∨ (t = x ∧ P x ∧ ∀ u ∈ rest, ¬ P u) := by
  constructor
  · rintro ⟨earlier, later, hsplit, hP, hlater⟩
    cases earlier with
    | nil =>
      obtain ⟨rfl, rfl⟩ := List.cons.inj hsplit
      exact Or.inr ⟨rfl, hP, hlater⟩
    | cons u earlier =>
      obtain ⟨rfl, rfl⟩ := List.cons.inj hsplit
      exact Or.inl ⟨earlier, later, rfl, hP, hlater⟩
  · rintro (⟨earlier, later, rfl, hP, hlater⟩ | ⟨rfl, hP, hrest⟩)
    · exact ⟨x :: earlier, later, rfl, hP, hlater⟩
    · exact ⟨[], rest, rfl, hP, hrest⟩

theorem exists_lastOf (mem : t ∈ xs) (hP : P t) : ∃ u, LastOf P xs u := by
  induction xs generalizing t with
  | nil => cases mem
  | cons x rest ih =>
    by_cases hrest : ∃ u ∈ rest, P u
    · obtain ⟨u, hu, hPu⟩ := hrest
      obtain ⟨v, hv⟩ := ih hu hPu
      exact ⟨v, lastOf_cons.mpr (Or.inl hv)⟩
    · have hnone : ∀ u ∈ rest, ¬ P u := fun u hu hPu => hrest ⟨u, hu, hPu⟩
      rcases List.mem_cons.mp mem with rfl | ht
      · exact ⟨t, lastOf_cons.mpr (Or.inr ⟨rfl, hP, hnone⟩)⟩
      · exact absurd hP (hnone t ht)

theorem LastOf.mem (last : LastOf P xs t) : t ∈ xs := by
  obtain ⟨earlier, later, rfl, -, -⟩ := last
  simp

theorem LastOf.holds (last : LastOf P xs t) : P t := by
  obtain ⟨_, _, -, hP, -⟩ := last
  exact hP

end Last

section Filing

variable (fillPending : Recovered → Except ErrorObject R) (minTip : U256) (baseFee : U64)

/-- Filed under this sender and nonce, if it is converted. -/
def Under (sender : Address) (nonce : U64) (tx : Recovered) : Prop :=
  Passes minTip baseFee tx ∧ tx.signer = sender ∧ tx.tx.nonce = nonce

def AllFilled (txs : List Recovered) : Prop :=
  ∀ t ∈ txs, Passes minTip baseFee t → ∃ r, fillPending t = .ok r

/-- The error of the first transaction that passes and cannot be converted. -/
def FirstFailure (txs : List Recovered) (err : ErrorObject) : Prop :=
  ∃ earlier t later, txs = earlier ++ t :: later ∧ AllFilled fillPending minTip baseFee earlier ∧
    Passes minTip baseFee t ∧ fillPending t = .error err

/-- The answer files of the list, for each sender and nonce, the last transaction
that passes, under decimal nonces only, and has no sender without one. -/
structure FiledFrom (txs : List Recovered) (content : Content R) : Prop where
  last : ∀ sender nonce r, entry content sender (nonceKey nonce) = some r ↔
    ∃ t, LastOf (Under minTip baseFee sender nonce) txs t ∧ fillPending t = .ok r
  keys : ∀ sender key r, entry content sender key = some r → ∃ nonce, key = nonceKey nonce
  kept : ∀ t ∈ txs, Passes minTip baseFee t →
    (entry content t.signer (nonceKey t.tx.nonce)).isSome
  senders : ∀ sender ∈ content, ∃ t ∈ txs, Passes minTip baseFee t ∧ t.signer = sender

variable {fillPending minTip baseFee}

theorem allFilled_nil : AllFilled fillPending minTip baseFee [] := by
  intro t ht
  cases ht

theorem AllFilled.append {txs txs' : List Recovered}
    (filled : AllFilled fillPending minTip baseFee txs)
    (filled' : AllFilled fillPending minTip baseFee txs') :
    AllFilled fillPending minTip baseFee (txs ++ txs') := by
  intro t ht
  rcases List.mem_append.mp ht with h | h
  · exact filled t h
  · exact filled' t h

theorem FirstFailure.append {txs : List Recovered} {err : ErrorObject}
    (failed : FirstFailure fillPending minTip baseFee txs err) (txs' : List Recovered) :
    FirstFailure fillPending minTip baseFee (txs ++ txs') err := by
  obtain ⟨earlier, t, later, rfl, hfilled, hfail⟩ := failed
  exact ⟨earlier, t, later ++ txs', by simp, hfilled, hfail⟩

theorem FirstFailure.after {txs txs' : List Recovered} {err : ErrorObject}
    (filled : AllFilled fillPending minTip baseFee txs)
    (failed : FirstFailure fillPending minTip baseFee txs' err) :
    FirstFailure fillPending minTip baseFee (txs ++ txs') err := by
  obtain ⟨earlier, t, later, rfl, hfilled, hfail⟩ := failed
  exact ⟨txs ++ earlier, t, later, by simp, filled.append hfilled, hfail⟩

/-- What one transaction can do: pass and be filed, pass and fail, or not pass. -/
theorem insertWithMinTip_cases (content : Content R) (tx : Recovered) :
    (Passes minTip baseFee tx ∧ ∃ r, fillPending tx = .ok r ∧
      insertWithMinTip fillPending minTip baseFee content tx = .ok (true,
        content.insert tx.signer (((content.lookup tx.signer).getD ∅).insert
          (nonceKey tx.tx.nonce) r))) ∨
    (Passes minTip baseFee tx ∧ ∃ err, fillPending tx = .error err ∧
      insertWithMinTip fillPending minTip baseFee content tx = .error err) ∨
    (¬ Passes minTip baseFee tx ∧
      insertWithMinTip fillPending minTip baseFee content tx = .ok (false, content)) := by
  unfold insertWithMinTip
  rw [effectiveTip_eq]
  by_cases hpass : Passes minTip baseFee tx
  · have htip : minTip ≤ ((tx.tx.effectiveTipPerGas baseFee).getD 0).setWidth 256 := hpass
    rw [if_pos htip]
    cases hfill : fillPending tx with
    | ok r => exact Or.inl ⟨hpass, r, rfl, rfl⟩
    | error err => exact Or.inr (Or.inl ⟨hpass, err, rfl, rfl⟩)
  · have htip : ¬ minTip ≤ ((tx.tx.effectiveTipPerGas baseFee).getD 0).setWidth 256 := hpass
    rw [if_neg htip]
    exact Or.inr (Or.inr ⟨hpass, rfl⟩)

/-- The last of the list is filed, or nothing of the list and what was there
before. -/
def Files (fillPending : Recovered → Except ErrorObject R) (minTip : U256) (baseFee : U64)
    (txs : List Recovered) (sender : Address) (nonce : U64) (r : R) (before : Prop) : Prop :=
  (∃ t, LastOf (Under minTip baseFee sender nonce) txs t ∧ fillPending t = .ok r) ∨
    (before ∧ ∀ u ∈ txs, ¬ Under minTip baseFee sender nonce u)

section Files

variable {sender : Address} {nonce : U64} {r r' : R} {before : Prop} {tx : Recovered}
  {rest : List Recovered}

theorem files_nil : Files fillPending minTip baseFee [] sender nonce r before ↔ before := by
  constructor
  · rintro (⟨t, hlast, -⟩ | ⟨h, -⟩)
    · cases hlast.mem
    · exact h
  · exact fun h => Or.inr ⟨h, fun u hu => by cases hu⟩

theorem files_cons_of_not (other : ¬ Under minTip baseFee sender nonce tx) :
    Files fillPending minTip baseFee (tx :: rest) sender nonce r before ↔
      Files fillPending minTip baseFee rest sender nonce r before := by
  constructor
  · rintro (⟨t, hlast, hfill⟩ | ⟨h, hnone⟩)
    · rcases lastOf_cons.mp hlast with hlast | ⟨-, hunder, -⟩
      · exact Or.inl ⟨t, hlast, hfill⟩
      · exact absurd hunder other
    · exact Or.inr ⟨h, (List.forall_mem_cons.mp hnone).2⟩
  · rintro (⟨t, hlast, hfill⟩ | ⟨h, hnone⟩)
    · exact Or.inl ⟨t, lastOf_cons.mpr (Or.inl hlast), hfill⟩
    · exact Or.inr ⟨h, List.forall_mem_cons.mpr ⟨other, hnone⟩⟩

/-- A transaction that is filed takes the place of what was there. -/
theorem files_cons_of_under (under : Under minTip baseFee sender nonce tx)
    (fill : fillPending tx = .ok r') :
    Files fillPending minTip baseFee (tx :: rest) sender nonce r before ↔
      Files fillPending minTip baseFee rest sender nonce r (r' = r) := by
  constructor
  · rintro (⟨t, hlast, hfill⟩ | ⟨-, hnone⟩)
    · rcases lastOf_cons.mp hlast with hlast | ⟨rfl, -, hrest⟩
      · exact Or.inl ⟨t, hlast, hfill⟩
      · exact Or.inr ⟨Except.ok.inj (fill.symm.trans hfill), hrest⟩
    · exact absurd under (hnone tx List.mem_cons_self)
  · rintro (⟨t, hlast, hfill⟩ | ⟨rfl, hrest⟩)
    · exact Or.inl ⟨t, lastOf_cons.mpr (Or.inl hlast), hfill⟩
    · exact Or.inl ⟨tx, lastOf_cons.mpr (Or.inr ⟨rfl, under, hrest⟩), fill⟩

end Files

/-- What the content holds after the list. -/
def After (fillPending : Recovered → Except ErrorObject R) (minTip : U256) (baseFee : U64)
    (content : Content R) (txs : List Recovered) (content' : Content R) : Prop :=
  (∀ sender nonce r, entry content' sender (nonceKey nonce) = some r ↔
    Files fillPending minTip baseFee txs sender nonce r
      (entry content sender (nonceKey nonce) = some r)) ∧
  (∀ sender key r, entry content' sender key = some r →
    entry content sender key = some r ∨ ∃ nonce, key = nonceKey nonce) ∧
  ∀ sender ∈ content', sender ∈ content ∨ ∃ t ∈ txs, Passes minTip baseFee t ∧ t.signer = sender

theorem after_nil (content : Content R) : After fillPending minTip baseFee content [] content :=
  ⟨fun _ _ _ => files_nil.symm, fun _ _ _ h => Or.inl h, fun _ h => Or.inl h⟩

theorem mem_or_later {content : Content R} {sender : Address} {tx : Recovered}
    {rest : List Recovered}
    (h : sender ∈ content ∨ ∃ t ∈ rest, Passes minTip baseFee t ∧ t.signer = sender) :
    sender ∈ content ∨ ∃ t ∈ tx :: rest, Passes minTip baseFee t ∧ t.signer = sender := by
  rcases h with h | ⟨t, ht, hpass⟩
  · exact Or.inl h
  · exact Or.inr ⟨t, List.mem_cons_of_mem _ ht, hpass⟩

theorem after_skip {content content' : Content R} {tx : Recovered} {rest : List Recovered}
    (skip : ¬ Passes minTip baseFee tx)
    (after : After fillPending minTip baseFee content rest content') :
    After fillPending minTip baseFee content (tx :: rest) content' :=
  ⟨fun sender nonce r => (after.1 sender nonce r).trans
    (files_cons_of_not fun under => skip under.1).symm, after.2.1,
    fun sender h => mem_or_later (after.2.2 sender h)⟩

theorem after_filed {content content' : Content R} {tx : Recovered} {rest : List Recovered} {r : R}
    (pass : Passes minTip baseFee tx) (fill : fillPending tx = .ok r)
    (after : After fillPending minTip baseFee
      (content.insert tx.signer (((content.lookup tx.signer).getD ∅).insert
        (nonceKey tx.tx.nonce) r)) rest content') :
    After fillPending minTip baseFee content (tx :: rest) content' := by
  refine ⟨fun sender nonce r' => ?_, fun sender key r' hentry => ?_, fun sender hmem => ?_⟩
  · rw [after.1, entry_insert]
    by_cases hunder : Under minTip baseFee sender nonce tx
    · have hkey : tx.signer = sender ∧ nonceKey tx.tx.nonce = nonceKey nonce :=
        ⟨hunder.2.1, congrArg nonceKey hunder.2.2⟩
      rw [if_pos hkey, Option.some.injEq]
      exact (files_cons_of_under hunder fill).symm
    · have hkey : ¬ (tx.signer = sender ∧ nonceKey tx.tx.nonce = nonceKey nonce) :=
        fun h => hunder ⟨pass, h.1, nonceKey_injective h.2⟩
      rw [if_neg hkey]
      exact (files_cons_of_not hunder).symm
  · rcases after.2.1 sender key r' hentry with h | h
    · rw [entry_insert] at h
      by_cases hkey : tx.signer = sender ∧ nonceKey tx.tx.nonce = key
      · exact Or.inr ⟨tx.tx.nonce, hkey.2.symm⟩
      · rw [if_neg hkey] at h
        exact Or.inl h
    · exact Or.inr h
  · rcases mem_or_later (after.2.2 sender hmem) with h | h
    · rcases Finmap.mem_insert.mp h with rfl | h
      · exact Or.inr ⟨tx, List.mem_cons_self, pass, rfl⟩
      · exact Or.inl h
    · exact Or.inr h

theorem insertAllWithMinTip_cases (content : Content R) (txs : List Recovered) :
    (∃ err, FirstFailure fillPending minTip baseFee txs err ∧
      insertAllWithMinTip fillPending minTip baseFee content txs = .error err) ∨
    (AllFilled fillPending minTip baseFee txs ∧ ∃ content',
      insertAllWithMinTip fillPending minTip baseFee content txs = .ok content' ∧
        After fillPending minTip baseFee content txs content') := by
  induction txs generalizing content with
  | nil => exact Or.inr ⟨allFilled_nil, content, rfl, after_nil content⟩
  | cons tx rest ih =>
    have hrun : ∀ {done content'}, insertWithMinTip fillPending minTip baseFee content tx =
        .ok (done, content') →
        insertAllWithMinTip fillPending minTip baseFee content (tx :: rest) =
          insertAllWithMinTip fillPending minTip baseFee content' rest := by
      intro done content' hstep
      simp only [insertAllWithMinTip, hstep, bind, Except.bind]
    rcases insertWithMinTip_cases content tx with
      ⟨hpass, r, hfill, hstep⟩ | ⟨hpass, err, hfill, hstep⟩ | ⟨hpass, hstep⟩
    · have htx : AllFilled fillPending minTip baseFee [tx] := by
        intro t ht _
        rw [List.mem_singleton.mp ht]
        exact ⟨r, hfill⟩
      rw [hrun hstep]
      rcases ih _ with ⟨err, hfailed, hrest⟩ | ⟨hfilled, content', hrest, hafter⟩
      · exact Or.inl ⟨err, FirstFailure.after htx hfailed, hrest⟩
      · exact Or.inr ⟨htx.append hfilled, content', hrest, after_filed hpass hfill hafter⟩
    · refine Or.inl ⟨err, ⟨[], tx, rest, rfl, allFilled_nil, hpass, hfill⟩, ?_⟩
      simp only [insertAllWithMinTip, hstep, bind, Except.bind]
    · have htx : AllFilled fillPending minTip baseFee [tx] := by
        intro t ht h
        rw [List.mem_singleton.mp ht] at h
        exact absurd h hpass
      rw [hrun hstep]
      rcases ih content with ⟨err, hfailed, hrest⟩ | ⟨hfilled, content', hrest, hafter⟩
      · exact Or.inl ⟨err, FirstFailure.after htx hfailed, hrest⟩
      · exact Or.inr ⟨htx.append hfilled, content', hrest, after_skip hpass hafter⟩

theorem After.filedFrom {txs : List Recovered} {content : Content R}
    (filled : AllFilled fillPending minTip baseFee txs)
    (after : After fillPending minTip baseFee ∅ txs content) :
    FiledFrom fillPending minTip baseFee txs content where
  last := by
    intro sender nonce r
    rw [after.1, entry_empty, Files]
    constructor
    · rintro (h | ⟨h, -⟩)
      · exact h
      · cases h
    · exact Or.inl
  keys := by
    intro sender key r hentry
    rcases after.2.1 sender key r hentry with h | h
    · rw [entry_empty] at h
      cases h
    · exact h
  kept := by
    intro t ht hpass
    obtain ⟨u, hlast⟩ := exists_lastOf ht
      (show Under minTip baseFee t.signer t.tx.nonce t from ⟨hpass, rfl, rfl⟩)
    obtain ⟨r, hr⟩ := filled u hlast.mem hlast.holds.1
    rw [(after.1 t.signer t.tx.nonce r).mpr (Or.inl ⟨u, hlast, hr⟩)]
    rfl
  senders := by
    intro sender hmem
    exact (after.2.2 sender hmem).resolve_left Finmap.notMem_empty

end Filing

/-- The call fails with the first transaction, pending ones before queued ones, that
tips enough and cannot be converted. Without one, each list is answered by exactly
the last transaction of every sender and nonce among those whose tip, as the
builder counts it and zero below the base fee, is at least the asked one. -/
theorem min_tip_content_exact (fillPending : Recovered → Except ErrorObject R)
    (toValue : TxpoolContent R → Except String V) (pool : TransactionPool) (minTip : U256) :
    (∃ err, FirstFailure fillPending minTip baseFee (pool.pending ++ pool.queued) err ∧
      txPoolContentWithMinTip fillPending toValue pool minTip = .error err) ∨
    (AllFilled fillPending minTip baseFee (pool.pending ++ pool.queued) ∧ ∃ content,
      FiledFrom fillPending minTip baseFee pool.pending content.pending ∧
      FiledFrom fillPending minTip baseFee pool.queued content.queued ∧
      txPoolContentWithMinTip fillPending toValue pool minTip =
        (toValue content).mapError fun e => ⟨1, "Failed to serialize: " ++ e⟩) := by
  unfold txPoolContentWithMinTip
  rcases insertAllWithMinTip_cases (∅ : Content R) pool.pending with
    ⟨err, hfailed, hrun⟩ | ⟨hpending, pending, hrun, hafter⟩
  · refine Or.inl ⟨err, hfailed.append _, ?_⟩
    simp only [hrun, bind, Except.bind]
  · rcases insertAllWithMinTip_cases (∅ : Content R) pool.queued with
      ⟨err, hfailed, hrun'⟩ | ⟨hqueued, queued, hrun', hafter'⟩
    · refine Or.inl ⟨err, FirstFailure.after hpending hfailed, ?_⟩
      simp only [hrun, hrun', bind, Except.bind]
    · refine Or.inr ⟨hpending.append hqueued, ⟨pending, queued⟩, hafter.filedFrom hpending,
        hafter'.filedFrom hqueued, ?_⟩
      simp only [hrun, hrun', bind, Except.bind]

end MinTipContent
