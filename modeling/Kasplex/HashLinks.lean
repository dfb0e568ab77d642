import Mathlib.Algebra.Ring.Nat
import Mathlib.Data.List.Chain
import Mathlib.Data.List.Nodup
import Mathlib.Data.List.Infix

/-!
# Hash-linked chains

A chain lists its members from the newest to the oldest; each refers to the one
after it by hash. The hash is taken to tell apart the members of the two chains
compared, and nothing else: then the newest common hash decides everything
below it.
-/

namespace HashLinks

variable {α D : Type*} {hash link : α → D}

/-- Each member refers to the next one by its hash. -/
def Linked (hash link : α → D) (chain : List α) : Prop :=
  chain.IsChain fun child parent => link child = hash parent

/-- The hash tells the members of two chains apart. -/
def Separates (hash : α → D) (chain chain' : List α) : Prop :=
  ∀ a ∈ chain, ∀ b ∈ chain', hash a = hash b → a = b

/-- From a common hash on, one chain is the beginning of the other. -/
theorem linked_comparable {a b : α} {l l' : List α} (chain : Linked hash link (a :: l))
    (chain' : Linked hash link (b :: l')) (separates : Separates hash (a :: l) (b :: l'))
    (tips : hash a = hash b) : a :: l <+: b :: l' ∨ b :: l' <+: a :: l := by
  induction l generalizing a b l' with
  | nil =>
    left
    rw [separates a List.mem_cons_self b List.mem_cons_self tips]
    exact ⟨l', rfl⟩
  | cons p l ih =>
    cases separates a List.mem_cons_self b List.mem_cons_self tips
    cases l' with
    | nil =>
      right
      exact ⟨p :: l, rfl⟩
    | cons q l' =>
      obtain ⟨hparent, hrest⟩ := List.isChain_cons_cons.mp chain
      obtain ⟨hparent', hrest'⟩ := List.isChain_cons_cons.mp chain'
      have hseparates : Separates hash (p :: l) (q :: l') := fun x hx y hy =>
        separates x (List.mem_cons_of_mem _ hx) y (List.mem_cons_of_mem _ hy)
      rcases ih hrest hrest' hseparates (hparent.symm.trans hparent') with h | h
      · exact Or.inl (List.cons_prefix_cons.mpr ⟨rfl, h⟩)
      · exact Or.inr (List.cons_prefix_cons.mpr ⟨rfl, h⟩)

/-- A beginning of a list without repetitions that ends with the same member is
the whole list. -/
theorem eq_of_prefix_of_getLast {l l' : List α} {g : α} (h : l <+: l') (nodup : l'.Nodup)
    (ends : l.getLast? = some g) (ends' : l'.getLast? = some g) : l = l' := by
  obtain ⟨more, rfl⟩ := h
  cases more with
  | nil => exact (List.append_nil l).symm
  | cons m more =>
    rw [List.getLast?_append_of_ne_nil l (List.cons_ne_nil m more)] at ends'
    have hfirst := List.mem_of_getLast? ends
    have hsecond := List.mem_of_getLast? ends'
    exact absurd hsecond (List.disjoint_of_nodup_append nodup hfirst)

/-- Chains from one oldest member, without repetitions, agree from a common hash
on. -/
theorem linked_unique {a b g : α} {l l' : List α} (chain : Linked hash link (a :: l))
    (chain' : Linked hash link (b :: l')) (separates : Separates hash (a :: l) (b :: l'))
    (nodup : (a :: l).Nodup) (nodup' : (b :: l').Nodup)
    (ends : (a :: l).getLast? = some g) (ends' : (b :: l').getLast? = some g)
    (tips : hash a = hash b) : a :: l = b :: l' := by
  rcases linked_comparable chain chain' separates tips with h | h
  · exact eq_of_prefix_of_getLast h nodup' ends ends'
  · exact (eq_of_prefix_of_getLast h nodup ends' ends).symm

section Counters

variable {w : Nat} {count : α → BitVec w}

/-- A counter that goes up by one from each member to the next newer one. -/
def Counted (count : α → BitVec w) (chain : List α) : Prop :=
  chain.IsChain fun child parent => count child = count parent + 1

/-- The counter of the newest member, from that of any other and its distance. -/
theorem counted_mem {a : α} {l : List α} (chain : Counted count (a :: l)) :
    ∀ x ∈ l, ∃ k, 0 < k ∧ k ≤ l.length ∧ count a = count x + BitVec.ofNat w k := by
  induction l generalizing a with
  | nil => simp
  | cons p l ih =>
    obtain ⟨hparent, hrest⟩ := List.isChain_cons_cons.mp chain
    intro x hx
    rcases List.mem_cons.mp hx with rfl | hx
    · exact ⟨1, Nat.one_pos, by simp, by rw [hparent]; rfl⟩
    · obtain ⟨k, hpos, hle, hk⟩ := ih hrest x hx
      refine ⟨k + 1, by omega, by simp only [List.length_cons]; omega, ?_⟩
      rw [hparent, hk, BitVec.add_assoc, BitVec.ofNat_add]
      rfl

/-- The counter of the newest member is that of the oldest, plus the steps between
them. -/
theorem counted_getLast {a g : α} {l : List α} (chain : Counted count (a :: l))
    (ends : (a :: l).getLast? = some g) : count a = count g + BitVec.ofNat w l.length := by
  induction l generalizing a with
  | nil =>
    cases ends
    exact (BitVec.add_zero _).symm
  | cons p l ih =>
    obtain ⟨hparent, hrest⟩ := List.isChain_cons_cons.mp chain
    rw [List.getLast?_cons_cons] at ends
    rw [hparent, ih hrest ends, BitVec.add_assoc, List.length_cons, BitVec.ofNat_add]
    rfl

/-- Before the counter comes round, no member occurs twice. -/
theorem counted_nodup {l : List α} (chain : Counted count l) (short : l.length ≤ 2 ^ w) :
    l.Nodup := by
  induction l with
  | nil => exact List.nodup_nil
  | cons a l ih =>
    rw [List.length_cons] at short
    refine List.nodup_cons.mpr ⟨?_, ih chain.tail (by omega)⟩
    intro hmem
    obtain ⟨k, hpos, hle, hk⟩ := counted_mem chain a hmem
    have hzero : BitVec.ofNat w k = 0#w := BitVec.self_eq_add_right.mp hk
    have hmod := congrArg BitVec.toNat hzero
    rw [BitVec.toNat_ofNat, Nat.mod_eq_of_lt (by omega)] at hmod
    simp only [BitVec.toNat_ofNat, Nat.zero_mod] at hmod
    omega

end Counters

end HashLinks
