import Kasplex.HashLinks
import Kasplex.OwnBlocks

/-!
# Chains of accepted headers

Headers that pass the two header checks, one on top of the other. The checks
look one link back only; what they add up to along a chain is stated here: one
base fee, consecutive numbers, times that never go back, and one history below
every header.
-/

namespace HeaderChains

open Primitives ChainSpec FeeHandler Consensus OwnBlocks PayloadAttributes HashLinks

/-- Newest first; every header but the oldest passes both checks. -/
def AcceptedChain (rules : SharedRules) (spec : KasplexChainSpec) (chain : List SealedHeader) :
    Prop :=
  chain.IsChain fun header parent =>
    validateHeader rules spec header = .ok () ∧
      validateHeaderAgainstParent rules header parent = .ok ()

variable {alloy : Alloy} {rules : SharedRules} {spec : KasplexChainSpec}
  {chain chain' : List SealedHeader}

section Rules

variable (documented : rules.AsDocumented alloy)
include documented

theorem AcceptedChain.links (accepted : AcceptedChain rules spec chain) :
    chain.IsChain fun header parent =>
      ParentRules header.header parent ∧ parent.header.timestamp ≤ header.header.timestamp :=
  accepted.imp fun _ _ h => (validateHeaderAgainstParent_eq_ok_iff documented).mp h.2

theorem AcceptedChain.linked (accepted : AcceptedChain rules spec chain) :
    Linked SealedHeader.hash (fun header => header.header.parentHash) chain :=
  (accepted.links documented).imp fun _ _ h => h.1.parentHash

theorem AcceptedChain.counted (accepted : AcceptedChain rules spec chain) :
    Counted (fun header : SealedHeader => header.header.number) chain :=
  (accepted.links documented).imp fun _ _ h => h.1.number

theorem AcceptedChain.timestamps (accepted : AcceptedChain rules spec chain) :
    chain.Pairwise fun newer older => older.header.timestamp ≤ newer.header.timestamp := by
  have hchain : chain.IsChain fun newer older =>
      older.header.timestamp.toNat ≤ newer.header.timestamp.toNat :=
    (accepted.links documented).imp fun _ _ h => BitVec.le_def.mp h.2
  have htrans : IsTrans SealedHeader fun newer older =>
      older.header.timestamp.toNat ≤ newer.header.timestamp.toNat :=
    ⟨fun _ _ _ h h' => h'.trans h⟩
  exact (List.isChain_iff_pairwise.mp hchain).imp fun h => BitVec.le_def.mpr h

theorem AcceptedChain.rules_of_child (accepted : AcceptedChain rules spec chain) :
    ∀ header ∈ chain.dropLast, HeaderRules header.header ∧
      header.header.gasUsed ≤ header.header.gasLimit := by
  induction chain with
  | nil => simp
  | cons header rest ih =>
    cases rest with
    | nil => simp
    | cons parent rest =>
      obtain ⟨⟨halone, -⟩, hrest⟩ := List.isChain_cons_cons.mp accepted
      intro h hmem
      rw [List.dropLast_cons_of_ne_nil (List.cons_ne_nil _ _)] at hmem
      rcases List.mem_cons.mp hmem with rfl | hmem
      · exact (validateHeader_eq_ok_iff documented).mp halone
      · exact ih hrest h hmem

omit documented in
/-- The part of an accepted chain from one of its headers on. -/
theorem AcceptedChain.below {before after : List SealedHeader} {header : SealedHeader}
    (accepted : AcceptedChain rules spec (before ++ header :: after)) :
    AcceptedChain rules spec (header :: after) :=
  List.IsChain.right_of_append accepted

end Rules

/-- Chains accepted header by header on one genesis. Every header above it obeys
the rules, the fixed base fee among them, and uses no more gas than its limit;
its number counts the headers below; no time is before one below it. Two chains,
with hashes that tell their headers apart and at most `2 ^ 64` headers each, that
have a header of one hash have everything below it in common. -/
theorem accepted_chains_agree (alloy : Alloy) (rules : SharedRules)
    (documented : rules.AsDocumented alloy) (spec : KasplexChainSpec)
    (chain chain' : List SealedHeader) (genesis : SealedHeader)
    (accepted : AcceptedChain rules spec chain) (accepted' : AcceptedChain rules spec chain')
    (ends : chain.getLast? = some genesis) (ends' : chain'.getLast? = some genesis) :
    (∀ header ∈ chain.dropLast, HeaderRules header.header ∧
        header.header.gasUsed ≤ header.header.gasLimit) ∧
      (chain.Pairwise fun newer older => older.header.timestamp ≤ newer.header.timestamp) ∧
      (∀ before header after, chain = before ++ header :: after →
        header.header.number = genesis.header.number + BitVec.ofNat 64 after.length) ∧
      (Separates SealedHeader.hash chain chain' →
        chain.length ≤ 2 ^ 64 → chain'.length ≤ 2 ^ 64 →
        ∀ before header after before' header' after', chain = before ++ header :: after →
          chain' = before' ++ header' :: after' → header.hash = header'.hash →
            header :: after = header' :: after') := by
  refine ⟨accepted.rules_of_child documented, accepted.timestamps documented, ?_, ?_⟩
  · rintro before header after rfl
    rw [List.getLast?_append_of_ne_nil before (List.cons_ne_nil _ _)] at ends
    exact counted_getLast (accepted.below.counted documented) ends
  · rintro separates short short' before header after before' header' after' rfl rfl hash
    rw [List.getLast?_append_of_ne_nil _ (List.cons_ne_nil _ _)] at ends ends'
    have hbelow := accepted.below
    have hbelow' := accepted'.below
    have hlength : (header :: after).length ≤ 2 ^ 64 := by
      rw [List.length_append] at short
      omega
    have hlength' : (header' :: after').length ≤ 2 ^ 64 := by
      rw [List.length_append] at short'
      omega
    have hseparates : Separates SealedHeader.hash (header :: after) (header' :: after') :=
      fun a ha b hb => separates a (List.mem_append_right _ ha) b (List.mem_append_right _ hb)
    exact linked_unique (hbelow.linked documented) (hbelow'.linked documented) hseparates
      (counted_nodup (hbelow.counted documented) hlength)
      (counted_nodup (hbelow'.counted documented) hlength') ends ends' hash

section Samples

/-- The two sample blocks on their parent. -/
def sampleChain : List SealedHeader :=
  [⟨secondHeader, sampleAlloy.hashSlow secondHeader⟩, ⟨sampleHeader, sampleHeaderHash⟩,
    sampleParent]

/-- Two chains on the sample parent, one a block longer. -/
theorem accepted_chains_agree_samples :
    AcceptedChain (sampleRules sampleAlloy) kasplexMainnet sampleChain ∧
      (∀ before header after before' header' after', sampleChain = before ++ header :: after →
        sampleChain.tail = before' ++ header' :: after' → header.hash = header'.hash →
          header :: after = header' :: after') := by
  have accepted : AcceptedChain (sampleRules sampleAlloy) kasplexMainnet sampleChain := by
    unfold AcceptedChain
    decide +kernel
  have separates : Separates SealedHeader.hash sampleChain sampleChain.tail := by
    unfold Separates
    decide +kernel
  have hagree := accepted_chains_agree sampleAlloy (sampleRules sampleAlloy)
    (sampleRules_asDocumented sampleAlloy) kasplexMainnet sampleChain sampleChain.tail sampleParent
    accepted accepted.tail rfl rfl
  exact ⟨accepted, hagree.2.2.2 separates (by decide) (by decide)⟩

end Samples

end HeaderChains
