import Kasplex.GreedyPrefix
import Kasplex.TxPool
import Kasplex.PayloadAttributes

/-!
# Transaction lists built from the pool

The pending transactions are gone through once. A fee cap below the base fee
skips a transaction; a limit that the next transaction would exceed ends the
list. The answer carries the encodings in hexadecimal and the two totals.
-/

namespace TxPoolContent

open Primitives MachineArith GreedyPrefix TxPool PayloadAttributes

/-- Two lower case hexadecimal digits. -/
def hexByte (b : UInt8) : List Char :=
  [Nat.digitChar (b.toNat / 16), Nat.digitChar (b.toNat % 16)]

def hexEncode (bytes : Bytes) : List Char := bytes.flatMap hexByte

/-- What the loop has collected. -/
structure Selection where
  transactions : List TransactionSigned
  totalGasUsed : U64
  totalBytes : U64
  deriving DecidableEq, Repr

structure PreBuiltTxList where
  txList : List String
  estimatedGasUsed : U64
  bytesLength : U64
  deriving DecidableEq, Repr

def maxFee (tx : TransactionSigned) : U256 := tx.fees.maxFeePerGas.setWidth 256

/-- Length of the encoding, as 64 bits. -/
def encodedLength (alloy : Alloy) (tx : TransactionSigned) : U64 :=
  BitVec.ofNat 64 (alloy.encode2718 tx).length

/-- The loop over the pending transactions. One below the base fee is passed by,
but not the later ones of its sender. -/
def selectTransactions (alloy : Alloy) (baseFee : U256) (blockMaxGasLimit maxBytesPerTxList : U64)
    (selected : Selection) : List Recovered → Selection
  | [] => selected
  | pendingTx :: rest =>
    let tx := pendingTx.tx
    if maxFee tx < baseFee then
      selectTransactions alloy baseFee blockMaxGasLimit maxBytesPerTxList selected rest
    else
      let txGas := tx.gasLimit
      let txBytes := encodedLength alloy tx
      if blockMaxGasLimit < selected.totalGasUsed + txGas then selected
      else if maxBytesPerTxList < selected.totalBytes + txBytes then selected
      else
        selectTransactions alloy baseFee blockMaxGasLimit maxBytesPerTxList
          ⟨selected.transactions ++ [tx], selected.totalGasUsed + txGas,
            selected.totalBytes + txBytes⟩ rest

/-- Neither the beneficiary nor the local addresses have an influence, and of
the number of lists asked for only whether it is zero. -/
def txPoolContent (alloy : Alloy) (pool : TransactionPool) (_beneficiary : Address)
    (baseFee : U256) (blockMaxGasLimit maxBytesPerTxList : U64) (_locals : List String)
    (maxTransactionsLists : U64) : List PreBuiltTxList :=
  let selected := selectTransactions alloy baseFee blockMaxGasLimit maxBytesPerTxList
    ⟨[], 0, 0⟩ pool.pending
  let txListHex := selected.transactions.map fun tx =>
    String.ofList ('0' :: 'x' :: hexEncode (alloy.encode2718 tx))
  let preBuiltTxList := ⟨txListHex, selected.totalGasUsed, selected.totalBytes⟩
  if 0 < maxTransactionsLists then [preBuiltTxList] else []

section Hex

/-- Pairs of digits read back as bytes. -/
def hexDecode : List Char → Option Bytes
  | [] => some []
  | [_] => none
  | high :: low :: rest => do
    let high ← FeeHandler.hexDigit high
    let low ← FeeHandler.hexDigit low
    let bytes ← hexDecode rest
    some (UInt8.ofNat (high * 16 + low) :: bytes)

/-- The transaction a string of the answer stands for. -/
def decodeTxHex (alloy : Alloy) (s : String) : Option TransactionSigned :=
  match s.toList with
  | '0' :: 'x' :: digits => (hexDecode digits).bind alloy.decode2718Exact
  | _ => none

theorem hexDigit_digitChar : ∀ d < 16, FeeHandler.hexDigit (Nat.digitChar d) = some d := by
  decide

theorem hexDecode_hexEncode (bytes : Bytes) : hexDecode (hexEncode bytes) = some bytes := by
  induction bytes with
  | nil => rfl
  | cons b bytes ih =>
    have hb := b.toNat_lt
    have hhigh := hexDigit_digitChar (b.toNat / 16) (by omega)
    have hlow := hexDigit_digitChar (b.toNat % 16) (by omega)
    have hback : UInt8.ofNat (b.toNat / 16 * 16 + b.toNat % 16) = b := by
      rw [show b.toNat / 16 * 16 + b.toNat % 16 = b.toNat by omega, UInt8.ofNat_toNat]
    change hexDecode (Nat.digitChar _ :: Nat.digitChar _ :: hexEncode bytes) = _
    simp only [hexDecode, hhigh, hlow, ih, hback, bind, Option.bind]

theorem decodeTxHex_hexEncode {alloy : Alloy} {tx : TransactionSigned}
    (codec : alloy.decode2718Exact (alloy.encode2718 tx) = some tx) :
    decodeTxHex alloy (String.ofList ('0' :: 'x' :: hexEncode (alloy.encode2718 tx))) =
      some tx := by
  unfold decodeTxHex
  rw [String.toList_ofList]
  change (hexDecode (hexEncode (alloy.encode2718 tx))).bind _ = _
  rw [hexDecode_hexEncode]
  exact codec

end Hex

section Selection

variable (alloy : Alloy) (baseFee : U256) (blockMaxGasLimit maxBytesPerTxList : U64)

/-- The pending transactions the fee filter lets through. -/
def eligible (pending : List Recovered) : List Recovered :=
  pending.filter fun t => !decide (maxFee t.tx < baseFee)

/-- A running total of 64 bits. -/
def total (weight : TransactionSigned → U64) (txs : List TransactionSigned) : U64 :=
  txs.foldl (fun sum tx => sum + weight tx) 0

/-- No running total exceeds its limit on the way through the list. -/
def WithinLimits (txs : List TransactionSigned) : Prop :=
  ∀ p ∈ txs.inits, total TransactionSigned.gasLimit p ≤ blockMaxGasLimit ∧
    total (encodedLength alloy) p ≤ maxBytesPerTxList

instance (txs : List TransactionSigned) :
    Decidable (WithinLimits alloy blockMaxGasLimit maxBytesPerTxList txs) :=
  inferInstanceAs (Decidable (∀ p ∈ txs.inits, _))

theorem total_concat (weight : TransactionSigned → U64) (txs : List TransactionSigned)
    (tx : TransactionSigned) : total weight (txs ++ [tx]) = total weight txs + weight tx := by
  simp [total]

variable {alloy baseFee blockMaxGasLimit maxBytesPerTxList}

theorem withinLimits_of_isPrefix {p q : List TransactionSigned} (hp : p <+: q)
    (hq : WithinLimits alloy blockMaxGasLimit maxBytesPerTxList q) :
    WithinLimits alloy blockMaxGasLimit maxBytesPerTxList p := by
  intro r hr
  apply hq
  rw [List.mem_inits] at hr ⊢
  exact hr.trans hp

theorem withinLimits_nil : WithinLimits alloy blockMaxGasLimit maxBytesPerTxList [] := by
  intro p hp
  rw [List.mem_inits, List.prefix_nil] at hp
  subst hp
  exact ⟨BitVec.le_def.mpr (Nat.zero_le _), BitVec.le_def.mpr (Nat.zero_le _)⟩

/-- The two tests of the loop decide whether the next transaction fits. -/
theorem withinLimits_concat_iff {txs : List TransactionSigned} {tx : TransactionSigned}
    (within : WithinLimits alloy blockMaxGasLimit maxBytesPerTxList txs) :
    WithinLimits alloy blockMaxGasLimit maxBytesPerTxList (txs ++ [tx]) ↔
      ¬ blockMaxGasLimit < total TransactionSigned.gasLimit txs + tx.gasLimit ∧
        ¬ maxBytesPerTxList < total (encodedLength alloy) txs + encodedLength alloy tx := by
  rw [← total_concat, ← total_concat, BitVec.not_lt, BitVec.not_lt]
  constructor
  · intro h
    exact h _ ((List.mem_inits _ _).mpr List.prefix_rfl)
  · intro hlast p hp
    rw [List.mem_inits, List.prefix_concat_iff] at hp
    rcases hp with rfl | hp
    · exact hlast
    · exact within p ((List.mem_inits _ _).mpr hp)

/-- The loop takes eligible transactions greedily, and its totals are those of
what it has taken. -/
theorem selectTransactions_eq_greedy {pending : List Recovered} {txs : List TransactionSigned}
    (within : WithinLimits alloy blockMaxGasLimit maxBytesPerTxList txs) :
    selectTransactions alloy baseFee blockMaxGasLimit maxBytesPerTxList
        ⟨txs, total TransactionSigned.gasLimit txs, total (encodedLength alloy) txs⟩ pending =
      let taken := greedy (WithinLimits alloy blockMaxGasLimit maxBytesPerTxList) txs
        ((eligible baseFee pending).map Recovered.tx)
      ⟨taken, total TransactionSigned.gasLimit taken, total (encodedLength alloy) taken⟩ := by
  induction pending generalizing txs with
  | nil => rfl
  | cons t rest ih =>
    by_cases hfee : maxFee t.tx < baseFee
    · have heligible : eligible baseFee (t :: rest) = eligible baseFee rest :=
        List.filter_cons_of_neg (by simp [hfee])
      rw [selectTransactions, if_pos hfee, heligible]
      exact ih within
    · have heligible : eligible baseFee (t :: rest) = t :: eligible baseFee rest :=
        List.filter_cons_of_pos (by simp [hfee])
      rw [selectTransactions, if_neg hfee, heligible, List.map_cons, greedy]
      by_cases hnext : WithinLimits alloy blockMaxGasLimit maxBytesPerTxList (txs ++ [t.tx])
      · obtain ⟨hgas, hbytes⟩ := (withinLimits_concat_iff within).mp hnext
        simp only [if_pos hnext]
        rw [if_neg hgas, if_neg hbytes, ← total_concat, ← total_concat]
        exact ih hnext
      · rw [if_neg hnext]
        simp only
        split
        · rfl
        · rename_i hgas
          split
          · rfl
          · rename_i hbytes
            exact absurd ((withinLimits_concat_iff within).mpr ⟨hgas, hbytes⟩) hnext

variable (alloy baseFee blockMaxGasLimit maxBytesPerTxList) in
/-- What the loop takes from the pending transactions. -/
theorem selectTransactions_isLongestPrefix (pending : List Recovered) :
    ∃ taken, selectTransactions alloy baseFee blockMaxGasLimit maxBytesPerTxList ⟨[], 0, 0⟩
        pending =
          ⟨taken, total TransactionSigned.gasLimit taken, total (encodedLength alloy) taken⟩ ∧
      IsLongestPrefix (WithinLimits alloy blockMaxGasLimit maxBytesPerTxList)
        ((eligible baseFee pending).map Recovered.tx) taken :=
  ⟨_, selectTransactions_eq_greedy withinLimits_nil,
    greedy_isLongestPrefix (fun _ _ => withinLimits_of_isPrefix) withinLimits_nil _⟩

/-- Below `2 ^ 64` a running total is exact. -/
theorem total_toNat {weight : TransactionSigned → U64} {txs : List TransactionSigned}
    (bound : (txs.map fun tx => (weight tx).toNat).sum < 2 ^ 64) :
    (total weight txs).toNat = (txs.map fun tx => (weight tx).toNat).sum := by
  induction txs using List.reverseRecOn with
  | nil => rfl
  | append_singleton txs tx ih =>
    simp only [List.map_append, List.map_cons, List.map_nil, List.sum_append, List.sum_cons,
      List.sum_nil] at bound ⊢
    rw [total_concat, BitVec.toNat_add, ih (by omega), Nat.mod_eq_of_lt (by omega)]
    omega

end Selection

section Samples

/-- The first transfer at half the price. -/
def cheapTransfer : TransactionSigned :=
  { signedTransfer 0
      0x78f5543132a06822b749552acbdc96df05b2883569b8ec44e9dcd771031a89c1#256
      0x56394d2636704b745b46dc169cada4092dbec737dac6787e11a93f19175d4545
      0x30048e4ea2d057ac566573cd4610f1281f8d38b1a3293847e8fd5698b57a5305 with
    fees := .eip1559 2000000000000 2000000000000 }

/-- The sample functions, for the cheap transfer too. -/
def poolAlloy : Alloy :=
  { sampleAlloy with
    decode2718Exact := fun bytes =>
      (cheapTransfer :: sampleTransfers).find? fun tx => decide (encodeEip1559 tx = bytes)
    tryRecover := fun tx =>
      if tx ∈ cheapTransfer :: sampleTransfers then some sampleSigner else none }

/-- Two transfers of one sender, the first one cheap. -/
def samplePool : TransactionPool :=
  ⟨[⟨cheapTransfer, sampleSigner⟩, ⟨transfer1, sampleSigner⟩], []⟩

theorem samplePool_codec : ∀ t ∈ samplePool.pending,
    poolAlloy.decode2718Exact (poolAlloy.encode2718 t.tx) = some t.tx := by decide +kernel

theorem samplePool_recovered : ∀ t ∈ samplePool.pending,
    poolAlloy.tryRecover t.tx = some t.signer := by decide +kernel

end Samples

section LongestList

theorem eligible_eq (baseFee : U256) (pending : List Recovered) :
    eligible baseFee pending = pending.filter fun t => baseFee ≤ maxFee t.tx := by
  refine List.filter_congr ?_
  intro t _
  rw [← decide_not]
  exact decide_eq_decide.mpr BitVec.not_lt

theorem mapM_decodeTxHex {alloy : Alloy} {txs : List TransactionSigned}
    (codec : ∀ tx ∈ txs, alloy.decode2718Exact (alloy.encode2718 tx) = some tx) :
    (txs.map fun tx => String.ofList ('0' :: 'x' :: hexEncode (alloy.encode2718 tx))).mapM
      (decodeTxHex alloy) = some txs := by
  induction txs with
  | nil => rfl
  | cons tx txs ih =>
    rw [List.map_cons, List.mapM_cons, decodeTxHex_hexEncode (codec tx List.mem_cons_self),
      ih fun t ht => codec t (List.mem_cons_of_mem _ ht)]
    rfl

def gasSum (txs : List TransactionSigned) : Nat := (txs.map fun tx => tx.gasLimit.toNat).sum

def byteSum (alloy : Alloy) (txs : List TransactionSigned) : Nat :=
  (txs.map fun tx => (alloy.encode2718 tx).length).sum

/-- The exact totals of the list are within both limits. -/
def Fits (alloy : Alloy) (blockMaxGasLimit maxBytesPerTxList : U64)
    (txs : List TransactionSigned) : Prop :=
  gasSum txs ≤ blockMaxGasLimit.toNat ∧ byteSum alloy txs ≤ maxBytesPerTxList.toNat

variable {alloy : Alloy} {baseFee : U256} {blockMaxGasLimit maxBytesPerTxList : U64}

theorem gasSum_mono {p q : List TransactionSigned} (h : p.Sublist q) : gasSum p ≤ gasSum q :=
  (h.map _).sum_le_sum fun _ _ => Nat.zero_le _

theorem byteSum_mono (alloy : Alloy) {p q : List TransactionSigned} (h : p.Sublist q) :
    byteSum alloy p ≤ byteSum alloy q :=
  (h.map _).sum_le_sum fun _ _ => Nat.zero_le _

theorem encodedLengths_eq {txs : List TransactionSigned} (bound : byteSum alloy txs < 2 ^ 64) :
    (txs.map fun tx => (encodedLength alloy tx).toNat) =
      txs.map fun tx => (alloy.encode2718 tx).length := by
  apply List.map_congr_left
  intro tx htx
  have hle : (alloy.encode2718 tx).length ≤ byteSum alloy txs :=
    List.le_sum_of_mem (List.mem_map_of_mem (f := fun tx => (alloy.encode2718 tx).length) htx)
  rw [encodedLength, BitVec.toNat_ofNat, Nat.mod_eq_of_lt (by omega)]

theorem totals_toNat {txs : List TransactionSigned} (gasBound : gasSum txs < 2 ^ 64)
    (byteBound : byteSum alloy txs < 2 ^ 64) :
    (total TransactionSigned.gasLimit txs).toNat = gasSum txs ∧
      (total (encodedLength alloy) txs).toNat = byteSum alloy txs := by
  refine ⟨total_toNat gasBound, ?_⟩
  have hlengths := encodedLengths_eq byteBound
  rw [total_toNat (by rw [hlengths]; exact byteBound), hlengths]
  rfl

/-- Without overflow the totals of the whole list decide, since those of its
prefixes are no larger. -/
theorem withinLimits_iff_fits {txs : List TransactionSigned} (gasBound : gasSum txs < 2 ^ 64)
    (byteBound : byteSum alloy txs < 2 ^ 64) :
    WithinLimits alloy blockMaxGasLimit maxBytesPerTxList txs ↔
      Fits alloy blockMaxGasLimit maxBytesPerTxList txs := by
  constructor
  · intro within
    obtain ⟨hgas, hbytes⟩ := within txs ((List.mem_inits _ _).mpr List.prefix_rfl)
    obtain ⟨hgasSum, hbyteSum⟩ := totals_toNat gasBound byteBound
    rw [BitVec.le_def] at hgas hbytes
    exact ⟨hgasSum ▸ hgas, hbyteSum ▸ hbytes⟩
  · rintro ⟨hgas, hbytes⟩ p hp
    have hsub : p.Sublist txs := ((List.mem_inits _ _).mp hp).sublist
    have hgasLe := gasSum_mono hsub
    have hbyteLe := byteSum_mono alloy hsub
    have hgasTotal := (totals_toNat (hgasLe.trans_lt gasBound) (hbyteLe.trans_lt byteBound)).1
    have hbyteTotal := (totals_toNat (hgasLe.trans_lt gasBound) (hbyteLe.trans_lt byteBound)).2
    rw [BitVec.le_def, BitVec.le_def]
    omega

/-- The answer is one list: the longest prefix of the transactions that can pay
the base fee which is within both limits, with its exact totals. -/
theorem tx_pool_content_is_longest_fitting_prefix (alloy : Alloy) (pool : TransactionPool)
    (beneficiary : Address) (baseFee : U256) (blockMaxGasLimit maxBytesPerTxList : U64)
    (locals : List String) (maxTransactionsLists : U64) (wanted : 0 < maxTransactionsLists)
    (gasBound : gasSum (pool.pending.map Recovered.tx) < 2 ^ 64)
    (byteBound : byteSum alloy (pool.pending.map Recovered.tx) < 2 ^ 64)
    (codec : ∀ t ∈ pool.pending, alloy.decode2718Exact (alloy.encode2718 t.tx) = some t.tx) :
    ∃ list txs,
      txPoolContent alloy pool beneficiary baseFee blockMaxGasLimit maxBytesPerTxList locals
        maxTransactionsLists = [list] ∧
      IsLongestPrefix (Fits alloy blockMaxGasLimit maxBytesPerTxList)
        ((pool.pending.filter fun t => baseFee ≤ maxFee t.tx).map Recovered.tx) txs ∧
      list.estimatedGasUsed.toNat = gasSum txs ∧
      list.bytesLength.toNat = byteSum alloy txs ∧
      list.txList.mapM (decodeTxHex alloy) = some txs := by
  obtain ⟨txs, hloop, hlongest⟩ := selectTransactions_isLongestPrefix alloy baseFee
    blockMaxGasLimit maxBytesPerTxList pool.pending
  have hsub : ((eligible baseFee pool.pending).map Recovered.tx).Sublist
      (pool.pending.map Recovered.tx) := List.filter_sublist.map _
  have hgasBound : ∀ p : List TransactionSigned,
      p <+: (eligible baseFee pool.pending).map Recovered.tx → gasSum p < 2 ^ 64 :=
    fun p hp => (gasSum_mono (hp.sublist.trans hsub)).trans_lt gasBound
  have hbyteBound : ∀ p : List TransactionSigned,
      p <+: (eligible baseFee pool.pending).map Recovered.tx → byteSum alloy p < 2 ^ 64 :=
    fun p hp => (byteSum_mono alloy (hp.sublist.trans hsub)).trans_lt byteBound
  obtain ⟨hgas, hbytes⟩ := totals_toNat (hgasBound txs hlongest.isPrefix)
    (hbyteBound txs hlongest.isPrefix)
  refine ⟨_, txs, if_pos wanted, ?_, ?_, ?_, ?_⟩
  · rw [← eligible_eq]
    exact isLongestPrefix_congr
      (fun p hp => withinLimits_iff_fits (hgasBound p hp) (hbyteBound p hp)) hlongest
  · simpa only [hloop] using hgas
  · simpa only [hloop] using hbytes
  · simp only [hloop]
    apply mapM_decodeTxHex
    intro tx htx
    obtain ⟨t, ht, rfl⟩ := List.mem_map.mp (hsub.subset (hlongest.isPrefix.subset htx))
    exact codec t ht

/-- Room for one of the two transfers. -/
theorem tx_pool_content_is_longest_fitting_prefix_one :
    ∃ list txs,
      txPoolContent poolAlloy samplePool 0 2000000000000 30000000 200 [] 1 = [list] ∧
      IsLongestPrefix (Fits poolAlloy 30000000 200)
        ((samplePool.pending.filter fun t => (2000000000000 : U256) ≤ maxFee t.tx).map
          Recovered.tx) txs ∧
      list.estimatedGasUsed.toNat = gasSum txs ∧
      list.bytesLength.toNat = byteSum poolAlloy txs ∧
      list.txList.mapM (decodeTxHex poolAlloy) = some txs :=
  tx_pool_content_is_longest_fitting_prefix poolAlloy samplePool 0 2000000000000 30000000 200 [] 1
    (by decide) (by decide) (by decide +kernel) samplePool_codec

end LongestList

section Predecessors

/-- The transactions of each sender stand in the order of their nonces, which
follow one another from the nonce of the account. -/
def InNonceOrder (accountNonce : Address → U64) (pending : List Recovered) : Prop :=
  ∀ a, ∃ count, (pending.filter fun t => t.signer = a).map (fun t => t.tx.nonce.toNat) =
    List.range' (accountNonce a).toNat count

/-- With a transaction the list has, further to the front, all pending ones of
its sender with smaller nonces. -/
def ClosedUnderPredecessors (pending : List Recovered) (txs : List TransactionSigned) : Prop :=
  ∀ t ∈ pending, ∀ u ∈ pending, u.signer = t.signer → u.tx.nonce < t.tx.nonce →
    ∀ i : Nat, txs[i]? = some t.tx → ∃ j < i, txs[j]? = some u.tx

/-- A transaction that can pay the base fee, and with which the running totals
are still within the limits, comes after one of its sender that cannot. -/
def FollowsSkipped (alloy : Alloy) (baseFee : U256) (blockMaxGasLimit maxBytesPerTxList : U64)
    (pending : List Recovered) : Prop :=
  ∃ before u between t after, pending = (before ++ u :: between) ++ t :: after ∧
    u.signer = t.signer ∧ maxFee u.tx < baseFee ∧ ¬ maxFee t.tx < baseFee ∧
    WithinLimits alloy blockMaxGasLimit maxBytesPerTxList
      ((eligible baseFee (before ++ u :: between)).map Recovered.tx ++ [t.tx])

theorem InNonceOrder.pairwise {accountNonce : Address → U64} {pending : List Recovered}
    (order : InNonceOrder accountNonce pending) :
    pending.Pairwise fun u t => u.signer = t.signer → u.tx.nonce < t.tx.nonce := by
  rw [List.pairwise_iff_forall_sublist]
  intro u t hsub same
  obtain ⟨count, hnonces⟩ := order t.signer
  have hsorted : ((pending.filter fun r => r.signer = t.signer).map
      fun r => r.tx.nonce.toNat).Pairwise (· < ·) := by
    rw [hnonces]
    exact List.pairwise_lt_range'
  rw [List.pairwise_map, List.pairwise_filter] at hsorted
  have hlt := List.pairwise_iff_forall_sublist.mp hsorted hsub
  exact BitVec.lt_def.mpr (hlt (decide_eq_true same) (decide_eq_true rfl))

theorem mem_eligible {baseFee : U256} {pending : List Recovered} {t : Recovered} :
    t ∈ eligible baseFee pending ↔ t ∈ pending ∧ ¬ maxFee t.tx < baseFee := by
  simp [eligible, List.mem_filter]

/-- The eligible transactions up to one of them come first. -/
theorem eligible_front {baseFee : U256} {t : Recovered} (before after : List Recovered)
    (pays : ¬ maxFee t.tx < baseFee) :
    (eligible baseFee before).map Recovered.tx ++ [t.tx] <+:
      (eligible baseFee (before ++ t :: after)).map Recovered.tx := by
  have hcons : eligible baseFee (t :: after) = t :: eligible baseFee after :=
    List.filter_cons_of_pos (by simp [pays])
  have hall : eligible baseFee (before ++ t :: after) =
      eligible baseFee before ++ t :: eligible baseFee after := by
    rw [← hcons]
    exact List.filter_append _ _
  refine ⟨(eligible baseFee after).map Recovered.tx, ?_⟩
  rw [hall, List.map_append, List.map_cons, List.append_assoc, List.singleton_append]

/-- Where the filtered list has an element, the list splits around it. -/
theorem eligible_split {baseFee : U256} {pending : List Recovered} {i : Nat} {t : Recovered}
    (at_i : (eligible baseFee pending)[i]? = some t) :
    ∃ before after, pending = before ++ t :: after ∧
      eligible baseFee before = (eligible baseFee pending).take i := by
  obtain ⟨hi, ht⟩ := List.getElem?_eq_some_iff.mp at_i
  have hsplit := (List.take_append_drop i (eligible baseFee pending)).symm
  rw [List.drop_eq_getElem_cons hi, ht] at hsplit
  obtain ⟨front, back, hpending, hfront, hback⟩ := List.filter_eq_append_iff.mp hsplit
  obtain ⟨skipped, after, rfl, hskipped, -, -⟩ := List.filter_eq_cons_iff.mp hback
  refine ⟨front ++ skipped, after, by rw [List.append_assoc, hpending], ?_⟩
  have hnone : eligible baseFee skipped = [] := List.filter_eq_nil_iff.mpr hskipped
  rw [eligible, List.filter_append, ← eligible, ← eligible, hnone, List.append_nil]
  exact hfront

variable {alloy : Alloy} {baseFee : U256} {blockMaxGasLimit maxBytesPerTxList : U64}

/-- A transaction has one signer, so a place that shows a pending transaction
is the place of its own entry. -/
theorem eligible_getElem {pending : List Recovered} {t : Recovered} {i : Nat}
    (recovered : ∀ t ∈ pending, alloy.tryRecover t.tx = some t.signer) (ht : t ∈ pending)
    (place : ((eligible baseFee pending).map Recovered.tx)[i]? = some t.tx) :
    (eligible baseFee pending)[i]? = some t := by
  rw [List.getElem?_map, Option.map_eq_some_iff] at place
  obtain ⟨e, he, htx⟩ := place
  have hsigner := recovered e (mem_eligible.mp (List.mem_of_getElem? he)).1
  rw [htx, recovered t ht] at hsigner
  have hentry : e = t := by
    cases e
    cases t
    cases htx
    cases hsigner
    rfl
  rw [← hentry]
  exact he

/-- A smaller nonce of the same sender stands in front. -/
theorem InNonceOrder.mem_front {accountNonce : Address → U64} {before after : List Recovered}
    {t u : Recovered} (order : InNonceOrder accountNonce (before ++ t :: after))
    (hu : u ∈ before ++ t :: after) (same : u.signer = t.signer)
    (smaller : u.tx.nonce < t.tx.nonce) : u ∈ before := by
  have hcases : u ∈ before ∨ u = t ∨ u ∈ after := by simpa using hu
  rcases hcases with hfront | rfl | hback
  · exact hfront
  · exact absurd smaller (BitVec.lt_irrefl _)
  · have hlater := (List.pairwise_cons.mp (List.pairwise_append.mp order.pairwise).2.1).1 u hback
    exact absurd (hlater same.symm) (BitVec.lt_asymm smaller)

/-- What stands in front and pays the base fee has an earlier place in every
list that begins with the eligible front. -/
theorem exists_place_of_front {before : List Recovered} {tx : TransactionSigned}
    {txs : List TransactionSigned} {u : Recovered}
    (taken : (eligible baseFee before).map Recovered.tx ++ [tx] <+: txs) (hu : u ∈ before)
    (pays : ¬ maxFee u.tx < baseFee) :
    ∃ j < (eligible baseFee before).length, txs[j]? = some u.tx := by
  obtain ⟨j, hj⟩ := List.mem_iff_getElem?.mp (List.mem_map_of_mem (f := Recovered.tx)
    (mem_eligible.mpr ⟨hu, pays⟩))
  obtain ⟨hlt, -⟩ := List.getElem?_eq_some_iff.mp hj
  obtain ⟨rest, rfl⟩ := taken
  refine ⟨j, by rwa [List.length_map] at hlt, ?_⟩
  rw [List.append_assoc, List.getElem?_append_left hlt]
  exact hj

/-- A list that takes a payer behind a skipped transaction of the same sender
has a gap. -/
theorem not_closed_of_followsSkipped {accountNonce : Address → U64} {pending : List Recovered}
    {txs : List TransactionSigned} (order : InNonceOrder accountNonce pending)
    (longest : IsLongestPrefix (WithinLimits alloy blockMaxGasLimit maxBytesPerTxList)
      ((eligible baseFee pending).map Recovered.tx) txs)
    (skipped : FollowsSkipped alloy baseFee blockMaxGasLimit maxBytesPerTxList pending) :
    ¬ ClosedUnderPredecessors pending txs := by
  obtain ⟨before, u, between, t, after, rfl, hsigner, hu, ht, hwithin⟩ := skipped
  intro closed
  have htaken := longest.longest _ (eligible_front (before ++ u :: between) after ht) hwithin
  obtain ⟨i, hi⟩ := List.mem_iff_getElem?.mp
    (htaken.subset (List.mem_append_right _ (List.mem_singleton_self t.tx)))
  have hnonce : u.tx.nonce < t.tx.nonce := by
    have hlater := (List.pairwise_append.mp order.pairwise).2.2 u (by simp) t (by simp)
    exact hlater hsigner
  obtain ⟨j, -, hj⟩ := closed t (by simp) u (by simp) hsigner hnonce i hi
  obtain ⟨w, hw, hsame⟩ := List.mem_map.mp (longest.isPrefix.subset (List.mem_of_getElem? hj))
  rw [← hsame] at hu
  exact (mem_eligible.mp hw).2 hu

theorem closedUnderPredecessors_iff {accountNonce : Address → U64} {pending : List Recovered}
    {txs : List TransactionSigned} (order : InNonceOrder accountNonce pending)
    (recovered : ∀ t ∈ pending, alloy.tryRecover t.tx = some t.signer)
    (longest : IsLongestPrefix (WithinLimits alloy blockMaxGasLimit maxBytesPerTxList)
      ((eligible baseFee pending).map Recovered.tx) txs) :
    ClosedUnderPredecessors pending txs ↔
      ¬ FollowsSkipped alloy baseFee blockMaxGasLimit maxBytesPerTxList pending := by
  constructor
  · intro closed skipped
    exact not_closed_of_followsSkipped order longest skipped closed
  · intro hno t ht u hu hsigner hnonce i hi
    obtain ⟨hlt, -⟩ := List.getElem?_eq_some_iff.mp hi
    have hplace : ((eligible baseFee pending).map Recovered.tx)[i]? = some t.tx := by
      obtain ⟨rest, hrest⟩ := longest.isPrefix
      rw [← hrest, List.getElem?_append_left hlt]
      exact hi
    have he := eligible_getElem recovered ht hplace
    obtain ⟨before, after, rfl, hbefore⟩ := eligible_split he
    have hfront := order.mem_front hu hsigner hnonce
    have hnot : ¬ maxFee t.tx < baseFee := (mem_eligible.mp (List.mem_of_getElem? he)).2
    have hlength : (eligible baseFee before).length = i := by
      obtain ⟨hbound, -⟩ := List.getElem?_eq_some_iff.mp he
      rw [hbefore, List.length_take]
      omega
    have htaken : (eligible baseFee before).map Recovered.tx ++ [t.tx] <+: txs := by
      refine List.prefix_of_prefix_length_le (eligible_front before after hnot) longest.isPrefix ?_
      rw [List.length_append, List.length_map, List.length_singleton, hlength]
      omega
    by_cases hpays : maxFee u.tx < baseFee
    · obtain ⟨front, between, rfl⟩ := List.append_of_mem hfront
      exact absurd ⟨front, u, between, t, after, rfl, hsigner, hpays, hnot,
        withinLimits_of_isPrefix htaken longest.holds⟩ hno
    · rw [← hlength]
      exact exists_place_of_front htaken hfront hpays

/-- The lists of an answer, read back, are closed under predecessors. -/
def AnswerClosed (alloy : Alloy) (pending : List Recovered) (answer : List PreBuiltTxList) :
    Prop :=
  ∀ list ∈ answer, ∀ txs, list.txList.mapM (decodeTxHex alloy) = some txs →
    ClosedUnderPredecessors pending txs

/-- The lists can be executed in order, unless a transaction in them follows a
cheaper one of its sender that the fee filter has passed by. -/
theorem answer_closed_iff (alloy : Alloy) (pool : TransactionPool) (beneficiary : Address)
    (baseFee : U256) (blockMaxGasLimit maxBytesPerTxList : U64) (locals : List String)
    (maxTransactionsLists : U64) (accountNonce : Address → U64)
    (order : InNonceOrder accountNonce pool.pending)
    (recovered : ∀ t ∈ pool.pending, alloy.tryRecover t.tx = some t.signer)
    (codec : ∀ t ∈ pool.pending, alloy.decode2718Exact (alloy.encode2718 t.tx) = some t.tx) :
    AnswerClosed alloy pool.pending
        (txPoolContent alloy pool beneficiary baseFee blockMaxGasLimit maxBytesPerTxList locals
          maxTransactionsLists) ↔
      maxTransactionsLists = 0 ∨
        ¬ FollowsSkipped alloy baseFee blockMaxGasLimit maxBytesPerTxList pool.pending := by
  obtain ⟨txs, hloop, hlongest⟩ := selectTransactions_isLongestPrefix alloy baseFee
    blockMaxGasLimit maxBytesPerTxList pool.pending
  have hclosed := closedUnderPredecessors_iff order recovered hlongest
  by_cases hnone : maxTransactionsLists = 0
  · subst hnone
    refine iff_of_true ?_ (Or.inl rfl)
    intro list hlist
    exact absurd hlist List.not_mem_nil
  · have hwanted : 0 < maxTransactionsLists := (BitVec.pos_iff_ne_zero _).mpr hnone
    have hread : (txs.map fun tx => String.ofList ('0' :: 'x' ::
        hexEncode (alloy.encode2718 tx))).mapM (decodeTxHex alloy) = some txs := by
      apply mapM_decodeTxHex
      intro tx htx
      obtain ⟨t, ht, rfl⟩ := List.mem_map.mp (hlongest.isPrefix.subset htx)
      exact codec t (mem_eligible.mp ht).1
    rw [or_iff_right hnone, ← hclosed]
    unfold AnswerClosed txPoolContent
    simp only [hloop, if_pos hwanted, List.mem_singleton, forall_eq]
    constructor
    · intro h
      exact h txs hread
    · intro h txs' hread'
      rw [hread] at hread'
      cases hread'
      exact h

theorem samplePool_inNonceOrder : InNonceOrder (fun _ => 0) samplePool.pending := by
  intro a
  by_cases h : sampleSigner = a
  · subst h
    exact ⟨2, by decide⟩
  · refine ⟨0, ?_⟩
    simp [samplePool, h]

/-- At the base fee both transfers are in the list. -/
theorem answer_closed_iff_transfers : AnswerClosed poolAlloy samplePool.pending
    (txPoolContent poolAlloy samplePool 0 2000000000000 30000000 120000 [] 1) := by
  refine (answer_closed_iff poolAlloy samplePool 0 2000000000000 30000000 120000 [] 1 (fun _ => 0)
    samplePool_inNonceOrder samplePool_recovered samplePool_codec).mpr (Or.inr ?_)
  rintro ⟨before, u, between, t, after, hpending, -, hu, -⟩
  have hall : ∀ u ∈ samplePool.pending, ¬ maxFee u.tx < 2000000000000 := by decide
  refine hall u ?_ hu
  rw [hpending]
  simp

/-- Above it the cheap one is missing, and the list starts with the second. -/
theorem answer_starts_after_gap :
    InNonceOrder (fun _ => 0) samplePool.pending ∧
    (txPoolContent poolAlloy samplePool 0 3000000000000 30000000 120000 [] 1).map
        (fun list => list.txList.mapM (decodeTxHex poolAlloy)) = [some [transfer1]] ∧
    ¬ AnswerClosed poolAlloy samplePool.pending
      (txPoolContent poolAlloy samplePool 0 3000000000000 30000000 120000 [] 1) := by
  have hread : (txPoolContent poolAlloy samplePool 0 3000000000000 30000000 120000 [] 1).map
      (fun list => list.txList.mapM (decodeTxHex poolAlloy)) = [some [transfer1]] := by
    have hloop : selectTransactions poolAlloy 3000000000000 30000000 120000 ⟨[], 0, 0⟩
        samplePool.pending = ⟨[transfer1], 30000, 116⟩ := by decide +kernel
    have hlist : ([transfer1].map fun tx => String.ofList ('0' :: 'x' ::
        hexEncode (poolAlloy.encode2718 tx))).mapM (decodeTxHex poolAlloy) = some [transfer1] :=
      mapM_decodeTxHex (by decide +kernel)
    rw [txPoolContent, hloop, if_pos (by decide), List.map_singleton, hlist]
  refine ⟨samplePool_inNonceOrder, hread, ?_⟩
  intro closed
  obtain ⟨list, hlist, htxs⟩ := List.mem_map.mp
    (hread ▸ List.mem_singleton_self (some [transfer1]))
  obtain ⟨j, hj, -⟩ := closed list hlist [transfer1] htxs ⟨transfer1, sampleSigner⟩ (by decide)
    ⟨cheapTransfer, sampleSigner⟩ (by decide) rfl (by decide) 0 rfl
  exact absurd hj (Nat.not_lt_zero j)

end Predecessors

end TxPoolContent
