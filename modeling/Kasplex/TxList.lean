import Kasplex.Codecs
import Kasplex.PayloadAttributes

/-!
# The transaction list of a request

The bytes of a transaction list are read as one list off the front; what comes
after it is never looked at. A byte string has one meaning as a list, or none,
and with none the block is built from no transactions.
-/

namespace TxList

open Primitives MachineArith Rlp Codecs PayloadAttributes KasplexPayloadBuilderAttributes

/-- The linked decoder reads one list off the front, element by element; which
error it reports is left open. -/
def ReadsLists (alloy : Alloy) (codec : Codec TransactionSigned) : Prop :=
  ∀ bytes, (alloy.decodeTransactionVec bytes).toOption = codec.list.decode bytes

/-- The whole string is the encoding of a list of transactions, which no
payload of `2 ^ 64` bytes or more has. -/
def IsTxList (codec : Codec TransactionSigned) (bytes : Bytes) (txs : List TransactionSigned) :
    Prop :=
  codec.list.Value txs ∧ bytes = codec.list.encode txs

/-- The string is read as what it is the encoding of, and as an empty list
after an error if it is the encoding of nothing. -/
structure ReadExactly (alloy : Alloy) (codec : Codec TransactionSigned) (bytes : Bytes) :
    Prop where
  accepted : ∀ txs, decodeTransactions alloy bytes = .ok txs ↔ IsTxList codec bytes txs
  rejected : (∀ txs, ¬ IsTxList codec bytes txs) →
    ∃ err, decodeTransactions alloy bytes = .error err
  emptied : (∀ txs, ¬ IsTxList codec bytes txs) →
    ∀ sha256 parent attributes version job, attributes.blockMetadata.txList = bytes →
      tryNew alloy sha256 parent attributes version = .ok job → job.transactions = []

/-- Accepted are the strings with an encoded list in front. -/
theorem decodeTransactions_eq_ok_iff {alloy : Alloy} {codec : Codec TransactionSigned}
    (reads : ReadsLists alloy codec) {bytes : Bytes} {txs : List TransactionSigned} :
    decodeTransactions alloy bytes = .ok txs ↔
      ∃ rest, codec.list.Value txs ∧ bytes = codec.list.encode txs ++ rest := by
  have hreads := reads bytes
  constructor
  · intro h
    cases hvec : alloy.decodeTransactionVec bytes with
    | error err => simp [decodeTransactions, hvec, Except.map] at h
    | ok result =>
      obtain ⟨txs', rest⟩ := result
      simp only [decodeTransactions, hvec, Except.map, Except.ok.injEq] at h
      subst h
      rw [hvec] at hreads
      exact ⟨rest, (codec.list.exact bytes txs' rest).mp hreads.symm⟩
  · rintro ⟨rest, h⟩
    have hdecode := hreads.trans ((codec.list.exact bytes txs rest).mpr h)
    cases hvec : alloy.decodeTransactionVec bytes with
    | error err =>
      rw [hvec] at hdecode
      cases hdecode
    | ok result =>
      rw [hvec] at hdecode
      cases hdecode
      simp only [decodeTransactions, hvec, Except.map]

theorem tryNew_transactions {alloy : Alloy} {sha256 : Bytes → Vector UInt8 32} {parent : B256}
    {attributes : KasplexPayloadAttributes} {version : UInt8}
    {job : KasplexPayloadBuilderAttributes}
    (made : tryNew alloy sha256 parent attributes version = .ok job) :
    job.transactions = listedTransactions alloy attributes.blockMetadata.txList := by
  obtain ⟨-, -, hinputs⟩ := tryNew_eq_ok made
  exact congrArg BuildInputs.transactions hinputs

/-- A transaction list is read exactly, unless there is more after it. -/
theorem tx_list_read_exactly_iff (alloy : Alloy) (codec : Codec TransactionSigned)
    (reads : ReadsLists alloy codec) (bytes : Bytes) :
    ReadExactly alloy codec bytes ↔
      ¬ ∃ txs rest, codec.list.Value txs ∧ bytes = codec.list.encode txs ++ rest ∧ rest ≠ [] := by
  constructor
  · rintro exactly ⟨txs, rest, hvalue, hbytes, hrest⟩
    have haccepted := (decodeTransactions_eq_ok_iff reads).mpr ⟨rest, hvalue, hbytes⟩
    obtain ⟨-, hwhole⟩ := (exactly.accepted txs).mp haccepted
    rw [hwhole] at hbytes
    exact hrest (List.append_right_eq_self.mp hbytes.symm)
  · intro whole
    have haccepted : ∀ txs, decodeTransactions alloy bytes = .ok txs ↔
        IsTxList codec bytes txs := by
      intro txs
      rw [decodeTransactions_eq_ok_iff reads]
      constructor
      · rintro ⟨rest, hvalue, hbytes⟩
        have hrest : rest = [] := by
          by_contra hrest
          exact whole ⟨txs, rest, hvalue, hbytes, hrest⟩
        subst hrest
        exact ⟨hvalue, by rwa [List.append_nil] at hbytes⟩
      · rintro ⟨hvalue, hbytes⟩
        exact ⟨[], hvalue, by rwa [List.append_nil]⟩
    have hrejected : (∀ txs, ¬ IsTxList codec bytes txs) →
        ∃ err, decodeTransactions alloy bytes = .error err := by
      intro none
      cases hdecode : decodeTransactions alloy bytes with
      | error err => exact ⟨err, rfl⟩
      | ok txs => exact absurd ((haccepted txs).mp hdecode) (none txs)
    refine ⟨haccepted, hrejected, ?_⟩
    rintro none sha256 parent attributes version job rfl made
    obtain ⟨err, herr⟩ := hrejected none
    rw [tryNew_transactions made, listedTransactions, herr]
    rfl

section Samples

/-- Transactions inside a list are wrapped as strings. -/
def encodeNetwork (tx : TransactionSigned) : Bytes := encodeString (encodeEip1559 tx)

theorem encodeNetwork_prefixCode : PrefixCode (· ∈ sampleTransfers) encodeNetwork := by
  have distinct : ∀ a ∈ sampleTransfers, ∀ b ∈ sampleTransfers,
      encodeEip1559 a = encodeEip1559 b → a = b := by decide +kernel
  exact encodeString_prefixCode.comp encodeEip1559 (by decide +kernel)
    (fun a b ha hb => distinct a ha b hb)

/-- The sample transfers with their encodings. -/
def sampleCodec : Codec TransactionSigned :=
  Codec.ofTable sampleTransfers encodeNetwork encodeNetwork_prefixCode (by decide +kernel)

/-- The sample functions, reading every list of sample transfers. -/
def listAlloy : Alloy :=
  { sampleAlloy with
    decodeTransactionVec := fun bytes =>
      match sampleCodec.list.decode bytes with
      | some result => .ok result
      | none => .error .inputTooShort }

theorem listAlloy_reads : ReadsLists listAlloy sampleCodec := by
  intro bytes
  simp only [listAlloy]
  cases sampleCodec.list.decode bytes <;> rfl

/-- The list of three transfers is read as that list. -/
theorem tx_list_read_exactly_iff_transfers : ReadExactly listAlloy sampleCodec sampleTxList := by
  refine (tx_list_read_exactly_iff listAlloy sampleCodec listAlloy_reads sampleTxList).mpr ?_
  rintro ⟨txs, rest, hvalue, hbytes, hrest⟩
  have hread := (sampleCodec.list.exact sampleTxList txs rest).mpr ⟨hvalue, hbytes⟩
  have hall : sampleCodec.list.decode sampleTxList =
      some ([transfer0, transfer5, transfer1], []) := by
    decide +kernel
  rw [hall] at hread
  cases hread
  exact hrest rfl

/-- With a zero byte behind it, still the same list. -/
theorem trailing_byte_accepted :
    decodeTransactions listAlloy (sampleTxList ++ [0]) = .ok [transfer0, transfer5, transfer1] ∧
      (∀ txs, ¬ IsTxList sampleCodec (sampleTxList ++ [0]) txs) ∧
      ¬ ReadExactly listAlloy sampleCodec (sampleTxList ++ [0]) := by
  have hread : sampleCodec.list.decode (sampleTxList ++ [0]) =
      some ([transfer0, transfer5, transfer1], [0]) := by decide +kernel
  have hdecode : decodeTransactions listAlloy (sampleTxList ++ [0]) =
      .ok [transfer0, transfer5, transfer1] :=
    (decodeTransactions_eq_ok_iff listAlloy_reads).mpr
      ⟨[0], (sampleCodec.list.exact _ _ _).mp hread⟩
  have hnone : ∀ txs, ¬ IsTxList sampleCodec (sampleTxList ++ [0]) txs := by
    rintro txs ⟨hvalue, hbytes⟩
    have hwhole := (sampleCodec.list.exact (sampleTxList ++ [0]) txs []).mpr
      ⟨hvalue, by rwa [List.append_nil]⟩
    rw [hread] at hwhole
    cases hwhole
  exact ⟨hdecode, hnone, fun exactly => hnone _ ((exactly.accepted _).mp hdecode)⟩

end Samples

end TxList
