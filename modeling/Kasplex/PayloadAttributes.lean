import Kasplex.FeeHandler
import Kasplex.Rlp

/-!
# Payload attributes and the payload id

A build request carries the standard attributes, a base fee and the block
metadata. `tryNew` turns it into what the builder reads, and names the job by a
hash over some of the fields: the metadata is hashed only through its
transaction list, while the builder takes recipient, gas limit, timestamp and
extra data from the metadata. The optional parts are hashed without a tag.
-/

namespace PayloadAttributes

open Primitives MachineArith Rlp

/-- The standard attributes. A withdrawal takes 48 bytes of memory and no
vector is larger than `isize::MAX` bytes. -/
structure EthPayloadAttributes where
  timestamp : U64
  prevRandao : B256
  suggestedFeeRecipient : Address
  withdrawals : Option (List Withdrawal)
  parentBeaconBlockRoot : Option B256
  vecBound : ∀ ws ∈ withdrawals, 48 * ws.length < 2 ^ 63

structure KasplexBlockMetadata where
  beneficiary : Address
  gasLimit : U64
  timestamp : U256
  mixHash : B256
  txList : Bytes
  extraData : Bytes
  deriving DecidableEq, Repr

structure KasplexPayloadAttributes where
  payloadAttributes : EthPayloadAttributes
  baseFeePerGas : U256
  blockMetadata : KasplexBlockMetadata

abbrev PayloadId := Vector UInt8 8

structure EthPayloadBuilderAttributes where
  id : PayloadId
  parent : B256
  timestamp : U64
  suggestedFeeRecipient : Address
  prevRandao : B256
  withdrawals : List Withdrawal
  parentBeaconBlockRoot : Option B256

structure KasplexPayloadBuilderAttributes where
  payloadAttributes : EthPayloadBuilderAttributes
  txListHash : B256
  beneficiary : Address
  gasLimit : U64
  timestamp : U64
  mixHash : B256
  baseFeePerGas : U256
  transactions : List Recovered
  extraData : Bytes

/-- The bytes of a withdrawal behind its list header. -/
def withdrawalPayload (w : Withdrawal) : Bytes :=
  encodeNat w.index.toNat ++ encodeNat w.validatorIndex.toNat ++
    encodeString (fixedBytes 20 w.address.toNat) ++ encodeNat w.amount.toNat

def encodeWithdrawal (w : Withdrawal) : Bytes := encodeList (withdrawalPayload w)

def encodeWithdrawals (ws : List Withdrawal) : Bytes := encodeList (ws.flatMap encodeWithdrawal)

/-- The beacon root in the hashed bytes, absent or 32 bytes. -/
def rootBytes : Option B256 → Bytes
  | some root => fixedBytes 32 root.toNat
  | none => []

/-- The two optional parts of the hashed bytes. -/
def optionalBytes (attributes : EthPayloadAttributes) : Bytes :=
  (match attributes.withdrawals with
    | some withdrawals => encodeWithdrawals withdrawals
    | none => []) ++ rootBytes attributes.parentBeaconBlockRoot

/-- The bytes fed to SHA-256, in order. -/
def payloadIdPreimage (alloy : Alloy) (parent : B256) (attributes : KasplexPayloadAttributes) :
    Bytes :=
  fixedBytes 32 parent.toNat ++
    fixedBytes 8 attributes.payloadAttributes.timestamp.toNat ++
    fixedBytes 32 attributes.payloadAttributes.prevRandao.toNat ++
    fixedBytes 20 attributes.payloadAttributes.suggestedFeeRecipient.toNat ++
    optionalBytes attributes.payloadAttributes ++
    fixedBytes 32 (alloy.keccak256 attributes.blockMetadata.txList).toNat

/-- The first eight bytes of the digest, the first replaced by the version. -/
def payloadIdKasplex (alloy : Alloy) (sha256 : Bytes → Vector UInt8 32) (parent : B256)
    (attributes : KasplexPayloadAttributes) (payloadVersion : UInt8) : PayloadId :=
  let out := (sha256 (payloadIdPreimage alloy parent attributes)).set 0 payloadVersion
  Vector.ofFn fun i : Fin 8 => out.get (i.castLE (by decide))

/-- Bytes after the list are ignored. -/
def decodeTransactions (alloy : Alloy) (bytes : Bytes) :
    Except RlpError (List TransactionSigned) :=
  (alloy.decodeTransactionVec bytes).map Prod.fst

/-- A list that does not decode counts as empty, and transactions without a
recoverable signer are dropped. -/
def listedTransactions (alloy : Alloy) (txList : Bytes) : List Recovered :=
  let decoded := match decodeTransactions alloy txList with
    | .ok txs => txs
    | .error _ => []
  decoded.filterMap fun tx => (alloy.tryRecover tx).map (Recovered.mk tx)

theorem tryRecover_of_listed {alloy : Alloy} {txList : Bytes} {r : Recovered}
    (h : r ∈ listedTransactions alloy txList) : alloy.tryRecover r.tx = some r.signer := by
  obtain ⟨tx, -, hr⟩ := List.mem_filterMap.mp h
  obtain ⟨signer, hs, rfl⟩ := Option.map_eq_some_iff.mp hr
  exact hs

namespace KasplexPayloadBuilderAttributes

/-- The only failure is the panic on a metadata timestamp beyond 64 bits. The mix
hash of the metadata is not read. -/
def tryNew (alloy : Alloy) (sha256 : Bytes → Vector UInt8 32) (parent : B256)
    (attributes : KasplexPayloadAttributes) (version : UInt8) :
    Except (Fault RlpError) KasplexPayloadBuilderAttributes := do
  let id := payloadIdKasplex alloy sha256 parent attributes version
  let payloadAttributes : EthPayloadBuilderAttributes := {
    id, parent
    timestamp := attributes.payloadAttributes.timestamp
    suggestedFeeRecipient := attributes.payloadAttributes.suggestedFeeRecipient
    prevRandao := attributes.payloadAttributes.prevRandao
    withdrawals := attributes.payloadAttributes.withdrawals.getD []
    parentBeaconBlockRoot := attributes.payloadAttributes.parentBeaconBlockRoot }
  let timestamp ← narrowOrPanic 64 attributes.blockMetadata.timestamp
  pure {
    payloadAttributes
    txListHash := alloy.keccak256 attributes.blockMetadata.txList
    beneficiary := attributes.blockMetadata.beneficiary
    gasLimit := attributes.blockMetadata.gasLimit
    timestamp
    mixHash := attributes.payloadAttributes.prevRandao
    baseFeePerGas := attributes.baseFeePerGas
    extraData := attributes.blockMetadata.extraData
    transactions := listedTransactions alloy attributes.blockMetadata.txList }

/-- The values the builder reads. -/
structure BuildInputs where
  beneficiary : Address
  gasLimit : U64
  timestamp : U64
  mixHash : B256
  baseFeePerGas : U256
  extraData : Bytes
  transactions : List Recovered
  parentBeaconBlockRoot : Option B256
  withdrawals : List Withdrawal
  deriving DecidableEq

def buildInputs (a : KasplexPayloadBuilderAttributes) : BuildInputs where
  beneficiary := a.beneficiary
  gasLimit := a.gasLimit
  timestamp := a.timestamp
  mixHash := a.mixHash
  baseFeePerGas := a.baseFeePerGas
  extraData := a.extraData
  transactions := a.transactions
  parentBeaconBlockRoot := a.payloadAttributes.parentBeaconBlockRoot
  withdrawals := a.payloadAttributes.withdrawals

end KasplexPayloadBuilderAttributes

/-- The attributes builder of dev mode, around the one for the standard
attributes. -/
structure LocalPayloadAttributesBuilder where
  buildEth : SealedHeader → EthPayloadAttributes

/-- Requests of dev mode: no fee, no transactions, no recipient. -/
def LocalPayloadAttributesBuilder.build (builder : LocalPayloadAttributesBuilder)
    (parent : SealedHeader) : KasplexPayloadAttributes :=
  let ethPayloadAttributes := builder.buildEth parent
  let timestamp := ethPayloadAttributes.timestamp
  { payloadAttributes := ethPayloadAttributes
    baseFeePerGas := 0
    blockMetadata := {
      beneficiary := 0
      timestamp := timestamp.setWidth 256
      gasLimit := maximumGasLimitBlock
      mixHash := 0
      txList := []
      extraData := [] } }

open KasplexPayloadBuilderAttributes

section Encoding

theorem encodeNat_prefixCode : PrefixCode (· < 2 ^ 64) encodeNat :=
  encodeString_prefixCode.comp minimalBytes
    (fun v hv => by
      have := minimalBytes_length_le (k := 8) (v := v) (by omega)
      omega)
    (fun _ _ _ _ => minimalBytes_inj)

theorem encodeNat_length_le {v : Nat} (h : v < 2 ^ 64) : (encodeNat v).length ≤ 9 := by
  have hl := minimalBytes_length_le (k := 8) (v := v) (by omega)
  rcases encodeString_cases (minimalBytes v) with ⟨b, -, -, e⟩ | e
  · simp [encodeNat, e]
  · simp only [encodeNat, e, List.length_append, lengthHeader]
    rw [if_pos (by omega)]
    simp only [List.length_cons, List.length_nil]
    omega

theorem withdrawalPayload_length_le (w : Withdrawal) : (withdrawalPayload w).length ≤ 48 := by
  have h1 := encodeNat_length_le w.index.isLt
  have h2 := encodeNat_length_le w.validatorIndex.isLt
  have h3 := encodeNat_length_le w.amount.isLt
  have h4 : (encodeString (fixedBytes 20 w.address.toNat)).length = 21 := by
    rcases encodeString_cases (fixedBytes 20 w.address.toNat) with ⟨b, e, -, -⟩ | e
    · have := congrArg List.length e
      simp at this
    · simp [e, lengthHeader]
  simp only [withdrawalPayload, List.length_append, h4]
  omega

theorem withdrawalPayload_inj {v w : Withdrawal}
    (h : withdrawalPayload v = withdrawalPayload w) : v = w := by
  simp only [withdrawalPayload, List.append_assoc] at h
  obtain ⟨hindex, h⟩ := encodeNat_prefixCode.append_inj v.index.isLt w.index.isLt h
  obtain ⟨hvalidator, h⟩ :=
    encodeNat_prefixCode.append_inj v.validatorIndex.isLt w.validatorIndex.isLt h
  obtain ⟨haddress, h⟩ := encodeString_prefixCode.append_inj (by simp) (by simp) h
  have hamount := encodeNat_prefixCode.inj v.amount.isLt w.amount.isLt h
  have haddress := fixedBytes_inj (n := 20) (by have := v.address.isLt; omega)
    (by have := w.address.isLt; omega) haddress
  cases v
  cases w
  simp only [Withdrawal.mk.injEq]
  exact ⟨BitVec.eq_of_toNat_eq hindex, BitVec.eq_of_toNat_eq hvalidator,
    BitVec.eq_of_toNat_eq haddress, BitVec.eq_of_toNat_eq hamount⟩

theorem encodeWithdrawal_prefixCode : PrefixCode (fun _ => True) encodeWithdrawal :=
  encodeList_prefixCode.comp withdrawalPayload
    (fun w _ => by
      have := withdrawalPayload_length_le w
      omega)
    (fun _ _ _ _ => withdrawalPayload_inj)

theorem encodeWithdrawal_length_le (w : Withdrawal) : (encodeWithdrawal w).length ≤ 49 := by
  have h := withdrawalPayload_length_le w
  change (lengthHeader 192 (withdrawalPayload w).length ++ withdrawalPayload w).length ≤ 49
  rw [lengthHeader, if_pos (by omega)]
  simp only [List.length_append, List.length_cons, List.length_nil]
  omega

theorem flatMap_encodeWithdrawal_length_le (ws : List Withdrawal) :
    (ws.flatMap encodeWithdrawal).length ≤ 49 * ws.length := by
  induction ws with
  | nil => simp
  | cons w ws ih =>
    have := encodeWithdrawal_length_le w
    simp only [List.flatMap_cons, List.length_append, List.length_cons]
    omega

/-- Vectors that fit in memory have a self-delimiting encoding. -/
theorem encodeWithdrawals_prefixCode :
    PrefixCode (fun ws : List Withdrawal => 48 * ws.length < 2 ^ 63) encodeWithdrawals :=
  encodeList_prefixCode.comp (fun ws => ws.flatMap encodeWithdrawal)
    (fun ws hws => by
      have := flatMap_encodeWithdrawal_length_le ws
      omega)
    (fun _ _ _ _ h => encodeWithdrawal_prefixCode.flatMap_inj (fun _ _ => encodeList_ne_nil _)
      (fun _ _ => trivial) (fun _ _ => trivial) h)

end Encoding

section Separation

variable {a b : EthPayloadAttributes}

/-- One request has withdrawals whose encoding is, byte for byte, the beacon
root the other one has in their place. -/
def ReadsAsRoot (a b : EthPayloadAttributes) : Prop :=
  ∃ ws root, a.withdrawals = some ws ∧ a.parentBeaconBlockRoot = none ∧
    b.withdrawals = none ∧ b.parentBeaconBlockRoot = some root ∧
    encodeWithdrawals ws = fixedBytes 32 root.toNat

def Confusable (a b : EthPayloadAttributes) : Prop := ReadsAsRoot a b ∨ ReadsAsRoot b a

theorem rootBytes_inj {r s : Option B256} (h : rootBytes r = rootBytes s) : r = s := by
  have hlen := congrArg List.length h
  cases r with
  | none =>
    cases s with
    | none => rfl
    | some s => simp [rootBytes] at hlen
  | some r =>
    cases s with
    | none => simp [rootBytes] at hlen
    | some s =>
      have hr := r.isLt
      have hs := s.isLt
      rw [BitVec.eq_of_toNat_eq (fixedBytes_inj (n := 32) (by omega) (by omega) h)]

/-- Equal optional bytes with only one list of withdrawals present. -/
theorem readsAsRoot_of_optionalBytes (h : optionalBytes a = optionalBytes b)
    {ws : List Withdrawal} (ha : a.withdrawals = some ws) (hb : b.withdrawals = none) :
    ReadsAsRoot a b := by
  have hpos : 0 < (encodeWithdrawals ws).length :=
    List.length_pos_iff.mpr (encodeList_ne_nil _)
  have hlen := congrArg List.length h
  simp only [optionalBytes, ha, hb, List.nil_append, List.length_append] at h hlen
  cases hrb : b.parentBeaconBlockRoot with
  | none =>
    simp only [hrb, rootBytes, List.length_nil] at hlen
    omega
  | some root =>
    cases hra : a.parentBeaconBlockRoot with
    | none =>
      simp only [hra, hrb, rootBytes, List.append_nil] at h
      exact ⟨ws, root, ha, hra, hb, hrb, h⟩
    | some r =>
      simp only [hra, hrb, rootBytes, fixedBytes_length] at hlen
      omega

theorem optionalBytes_eq_iff :
    optionalBytes a = optionalBytes b ↔
      (a.withdrawals = b.withdrawals ∧ a.parentBeaconBlockRoot = b.parentBeaconBlockRoot) ∨
        Confusable a b := by
  constructor
  · intro h
    cases hwa : a.withdrawals with
    | none =>
      cases hwb : b.withdrawals with
      | none =>
        simp only [optionalBytes, hwa, hwb, List.nil_append] at h
        exact Or.inl ⟨rfl, rootBytes_inj h⟩
      | some ws => exact Or.inr (Or.inr (readsAsRoot_of_optionalBytes h.symm hwb hwa))
    | some ws =>
      cases hwb : b.withdrawals with
      | none => exact Or.inr (Or.inl (readsAsRoot_of_optionalBytes h hwa hwb))
      | some vs =>
        simp only [optionalBytes, hwa, hwb] at h
        obtain ⟨rfl, hroot⟩ := encodeWithdrawals_prefixCode.append_inj (a.vecBound ws hwa)
          (b.vecBound vs hwb) h
        exact Or.inl ⟨rfl, rootBytes_inj hroot⟩
  · rintro (⟨hw, hr⟩ | ⟨ws, root, ha, hra, hb, hrb, h⟩ | ⟨ws, root, hb, hrb, ha, hra, h⟩)
    · simp only [optionalBytes, hw, hr]
    · simp only [optionalBytes, ha, hra, hb, hrb, rootBytes, List.append_nil, List.nil_append, h]
    · simp only [optionalBytes, ha, hra, hb, hrb, rootBytes, List.append_nil, List.nil_append, h]

/-- The hashed bytes agree exactly when the hashed fields do, up to a hash
collision of the transaction lists and the confusion of the optional parts. -/
theorem payloadIdPreimage_eq_iff (alloy : Alloy) (parent : B256)
    (A B : KasplexPayloadAttributes) :
    payloadIdPreimage alloy parent A = payloadIdPreimage alloy parent B ↔
      A.payloadAttributes.timestamp = B.payloadAttributes.timestamp ∧
      A.payloadAttributes.prevRandao = B.payloadAttributes.prevRandao ∧
      A.payloadAttributes.suggestedFeeRecipient = B.payloadAttributes.suggestedFeeRecipient ∧
      ((A.payloadAttributes.withdrawals = B.payloadAttributes.withdrawals ∧
        A.payloadAttributes.parentBeaconBlockRoot = B.payloadAttributes.parentBeaconBlockRoot) ∨
        Confusable A.payloadAttributes B.payloadAttributes) ∧
      alloy.keccak256 A.blockMetadata.txList = alloy.keccak256 B.blockMetadata.txList := by
  rw [← optionalBytes_eq_iff]
  constructor
  · intro h
    obtain ⟨h, hhash⟩ := List.append_inj' h (by simp)
    simp only [List.append_assoc] at h
    obtain ⟨-, h⟩ := List.append_inj h rfl
    obtain ⟨htime, h⟩ := List.append_inj h (by simp)
    obtain ⟨hrandao, h⟩ := List.append_inj h (by simp)
    obtain ⟨hrecipient, hoptional⟩ := List.append_inj h (by simp)
    have htime := fixedBytes_inj (n := 8) (by simpa using BitVec.isLt _)
      (by simpa using BitVec.isLt _) htime
    have hrecipient := fixedBytes_inj (n := 20) (by simpa using BitVec.isLt _)
      (by simpa using BitVec.isLt _) hrecipient
    have hrandao := rootBytes_inj (r := some _) (s := some _) hrandao
    have hhash := rootBytes_inj (r := some _) (s := some _) hhash
    exact ⟨BitVec.eq_of_toNat_eq htime, Option.some.inj hrandao,
      BitVec.eq_of_toNat_eq hrecipient, hoptional, Option.some.inj hhash⟩
  · rintro ⟨htime, hrandao, hrecipient, hoptional, hhash⟩
    simp only [payloadIdPreimage, htime, hrandao, hrecipient, hoptional, hhash]

theorem tryNew_eq_ok {alloy : Alloy} {sha256 : Bytes → Vector UInt8 32} {parent : B256}
    {A : KasplexPayloadAttributes} {version : UInt8} {job : KasplexPayloadBuilderAttributes}
    (h : tryNew alloy sha256 parent A version = .ok job) :
    job.timestamp.toNat = A.blockMetadata.timestamp.toNat ∧
      job.payloadAttributes.id = payloadIdKasplex alloy sha256 parent A version ∧
      job.buildInputs = {
        beneficiary := A.blockMetadata.beneficiary
        gasLimit := A.blockMetadata.gasLimit
        timestamp := job.timestamp
        mixHash := A.payloadAttributes.prevRandao
        baseFeePerGas := A.baseFeePerGas
        extraData := A.blockMetadata.extraData
        transactions := listedTransactions alloy A.blockMetadata.txList
        parentBeaconBlockRoot := A.payloadAttributes.parentBeaconBlockRoot
        withdrawals := A.payloadAttributes.withdrawals.getD [] } := by
  obtain ⟨timestamp, ht, h⟩ := bind_eq_ok h
  cases h
  exact ⟨narrowOrPanic_eq_ok_iff.mp ht, rfl, rfl⟩

/-- A field that is hashed as such differs. -/
def HashedFieldsDiffer (A B : KasplexPayloadAttributes) : Prop :=
  A.payloadAttributes.timestamp ≠ B.payloadAttributes.timestamp ∨
    A.payloadAttributes.prevRandao ≠ B.payloadAttributes.prevRandao ∨
    A.payloadAttributes.suggestedFeeRecipient ≠ B.payloadAttributes.suggestedFeeRecipient ∨
    A.blockMetadata.txList ≠ B.blockMetadata.txList ∨
    ((A.payloadAttributes.withdrawals ≠ B.payloadAttributes.withdrawals ∨
      A.payloadAttributes.parentBeaconBlockRoot ≠ B.payloadAttributes.parentBeaconBlockRoot) ∧
      ¬ Confusable A.payloadAttributes B.payloadAttributes)

/-- The fields the builder reads and the id leaves out agree. -/
def UnhashedFieldsAgree (A B : KasplexPayloadAttributes) : Prop :=
  A.baseFeePerGas = B.baseFeePerGas ∧
    A.blockMetadata.beneficiary = B.blockMetadata.beneficiary ∧
    A.blockMetadata.gasLimit = B.blockMetadata.gasLimit ∧
    A.blockMetadata.timestamp = B.blockMetadata.timestamp ∧
    A.blockMetadata.extraData = B.blockMetadata.extraData

theorem Confusable.withdrawals_differ (h : Confusable a b) :
    a.withdrawals.getD [] ≠ b.withdrawals.getD [] := by
  have nonempty : ∀ {ws : List Withdrawal} {root : B256},
      encodeWithdrawals ws = fixedBytes 32 root.toNat → ws ≠ [] := by
    rintro _ root he rfl
    have := congrArg List.length he
    rw [fixedBytes_length] at this
    revert this
    decide
  rcases h with ⟨ws, root, ha, -, hb, -, he⟩ | ⟨ws, root, hb, -, ha, -, he⟩
  · simpa [ha, hb] using nonempty he
  · simpa [ha, hb] using (nonempty he).symm

/-- Two requests on one parent get separate ids whenever the builder would read
different values, exactly when a hashed field tells them apart or they agree on
everything the id leaves out. The hashes count as injective on the pair. -/
theorem payload_ids_separate_iff (alloy : Alloy) (sha256 : Bytes → Vector UInt8 32)
    (parent : B256) (version : UInt8) (A B : KasplexPayloadAttributes)
    (jobA jobB : KasplexPayloadBuilderAttributes)
    (hA : tryNew alloy sha256 parent A version = .ok jobA)
    (hB : tryNew alloy sha256 parent B version = .ok jobB)
    (keccakIdeal : alloy.keccak256 A.blockMetadata.txList =
      alloy.keccak256 B.blockMetadata.txList → A.blockMetadata.txList = B.blockMetadata.txList)
    (shaIdeal : payloadIdKasplex alloy sha256 parent A version =
      payloadIdKasplex alloy sha256 parent B version →
      payloadIdPreimage alloy parent A = payloadIdPreimage alloy parent B) :
    (jobA.buildInputs ≠ jobB.buildInputs →
      payloadIdPreimage alloy parent A ≠ payloadIdPreimage alloy parent B ∧
      jobA.payloadAttributes.id ≠ jobB.payloadAttributes.id) ↔
      HashedFieldsDiffer A B ∨
        (UnhashedFieldsAgree A B ∧ ¬ Confusable A.payloadAttributes B.payloadAttributes) := by
  obtain ⟨htimeA, hidA, hinputsA⟩ := tryNew_eq_ok hA
  obtain ⟨htimeB, hidB, hinputsB⟩ := tryNew_eq_ok hB
  constructor
  · intro separate
    by_contra hcond
    simp only [not_or, HashedFieldsDiffer, not_not, not_and_or] at hcond
    obtain ⟨⟨htime, hrandao, hrecipient, htxs, hoptional⟩, hunhashed⟩ := hcond
    have hpre : payloadIdPreimage alloy parent A = payloadIdPreimage alloy parent B :=
      (payloadIdPreimage_eq_iff alloy parent A B).mpr
        ⟨htime, hrandao, hrecipient, hoptional, by rw [htxs]⟩
    refine (separate ?_).1 hpre
    rw [hinputsA, hinputsB]
    intro hsame
    simp only [BuildInputs.mk.injEq] at hsame
    obtain ⟨hben, hgas, hjobTime, -, hfee, hextra, -, -, hws⟩ := hsame
    rcases hunhashed with hdiffer | hconf
    · refine hdiffer ⟨hfee, hben, hgas, ?_, hextra⟩
      apply BitVec.eq_of_toNat_eq
      rw [← htimeA, ← htimeB, hjobTime]
    · exact hconf.withdrawals_differ hws
  · intro hcond hinputs
    have hpre : payloadIdPreimage alloy parent A ≠ payloadIdPreimage alloy parent B := by
      intro hpre
      obtain ⟨htime, hrandao, hrecipient, hoptional, hhash⟩ :=
        (payloadIdPreimage_eq_iff alloy parent A B).mp hpre
      have htxs := keccakIdeal hhash
      rcases hcond with (h | h | h | h | ⟨h, hconf⟩) | ⟨⟨hfee, hben, hgas, hmeta, hextra⟩, hconf⟩
      · exact h htime
      · exact h hrandao
      · exact h hrecipient
      · exact h htxs
      · obtain ⟨hws, hroot⟩ := hoptional.resolve_right hconf
        exact h.elim (· hws) (· hroot)
      · obtain ⟨hws, hroot⟩ := hoptional.resolve_right hconf
        apply hinputs
        have hjobTime : jobA.timestamp = jobB.timestamp := by
          apply BitVec.eq_of_toNat_eq
          rw [htimeA, htimeB, hmeta]
        rw [hinputsA, hinputsB]
        simp only [hben, hgas, hjobTime, hrandao, hfee, hextra, htxs, hroot, hws]
    refine ⟨hpre, ?_⟩
    rw [hidA, hidB]
    exact fun hid => hpre (shaIdeal hid)

end Separation

section Samples

/-- The account of the secret key one. -/
def sampleSigner : Address := 0x7e5f4552091a69125d5dfcb7b8c2659029395bdf#160

/-- A transfer signed with that key. -/
def signedTransfer (nonce : U64) (hash : B256) (r s : Nat) : TransactionSigned :=
  { FeeHandler.transferTx sampleSigner nonce 30000 with
    hash
    signature := fixedBytes 32 r ++ fixedBytes 32 s ++ [1] }

def transfer0 : TransactionSigned := signedTransfer 0
  0x6f479ba964d59185984a2bbe31be050cda5d8e4211f4946ac68fdb5601cb3667#256
  0x5e8969a9a8ba6cc5005afbb813ffd2be289ba9ae93859aeb0ebae8af0ea428dc
  0x13b9e49bfcb8633639c815ae039bf265f234587b84bbf6ce9c1fee8124fe6530

def transfer1 : TransactionSigned := signedTransfer 1
  0x1d03fdfcc033d9e016a61f0884a768a2274bcf8ee2d655ca0c814565c868e590#256
  0xb54c25ab72f13002aa9bc92cbd18049b5f22214d0b77c8709813530d97b1f461
  0x4ead04625fcbf93bb6ba6d154cd6ab2ba41a5e713cf51228e260892453008b5b

/-- Out of sequence: the account has not sent five transactions. -/
def transfer5 : TransactionSigned := signedTransfer 5
  0xeaa841dc864ee8dcf478afc7185a420687605860cac14db0aae7e2787810b968#256
  0x4c6d1e7d20c177edddaedf66bd21f9f2062ee64fb2f4a1e990901e13c2a34ae3
  0x65075ff9d090525e638a75d8ef642e284aa6cf0c429791f00cadd0ec14697cbc

/-- The typed encoding of an EIP-1559 call without access list. -/
def encodeEip1559 (tx : TransactionSigned) : Bytes :=
  match tx.fees, tx.kind with
  | .eip1559 maxFee priority, .call target =>
    0x02 :: encodeList (encodeNat (tx.chainId.getD 0).toNat ++ encodeNat tx.nonce.toNat ++
      encodeNat priority.toNat ++ encodeNat maxFee.toNat ++ encodeNat tx.gasLimit.toNat ++
      encodeString (fixedBytes 20 target.toNat) ++ encodeNat tx.value.toNat ++
      encodeString tx.input ++ encodeList [] ++ encodeString (tx.signature.drop 64) ++
      encodeString (tx.signature.take 32) ++ encodeString ((tx.signature.drop 32).take 32))
  | _, _ => []

def sampleTransfers : List TransactionSigned := [transfer0, transfer1, transfer5]

def sampleDecode (bytes : Bytes) : Option TransactionSigned :=
  sampleTransfers.find? fun tx => decide (encodeEip1559 tx = bytes)

def sampleTrieRoot (encoded : List Bytes) : B256 :=
  if encoded = [transfer0, transfer1].map encodeEip1559 then
    0x5887f2de53e7d6fc1bfe5657e5d50c05b075cb9b1be5c3a33f0b93277b281be2#256
  else if encoded = [] then emptyWithdrawals else 0

/-- A block to build on: the signer holds one coin. -/
def sampleParent : SealedHeader where
  header := {
    parentHash := 0
    ommersHash := emptyOmmerRootHash
    beneficiary := 0
    stateRoot := 0x2ab493e5c5c640553fccd8cc97678ca81fe3fa9a70302c04e9af9d9182c417a3#256
    transactionsRoot := emptyWithdrawals
    receiptsRoot := emptyWithdrawals
    logsBloom := 0
    difficulty := 0
    number := 0
    gasLimit := 30000000
    gasUsed := 0
    timestamp := 900
    extraData := [1]
    mixHash := 0
    nonce := 0
    baseFeePerGas := some FeeHandler.kasplexBaseFee
    withdrawalsRoot := some emptyWithdrawals
    blobGasUsed := none
    excessBlobGas := none
    parentBeaconBlockRoot := none
    requestsHash := none }
  hash := 0xee9147eb792bb6e58e66310a797e548b9826c56dee6f0c8a066d18c000352238#256

/-- The bytes of `kas`. -/
def sampleExtraData : Bytes := [0x6b, 0x61, 0x73]

/-- The next block, with the first two transfers. -/
def sampleHeader : Header :=
  { sampleParent.header with
    parentHash := sampleParent.hash
    beneficiary := 0xbe#160
    stateRoot := 0xd08c6ab1cbea59a9300e532da12a9df2e45bef9c257ce8d7deeba144554b179a#256
    transactionsRoot := 0x5887f2de53e7d6fc1bfe5657e5d50c05b075cb9b1be5c3a33f0b93277b281be2#256
    receiptsRoot := 0x75308898d571eafb5cd8cde8278bf5b3d13c5f6ec074926de3bb895b519264e1#256
    number := 1
    gasUsed := 42000
    timestamp := 1000
    extraData := sampleExtraData
    mixHash := 7 }

def sampleHeaderHash : B256 :=
  0xf033ab294201f7eb8096cb45ab7d62ffc1de1e62709e2ad1e89f7a2c2a0789fd#256

/-- An empty block on top of it. -/
def secondHeader : Header :=
  { sampleHeader with
    parentHash := sampleHeaderHash
    transactionsRoot := emptyWithdrawals
    receiptsRoot := emptyWithdrawals
    number := 2
    gasUsed := 0
    timestamp := 1100 }

/-- The three transfers as a request lists them. -/
def sampleTxList : Bytes :=
  encodeList ([transfer0, transfer5, transfer1].flatMap fun tx => encodeString (encodeEip1559 tx))

def sampleTxListHash : B256 :=
  0xa60206ff798ba215caef13fa4dfbddcc333f7d8f84c6427b333d9509d1d0c54d#256

/-- The linked functions, tabulated on the sample data. -/
def sampleAlloy : Alloy where
  hashSlow := fun header =>
    if header = sampleHeader then sampleHeaderHash
    else if header = secondHeader then
      0x9d4dc5d4aaa26b7d7be37524c53301066d867adb1010db2a31af1fdddd77965c#256
    else if header = { sampleHeader with gasLimit := 30000 } then
      0xb8d7ba2ce112844f21652e97334fe073c6786fc214a0e37e03bc02a798f51ec4#256
    else if header = sampleParent.header then sampleParent.hash
    else 0
  keccak256 := fun bytes =>
    if bytes = [0xc0] then emptyOmmerRootHash
    else if bytes = sampleTxList then sampleTxListHash else 0
  encode2718 := encodeEip1559
  decode2718Exact := sampleDecode
  tryRecover := fun tx => if tx ∈ sampleTransfers then some sampleSigner else none
  orderedTrieRoot := sampleTrieRoot
  calculateReceiptRoot := fun receipts =>
    if receipts = [⟨.eip1559, true, 21000, []⟩, ⟨.eip1559, true, 42000, []⟩] then
      sampleHeader.receiptsRoot
    else if receipts = [] then emptyWithdrawals else 0
  logsBloom := fun _ => 0
  fromBlockUnchecked := payloadFromBlock encodeEip1559
  tryIntoBlock := blockFromPayload sampleDecode sampleTrieRoot
  decodeTransactionVec := fun bytes =>
    if bytes = [0xc0] then .ok ([], [])
    else if bytes = sampleTxList then .ok ([transfer0, transfer5, transfer1], [])
    else .error .inputTooShort

/-- A request for an empty block. -/
def sampleRequest (timestamp : U64) (baseFeePerGas : U256) : KasplexPayloadAttributes where
  payloadAttributes := {
    timestamp
    prevRandao := 7
    suggestedFeeRecipient := 0xbe#160
    withdrawals := some []
    parentBeaconBlockRoot := none
    vecBound := by simp }
  baseFeePerGas := baseFeePerGas
  blockMetadata := ⟨0xbe#160, 30000000, timestamp.setWidth 256, 7, [0xc0], sampleExtraData⟩

def digestOf (value : Nat) : Vector UInt8 32 := ⟨(fixedBytes 32 value).toArray, by simp⟩

/-- The digests of the sample requests: on the sample block, with transactions, and
empty at the time 1000 or later. -/
def sampleSha256 (bytes : Bytes) : Vector UInt8 32 :=
  if bytes.take 32 = fixedBytes 32 sampleHeaderHash.toNat then
    digestOf 0x5dd6439ea9811da008e58a0cb39ede8a43d3ab24c427e41c804db546471d3b25
  else if bytes.drop 93 = fixedBytes 32 sampleTxListHash.toNat then
    digestOf 0x61f8302cc33bb1353b96a175596e75f23e79bb223fd82fba7553a06cd3ff5a32
  else if (bytes.drop 32).take 8 = fixedBytes 8 1000 then
    digestOf 0x30d1167ffcc6ea71c09bbfc2725551f33f1827b782c2fa8edbdb7a4d7045023e
  else digestOf 0x2969a547fcead9f470fd32601068bc278533a4681397ca7546f055b9c1bca17d

/-- A request for a block of the three transfers. -/
def transferRequest (gasLimit : U64) : KasplexPayloadAttributes :=
  let request := sampleRequest 1000 2000000000000
  { request with
    blockMetadata := { request.blockMetadata with gasLimit, txList := sampleTxList } }

/-- Two requests that differ only in their time. -/
theorem payload_ids_separate_iff_later_request :
    let A := sampleRequest 1000 2000000000000
    let B := sampleRequest 1001 2000000000000
    ∃ jobA jobB, tryNew sampleAlloy sampleSha256 sampleParent.hash A 2 = .ok jobA ∧
      tryNew sampleAlloy sampleSha256 sampleParent.hash B 2 = .ok jobB ∧
      (jobA.buildInputs ≠ jobB.buildInputs →
        payloadIdPreimage sampleAlloy sampleParent.hash A ≠
          payloadIdPreimage sampleAlloy sampleParent.hash B ∧
        jobA.payloadAttributes.id ≠ jobB.payloadAttributes.id) := by
  intro A B
  obtain ⟨jobA, hA⟩ := exists_of_isOk (show (tryNew sampleAlloy sampleSha256 sampleParent.hash A
    2).isOk = true by decide +kernel)
  obtain ⟨jobB, hB⟩ := exists_of_isOk (show (tryNew sampleAlloy sampleSha256 sampleParent.hash B
    2).isOk = true by decide +kernel)
  refine ⟨jobA, jobB, hA, hB, ?_⟩
  refine (payload_ids_separate_iff sampleAlloy sampleSha256 sampleParent.hash 2 A B jobA jobB hA hB
    (fun _ => rfl) ?_).mpr (Or.inl (Or.inl (by decide)))
  have hids : payloadIdKasplex sampleAlloy sampleSha256 sampleParent.hash A 2 ≠
      payloadIdKasplex sampleAlloy sampleSha256 sampleParent.hash B 2 := by decide +kernel
  exact fun h => absurd h hids

/-- A request repeated with another base fee gets the id of the first one. -/
theorem payload_id_ignores_base_fee :
    let A := sampleRequest 1000 2000000000000
    let B := sampleRequest 1000 3000000000000
    ∃ jobA jobB, tryNew sampleAlloy sampleSha256 sampleParent.hash A 2 = .ok jobA ∧
      tryNew sampleAlloy sampleSha256 sampleParent.hash B 2 = .ok jobB ∧
      jobA.buildInputs ≠ jobB.buildInputs ∧
      payloadIdPreimage sampleAlloy sampleParent.hash A =
        payloadIdPreimage sampleAlloy sampleParent.hash B ∧
      jobA.payloadAttributes.id = jobB.payloadAttributes.id := by
  intro A B
  obtain ⟨jobA, hA⟩ := exists_of_isOk (show (tryNew sampleAlloy sampleSha256 sampleParent.hash A
    2).isOk = true by decide +kernel)
  obtain ⟨jobB, hB⟩ := exists_of_isOk (show (tryNew sampleAlloy sampleSha256 sampleParent.hash B
    2).isOk = true by decide +kernel)
  obtain ⟨-, hidA, hinputsA⟩ := tryNew_eq_ok hA
  obtain ⟨-, hidB, hinputsB⟩ := tryNew_eq_ok hB
  refine ⟨jobA, jobB, hA, hB, ?_, rfl, hidA.trans hidB.symm⟩
  rw [hinputsA, hinputsB]
  intro hsame
  have hfee : (2000000000000 : U256) = 3000000000000 :=
    congrArg BuildInputs.baseFeePerGas hsame
  revert hfee
  decide

end Samples

end PayloadAttributes
