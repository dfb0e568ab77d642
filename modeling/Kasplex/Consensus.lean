import Kasplex.FeeHandler
import Kasplex.ChainSpec

/-!
# Consensus rules

`KasplexBeaconConsensus` checks a header by itself, a header against its parent,
and a body against its header. The base fee is fixed, and a block may have the
timestamp of its parent. The rules shared with Ethereum are functions of the
node library; what they are documented to check is stated in `AsDocumented`.
-/

namespace Consensus

open Primitives MachineArith ChainSpec FeeHandler

inductive ConsensusError where
  | theMergeDifficultyIsNotZero
  | theMergeNonceIsNotZero
  | theMergeOmmerRootIsNotEmpty
  | baseFeeMissing
  | baseFeeDiff (got expected : U64)
  | timestampIsInPast (parentTimestamp timestamp : U64)
  /-- Any error of the shared rules, by its text. -/
  | shared (message : String)
  deriving DecidableEq, Repr

/-- The rules of the node library. -/
structure SharedRules where
  validateHeaderExtraData : Header → Nat → Except ConsensusError Unit
  validateHeaderGas : Header → Except ConsensusError Unit
  validateHeaderBaseFee : Header → KasplexChainSpec → Except ConsensusError Unit
  validateAgainstParentHashNumber : Header → SealedHeader → Except ConsensusError Unit
  calculateOmmersRoot : List Header → B256
  calculateWithdrawalsRoot : List Withdrawal → B256
  validateBodyAgainstHeader : BlockBody → Header → Except ConsensusError Unit

/-- The three roots of a body. Withdrawals count only when header and body both
have them, or both lack them. -/
structure BodyMatches (alloy : Alloy) (rules : SharedRules) (body : BlockBody)
    (header : Header) : Prop where
  ommers : header.ommersHash = rules.calculateOmmersRoot body.ommers
  transactions : header.transactionsRoot = alloy.calculateTransactionRoot body.transactions
  withdrawals : header.withdrawalsRoot = body.withdrawals.map rules.calculateWithdrawalsRoot

structure SharedRules.AsDocumented (alloy : Alloy) (rules : SharedRules) : Prop where
  extraData : ∀ header maxSize,
    rules.validateHeaderExtraData header maxSize = .ok () ↔ header.extraData.length ≤ maxSize
  gas : ∀ header, rules.validateHeaderGas header = .ok () ↔
    header.gasUsed ≤ header.gasLimit ∧ header.gasLimit ≤ maximumGasLimitBlock
  baseFee : ∀ header spec, header.baseFeePerGas.isSome →
    rules.validateHeaderBaseFee header spec = .ok ()
  parent : ∀ header parent,
    rules.validateAgainstParentHashNumber header parent = .ok () ↔
      header.parentHash = parent.hash ∧ header.number = parent.header.number + 1
  body : ∀ body header,
    rules.validateBodyAgainstHeader body header = .ok () ↔ BodyMatches alloy rules body header
  noOmmers : rules.calculateOmmersRoot [] = emptyOmmerRootHash
  noWithdrawals : rules.calculateWithdrawalsRoot [] = emptyWithdrawals

def validateKasplexBaseFeeInHeader (header : Header) : Except ConsensusError Unit :=
  match header.baseFeePerGas with
  | none => .error .baseFeeMissing
  | some baseFee =>
    if baseFee ≠ kasplexBaseFee then .error (.baseFeeDiff baseFee kasplexBaseFee) else .ok ()

def validateHeader (rules : SharedRules) (spec : KasplexChainSpec) (header : SealedHeader) :
    Except ConsensusError Unit :=
  let header := header.header
  if header.difficulty ≠ 0 then .error .theMergeDifficultyIsNotZero
  else if header.nonce ≠ 0 then .error .theMergeNonceIsNotZero
  else if header.ommersHash ≠ emptyOmmerRootHash then .error .theMergeOmmerRootIsNotEmpty
  else do
    rules.validateHeaderExtraData header 32
    rules.validateHeaderGas header
    rules.validateHeaderBaseFee header spec
    validateKasplexBaseFeeInHeader header

/-- Equal timestamps are allowed. -/
def validateHeaderAgainstParent (rules : SharedRules) (header parent : SealedHeader) :
    Except ConsensusError Unit := do
  rules.validateAgainstParentHashNumber header.header parent
  match header.header.baseFeePerGas with
  | none => .error .baseFeeMissing
  | some headerBaseFee =>
    if header.header.timestamp < parent.header.timestamp then
      .error (.timestampIsInPast parent.header.timestamp header.header.timestamp)
    else if headerBaseFee ≠ kasplexBaseFee then
      .error (.baseFeeDiff headerBaseFee kasplexBaseFee)
    else .ok ()

def validateBodyAgainstHeader (rules : SharedRules) (body : BlockBody) (header : SealedHeader) :
    Except ConsensusError Unit :=
  rules.validateBodyAgainstHeader body header.header

/-- The rules for a header by itself, but for the one on the gas it used. -/
structure HeaderRules (header : Header) : Prop where
  difficulty : header.difficulty = 0
  nonce : header.nonce = 0
  ommers : header.ommersHash = emptyOmmerRootHash
  extraData : header.extraData.length ≤ 32
  gasLimit : header.gasLimit ≤ maximumGasLimitBlock
  baseFee : header.baseFeePerGas = some kasplexBaseFee

/-- The rules for a header on its parent, but for the one on the timestamp. -/
structure ParentRules (header : Header) (parent : SealedHeader) : Prop where
  parentHash : header.parentHash = parent.hash
  number : header.number = parent.header.number + 1
  baseFee : header.baseFeePerGas = some kasplexBaseFee

theorem validateKasplexBaseFeeInHeader_eq_ok_iff {header : Header} :
    validateKasplexBaseFeeInHeader header = .ok () ↔
      header.baseFeePerGas = some kasplexBaseFee := by
  simp only [validateKasplexBaseFeeInHeader]
  cases header.baseFeePerGas with
  | none => simp
  | some baseFee => simp

section Rules

variable {alloy : Alloy} {rules : SharedRules} (documented : rules.AsDocumented alloy)
include documented

theorem validateHeader_eq_ok_iff {spec : KasplexChainSpec} {header : SealedHeader} :
    validateHeader rules spec header = .ok () ↔
      HeaderRules header.header ∧ header.header.gasUsed ≤ header.header.gasLimit := by
  simp only [validateHeader, ne_eq, check_eq_ok_iff]
  constructor
  · rintro ⟨hdifficulty, hnonce, hommers, h⟩
    obtain ⟨_, hextra, h⟩ := bind_eq_ok h
    obtain ⟨_, hgas, h⟩ := bind_eq_ok h
    obtain ⟨_, -, hfee⟩ := bind_eq_ok h
    obtain ⟨hused, hlimit⟩ := (documented.gas _).mp hgas
    exact ⟨⟨hdifficulty, hnonce, hommers, (documented.extraData _ _).mp hextra, hlimit,
      validateKasplexBaseFeeInHeader_eq_ok_iff.mp hfee⟩, hused⟩
  · rintro ⟨passed, hused⟩
    have hgas := (documented.gas header.header).mpr ⟨hused, passed.gasLimit⟩
    have hextra := (documented.extraData header.header 32).mpr passed.extraData
    have hshared := documented.baseFee header.header spec (by rw [passed.baseFee]; rfl)
    have hfee := validateKasplexBaseFeeInHeader_eq_ok_iff.mpr passed.baseFee
    refine ⟨passed.difficulty, passed.nonce, passed.ommers, ?_⟩
    simp only [hextra, hgas, hshared, hfee, bind, Except.bind]

theorem validateHeaderAgainstParent_eq_ok_iff {header parent : SealedHeader} :
    validateHeaderAgainstParent rules header parent = .ok () ↔
      ParentRules header.header parent ∧ parent.header.timestamp ≤ header.header.timestamp := by
  constructor
  · intro h
    obtain ⟨_, hlink, h⟩ := bind_eq_ok h
    obtain ⟨hhash, hnumber⟩ := (documented.parent _ _).mp hlink
    cases hfee : header.header.baseFeePerGas with
    | none => simp [hfee] at h
    | some fee =>
      simp only [hfee] at h
      by_cases hpast : header.header.timestamp < parent.header.timestamp
      · simp [hpast] at h
      · by_cases hfixed : fee = kasplexBaseFee
        · subst hfixed
          exact ⟨⟨hhash, hnumber, hfee⟩, BitVec.not_lt.mp hpast⟩
        · simp [hpast, hfixed] at h
  · rintro ⟨passed, htime⟩
    have hlink := (documented.parent header.header parent).mpr ⟨passed.parentHash, passed.number⟩
    simp only [validateHeaderAgainstParent, hlink, passed.baseFee, BitVec.not_lt.mpr htime,
      ne_eq, not_true_eq_false, if_false, bind, Except.bind]

/-- Behind a good link, the timestamp is looked at before the amount of the
base fee. -/
theorem validateHeaderAgainstParent_in_past_iff {header parent : SealedHeader}
    (link : header.header.parentHash = parent.hash ∧
      header.header.number = parent.header.number + 1)
    (hasFee : header.header.baseFeePerGas.isSome) :
    validateHeaderAgainstParent rules header parent =
        .error (.timestampIsInPast parent.header.timestamp header.header.timestamp) ↔
      header.header.timestamp < parent.header.timestamp := by
  have hlink := (documented.parent header.header parent).mpr link
  obtain ⟨fee, hfee⟩ := Option.isSome_iff_exists.mp hasFee
  simp only [validateHeaderAgainstParent, hlink, hfee, bind, Except.bind]
  by_cases hpast : header.header.timestamp < parent.header.timestamp
  · simp [hpast]
  · by_cases hfixed : fee = kasplexBaseFee <;> simp [hpast, hfixed]

end Rules

end Consensus
