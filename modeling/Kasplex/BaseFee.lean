import Kasplex.OwnBlocks

/-!
# The base fee of derived environments

Without an override the environment of the next block gets its base fee from the
chain specification, which leaves the recurrence of EIP-1559 in place, while the
consensus rules accept one amount only.
-/

namespace BaseFee

open Primitives MachineArith ChainSpec FeeHandler EvmConfig PayloadAttributes PayloadBuilder
  Consensus OwnBlocks

structure BaseFeeParams where
  maxChangeDenominator : Nat
  elasticityMultiplier : Nat
  deriving DecidableEq, Repr

/-- The default of the library, which every constructor of a chain specification
keeps. -/
def BaseFeeParams.ethereum : BaseFeeParams := ⟨8, 2⟩

/-- The recurrence of EIP-1559, `none` where it divides by zero. The products
are taken in 128 bits, which they fit. -/
def calcNextBlockBaseFee (gasUsed gasLimit baseFee : U64) (params : BaseFeeParams) :
    Option U64 :=
  let gasTarget := gasLimit.toNat / params.elasticityMultiplier
  let divisor := gasTarget * params.maxChangeDenominator
  if params.elasticityMultiplier = 0 then none
  else if gasUsed.toNat = gasTarget then some baseFee
  else if divisor = 0 then none
  else if gasTarget < gasUsed.toNat then
    let baseFeeDelta := max 1 (baseFee.toNat * (gasUsed.toNat - gasTarget) / divisor)
    some (baseFee + BitVec.ofNat 64 baseFeeDelta)
  else
    let baseFeeDelta := baseFee.toNat * (gasTarget - gasUsed.toNat) / divisor
    some (saturatingSub baseFee (BitVec.ofNat 64 baseFeeDelta))

/-- The default of the chain specification trait. -/
def nextBlockBaseFee (baseFeeParamsAtTimestamp : U64 → BaseFeeParams) (parent : Header)
    (targetTimestamp : U64) : Option U64 := do
  let baseFee ← parent.baseFeePerGas
  calcNextBlockBaseFee parent.gasUsed parent.gasLimit baseFee
    (baseFeeParamsAtTimestamp targetTimestamp)

/-- Half the gas limit was used, or so nearly half of it that the change rounds
to nothing. -/
def OnTarget (gasUsed gasLimit baseFee : U64) : Prop :=
  gasUsed.toNat = gasLimit.toNat / 2 ∨
    (gasUsed.toNat < gasLimit.toNat / 2 ∧
      baseFee.toNat * (gasLimit.toNat / 2 - gasUsed.toNat) < gasLimit.toNat / 2 * 8)

section Recurrence

variable {gasUsed gasLimit baseFee : U64}

theorem calcNextBlockBaseFee_ethereum :
    calcNextBlockBaseFee gasUsed gasLimit baseFee .ethereum =
      if gasUsed.toNat = gasLimit.toNat / 2 then some baseFee
      else if gasLimit.toNat / 2 * 8 = 0 then none
      else if gasLimit.toNat / 2 < gasUsed.toNat then
        some (baseFee + BitVec.ofNat 64 (max 1
          (baseFee.toNat * (gasUsed.toNat - gasLimit.toNat / 2) / (gasLimit.toNat / 2 * 8))))
      else some (saturatingSub baseFee (BitVec.ofNat 64
        (baseFee.toNat * (gasLimit.toNat / 2 - gasUsed.toNat) / (gasLimit.toNat / 2 * 8)))) :=
  rfl

/-- Above the target the fee rises by at least one and at most a quarter. -/
theorem calcNextBlockBaseFee_of_above (within : gasUsed.toNat ≤ gasLimit.toNat)
    (above : gasLimit.toNat / 2 < gasUsed.toNat) :
    calcNextBlockBaseFee gasUsed gasLimit baseFee .ethereum ≠ some baseFee := by
  intro h
  rw [calcNextBlockBaseFee_ethereum, if_neg (by omega)] at h
  split at h
  · cases h
  · rename_i hdivisor
    rw [Option.some.injEq, BitVec.add_right_eq_self] at h
    have hzero := congrArg BitVec.toNat h
    have hquarter : baseFee.toNat * (gasUsed.toNat - gasLimit.toNat / 2) /
        (gasLimit.toNat / 2 * 8) ≤ baseFee.toNat := by
      apply Nat.div_le_of_le_mul
      rw [Nat.mul_comm _ baseFee.toNat]
      exact Nat.mul_le_mul_left _ (by omega)
    have hfee := baseFee.isLt
    rw [BitVec.toNat_ofNat, Nat.mod_eq_of_lt (by omega)] at hzero
    change _ = 0 at hzero
    omega

/-- Below it the fee falls by an eighth at most, and stays if the fall rounds to
nothing. -/
theorem calcNextBlockBaseFee_of_below (positive : 0 < baseFee.toNat)
    (below : gasUsed.toNat < gasLimit.toNat / 2) :
    calcNextBlockBaseFee gasUsed gasLimit baseFee .ethereum = some baseFee ↔
      baseFee.toNat * (gasLimit.toNat / 2 - gasUsed.toNat) < gasLimit.toNat / 2 * 8 := by
  have hdivisor : 0 < gasLimit.toNat / 2 * 8 := by omega
  have heighth : baseFee.toNat * (gasLimit.toNat / 2 - gasUsed.toNat) /
      (gasLimit.toNat / 2 * 8) ≤ baseFee.toNat := by
    apply Nat.div_le_of_le_mul
    rw [Nat.mul_comm _ baseFee.toNat]
    exact Nat.mul_le_mul_left _ (by omega)
  have hfee := baseFee.isLt
  rw [calcNextBlockBaseFee_ethereum, if_neg (by omega), if_neg (by omega), if_neg (by omega),
    Option.some.injEq, ← BitVec.toNat_inj, toNat_saturatingSub, BitVec.toNat_ofNat,
    Nat.mod_eq_of_lt (by omega), ← Nat.div_eq_zero_iff_lt hdivisor]
  omega

theorem calcNextBlockBaseFee_eq_self_iff (positive : 0 < baseFee.toNat)
    (within : gasUsed.toNat ≤ gasLimit.toNat) :
    calcNextBlockBaseFee gasUsed gasLimit baseFee .ethereum = some baseFee ↔
      OnTarget gasUsed gasLimit baseFee := by
  unfold OnTarget
  rcases Nat.lt_trichotomy gasUsed.toNat (gasLimit.toNat / 2) with below | equal | above
  · rw [calcNextBlockBaseFee_of_below positive below]
    constructor
    · exact fun h => Or.inr ⟨below, h⟩
    · rintro (equal | ⟨-, h⟩)
      · omega
      · exact h
  · refine iff_of_true ?_ (Or.inl equal)
    rw [calcNextBlockBaseFee_ethereum, if_pos equal]
  · refine iff_of_false (calcNextBlockBaseFee_of_above within above) ?_
    rintro (equal | ⟨below, -⟩)
    · omega
    · omega

end Recurrence

/-- On a valid parent and without an override, the derived environment has the
fixed base fee exactly when the parent was on target; a child with any other fee
is refused. -/
theorem derived_base_fee_fixed_iff (alloy : Alloy) (rules : SharedRules)
    (documented : rules.AsDocumented alloy) (eth : EthEvmConfig) (config : KasplexEvmConfig)
    (baseFeeParamsAtTimestamp : U64 → BaseFeeParams)
    (defaults : ∀ timestamp, baseFeeParamsAtTimestamp timestamp = .ethereum)
    (takesNextFee : ∀ parent attributes fee,
      nextBlockBaseFee baseFeeParamsAtTimestamp parent attributes.timestamp = some fee →
        (eth.nextEvmEnv config.chainSpec parent attributes).blockEnv.basefee = fee)
    (parent : SealedHeader) (valid : validateHeader rules config.chainSpec parent = .ok ())
    (attributes : NextBlockEnvAttributes) (unset : config.currentBaseFeePerGas = none) :
    ((∃ fee, nextBlockBaseFee baseFeeParamsAtTimestamp parent.header attributes.timestamp =
          some fee ∧
        (config.nextEvmEnv eth parent.header attributes).blockEnv.basefee = kasplexBaseFee) ↔
      OnTarget parent.header.gasUsed parent.header.gasLimit kasplexBaseFee) ∧
    (∀ child, validateHeaderAgainstParent rules child parent = .ok () →
      child.header.baseFeePerGas = some kasplexBaseFee) := by
  obtain ⟨hrules, hused⟩ := (validateHeader_eq_ok_iff documented).mp valid
  have hnext : nextBlockBaseFee baseFeeParamsAtTimestamp parent.header attributes.timestamp =
      calcNextBlockBaseFee parent.header.gasUsed parent.header.gasLimit kasplexBaseFee
        .ethereum := by
    simp only [nextBlockBaseFee, hrules.baseFee, defaults]
    rfl
  have hexact : calcNextBlockBaseFee parent.header.gasUsed parent.header.gasLimit kasplexBaseFee
      .ethereum = some kasplexBaseFee ↔
        OnTarget parent.header.gasUsed parent.header.gasLimit kasplexBaseFee :=
    calcNextBlockBaseFee_eq_self_iff (by decide) (BitVec.le_def.mp hused)
  refine ⟨?_, ?_⟩
  · rw [← hexact, ← hnext, nextEvmEnv_basefee, unset, Option.getD_none]
    constructor
    · rintro ⟨fee, hfee, henv⟩
      rw [takesNextFee _ _ _ hfee] at henv
      rw [hfee, henv]
    · intro hfee
      exact ⟨kasplexBaseFee, hfee, takesNextFee _ _ _ hfee⟩
  · intro child passed
    exact ((validateHeaderAgainstParent_eq_ok_iff documented).mp passed).1.baseFee

/-- The sample environments with the fee of the recurrence. Where it divides by zero
the derivation panics; an environment is always answered here, with fee zero for
such parents, and no sample is one. -/
def formulaEth : EthEvmConfig :=
  { sampleEth with
    nextEvmEnv := fun spec parent attributes =>
      let evmEnv := sampleEth.nextEvmEnv spec parent attributes
      let fee := nextBlockBaseFee (fun _ => .ethereum) parent attributes.timestamp
      { evmEnv with blockEnv := { evmEnv.blockEnv with basefee := fee.getD 0 } } }

theorem formulaEth_takes_next_fee (spec : KasplexChainSpec) (parent : Header)
    (attributes : NextBlockEnvAttributes) (fee : U64)
    (h : nextBlockBaseFee (fun _ => .ethereum) parent attributes.timestamp = some fee) :
    (formulaEth.nextEvmEnv spec parent attributes).blockEnv.basefee = fee := by
  change (nextBlockBaseFee (fun _ => .ethereum) parent attributes.timestamp).getD 0 = fee
  rw [h]
  rfl

/-- The sample parent with half of its gas used. -/
def halfFullParent : SealedHeader where
  header := { sampleParent.header with gasUsed := 15000000 }
  hash := 0xfab04ab6b51df4b5febf4d40905afd629c43eacbdb17af80c44ddfb66add26d9#256

/-- On a parent that used half of its gas the fee stays. -/
theorem derived_base_fee_fixed_iff_half_full :
    (sampleConfig.nextEvmEnv formulaEth halfFullParent.header
      (nextBlockEnvAttributes (transferJob 30000000))).blockEnv.basefee = kasplexBaseFee := by
  have valid : validateHeader (sampleRules sampleAlloy) kasplexMainnet halfFullParent = .ok () :=
    rfl
  obtain ⟨-, -, hfee⟩ := (derived_base_fee_fixed_iff sampleAlloy (sampleRules sampleAlloy)
    (sampleRules_asDocumented sampleAlloy) formulaEth sampleConfig (fun _ => .ethereum)
    (fun _ => rfl) (formulaEth_takes_next_fee _) halfFullParent valid
    (nextBlockEnvAttributes (transferJob 30000000)) rfl).1.mpr (Or.inl (by decide))
  exact hfee

/-- On the empty sample parent, a valid one, it falls by an eighth. -/
theorem derived_base_fee_falls :
    (validateHeader (sampleRules sampleAlloy) kasplexMainnet sampleParent).isOk = true ∧
      sampleConfig.currentBaseFeePerGas = none ∧
      (sampleConfig.nextEvmEnv formulaEth sampleParent.header
        (nextBlockEnvAttributes (transferJob 30000000))).blockEnv.basefee = 1750000000000 ∧
      (1750000000000 : U64) ≠ kasplexBaseFee := by
  refine ⟨by decide +kernel, rfl, by decide +kernel, by decide⟩

end BaseFee
