import Kasplex.DigitText
import Kasplex.EvmConfig
import Kasplex.PayloadAttributes

/-!
# Chain specifications and their genesis headers

Two constructors make a chain specification, one from a genesis file and one
for chains that have none yet. Both are given a genesis hash, which may be the
zero placeholder. Whatever hash the genesis header is stored with is the parent
hash of the first block.
-/

namespace GenesisSpecs

open Primitives MachineArith ChainSpec EvmConfig

structure GenesisAccount where
  nonce : Option U64
  balance : U256
  code : Option Bytes
  storage : List (B256 × B256)
  deriving DecidableEq, Repr

/-- A genesis file; of its configuration the chain id. -/
structure Genesis where
  chainId : U64
  nonce : U64
  timestamp : U64
  extraData : Bytes
  gasLimit : U64
  difficulty : U256
  mixHash : B256
  coinbase : Address
  alloc : List (Address × GenesisAccount)
  baseFeePerGas : Option U128
  excessBlobGas : Option U64
  blobGasUsed : Option U64
  number : Option U64
  parentHash : Option B256
  deriving DecidableEq, Repr

abbrev ChainHardforks := List (EthereumHardfork × ForkCondition)

/-- The specification with its genesis block. -/
structure GenesisChainSpec extends KasplexChainSpec where
  sealedHeader : SealedHeader
  genesis : Genesis
  parisBlockAndFinalDifficulty : Option (U64 × U256)
  pruneDeleteLimit : Nat
  deriving DecidableEq, Repr

namespace GenesisChainSpec

def genesisHash (spec : GenesisChainSpec) : B256 := spec.sealedHeader.hash

def genesisHeader (spec : GenesisChainSpec) : Header := spec.sealedHeader.header

end GenesisChainSpec

/-- Library functions the constructors call. -/
structure Linked where
  alloy : Alloy
  makeGenesisHeader : Genesis → ChainHardforks → Header
  genesisFromJson : String → Except String Genesis

/-- The genesis of a chain without a file. -/
def minimalGenesis (chainId : U64) : Genesis where
  chainId := chainId
  nonce := 0
  timestamp := 0
  extraData := []
  gasLimit := 15000000
  difficulty := 0
  mixHash := 0
  coinbase := 0
  alloc := []
  baseFeePerGas := some 2000000000000
  excessBlobGas := none
  blobGasUsed := none
  number := some 0
  parentHash := none

/-- The given hash is stored as it is. -/
def makeKasplexChainSpecMinimal (linked : Linked) (chainId : U64) (genesisHash : B256)
    (hardforks : ChainHardforks) : GenesisChainSpec :=
  let genesis := minimalGenesis chainId
  { chainId := chainId
    hardforks := hardforks
    sealedHeader := ⟨linked.makeGenesisHeader genesis hardforks, genesisHash⟩
    genesis := genesis
    parisBlockAndFinalDifficulty := some (0, 0)
    pruneDeleteLimit := 10000 }

/-- A hash as it is printed for debugging. -/
def debugHash (hash : B256) : String :=
  String.ofList ('0' :: 'x' :: DigitText.hexDigits 64 hash.toNat)

def mismatchMessage (expected computed : B256) : String :=
  "Genesis hash mismatch: expected " ++ debugHash expected ++ ", computed " ++ debugHash computed

/-- The computed hash is stored, after it has been compared with a given one
that is not zero. There are no errors, only panics. -/
def makeKasplexChainSpec (linked : Linked) (genesisJson : String) (genesisHash : B256)
    (hardforks : ChainHardforks) : Except (Fault Empty) GenesisChainSpec := do
  let genesis ← (linked.genesisFromJson genesisJson).mapError fun e =>
    .panic ("Can't deserialize Kasplex genesis json: " ++ e)
  let genesisHeaderUnsealed := linked.makeGenesisHeader genesis hardforks
  let computedHash := linked.alloy.hashSlow genesisHeaderUnsealed
  let finalHash ←
    if genesisHash = 0 then pure computedHash
    else if computedHash ≠ genesisHash then
      .error (.panic (mismatchMessage genesisHash computedHash))
    else pure genesisHash
  pure {
    chainId := genesis.chainId
    hardforks := hardforks
    sealedHeader := ⟨genesisHeaderUnsealed, finalHash⟩
    genesis := genesis
    parisBlockAndFinalDifficulty := some (0, 0)
    pruneDeleteLimit := 10000 }

/-- The placeholder of all four networks. -/
def placeholderGenesisHash : B256 := 0

def makeKasplexMainnetChainSpec (linked : Linked) (genesisJson : String) :
    Except (Fault Empty) GenesisChainSpec :=
  makeKasplexChainSpec linked genesisJson placeholderGenesisHash kasplexHardforks

def makeKasplexInternalL2ChainSpec (linked : Linked) : GenesisChainSpec :=
  makeKasplexChainSpecMinimal linked kasplexInternalL2ChainId placeholderGenesisHash
    kasplexHardforks

def makeKasplexTestnetChainSpec (linked : Linked) : GenesisChainSpec :=
  makeKasplexChainSpecMinimal linked kasplexTestnetChainId placeholderGenesisHash kasplexHardforks

def makeKasplexDevnetChainSpec (linked : Linked) : GenesisChainSpec :=
  makeKasplexChainSpecMinimal linked kasplexDevnetChainId placeholderGenesisHash kasplexHardforks

/-- The genesis header is stored with its own hash; so it is told from every
other such header that it does not collide with, and the first block links to
it. -/
structure SealedWithOwnHash (alloy : Alloy) (spec : GenesisChainSpec) : Prop where
  own : spec.genesisHash = alloy.hashSlow spec.genesisHeader
  separated : ∀ other : GenesisChainSpec,
    other.genesisHash = alloy.hashSlow other.genesisHeader →
    (alloy.hashSlow other.genesisHeader = alloy.hashSlow spec.genesisHeader →
      other.genesisHeader = spec.genesisHeader) →
    other.genesisHeader ≠ spec.genesisHeader → other.genesisHash ≠ spec.genesisHash
  linked : ∀ config : KasplexEvmConfig,
    (config.contextForNextBlock spec.sealedHeader).parentHash = alloy.hashSlow spec.genesisHeader

theorem sealedWithOwnHash_iff {alloy : Alloy} {spec : GenesisChainSpec} :
    SealedWithOwnHash alloy spec ↔ spec.genesisHash = alloy.hashSlow spec.genesisHeader := by
  constructor
  · exact SealedWithOwnHash.own
  · intro own
    refine ⟨own, ?_, fun _ => own⟩
    intro other hother injective differ same
    apply differ
    apply injective
    rw [← hother, same, own]

/-- With a genesis file the hash is checked or computed: a panic on a mismatch,
or the own hash. -/
theorem makeKasplexChainSpec_cases {linked : Linked} {genesisJson : String} {genesis : Genesis}
    (parsed : linked.genesisFromJson genesisJson = .ok genesis) (genesisHash : B256)
    (hardforks : ChainHardforks) :
    (genesisHash ≠ 0 ∧
        genesisHash ≠ linked.alloy.hashSlow (linked.makeGenesisHeader genesis hardforks) ∧
        makeKasplexChainSpec linked genesisJson genesisHash hardforks =
          .error (.panic (mismatchMessage genesisHash
            (linked.alloy.hashSlow (linked.makeGenesisHeader genesis hardforks))))) ∨
      ∃ spec, makeKasplexChainSpec linked genesisJson genesisHash hardforks = .ok spec ∧
        SealedWithOwnHash linked.alloy spec := by
  simp only [makeKasplexChainSpec, parsed, Except.mapError, bind, Except.bind, pure, Except.pure]
  by_cases hzero : genesisHash = 0
  · refine Or.inr ⟨_, by rw [if_pos hzero], ?_⟩
    exact sealedWithOwnHash_iff.mpr rfl
  · by_cases hsame : linked.alloy.hashSlow (linked.makeGenesisHeader genesis hardforks) =
        genesisHash
    · refine Or.inr ⟨_, by rw [if_neg hzero, if_neg (not_not.mpr hsame)], ?_⟩
      exact sealedWithOwnHash_iff.mpr hsame.symm
    · refine Or.inl ⟨hzero, Ne.symm hsame, ?_⟩
      rw [if_neg hzero, if_pos hsame]

/-- Mainnet has a genesis file, so its placeholder gives way to the own hash. -/
theorem makeKasplexMainnetChainSpec_sealed {linked : Linked} {genesisJson : String}
    {genesis : Genesis} (parsed : linked.genesisFromJson genesisJson = .ok genesis) :
    ∃ spec, makeKasplexMainnetChainSpec linked genesisJson = .ok spec ∧
      SealedWithOwnHash linked.alloy spec := by
  rcases makeKasplexChainSpec_cases parsed placeholderGenesisHash kasplexHardforks with
    ⟨hzero, -, -⟩ | hok
  · exact absurd rfl hzero
  · exact hok

/-- The networks without a file keep the placeholder. -/
theorem minimal_networks_sealed_iff (linked : Linked) :
    ∀ spec ∈ [makeKasplexInternalL2ChainSpec linked, makeKasplexTestnetChainSpec linked,
        makeKasplexDevnetChainSpec linked],
      SealedWithOwnHash linked.alloy spec ↔
        linked.alloy.hashSlow spec.genesisHeader = placeholderGenesisHash := by
  intro spec hspec
  have hplaceholder : spec.genesisHash = placeholderGenesisHash := by
    simp only [List.mem_cons, List.not_mem_nil, or_false] at hspec
    rcases hspec with rfl | rfl | rfl <;> rfl
  rw [sealedWithOwnHash_iff, hplaceholder]
  exact eq_comm

/-- Both constructors panic on a mismatch or store the own hash. -/
structure ConstructorsSeal (linked : Linked) (genesisJson : String) (genesis : Genesis)
    (chainId : U64) (genesisHash : B256) (hardforks : ChainHardforks) : Prop where
  full : (genesisHash ≠ linked.alloy.hashSlow (linked.makeGenesisHeader genesis hardforks) ∧
      ∃ message, makeKasplexChainSpec linked genesisJson genesisHash hardforks =
        .error (.panic message)) ∨
    ∃ spec, makeKasplexChainSpec linked genesisJson genesisHash hardforks = .ok spec ∧
      SealedWithOwnHash linked.alloy spec
  minimal : SealedWithOwnHash linked.alloy
    (makeKasplexChainSpecMinimal linked chainId genesisHash hardforks)

/-- The constructors store the own hash of the header exactly if the given hash
is the one of the minimal header: the second constructor never looks at it. -/
theorem constructors_seal_iff (linked : Linked) (genesisJson : String) (genesis : Genesis)
    (parsed : linked.genesisFromJson genesisJson = .ok genesis) (chainId : U64)
    (genesisHash : B256) (hardforks : ChainHardforks) :
    ConstructorsSeal linked genesisJson genesis chainId genesisHash hardforks ↔
      genesisHash =
        linked.alloy.hashSlow (linked.makeGenesisHeader (minimalGenesis chainId) hardforks) := by
  constructor
  · intro both
    exact both.minimal.own
  · intro own
    refine ⟨?_, sealedWithOwnHash_iff.mpr own⟩
    rcases makeKasplexChainSpec_cases parsed genesisHash hardforks with
      ⟨-, hdiffer, hpanic⟩ | hok
    · exact Or.inl ⟨hdiffer, _, hpanic⟩
    · exact Or.inr hok

section Samples

/-- The header of a genesis without accounts, where London and Shanghai are
active from the start. -/
def headerWithoutAlloc (genesis : Genesis) (_hardforks : ChainHardforks) : Header where
  parentHash := genesis.parentHash.getD 0
  ommersHash := emptyOmmerRootHash
  beneficiary := genesis.coinbase
  stateRoot := emptyWithdrawals
  transactionsRoot := emptyWithdrawals
  receiptsRoot := emptyWithdrawals
  logsBloom := 0
  difficulty := genesis.difficulty
  number := genesis.number.getD 0
  gasLimit := genesis.gasLimit
  gasUsed := 0
  timestamp := genesis.timestamp
  extraData := genesis.extraData
  mixHash := genesis.mixHash
  nonce := genesis.nonce
  baseFeePerGas := some ((genesis.baseFeePerGas.map (BitVec.setWidth 64)).getD 1000000000)
  withdrawalsRoot := some emptyWithdrawals
  blobGasUsed := none
  excessBlobGas := none
  parentBeaconBlockRoot := none
  requestsHash := none

/-- Keccak of the encoded header of a chain without a genesis file. -/
def minimalHeaderHash : B256 :=
  0x66772d0649fc0e4f848573a017e3bac18f6d9410a6acc9dc696c64323613676d#256

/-- The linked functions on the minimal genesis; the file read is one that
holds the same. -/
def sampleLinked : Linked where
  alloy :=
    { PayloadAttributes.sampleAlloy with
      hashSlow := fun header =>
        if header = headerWithoutAlloc (minimalGenesis kasplexDevnetChainId) kasplexHardforks then
          minimalHeaderHash
        else 0 }
  makeGenesisHeader := headerWithoutAlloc
  genesisFromJson := fun _ => .ok (minimalGenesis kasplexDevnetChainId)

/-- The two constructors given the hash of the devnet header. -/
theorem constructors_seal_iff_devnet :
    ConstructorsSeal sampleLinked "" (minimalGenesis kasplexDevnetChainId) kasplexDevnetChainId
      minimalHeaderHash kasplexHardforks :=
  (constructors_seal_iff sampleLinked "" _ rfl kasplexDevnetChainId minimalHeaderHash
    kasplexHardforks).mpr (by decide +kernel)

/-- On devnet the first block links to zero, which is not the hash of the
genesis header. -/
theorem devnet_links_to_placeholder :
    (makeKasplexDevnetChainSpec sampleLinked).genesisHash = 0 ∧
      sampleLinked.alloy.hashSlow (makeKasplexDevnetChainSpec sampleLinked).genesisHeader =
        minimalHeaderHash ∧
      (∀ config : KasplexEvmConfig, (config.contextForNextBlock
        (makeKasplexDevnetChainSpec sampleLinked).sealedHeader).parentHash = 0) ∧
      ¬ SealedWithOwnHash sampleLinked.alloy (makeKasplexDevnetChainSpec sampleLinked) := by
  have hreal : sampleLinked.alloy.hashSlow
      (makeKasplexDevnetChainSpec sampleLinked).genesisHeader = minimalHeaderHash := by
    decide +kernel
  refine ⟨rfl, hreal, fun _ => rfl, ?_⟩
  intro stored
  have hown := stored.own.trans hreal
  revert hown
  decide

end Samples

end GenesisSpecs
