import Kasplex.Primitives

/-!
# Chain ids and hardforks

The chain specification as far as execution, the pool and the builder read it:
the chain id, and the activation conditions of the hardforks.
-/

namespace ChainSpec

open Primitives

def kasplexMainnetChainId : U64 := 202555
def kasplexInternalL2ChainId : U64 := 168001
def kasplexTestnetChainId : U64 := 168002
def kasplexDevnetChainId : U64 := 167012

inductive EthereumHardfork where
  | frontier | homestead | tangerine | spuriousDragon | byzantium | constantinople
  | petersburg | istanbul | berlin | london | paris | shanghai | cancun | prague
  deriving DecidableEq, Repr

inductive ForkCondition where
  | block (number : U64)
  | ttd (activationBlockNumber : U64) (forkBlock : Option U64) (totalDifficulty : U256)
  | timestamp (time : U64)
  | never
  deriving DecidableEq, Repr

def ForkCondition.activeAtBlock : ForkCondition → U64 → Bool
  | .block n, current => n ≤ current
  | .ttd n _ _, current => n ≤ current
  | .timestamp _, _ => false
  | .never, _ => false

/-- All hardforks up to Shanghai, active from genesis. -/
def kasplexHardforks : List (EthereumHardfork × ForkCondition) :=
  [(.frontier, .block 0), (.homestead, .block 0), (.tangerine, .block 0),
    (.spuriousDragon, .block 0), (.byzantium, .block 0), (.constantinople, .block 0),
    (.petersburg, .block 0), (.istanbul, .block 0), (.berlin, .block 0), (.london, .block 0),
    (.paris, .ttd 0 (some 0) 0), (.shanghai, .timestamp 0)]

structure KasplexChainSpec where
  chainId : U64
  hardforks : List (EthereumHardfork × ForkCondition)
  deriving DecidableEq, Repr

namespace KasplexChainSpec

/-- A fork that is not listed is never active. -/
def fork (spec : KasplexChainSpec) (f : EthereumHardfork) : ForkCondition :=
  (spec.hardforks.lookup f).getD .never

def isSpuriousDragonActiveAtBlock (spec : KasplexChainSpec) (number : U64) : Bool :=
  (spec.fork .spuriousDragon).activeAtBlock number

def isKasplex (spec : KasplexChainSpec) : Bool :=
  spec.chainId = kasplexMainnetChainId || spec.chainId = kasplexInternalL2ChainId ||
    spec.chainId = kasplexTestnetChainId || spec.chainId = kasplexDevnetChainId

end KasplexChainSpec

def kasplexMainnet : KasplexChainSpec := ⟨kasplexMainnetChainId, kasplexHardforks⟩

end ChainSpec
