import Kasplex.MachineArith
import Kasplex.Ledger
import Kasplex.Runs
import Kasplex.Rlp
import Kasplex.Primitives
import Kasplex.ChainSpec
import Kasplex.SubmissionNumbers
import Kasplex.EvmState
import Kasplex.FeeHandler
import Kasplex.BlockExecutor
import Kasplex.EvmConfig
import Kasplex.PayloadAttributes
import Kasplex.PayloadBuilder
import Kasplex.EngineTypes
import Kasplex.BuiltBlocks
import Kasplex.ConcurrentBuilds
import Kasplex.EngineValidator
import Kasplex.TxPool
import Kasplex.AuthApi
import Kasplex.EngineApi
import Kasplex.NodeRuns
import Kasplex.Consensus
import Kasplex.OwnBlocks
import Kasplex.BaseFee
import Kasplex.UnfundedCallers
import Kasplex.BuilderNumbers
import Kasplex.PoolCleanups
import Kasplex.Expiry
import Kasplex.Admission
import Kasplex.Codecs
import Kasplex.TxList
import Kasplex.GreedyPrefix
import Kasplex.TxPoolContent
import Kasplex.DigitText
import Kasplex.Treasury
import Kasplex.SystemCalls
import Kasplex.GenesisSpecs
import Kasplex.Panics
import Kasplex.EngineInputs
import Kasplex.Paths
import Kasplex.LedgerRuns
import Kasplex.NonceOrder
import Kasplex.Supply
import Kasplex.SelectedBlocks
import Kasplex.Rebuilds
import Kasplex.HashLinks
import Kasplex.HeaderChains
import Kasplex.PostExecution
import Kasplex.ConcurrentNumbers
import Kasplex.FollowedChains
import Kasplex.RelayedChains
import Kasplex.CanonicalChains
import Kasplex.MappingStore
import Kasplex.MinTipContent
import Kasplex.CancelledBuilds
