import AidnSpec.Consensus.SelectionLaw
import AidnSpec.Consensus.ProtocolAuthority
import AidnSpec.Ledger.PoolBudgets
import AidnSpec.Consensus.ValidatorMirror
import AidnSpec.Consensus.StateSync
import AidnSpec.Ledger.WalletSequences
import AidnSpec.Ledger.CheckpointChains
import AidnSpec.Consensus.ExecutedOnce
import AidnSpec.Ledger.ClaimWindows
import AidnSpec.Consensus.AbciWire
import AidnSpec.Consensus.LightClient
import AidnSpec.Node.RuntimePortLeases
import AidnSpec.Node.SessionRecovery
import AidnSpec.Node.ResourceRuns
import AidnSpec.Consensus.Proposals
import AidnSpec.Settlement.Conservation
import AidnSpec.Registry.InclusionProofs
import AidnSpec.Snapshot.ProducedApplied
import AidnSpec.Dispatcher.RelayLimits
import AidnSpec.EpochReward.RecycledBudgets
import AidnSpec.Registry.ObjectStoreRuns
import AidnSpec.Faucet.PoolAccrual
import AidnSpec.Registry.NonResponse
import AidnSpec.RuntimeProtocol.Draining
import AidnSpec.Bonds.Conservation
import AidnSpec.Allocations.HeldDisputes
import AidnSpec.Reward.CancellationChains
import AidnSpec.Dispatcher.DispatchOrder
import AidnSpec.Snapshot.BlockReplay
import AidnSpec.Pricing.RateCharges
import AidnSpec.Settlement.RequestLaw
