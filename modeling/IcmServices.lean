import IcmServices.Lib.Solidity
import IcmServices.Lib.Finsum
import IcmServices.Lib.Exec
import IcmServices.Teleporter.Types
import IcmServices.Teleporter.Messenger
import IcmServices.Teleporter.Fees
import IcmServices.Teleporter.Delivery
import IcmServices.Teleporter.Receipts
import IcmServices.Teleporter.Network
import IcmServices.Lib.Bytes
import IcmServices.ValidatorManager.Messages
import IcmServices.ValidatorManager.Manager
import IcmServices.ValidatorManager.Step
import IcmServices.ValidatorManager.Invariants
import IcmServices.ValidatorManager.Conversion
import IcmServices.Ictt.Scaling
import IcmServices.Ictt.TokenHome
import IcmServices.Ictt.HomeSolvency
import IcmServices.StakingManager.Manager
import IcmServices.StakingManager.Step
import IcmServices.StakingManager.Transition
import IcmServices.StakingManager.Delegation
import IcmServices.Ictt.Collateral
import IcmServices.Ethereum.ValidatorSets
import IcmServices.Teleporter.Registry
import IcmServices.Lib.ERC20
import IcmServices.Utilities.BatchCrossChainMessenger
import IcmServices.Lib.Periods
import IcmServices.ValidatorManager.Churn
import IcmServices.Ethereum.Registry
import IcmServices.Peers.ExternalHandler
import IcmServices.SignatureAggregator.Aggregator
import IcmServices.StakingManager.Stake
import IcmServices.Ethereum.ValidatorSetCodec
import IcmServices.Ictt.RemoteStep
import IcmServices.Ictt.RemoteMint
import IcmServices.Ictt.HomeCredit
import IcmServices.Ictt.Network
import IcmServices.ValidatorManager.Codec
import IcmServices.Lib.Merkle
import IcmServices.Teleporter.MessageV2
import IcmServices.Utilities.SimpleSerialize
import IcmServices.Relayer.Checkpoint
import IcmServices.Vms.Signer
import IcmServices.Cache.FifoCache
import IcmServices.Peers.ConnectedWeight
import IcmServices.Relayer.Config
import IcmServices.Relayer.Coordinator
import IcmServices.Relayer.Restart
import IcmServices.Messages.TeleporterHandler
import IcmServices.Governance.ValidatorSetSig
import IcmServices.Relayer.Subscriber
import IcmServices.Peers.TrackedSubnets
import IcmServices.Teleporter.RegistryApp
import IcmServices.Messages.OffChainRegistry
import IcmServices.Peers.ValidatorManager
