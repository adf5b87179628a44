import IcmServices.Lib.Solidity

/-!
# The token transferrers' data

The inputs and messages of `ITokenTransferrer.sol`. A `TransferrerMessage` is the pair of a
`TransferrerMessageType` and an ABI-encoded payload; here the payload arrives decoded, one
constructor per message type, so that a payload of the wrong shape is not a message at all.
Amounts are natural numbers (`uint256`), addresses and blockchain IDs keep their width.
-/

namespace Ictt

open Solidity

/-- `SendTokensInput`. -/
structure SendTokensInput where
  destinationBlockchainID : Bytes32
  destinationTokenTransferrerAddress : Address
  recipient : Address
  primaryFeeTokenAddress : Address
  primaryFee : ℕ
  secondaryFee : ℕ
  requiredGasLimit : ℕ
  multiHopFallback : Address
  deriving DecidableEq, Repr

/-- `SendAndCallInput`. -/
structure SendAndCallInput where
  destinationBlockchainID : Bytes32
  destinationTokenTransferrerAddress : Address
  recipientContract : Address
  recipientPayload : Bytes
  requiredGasLimit : ℕ
  recipientGasLimit : ℕ
  multiHopFallback : Address
  fallbackRecipient : Address
  primaryFeeTokenAddress : Address
  primaryFee : ℕ
  secondaryFee : ℕ
  deriving DecidableEq, Repr

/-- `RegisterRemoteMessage`. -/
structure RegisterRemoteMessage where
  initialReserveImbalance : ℕ
  homeTokenDecimals : ℕ
  remoteTokenDecimals : ℕ
  deriving DecidableEq, Repr

/-- `SingleHopSendMessage`. -/
structure SingleHopSendMessage where
  recipient : Address
  amount : ℕ
  deriving DecidableEq, Repr

/-- `SingleHopCallMessage`. -/
structure SingleHopCallMessage where
  sourceBlockchainID : Bytes32
  originTokenTransferrerAddress : Address
  originSenderAddress : Address
  recipientContract : Address
  amount : ℕ
  recipientPayload : Bytes
  recipientGasLimit : ℕ
  fallbackRecipient : Address
  deriving DecidableEq, Repr

/-- `MultiHopSendMessage`. -/
structure MultiHopSendMessage where
  destinationBlockchainID : Bytes32
  destinationTokenTransferrerAddress : Address
  recipient : Address
  amount : ℕ
  secondaryFee : ℕ
  secondaryGasLimit : ℕ
  multiHopFallback : Address
  deriving DecidableEq, Repr

/-- `MultiHopCallMessage`. -/
structure MultiHopCallMessage where
  originSenderAddress : Address
  destinationBlockchainID : Bytes32
  destinationTokenTransferrerAddress : Address
  recipientContract : Address
  amount : ℕ
  recipientPayload : Bytes
  recipientGasLimit : ℕ
  fallbackRecipient : Address
  secondaryRequiredGasLimit : ℕ
  multiHopFallback : Address
  secondaryFee : ℕ
  deriving DecidableEq, Repr

/-- `TransferrerMessage`, decoded: one constructor per `TransferrerMessageType`. -/
inductive TransferrerMessage
  | registerRemote (payload : RegisterRemoteMessage)
  | singleHopSend (payload : SingleHopSendMessage)
  | singleHopCall (payload : SingleHopCallMessage)
  | multiHopSend (payload : MultiHopSendMessage)
  | multiHopCall (payload : MultiHopCallMessage)
  deriving DecidableEq, Repr

/-- The amount a message carries, in the scale of the chain it leaves: what its sender burned or
locked for it. A registration carries none. -/
def TransferrerMessage.amount : TransferrerMessage → ℕ
  | .registerRemote _ => 0
  | .singleHopSend payload => payload.amount
  | .singleHopCall payload => payload.amount
  | .multiHopSend payload => payload.amount
  | .multiHopCall payload => payload.amount

end Ictt
