import IcmServices.Lib.Solidity
import Mathlib.Logic.Function.Basic

/-!
# Teleporter: messages, receipts and the receipt queue

The data of `ITeleporterMessenger.sol` and the `ReceiptQueue` library. `bytes32` values are only
compared and hashed by the messenger, so their type is a parameter `B` with a zero
(`bytes32(0)`); addresses are 20-byte values and `uint256` counters are natural numbers whose
arithmetic goes through `Solidity.checkedAdd 256`.

The queue is the storage layout of `ReceiptQueue.TeleporterMessageReceiptQueue`: indices
`first` and `last` and a `data` mapping, with `dequeue` deleting the slot it reads.
-/

namespace Teleporter

open Solidity Function

/-- `TeleporterMessageReceipt`: the nonce of a received message and who delivered it. -/
structure TeleporterMessageReceipt where
  receivedMessageNonce : ℕ
  relayerRewardAddress : Address
  deriving DecidableEq, Repr

instance : Inhabited TeleporterMessageReceipt := ⟨⟨0, 0⟩⟩

/-- `TeleporterFeeInfo`. -/
structure TeleporterFeeInfo where
  feeTokenAddress : Address
  amount : ℕ
  deriving DecidableEq, Repr

/-- `TeleporterMessage`, the payload of every warp message the messenger sends. -/
structure TeleporterMessage (B : Type) where
  messageNonce : ℕ
  originSenderAddress : Address
  destinationBlockchainID : B
  destinationAddress : Address
  requiredGasLimit : ℕ
  allowedRelayerAddresses : List Address
  receipts : List TeleporterMessageReceipt
  message : List UInt8
  deriving DecidableEq

/-- `TeleporterMessageInput`, the argument of `sendCrossChainMessage`. -/
structure TeleporterMessageInput (B : Type) where
  destinationBlockchainID : B
  destinationAddress : Address
  feeInfo : TeleporterFeeInfo
  requiredGasLimit : ℕ
  allowedRelayerAddresses : List Address
  message : List UInt8

/-- `SentMessageInfo`: the hash and the fee of a message sent and not yet acknowledged. -/
structure SentMessageInfo (B : Type) where
  messageHash : B
  feeInfo : TeleporterFeeInfo

instance {B : Type} [Zero B] : Inhabited (SentMessageInfo B) := ⟨⟨0, ⟨0, 0⟩⟩⟩

/-- A verified warp message, as `getVerifiedWarpMessage` returns it. The messenger only decodes
the payload of a message whose origin sender is its own address, that is, one some messenger
built with `abi.encode`; `abi.decode` inverts that encoding, so the payload is kept decoded. -/
structure WarpMessage (B : Type) where
  sourceChainID : B
  originSenderAddress : Address
  payload : TeleporterMessage B

/-- The two kinds of data the messenger hashes with `keccak256`: the tuple
`abi.encode(address(this), sourceBlockchainID, destinationBlockchainID, nonce)` of a message ID,
and `abi.encode(message)`. -/
inductive Preimage (B : Type)
  | messageID (self : Address) (sourceBlockchainID destinationBlockchainID : B) (nonce : ℕ)
  | message (m : TeleporterMessage B)

/-! ## The receipt queue -/

/-- `ReceiptQueue.TeleporterMessageReceiptQueue`. -/
structure TeleporterMessageReceiptQueue where
  first : ℕ
  last : ℕ
  data : ℕ → TeleporterMessageReceipt

namespace ReceiptQueue

/-- `_MAXIMUM_RECEIPT_COUNT`: at most this many receipts ride on one message. -/
def maximumReceiptCount : ℕ := 5

/-- A queue in fresh storage. -/
def empty : TeleporterMessageReceiptQueue := ⟨0, 0, fun _ => default⟩

/-- `enqueue`: `queue.data[queue.last++] = receipt`. -/
def enqueue (queue : TeleporterMessageReceiptQueue) (receipt : TeleporterMessageReceipt) :
    Except String TeleporterMessageReceiptQueue := do
  let last ← checkedAdd 256 queue.last 1
  pure { queue with data := update queue.data queue.last receipt, last := last }

/-- `dequeue`: read and delete the slot at `first`. -/
def dequeue (queue : TeleporterMessageReceiptQueue) :
    Except String (TeleporterMessageReceipt × TeleporterMessageReceiptQueue) := do
  let first_ := queue.first
  require (queue.last ≠ first_) "ReceiptQueue: empty queue"
  let receipt := queue.data first_
  let first ← checkedAdd 256 first_ 1
  pure (receipt, { queue with data := update queue.data first_ default, first := first })

/-- `size`: `queue.last - queue.first`, a checked subtraction. -/
def size (queue : TeleporterMessageReceiptQueue) : Except String ℕ :=
  checkedSub queue.last queue.first

/-- The loop of `getOutstandingReceiptsToSend`: `n` calls of `dequeue`. -/
def dequeueLoop :
    ℕ → TeleporterMessageReceiptQueue →
      Except String (List TeleporterMessageReceipt × TeleporterMessageReceiptQueue)
  | 0, queue => pure ([], queue)
  | n + 1, queue => do
    let (receipt, queue₁) ← dequeue queue
    let (receipts, queue₂) ← dequeueLoop n queue₁
    pure (receipt :: receipts, queue₂)

/-- `getOutstandingReceiptsToSend`: the oldest receipts, at most `maximumReceiptCount`. -/
def getOutstandingReceiptsToSend (queue : TeleporterMessageReceiptQueue) :
    Except String (List TeleporterMessageReceipt × TeleporterMessageReceiptQueue) := do
  let resultSize := min maximumReceiptCount (← size queue)
  if resultSize = 0 then pure ([], queue) else dequeueLoop resultSize queue

/-- `getReceiptAtIndex`. -/
def getReceiptAtIndex (queue : TeleporterMessageReceiptQueue) (index : ℕ) :
    Except String TeleporterMessageReceipt := do
  require (index < (← size queue)) "ReceiptQueue: index out of bounds"
  pure (queue.data (queue.first + index))

end ReceiptQueue

end Teleporter
