import IcmServices.Teleporter.Types
import IcmServices.Lib.Exec

/-!
# TeleporterMessenger

The storage of `TeleporterMessenger.sol` and its state-changing entry points, each a function
from the state (and the arguments, `msg.sender` and what the world answers to the contract's
external calls) to the new state and the log of what the call emitted, or a revert reason.

A call runs to completion before the next one starts. The reentrancy guards make this exact:
while a receive is executing a message, only send functions and `redeemRelayerRewards` can be
entered, and those touch no storage the rest of the receive reads or writes, so every
interleaving is a sequence of whole calls. The guards themselves are therefore not modelled.

`keccak256`, the contract's address and the chain's blockchain ID (`WARP_MESSENGER`'s
`getBlockchainID`) form the `Context`. `step` dispatches a `Call` to its entry point, and
`Contract.Exec (step ctx)` is the set of runs.
-/

namespace Teleporter

open Solidity Function

/-- What a messenger instance is deployed with. -/
structure Context (B : Type) where
  keccak256 : Preimage B → B
  /-- `address(this)`. -/
  self : Address
  /-- What `WARP_MESSENGER.getBlockchainID()` returns on this chain. -/
  chainID : B

/-- The storage of `TeleporterMessenger`. -/
structure State (B : Type) where
  blockchainID : B
  messageNonce : ℕ
  receiptQueues : B → TeleporterMessageReceiptQueue
  sentMessageInfo : B → SentMessageInfo B
  receivedFailedMessageHashes : B → B
  /-- `_receivedMessageNonces`. -/
  receivedMessageNonces : B → ℕ
  /-- `_relayerRewardAddresses`. -/
  relayerRewardAddresses : B → Address
  /-- `_relayerRewardAmounts`. -/
  relayerRewardAmounts : Address → Address → ℕ

/-- What a call emits: the contract's events, the warp messages it submits and the token
transfers into (`transferFrom`) and out of (`transfer`) the contract. -/
inductive Log (B : Type)
  | blockchainIDInitialized (blockchainID : B)
  | sendCrossChainMessage (messageID destinationBlockchainID : B) (message : TeleporterMessage B)
      (feeInfo : TeleporterFeeInfo)
  | addFeeAmount (messageID : B) (updatedFeeInfo : TeleporterFeeInfo)
  | receiveCrossChainMessage (messageID sourceBlockchainID : B)
      (deliverer relayerRewardAddress : Address) (message : TeleporterMessage B)
  | messageExecuted (messageID sourceBlockchainID : B)
  | messageExecutionFailed (messageID sourceBlockchainID : B) (message : TeleporterMessage B)
  | receiptReceived (messageID destinationBlockchainID : B) (relayerRewardAddress : Address)
      (feeInfo : TeleporterFeeInfo)
  | relayerRewardsRedeemed (redeemer asset : Address) (amount : ℕ)
  | sendWarpMessage (message : TeleporterMessage B)
  | transferFrom (token payer : Address) (amount : ℕ)
  | transfer (token recipient : Address) (amount : ℕ)

/-- What the EVM answers when a received message is executed: whether `gasleft()` covers the
required gas limit, whether the destination has code, and whether the call succeeded. -/
structure Execution where
  gasSufficient : Bool
  hasCode : Bool
  success : Bool

variable {B : Type} [DecidableEq B] [Zero B] (ctx : Context B)

/-- Fresh storage, as the constructor leaves it. -/
def State.init : State B where
  blockchainID := 0
  messageNonce := 0
  receiptQueues := fun _ => ReceiptQueue.empty
  sentMessageInfo := fun _ => default
  receivedFailedMessageHashes := fun _ => 0
  receivedMessageNonces := fun _ => 0
  relayerRewardAddresses := fun _ => 0
  relayerRewardAmounts := fun _ _ => 0

/-- `SafeERC20TransferFrom.safeTransferFrom`: `received` is the contract's balance increase
that the token's `transferFrom` produced; no increase reverts. -/
def safeTransferFrom (received : ℕ) : Except String ℕ := do
  require (received > 0) "SafeERC20TransferFrom: balance not increased"
  pure received

/-- `calculateMessageID`. -/
def calculateMessageID (sourceBlockchainID destinationBlockchainID : B) (nonce : ℕ) : B :=
  ctx.keccak256 (.messageID ctx.self sourceBlockchainID destinationBlockchainID nonce)

/-- `initializeBlockchainID`; the blockchain ID it returns is that of the new state. -/
def initializeBlockchainID (s : State B) : Except String (State B × List (Log B)) := do
  if s.blockchainID = 0 then
    let blockchainID_ := ctx.chainID
    require (blockchainID_ ≠ 0) "TeleporterMessenger: zero blockchain ID"
    pure ({ s with blockchainID := blockchainID_ }, [.blockchainIDInitialized blockchainID_])
  else pure (s, [])

/-- `_checkIsAllowedRelayer`. -/
def checkIsAllowedRelayer (delivererAddress : Address) (allowedRelayers : List Address) : Bool :=
  allowedRelayers.isEmpty || allowedRelayers.contains delivererAddress

/-- `_messageReceived`. -/
def messageReceived (s : State B) (messageID : B) : Bool :=
  s.receivedMessageNonces messageID ≠ 0

/-- The message `_sendTeleporterMessage` constructs and serializes. -/
def constructMessage (messageNonce_ : ℕ) (sender : Address) (messageInput : TeleporterMessageInput B)
    (receipts : List TeleporterMessageReceipt) : TeleporterMessage B where
  messageNonce := messageNonce_
  originSenderAddress := sender
  destinationBlockchainID := messageInput.destinationBlockchainID
  destinationAddress := messageInput.destinationAddress
  requiredGasLimit := messageInput.requiredGasLimit
  allowedRelayerAddresses := messageInput.allowedRelayerAddresses
  receipts := receipts
  message := messageInput.message

/-- The fee transfer of `_sendTeleporterMessage`: a zero fee moves nothing. -/
def transferFee (sender : Address) (feeInfo : TeleporterFeeInfo) (received : ℕ) :
    Except String (ℕ × List (Log B)) :=
  if feeInfo.amount > 0 then do
    require (feeInfo.feeTokenAddress ≠ 0) "TeleporterMessenger: zero fee asset contract address"
    let adjusted ← safeTransferFrom received
    pure (adjusted, [.transferFrom feeInfo.feeTokenAddress sender adjusted])
  else pure (0, [])

/-- `_sendTeleporterMessage`, returning the message ID. `received` is what the fee token's
`transferFrom` credits, used only when the fee is non-zero. -/
def sendTeleporterMessage (s : State B) (sender : Address) (messageInput : TeleporterMessageInput B)
    (receipts : List TeleporterMessageReceipt) (received : ℕ) :
    Except String (B × State B × List (Log B)) := do
  let (s₁, l₁) ← initializeBlockchainID ctx s
  let messageNonce_ ← checkedAdd 256 s₁.messageNonce 1
  let messageID :=
    calculateMessageID ctx s₁.blockchainID messageInput.destinationBlockchainID messageNonce_
  let teleporterMessage := constructMessage messageNonce_ sender messageInput receipts
  let (adjustedFeeAmount, l₂) ← transferFee sender messageInput.feeInfo received
  let adjustedFeeInfo : TeleporterFeeInfo :=
    ⟨messageInput.feeInfo.feeTokenAddress, adjustedFeeAmount⟩
  let s₂ : State B :=
    { s₁ with
      messageNonce := messageNonce_
      sentMessageInfo := update s₁.sentMessageInfo messageID
        ⟨ctx.keccak256 (.message teleporterMessage), adjustedFeeInfo⟩ }
  pure (messageID, s₂, l₁ ++ l₂ ++
    [.sendCrossChainMessage messageID messageInput.destinationBlockchainID teleporterMessage
      adjustedFeeInfo, .sendWarpMessage teleporterMessage])

/-- `sendCrossChainMessage`: the outstanding receipts for the destination ride along. -/
def sendCrossChainMessage (s : State B) (sender : Address)
    (messageInput : TeleporterMessageInput B) (received : ℕ) :
    Except String (State B × List (Log B)) := do
  let (receipts, queue) ← ReceiptQueue.getOutstandingReceiptsToSend
    (s.receiptQueues messageInput.destinationBlockchainID)
  let s₁ := { s with
    receiptQueues := update s.receiptQueues messageInput.destinationBlockchainID queue }
  let (_, s₂, l) ← sendTeleporterMessage ctx s₁ sender messageInput receipts received
  pure (s₂, l)

/-- `retrySendCrossChainMessage`: re-submits a message that is still unacknowledged. -/
def retrySendCrossChainMessage (s : State B) (message : TeleporterMessage B) :
    Except String (State B × List (Log B)) := do
  let messageID :=
    calculateMessageID ctx s.blockchainID message.destinationBlockchainID message.messageNonce
  let existingMessageInfo := s.sentMessageInfo messageID
  require (existingMessageInfo.messageHash ≠ 0) "TeleporterMessenger: message not found"
  require (ctx.keccak256 (.message message) = existingMessageInfo.messageHash)
    "TeleporterMessenger: invalid message hash"
  pure (s, [.sendCrossChainMessage messageID message.destinationBlockchainID message
    existingMessageInfo.feeInfo, .sendWarpMessage message])

/-- `addFeeAmount`. -/
def addFeeAmount (s : State B) (sender : Address) (messageID : B) (feeTokenAddress : Address)
    (additionalFeeAmount received : ℕ) : Except String (State B × List (Log B)) := do
  require (additionalFeeAmount > 0) "TeleporterMessenger: zero additional fee amount"
  require (feeTokenAddress ≠ 0) "TeleporterMessenger: zero fee asset contract address"
  require ((s.sentMessageInfo messageID).messageHash ≠ 0) "TeleporterMessenger: message not found"
  require ((s.sentMessageInfo messageID).feeInfo.feeTokenAddress = feeTokenAddress)
    "TeleporterMessenger: invalid fee asset contract address"
  let adjustedAmount ← safeTransferFrom received
  let info := s.sentMessageInfo messageID
  let amount ← checkedAdd 256 info.feeInfo.amount adjustedAmount
  let info' : SentMessageInfo B := { info with feeInfo := { info.feeInfo with amount := amount } }
  pure ({ s with sentMessageInfo := update s.sentMessageInfo messageID info' },
    [.transferFrom feeTokenAddress sender adjustedAmount, .addFeeAmount messageID info'.feeInfo])

/-- `_markMessageReceived`. -/
def markMessageReceived (s : State B) (messageID : B) (messageNonce_ : ℕ) :
    Except String (State B) := do
  require (messageNonce_ ≠ 0) "TeleporterMessenger: zero message nonce"
  pure { s with receivedMessageNonces := update s.receivedMessageNonces messageID messageNonce_ }

/-- `_markReceipt`: pays the fee of an acknowledged message to the relayer named in the receipt,
once; a receipt for an unknown or already acknowledged message is ignored. -/
def markReceipt (s : State B) (sourceBlockchainID_ destinationBlockchainID_ : B)
    (receipt : TeleporterMessageReceipt) : Except String (State B × List (Log B)) := do
  let messageID :=
    calculateMessageID ctx sourceBlockchainID_ destinationBlockchainID_ receipt.receivedMessageNonce
  let messageInfo := s.sentMessageInfo messageID
  if messageInfo.messageHash = 0 then pure (s, []) else
  let relayer := receipt.relayerRewardAddress
  let token := messageInfo.feeInfo.feeTokenAddress
  let reward ← checkedAdd 256 (s.relayerRewardAmounts relayer token) messageInfo.feeInfo.amount
  pure ({ s with
      sentMessageInfo := update s.sentMessageInfo messageID default
      relayerRewardAmounts := update s.relayerRewardAmounts relayer
        (update (s.relayerRewardAmounts relayer) token reward) },
    [.receiptReceived messageID destinationBlockchainID_ relayer messageInfo.feeInfo])

/-- The receipt loop of `receiveCrossChainMessage`. -/
def markReceipts (sourceBlockchainID_ destinationBlockchainID_ : B) :
    List TeleporterMessageReceipt → State B → Except String (State B × List (Log B))
  | [], s => pure (s, [])
  | receipt :: receipts, s => do
    let (s₁, l₁) ← markReceipt ctx s sourceBlockchainID_ destinationBlockchainID_ receipt
    let (s₂, l₂) ← markReceipts sourceBlockchainID_ destinationBlockchainID_ receipts s₁
    pure (s₂, l₁ ++ l₂)

/-- `_storeFailedMessageExecution`. -/
def storeFailedMessageExecution (s : State B) (messageID sourceBlockchainID : B)
    (message : TeleporterMessage B) : State B × List (Log B) :=
  ({ s with receivedFailedMessageHashes :=
      update s.receivedFailedMessageHashes messageID (ctx.keccak256 (.message message)) },
    [.messageExecutionFailed messageID sourceBlockchainID message])

/-- `_handleInitialMessageExecution`. -/
def handleInitialMessageExecution (s : State B) (messageID sourceBlockchainID : B)
    (message : TeleporterMessage B) (execution : Execution) :
    Except String (State B × List (Log B)) := do
  require (execution.gasSufficient = true) "TeleporterMessenger: insufficient gas"
  if execution.hasCode = false then
    pure (storeFailedMessageExecution ctx s messageID sourceBlockchainID message)
  else if execution.success = false then
    pure (storeFailedMessageExecution ctx s messageID sourceBlockchainID message)
  else pure (s, [.messageExecuted messageID sourceBlockchainID])

/-- `receiveCrossChainMessage`. `warpMessage` is `none` when the warp precompile does not verify
the message at the given index. -/
def receiveCrossChainMessage (s : State B) (sender : Address) (warpMessage : Option (WarpMessage B))
    (relayerRewardAddress : Address) (execution : Execution) :
    Except String (State B × List (Log B)) := do
  let some warpMessage := warpMessage | throw "TeleporterMessenger: invalid warp message"
  require (warpMessage.originSenderAddress = ctx.self)
    "TeleporterMessenger: invalid origin sender address"
  let teleporterMessage := warpMessage.payload
  let (s₁, l₁) ← initializeBlockchainID ctx s
  let blockchainID_ := s₁.blockchainID
  require (teleporterMessage.destinationBlockchainID = blockchainID_)
    "TeleporterMessenger: invalid destination chain ID"
  let messageID :=
    calculateMessageID ctx warpMessage.sourceChainID blockchainID_ teleporterMessage.messageNonce
  require (messageReceived s₁ messageID = false) "TeleporterMessenger: message already received"
  require (checkIsAllowedRelayer sender teleporterMessage.allowedRelayerAddresses = true)
    "TeleporterMessenger: unauthorized relayer"
  let s₂ ← markMessageReceived s₁ messageID teleporterMessage.messageNonce
  let s₃ := if relayerRewardAddress ≠ 0 then
      { s₂ with relayerRewardAddresses :=
          update s₂.relayerRewardAddresses messageID relayerRewardAddress }
    else s₂
  let (s₄, l₂) ←
    markReceipts ctx blockchainID_ warpMessage.sourceChainID teleporterMessage.receipts s₃
  let queue ← ReceiptQueue.enqueue (s₄.receiptQueues warpMessage.sourceChainID)
    ⟨teleporterMessage.messageNonce, relayerRewardAddress⟩
  let s₅ := { s₄ with receiptQueues := update s₄.receiptQueues warpMessage.sourceChainID queue }
  let l₃ := [Log.receiveCrossChainMessage messageID warpMessage.sourceChainID sender
    relayerRewardAddress teleporterMessage]
  if teleporterMessage.message.length > 0 then do
    let (s₆, l₄) ← handleInitialMessageExecution ctx s₅ messageID warpMessage.sourceChainID
      teleporterMessage execution
    pure (s₆, l₁ ++ l₂ ++ l₃ ++ l₄)
  else pure (s₅, l₁ ++ l₂ ++ l₃)

/-- `retryMessageExecution`: the failed hash is cleared before the call, and a failing call
reverts the whole transaction, clearing included. -/
def retryMessageExecution (s : State B) (sourceBlockchainID : B) (message : TeleporterMessage B)
    (hasCode success : Bool) : Except String (State B × List (Log B)) := do
  let messageID := calculateMessageID ctx sourceBlockchainID s.blockchainID message.messageNonce
  let failedMessageHash := s.receivedFailedMessageHashes messageID
  require (failedMessageHash ≠ 0) "TeleporterMessenger: message not found"
  require (ctx.keccak256 (.message message) = failedMessageHash)
    "TeleporterMessenger: invalid message hash"
  require (hasCode = true) "TeleporterMessenger: destination address has no code"
  let s₁ := { s with
    receivedFailedMessageHashes := update s.receivedFailedMessageHashes messageID 0 }
  require (success = true) "TeleporterMessenger: retry execution failed"
  pure (s₁, [.messageExecuted messageID sourceBlockchainID])

/-- The loop of `sendSpecifiedReceipts`: a receipt for each listed message received from
`sourceBlockchainID`. -/
def specifiedReceipts (s : State B) (sourceBlockchainID blockchainID_ : B) :
    List B → Except String (List TeleporterMessageReceipt)
  | [] => pure []
  | receivedMessageID :: messageIDs => do
    let receivedMessageNonce := s.receivedMessageNonces receivedMessageID
    require (receivedMessageNonce ≠ 0) "TeleporterMessenger: receipt not found"
    require (receivedMessageID =
        calculateMessageID ctx sourceBlockchainID blockchainID_ receivedMessageNonce)
      "TeleporterMessenger: message ID not from source blockchain"
    let receipts ← specifiedReceipts s sourceBlockchainID blockchainID_ messageIDs
    pure (⟨receivedMessageNonce, s.relayerRewardAddresses receivedMessageID⟩ :: receipts)

/-- `sendSpecifiedReceipts`: an empty message carrying receipts for the listed messages. -/
def sendSpecifiedReceipts (s : State B) (sender : Address) (sourceBlockchainID : B)
    (messageIDs : List B) (feeInfo : TeleporterFeeInfo) (allowedRelayerAddresses : List Address)
    (received : ℕ) : Except String (State B × List (Log B)) := do
  let receiptsToSend ← specifiedReceipts ctx s sourceBlockchainID s.blockchainID messageIDs
  let (_, s₁, l) ← sendTeleporterMessage ctx s sender
    { destinationBlockchainID := sourceBlockchainID
      destinationAddress := 0
      feeInfo := feeInfo
      requiredGasLimit := 0
      allowedRelayerAddresses := allowedRelayerAddresses
      message := [] } receiptsToSend received
  pure (s₁, l)

/-- `redeemRelayerRewards`: the reward is zeroed before the token transfer. -/
def redeemRelayerRewards (s : State B) (sender feeAsset : Address) :
    Except String (State B × List (Log B)) := do
  let rewardAmount := s.relayerRewardAmounts sender feeAsset
  require (rewardAmount > 0) "TeleporterMessenger: no reward to redeem"
  pure ({ s with
      relayerRewardAmounts := update s.relayerRewardAmounts sender
        (update (s.relayerRewardAmounts sender) feeAsset 0) },
    [.relayerRewardsRedeemed sender feeAsset rewardAmount, .transfer feeAsset sender rewardAmount])

/-- A call of a state-changing entry point, with `msg.sender` where the entry point reads it and
what the world answers to its external calls. -/
inductive Call (B : Type)
  | initializeBlockchainID
  | sendCrossChainMessage (sender : Address) (messageInput : TeleporterMessageInput B)
      (received : ℕ)
  | retrySendCrossChainMessage (message : TeleporterMessage B)
  | addFeeAmount (sender : Address) (messageID : B) (feeTokenAddress : Address)
      (additionalFeeAmount received : ℕ)
  | receiveCrossChainMessage (sender : Address) (warpMessage : Option (WarpMessage B))
      (relayerRewardAddress : Address) (execution : Execution)
  | retryMessageExecution (sourceBlockchainID : B) (message : TeleporterMessage B)
      (hasCode success : Bool)
  | sendSpecifiedReceipts (sender : Address) (sourceBlockchainID : B) (messageIDs : List B)
      (feeInfo : TeleporterFeeInfo) (allowedRelayerAddresses : List Address) (received : ℕ)
  | redeemRelayerRewards (sender feeAsset : Address)

/-- One call of the contract. -/
def step (s : State B) : Call B → Except String (State B × List (Log B))
  | .initializeBlockchainID => initializeBlockchainID ctx s
  | .sendCrossChainMessage sender messageInput received =>
    sendCrossChainMessage ctx s sender messageInput received
  | .retrySendCrossChainMessage message => retrySendCrossChainMessage ctx s message
  | .addFeeAmount sender messageID feeTokenAddress additionalFeeAmount received =>
    addFeeAmount s sender messageID feeTokenAddress additionalFeeAmount received
  | .receiveCrossChainMessage sender warpMessage relayerRewardAddress execution =>
    receiveCrossChainMessage ctx s sender warpMessage relayerRewardAddress execution
  | .retryMessageExecution sourceBlockchainID message hasCode success =>
    retryMessageExecution ctx s sourceBlockchainID message hasCode success
  | .sendSpecifiedReceipts sender sourceBlockchainID messageIDs feeInfo allowed received =>
    sendSpecifiedReceipts ctx s sender sourceBlockchainID messageIDs feeInfo allowed received
  | .redeemRelayerRewards sender feeAsset => redeemRelayerRewards s sender feeAsset

end Teleporter
