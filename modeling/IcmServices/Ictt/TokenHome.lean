import IcmServices.Ictt.Types
import IcmServices.Ictt.Scaling
import IcmServices.Lib.Exec
import Mathlib.Logic.Function.Basic

/-!
# `TokenHome`

The storage of `TokenHome.sol`, with the amount of its token the home holds (`balance`), and its
entry points as `ERC20TokenHome` and `NativeTokenHome` call them. Both wrappers only differ in
how a token moves:

* `_deposit(amount)` pulls tokens from the caller and returns what arrived; that number is an
  argument of the call (`deposited`), as is what the fee transfer of a send delivered
  (`feeReceived`);
* `_withdraw` and `_handleSendAndCall` pay out of `balance` (the recipient contract spends at most
  its allowance, the rest goes to the fallback recipient), and `success` is the outcome of the
  recipient's call;
* `_sendTeleporterMessage` pays the message fee to Teleporter; in the home token that comes out of
  `balance`.

`receiveTeleporterMessage` is `_receiveTeleporterMessage` on a decoded message: Teleporter hands
over the source chain, the sending contract and the message, and nothing else about them is
checked here.
-/

namespace Ictt

open Solidity Function TokenScalingUtils

/-- `RemoteTokenTransferrerSettings`. -/
structure RemoteTokenTransferrerSettings where
  registered : Bool
  collateralNeeded : ℕ
  tokenMultiplier : ℕ
  multiplyOnRemote : Bool
  deriving DecidableEq, Repr, Inhabited

/-- A remote token transferrer: its blockchain ID and its address, the keys of the nested
mappings of the home. -/
abbrev Remote := Bytes32 × Address

namespace TokenHome

/-- `TokenHomeStorage` and the home's holdings of its token. -/
structure State where
  blockchainID : Bytes32
  tokenAddress : Address
  tokenDecimals : ℕ
  registeredRemotes : Remote → RemoteTokenTransferrerSettings
  transferredBalances : Remote → ℕ
  balance : ℕ

/-- The events of `ITokenHome` and the messages handed to Teleporter. -/
inductive Log
  | remoteRegistered (remote : Remote) (initialCollateralNeeded tokenDecimals : ℕ)
  | collateralAdded (remote : Remote) (amount remaining : ℕ)
  | tokensSent (sender : Address) (input : SendTokensInput) (amount : ℕ)
  | tokensAndCallSent (originSenderAddress : Address) (input : SendAndCallInput) (amount : ℕ)
  | tokensRouted (input : SendTokensInput) (amount : ℕ)
  | tokensAndCallRouted (input : SendAndCallInput) (amount : ℕ)
  | tokensWithdrawn (recipient : Address) (amount : ℕ)
  | callSucceeded (recipientContract : Address) (amount : ℕ)
  | callFailed (recipientContract : Address) (amount : ℕ)
  | sendTeleporterMessage (destination : Remote) (feeTokenAddress : Address)
      (fee requiredGasLimit : ℕ) (message : TransferrerMessage)

/-- `__TokenHome_init_unchained` on fresh storage, with what the home already holds. -/
def tokenHomeInit (blockchainID : Bytes32) (tokenAddress : Address) (tokenDecimals balance : ℕ) :
    Except String State := do
  require (tokenAddress ≠ 0) "TokenHome: zero token address"
  require (tokenDecimals ≤ maxTokenDecimals) "TokenHome: token decimals too high"
  pure
    { blockchainID, tokenAddress, tokenDecimals
      registeredRemotes := fun _ => default
      transferredBalances := fun _ => 0
      balance }

/-- `_deposit`: `deposited` tokens arrived. -/
def deposit (s : State) (deposited : ℕ) : State := { s with balance := s.balance + deposited }

/-- The transfer of a send's fee from the caller; only a fee in the home token adds to what the
home holds. -/
def receiveFee (s : State) (feeTokenAddress : Address) (feeReceived : ℕ) : State :=
  if feeTokenAddress = s.tokenAddress then { s with balance := s.balance + feeReceived } else s

/-- `_withdraw`. -/
def withdraw (s : State) (recipient : Address) (amount : ℕ) : Except String (State × List Log) := do
  let balance ← checkedSub s.balance amount
  pure ({ s with balance }, [.tokensWithdrawn recipient amount])

/-- `_handleSendAndCall`. -/
def handleSendAndCall (s : State) (message : SingleHopCallMessage) (amount : ℕ) (success : Bool) :
    Except String (State × List Log) := do
  let balance ← checkedSub s.balance amount
  pure ({ s with balance },
    [if success then .callSucceeded message.recipientContract amount
      else .callFailed message.recipientContract amount])

/-- `_sendTeleporterMessage`: the fee goes to Teleporter. -/
def sendTeleporterMessage (s : State) (destination : Remote) (feeTokenAddress : Address)
    (fee requiredGasLimit : ℕ) (message : TransferrerMessage) :
    Except String (State × List Log) := do
  let balance ← if feeTokenAddress = s.tokenAddress then checkedSub s.balance fee
    else pure s.balance
  pure ({ s with balance },
    [.sendTeleporterMessage destination feeTokenAddress fee requiredGasLimit message])

/-- `_registerRemote`. -/
def registerRemote (s : State) (remote : Remote) (message : RegisterRemoteMessage) :
    Except String (State × List Log) := do
  require (remote.1 ≠ 0) "TokenHome: zero remote blockchain ID"
  require (remote.1 ≠ s.blockchainID) "TokenHome: cannot register remote on same chain"
  require (remote.2 ≠ 0) "TokenHome: zero remote token transferrer address"
  require ((s.registeredRemotes remote).registered = false) "TokenHome: remote already registered"
  require (message.remoteTokenDecimals ≤ maxTokenDecimals)
    "TokenHome: remote token decimals too high"
  require (message.homeTokenDecimals = s.tokenDecimals) "TokenHome: invalid home token decimals"
  let (tokenMultiplier, multiplyOnRemote) ←
    deriveTokenMultiplierValues s.tokenDecimals message.remoteTokenDecimals
  let collateralNeeded ←
    removeTokenScale tokenMultiplier multiplyOnRemote message.initialReserveImbalance
  -- round up, so that the whole imbalance is collateralized
  let collateralNeeded ←
    if multiplyOnRemote = true ∧ message.initialReserveImbalance % tokenMultiplier ≠ 0 then
      checkedAdd 256 collateralNeeded 1
    else pure collateralNeeded
  pure ({ s with
      registeredRemotes := update s.registeredRemotes remote
        ⟨true, collateralNeeded, tokenMultiplier, multiplyOnRemote⟩ },
    [.remoteRegistered remote collateralNeeded message.remoteTokenDecimals])

/-- `_validateSendTokensInput`. -/
def validateSendTokensInput (input : SendTokensInput) : Except String Unit := do
  require (input.recipient ≠ 0) "TokenHome: zero recipient address"
  require (input.requiredGasLimit > 0) "TokenHome: zero required gas limit"
  require (input.secondaryFee = 0) "TokenHome: non-zero secondary fee"

/-- `_validateSendAndCallInput`. -/
def validateSendAndCallInput (input : SendAndCallInput) : Except String Unit := do
  require (input.recipientContract ≠ 0) "TokenHome: zero recipient contract address"
  require (input.requiredGasLimit > 0) "TokenHome: zero required gas limit"
  require (input.recipientGasLimit > 0) "TokenHome: zero recipient gas limit"
  require (input.recipientGasLimit < input.requiredGasLimit) "TokenHome: invalid recipient gas limit"
  require (input.fallbackRecipient ≠ 0) "TokenHome: zero fallback recipient address"
  require (input.secondaryFee = 0) "TokenHome: non-zero secondary fee"

/-- `_prepareSend`: lock what arrived, take the fee, and credit the remote with the scaled
amount. Returns the scaled amount and the fee. -/
def prepareSend (s : State) (remote : Remote) (deposited : ℕ) (primaryFeeTokenAddress : Address)
    (feeAmount feeReceived : ℕ) : Except String (State × ℕ × ℕ) := do
  let remoteSettings := s.registeredRemotes remote
  require (remoteSettings.registered = true) "TokenHome: remote not registered"
  require (remoteSettings.collateralNeeded = 0) "TokenHome: collateral needed for remote"
  let s := deposit s deposited
  let (s, feeAmount) := if feeAmount > 0 then (receiveFee s primaryFeeTokenAddress feeReceived,
    feeReceived) else (s, feeAmount)
  let scaledAmount ← applyTokenScale remoteSettings.tokenMultiplier
    remoteSettings.multiplyOnRemote deposited
  require (scaledAmount > 0) "TokenHome: zero scaled amount"
  let balance ← checkedAdd 256 (s.transferredBalances remote) scaledAmount
  pure ({ s with transferredBalances := update s.transferredBalances remote balance },
    scaledAmount, feeAmount)

/-- `_prepareMultiHopRouting`: `0` when the remote cannot take the tokens. -/
def prepareMultiHopRouting (s : State) (remote : Remote) (amount fee : ℕ) :
    Except String (State × ℕ) := do
  let remoteSettings := s.registeredRemotes remote
  if remoteSettings.registered = false ∨ remoteSettings.collateralNeeded > 0 then pure (s, 0)
  else do
    require (amount > fee) "TokenHome: insufficient amount to cover fees"
    let scaledAmount ← applyTokenScale remoteSettings.tokenMultiplier
      remoteSettings.multiplyOnRemote (amount - fee)
    if scaledAmount = 0 then pure (s, 0)
    else do
      let balance ← checkedAdd 256 (s.transferredBalances remote) scaledAmount
      pure ({ s with transferredBalances := update s.transferredBalances remote balance },
        scaledAmount)

/-- `_deductSenderBalance`. -/
def deductSenderBalance (s : State) (remote : Remote) (amount : ℕ) : Except String State := do
  let senderBalance := s.transferredBalances remote
  require (senderBalance ≥ amount) "TokenHome: insufficient token transfer balance"
  pure { s with transferredBalances := update s.transferredBalances remote (senderBalance - amount) }

/-- `_processReceivedTransfer` (and `_processSingleHopTransfer`, which only reads the settings):
debit the remote and return the home amount. -/
def processReceivedTransfer (s : State) (remote : Remote) (amount : ℕ) :
    Except String (State × ℕ) := do
  let remoteSettings := s.registeredRemotes remote
  require (remoteSettings.registered = true) "TokenHome: remote not registered"
  require (remoteSettings.collateralNeeded = 0) "TokenHome: remote not collateralized"
  let s ← deductSenderBalance s remote amount
  let homeAmount ← removeTokenScale remoteSettings.tokenMultiplier
    remoteSettings.multiplyOnRemote amount
  require (homeAmount > 0) "TokenHome: zero token amount"
  pure (s, homeAmount)

/-- `_processMultiHopTransfer`: the received transfer and the secondary fee at home. -/
def processMultiHopTransfer (s : State) (remote : Remote) (amount secondaryFee : ℕ) :
    Except String (State × ℕ × ℕ) := do
  let remoteSettings := s.registeredRemotes remote
  let (s, transferAmount) ← processReceivedTransfer s remote amount
  let fee ← removeTokenScale remoteSettings.tokenMultiplier remoteSettings.multiplyOnRemote
    secondaryFee
  pure (s, transferAmount, fee)

/-- `_send`. -/
def send (s : State) (sender : Address) (input : SendTokensInput) (deposited feeReceived : ℕ) :
    Except String (State × List Log) := do
  validateSendTokensInput input
  require (input.multiHopFallback = 0) "TokenHome: non-zero multi-hop fallback"
  let remote := (input.destinationBlockchainID, input.destinationTokenTransferrerAddress)
  let (s, adjustedAmount, feeAmount) ← prepareSend s remote deposited
    input.primaryFeeTokenAddress input.primaryFee feeReceived
  let (s, l) ← sendTeleporterMessage s remote input.primaryFeeTokenAddress feeAmount
    input.requiredGasLimit (.singleHopSend ⟨input.recipient, adjustedAmount⟩)
  pure (s, l ++ [.tokensSent sender input adjustedAmount])

/-- `_sendAndCall`. -/
def sendAndCall (s : State) (sourceBlockchainID : Bytes32)
    (originTokenTransferrerAddress originSenderAddress : Address) (input : SendAndCallInput)
    (deposited feeReceived : ℕ) : Except String (State × List Log) := do
  validateSendAndCallInput input
  require (input.multiHopFallback = 0) "TokenHome: non-zero multi-hop fallback"
  let remote := (input.destinationBlockchainID, input.destinationTokenTransferrerAddress)
  let (s, adjustedAmount, feeAmount) ← prepareSend s remote deposited
    input.primaryFeeTokenAddress input.primaryFee feeReceived
  let (s, l) ← sendTeleporterMessage s remote input.primaryFeeTokenAddress feeAmount
    input.requiredGasLimit (.singleHopCall ⟨sourceBlockchainID, originTokenTransferrerAddress,
      originSenderAddress, input.recipientContract, adjustedAmount, input.recipientPayload,
      input.recipientGasLimit, input.fallbackRecipient⟩)
  pure (s, l ++ [.tokensAndCallSent originSenderAddress input adjustedAmount])

/-- `_routeMultiHop`: forward to the destination remote, or pay the fallback. -/
def routeMultiHop (s : State) (input : SendTokensInput) (amount : ℕ) :
    Except String (State × List Log) := do
  validateSendTokensInput input
  let remote := (input.destinationBlockchainID, input.destinationTokenTransferrerAddress)
  let (s, adjustedAmount) ← prepareMultiHopRouting s remote amount input.primaryFee
  if adjustedAmount = 0 then withdraw s input.multiHopFallback amount
  else do
    let (s, l) ← sendTeleporterMessage s remote input.primaryFeeTokenAddress input.primaryFee
      input.requiredGasLimit (.singleHopSend ⟨input.recipient, adjustedAmount⟩)
    pure (s, l ++ [.tokensRouted input adjustedAmount])

/-- `_routeMultiHopSendAndCall`. -/
def routeMultiHopSendAndCall (s : State) (sourceBlockchainID : Bytes32)
    (originTokenTransferrerAddress originSenderAddress : Address) (input : SendAndCallInput)
    (amount : ℕ) : Except String (State × List Log) := do
  validateSendAndCallInput input
  let remote := (input.destinationBlockchainID, input.destinationTokenTransferrerAddress)
  let (s, adjustedAmount) ← prepareMultiHopRouting s remote amount input.primaryFee
  if adjustedAmount = 0 then withdraw s input.multiHopFallback amount
  else do
    let (s, l) ← sendTeleporterMessage s remote input.primaryFeeTokenAddress input.primaryFee
      input.requiredGasLimit (.singleHopCall ⟨sourceBlockchainID, originTokenTransferrerAddress,
        originSenderAddress, input.recipientContract, adjustedAmount, input.recipientPayload,
        input.recipientGasLimit, input.fallbackRecipient⟩)
    pure (s, l ++ [.tokensAndCallRouted input adjustedAmount])

/-- `_addCollateral`: lock up to the collateral still needed and return the excess. -/
def addCollateral (s : State) (sender : Address) (remote : Remote) (deposited : ℕ) :
    Except String (State × List Log) := do
  let remoteSettings := s.registeredRemotes remote
  require (remoteSettings.registered = true) "TokenHome: remote not registered"
  require (remoteSettings.collateralNeeded > 0) "TokenHome: zero collateral needed"
  let s := deposit s deposited
  let (remainingCollateralNeeded, excessAmount, amount) :=
    if deposited ≥ remoteSettings.collateralNeeded then
      (0, deposited - remoteSettings.collateralNeeded, remoteSettings.collateralNeeded)
    else (remoteSettings.collateralNeeded - deposited, 0, deposited)
  let s := { s with
    registeredRemotes := update s.registeredRemotes remote
      { remoteSettings with collateralNeeded := remainingCollateralNeeded } }
  let e := Log.collateralAdded remote amount remainingCollateralNeeded
  if excessAmount > 0 then do
    let (s, l) ← withdraw s sender excessAmount
    pure (s, e :: l)
  else pure (s, [e])

/-- `_receiveTeleporterMessage`. -/
def receiveTeleporterMessage (s : State) (sourceBlockchainID : Bytes32)
    (originSenderAddress : Address) (message : TransferrerMessage) (success : Bool) :
    Except String (State × List Log) :=
  let source := (sourceBlockchainID, originSenderAddress)
  match message with
  | .singleHopSend payload => do
    let (s, homeAmount) ← processReceivedTransfer s source payload.amount
    withdraw s payload.recipient homeAmount
  | .singleHopCall payload => do
    let (s, homeAmount) ← processReceivedTransfer s source payload.amount
    require (payload.sourceBlockchainID = sourceBlockchainID)
      "TokenHome: mismatched source blockchain ID"
    require (payload.originTokenTransferrerAddress = originSenderAddress)
      "TokenHome: mismatched origin sender address"
    handleSendAndCall s payload homeAmount success
  | .multiHopSend payload => do
    let (s, homeAmount, fee) ← processMultiHopTransfer s source payload.amount
      payload.secondaryFee
    -- the fee of the second hop is paid in the home token, out of the amount received
    routeMultiHop s ⟨payload.destinationBlockchainID, payload.destinationTokenTransferrerAddress,
      payload.recipient, s.tokenAddress, fee, 0, payload.secondaryGasLimit,
      payload.multiHopFallback⟩ homeAmount
  | .multiHopCall payload => do
    let (s, homeAmount, fee) ← processMultiHopTransfer s source payload.amount
      payload.secondaryFee
    routeMultiHopSendAndCall s sourceBlockchainID originSenderAddress payload.originSenderAddress
      ⟨payload.destinationBlockchainID, payload.destinationTokenTransferrerAddress,
        payload.recipientContract, payload.recipientPayload, payload.secondaryRequiredGasLimit,
        payload.recipientGasLimit, payload.multiHopFallback, payload.fallbackRecipient,
        s.tokenAddress, fee, 0⟩ homeAmount
  | .registerRemote payload => registerRemote s source payload

/-- The calls into a home: the wrappers' `send`, `sendAndCall` and `addCollateral`, and the
delivery of a Teleporter message. -/
inductive Call
  | send (sender : Address) (input : SendTokensInput) (deposited feeReceived : ℕ)
  | sendAndCall (sender : Address) (input : SendAndCallInput) (deposited feeReceived : ℕ)
  | addCollateral (sender : Address) (remote : Remote) (deposited : ℕ)
  | receiveTeleporterMessage (sourceBlockchainID : Bytes32) (originSenderAddress : Address)
      (message : TransferrerMessage) (success : Bool)

/-- One successful call into the home at `self`. -/
def step (self : Address) (s : State) : Call → Except String (State × List Log)
  | .send sender input deposited feeReceived => send s sender input deposited feeReceived
  | .sendAndCall sender input deposited feeReceived =>
    sendAndCall s s.blockchainID self sender input deposited feeReceived
  | .addCollateral sender remote deposited => addCollateral s sender remote deposited
  | .receiveTeleporterMessage sourceBlockchainID originSenderAddress message success =>
    receiveTeleporterMessage s sourceBlockchainID originSenderAddress message success

end TokenHome

end Ictt
