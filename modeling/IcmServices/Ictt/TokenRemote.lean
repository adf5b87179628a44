import IcmServices.Ictt.TokenHome
import IcmServices.Lib.ERC20
import IcmServices.Teleporter.Types

/-!
# `TokenRemote`

The storage of `TokenRemote.sol` with what its two wrappers add, and their entry points. A remote
is itself an ERC-20 (`token`): the remote token of an `ERC20TokenRemote`, the wrapped native
token of a `NativeTokenRemote`, kept by the operations of OpenZeppelin's `ERC20`, the parameter
`erc20`. The wrappers differ in four hooks, modelled as one definition
each that looks at `kind`:

* `withdraw` (`_withdraw`) mints the remote token, or has the native minter create coins;
* `burn` (`_burn`) burns the sender's tokens, or sends the coins that came with the call to
  `BURNED_FOR_TRANSFER_ADDRESS`;
* `handleSendAndCall` mints to the remote and lets the recipient contract take tokens (an
  allowance, or the value of the call), the rest going to the fallback recipient;
* `handleFees` is the same in both.

Native coins are not a ledger of the remote: what happens to them is in the log
(`mintNativeCoin`, `sendValue`), and the chain around the remote (`Ictt.Network`) follows the two
burn addresses. `reportBurnedTxFees` reads the balance of `BURNED_TX_FEES_ADDRESS`, an argument of
`step`. A recipient contract's call is its outcome `success` and, for an ERC-20 remote, the
amount `spent` it took of its allowance. Fees in another token than the remote's own arrive as
`feeReceived`, as at the home.
-/

namespace Ictt

open Solidity Function TokenScalingUtils

namespace TokenRemote

/-- The wrapper a remote is deployed as. -/
inductive Kind
  | erc20
  | native
  deriving DecidableEq, Repr

/-- `BURNED_TX_FEES_ADDRESS`, where a chain's transaction fees are burned. -/
def burnedTxFeesAddress : Address := 0x0100000000000000000000000000000000000000

/-- `BURNED_FOR_TRANSFER_ADDRESS`, where a native remote burns what it sends away. -/
def burnedForTransferAddress : Address := 0x0100000000000000000000000000000000010203

/-- `HOME_CHAIN_BURN_ADDRESS`, the recipient at home of a report of burned fees. -/
def homeChainBurnAddress : Address := 0x0100000000000000000000000000000000010203

/-- `MULTI_HOP_SEND_REQUIRED_GAS`. -/
def multiHopSendRequiredGas : ℕ := 340000

/-- `MULTI_HOP_CALL_REQUIRED_GAS`. -/
def multiHopCallRequiredGas : ℕ := 350000

/-- `MULTI_HOP_CALL_GAS_PER_WORD`. -/
def multiHopCallGasPerWord : ℕ := 1500

/-- `REGISTER_REMOTE_REQUIRED_GAS`. -/
def registerRemoteRequiredGas : ℕ := 130000

/-- `calculateNumWords`: the 32-byte words of a payload. -/
def calculateNumWords (payloadSize : ℕ) : ℕ := (payloadSize + 31) / 32

/-- `TokenRemoteSettings`, without the registry settings of `TeleporterRegistryApp`. -/
structure TokenRemoteSettings where
  tokenHomeBlockchainID : Bytes32
  tokenHomeAddress : Address
  tokenHomeDecimals : ℕ
  deriving DecidableEq, Repr

/-- `TokenRemoteStorage`, the ERC-20 the remote is, `NativeTokenRemoteStorage` (zero for an
ERC-20 remote), and the messenger the registry names. -/
structure State where
  kind : Kind
  blockchainID : Bytes32
  teleporterMessenger : Address
  tokenHomeBlockchainID : Bytes32
  tokenHomeAddress : Address
  initialReserveImbalance : ℕ
  isRegistered : Bool
  isCollateralized : Bool
  homeTokenDecimals : ℕ
  tokenDecimals : ℕ
  tokenMultiplier : ℕ
  multiplyOnRemote : Bool
  token : ERC20.Token
  totalMinted : ℕ
  lastestBurnedFeesReported : ℕ
  burnedFeesReportingRewardPercentage : ℕ

/-- The events of the remotes, the messages handed to Teleporter, and what becomes of native
coins: created by the native minter, or sent from the remote (with a call or alone). -/
inductive Log
  | tokensWithdrawn (recipient : Address) (amount : ℕ)
  | callSucceeded (recipientContract : Address) (amount : ℕ)
  | callFailed (recipientContract : Address) (amount : ℕ)
  | tokensSent (sender : Address) (input : SendTokensInput) (amount : ℕ)
  | tokensAndCallSent (sender : Address) (input : SendAndCallInput) (amount : ℕ)
  | reportBurnedTxFees (feesBurned : ℕ)
  | deposit (dst : Address) (wad : ℕ)
  | withdrawal (src : Address) (wad : ℕ)
  | mintNativeCoin (recipient : Address) (amount : ℕ)
  | sendValue (recipient : Address) (amount : ℕ)
  | sendTeleporterMessage (destination : Remote) (feeTokenAddress : Address)
      (fee requiredGasLimit : ℕ) (message : TransferrerMessage)

/-- An empty token. -/
def emptyToken : ERC20.Token := ⟨⟨fun _ => 0, fun _ _ => 0⟩, 0⟩

/-- `__TokenRemote_init_unchained` on the chain `blockchainID`. -/
def tokenRemoteInit (kind : Kind) (blockchainID : Bytes32) (teleporterMessenger : Address)
    (settings : TokenRemoteSettings) (initialReserveImbalance tokenDecimals : ℕ) :
    Except String State := do
  require (settings.tokenHomeBlockchainID ≠ 0) "TokenRemote: zero token home blockchain ID"
  require (settings.tokenHomeBlockchainID ≠ blockchainID)
    "TokenRemote: cannot deploy to same blockchain as token home"
  require (settings.tokenHomeAddress ≠ 0) "TokenRemote: zero token home address"
  require (settings.tokenHomeDecimals ≤ maxTokenDecimals)
    "TokenRemote: token home decimals too high"
  require (tokenDecimals ≤ maxTokenDecimals) "TokenRemote: token decimals too high"
  let (tokenMultiplier, multiplyOnRemote) ←
    deriveTokenMultiplierValues settings.tokenHomeDecimals tokenDecimals
  pure
    { kind, blockchainID, teleporterMessenger
      tokenHomeBlockchainID := settings.tokenHomeBlockchainID
      tokenHomeAddress := settings.tokenHomeAddress
      initialReserveImbalance
      isRegistered := false
      isCollateralized := decide (initialReserveImbalance = 0)
      homeTokenDecimals := settings.tokenHomeDecimals
      tokenDecimals, tokenMultiplier, multiplyOnRemote
      token := emptyToken
      totalMinted := 0
      lastestBurnedFeesReported := 0
      burnedFeesReportingRewardPercentage := 0 }

/-- `ERC20TokenRemote.initialize`: no reserve imbalance. -/
def erc20TokenRemoteInit (blockchainID : Bytes32) (teleporterMessenger : Address)
    (settings : TokenRemoteSettings) (tokenDecimals : ℕ) : Except String State :=
  tokenRemoteInit .erc20 blockchainID teleporterMessenger settings 0 tokenDecimals

/-- `NativeTokenRemote.initialize`: the native coin has 18 decimals, and the coins in
circulation before any collateral are the reserve imbalance. -/
def nativeTokenRemoteInit (blockchainID : Bytes32) (teleporterMessenger : Address)
    (settings : TokenRemoteSettings) (initialReserveImbalance
      burnedFeesReportingRewardPercentage : ℕ) : Except String State := do
  require (initialReserveImbalance ≠ 0) "NativeTokenRemote: zero initial reserve imbalance"
  let s ← tokenRemoteInit .native blockchainID teleporterMessenger settings
    initialReserveImbalance 18
  require (burnedFeesReportingRewardPercentage < 100) "NativeTokenRemote: invalid percentage"
  pure { s with burnedFeesReportingRewardPercentage }

/-- `totalNativeAssetSupply`, from the balances of the two burn addresses. -/
def totalNativeAssetSupply (s : State) (burnedTxFees burnedForTransfer : ℕ) :
    Except String ℕ := do
  let burned ← checkedAdd 256 burnedTxFees burnedForTransfer
  let created ← checkedAdd 256 s.totalMinted s.initialReserveImbalance
  checkedSub created burned

/-! ## The hooks of the two wrappers -/

-- the `ERC20` of OpenZeppelin that the remote inherits
variable (erc20 : ERC20.Ledger)

/-- `_mintNativeCoin`: count the coins, and have the native minter create them. -/
def mintNativeCoin (s : State) (recipient : Address) (amount : ℕ) :
    Except String (State × List Log) := do
  let totalMinted ← checkedAdd 256 s.totalMinted amount
  pure ({ s with totalMinted }, [.mintNativeCoin recipient amount])

/-- `_withdraw`. -/
def withdraw (s : State) (recipient : Address) (amount : ℕ) : Except String (State × List Log) :=
  match s.kind with
  | .erc20 => do
    let token ← erc20.mint s.token recipient amount
    pure ({ s with token }, [.tokensWithdrawn recipient amount])
  | .native => do
    let (s, l) ← mintNativeCoin s recipient amount
    pure (s, .tokensWithdrawn recipient amount :: l)

/-- `_burn`, on behalf of `sender`; both wrappers burn the whole amount. -/
def burn (s : State) (self sender : Address) (amount : ℕ) : Except String (State × List Log) :=
  match s.kind with
  | .erc20 => do
    let token ← s.token.ledger (erc20.spendAllowance · sender self amount)
    let token ← erc20.burn token sender amount
    pure ({ s with token }, [])
  | .native =>
    -- the coins came with the call
    pure (s, [.sendValue burnedForTransferAddress amount])

/-- The call of a recipient contract, as the remote's token sees it: a call that succeeds has
moved `spent` of its allowance to itself. -/
def recipientCall (token : ERC20.Token) (self recipientContract : Address) (success : Bool)
    (spent : ℕ) : Except String ERC20.Token :=
  if success then token.ledger (erc20.transferFrom · recipientContract self recipientContract spent)
  else pure token

/-- `_handleSendAndCall`. -/
def handleSendAndCall (s : State) (self : Address) (message : SingleHopCallMessage)
    (amount : ℕ) (success : Bool) (spent : ℕ) : Except String (State × List Log) :=
  match s.kind with
  | .erc20 => do
    let token ← erc20.mint s.token self amount
    let token ← token.ledger (erc20.approve · self message.recipientContract amount)
    let token ← recipientCall erc20 token self message.recipientContract success spent
    let remainingAllowance := token.allowance self message.recipientContract
    let token ← token.ledger (erc20.approve · self message.recipientContract 0)
    let e := if success then Log.callSucceeded message.recipientContract amount
      else .callFailed message.recipientContract amount
    if remainingAllowance > 0 then do
      let token ← token.ledger (erc20.transfer · self message.fallbackRecipient
        remainingAllowance)
      pure ({ s with token }, [e])
    else pure ({ s with token }, [e])
  | .native => do
    let (s, l) ← mintNativeCoin s self amount
    -- the coins go with the call; a failed call leaves them for the fallback recipient
    if success then
      pure (s, l ++ [.sendValue message.recipientContract amount,
        .callSucceeded message.recipientContract amount])
    else
      pure (s, l ++ [.callFailed message.recipientContract amount,
        .sendValue message.fallbackRecipient amount])

/-- `_handleFees`: what of the fee arrived. -/
def handleFees (s : State) (self sender feeTokenAddress : Address) (feeAmount feeReceived : ℕ) :
    Except String (State × ℕ) :=
  if feeAmount = 0 then pure (s, 0)
  else if feeTokenAddress = self then do
    let token ← s.token.ledger (erc20.spendAllowance · sender self feeAmount)
    let token ← token.ledger (erc20.transfer · sender self feeAmount)
    pure ({ s with token }, feeAmount)
  else pure (s, feeReceived)

/-- The fee of a message, as the remote's own token sees it: `TeleporterRegistryApp` allows the
messenger the fee, and the messenger pulls it. -/
def teleporterFee (s : State) (self feeTokenAddress : Address) (fee : ℕ) :
    Except String ERC20.Token :=
  if fee > 0 then do
    require (feeTokenAddress ≠ 0) "TeleporterRegistryApp: zero fee token address"
    if feeTokenAddress = self then do
      let token ← s.token.ledger (erc20.safeIncreaseAllowance · self s.teleporterMessenger fee)
      token.ledger (erc20.transferFrom · s.teleporterMessenger self s.teleporterMessenger fee)
    else pure s.token
  else pure s.token

/-- `_sendTeleporterMessage` of `TeleporterRegistryApp`, to the home. -/
def sendTeleporterMessage (s : State) (self feeTokenAddress : Address)
    (fee requiredGasLimit : ℕ) (message : TransferrerMessage) :
    Except String (State × List Log) := do
  let token ← teleporterFee erc20 s self feeTokenAddress fee
  pure ({ s with token }, [.sendTeleporterMessage (s.tokenHomeBlockchainID, s.tokenHomeAddress)
    feeTokenAddress fee requiredGasLimit message])

/-! ## Sends -/

/-- `_validateSendTokensInput`. -/
def validateSendTokensInput (input : SendTokensInput) : Except String Unit := do
  require (input.recipient ≠ 0) "TokenRemote: zero recipient address"
  require (input.requiredGasLimit > 0) "TokenRemote: zero required gas limit"
  require (input.destinationBlockchainID ≠ 0) "TokenRemote: zero destination blockchain ID"
  require (input.destinationTokenTransferrerAddress ≠ 0)
    "TokenRemote: zero destination token transferrer address"

/-- `_validateSendAndCallInput`. -/
def validateSendAndCallInput (input : SendAndCallInput) : Except String Unit := do
  require (input.destinationBlockchainID ≠ 0) "TokenRemote: zero destination blockchain ID"
  require (input.destinationTokenTransferrerAddress ≠ 0)
    "TokenRemote: zero destination token transferrer address"
  require (input.recipientContract ≠ 0) "TokenRemote: zero recipient contract address"
  require (input.requiredGasLimit > 0) "TokenRemote: zero required gas limit"
  require (input.recipientGasLimit > 0) "TokenRemote: zero recipient gas limit"
  require (input.recipientGasLimit < input.requiredGasLimit)
    "TokenRemote: invalid recipient gas limit"
  require (input.fallbackRecipient ≠ 0) "TokenRemote: zero fallback recipient address"

/-- `_validateSingleHopInput`. -/
def validateSingleHopInput (s : State) (destinationTokenTransferrerAddress : Address)
    (secondaryFee : ℕ) (multiHopFallback : Address) : Except String Unit := do
  require (destinationTokenTransferrerAddress = s.tokenHomeAddress)
    "TokenRemote: invalid destination token transferrer address"
  require (secondaryFee = 0) "TokenRemote: non-zero secondary fee"
  require (multiHopFallback = 0) "TokenRemote: non-zero multi-hop fallback"

/-- `_validateMultiHopInput`. -/
def validateMultiHopInput (s : State) (self : Address) (destinationBlockchainID : Bytes32)
    (destinationTokenTransferrerAddress multiHopFallback : Address) : Except String Unit := do
  -- another transferrer on this chain is a destination, this one is not
  if destinationBlockchainID = s.blockchainID then
    require (destinationTokenTransferrerAddress ≠ self)
      "TokenRemote: invalid destination token transferrer address"
  require (multiHopFallback ≠ 0) "TokenRemote: zero multi-hop fallback"

/-- `_prepareSend`: burn the amount, take the fee, and check that the amount is worth more at
home than the secondary fee. Returns the log, the amount and the fee. -/
def prepareSend (s : State) (self sender : Address) (amount : ℕ)
    (primaryFeeTokenAddress : Address) (primaryFee secondaryFee feeReceived : ℕ) :
    Except String (State × List Log × ℕ × ℕ) := do
  let (s, l) ← burn erc20 s self sender amount
  let (s, primaryFee) ← handleFees erc20 s self sender primaryFeeTokenAddress primaryFee feeReceived
  let homeAmount ← removeTokenScale s.tokenMultiplier s.multiplyOnRemote amount
  let homeFee ← removeTokenScale s.tokenMultiplier s.multiplyOnRemote secondaryFee
  require (homeAmount > homeFee) "TokenRemote: insufficient tokens to transfer"
  pure (s, l, amount, primaryFee)

/-- `_processSend`. -/
def processSend (s : State) (self sender : Address) (input : SendTokensInput)
    (amount feeReceived : ℕ) : Except String (State × List Log) := do
  validateSingleHopInput s input.destinationTokenTransferrerAddress input.secondaryFee
    input.multiHopFallback
  let (s, l₁, amount, primaryFee) ← prepareSend erc20 s self sender amount
    input.primaryFeeTokenAddress input.primaryFee input.secondaryFee feeReceived
  let (s, l₂) ← sendTeleporterMessage erc20 s self input.primaryFeeTokenAddress primaryFee
    input.requiredGasLimit (.singleHopSend ⟨input.recipient, amount⟩)
  pure (s, l₁ ++ l₂ ++ [.tokensSent sender input amount])

/-- `_processSendMultiHop`. -/
def processSendMultiHop (s : State) (self sender : Address) (input : SendTokensInput)
    (amount feeReceived : ℕ) : Except String (State × List Log) := do
  validateMultiHopInput s self input.destinationBlockchainID
    input.destinationTokenTransferrerAddress input.multiHopFallback
  let (s, l₁, amount, primaryFee) ← prepareSend erc20 s self sender amount
    input.primaryFeeTokenAddress input.primaryFee input.secondaryFee feeReceived
  let (s, l₂) ← sendTeleporterMessage erc20 s self input.primaryFeeTokenAddress primaryFee
    multiHopSendRequiredGas (.multiHopSend ⟨input.destinationBlockchainID,
      input.destinationTokenTransferrerAddress, input.recipient, amount, input.secondaryFee,
      input.requiredGasLimit, input.multiHopFallback⟩)
  pure (s, l₁ ++ l₂ ++ [.tokensSent sender input amount])

/-- `_processSendAndCall`. -/
def processSendAndCall (s : State) (self sender : Address) (input : SendAndCallInput)
    (amount feeReceived : ℕ) : Except String (State × List Log) := do
  validateSingleHopInput s input.destinationTokenTransferrerAddress input.secondaryFee
    input.multiHopFallback
  let (s, l₁, amount, primaryFee) ← prepareSend erc20 s self sender amount
    input.primaryFeeTokenAddress input.primaryFee input.secondaryFee feeReceived
  let (s, l₂) ← sendTeleporterMessage erc20 s self input.primaryFeeTokenAddress primaryFee
    input.requiredGasLimit (.singleHopCall ⟨s.blockchainID, self, sender, input.recipientContract,
      amount, input.recipientPayload, input.recipientGasLimit, input.fallbackRecipient⟩)
  pure (s, l₁ ++ l₂ ++ [.tokensAndCallSent sender input amount])

/-- `_processSendAndCallMultiHop`: the first hop's gas grows with the payload. -/
def processSendAndCallMultiHop (s : State) (self sender : Address) (input : SendAndCallInput)
    (amount feeReceived : ℕ) : Except String (State × List Log) := do
  validateMultiHopInput s self input.destinationBlockchainID
    input.destinationTokenTransferrerAddress input.multiHopFallback
  let (s, l₁, amount, primaryFee) ← prepareSend erc20 s self sender amount
    input.primaryFeeTokenAddress input.primaryFee input.secondaryFee feeReceived
  let messageRequiredGasLimit := multiHopCallRequiredGas +
    calculateNumWords input.recipientPayload.length * multiHopCallGasPerWord
  let (s, l₂) ← sendTeleporterMessage erc20 s self input.primaryFeeTokenAddress primaryFee
    messageRequiredGasLimit (.multiHopCall ⟨sender, input.destinationBlockchainID,
      input.destinationTokenTransferrerAddress, input.recipientContract, amount,
      input.recipientPayload, input.recipientGasLimit, input.fallbackRecipient,
      input.requiredGasLimit, input.multiHopFallback, input.secondaryFee⟩)
  pure (s, l₁ ++ l₂ ++ [.tokensAndCallSent sender input amount])

/-- `_send`: to the home, or through it. -/
def send (s : State) (self sender : Address) (input : SendTokensInput)
    (amount feeReceived : ℕ) : Except String (State × List Log) := do
  validateSendTokensInput input
  if input.destinationBlockchainID = s.tokenHomeBlockchainID then
    processSend erc20 s self sender input amount feeReceived
  else processSendMultiHop erc20 s self sender input amount feeReceived

/-- `_sendAndCall`. -/
def sendAndCall (s : State) (self sender : Address) (input : SendAndCallInput)
    (amount feeReceived : ℕ) : Except String (State × List Log) := do
  validateSendAndCallInput input
  if input.destinationBlockchainID = s.tokenHomeBlockchainID then
    processSendAndCall erc20 s self sender input amount feeReceived
  else processSendAndCallMultiHop erc20 s self sender input amount feeReceived

/-- `registerWithHome`. -/
def registerWithHome (s : State) (self sender : Address) (feeInfo : Teleporter.TeleporterFeeInfo)
    (feeReceived : ℕ) : Except String (State × List Log) := do
  require (s.isRegistered = false) "TokenRemote: already registered"
  let (s, feeAmount) ← handleFees erc20 s self sender feeInfo.feeTokenAddress feeInfo.amount
    feeReceived
  sendTeleporterMessage erc20 s self feeInfo.feeTokenAddress feeAmount registerRemoteRequiredGas
    (.registerRemote ⟨s.initialReserveImbalance, s.homeTokenDecimals, s.tokenDecimals⟩)

/-- `_receiveTeleporterMessage`: only single hops, only from the home. The first message from
the home shows that the remote is registered and collateralized. -/
def receiveTeleporterMessage (s : State) (self : Address) (sourceBlockchainID : Bytes32)
    (originSenderAddress : Address) (message : TransferrerMessage) (success : Bool)
    (spent : ℕ) : Except String (State × List Log) := do
  require (sourceBlockchainID = s.tokenHomeBlockchainID) "TokenRemote: invalid source blockchain ID"
  require (originSenderAddress = s.tokenHomeAddress) "TokenRemote: invalid origin sender address"
  let s := if s.isRegistered = false ∨ s.isCollateralized = false then
      { s with isRegistered := true, isCollateralized := true }
    else s
  match message with
  | .singleHopSend payload => withdraw erc20 s payload.recipient payload.amount
  | .singleHopCall payload => handleSendAndCall erc20 s self payload payload.amount success spent
  | _ => throw "TokenRemote: invalid message type"

/-! ## What only a `NativeTokenRemote` has -/

/-- The re-mint of a report's reward to the remote, as coins and as wrapped tokens. -/
def mintReward (s : State) (self : Address) (reward : ℕ) : Except String (State × List Log) :=
  if reward > 0 then do
    let (s, l) ← mintNativeCoin s self reward
    let token ← erc20.mint s.token self reward
    pure ({ s with token }, l)
  else pure (s, [])

/-- `reportBurnedTxFees`, with the balance of `BURNED_TX_FEES_ADDRESS`: the new burned fees go
home, less a reward re-minted to the remote as wrapped tokens that pays the message fee. -/
def reportBurnedTxFees (s : State) (self : Address) (requiredGasLimit burnAddressBalance : ℕ) :
    Except String (State × List Log) := do
  require (burnAddressBalance > s.lastestBurnedFeesReported)
    "NativeTokenRemote: burn address balance not greater than last report"
  let burnedDifference := burnAddressBalance - s.lastestBurnedFeesReported
  let reward ← checkedMul 256 burnedDifference s.burnedFeesReportingRewardPercentage
  let reward := reward / 100
  let burnedTxFees ← checkedSub burnedDifference reward
  let s := { s with lastestBurnedFeesReported := burnAddressBalance }
  let (s, l₁) ← mintReward erc20 s self reward
  let homeAmount ← removeTokenScale s.tokenMultiplier s.multiplyOnRemote burnedTxFees
  require (homeAmount > 0) "NativeTokenRemote: zero scaled amount to report burn"
  let (s, l₂) ← sendTeleporterMessage erc20 s self self reward requiredGasLimit
    (.singleHopSend ⟨homeChainBurnAddress, burnedTxFees⟩)
  pure (s, l₁ ++ l₂ ++ [.reportBurnedTxFees burnedTxFees])

/-- `deposit`: coins in, wrapped tokens out. -/
def deposit (s : State) (sender : Address) (value : ℕ) : Except String (State × List Log) := do
  let token ← erc20.mint s.token sender value
  pure ({ s with token }, [.deposit sender value])

/-- `withdraw` of the wrapped token (not `_withdraw`): wrapped tokens in, coins out. -/
def withdrawWrapped (s : State) (sender : Address) (amount : ℕ) :
    Except String (State × List Log) := do
  let token ← erc20.burn s.token sender amount
  pure ({ s with token }, [.withdrawal sender amount, .sendValue sender amount])

/-- `onlyWhenCollateralized`, on the sends of a native remote. -/
def onlyWhenCollateralized (s : State) : Except String Unit :=
  match s.kind with
  | .erc20 => pure ()
  | .native => require (s.isCollateralized = true) "NativeTokenRemote: contract undercollateralized"

/-- The calls into a remote: the wrappers' entry points, the ERC-20 interface of the token, and
the delivery of a Teleporter message. For a native remote `amount` of a send is the value of the
call. -/
inductive Call
  | send (sender : Address) (input : SendTokensInput) (amount feeReceived : ℕ)
  | sendAndCall (sender : Address) (input : SendAndCallInput) (amount feeReceived : ℕ)
  | registerWithHome (sender : Address) (feeInfo : Teleporter.TeleporterFeeInfo)
      (feeReceived : ℕ)
  | reportBurnedTxFees (requiredGasLimit : ℕ)
  | deposit (sender : Address) (value : ℕ)
  | withdraw (sender : Address) (amount : ℕ)
  | transfer (sender dst : Address) (value : ℕ)
  | approve (sender spender : Address) (value : ℕ)
  | transferFrom (sender src dst : Address) (value : ℕ)
  | receiveTeleporterMessage (sourceBlockchainID : Bytes32) (originSenderAddress : Address)
      (message : TransferrerMessage) (success : Bool) (spent : ℕ)

/-- One successful call into the remote at `self`, on a chain where `BURNED_TX_FEES_ADDRESS`
holds `burnedTxFees`. The native-only functions revert on an ERC-20 remote, which has none. -/
def step (self : Address) (burnedTxFees : ℕ) (s : State) : Call → Except String (State × List Log)
  | .send sender input amount feeReceived => do
    onlyWhenCollateralized s
    send erc20 s self sender input amount feeReceived
  | .sendAndCall sender input amount feeReceived => do
    onlyWhenCollateralized s
    sendAndCall erc20 s self sender input amount feeReceived
  | .registerWithHome sender feeInfo feeReceived =>
    registerWithHome erc20 s self sender feeInfo feeReceived
  | .reportBurnedTxFees requiredGasLimit => match s.kind with
    | .native => reportBurnedTxFees erc20 s self requiredGasLimit burnedTxFees
    | .erc20 => throw ""
  | .deposit sender value => match s.kind with
    | .native => deposit erc20 s sender value
    | .erc20 => throw ""
  | .withdraw sender amount => match s.kind with
    | .native => withdrawWrapped erc20 s sender amount
    | .erc20 => throw ""
  | .transfer sender dst value => do
    let token ← s.token.ledger (erc20.transfer · sender dst value)
    pure ({ s with token }, [])
  | .approve sender spender value => do
    let token ← s.token.ledger (erc20.approve · sender spender value)
    pure ({ s with token }, [])
  | .transferFrom sender src dst value => do
    let token ← s.token.ledger (erc20.transferFrom · sender src dst value)
    pure ({ s with token }, [])
  | .receiveTeleporterMessage sourceBlockchainID originSenderAddress message success spent =>
    receiveTeleporterMessage erc20 s self sourceBlockchainID originSenderAddress message success spent

end TokenRemote

end Ictt
