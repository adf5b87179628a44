import IcmServices.ValidatorManager.Messages
import IcmServices.Lib.Exec
import Mathlib.Logic.Function.Basic

/-!
# `ValidatorManager`

The storage of `ValidatorManager.sol` and its entry points, each a function from the state to the
new state and what it emitted (events and warp messages), or a revert. `block.timestamp` and the
caller are arguments of each call, and `getVerifiedWarpMessage(messageIndex)` is the warp message
the call is given (`none` when it is not valid).

* `initializeValidatorSet` installs the initial validators in the loop `initialValidatorsLoop`,
  one iteration per validator, with the index `i` a `uint32`.
* `checkAndUpdateChurnTracker` is `_checkAndUpdateChurnTracker`: every weight change goes through
  it and moves the tracked total weight by the change.
* `step` is one successful call; `Contract.Exec step` its runs.
-/

namespace ValidatorManager

open Solidity Function BigEndian

/-- What the contract reads from its chain: the SHA-256 precompile, the warp precompile's
blockchain ID and its own address; and the `onlyOwner` check of OpenZeppelin's
`OwnableUpgradeable`, which passes for the owner and reverts for any other caller. Who the owner
is (`__Ownable_init`, `transferOwnership`, `renounceOwnership`) is that library's. -/
structure Context (ID : Type) where
  sha256 : Bytes → ID
  blockchainID : Bytes32
  self : Address
  onlyOwner : Address → Except String Unit

/-- `REGISTRATION_EXPIRY_LENGTH`: one day. -/
def registrationExpiryLength : ℕ := 86400

/-- `MAXIMUM_CHURN_PERIOD_LENGTH`. -/
def maximumChurnPeriodLength : ℕ := registrationExpiryLength

/-- `MAXIMUM_CHURN_PERCENTAGE_LIMIT`. -/
def maximumChurnPercentageLimit : ℕ := 20

/-- `NODE_ID_LENGTH`. -/
def nodeIDLength : ℕ := 20

/-- `BLS_PUBLIC_KEY_LENGTH`. -/
def blsPublicKeyLength : ℕ := 48

/-- `P_CHAIN_BLOCKCHAIN_ID`. -/
def pChainBlockchainID : Bytes32 := 0

/-- `ValidatorManagerSettings`, without the `admin` that `__Ownable_init` takes. -/
structure ValidatorManagerSettings where
  subnetID : Bytes32
  churnPeriodSeconds : ℕ
  maximumChurnPercentage : ℕ
  deriving DecidableEq, Repr

/-- `ValidatorManagerStorage`. -/
structure State (ID : Type) where
  subnetID : Bytes32
  churnPeriodSeconds : ℕ
  maximumChurnPercentage : ℕ
  churnTracker : ValidatorChurnPeriod
  pendingRegisterValidationMessages : ID → Bytes
  registeredValidators : Bytes → ID
  initializedValidatorSet : Bool
  validationPeriods : ID → Validator

/-- The events of `IACP99Manager` and the messages submitted to the warp precompile. -/
inductive Log (ID : Type)
  | registeredInitialValidator (validationID : ID) (nodeID : Bytes) (subnetID : Bytes32)
      (weight : ℕ)
  | initiatedValidatorRegistration (validationID : ID) (nodeID : Bytes)
      (registrationExpiry weight : ℕ)
  | completedValidatorRegistration (validationID : ID) (weight : ℕ)
  | initiatedValidatorRemoval (validationID : ID) (weight endTime : ℕ)
  | completedValidatorRemoval (validationID : ID)
  | initiatedValidatorWeightUpdate (validationID : ID) (nonce weight : ℕ)
  | completedValidatorWeightUpdate (validationID : ID) (nonce weight : ℕ)
  | sendWarpMessage (payload : Payload ID)

/-- `_fixedNodeID`: the first 20 bytes of a node ID, as a `bytes20`. -/
def fixedNodeID (nodeID : Bytes) : Bytes := nodeID.take 20

variable {ID : Type} [DecidableEq ID] [Zero ID]

/-- `__ValidatorManager_init_unchained` on fresh storage, as `initialize` runs it. -/
def validatorManagerInit (settings : ValidatorManagerSettings) : Except String (State ID) := do
  require (¬ (settings.maximumChurnPercentage > maximumChurnPercentageLimit ∨
    settings.maximumChurnPercentage = 0)) "InvalidMaximumChurnPercentage"
  require (¬ settings.churnPeriodSeconds > maximumChurnPeriodLength) "InvalidChurnPeriodLength"
  pure
    { subnetID := settings.subnetID
      churnPeriodSeconds := settings.churnPeriodSeconds
      maximumChurnPercentage := settings.maximumChurnPercentage
      churnTracker := default
      pendingRegisterValidationMessages := fun _ => []
      registeredValidators := fun _ => 0
      initializedValidatorSet := false
      validationPeriods := fun _ => default }

/-- `_getPChainWarpMessage`. -/
def getPChainWarpMessage : Option (WarpMessage ID) → Except String (WarpMessage ID)
  | none => throw "InvalidWarpMessage"
  | some warpMessage => do
    require (warpMessage.sourceChainID = pChainBlockchainID) "InvalidWarpSourceChainID"
    require (warpMessage.originSenderAddress = 0) "InvalidWarpOriginSenderAddress"
    pure warpMessage

/-- The loop of `initializeValidatorSet` from index `i`: registers each initial validator as
active and adds its weight to `totalWeight`. -/
def initialValidatorsLoop (ctx : Context ID) (timestamp : ℕ) (subnetID : Bytes32) :
    ℕ → List InitialValidator → State ID → ℕ → Except String (State ID × ℕ × List (Log ID))
  | _, [], s, totalWeight => pure (s, totalWeight, [])
  | i, initialValidator :: rest, s, totalWeight => do
    require (s.registeredValidators initialValidator.nodeID = 0) "NodeAlreadyRegistered"
    require (initialValidator.nodeID.length = nodeIDLength) "InvalidNodeID"
    let validationID := ctx.sha256 (toBytes 32 subnetID.toNat ++ toBytes 4 i)
    let validator := s.validationPeriods validationID
    let s := { s with
      registeredValidators := update s.registeredValidators initialValidator.nodeID validationID
      validationPeriods := update s.validationPeriods validationID
        { validator with
          status := .active
          nodeID := initialValidator.nodeID
          startingWeight := initialValidator.weight.toNat
          sentNonce := 0
          weight := initialValidator.weight.toNat
          startTime := timestamp % 2 ^ 64
          endTime := 0 } }
    let totalWeight ← checkedAdd 64 totalWeight initialValidator.weight.toNat
    let e := Log.registeredInitialValidator validationID (fixedNodeID initialValidator.nodeID)
      subnetID initialValidator.weight.toNat
    let i ← checkedAdd 32 i 1
    let (s, totalWeight, l) ← initialValidatorsLoop ctx timestamp subnetID i rest s totalWeight
    pure (s, totalWeight, e :: l)

/-- `initializeValidatorSet`. -/
def initializeValidatorSet (ctx : Context ID) (s : State ID) (timestamp : ℕ)
    (conversionData : ConversionData) (message : Option (WarpMessage ID)) :
    Except String (State ID × List (Log ID)) := do
  require (s.initializedValidatorSet = false) "InvalidInitializationStatus"
  require (conversionData.validatorManagerBlockchainID = ctx.blockchainID)
    "InvalidValidatorManagerBlockchainID"
  require (conversionData.validatorManagerAddress = ctx.self) "InvalidValidatorManagerAddress"
  let warpMessage ← getPChainWarpMessage message
  let conversionID ← unpackSubnetToL1ConversionMessage warpMessage.payload
  let encodedConversionID := ctx.sha256 (packConversionData conversionData)
  require (encodedConversionID = conversionID) "InvalidConversionID"
  let (s, totalWeight, l) ← initialValidatorsLoop ctx timestamp conversionData.subnetID 0
    conversionData.initialValidators s 0
  let s := { s with churnTracker := { s.churnTracker with totalWeight := totalWeight } }
  let lhs ← checkedMul 64 totalWeight s.maximumChurnPercentage
  require (¬ lhs < 100) "InvalidTotalWeight"
  pure ({ s with initializedValidatorSet := true }, l)

/-- The loop of `_validatePChainOwner`: the addresses strictly increase. -/
def checkAddressesSorted : List Address → Except String Unit
  | a :: b :: rest => do
    require (¬ b.toNat ≤ a.toNat) "InvalidPChainOwnerAddresses"
    checkAddressesSorted (b :: rest)
  | _ => pure ()

/-- `_validatePChainOwner`. -/
def validatePChainOwner (pChainOwner : PChainOwner) : Except String Unit := do
  require (¬ (pChainOwner.threshold.toNat = 0 ∧ pChainOwner.addresses.length ≠ 0))
    "InvalidPChainOwnerThreshold"
  require (¬ pChainOwner.threshold.toNat > pChainOwner.addresses.length)
    "InvalidPChainOwnerThreshold"
  require (¬ (pChainOwner.addresses.length > 0 ∧ pChainOwner.addresses.head? = some 0))
    "ZeroAddress"
  checkAddressesSorted pChainOwner.addresses

/-- The weight a change of one validator's weight churns. -/
def weightChange (newValidatorWeight oldValidatorWeight : ℕ) : ℕ :=
  if newValidatorWeight > oldValidatorWeight then newValidatorWeight - oldValidatorWeight
  else oldValidatorWeight - newValidatorWeight

/-- The churn period of `_checkAndUpdateChurnTracker` after a change: a new period starting now
when none has started or the current one is over, else the current one with the change added. -/
def churnPeriod (s : State ID) (timestamp change : ℕ) : Except String ValidatorChurnPeriod := do
  let churnTracker := s.churnTracker
  let reset := { churnTracker with
    churnAmount := change
    startTime := timestamp
    initialWeight := churnTracker.totalWeight }
  if churnTracker.startTime = 0 then pure reset else do
    let periodEnd ← checkedAdd 256 churnTracker.startTime s.churnPeriodSeconds
    if timestamp ≥ periodEnd then pure reset else do
      let churnAmount ← checkedAdd 64 churnTracker.churnAmount change
      pure { churnTracker with churnAmount := churnAmount }

/-- `_checkAndUpdateChurnTracker`. -/
def checkAndUpdateChurnTracker (s : State ID) (timestamp : ℕ)
    (newValidatorWeight oldValidatorWeight : ℕ) : Except String (State ID) := do
  let churnTracker ←
    churnPeriod s timestamp (weightChange newValidatorWeight oldValidatorWeight)
  let allowed ← checkedMul 64 s.maximumChurnPercentage churnTracker.initialWeight
  let churned ← checkedMul 64 churnTracker.churnAmount 100
  require (¬ allowed < churned) "MaxChurnRateExceeded"
  let totalWeight ← checkedAdd 64 churnTracker.totalWeight newValidatorWeight
  let totalWeight ← checkedSub totalWeight oldValidatorWeight
  let lhs ← checkedMul 64 totalWeight s.maximumChurnPercentage
  require (¬ lhs < 100) "InvalidTotalWeight"
  pure { s with churnTracker := { churnTracker with totalWeight := totalWeight } }

/-- `initiateValidatorRegistration` with `_initiateValidatorRegistration`. -/
def initiateValidatorRegistration (ctx : Context ID) (s : State ID) (sender : Address)
    (timestamp : ℕ) (nodeID blsPublicKey : Bytes) (remainingBalanceOwner disableOwner : PChainOwner)
    (weight : ℕ) : Except String (ID × State ID × List (Log ID)) := do
  ctx.onlyOwner sender
  require (s.initializedValidatorSet = true) "InvalidInitializationStatus"
  require (¬ weight + s.churnTracker.totalWeight > 2 ^ 64 - 1) "InvalidTotalWeight"
  validatePChainOwner remainingBalanceOwner
  validatePChainOwner disableOwner
  require (blsPublicKey.length = blsPublicKeyLength) "InvalidBLSKeyLength"
  require (nodeID.length = nodeIDLength) "InvalidNodeID"
  require (s.registeredValidators nodeID = 0) "NodeAlreadyRegistered"
  let s ← checkAndUpdateChurnTracker s timestamp weight 0
  let registrationExpiry ← checkedAdd 64 (timestamp % 2 ^ 64) registrationExpiryLength
  let (validationID, registerL1ValidatorMessage) ← packRegisterL1ValidatorMessage ctx.sha256
    ⟨s.subnetID, nodeID, blsPublicKey, registrationExpiry, remainingBalanceOwner, disableOwner,
      weight⟩
  require ((s.validationPeriods validationID).status = .unknown) "InvalidValidatorStatus"
  let validator := s.validationPeriods validationID
  let s := { s with
    pendingRegisterValidationMessages :=
      update s.pendingRegisterValidationMessages validationID registerL1ValidatorMessage
    registeredValidators := update s.registeredValidators nodeID validationID
    validationPeriods := update s.validationPeriods validationID
      { validator with
        status := .pendingAdded
        nodeID := nodeID
        startingWeight := weight
        sentNonce := 0
        weight := weight
        startTime := 0
        endTime := 0 } }
  pure (validationID, s,
    [.sendWarpMessage (.registerL1Validator registerL1ValidatorMessage),
      .initiatedValidatorRegistration validationID (fixedNodeID nodeID) registrationExpiry weight])

/-- `resendRegisterValidatorMessage`. -/
def resendRegisterValidatorMessage (s : State ID) (validationID : ID) :
    Except String (State ID × List (Log ID)) := do
  require ((s.pendingRegisterValidationMessages validationID).length ≠ 0) "InvalidValidationID"
  require ((s.validationPeriods validationID).status = .pendingAdded) "InvalidValidatorStatus"
  pure (s, [.sendWarpMessage (.registerL1Validator (s.pendingRegisterValidationMessages validationID))])

/-- `completeValidatorRegistration`. -/
def completeValidatorRegistration (ctx : Context ID) (s : State ID) (sender : Address)
    (timestamp : ℕ) (message : Option (WarpMessage ID)) :
    Except String (ID × State ID × List (Log ID)) := do
  ctx.onlyOwner sender
  let warpMessage ← getPChainWarpMessage message
  let (validationID, validRegistration) ←
    unpackL1ValidatorRegistrationMessage warpMessage.payload
  require (validRegistration = true) "UnexpectedRegistrationStatus"
  require ((s.pendingRegisterValidationMessages validationID).length ≠ 0) "InvalidValidationID"
  require ((s.validationPeriods validationID).status = .pendingAdded) "InvalidValidatorStatus"
  let validator := s.validationPeriods validationID
  let s := { s with
    pendingRegisterValidationMessages := update s.pendingRegisterValidationMessages validationID []
    validationPeriods := update s.validationPeriods validationID
      { validator with status := .active, startTime := timestamp % 2 ^ 64 } }
  pure (validationID, s, [.completedValidatorRegistration validationID validator.weight])

/-- `_incrementSentNonce` and the rest of `_initiateValidatorWeightUpdate`. -/
def initiateWeightUpdate (s : State ID) (timestamp : ℕ) (validationID : ID) (newWeight : ℕ) :
    Except String (ℕ × State ID × List (Log ID)) := do
  let validatorWeight := (s.validationPeriods validationID).weight
  let s ← checkAndUpdateChurnTracker s timestamp newWeight validatorWeight
  let nonce ← checkedAdd 64 (s.validationPeriods validationID).sentNonce 1
  let validator := s.validationPeriods validationID
  let s := { s with
    validationPeriods := update s.validationPeriods validationID
      { validator with sentNonce := nonce, weight := newWeight } }
  pure (nonce, s,
    [.sendWarpMessage (.l1ValidatorWeight validationID nonce newWeight),
      .initiatedValidatorWeightUpdate validationID nonce newWeight])

/-- `initiateValidatorRemoval` with `_initiateValidatorRemoval`. -/
def initiateValidatorRemoval (ctx : Context ID) (s : State ID) (sender : Address) (timestamp : ℕ)
    (validationID : ID) : Except String (State ID × List (Log ID)) := do
  ctx.onlyOwner sender
  let validator := s.validationPeriods validationID
  require (validator.status = .active) "InvalidValidatorStatus"
  let validator := { validator with status := .pendingRemoved, endTime := timestamp % 2 ^ 64 }
  let s := { s with validationPeriods := update s.validationPeriods validationID validator }
  let (_, s, l) ← initiateWeightUpdate s timestamp validationID 0
  pure (s, l ++ [.initiatedValidatorRemoval validationID validator.weight (timestamp % 2 ^ 64)])

/-- `resendValidatorRemovalMessage`. -/
def resendValidatorRemovalMessage (s : State ID) (validationID : ID) :
    Except String (State ID × List (Log ID)) := do
  let validator := s.validationPeriods validationID
  require (validator.status = .pendingRemoved) "InvalidValidatorStatus"
  pure (s, [.sendWarpMessage (.l1ValidatorWeight validationID validator.sentNonce 0)])

/-- `completeValidatorRemoval`. -/
def completeValidatorRemoval (ctx : Context ID) (s : State ID) (sender : Address)
    (message : Option (WarpMessage ID)) : Except String (ID × State ID × List (Log ID)) := do
  ctx.onlyOwner sender
  let warpMessage ← getPChainWarpMessage message
  let (validationID, registered) ← unpackL1ValidatorRegistrationMessage warpMessage.payload
  require (registered = false) "UnexpectedRegistrationStatus"
  let validator := s.validationPeriods validationID
  require (validator.status = .pendingRemoved ∨ validator.status = .pendingAdded)
    "InvalidValidatorStatus"
  let (validator, s) ← if validator.status = .pendingRemoved then
      pure ({ validator with status := .completed }, s)
    else do
      -- an expired registration leaves the total without counting as churn
      let totalWeight ← checkedSub s.churnTracker.totalWeight validator.weight
      pure ({ validator with status := .invalidated },
        { s with churnTracker := { s.churnTracker with totalWeight := totalWeight } })
  let s := { s with
    registeredValidators := update s.registeredValidators validator.nodeID 0
    validationPeriods := update s.validationPeriods validationID validator }
  pure (validationID, s, [.completedValidatorRemoval validationID])

/-- `initiateValidatorWeightUpdate`. -/
def initiateValidatorWeightUpdate (ctx : Context ID) (s : State ID) (sender : Address)
    (timestamp : ℕ) (validationID : ID) (newWeight : ℕ) :
    Except String (ℕ × State ID × List (Log ID)) := do
  ctx.onlyOwner sender
  require ((s.validationPeriods validationID).status = .active) "InvalidValidatorStatus"
  initiateWeightUpdate s timestamp validationID newWeight

/-- `completeValidatorWeightUpdate`. -/
def completeValidatorWeightUpdate (ctx : Context ID) (s : State ID) (sender : Address)
    (message : Option (WarpMessage ID)) : Except String ((ID × ℕ) × State ID × List (Log ID)) := do
  ctx.onlyOwner sender
  let warpMessage ← getPChainWarpMessage message
  let (validationID, nonce, weight) ← unpackL1ValidatorWeightMessage warpMessage.payload
  require (¬ (s.validationPeriods validationID).sentNonce < nonce) "InvalidNonce"
  let validator := s.validationPeriods validationID
  let s := { s with
    validationPeriods := update s.validationPeriods validationID
      { validator with receivedNonce := nonce } }
  pure ((validationID, nonce), s, [.completedValidatorWeightUpdate validationID nonce weight])

/-- The external calls of the contract. -/
inductive Call (ID : Type)
  | initializeValidatorSet (timestamp : ℕ) (conversionData : ConversionData)
      (message : Option (WarpMessage ID))
  | initiateValidatorRegistration (sender : Address) (timestamp : ℕ) (nodeID blsPublicKey : Bytes)
      (remainingBalanceOwner disableOwner : PChainOwner) (weight : ℕ)
  | resendRegisterValidatorMessage (validationID : ID)
  | completeValidatorRegistration (sender : Address) (timestamp : ℕ)
      (message : Option (WarpMessage ID))
  | initiateValidatorRemoval (sender : Address) (timestamp : ℕ) (validationID : ID)
  | resendValidatorRemovalMessage (validationID : ID)
  | completeValidatorRemoval (sender : Address) (message : Option (WarpMessage ID))
  | initiateValidatorWeightUpdate (sender : Address) (timestamp : ℕ) (validationID : ID)
      (newWeight : ℕ)
  | completeValidatorWeightUpdate (sender : Address) (message : Option (WarpMessage ID))

/-- One call of the contract; what a function returns besides the state is dropped. -/
def step (ctx : Context ID) (s : State ID) : Call ID → Except String (State ID × List (Log ID))
  | .initializeValidatorSet timestamp conversionData message =>
    initializeValidatorSet ctx s timestamp conversionData message
  | .initiateValidatorRegistration sender timestamp nodeID blsPublicKey rbo disableOwner weight =>
    (fun r => r.2) <$> initiateValidatorRegistration ctx s sender timestamp nodeID blsPublicKey
      rbo disableOwner weight
  | .resendRegisterValidatorMessage validationID => resendRegisterValidatorMessage s validationID
  | .completeValidatorRegistration sender timestamp message =>
    (fun r => r.2) <$> completeValidatorRegistration ctx s sender timestamp message
  | .initiateValidatorRemoval sender timestamp validationID =>
    initiateValidatorRemoval ctx s sender timestamp validationID
  | .resendValidatorRemovalMessage validationID => resendValidatorRemovalMessage s validationID
  | .completeValidatorRemoval sender message =>
    (fun r => r.2) <$> completeValidatorRemoval ctx s sender message
  | .initiateValidatorWeightUpdate sender timestamp validationID newWeight =>
    (fun r => r.2) <$> initiateValidatorWeightUpdate ctx s sender timestamp validationID
      newWeight
  | .completeValidatorWeightUpdate sender message =>
    (fun r => r.2) <$> completeValidatorWeightUpdate ctx s sender message

end ValidatorManager
