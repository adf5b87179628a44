import IcmServices.ValidatorManager.Manager

/-!
# `StakingManager`

The storage of `StakingManager.sol` and its entry points over the system they act on: the
staking manager and the validator manager it owns. A call into the staking manager runs the
validator manager's functions with the staking manager as the caller, so that the calls its
`onlyOwner` guard lets through are exactly these.

What the contract reads from outside is part of the context or of the call:

* `keccak256(abi.encodePacked(validationID, nonce))`, its only hash, is `Context.keccak256`, and
  the reward calculator is `Context.calculateReward`;
* `_lock(value)` is the amount that arrived, an argument of the call (`lockedValue`), as
  `NativeTokenStakingManager` (`msg.value`) and `ERC20TokenStakingManager` (the amount
  transferred) return it; `_unlock` and `_reward` are logged;
* `block.timestamp`, the caller and the verified warp message at `messageIndex` are arguments.
-/

namespace StakingManager

open Solidity Function

variable {ID : Type}

/-- `MAXIMUM_STAKE_MULTIPLIER_LIMIT`. -/
def maximumStakeMultiplierLimit : ℕ := 10

/-- `MAXIMUM_DELEGATION_FEE_BIPS`. -/
def maximumDelegationFeeBips : ℕ := 10000

/-- `BIPS_CONVERSION_FACTOR`. -/
def bipsConversionFactor : ℕ := 10000

/-- `DelegatorStatus`. -/
inductive DelegatorStatus
  | unknown
  | pendingAdded
  | active
  | pendingRemoved
  deriving DecidableEq, Repr, Inhabited

/-- `PoSValidatorInfo`. -/
structure PoSValidatorInfo where
  owner : Address
  delegationFeeBips : ℕ
  minStakeDuration : ℕ
  uptimeSeconds : ℕ
  deriving DecidableEq, Repr, Inhabited

/-- `Delegator`. -/
structure Delegator (ID : Type) where
  status : DelegatorStatus
  owner : Address
  validationID : ID
  weight : ℕ
  startTime : ℕ
  startingNonce : ℕ
  endingNonce : ℕ
  deriving DecidableEq, Repr

/-- A deleted delegation: every field zero. -/
instance [Zero ID] : Inhabited (Delegator ID) := ⟨⟨.unknown, 0, 0, 0, 0, 0, 0⟩⟩

/-- `StakingManagerSettings`; the manager and the reward calculator are checked to be nonzero
addresses, and what they do is the context's. -/
structure StakingManagerSettings where
  manager : Address
  minimumStakeAmount : ℕ
  maximumStakeAmount : ℕ
  minimumStakeDuration : ℕ
  minimumDelegationFeeBips : ℕ
  maximumStakeMultiplier : ℕ
  weightToValueFactor : ℕ
  rewardCalculator : Address
  uptimeBlockchainID : Bytes32
  deriving DecidableEq, Repr

/-- `StakingManagerStorage`. -/
structure State (ID : Type) where
  minimumStakeAmount : ℕ
  maximumStakeAmount : ℕ
  minimumStakeDuration : ℕ
  minimumDelegationFeeBips : ℕ
  maximumStakeMultiplier : ℕ
  weightToValueFactor : ℕ
  uptimeBlockchainID : Bytes32
  posValidatorInfo : ID → PoSValidatorInfo
  delegatorStakes : ID → Delegator ID
  redeemableDelegatorRewards : ID → ℕ
  delegatorRewardRecipients : ID → Address
  redeemableValidatorRewards : ID → ℕ
  rewardRecipients : ID → Address

/-- The staking manager and the validator manager it calls. -/
structure System (ID : Type) where
  manager : ValidatorManager.State ID
  staking : State ID

/-- What the staking manager reads from its chain: the validator manager's context, its own
address (the validator manager's owner), the hash of a delegation and the reward calculator. -/
structure Context (ID : Type) where
  manager : ValidatorManager.Context ID
  self : Address
  keccak256 : ID → ℕ → ID
  calculateReward : (stakeAmount validatorStartTime stakingStartTime stakingEndTime
    uptimeSeconds : ℕ) → ℕ

/-- The staking manager owns the validator manager: the validator manager's `onlyOwner` lets no
one else through. -/
def Context.OwnsManager (ctx : Context ID) : Prop :=
  ∀ sender, ctx.manager.onlyOwner sender = .ok () → sender = ctx.self

/-- The events of `IStakingManager`, what the validator manager emitted, and the token
movements. -/
inductive Log (ID : Type)
  | manager (l : ValidatorManager.Log ID)
  | lock (value : ℕ)
  | unlock (recipient : Address) (value : ℕ)
  | reward (account : Address) (amount : ℕ)
  | sendWarpMessage (payload : ValidatorManager.Payload ID)
  | initiatedStakingValidatorRegistration (validationID : ID) (owner : Address)
      (delegationFeeBips minStakeDuration : ℕ) (rewardRecipient : Address)
  | uptimeUpdated (validationID : ID) (uptime : ℕ)
  | validatorRewardRecipientChanged (validationID : ID) (recipient oldRecipient : Address)
  | delegatorRewardRecipientChanged (delegationID : ID) (recipient oldRecipient : Address)
  | validatorRewardClaimed (validationID : ID) (recipient : Address) (amount : ℕ)
  | delegatorRewardClaimed (delegationID : ID) (recipient : Address) (amount : ℕ)
  | initiatedDelegatorRegistration (delegationID validationID : ID) (delegatorAddress : Address)
      (nonce validatorWeight delegatorWeight : ℕ) (rewardRecipient : Address)
  | completedDelegatorRegistration (delegationID validationID : ID) (startTime : ℕ)
  | initiatedDelegatorRemoval (delegationID validationID : ID)
  | completedDelegatorRemoval (delegationID validationID : ID) (rewards fees : ℕ)

section
variable [DecidableEq ID] [Zero ID]

/-- `__StakingManager_init_unchained` on fresh storage, next to the validator manager `manager`. -/
def stakingManagerInit (settings : StakingManagerSettings)
    (manager : ValidatorManager.State ID) : Except String (State ID) := do
  require (¬ (settings.minimumDelegationFeeBips = 0 ∨
    settings.minimumDelegationFeeBips > maximumDelegationFeeBips)) "InvalidDelegationFee"
  require (¬ settings.minimumStakeAmount > settings.maximumStakeAmount) "InvalidStakeAmount"
  require (¬ (settings.maximumStakeMultiplier = 0 ∨
    settings.maximumStakeMultiplier > maximumStakeMultiplierLimit)) "InvalidStakeMultiplier"
  require (settings.manager ≠ 0) "ZeroAddress"
  require (settings.rewardCalculator ≠ 0) "ZeroAddress"
  require (¬ settings.minimumStakeDuration < manager.churnPeriodSeconds) "InvalidMinStakeDuration"
  require (settings.weightToValueFactor ≠ 0) "ZeroWeightToValueFactor"
  require (settings.uptimeBlockchainID ≠ 0) "InvalidUptimeBlockchainID"
  pure
    { minimumStakeAmount := settings.minimumStakeAmount
      maximumStakeAmount := settings.maximumStakeAmount
      minimumStakeDuration := settings.minimumStakeDuration
      minimumDelegationFeeBips := settings.minimumDelegationFeeBips
      maximumStakeMultiplier := settings.maximumStakeMultiplier
      weightToValueFactor := settings.weightToValueFactor
      uptimeBlockchainID := settings.uptimeBlockchainID
      posValidatorInfo := fun _ => default
      delegatorStakes := fun _ => default
      redeemableDelegatorRewards := fun _ => 0
      delegatorRewardRecipients := fun _ => 0
      redeemableValidatorRewards := fun _ => 0
      rewardRecipients := fun _ => 0 }

/-- `_isPoSValidator`. -/
def isPoSValidator (s : State ID) (validationID : ID) : Bool :=
  (s.posValidatorInfo validationID).owner ≠ 0

/-- `valueToWeight`. -/
def valueToWeight (s : State ID) (value : ℕ) : Except String ℕ := do
  let weight ← checkedDiv value s.weightToValueFactor
  require (¬ (weight = 0 ∨ weight > 2 ^ 64 - 1)) "InvalidStakeAmount"
  pure weight

/-- `weightToValue`. -/
def weightToValue (s : State ID) (weight : ℕ) : Except String ℕ :=
  checkedMul 256 weight s.weightToValueFactor

/-- `_updateUptime`: the stored uptime, raised to the proof's when that is higher. -/
def updateUptime (s : State ID) (validationID : ID)
    (message : Option (ValidatorManager.WarpMessage ID)) :
    Except String (ℕ × State ID × List (Log ID)) := do
  let warpMessage ← match message with
    | none => throw "InvalidWarpMessage"
    | some warpMessage => pure warpMessage
  require (warpMessage.sourceChainID = s.uptimeBlockchainID) "InvalidWarpSourceChainID"
  require (warpMessage.originSenderAddress = 0) "InvalidWarpOriginSenderAddress"
  let (uptimeValidationID, uptime) ←
    ValidatorManager.unpackValidationUptimeMessage warpMessage.payload
  require (validationID = uptimeValidationID) "UnexpectedValidationID"
  let info := s.posValidatorInfo validationID
  if uptime > info.uptimeSeconds then
    pure (uptime,
      { s with
        posValidatorInfo := update s.posValidatorInfo validationID
          { info with uptimeSeconds := uptime } },
      [.uptimeUpdated validationID uptime])
  else pure (info.uptimeSeconds, s, [])

/-- `_withdrawValidationRewards`. -/
def withdrawValidationRewards (s : State ID) (rewardRecipient : Address) (validationID : ID) :
    State ID × List (Log ID) :=
  let rewards := s.redeemableValidatorRewards validationID
  ({ s with redeemableValidatorRewards := update s.redeemableValidatorRewards validationID 0 },
    [.reward rewardRecipient rewards, .validatorRewardClaimed validationID rewardRecipient rewards])

/-- `_withdrawDelegationRewards`: the delegator's rewards, less the validator's fee. -/
def withdrawDelegationRewards (s : State ID) (rewardRecipient : Address)
    (delegationID validationID : ID) : Except String (ℕ × ℕ × State ID × List (Log ID)) := do
  let rewards := s.redeemableDelegatorRewards delegationID
  if rewards > 0 then do
    let s := { s with
      redeemableDelegatorRewards := update s.redeemableDelegatorRewards delegationID 0 }
    let fees ← checkedMul 256 rewards (s.posValidatorInfo validationID).delegationFeeBips
    let validatorFees := fees / bipsConversionFactor
    let total ← checkedAdd 256 (s.redeemableValidatorRewards validationID) validatorFees
    let s := { s with
      redeemableValidatorRewards := update s.redeemableValidatorRewards validationID total }
    let delegationRewards ← checkedSub rewards validatorFees
    pure (delegationRewards, validatorFees, s,
      [.reward rewardRecipient delegationRewards,
        .delegatorRewardClaimed delegationID rewardRecipient delegationRewards])
  else pure (0, 0, s, [])

/-- The rewards of a validator's own stake for the period it validated. -/
def validatorReward (ctx : Context ID) (stakeAmount : ℕ) (validator : ValidatorManager.Validator)
    (uptimeSeconds : ℕ) : ℕ :=
  ctx.calculateReward stakeAmount validator.startTime validator.startTime validator.endTime
    uptimeSeconds

/-- The uptime of a removal: the proof's when one is included (`_updateUptime`), else the
stored one. -/
def removalUptime (s : State ID) (validationID : ID) (includeUptimeProof : Bool)
    (message : Option (ValidatorManager.WarpMessage ID)) :
    Except String (ℕ × State ID × List (Log ID)) :=
  if includeUptimeProof then updateUptime s validationID message
  else pure ((s.posValidatorInfo validationID).uptimeSeconds, s, [])

/-- The weight update a delegation waits for: when it is `needed`, the validator manager completes
the update in `message`, which must be for `validationID` with a nonce of at least `nonce`. -/
def completeWeightUpdateIf (ctx : Context ID) (manager : ValidatorManager.State ID)
    (needed : Prop) [Decidable needed] (validationID : ID) (nonce : ℕ)
    (message : Option (ValidatorManager.WarpMessage ID)) :
    Except String (ValidatorManager.State ID × List (Log ID)) :=
  if needed then do
    let ((messageValidationID, messageNonce), manager, l) ←
      ValidatorManager.completeValidatorWeightUpdate ctx.manager manager ctx.self message
    require (validationID = messageValidationID) "UnexpectedValidationID"
    require (¬ messageNonce < nonce) "InvalidNonce"
    pure (manager, l.map .manager)
  else pure (manager, [])

/-- The end of a delegation's reward period: its validator's end, or now while it validates. -/
def delegationEndTime (validator : ValidatorManager.Validator) (timestamp : ℕ) :
    Except String ℕ :=
  if validator.status = .pendingRemoved ∨ validator.status = .completed then
    pure validator.endTime
  else if validator.status = .active then pure (timestamp % 2 ^ 64)
  else throw "InvalidValidatorStatus"

/-! ## Validators -/

/-- `_initiateValidatorRegistration`, as the two wrappers call it. -/
def initiateValidatorRegistration (ctx : Context ID) (s : System ID) (sender : Address)
    (timestamp : ℕ) (nodeID blsPublicKey : Bytes)
    (remainingBalanceOwner disableOwner : ValidatorManager.PChainOwner)
    (delegationFeeBips minStakeDuration stakeAmount : ℕ) (rewardRecipient : Address)
    (lockedValue : ℕ) : Except String (ID × System ID × List (Log ID)) := do
  require (¬ (delegationFeeBips < s.staking.minimumDelegationFeeBips ∨
    delegationFeeBips > maximumDelegationFeeBips)) "InvalidDelegationFee"
  require (¬ minStakeDuration < s.staking.minimumStakeDuration) "InvalidMinStakeDuration"
  require (¬ (stakeAmount < s.staking.minimumStakeAmount ∨
    stakeAmount > s.staking.maximumStakeAmount)) "InvalidStakeAmount"
  require (rewardRecipient ≠ 0) "InvalidRewardRecipient"
  let weight ← valueToWeight s.staking lockedValue
  let (validationID, manager, l) ← ValidatorManager.initiateValidatorRegistration ctx.manager
    s.manager ctx.self timestamp nodeID blsPublicKey remainingBalanceOwner disableOwner weight
  let staking := { s.staking with
    posValidatorInfo := update s.staking.posValidatorInfo validationID
      ⟨sender, delegationFeeBips, minStakeDuration, 0⟩
    rewardRecipients := update s.staking.rewardRecipients validationID rewardRecipient }
  pure (validationID, ⟨manager, staking⟩,
    .lock lockedValue :: l.map .manager ++
      [.initiatedStakingValidatorRegistration validationID sender delegationFeeBips
        minStakeDuration rewardRecipient])

/-- `completeValidatorRegistration`. -/
def completeValidatorRegistration (ctx : Context ID) (s : System ID) (timestamp : ℕ)
    (message : Option (ValidatorManager.WarpMessage ID)) :
    Except String (ID × System ID × List (Log ID)) := do
  let (validationID, manager, l) ←
    ValidatorManager.completeValidatorRegistration ctx.manager s.manager ctx.self timestamp message
  pure (validationID, { s with manager }, l.map .manager)

/-- `submitUptimeProof`. -/
def submitUptimeProof (s : System ID) (validationID : ID)
    (message : Option (ValidatorManager.WarpMessage ID)) :
    Except String (System ID × List (Log ID)) := do
  require (isPoSValidator s.staking validationID = true) "ValidatorNotPoS"
  require ((s.manager.validationPeriods validationID).status = .active) "InvalidValidatorStatus"
  let (_, staking, l) ← updateUptime s.staking validationID message
  pure ({ s with staking }, l)

/-- `claimDelegationFees`. -/
def claimDelegationFees (s : System ID) (sender : Address) (validationID : ID) :
    Except String (System ID × List (Log ID)) := do
  require ((s.manager.validationPeriods validationID).status = .completed) "InvalidValidatorStatus"
  let owner := (s.staking.posValidatorInfo validationID).owner
  require (owner = sender) "UnauthorizedOwner"
  let rewardRecipient := s.staking.rewardRecipients validationID
  let rewardRecipient := if rewardRecipient = 0 then owner else rewardRecipient
  let (staking, l) := withdrawValidationRewards s.staking rewardRecipient validationID
  pure ({ s with staking }, l)

/-- `changeValidatorRewardRecipient`. -/
def changeValidatorRewardRecipient (s : State ID) (sender : Address) (validationID : ID)
    (rewardRecipient : Address) : Except String (State ID × List (Log ID)) := do
  require (rewardRecipient ≠ 0) "InvalidRewardRecipient"
  require ((s.posValidatorInfo validationID).owner = sender) "UnauthorizedOwner"
  let currentRecipient := s.rewardRecipients validationID
  pure ({ s with rewardRecipients := update s.rewardRecipients validationID rewardRecipient },
    [.validatorRewardRecipientChanged validationID rewardRecipient currentRecipient])

/-- `changeDelegatorRewardRecipient`. -/
def changeDelegatorRewardRecipient (s : State ID) (sender : Address) (delegationID : ID)
    (rewardRecipient : Address) : Except String (State ID × List (Log ID)) := do
  require (rewardRecipient ≠ 0) "InvalidRewardRecipient"
  require ((s.delegatorStakes delegationID).owner = sender) "UnauthorizedOwner"
  let currentRecipient := s.delegatorRewardRecipients delegationID
  pure ({ s with
      delegatorRewardRecipients := update s.delegatorRewardRecipients delegationID rewardRecipient },
    [.delegatorRewardRecipientChanged delegationID rewardRecipient currentRecipient])

/-- `_initiatePoSValidatorRemoval`: whether the validator may claim rewards, or needs none. -/
def initiatePoSValidatorRemoval (ctx : Context ID) (s : System ID) (sender : Address)
    (timestamp : ℕ) (validationID : ID) (includeUptimeProof : Bool)
    (message : Option (ValidatorManager.WarpMessage ID)) :
    Except String (Bool × System ID × List (Log ID)) := do
  let (manager, l) ←
    ValidatorManager.initiateValidatorRemoval ctx.manager s.manager ctx.self timestamp validationID
  let validator := manager.validationPeriods validationID
  if isPoSValidator s.staking validationID = false then
    pure (true, { s with manager }, l.map .manager)
  else do
    let info := s.staking.posValidatorInfo validationID
    require (info.owner = sender) "UnauthorizedOwner"
    let minEnd ← checkedAdd 64 validator.startTime info.minStakeDuration
    require (¬ validator.endTime < minEnd) "MinStakeDurationNotPassed"
    let (uptimeSeconds, staking, l') ←
      removalUptime s.staking validationID includeUptimeProof message
    let stakeAmount ← weightToValue staking validator.startingWeight
    let reward := validatorReward ctx stakeAmount validator uptimeSeconds
    let total ← checkedAdd 256 (staking.redeemableValidatorRewards validationID) reward
    let staking := { staking with
      redeemableValidatorRewards := update staking.redeemableValidatorRewards validationID total }
    pure (decide (reward > 0), ⟨manager, staking⟩, l.map .manager ++ l')

/-- `initiateValidatorRemoval`, through `_initiateValidatorRemovalWithCheck`. -/
def initiateValidatorRemoval (ctx : Context ID) (s : System ID) (sender : Address)
    (timestamp : ℕ) (validationID : ID) (includeUptimeProof : Bool)
    (message : Option (ValidatorManager.WarpMessage ID)) :
    Except String (System ID × List (Log ID)) := do
  let (eligible, s, l) ← initiatePoSValidatorRemoval ctx s sender timestamp validationID
    includeUptimeProof message
  require (eligible = true) "ValidatorIneligibleForRewards"
  pure (s, l)

/-- `forceInitiateValidatorRemoval`. -/
def forceInitiateValidatorRemoval (ctx : Context ID) (s : System ID) (sender : Address)
    (timestamp : ℕ) (validationID : ID) (includeUptimeProof : Bool)
    (message : Option (ValidatorManager.WarpMessage ID)) :
    Except String (System ID × List (Log ID)) := do
  let (_, s, l) ← initiatePoSValidatorRemoval ctx s sender timestamp validationID
    includeUptimeProof message
  pure (s, l)

/-- `completeValidatorRemoval`: the rewards of a completed validator, and the stake back. -/
def completeValidatorRemoval (ctx : Context ID) (s : System ID)
    (message : Option (ValidatorManager.WarpMessage ID)) :
    Except String (ID × System ID × List (Log ID)) := do
  let (validationID, manager, l) ←
    ValidatorManager.completeValidatorRemoval ctx.manager s.manager ctx.self message
  let validator := manager.validationPeriods validationID
  if isPoSValidator s.staking validationID = false then
    pure (validationID, { s with manager }, l.map .manager)
  else do
    let owner := (s.staking.posValidatorInfo validationID).owner
    let rewardRecipient := s.staking.rewardRecipients validationID
    let rewardRecipient := if rewardRecipient = 0 then owner else rewardRecipient
    let (staking, l') := if validator.status = .completed then
        withdrawValidationRewards s.staking rewardRecipient validationID
      else (s.staking, [])
    let value ← weightToValue staking validator.startingWeight
    pure (validationID, ⟨manager, staking⟩, l.map .manager ++ l' ++ [.unlock owner value])

/-! ## Delegators -/

/-- `_initiateDelegatorRegistration`: raise the validator's weight by the delegation's and record
the delegation under the hash of the validation ID and the weight update's nonce. -/
def initiateDelegatorRegistration (ctx : Context ID) (s : System ID) (sender : Address)
    (timestamp : ℕ) (validationID : ID) (rewardRecipient : Address) (lockedValue : ℕ) :
    Except String (ID × System ID × List (Log ID)) := do
  let weight ← valueToWeight s.staking lockedValue
  require (isPoSValidator s.staking validationID = true) "ValidatorNotPoS"
  require (rewardRecipient ≠ 0) "InvalidRewardRecipient"
  let validator := s.manager.validationPeriods validationID
  let newValidatorWeight ← checkedAdd 64 validator.weight weight
  let maximumWeight ← checkedMul 64 validator.startingWeight s.staking.maximumStakeMultiplier
  require (¬ newValidatorWeight > maximumWeight) "MaxWeightExceeded"
  let (nonce, manager, l) ← ValidatorManager.initiateValidatorWeightUpdate ctx.manager s.manager
    ctx.self timestamp validationID newValidatorWeight
  let delegationID := ctx.keccak256 validationID nonce
  let staking := { s.staking with
    delegatorStakes := update s.staking.delegatorStakes delegationID
      ⟨.pendingAdded, sender, validationID, weight, 0, nonce, 0⟩
    delegatorRewardRecipients :=
      update s.staking.delegatorRewardRecipients delegationID rewardRecipient }
  pure (delegationID, ⟨manager, staking⟩,
    .lock lockedValue :: l.map .manager ++
      [.initiatedDelegatorRegistration delegationID validationID sender nonce newValidatorWeight
        weight rewardRecipient])

/-- `_completeDelegatorRemoval`: delete the delegation, pay its rewards and unlock its stake. -/
def completeDelegatorRemovalInternal (s : System ID) (timestamp : ℕ) (delegationID : ID) :
    Except String (System ID × List (Log ID)) := do
  let delegator := s.staking.delegatorStakes delegationID
  let validationID := delegator.validationID
  let minEnd ← checkedAdd 64 delegator.startTime s.manager.churnPeriodSeconds
  require (¬ timestamp < minEnd) "MinStakeDurationNotPassed"
  let rewardRecipient := s.staking.delegatorRewardRecipients delegationID
  let staking := { s.staking with
    delegatorStakes := update s.staking.delegatorStakes delegationID default
    delegatorRewardRecipients := update s.staking.delegatorRewardRecipients delegationID 0 }
  let rewardRecipient := if rewardRecipient = 0 then delegator.owner else rewardRecipient
  let (delegationRewards, validatorFees, staking, l) ←
    withdrawDelegationRewards staking rewardRecipient delegationID validationID
  let value ← weightToValue staking delegator.weight
  pure ({ s with staking }, l ++ [.unlock delegator.owner value,
    .completedDelegatorRemoval delegationID validationID delegationRewards validatorFees])

/-- `completeDelegatorRegistration`. -/
def completeDelegatorRegistration (ctx : Context ID) (s : System ID) (timestamp : ℕ)
    (delegationID : ID) (message : Option (ValidatorManager.WarpMessage ID)) :
    Except String (System ID × List (Log ID)) := do
  let delegator := s.staking.delegatorStakes delegationID
  let validationID := delegator.validationID
  let validator := s.manager.validationPeriods validationID
  require (delegator.status = .pendingAdded) "InvalidDelegatorStatus"
  -- a completed validator takes no more stake: the delegation ends at once
  if validator.status = .completed then completeDelegatorRemovalInternal s timestamp delegationID
  else do
    let (manager, l) ← completeWeightUpdateIf ctx s.manager
      (validator.receivedNonce < delegator.startingNonce) validationID delegator.startingNonce
      message
    let staking := { s.staking with
      delegatorStakes := update s.staking.delegatorStakes delegationID
        { delegator with status := .active, startTime := timestamp % 2 ^ 64 } }
    pure (⟨manager, staking⟩,
      l ++ [.completedDelegatorRegistration delegationID validationID (timestamp % 2 ^ 64)])

/-- `_calculateAndSetDelegationReward`: the reward of `delegator` up to the end of its validator's
period or now. -/
def calculateAndSetDelegationReward (ctx : Context ID) (s : System ID) (timestamp : ℕ)
    (delegator : Delegator ID) (rewardRecipient : Address) (delegationID : ID) :
    Except String (ℕ × State ID) := do
  let validator := s.manager.validationPeriods delegator.validationID
  let delegationEndTime ← delegationEndTime validator timestamp
  if delegationEndTime ≤ delegator.startTime then pure (0, s.staking)
  else do
    let stakeAmount ← weightToValue s.staking delegator.weight
    let reward := ctx.calculateReward stakeAmount validator.startTime delegator.startTime
      delegationEndTime (s.staking.posValidatorInfo delegator.validationID).uptimeSeconds
    let rewardRecipient := if rewardRecipient = 0 then delegator.owner else rewardRecipient
    pure (reward, { s.staking with
      redeemableDelegatorRewards := update s.staking.redeemableDelegatorRewards delegationID reward
      delegatorRewardRecipients :=
        update s.staking.delegatorRewardRecipients delegationID rewardRecipient })

/-- Who may end a delegation in `_initiateDelegatorRemoval`: its delegator, or its validator's
owner once the validator's minimum stake duration has passed. -/
def checkDelegationRemover (s : System ID) (sender : Address) (timestamp : ℕ)
    (delegator : Delegator ID) : Except String Unit :=
  if delegator.owner ≠ sender then do
    let info := s.staking.posValidatorInfo delegator.validationID
    require (info.owner = sender) "UnauthorizedOwner"
    let minEnd ← checkedAdd 64 (s.manager.validationPeriods delegator.validationID).startTime
      info.minStakeDuration
    require (¬ timestamp < minEnd) "MinStakeDurationNotPassed"
  else pure ()

/-- `_initiateDelegatorRemoval`: whether the delegator may claim rewards, or needs none. -/
def initiateDelegatorRemovalInternal (ctx : Context ID) (s : System ID) (sender : Address)
    (timestamp : ℕ) (delegationID : ID) (includeUptimeProof : Bool)
    (message : Option (ValidatorManager.WarpMessage ID)) :
    Except String (Bool × System ID × List (Log ID)) := do
  let delegator := s.staking.delegatorStakes delegationID
  let validationID := delegator.validationID
  let validator := s.manager.validationPeriods validationID
  require (delegator.status = .active) "InvalidDelegatorStatus"
  checkDelegationRemover s sender timestamp delegator
  let rewardRecipient := s.staking.delegatorRewardRecipients delegationID
  if validator.status = .active then do
    let minEnd ← checkedAdd 64 delegator.startTime s.staking.minimumStakeDuration
    require (¬ timestamp < minEnd) "MinStakeDurationNotPassed"
    let (_, staking, l) ← removalUptime s.staking validationID includeUptimeProof message
    let staking := { staking with
      delegatorStakes := update staking.delegatorStakes delegationID
        { staking.delegatorStakes delegationID with status := .pendingRemoved } }
    let newWeight ← checkedSub validator.weight delegator.weight
    let (nonce, manager, l') ← ValidatorManager.initiateValidatorWeightUpdate ctx.manager
      s.manager ctx.self timestamp validationID newWeight
    let staking := { staking with
      delegatorStakes := update staking.delegatorStakes delegationID
        { staking.delegatorStakes delegationID with endingNonce := nonce } }
    let (reward, staking) ← calculateAndSetDelegationReward ctx ⟨manager, staking⟩ timestamp
      delegator rewardRecipient delegationID
    pure (decide (reward > 0), ⟨manager, staking⟩,
      l ++ l'.map .manager ++ [.initiatedDelegatorRemoval delegationID validationID])
  else if validator.status = .completed then do
    let (_, staking) ← calculateAndSetDelegationReward ctx s timestamp delegator rewardRecipient
      delegationID
    let (s, l) ← completeDelegatorRemovalInternal { s with staking } timestamp delegationID
    pure (true, s, l)
  else throw "InvalidValidatorStatus"

/-- `initiateDelegatorRemoval`, through `_initiateDelegatorRemovalWithCheck`. -/
def initiateDelegatorRemoval (ctx : Context ID) (s : System ID) (sender : Address)
    (timestamp : ℕ) (delegationID : ID) (includeUptimeProof : Bool)
    (message : Option (ValidatorManager.WarpMessage ID)) :
    Except String (System ID × List (Log ID)) := do
  let (eligible, s, l) ← initiateDelegatorRemovalInternal ctx s sender timestamp delegationID
    includeUptimeProof message
  require (eligible = true) "DelegatorIneligibleForRewards"
  pure (s, l)

/-- `forceInitiateDelegatorRemoval`. -/
def forceInitiateDelegatorRemoval (ctx : Context ID) (s : System ID) (sender : Address)
    (timestamp : ℕ) (delegationID : ID) (includeUptimeProof : Bool)
    (message : Option (ValidatorManager.WarpMessage ID)) :
    Except String (System ID × List (Log ID)) := do
  let (_, s, l) ← initiateDelegatorRemovalInternal ctx s sender timestamp delegationID
    includeUptimeProof message
  pure (s, l)

/-- `resendUpdateDelegator`: the validator's latest weight, with its latest nonce. -/
def resendUpdateDelegator (s : System ID) (delegationID : ID) :
    Except String (System ID × List (Log ID)) := do
  let delegator := s.staking.delegatorStakes delegationID
  require (¬ (delegator.status ≠ .pendingAdded ∧ delegator.status ≠ .pendingRemoved))
    "InvalidDelegatorStatus"
  let validator := s.manager.validationPeriods delegator.validationID
  require (validator.sentNonce ≠ 0) "InvalidDelegationID"
  pure (s, [.sendWarpMessage
    (.l1ValidatorWeight delegator.validationID validator.sentNonce validator.weight)])

/-- `completeDelegatorRemoval`. -/
def completeDelegatorRemoval (ctx : Context ID) (s : System ID) (timestamp : ℕ)
    (delegationID : ID) (message : Option (ValidatorManager.WarpMessage ID)) :
    Except String (System ID × List (Log ID)) := do
  let delegator := s.staking.delegatorStakes delegationID
  require (delegator.status = .pendingRemoved) "InvalidDelegatorStatus"
  let validator := s.manager.validationPeriods delegator.validationID
  -- a weight update with a nonce at least the ending nonce is needed unless one arrived
  let (manager, l) ← completeWeightUpdateIf ctx s.manager
    (validator.status ≠ .completed ∧ validator.receivedNonce < delegator.endingNonce)
    delegator.validationID delegator.endingNonce message
  let (s, l') ← completeDelegatorRemovalInternal { s with manager } timestamp delegationID
  pure (s, l ++ l')

end

/-! ## The system's calls -/

/-- The caller of a call into the validator manager, for the calls that take one. -/
def callerOf : ValidatorManager.Call ID → Option Address
  | .initiateValidatorRegistration sender .. => some sender
  | .completeValidatorRegistration sender .. => some sender
  | .initiateValidatorRemoval sender .. => some sender
  | .completeValidatorRemoval sender .. => some sender
  | .initiateValidatorWeightUpdate sender .. => some sender
  | .completeValidatorWeightUpdate sender .. => some sender
  | _ => none

/-- The calls into the system: the staking manager's entry points, and a call straight to the
validator manager (`manager`) from an account that is not the staking manager. -/
inductive Call (ID : Type)
  | manager (c : ValidatorManager.Call ID)
  | initiateValidatorRegistration (sender : Address) (timestamp : ℕ) (nodeID blsPublicKey : Bytes)
      (remainingBalanceOwner disableOwner : ValidatorManager.PChainOwner)
      (delegationFeeBips minStakeDuration stakeAmount : ℕ) (rewardRecipient : Address)
      (lockedValue : ℕ)
  | completeValidatorRegistration (timestamp : ℕ) (message : Option (ValidatorManager.WarpMessage ID))
  | submitUptimeProof (validationID : ID) (message : Option (ValidatorManager.WarpMessage ID))
  | claimDelegationFees (sender : Address) (validationID : ID)
  | changeValidatorRewardRecipient (sender : Address) (validationID : ID)
      (rewardRecipient : Address)
  | changeDelegatorRewardRecipient (sender : Address) (delegationID : ID)
      (rewardRecipient : Address)
  | initiateValidatorRemoval (sender : Address) (timestamp : ℕ) (validationID : ID)
      (includeUptimeProof : Bool) (message : Option (ValidatorManager.WarpMessage ID))
  | forceInitiateValidatorRemoval (sender : Address) (timestamp : ℕ) (validationID : ID)
      (includeUptimeProof : Bool) (message : Option (ValidatorManager.WarpMessage ID))
  | completeValidatorRemoval (message : Option (ValidatorManager.WarpMessage ID))
  | initiateDelegatorRegistration (sender : Address) (timestamp : ℕ) (validationID : ID)
      (rewardRecipient : Address) (lockedValue : ℕ)
  | completeDelegatorRegistration (timestamp : ℕ) (delegationID : ID)
      (message : Option (ValidatorManager.WarpMessage ID))
  | initiateDelegatorRemoval (sender : Address) (timestamp : ℕ) (delegationID : ID)
      (includeUptimeProof : Bool) (message : Option (ValidatorManager.WarpMessage ID))
  | forceInitiateDelegatorRemoval (sender : Address) (timestamp : ℕ) (delegationID : ID)
      (includeUptimeProof : Bool) (message : Option (ValidatorManager.WarpMessage ID))
  | resendUpdateDelegator (delegationID : ID)
  | completeDelegatorRemoval (timestamp : ℕ) (delegationID : ID)
      (message : Option (ValidatorManager.WarpMessage ID))

variable [DecidableEq ID] [Zero ID]

/-- One successful call into the system; what a function returns besides the state is dropped. -/
def step (ctx : Context ID) (s : System ID) : Call ID → Except String (System ID × List (Log ID))
  | .manager c => do
    require (callerOf c ≠ some ctx.self) "the staking manager makes no such call"
    let (manager, l) ← ValidatorManager.step ctx.manager s.manager c
    pure ({ s with manager }, l.map .manager)
  | .initiateValidatorRegistration sender timestamp nodeID blsPublicKey rbo disableOwner
      delegationFeeBips minStakeDuration stakeAmount rewardRecipient lockedValue =>
    (fun r => r.2) <$> initiateValidatorRegistration ctx s sender timestamp nodeID blsPublicKey
      rbo disableOwner delegationFeeBips minStakeDuration stakeAmount rewardRecipient lockedValue
  | .completeValidatorRegistration timestamp message =>
    (fun r => r.2) <$> completeValidatorRegistration ctx s timestamp message
  | .submitUptimeProof validationID message => submitUptimeProof s validationID message
  | .claimDelegationFees sender validationID => claimDelegationFees s sender validationID
  | .changeValidatorRewardRecipient sender validationID rewardRecipient => do
    let (staking, l) ← changeValidatorRewardRecipient s.staking sender validationID rewardRecipient
    pure ({ s with staking }, l)
  | .changeDelegatorRewardRecipient sender delegationID rewardRecipient => do
    let (staking, l) ← changeDelegatorRewardRecipient s.staking sender delegationID rewardRecipient
    pure ({ s with staking }, l)
  | .initiateValidatorRemoval sender timestamp validationID includeUptimeProof message =>
    initiateValidatorRemoval ctx s sender timestamp validationID includeUptimeProof message
  | .forceInitiateValidatorRemoval sender timestamp validationID includeUptimeProof message =>
    forceInitiateValidatorRemoval ctx s sender timestamp validationID includeUptimeProof message
  | .completeValidatorRemoval message =>
    (fun r => r.2) <$> completeValidatorRemoval ctx s message
  | .initiateDelegatorRegistration sender timestamp validationID rewardRecipient lockedValue =>
    (fun r => r.2) <$> initiateDelegatorRegistration ctx s sender timestamp validationID
      rewardRecipient lockedValue
  | .completeDelegatorRegistration timestamp delegationID message =>
    completeDelegatorRegistration ctx s timestamp delegationID message
  | .initiateDelegatorRemoval sender timestamp delegationID includeUptimeProof message =>
    initiateDelegatorRemoval ctx s sender timestamp delegationID includeUptimeProof message
  | .forceInitiateDelegatorRemoval sender timestamp delegationID includeUptimeProof message =>
    forceInitiateDelegatorRemoval ctx s sender timestamp delegationID includeUptimeProof message
  | .resendUpdateDelegator delegationID => resendUpdateDelegator s delegationID
  | .completeDelegatorRemoval timestamp delegationID message =>
    completeDelegatorRemoval ctx s timestamp delegationID message

end StakingManager
