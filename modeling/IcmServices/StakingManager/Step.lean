import IcmServices.StakingManager.Manager
import IcmServices.ValidatorManager.Step

/-!
# What one call of the staking manager does

The `_eq_ok` lemmas take each function of `Manager.lean` apart into the checks it passed, the
validator manager's function it called, and the staking manager's storage it wrote. The
bookkeeping functions (uptime, rewards, recipients) write nothing the weight of a validator
depends on: `StakingFrame` says which parts they keep.
-/

namespace StakingManager

open Solidity Function

variable {ID : Type} [DecidableEq ID] [Zero ID]

/-- `s'` keeps what the validators' weights depend on: the delegations, which validators are
PoS, and the multiplier. -/
structure StakingFrame (s s' : State ID) : Prop where
  delegatorStakes : s'.delegatorStakes = s.delegatorStakes
  owner : ∀ validationID,
    (s'.posValidatorInfo validationID).owner = (s.posValidatorInfo validationID).owner
  maximumStakeMultiplier : s'.maximumStakeMultiplier = s.maximumStakeMultiplier

omit [DecidableEq ID] [Zero ID] in
theorem StakingFrame.refl (s : State ID) : StakingFrame s s := ⟨rfl, fun _ => rfl, rfl⟩

omit [DecidableEq ID] [Zero ID] in
theorem StakingFrame.trans {s₁ s₂ s₃ : State ID} (h₁ : StakingFrame s₁ s₂)
    (h₂ : StakingFrame s₂ s₃) : StakingFrame s₁ s₃ :=
  ⟨h₂.1.trans h₁.1, fun v => (h₂.2 v).trans (h₁.2 v), h₂.3.trans h₁.3⟩

section
variable {s s' : State ID} {l : List (Log ID)}

omit [DecidableEq ID] [Zero ID] in
theorem valueToWeight_eq_ok {value weight : ℕ} (h : valueToWeight s value = .ok weight) :
    0 < weight ∧ weight = value / s.weightToValueFactor := by
  simp only [valueToWeight, bind_eq_ok, checkedDiv_eq_ok, require_eq_ok, pure_eq_ok] at h
  obtain ⟨_, ⟨-, rfl⟩, _, hw, rfl⟩ := h
  exact ⟨Nat.pos_of_ne_zero fun h0 => hw (.inl h0), rfl⟩

omit [Zero ID] in
theorem updateUptime_frame {validationID : ID} {message : Option (ValidatorManager.WarpMessage ID)}
    {uptime : ℕ} (h : updateUptime s validationID message = .ok (uptime, s', l)) :
    StakingFrame s s' := by
  cases message with
  | none =>
    obtain ⟨_, h1, -⟩ := bind_eq_ok.1 h
    cases h1
  | some w => ?_
  simp only [updateUptime, bind_eq_ok, require_eq_ok, pure_eq_ok] at h
  obtain ⟨_, -, _, -, _, -, ⟨v, u⟩, -, _, -, h⟩ := h
  split at h
  · simp only [pure_eq_ok, Prod.mk.injEq] at h
    obtain ⟨-, rfl, -⟩ := h
    refine ⟨rfl, fun v' => ?_, rfl⟩
    by_cases hv : v' = validationID
    · subst hv
      simp
    · simp [update_of_ne hv]
  · simp only [pure_eq_ok, Prod.mk.injEq] at h
    obtain ⟨-, rfl, -⟩ := h
    exact .refl s

omit [Zero ID] in
theorem removalUptime_frame {validationID : ID} {includeUptimeProof : Bool}
    {message : Option (ValidatorManager.WarpMessage ID)} {uptime : ℕ}
    (h : removalUptime s validationID includeUptimeProof message = .ok (uptime, s', l)) :
    StakingFrame s s' := by
  unfold removalUptime at h
  split at h
  · exact updateUptime_frame h
  · simp only [pure_eq_ok, Prod.mk.injEq] at h
    obtain ⟨-, rfl, -⟩ := h
    exact .refl s

omit [Zero ID] in
theorem withdrawValidationRewards_frame (rewardRecipient : Address) (validationID : ID) :
    StakingFrame s (withdrawValidationRewards s rewardRecipient validationID).1 :=
  ⟨rfl, fun _ => rfl, rfl⟩

omit [Zero ID] in
theorem withdrawDelegationRewards_frame {rewardRecipient : Address} {delegationID validationID : ID}
    {delegationRewards validatorFees : ℕ}
    (h : withdrawDelegationRewards s rewardRecipient delegationID validationID =
      .ok (delegationRewards, validatorFees, s', l)) : StakingFrame s s' := by
  simp only [withdrawDelegationRewards] at h
  split at h
  · simp only [bind_eq_ok, checkedMul_eq_ok, checkedAdd_eq_ok, checkedSub_eq_ok, pure_eq_ok,
      Prod.mk.injEq] at h
    obtain ⟨_, -, _, -, _, -, -, -, rfl, -⟩ := h
    exact ⟨rfl, fun _ => rfl, rfl⟩
  · simp only [pure_eq_ok, Prod.mk.injEq] at h
    obtain ⟨-, -, rfl, -⟩ := h
    exact .refl s

omit [Zero ID] in
theorem changeValidatorRewardRecipient_frame {sender : Address} {validationID : ID}
    {rewardRecipient : Address}
    (h : changeValidatorRewardRecipient s sender validationID rewardRecipient = .ok (s', l)) :
    StakingFrame s s' := by
  simp only [changeValidatorRewardRecipient, bind_eq_ok, require_eq_ok, pure_eq_ok,
    Prod.mk.injEq] at h
  obtain ⟨_, -, _, -, rfl, -⟩ := h
  exact ⟨rfl, fun _ => rfl, rfl⟩

omit [Zero ID] in
theorem changeDelegatorRewardRecipient_frame {sender : Address} {delegationID : ID}
    {rewardRecipient : Address}
    (h : changeDelegatorRewardRecipient s sender delegationID rewardRecipient = .ok (s', l)) :
    StakingFrame s s' := by
  simp only [changeDelegatorRewardRecipient, bind_eq_ok, require_eq_ok, pure_eq_ok,
    Prod.mk.injEq] at h
  obtain ⟨_, -, _, -, rfl, -⟩ := h
  exact ⟨rfl, fun _ => rfl, rfl⟩

end

/-! ## The system's functions, as their parts -/

section
variable {ctx : Context ID} {s s' : System ID} {l : List (Log ID)}

omit [Zero ID] in
theorem calculateAndSetDelegationReward_frame {timestamp : ℕ} {delegator : Delegator ID}
    {rewardRecipient : Address} {delegationID : ID} {reward : ℕ} {staking : State ID}
    (h : calculateAndSetDelegationReward ctx s timestamp delegator rewardRecipient delegationID =
      .ok (reward, staking)) : StakingFrame s.staking staking := by
  simp only [calculateAndSetDelegationReward, bind_eq_ok] at h
  obtain ⟨e, -, h⟩ := h
  split at h
  · simp only [pure_eq_ok, Prod.mk.injEq] at h
    obtain ⟨-, rfl⟩ := h
    exact .refl _
  · simp only [bind_eq_ok, pure_eq_ok, Prod.mk.injEq] at h
    obtain ⟨_, -, -, rfl⟩ := h
    exact ⟨rfl, fun _ => rfl, rfl⟩

theorem initiateValidatorRegistration_eq_ok {sender : Address} {timestamp : ℕ}
    {nodeID blsPublicKey : Bytes} {rbo disableOwner : ValidatorManager.PChainOwner}
    {delegationFeeBips minStakeDuration stakeAmount : ℕ} {rewardRecipient : Address}
    {lockedValue : ℕ} {validationID : ID}
    (h : initiateValidatorRegistration ctx s sender timestamp nodeID blsPublicKey rbo disableOwner
      delegationFeeBips minStakeDuration stakeAmount rewardRecipient lockedValue =
      .ok (validationID, s', l)) :
    ∃ weight manager l₁, valueToWeight s.staking lockedValue = .ok weight ∧
      ValidatorManager.initiateValidatorRegistration ctx.manager s.manager ctx.self timestamp
        nodeID blsPublicKey rbo disableOwner weight = .ok (validationID, manager, l₁) ∧
      s' = ⟨manager, { s.staking with
        posValidatorInfo := update s.staking.posValidatorInfo validationID
          ⟨sender, delegationFeeBips, minStakeDuration, 0⟩
        rewardRecipients := update s.staking.rewardRecipients validationID rewardRecipient }⟩ := by
  simp only [initiateValidatorRegistration, bind_eq_ok, require_eq_ok, pure_eq_ok,
    Prod.mk.injEq] at h
  obtain ⟨_, -, _, -, _, -, _, -, w, hw, ⟨v, m, l₁⟩, hv, rfl, rfl, -⟩ := h
  exact ⟨w, m, l₁, hw, hv, rfl⟩

omit [Zero ID] in
theorem completeValidatorRegistration_eq_ok {timestamp : ℕ}
    {message : Option (ValidatorManager.WarpMessage ID)} {validationID : ID}
    (h : completeValidatorRegistration ctx s timestamp message = .ok (validationID, s', l)) :
    ∃ manager l₁, ValidatorManager.completeValidatorRegistration ctx.manager s.manager ctx.self
        timestamp message = .ok (validationID, manager, l₁) ∧ s' = { s with manager } := by
  simp only [completeValidatorRegistration, bind_eq_ok, pure_eq_ok, Prod.mk.injEq] at h
  obtain ⟨⟨v, m, l₁⟩, hv, rfl, rfl, -⟩ := h
  exact ⟨m, l₁, hv, rfl⟩

omit [Zero ID] in
theorem submitUptimeProof_eq_ok {validationID : ID}
    {message : Option (ValidatorManager.WarpMessage ID)}
    (h : submitUptimeProof s validationID message = .ok (s', l)) :
    s'.manager = s.manager ∧ StakingFrame s.staking s'.staking := by
  simp only [submitUptimeProof, bind_eq_ok, require_eq_ok, pure_eq_ok, Prod.mk.injEq] at h
  obtain ⟨_, -, _, -, ⟨u, staking, l₁⟩, hu, rfl, -⟩ := h
  exact ⟨rfl, updateUptime_frame hu⟩

omit [Zero ID] in
theorem claimDelegationFees_eq_ok {sender : Address} {validationID : ID}
    (h : claimDelegationFees s sender validationID = .ok (s', l)) :
    s'.manager = s.manager ∧ StakingFrame s.staking s'.staking := by
  simp only [claimDelegationFees, bind_eq_ok, require_eq_ok, pure_eq_ok, Prod.mk.injEq] at h
  obtain ⟨_, -, _, -, rfl, -⟩ := h
  refine ⟨rfl, ?_⟩
  dsimp only
  exact withdrawValidationRewards_frame _ _

omit [Zero ID] in
theorem initiatePoSValidatorRemoval_eq_ok {sender : Address} {timestamp : ℕ}
    {validationID : ID} {includeUptimeProof : Bool}
    {message : Option (ValidatorManager.WarpMessage ID)} {eligible : Bool}
    (h : initiatePoSValidatorRemoval ctx s sender timestamp validationID includeUptimeProof
      message = .ok (eligible, s', l)) :
    ∃ manager l₁, ValidatorManager.initiateValidatorRemoval ctx.manager s.manager ctx.self
        timestamp validationID = .ok (manager, l₁) ∧ s'.manager = manager ∧
      StakingFrame s.staking s'.staking := by
  simp only [initiatePoSValidatorRemoval, bind_eq_ok] at h
  obtain ⟨⟨m, l₁⟩, hv, h⟩ := h
  refine ⟨m, l₁, hv, ?_⟩
  split at h
  · simp only [pure_eq_ok, Prod.mk.injEq] at h
    obtain ⟨-, rfl, -⟩ := h
    exact ⟨rfl, .refl _⟩
  · simp only [bind_eq_ok, require_eq_ok, checkedAdd_eq_ok, pure_eq_ok, Prod.mk.injEq] at h
    obtain ⟨_, -, _, -, _, -, ⟨u, staking, l₂⟩, hu, _, -, _, -, -, rfl, -⟩ := h
    exact ⟨rfl, (removalUptime_frame hu).trans ⟨rfl, fun _ => rfl, rfl⟩⟩

omit [Zero ID] in
theorem initiateValidatorRemoval_eq_ok {sender : Address} {timestamp : ℕ} {validationID : ID}
    {includeUptimeProof : Bool} {message : Option (ValidatorManager.WarpMessage ID)}
    (h : initiateValidatorRemoval ctx s sender timestamp validationID includeUptimeProof message =
      .ok (s', l)) :
    initiatePoSValidatorRemoval ctx s sender timestamp validationID includeUptimeProof message =
      .ok (true, s', l) := by
  obtain ⟨⟨e, s₁, l₁⟩, h1, h2⟩ := bind_eq_ok.1 h
  simp only [bind_eq_ok, require_eq_ok, pure_eq_ok, Prod.mk.injEq] at h2
  obtain ⟨_, rfl, rfl, rfl⟩ := h2
  exact h1

omit [Zero ID] in
theorem forceInitiateValidatorRemoval_eq_ok {sender : Address} {timestamp : ℕ}
    {validationID : ID} {includeUptimeProof : Bool}
    {message : Option (ValidatorManager.WarpMessage ID)}
    (h : forceInitiateValidatorRemoval ctx s sender timestamp validationID includeUptimeProof
      message = .ok (s', l)) :
    ∃ eligible, initiatePoSValidatorRemoval ctx s sender timestamp validationID includeUptimeProof
      message = .ok (eligible, s', l) := by
  obtain ⟨⟨e, s₁, l₁⟩, h1, h2⟩ := bind_eq_ok.1 h
  simp only [pure_eq_ok, Prod.mk.injEq] at h2
  obtain ⟨rfl, rfl⟩ := h2
  exact ⟨e, h1⟩

theorem completeValidatorRemoval_eq_ok {message : Option (ValidatorManager.WarpMessage ID)}
    {validationID : ID}
    (h : completeValidatorRemoval ctx s message = .ok (validationID, s', l)) :
    ∃ manager l₁,
      ValidatorManager.completeValidatorRemoval ctx.manager s.manager ctx.self message =
        .ok (validationID, manager, l₁) ∧ s'.manager = manager ∧
      StakingFrame s.staking s'.staking := by
  simp only [completeValidatorRemoval, bind_eq_ok] at h
  obtain ⟨⟨v, m, l₁⟩, hv, h⟩ := h
  split at h
  · simp only [pure_eq_ok, Prod.mk.injEq] at h
    obtain ⟨rfl, rfl, -⟩ := h
    exact ⟨m, l₁, hv, rfl, .refl _⟩
  · simp only [bind_eq_ok, pure_eq_ok, Prod.mk.injEq] at h
    obtain ⟨_, -, rfl, rfl, -⟩ := h
    refine ⟨m, l₁, hv, rfl, ?_⟩
    dsimp only
    split
    · exact withdrawValidationRewards_frame _ _
    · exact .refl _

omit [Zero ID] in
/-- A delegation: the validator's weight raised by the delegation's within the multiplier's
bound, and the delegation written under the hash of the validation ID and the update's nonce. -/
theorem initiateDelegatorRegistration_eq_ok {sender : Address} {timestamp : ℕ}
    {validationID : ID} {rewardRecipient : Address} {lockedValue : ℕ} {delegationID : ID}
    (h : initiateDelegatorRegistration ctx s sender timestamp validationID rewardRecipient
      lockedValue = .ok (delegationID, s', l)) :
    ∃ weight nonce manager l₁, valueToWeight s.staking lockedValue = .ok weight ∧
      isPoSValidator s.staking validationID = true ∧
      (s.manager.validationPeriods validationID).weight + weight ≤
        (s.manager.validationPeriods validationID).startingWeight *
          s.staking.maximumStakeMultiplier ∧
      ValidatorManager.initiateValidatorWeightUpdate ctx.manager s.manager ctx.self timestamp
        validationID ((s.manager.validationPeriods validationID).weight + weight) =
        .ok (nonce, manager, l₁) ∧
      delegationID = ctx.keccak256 validationID nonce ∧
      s' = ⟨manager, { s.staking with
        delegatorStakes := update s.staking.delegatorStakes delegationID
          ⟨.pendingAdded, sender, validationID, weight, 0, nonce, 0⟩
        delegatorRewardRecipients :=
          update s.staking.delegatorRewardRecipients delegationID rewardRecipient }⟩ := by
  simp only [initiateDelegatorRegistration, bind_eq_ok, require_eq_ok, checkedAdd_eq_ok,
    checkedMul_eq_ok, pure_eq_ok, Prod.mk.injEq] at h
  obtain ⟨w, hw, _, hpos, _, -, _, ⟨-, rfl⟩, _, ⟨-, rfl⟩, _, hle, ⟨n, m, l₁⟩, hv, rfl, rfl, -⟩ := h
  exact ⟨w, n, m, l₁, hw, hpos, not_lt.1 hle, hv, rfl, rfl⟩

/-- The end of a delegation: deleted, with the rest of the storage kept where it matters. -/
theorem completeDelegatorRemovalInternal_eq_ok {timestamp : ℕ} {delegationID : ID}
    (h : completeDelegatorRemovalInternal s timestamp delegationID = .ok (s', l)) :
    s'.manager = s.manager ∧
      StakingFrame { s.staking with
        delegatorStakes := update s.staking.delegatorStakes delegationID default } s'.staking := by
  simp only [completeDelegatorRemovalInternal, bind_eq_ok, require_eq_ok, checkedAdd_eq_ok,
    pure_eq_ok, Prod.mk.injEq] at h
  obtain ⟨_, -, _, -, ⟨r, f, staking, l₁⟩, hw, _, -, rfl, -⟩ := h
  refine ⟨rfl, StakingFrame.trans ?_ (withdrawDelegationRewards_frame hw)⟩
  exact ⟨rfl, fun _ => rfl, rfl⟩

omit [Zero ID] in
/-- Waiting for a weight update either leaves the validator manager alone or completes one. -/
theorem completeWeightUpdateIf_eq_ok {manager manager' : ValidatorManager.State ID}
    {needed : Prop} [Decidable needed] {validationID : ID} {nonce : ℕ}
    {message : Option (ValidatorManager.WarpMessage ID)} {l : List (Log ID)}
    (h : completeWeightUpdateIf ctx manager needed validationID nonce message = .ok (manager', l)) :
    manager' = manager ∨ ∃ r l₁,
      ValidatorManager.completeValidatorWeightUpdate ctx.manager manager ctx.self message =
        .ok (r, manager', l₁) := by
  unfold completeWeightUpdateIf at h
  split at h
  · simp only [bind_eq_ok, require_eq_ok, pure_eq_ok, Prod.mk.injEq] at h
    obtain ⟨⟨r, m, l₁⟩, hc, _, -, _, -, rfl, -⟩ := h
    exact .inr ⟨r, l₁, hc⟩
  · simp only [pure_eq_ok, Prod.mk.injEq] at h
    exact .inl h.1.symm

theorem completeDelegatorRegistration_eq_ok {timestamp : ℕ} {delegationID : ID}
    {message : Option (ValidatorManager.WarpMessage ID)}
    (h : completeDelegatorRegistration ctx s timestamp delegationID message = .ok (s', l)) :
    let delegator := s.staking.delegatorStakes delegationID
    delegator.status = .pendingAdded ∧
      ((s.manager.validationPeriods delegator.validationID).status = .completed ∧
          completeDelegatorRemovalInternal s timestamp delegationID = .ok (s', l) ∨
        (s.manager.validationPeriods delegator.validationID).status ≠ .completed ∧
          (s'.manager = s.manager ∨ ∃ r l₁, ValidatorManager.completeValidatorWeightUpdate
            ctx.manager s.manager ctx.self message = .ok (r, s'.manager, l₁)) ∧
          s'.staking = { s.staking with
            delegatorStakes := update s.staking.delegatorStakes delegationID
              { delegator with status := .active, startTime := timestamp % 2 ^ 64 } }) := by
  simp only [completeDelegatorRegistration, bind_eq_ok, require_eq_ok] at h
  obtain ⟨_, hst, h⟩ := h
  refine ⟨hst, ?_⟩
  split at h
  · exact .inl ⟨‹_›, h⟩
  · simp only [bind_eq_ok, pure_eq_ok, Prod.mk.injEq] at h
    obtain ⟨⟨m, l₁⟩, hw, rfl, -⟩ := h
    exact .inr ⟨‹_›, completeWeightUpdateIf_eq_ok hw, rfl⟩

/-- Ending a delegation: while its validator is active, the delegation is marked pending removed
and the validator's weight lowered by its weight; once the validator completed, it ends at once. -/
theorem initiateDelegatorRemovalInternal_eq_ok {sender : Address} {timestamp : ℕ}
    {delegationID : ID} {includeUptimeProof : Bool}
    {message : Option (ValidatorManager.WarpMessage ID)} {eligible : Bool}
    (h : initiateDelegatorRemovalInternal ctx s sender timestamp delegationID includeUptimeProof
      message = .ok (eligible, s', l)) :
    let delegator := s.staking.delegatorStakes delegationID
    let validator := s.manager.validationPeriods delegator.validationID
    delegator.status = .active ∧
      ((validator.status = .active ∧ delegator.weight ≤ validator.weight ∧
          ∃ nonce l₁, ValidatorManager.initiateValidatorWeightUpdate ctx.manager s.manager ctx.self
            timestamp delegator.validationID (validator.weight - delegator.weight) =
              .ok (nonce, s'.manager, l₁) ∧
          StakingFrame { s.staking with
            delegatorStakes := update s.staking.delegatorStakes delegationID
              { delegator with status := .pendingRemoved, endingNonce := nonce } } s'.staking) ∨
        validator.status = .completed ∧ ∃ staking l₁, StakingFrame s.staking staking ∧
          completeDelegatorRemovalInternal { s with staking } timestamp delegationID =
            .ok (s', l₁)) := by
  simp only [initiateDelegatorRemovalInternal, bind_eq_ok, require_eq_ok] at h
  obtain ⟨_, hst, _, -, h⟩ := h
  refine ⟨hst, ?_⟩
  split at h
  · rename_i hact
    simp only [bind_eq_ok, require_eq_ok, checkedAdd_eq_ok, checkedSub_eq_ok, pure_eq_ok,
      Prod.mk.injEq] at h
    obtain ⟨_, -, _, -, ⟨u, staking, l₁⟩, hu, _, ⟨hle, rfl⟩, ⟨nonce, m, l₂⟩, hv, ⟨r, staking'⟩, hc,
      -, rfl, -⟩ := h
    have hf := removalUptime_frame hu
    refine .inl ⟨hact, hle, nonce, l₂, hv, StakingFrame.trans ?_ (calculateAndSetDelegationReward_frame hc)⟩
    refine ⟨?_, hf.owner, hf.maximumStakeMultiplier⟩
    simp only [hf.delegatorStakes, update_idem, update_self]
  · split at h
    · rename_i hcomp
      simp only [bind_eq_ok, pure_eq_ok, Prod.mk.injEq] at h
      obtain ⟨⟨r, staking⟩, hc, ⟨s'', l₁⟩, hr, rfl, rfl, -⟩ := h
      exact .inr ⟨hcomp, staking, l₁, calculateAndSetDelegationReward_frame hc, hr⟩
    · cases h

theorem initiateDelegatorRemoval_eq_ok {sender : Address} {timestamp : ℕ} {delegationID : ID}
    {includeUptimeProof : Bool} {message : Option (ValidatorManager.WarpMessage ID)}
    (h : initiateDelegatorRemoval ctx s sender timestamp delegationID includeUptimeProof message =
      .ok (s', l)) :
    initiateDelegatorRemovalInternal ctx s sender timestamp delegationID includeUptimeProof
      message = .ok (true, s', l) := by
  obtain ⟨⟨e, s₁, l₁⟩, h1, h2⟩ := bind_eq_ok.1 h
  simp only [bind_eq_ok, require_eq_ok, pure_eq_ok, Prod.mk.injEq] at h2
  obtain ⟨_, rfl, rfl, rfl⟩ := h2
  exact h1

theorem forceInitiateDelegatorRemoval_eq_ok {sender : Address} {timestamp : ℕ}
    {delegationID : ID} {includeUptimeProof : Bool}
    {message : Option (ValidatorManager.WarpMessage ID)}
    (h : forceInitiateDelegatorRemoval ctx s sender timestamp delegationID includeUptimeProof
      message = .ok (s', l)) :
    ∃ eligible, initiateDelegatorRemovalInternal ctx s sender timestamp delegationID
      includeUptimeProof message = .ok (eligible, s', l) := by
  obtain ⟨⟨e, s₁, l₁⟩, h1, h2⟩ := bind_eq_ok.1 h
  simp only [pure_eq_ok, Prod.mk.injEq] at h2
  obtain ⟨rfl, rfl⟩ := h2
  exact ⟨e, h1⟩

theorem completeDelegatorRemoval_eq_ok {timestamp : ℕ} {delegationID : ID}
    {message : Option (ValidatorManager.WarpMessage ID)}
    (h : completeDelegatorRemoval ctx s timestamp delegationID message = .ok (s', l)) :
    (s.staking.delegatorStakes delegationID).status = .pendingRemoved ∧
      ∃ manager l₁, (manager = s.manager ∨ ∃ r l₂, ValidatorManager.completeValidatorWeightUpdate
          ctx.manager s.manager ctx.self message = .ok (r, manager, l₂)) ∧
        completeDelegatorRemovalInternal { s with manager } timestamp delegationID = .ok (s', l₁) := by
  simp only [completeDelegatorRemoval, bind_eq_ok, require_eq_ok, pure_eq_ok,
    Prod.mk.injEq] at h
  obtain ⟨_, hst, ⟨m, l₁⟩, hw, ⟨s'', l₂⟩, hr, rfl, -⟩ := h
  exact ⟨hst, m, l₂, completeWeightUpdateIf_eq_ok hw, hr⟩

omit [DecidableEq ID] [Zero ID] in
theorem resendUpdateDelegator_eq_ok {delegationID : ID}
    (h : resendUpdateDelegator s delegationID = .ok (s', l)) : s' = s := by
  simp only [resendUpdateDelegator, bind_eq_ok, require_eq_ok, pure_eq_ok, Prod.mk.injEq] at h
  obtain ⟨_, -, _, -, rfl, -⟩ := h
  rfl

end

end StakingManager
