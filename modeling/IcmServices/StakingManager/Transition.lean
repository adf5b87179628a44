import IcmServices.StakingManager.Step

/-!
# What one call of the system does to the validators' weights

A PoS validator's weight depends on two views of the state: of each validation period, its
status, starting weight, weight and sent nonce (`periodView`); of each delegation, its status,
validator, weight and starting nonce (`Delegator.view`). A call of the system

* moves the validator manager by at most one of its own calls (`ManagerMove`);
* does one of nine things to the two views (`StakeStep`): nothing, the validator manager's
  `initializeValidatorSet`, or one transition of one validator or one delegation.

`step_systemStep` shows every call is both, as long as the staking manager owns the validator
manager (`Context.OwnsManager`): a direct call of an `onlyOwner` function from anyone else
reverts.
-/

namespace StakingManager

open Solidity Function

variable {ID : Type}

/-- What the weight invariant reads of a validation period. -/
structure PeriodView where
  status : ValidatorManager.ValidatorStatus
  startingWeight : ℕ
  weight : ℕ
  sentNonce : ℕ

def periodView (p : ValidatorManager.Validator) : PeriodView :=
  ⟨p.status, p.startingWeight, p.weight, p.sentNonce⟩

/-- What it reads of a delegation. -/
structure DelegationView (ID : Type) where
  status : DelegatorStatus
  validationID : ID
  weight : ℕ
  startingNonce : ℕ

def Delegator.view (d : Delegator ID) : DelegationView ID :=
  ⟨d.status, d.validationID, d.weight, d.startingNonce⟩

section
variable [DecidableEq ID]

/-- `m'` keeps every period's view and whether the initial set is installed. -/
structure PeriodsKept (m m' : ValidatorManager.State ID) : Prop where
  views : ∀ v, periodView (m'.validationPeriods v) = periodView (m.validationPeriods v)
  initialized : m'.initializedValidatorSet = m.initializedValidatorSet

omit [DecidableEq ID] in
theorem PeriodsKept.of_eq {m m' : ValidatorManager.State ID} (h : m' = m) : PeriodsKept m m' :=
  h ▸ ⟨fun _ => rfl, rfl⟩

/-- `m'` writes the view `x` of the period `v`, and keeps the other periods' views and whether the
initial set is installed. -/
structure PeriodWrites (m m' : ValidatorManager.State ID) (v : ID) (x : PeriodView) : Prop where
  others : ∀ v', v' ≠ v →
    periodView (m'.validationPeriods v') = periodView (m.validationPeriods v')
  self : periodView (m'.validationPeriods v) = x
  initialized : m'.initializedValidatorSet = m.initializedValidatorSet

theorem periodWrites_update {m m' : ValidatorManager.State ID} {v : ID}
    {p : ValidatorManager.Validator} {x : PeriodView}
    (hv : m'.validationPeriods = update m.validationPeriods v p) (hx : periodView p = x)
    (hi : m'.initializedValidatorSet = m.initializedValidatorSet) :
    PeriodWrites m m' v x where
  others v' h := by rw [hv, update_of_ne h]
  self := by rw [hv, update_self, hx]
  initialized := hi

/-- `s'` writes the view `x` of the delegation `d`, and keeps the other delegations' views,
which validators are PoS, and the multiplier. -/
structure DelegationWrites (s s' : State ID) (d : ID) (x : DelegationView ID) : Prop where
  others : ∀ d', d' ≠ d → (s'.delegatorStakes d').view = (s.delegatorStakes d').view
  self : (s'.delegatorStakes d).view = x
  owner : ∀ v, (s'.posValidatorInfo v).owner = (s.posValidatorInfo v).owner
  maximumStakeMultiplier : s'.maximumStakeMultiplier = s.maximumStakeMultiplier

theorem StakingFrame.delegationWrites {s s' : State ID} {d : ID} {δ : Delegator ID}
    {x : DelegationView ID}
    (h : StakingFrame { s with delegatorStakes := update s.delegatorStakes d δ } s')
    (hx : δ.view = x) : DelegationWrites s s' d x where
  others d' hd := by simp only [h.delegatorStakes, update_of_ne hd]
  self := by simp only [h.delegatorStakes, update_self, hx]
  owner := h.owner
  maximumStakeMultiplier := h.maximumStakeMultiplier

omit [DecidableEq ID] in
theorem DelegationWrites.of_frame {s₁ s₂ s₃ : State ID} {d : ID} {x : DelegationView ID}
    (h₁ : StakingFrame s₁ s₂) (h₂ : DelegationWrites s₂ s₃ d x) : DelegationWrites s₁ s₃ d x where
  others d' hd := by rw [h₂.others d' hd, h₁.delegatorStakes]
  self := h₂.self
  owner v := (h₂.owner v).trans (h₁.owner v)
  maximumStakeMultiplier := h₂.maximumStakeMultiplier.trans h₁.maximumStakeMultiplier

end

variable [DecidableEq ID] [Zero ID]

/-- A call of the system, seen from the validator manager: nothing, or one of its own calls. -/
def ManagerMove (ctx : ValidatorManager.Context ID) (m m' : ValidatorManager.State ID) : Prop :=
  m' = m ∨ ∃ c l, ValidatorManager.step ctx m c = .ok (m', l)

/-- What a call of the system does to the views of the periods and the delegations. -/
inductive StakeStep (ctx : Context ID) (s s' : System ID) : Prop
  /-- Rewards, uptimes, recipients, resends and acknowledged weight updates. -/
  | frame (hm : PeriodsKept s.manager s'.manager) (hs : StakingFrame s.staking s'.staking)
  /-- `initializeValidatorSet`, called on the validator manager directly. -/
  | installInitialSet (hinit : s.manager.initializedValidatorSet = false)
      (hinit' : s'.manager.initializedValidatorSet = true) (hs : s'.staking = s.staking)
  /-- `initiateValidatorRegistration`: a new period, and its registrant as its PoS owner. -/
  | register (v : ID) (weight : ℕ) (hinit : s.manager.initializedValidatorSet = true)
      (hst : (s.manager.validationPeriods v).status = .unknown)
      (hm : PeriodWrites s.manager s'.manager v ⟨.pendingAdded, weight, weight, 0⟩)
      (hd : s'.staking.delegatorStakes = s.staking.delegatorStakes)
      (ho : ∀ v', v' ≠ v →
        (s'.staking.posValidatorInfo v').owner = (s.staking.posValidatorInfo v').owner)
      (hx : s'.staking.maximumStakeMultiplier = s.staking.maximumStakeMultiplier)
  /-- `completeValidatorRegistration`. -/
  | activate (v : ID) (hst : (s.manager.validationPeriods v).status = .pendingAdded)
      (hm : PeriodWrites s.manager s'.manager v
        { periodView (s.manager.validationPeriods v) with status := .active })
      (hs : StakingFrame s.staking s'.staking)
  /-- `initiateValidatorRemoval` and `completeValidatorRemoval`: the period leaves
  `PendingAdded` and `Active` for good. -/
  | retire (v : ID) (x : PeriodView) (hst : (s.manager.validationPeriods v).status ≠ .unknown)
      (hx : x.status = .pendingRemoved ∨ x.status = .completed ∨ x.status = .invalidated)
      (hn : (s.manager.validationPeriods v).sentNonce ≤ x.sentNonce)
      (hm : PeriodWrites s.manager s'.manager v x) (hs : StakingFrame s.staking s'.staking)
  /-- `initiateDelegatorRegistration`: the delegation's weight added to an active PoS
  validator's within the bound, the delegation written under the hash of the update's nonce. -/
  | delegate (v d : ID) (weight : ℕ) (hst : (s.manager.validationPeriods v).status = .active)
      (hpos : isPoSValidator s.staking v = true)
      (hle : (s.manager.validationPeriods v).weight + weight ≤
        (s.manager.validationPeriods v).startingWeight * s.staking.maximumStakeMultiplier)
      (hd : d = ctx.keccak256 v ((s.manager.validationPeriods v).sentNonce + 1))
      (hm : PeriodWrites s.manager s'.manager v
        { periodView (s.manager.validationPeriods v) with
          weight := (s.manager.validationPeriods v).weight + weight
          sentNonce := (s.manager.validationPeriods v).sentNonce + 1 })
      (hs : DelegationWrites s.staking s'.staking d
        ⟨.pendingAdded, v, weight, (s.manager.validationPeriods v).sentNonce + 1⟩)
  /-- `completeDelegatorRegistration` while the validator has not completed. -/
  | activateDelegation (d : ID) (hst : (s.staking.delegatorStakes d).status = .pendingAdded)
      (hm : PeriodsKept s.manager s'.manager)
      (hs : DelegationWrites s.staking s'.staking d
        { (s.staking.delegatorStakes d).view with status := .active })
  /-- `initiateDelegatorRemoval` while the validator is active: the weight leaves at once. -/
  | beginDelegationRemoval (d : ID) (hst : (s.staking.delegatorStakes d).status = .active)
      (hv : (s.manager.validationPeriods (s.staking.delegatorStakes d).validationID).status =
        .active)
      (hle : (s.staking.delegatorStakes d).weight ≤
        (s.manager.validationPeriods (s.staking.delegatorStakes d).validationID).weight)
      (hm : PeriodWrites s.manager s'.manager (s.staking.delegatorStakes d).validationID
        { periodView (s.manager.validationPeriods (s.staking.delegatorStakes d).validationID) with
          weight := (s.manager.validationPeriods (s.staking.delegatorStakes d).validationID).weight -
            (s.staking.delegatorStakes d).weight
          sentNonce :=
            (s.manager.validationPeriods (s.staking.delegatorStakes d).validationID).sentNonce + 1 })
      (hs : DelegationWrites s.staking s'.staking d
        { (s.staking.delegatorStakes d).view with status := .pendingRemoved })
  /-- The deletion of a delegation whose removal was initiated or whose validator completed. -/
  | endDelegation (d : ID)
      (hst : (s.staking.delegatorStakes d).status = .pendingRemoved ∨
        (s.manager.validationPeriods (s.staking.delegatorStakes d).validationID).status =
          .completed)
      (hm : PeriodsKept s.manager s'.manager)
      (hs : DelegationWrites s.staking s'.staking d (default : Delegator ID).view)

/-- Both sides of one call of the system. -/
structure SystemStep (ctx : Context ID) (s s' : System ID) : Prop where
  manager : ManagerMove ctx.manager s.manager s'.manager
  stake : StakeStep ctx s s'

section
variable {ctx : Context ID} {s s' : System ID} {l : List (Log ID)}

theorem SystemStep.keep (hm : s'.manager = s.manager) (hs : StakingFrame s.staking s'.staking) :
    SystemStep ctx s s' :=
  ⟨.inl hm, .frame (.of_eq hm) hs⟩

theorem acknowledged {m m' : ValidatorManager.State ID}
    {message : Option (ValidatorManager.WarpMessage ID)}
    (h : m' = m ∨ ∃ r l₁,
      ValidatorManager.completeValidatorWeightUpdate ctx.manager m ctx.self message =
        .ok (r, m', l₁)) :
    ManagerMove ctx.manager m m' ∧ PeriodsKept m m' := by
  rcases h with rfl | ⟨r, l₁, hc⟩
  · exact ⟨.inl rfl, .of_eq rfl⟩
  · obtain ⟨-, hm⟩ := ValidatorManager.completeValidatorWeightUpdate_eq_ok hc
    refine ⟨.inr ⟨.completeValidatorWeightUpdate ctx.self message, l₁, map_eq_ok.2 ⟨_, hc, rfl⟩⟩,
      fun v => ?_, by rw [hm]⟩
    subst hm
    by_cases hv : v = r.1
    · subst hv
      simp only [update_self]
      rfl
    · simp only [update_of_ne hv]

omit [DecidableEq ID] [Zero ID] in
theorem onlyOwner_bind_eq_ok {α : Type} {mctx : ValidatorManager.Context ID} {sender : Address}
    {k : Unit → Except String α} {r : α} (h : (mctx.onlyOwner sender >>= k) = .ok r) :
    mctx.onlyOwner sender = .ok () := by
  obtain ⟨⟨⟩, h1, -⟩ := bind_eq_ok.1 h
  exact h1

/-- A call of the validator manager that names a sender succeeds only if the sender passes
`onlyOwner`. -/
theorem callerOf_onlyOwner {c : ValidatorManager.Call ID} {m m' : ValidatorManager.State ID}
    {l₁ : List (ValidatorManager.Log ID)}
    (h : ValidatorManager.step ctx.manager m c = .ok (m', l₁)) :
    ∀ sender, callerOf c = some sender → ctx.manager.onlyOwner sender = .ok () := by
  intro sender hc
  cases c with
  | initializeValidatorSet | resendRegisterValidatorMessage | resendValidatorRemovalMessage =>
    cases hc
  | initiateValidatorRemoval =>
    cases hc
    exact onlyOwner_bind_eq_ok h
  | _ =>
    cases hc
    obtain ⟨_, h1, -⟩ := map_eq_ok.1 h
    exact onlyOwner_bind_eq_ok h1

/-- A direct call of the validator manager: only `initializeValidatorSet` and the resends get
through while the staking manager owns it. -/
theorem managerCall_systemStep (ho : ctx.OwnsManager) {c : ValidatorManager.Call ID}
    (h : step ctx s (.manager c) = .ok (s', l)) : SystemStep ctx s s' := by
  simp only [step, bind_eq_ok, require_eq_ok, pure_eq_ok, Prod.mk.injEq] at h
  obtain ⟨_, hc, ⟨m, l₁⟩, hm, rfl, -⟩ := h
  cases c with
  | initializeValidatorSet =>
    obtain ⟨hinit, hinit'⟩ := ValidatorManager.initializeValidatorSet_eq_ok hm
    exact ⟨.inr ⟨_, l₁, hm⟩, .installInitialSet hinit hinit' rfl⟩
  | resendRegisterValidatorMessage =>
    obtain rfl := ValidatorManager.resendRegisterValidatorMessage_eq_ok hm
    exact .keep rfl (.refl _)
  | resendValidatorRemovalMessage =>
    obtain rfl := ValidatorManager.resendValidatorRemovalMessage_eq_ok hm
    exact .keep rfl (.refl _)
  | _ =>
    refine absurd ?_ hc
    rw [← ho _ (callerOf_onlyOwner hm _ rfl)]
    rfl

theorem initiateValidatorRegistration_systemStep {sender : Address} {timestamp : ℕ}
    {nodeID blsPublicKey : Bytes} {rbo disableOwner : ValidatorManager.PChainOwner}
    {delegationFeeBips minStakeDuration stakeAmount : ℕ} {rewardRecipient : Address}
    {lockedValue : ℕ} {validationID : ID}
    (h : initiateValidatorRegistration ctx s sender timestamp nodeID blsPublicKey rbo disableOwner
      delegationFeeBips minStakeDuration stakeAmount rewardRecipient lockedValue =
      .ok (validationID, s', l)) :
    SystemStep ctx s s' := by
  obtain ⟨weight, m, l₁, -, hv, rfl⟩ := initiateValidatorRegistration_eq_ok h
  obtain ⟨_, _, hinit, -, -, -, hst, -, rfl⟩ :=
    ValidatorManager.initiateValidatorRegistration_eq_ok hv
  refine ⟨.inr ⟨.initiateValidatorRegistration ctx.self timestamp nodeID blsPublicKey rbo
    disableOwner weight, l₁, map_eq_ok.2 ⟨_, hv, rfl⟩⟩,
    .register validationID weight hinit hst (periodWrites_update rfl rfl rfl) rfl
      (fun v' hv' => ?_) rfl⟩
  simp only [update_of_ne hv']

theorem completeValidatorRegistration_systemStep {timestamp : ℕ}
    {message : Option (ValidatorManager.WarpMessage ID)} {validationID : ID}
    (h : completeValidatorRegistration ctx s timestamp message = .ok (validationID, s', l)) :
    SystemStep ctx s s' := by
  obtain ⟨m, l₁, hv, rfl⟩ := completeValidatorRegistration_eq_ok h
  obtain ⟨hst, rfl⟩ := ValidatorManager.completeValidatorRegistration_eq_ok hv
  exact ⟨.inr ⟨.completeValidatorRegistration ctx.self timestamp message, l₁,
    map_eq_ok.2 ⟨_, hv, rfl⟩⟩,
    .activate validationID hst (periodWrites_update rfl rfl rfl) (.refl _)⟩

theorem initiatePoSValidatorRemoval_systemStep {sender : Address} {timestamp : ℕ}
    {validationID : ID} {includeUptimeProof : Bool}
    {message : Option (ValidatorManager.WarpMessage ID)} {eligible : Bool}
    (h : initiatePoSValidatorRemoval ctx s sender timestamp validationID includeUptimeProof
      message = .ok (eligible, s', l)) :
    SystemStep ctx s s' := by
  obtain ⟨m, l₁, hv, rfl, hs⟩ := initiatePoSValidatorRemoval_eq_ok h
  obtain ⟨_, hst, -, hm⟩ := ValidatorManager.initiateValidatorRemoval_eq_ok hv
  exact ⟨.inr ⟨.initiateValidatorRemoval ctx.self timestamp validationID, l₁, hv⟩,
    .retire validationID _ (by simp [hst]) (.inl rfl) (Nat.le_succ _)
      (periodWrites_update (congrArg ValidatorManager.State.validationPeriods hm) rfl
        (by rw [hm])) hs⟩

theorem completeValidatorRemoval_systemStep {message : Option (ValidatorManager.WarpMessage ID)}
    {validationID : ID}
    (h : completeValidatorRemoval ctx s message = .ok (validationID, s', l)) :
    SystemStep ctx s s' := by
  obtain ⟨m, l₁, hv, rfl, hs⟩ := completeValidatorRemoval_eq_ok h
  have hc : ValidatorManager.step ctx.manager s.manager
      (.completeValidatorRemoval ctx.self message) = .ok (s'.manager, l₁) :=
    map_eq_ok.2 ⟨_, hv, rfl⟩
  rcases ValidatorManager.completeValidatorRemoval_eq_ok hv with ⟨hst, hm⟩ | ⟨hst, -, hm⟩
  · -- a removal the P-Chain confirmed: `PendingRemoved` to `Completed`
    exact ⟨.inr ⟨_, l₁, hc⟩, .retire validationID _ (by simp [hst]) (.inr (.inl rfl))
      le_rfl (periodWrites_update (congrArg ValidatorManager.State.validationPeriods hm) rfl
        (by rw [hm])) hs⟩
  · -- a registration the P-Chain never made: `PendingAdded` to `Invalidated`
    exact ⟨.inr ⟨_, l₁, hc⟩, .retire validationID _ (by simp [hst]) (.inr (.inr rfl))
      le_rfl (periodWrites_update (congrArg ValidatorManager.State.validationPeriods hm) rfl
        (by rw [hm])) hs⟩

theorem initiateDelegatorRegistration_systemStep {sender : Address} {timestamp : ℕ}
    {validationID : ID} {rewardRecipient : Address} {lockedValue : ℕ} {delegationID : ID}
    (h : initiateDelegatorRegistration ctx s sender timestamp validationID rewardRecipient
      lockedValue = .ok (delegationID, s', l)) :
    SystemStep ctx s s' := by
  obtain ⟨weight, nonce, m, l₁, -, hpos, hle, hv, rfl, rfl⟩ :=
    initiateDelegatorRegistration_eq_ok h
  obtain ⟨_, hst, -, rfl, rfl, -⟩ := ValidatorManager.initiateValidatorWeightUpdate_eq_ok hv
  exact ⟨.inr ⟨.initiateValidatorWeightUpdate ctx.self timestamp validationID _, l₁,
    map_eq_ok.2 ⟨_, hv, rfl⟩⟩,
    .delegate validationID _ weight hst hpos hle rfl (periodWrites_update rfl rfl rfl)
      (StakingFrame.delegationWrites ⟨rfl, fun _ => rfl, rfl⟩ rfl)⟩

theorem completeDelegatorRemovalInternal_systemStep {timestamp : ℕ} {delegationID : ID}
    (hst : (s.staking.delegatorStakes delegationID).status = .pendingRemoved ∨
      (s.manager.validationPeriods (s.staking.delegatorStakes delegationID).validationID).status =
        .completed)
    (h : completeDelegatorRemovalInternal s timestamp delegationID = .ok (s', l)) :
    SystemStep ctx s s' := by
  obtain ⟨hm, hs⟩ := completeDelegatorRemovalInternal_eq_ok h
  exact ⟨.inl hm, .endDelegation delegationID hst (.of_eq hm) (hs.delegationWrites rfl)⟩

theorem completeDelegatorRegistration_systemStep {timestamp : ℕ} {delegationID : ID}
    {message : Option (ValidatorManager.WarpMessage ID)}
    (h : completeDelegatorRegistration ctx s timestamp delegationID message = .ok (s', l)) :
    SystemStep ctx s s' := by
  obtain ⟨hst, ⟨hcomp, hr⟩ | ⟨-, hack, hs⟩⟩ := completeDelegatorRegistration_eq_ok h
  · exact completeDelegatorRemovalInternal_systemStep (.inr hcomp) hr
  · obtain ⟨hmove, hm⟩ := acknowledged hack
    exact ⟨hmove, .activateDelegation delegationID hst hm
      (StakingFrame.delegationWrites (by rw [hs]; exact .refl _) rfl)⟩

theorem initiateDelegatorRemovalInternal_systemStep {sender : Address} {timestamp : ℕ}
    {delegationID : ID} {includeUptimeProof : Bool}
    {message : Option (ValidatorManager.WarpMessage ID)} {eligible : Bool}
    (h : initiateDelegatorRemovalInternal ctx s sender timestamp delegationID includeUptimeProof
      message = .ok (eligible, s', l)) :
    SystemStep ctx s s' := by
  obtain ⟨hst, ⟨hv, hle, nonce, l₁, hu, hs⟩ | ⟨hcomp, staking, l₁, hf, hr⟩⟩ :=
    initiateDelegatorRemovalInternal_eq_ok h
  · obtain ⟨_, -, -, rfl, hm, -⟩ := ValidatorManager.initiateValidatorWeightUpdate_eq_ok hu
    exact ⟨.inr ⟨.initiateValidatorWeightUpdate ctx.self timestamp _ _, l₁,
      map_eq_ok.2 ⟨_, hu, rfl⟩⟩,
      .beginDelegationRemoval delegationID hst hv hle
        (periodWrites_update (congrArg ValidatorManager.State.validationPeriods hm) rfl
          (by rw [hm]))
        (hs.delegationWrites rfl)⟩
  · -- the validator completed: the reward is settled, then the delegation deleted at once
    obtain ⟨hm, hs⟩ := completeDelegatorRemovalInternal_eq_ok hr
    exact ⟨.inl hm, .endDelegation delegationID (.inr hcomp) (.of_eq hm)
      (.of_frame hf (hs.delegationWrites rfl))⟩

theorem completeDelegatorRemoval_systemStep {timestamp : ℕ} {delegationID : ID}
    {message : Option (ValidatorManager.WarpMessage ID)}
    (h : completeDelegatorRemoval ctx s timestamp delegationID message = .ok (s', l)) :
    SystemStep ctx s s' := by
  obtain ⟨hst, m, l₁, hack, hr⟩ := completeDelegatorRemoval_eq_ok h
  obtain ⟨hm, hs⟩ := completeDelegatorRemovalInternal_eq_ok hr
  obtain ⟨hmove, hv⟩ := acknowledged hack
  dsimp only at hm hs
  subst hm
  exact ⟨hmove, .endDelegation delegationID (.inl hst) hv (hs.delegationWrites rfl)⟩

/-- Every call of the system, while the staking manager owns the validator manager. -/
theorem step_systemStep (ho : ctx.OwnsManager) {c : Call ID}
    (h : step ctx s c = .ok (s', l)) : SystemStep ctx s s' := by
  cases c with
  | manager c => exact managerCall_systemStep ho h
  | initiateValidatorRegistration =>
    obtain ⟨⟨_, _, _⟩, h1, h2⟩ := map_eq_ok.1 h
    cases h2
    exact initiateValidatorRegistration_systemStep h1
  | completeValidatorRegistration =>
    obtain ⟨⟨_, _, _⟩, h1, h2⟩ := map_eq_ok.1 h
    cases h2
    exact completeValidatorRegistration_systemStep h1
  | submitUptimeProof =>
    obtain ⟨hm, hs⟩ := submitUptimeProof_eq_ok h
    exact .keep hm hs
  | claimDelegationFees =>
    obtain ⟨hm, hs⟩ := claimDelegationFees_eq_ok h
    exact .keep hm hs
  | changeValidatorRewardRecipient =>
    obtain ⟨⟨staking, l₁⟩, h1, h2⟩ := bind_eq_ok.1 h
    cases h2
    exact .keep rfl (changeValidatorRewardRecipient_frame h1)
  | changeDelegatorRewardRecipient =>
    obtain ⟨⟨staking, l₁⟩, h1, h2⟩ := bind_eq_ok.1 h
    cases h2
    exact .keep rfl (changeDelegatorRewardRecipient_frame h1)
  | initiateValidatorRemoval =>
    exact initiatePoSValidatorRemoval_systemStep (initiateValidatorRemoval_eq_ok h)
  | forceInitiateValidatorRemoval =>
    obtain ⟨_, h1⟩ := forceInitiateValidatorRemoval_eq_ok h
    exact initiatePoSValidatorRemoval_systemStep h1
  | completeValidatorRemoval =>
    obtain ⟨⟨_, _, _⟩, h1, h2⟩ := map_eq_ok.1 h
    cases h2
    exact completeValidatorRemoval_systemStep h1
  | initiateDelegatorRegistration =>
    obtain ⟨⟨_, _, _⟩, h1, h2⟩ := map_eq_ok.1 h
    cases h2
    exact initiateDelegatorRegistration_systemStep h1
  | completeDelegatorRegistration => exact completeDelegatorRegistration_systemStep h
  | initiateDelegatorRemoval =>
    exact initiateDelegatorRemovalInternal_systemStep (initiateDelegatorRemoval_eq_ok h)
  | forceInitiateDelegatorRemoval =>
    obtain ⟨_, h1⟩ := forceInitiateDelegatorRemoval_eq_ok h
    exact initiateDelegatorRemovalInternal_systemStep h1
  | resendUpdateDelegator =>
    obtain rfl := resendUpdateDelegator_eq_ok h
    exact .keep rfl (.refl _)
  | completeDelegatorRemoval => exact completeDelegatorRemoval_systemStep h

end

end StakingManager
