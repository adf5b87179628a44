import IcmServices.StakingManager.Delegation

/-!
# A stake is unlocked at most once, for at most what was locked

The staking manager takes the stake of a validator or a delegator with `_lock` when it registers
and gives it back with `_unlock` when the validation or the delegation ends; both are logged
(`Log.lock`, `Log.unlock`). An observer of a run ties each token movement to the stake of the call
that made it (`stakeEvents`): the validation or the delegation the call registers, the validation
whose removal it completes, or the delegation it names.

* `LockStep` says once what a call does with staked tokens: nothing, or one lock or one unlock of
  one stake, with what the call checked; `step_lockStep` shows every call is one of the five.
* `StakeInv` holds along every run (`exec_stakeInv`): each stake is unlocked at most once and for
  at most what was locked for it; a live PoS validation and a stored delegation still hold what
  was locked for them; an unlocked validation has ended; an unlocked delegation is deleted, under
  a hash whose nonce was already sent, so that no later delegation lands on it.
-/

namespace StakingManager

open Solidity Function Contract

variable {ID : Type}

/-- A stake the staking manager holds: a validator's own, or a delegation's. -/
inductive Stake (ID : Type)
  | validation (validationID : ID)
  | delegation (delegationID : ID)
  deriving DecidableEq

/-- A movement of staked tokens: `_lock(value)`, or `_unlock(_, value)`. -/
inductive Move
  | lock (value : ℕ)
  | unlock (value : ℕ)
  deriving DecidableEq

/-- A movement of staked tokens, with the stake it is for. -/
structure StakeEvent (ID : Type) where
  stake : Stake ID
  move : Move
  deriving DecidableEq

/-- The token movement a log records. -/
def Log.move : Log ID → Option Move
  | .lock value => some (.lock value)
  | .unlock _ value => some (.unlock value)
  | _ => none

/-- The token movements among `l`, in order. -/
def moves (l : List (Log ID)) : List Move := l.filterMap Log.move

/-- The stakes unlocked among `os`, in order. -/
def unlockedStakes (os : List (StakeEvent ID)) : List (Stake ID) :=
  os.filterMap fun e => match e.move with
    | .unlock _ => some e.stake
    | .lock _ => none

@[simp] theorem moves_nil : moves ([] : List (Log ID)) = [] := rfl

@[simp] theorem moves_cons (a : Log ID) (l : List (Log ID)) :
    moves (a :: l) = a.move.toList ++ moves l := by
  cases h : a.move <;> simp [moves, h]

@[simp] theorem moves_append (l₁ l₂ : List (Log ID)) : moves (l₁ ++ l₂) = moves l₁ ++ moves l₂ :=
  List.filterMap_append

@[simp] theorem moves_map_manager (l : List (ValidatorManager.Log ID)) :
    moves (l.map .manager) = [] := by
  simp [moves, List.filterMap_map, Function.comp_def, Log.move]

@[simp] theorem unlockedStakes_append (os₁ os₂ : List (StakeEvent ID)) :
    unlockedStakes (os₁ ++ os₂) = unlockedStakes os₁ ++ unlockedStakes os₂ :=
  List.filterMap_append

@[simp] theorem unlockedStakes_lock (st : Stake ID) (value : ℕ) :
    unlockedStakes [⟨st, .lock value⟩] = [] := rfl

@[simp] theorem unlockedStakes_unlock (st : Stake ID) (value : ℕ) :
    unlockedStakes [⟨st, .unlock value⟩] = [st] := rfl

variable [DecidableEq ID] [Zero ID]

/-- The stake a call is about: the validation or the delegation it registers (the ID the function
returns), the validation whose removal it completes, or the delegation it names. -/
def stakeOf (ctx : Context ID) (s : System ID) : Call ID → Option (Stake ID)
  | .initiateValidatorRegistration sender timestamp nodeID blsPublicKey rbo disableOwner
      delegationFeeBips minStakeDuration stakeAmount rewardRecipient lockedValue =>
    (initiateValidatorRegistration ctx s sender timestamp nodeID blsPublicKey rbo disableOwner
      delegationFeeBips minStakeDuration stakeAmount rewardRecipient lockedValue).toOption.map
      fun r => .validation r.1
  | .completeValidatorRemoval message =>
    (completeValidatorRemoval ctx s message).toOption.map fun r => .validation r.1
  | .initiateDelegatorRegistration sender timestamp validationID rewardRecipient lockedValue =>
    (initiateDelegatorRegistration ctx s sender timestamp validationID rewardRecipient
      lockedValue).toOption.map fun r => .delegation r.1
  | .completeDelegatorRegistration _ delegationID _
  | .initiateDelegatorRemoval _ _ delegationID _ _
  | .forceInitiateDelegatorRemoval _ _ delegationID _ _
  | .completeDelegatorRemoval _ delegationID _ => some (.delegation delegationID)
  | _ => none

/-- What an observer of the token movements sees of a call: each movement it made, for the call's
stake. -/
def stakeEvents (ctx : Context ID) (s : System ID) (c : Call ID) : List (StakeEvent ID) :=
  match stakeOf ctx s c, step ctx s c with
  | some st, .ok (_, l) => (moves l).map (StakeEvent.mk st)
  | _, _ => []

/-- What a call from `s` to `s'` that unlocks the stake `st` has checked: a validation's stake
comes back only through `completeValidatorRemoval`, which completes or invalidates it; a
delegation's only with the delegation deleted, after its validator completed or after the P-Chain
acknowledged a nonce at least its ending nonce. -/
def UnlockedBy (s : System ID) (c : Call ID) (s' : System ID) : Stake ID → Prop
  | .validation v => (∃ message, c = .completeValidatorRemoval message) ∧
    ((s'.manager.validationPeriods v).status = .completed ∨
      (s'.manager.validationPeriods v).status = .invalidated)
  | .delegation d => (s'.staking.delegatorStakes d).status = .unknown ∧
    ((s'.manager.validationPeriods (s.staking.delegatorStakes d).validationID).status = .completed ∨
      (s.staking.delegatorStakes d).endingNonce ≤
        (s'.manager.validationPeriods (s.staking.delegatorStakes d).validationID).receivedNonce)

/-! ## The bookkeeping moves no token -/

/-- `s'` keeps the factor between weight and value and `l` moves no staked token: what the
bookkeeping of uptimes, rewards and reward recipients does. -/
structure Quiet (s s' : State ID) (l : List (Log ID)) : Prop where
  factor : s'.weightToValueFactor = s.weightToValueFactor
  moves : moves l = []

section
variable {s s' : State ID} {l : List (Log ID)}

omit [DecidableEq ID] [Zero ID] in
theorem Quiet.refl (s : State ID) : Quiet s s [] := ⟨rfl, rfl⟩

omit [Zero ID] in
theorem updateUptime_quiet {validationID : ID} {message : Option (ValidatorManager.WarpMessage ID)}
    {uptime : ℕ} (h : updateUptime s validationID message = .ok (uptime, s', l)) :
    Quiet s s' l := by
  cases message with
  | none =>
    obtain ⟨_, h1, -⟩ := bind_eq_ok.1 h
    cases h1
  | some w => ?_
  simp only [updateUptime, bind_eq_ok, require_eq_ok, pure_eq_ok] at h
  obtain ⟨_, -, _, -, _, -, ⟨v, u⟩, -, _, -, h⟩ := h
  split at h
  · simp only [pure_eq_ok, Prod.mk.injEq] at h
    obtain ⟨-, rfl, rfl⟩ := h
    exact ⟨rfl, rfl⟩
  · simp only [pure_eq_ok, Prod.mk.injEq] at h
    obtain ⟨-, rfl, rfl⟩ := h
    exact .refl s

omit [Zero ID] in
theorem removalUptime_quiet {validationID : ID} {includeUptimeProof : Bool}
    {message : Option (ValidatorManager.WarpMessage ID)} {uptime : ℕ}
    (h : removalUptime s validationID includeUptimeProof message = .ok (uptime, s', l)) :
    Quiet s s' l := by
  unfold removalUptime at h
  split at h
  · exact updateUptime_quiet h
  · simp only [pure_eq_ok, Prod.mk.injEq] at h
    obtain ⟨-, rfl, rfl⟩ := h
    exact .refl s

omit [Zero ID] in
theorem withdrawValidationRewards_quiet (rewardRecipient : Address) (validationID : ID) :
    Quiet s (withdrawValidationRewards s rewardRecipient validationID).1
      (withdrawValidationRewards s rewardRecipient validationID).2 :=
  ⟨rfl, rfl⟩

omit [Zero ID] in
theorem withdrawDelegationRewards_quiet {rewardRecipient : Address}
    {delegationID validationID : ID} {delegationRewards validatorFees : ℕ}
    (h : withdrawDelegationRewards s rewardRecipient delegationID validationID =
      .ok (delegationRewards, validatorFees, s', l)) : Quiet s s' l := by
  simp only [withdrawDelegationRewards] at h
  split at h
  · simp only [bind_eq_ok, checkedMul_eq_ok, checkedAdd_eq_ok, checkedSub_eq_ok, pure_eq_ok,
      Prod.mk.injEq] at h
    obtain ⟨_, -, _, -, _, -, -, -, rfl, rfl⟩ := h
    exact ⟨rfl, rfl⟩
  · simp only [pure_eq_ok, Prod.mk.injEq] at h
    obtain ⟨-, -, rfl, rfl⟩ := h
    exact .refl s

omit [Zero ID] in
theorem changeValidatorRewardRecipient_quiet {sender : Address} {validationID : ID}
    {rewardRecipient : Address}
    (h : changeValidatorRewardRecipient s sender validationID rewardRecipient = .ok (s', l)) :
    Quiet s s' l := by
  simp only [changeValidatorRewardRecipient, bind_eq_ok, require_eq_ok, pure_eq_ok,
    Prod.mk.injEq] at h
  obtain ⟨_, -, _, -, rfl, rfl⟩ := h
  exact ⟨rfl, rfl⟩

omit [Zero ID] in
theorem changeDelegatorRewardRecipient_quiet {sender : Address} {delegationID : ID}
    {rewardRecipient : Address}
    (h : changeDelegatorRewardRecipient s sender delegationID rewardRecipient = .ok (s', l)) :
    Quiet s s' l := by
  simp only [changeDelegatorRewardRecipient, bind_eq_ok, require_eq_ok, pure_eq_ok,
    Prod.mk.injEq] at h
  obtain ⟨_, -, _, -, rfl, rfl⟩ := h
  exact ⟨rfl, rfl⟩

end

omit [Zero ID] in
theorem calculateAndSetDelegationReward_factor {ctx : Context ID} {s : System ID} {timestamp : ℕ}
    {delegator : Delegator ID} {rewardRecipient : Address} {delegationID : ID} {reward : ℕ}
    {staking : State ID}
    (h : calculateAndSetDelegationReward ctx s timestamp delegator rewardRecipient delegationID =
      .ok (reward, staking)) : staking.weightToValueFactor = s.staking.weightToValueFactor := by
  simp only [calculateAndSetDelegationReward, bind_eq_ok] at h
  obtain ⟨e, -, h⟩ := h
  split at h
  · simp only [pure_eq_ok, Prod.mk.injEq] at h
    rw [← h.2]
  · simp only [bind_eq_ok, pure_eq_ok, Prod.mk.injEq] at h
    obtain ⟨_, -, -, rfl⟩ := h
    rfl

/-! ## What a call does with staked tokens -/

/-- What a call keeps of the stakes: no validation becomes PoS and no delegation is stored but the
new ones, a stored delegation keeps its weight, and the factor between weight and value stays. -/
structure StakesKept (s s' : State ID) (newValidation newDelegation : Option ID) : Prop where
  pos : ∀ v, isPoSValidator s' v = true → isPoSValidator s v = true ∨ newValidation = some v
  stored : ∀ d, (s'.delegatorStakes d).status ≠ .unknown →
    (s.delegatorStakes d).status ≠ .unknown ∧
      (s'.delegatorStakes d).weight = (s.delegatorStakes d).weight ∨ newDelegation = some d
  factor : s'.weightToValueFactor = s.weightToValueFactor

section
variable {s s' : State ID}

omit [DecidableEq ID] [Zero ID] in
theorem StakingFrame.stakesKept (h : StakingFrame s s')
    (hf : s'.weightToValueFactor = s.weightToValueFactor) : StakesKept s s' none none where
  pos v hv := .inl (h.isPoSValidator_eq v ▸ hv)
  stored d hd := .inl (by rw [h.delegatorStakes] at hd ⊢; exact ⟨hd, rfl⟩)
  factor := hf

omit [Zero ID] in
/-- A frame after the delegation `d` is written as `δ`: the stakes are kept when `δ` deletes it
or keeps the weight of a stored one. -/
theorem StakingFrame.stakesKept_write {d : ID} {δ : Delegator ID}
    (h : StakingFrame { s with delegatorStakes := update s.delegatorStakes d δ } s')
    (hδ : δ.status ≠ .unknown →
      (s.delegatorStakes d).status ≠ .unknown ∧ δ.weight = (s.delegatorStakes d).weight)
    (hf : s'.weightToValueFactor = s.weightToValueFactor) : StakesKept s s' none none where
  pos v hv := .inl (h.isPoSValidator_eq v ▸ hv)
  stored d' hd' := by
    rw [h.delegatorStakes] at hd' ⊢
    dsimp only at hd' ⊢
    by_cases he : d' = d
    · subst he
      rw [update_self] at hd' ⊢
      exact .inl (hδ hd')
    · rw [update_of_ne he] at hd' ⊢
      exact .inl ⟨hd', rfl⟩
  factor := hf

omit [DecidableEq ID] [Zero ID] in
theorem StakesKept.trans {s₁ s₂ s₃ : State ID} (h₁ : StakesKept s₁ s₂ none none)
    (h₂ : StakesKept s₂ s₃ none none) : StakesKept s₁ s₃ none none where
  pos v hv := .inl (((h₂.pos v hv).resolve_right (Option.some_ne_none _).symm |> h₁.pos v).resolve_right (Option.some_ne_none _).symm)
  stored d hd := by
    obtain ⟨hd₂, hw₂⟩ := (h₂.stored d hd).resolve_right (Option.some_ne_none _).symm
    obtain ⟨hd₁, hw₁⟩ := (h₁.stored d hd₂).resolve_right (Option.some_ne_none _).symm
    exact .inl ⟨hd₁, hw₂.trans hw₁⟩
  factor := h₂.factor.trans h₁.factor

end

/-- What a call from `s` to `s'` does with staked tokens, its token movements being the index. -/
inductive LockStep (ctx : Context ID) (s : System ID) (c : Call ID) (s' : System ID) :
    List Move → Prop
  /-- No token moves. -/
  | keep (hs : StakesKept s.staking s'.staking none none) : LockStep ctx s c s' []
  /-- `initiateValidatorRegistration`: the value locked for a new validation, whose starting
  weight is what the value buys. -/
  | lockValidation (v : ID) (value : ℕ) (hc : stakeOf ctx s c = some (.validation v))
      (hst : (s.manager.validationPeriods v).status = .unknown)
      (hw : (s'.manager.validationPeriods v).startingWeight * s.staking.weightToValueFactor ≤
        value)
      (hs : StakesKept s.staking s'.staking (some v) none) : LockStep ctx s c s' [.lock value]
  /-- `completeValidatorRemoval` of a PoS validation: the value of its starting weight back. -/
  | unlockValidation (v : ID) (hc : stakeOf ctx s c = some (.validation v))
      (hpos : isPoSValidator s.staking v = true)
      (hst : (s.manager.validationPeriods v).status = .pendingAdded ∨
        (s.manager.validationPeriods v).status = .pendingRemoved)
      (hu : UnlockedBy s c s' (.validation v)) (hs : StakesKept s.staking s'.staking none none) :
      LockStep ctx s c s' [.unlock ((s.manager.validationPeriods v).startingWeight *
        s.staking.weightToValueFactor)]
  /-- `initiateDelegatorRegistration`: the value locked for a new delegation, under the hash of
  its validation and the validation's next nonce. -/
  | lockDelegation (v d : ID) (value : ℕ) (hc : stakeOf ctx s c = some (.delegation d))
      (hd : d = ctx.keccak256 v ((s.manager.validationPeriods v).sentNonce + 1))
      (hw : (s'.staking.delegatorStakes d).weight * s.staking.weightToValueFactor ≤ value)
      (hs : StakesKept s.staking s'.staking none (some d)) : LockStep ctx s c s' [.lock value]
  /-- `_completeDelegatorRemoval`: the value of the delegation's weight back. -/
  | unlockDelegation (d : ID) (hc : stakeOf ctx s c = some (.delegation d))
      (hst : (s.staking.delegatorStakes d).status ≠ .unknown)
      (hu : UnlockedBy s c s' (.delegation d)) (hs : StakesKept s.staking s'.staking none none) :
      LockStep ctx s c s' [.unlock ((s.staking.delegatorStakes d).weight *
        s.staking.weightToValueFactor)]

/-! ## Each call is one `LockStep` -/

section
variable {ctx : Context ID} {s s' : System ID} {c : Call ID} {l : List (Log ID)}

omit [DecidableEq ID] [Zero ID] in
theorem StakesKept.refl (s : State ID) : StakesKept s s none none :=
  (StakingFrame.refl s).stakesKept rfl

theorem LockStep.of_quiet (hq : Quiet s.staking s'.staking l)
    (hs : StakingFrame s.staking s'.staking) : LockStep ctx s c s' (moves l) := by
  rw [hq.moves]
  exact .keep (hs.stakesKept hq.factor)

/-- `_completeDelegatorRemoval` unlocks the value of the delegation's weight, deletes the
delegation and keeps the rest of the stakes and the validator manager. -/
theorem completeDelegatorRemovalInternal_unlocks {timestamp : ℕ} {delegationID : ID}
    (h : completeDelegatorRemovalInternal s timestamp delegationID = .ok (s', l)) :
    moves l = [.unlock ((s.staking.delegatorStakes delegationID).weight *
        s.staking.weightToValueFactor)] ∧
      s'.manager = s.manager ∧ (s'.staking.delegatorStakes delegationID).status = .unknown ∧
      StakesKept s.staking s'.staking none none := by
  obtain ⟨hm, hf⟩ := completeDelegatorRemovalInternal_eq_ok h
  simp only [completeDelegatorRemovalInternal, bind_eq_ok, require_eq_ok, checkedAdd_eq_ok,
    pure_eq_ok, Prod.mk.injEq] at h
  obtain ⟨_, -, _, -, ⟨r, f, staking, l₁⟩, hw, value, hv, rfl, rfl⟩ := h
  have hq := withdrawDelegationRewards_quiet hw
  simp only [weightToValue, checkedMul_eq_ok] at hv
  obtain ⟨-, rfl⟩ := hv
  refine ⟨?_, hm, ?_, hf.stakesKept_write (fun h0 => (h0 rfl).elim) hq.factor⟩
  · rw [moves_append, hq.moves, hq.factor]
    rfl
  · rw [hf.delegatorStakes]
    simp

omit [Zero ID] in
/-- Waiting for a weight update moves no token; when the update was `needed`, the P-Chain has
acknowledged a nonce of at least `nonce` for `validationID`. -/
theorem completeWeightUpdateIf_acknowledged {manager manager' : ValidatorManager.State ID}
    {needed : Prop} [Decidable needed] {validationID : ID} {nonce : ℕ}
    {message : Option (ValidatorManager.WarpMessage ID)}
    (h : completeWeightUpdateIf ctx manager needed validationID nonce message = .ok (manager', l)) :
    moves l = [] ∧ (¬ needed ∧ manager' = manager ∨
      nonce ≤ (manager'.validationPeriods validationID).receivedNonce) := by
  unfold completeWeightUpdateIf at h
  split at h
  · simp only [bind_eq_ok, require_eq_ok, pure_eq_ok, Prod.mk.injEq] at h
    obtain ⟨⟨⟨v, n⟩, m, l₁⟩, hc, _, rfl, _, hn, rfl, rfl⟩ := h
    obtain ⟨-, rfl⟩ := ValidatorManager.completeValidatorWeightUpdate_eq_ok hc
    refine ⟨moves_map_manager _, .inr ?_⟩
    dsimp only at hn
    simp only [update_self]
    omega
  · rename_i hn
    simp only [pure_eq_ok, Prod.mk.injEq] at h
    obtain ⟨rfl, rfl⟩ := h
    exact ⟨rfl, .inl ⟨hn, rfl⟩⟩

theorem initiateValidatorRegistration_lockStep {sender : Address} {timestamp : ℕ}
    {nodeID blsPublicKey : Bytes} {rbo disableOwner : ValidatorManager.PChainOwner}
    {delegationFeeBips minStakeDuration stakeAmount : ℕ} {rewardRecipient : Address}
    {lockedValue : ℕ} {validationID : ID}
    (h : initiateValidatorRegistration ctx s sender timestamp nodeID blsPublicKey rbo disableOwner
      delegationFeeBips minStakeDuration stakeAmount rewardRecipient lockedValue =
      .ok (validationID, s', l)) :
    LockStep ctx s (.initiateValidatorRegistration sender timestamp nodeID blsPublicKey rbo
      disableOwner delegationFeeBips minStakeDuration stakeAmount rewardRecipient lockedValue) s'
      (moves l) := by
  have hc : stakeOf ctx s (.initiateValidatorRegistration sender timestamp nodeID blsPublicKey rbo
      disableOwner delegationFeeBips minStakeDuration stakeAmount rewardRecipient lockedValue) =
      some (.validation validationID) := by
    simp [stakeOf, h, Except.toOption]
  -- the lock, then the validator manager's logs and the registration event
  have hl : moves l = [.lock lockedValue] := by
    simp only [initiateValidatorRegistration, bind_eq_ok, require_eq_ok, pure_eq_ok,
      Prod.mk.injEq] at h
    obtain ⟨_, -, _, -, _, -, _, -, w, -, ⟨v, m, l₁⟩, -, -, -, rfl⟩ := h
    simp [Log.move]
  obtain ⟨weight, m, l₁, hw, hv, rfl⟩ := initiateValidatorRegistration_eq_ok h
  obtain ⟨_, _, -, -, -, -, hst, -, rfl⟩ := ValidatorManager.initiateValidatorRegistration_eq_ok hv
  obtain ⟨-, rfl⟩ := valueToWeight_eq_ok hw
  rw [hl]
  refine .lockValidation validationID lockedValue hc hst ?_ ⟨fun v hpos => ?_, fun d hd => ?_, rfl⟩
  · simp only [update_self]
    exact Nat.div_mul_le_self _ _
  · by_cases he : v = validationID
    · exact .inr (he ▸ rfl)
    · simp only [isPoSValidator, update_of_ne he] at hpos
      exact .inl hpos
  · exact .inl ⟨hd, rfl⟩

/-- `completeValidatorRemoval` unlocks the value of a PoS validation's starting weight, and
nothing for another one. -/
theorem completeValidatorRemoval_lockStep {message : Option (ValidatorManager.WarpMessage ID)}
    {validationID : ID} (h : completeValidatorRemoval ctx s message = .ok (validationID, s', l)) :
    LockStep ctx s (.completeValidatorRemoval message) s' (moves l) := by
  have hc : stakeOf ctx s (.completeValidatorRemoval message) = some (.validation validationID) := by
    simp [stakeOf, h, Except.toOption]
  simp only [completeValidatorRemoval, bind_eq_ok] at h
  obtain ⟨⟨v, m, l₁⟩, hv, h⟩ := h
  have hm := ValidatorManager.completeValidatorRemoval_eq_ok hv
  split at h
  · -- not a PoS validation: no stake of its own to give back
    simp only [pure_eq_ok, Prod.mk.injEq] at h
    obtain ⟨rfl, rfl, rfl⟩ := h
    rw [moves_map_manager]
    exact .keep (StakesKept.refl _)
  · rename_i hpos
    simp only [bind_eq_ok, pure_eq_ok, Prod.mk.injEq] at h
    obtain ⟨value, hval, rfl, rfl, rfl⟩ := h
    -- the validator manager ended the period and kept its starting weight
    have hend : ((s.manager.validationPeriods v).status = .pendingAdded ∨
          (s.manager.validationPeriods v).status = .pendingRemoved) ∧
        (m.validationPeriods v).startingWeight = (s.manager.validationPeriods v).startingWeight ∧
        ((m.validationPeriods v).status = .completed ∨
          (m.validationPeriods v).status = .invalidated) := by
      rcases hm with ⟨hst, rfl⟩ | ⟨hst, -, rfl⟩ <;> simp [hst]
    obtain ⟨hst, hsw, hst'⟩ := hend
    -- a completed validator's rewards are withdrawn first, which moves no staked token
    have key : ∀ staking l', Quiet s.staking staking l' → StakingFrame s.staking staking →
        weightToValue staking (m.validationPeriods v).startingWeight = .ok value →
        LockStep ctx s (.completeValidatorRemoval message) ⟨m, staking⟩
          (moves (l₁.map .manager ++ l' ++ [.unlock (s.staking.posValidatorInfo v).owner value])) := by
      intro staking l' hq hf hval
      simp only [weightToValue, checkedMul_eq_ok] at hval
      obtain ⟨-, rfl⟩ := hval
      have hl : moves (l₁.map .manager ++ l' ++ [.unlock (s.staking.posValidatorInfo v).owner
          ((m.validationPeriods v).startingWeight * staking.weightToValueFactor)]) =
          [.unlock ((s.manager.validationPeriods v).startingWeight *
            s.staking.weightToValueFactor)] := by
        simp [hq.moves, hsw, hq.factor, Log.move]
      rw [hl]
      exact .unlockValidation v hc (by simpa using hpos) hst ⟨⟨message, rfl⟩, hst'⟩
        (hf.stakesKept hq.factor)
    split
    · rename_i hcomp
      rw [if_pos hcomp] at hval
      exact key _ _ (withdrawValidationRewards_quiet _ _) (withdrawValidationRewards_frame _ _) hval
    · rename_i hcomp
      rw [if_neg hcomp] at hval
      exact key _ _ (.refl _) (.refl _) hval

/-- `initiateDelegatorRegistration` locks the value of a new delegation's weight. -/
theorem initiateDelegatorRegistration_lockStep {sender : Address} {timestamp : ℕ}
    {validationID : ID} {rewardRecipient : Address} {lockedValue : ℕ} {delegationID : ID}
    (h : initiateDelegatorRegistration ctx s sender timestamp validationID rewardRecipient
      lockedValue = .ok (delegationID, s', l)) :
    LockStep ctx s (.initiateDelegatorRegistration sender timestamp validationID rewardRecipient
      lockedValue) s' (moves l) := by
  have hc : stakeOf ctx s (.initiateDelegatorRegistration sender timestamp validationID
      rewardRecipient lockedValue) = some (.delegation delegationID) := by
    simp [stakeOf, h, Except.toOption]
  -- the lock, then the weight update's logs and the registration event
  have hl : moves l = [.lock lockedValue] := by
    simp only [initiateDelegatorRegistration, bind_eq_ok, require_eq_ok, checkedAdd_eq_ok,
      checkedMul_eq_ok, pure_eq_ok, Prod.mk.injEq] at h
    obtain ⟨_, -, _, -, _, -, _, -, _, -, _, -, ⟨n, m, l₁⟩, -, -, -, rfl⟩ := h
    simp [Log.move]
  obtain ⟨weight, nonce, m, l₁, hw, -, -, hv, rfl, rfl⟩ := initiateDelegatorRegistration_eq_ok h
  obtain ⟨_, -, -, rfl, -, -⟩ := ValidatorManager.initiateValidatorWeightUpdate_eq_ok hv
  obtain ⟨-, rfl⟩ := valueToWeight_eq_ok hw
  rw [hl]
  refine .lockDelegation validationID _ lockedValue hc rfl ?_ ⟨fun v hpos => .inl hpos,
    fun d hd => ?_, rfl⟩
  · simp only [update_self]
    exact Nat.div_mul_le_self _ _
  · by_cases he : d = ctx.keccak256 validationID
        ((s.manager.validationPeriods validationID).sentNonce + 1)
    · exact .inr (he ▸ rfl)
    · dsimp only at hd ⊢
      rw [update_of_ne he] at hd ⊢
      exact .inl ⟨hd, rfl⟩

/-- `completeDelegatorRegistration` activates the delegation, or ends it at once when its
validator has completed. -/
theorem completeDelegatorRegistration_lockStep {timestamp : ℕ} {delegationID : ID}
    {message : Option (ValidatorManager.WarpMessage ID)}
    (h : completeDelegatorRegistration ctx s timestamp delegationID message = .ok (s', l)) :
    LockStep ctx s (.completeDelegatorRegistration timestamp delegationID message) s'
      (moves l) := by
  simp only [completeDelegatorRegistration, bind_eq_ok, require_eq_ok] at h
  obtain ⟨_, hst, h⟩ := h
  split at h
  · rename_i hcomp
    obtain ⟨hl, hm, hdel, hs⟩ := completeDelegatorRemovalInternal_unlocks h
    rw [hl]
    exact .unlockDelegation delegationID rfl (by simp [hst]) ⟨hdel, .inl (by rw [hm]; exact hcomp)⟩
      hs
  · simp only [bind_eq_ok, pure_eq_ok, Prod.mk.injEq] at h
    obtain ⟨⟨m, l₁⟩, hw, rfl, rfl⟩ := h
    rw [moves_append, (completeWeightUpdateIf_acknowledged hw).1]
    exact .keep ((StakingFrame.refl _).stakesKept_write (fun _ => ⟨by simp [hst], rfl⟩) rfl)

/-- `_initiatePoSValidatorRemoval` moves no token: the stake stays locked until the removal
completes. -/
theorem initiatePoSValidatorRemoval_lockStep {sender : Address} {timestamp : ℕ}
    {validationID : ID} {includeUptimeProof : Bool}
    {message : Option (ValidatorManager.WarpMessage ID)} {eligible : Bool}
    (h : initiatePoSValidatorRemoval ctx s sender timestamp validationID includeUptimeProof
      message = .ok (eligible, s', l)) : LockStep ctx s c s' (moves l) := by
  simp only [initiatePoSValidatorRemoval, bind_eq_ok] at h
  obtain ⟨⟨m, l₁⟩, -, h⟩ := h
  split at h
  · simp only [pure_eq_ok, Prod.mk.injEq] at h
    obtain ⟨-, rfl, rfl⟩ := h
    rw [moves_map_manager]
    exact .keep (StakesKept.refl _)
  · simp only [bind_eq_ok, require_eq_ok, checkedAdd_eq_ok, pure_eq_ok, Prod.mk.injEq] at h
    obtain ⟨_, -, _, -, _, -, ⟨u, staking, l₂⟩, hu, _, -, _, -, -, rfl, rfl⟩ := h
    have hq := removalUptime_quiet hu
    rw [moves_append, moves_map_manager, hq.moves]
    refine .keep (StakingFrame.stakesKept ?_ hq.factor)
    exact (removalUptime_frame hu).trans ⟨rfl, fun _ => rfl, rfl⟩

/-- `_initiateDelegatorRemoval` moves no token while the validator is active, and ends the
delegation at once when it has completed. -/
theorem initiateDelegatorRemovalInternal_lockStep {sender : Address} {timestamp : ℕ}
    {delegationID : ID} {includeUptimeProof : Bool}
    {message : Option (ValidatorManager.WarpMessage ID)} {eligible : Bool}
    (hc : stakeOf ctx s c = some (.delegation delegationID))
    (h : initiateDelegatorRemovalInternal ctx s sender timestamp delegationID includeUptimeProof
      message = .ok (eligible, s', l)) : LockStep ctx s c s' (moves l) := by
  simp only [initiateDelegatorRemovalInternal, bind_eq_ok, require_eq_ok] at h
  obtain ⟨_, hst, _, -, h⟩ := h
  split at h
  · -- the validator is active: the delegation waits for the weight update
    simp only [bind_eq_ok, require_eq_ok, checkedAdd_eq_ok, checkedSub_eq_ok, pure_eq_ok,
      Prod.mk.injEq] at h
    obtain ⟨_, -, _, -, ⟨u, staking, l₁⟩, hu, _, -, ⟨nonce, m, l₂⟩, -, ⟨r, staking'⟩, hr, -, rfl,
      rfl⟩ := h
    have hq := removalUptime_quiet hu
    have hf := removalUptime_frame hu
    rw [moves_append, moves_append, hq.moves, moves_map_manager]
    refine .keep (StakingFrame.stakesKept_write (δ := { s.staking.delegatorStakes delegationID with
      status := .pendingRemoved, endingNonce := nonce }) ?_ (fun _ => ⟨by simp [hst], rfl⟩)
      ((calculateAndSetDelegationReward_factor hr).trans hq.factor))
    refine StakingFrame.trans ?_ (calculateAndSetDelegationReward_frame hr)
    refine ⟨?_, hf.owner, hf.maximumStakeMultiplier⟩
    simp only [hf.delegatorStakes, update_idem, update_self]
  · split at h
    · -- the validator has completed: the reward is settled, then the delegation deleted
      rename_i hcomp
      simp only [bind_eq_ok, pure_eq_ok, Prod.mk.injEq] at h
      obtain ⟨⟨r, staking⟩, hr, ⟨s'', l₁⟩, hi, rfl, rfl, rfl⟩ := h
      have hf := calculateAndSetDelegationReward_frame hr
      have hfac := calculateAndSetDelegationReward_factor hr
      obtain ⟨hl, hm, hdel, hs⟩ := completeDelegatorRemovalInternal_unlocks hi
      rw [hl]
      dsimp only
      rw [hf.delegatorStakes, hfac]
      exact .unlockDelegation delegationID hc (by simp [hst])
        ⟨hdel, .inl (by rw [hm]; exact hcomp)⟩ ((hf.stakesKept hfac).trans hs)
    · cases h

/-- `completeDelegatorRemoval` ends a delegation whose removal was initiated, once its validator
has completed or the P-Chain has acknowledged its ending nonce. -/
theorem completeDelegatorRemoval_lockStep {timestamp : ℕ} {delegationID : ID}
    {message : Option (ValidatorManager.WarpMessage ID)}
    (h : completeDelegatorRemoval ctx s timestamp delegationID message = .ok (s', l)) :
    LockStep ctx s (.completeDelegatorRemoval timestamp delegationID message) s' (moves l) := by
  simp only [completeDelegatorRemoval, bind_eq_ok, require_eq_ok, pure_eq_ok,
    Prod.mk.injEq] at h
  obtain ⟨_, hst, ⟨m, l₁⟩, hw, ⟨s'', l₂⟩, hr, rfl, rfl⟩ := h
  obtain ⟨hl₁, hack⟩ := completeWeightUpdateIf_acknowledged hw
  obtain ⟨hl₂, hm, hdel, hs⟩ := completeDelegatorRemovalInternal_unlocks hr
  rw [moves_append, hl₁, hl₂, List.nil_append]
  refine .unlockDelegation delegationID rfl (by simp [hst]) ⟨hdel, ?_⟩ hs
  rw [hm]
  -- either no update was needed, or the one completed acknowledged the ending nonce
  rcases hack with ⟨hn, rfl⟩ | hle
  · by_cases hcomp : (s.manager.validationPeriods
        (s.staking.delegatorStakes delegationID).validationID).status = .completed
    · exact .inl hcomp
    · exact .inr (not_lt.1 fun hlt => hn ⟨hcomp, hlt⟩)
  · exact .inr hle

/-- Every call of the system is one `LockStep`. -/
theorem step_lockStep (h : step ctx s c = .ok (s', l)) : LockStep ctx s c s' (moves l) := by
  cases c with
  | manager c =>
    simp only [step, bind_eq_ok, require_eq_ok, pure_eq_ok, Prod.mk.injEq] at h
    obtain ⟨_, -, ⟨m, l₁⟩, -, rfl, rfl⟩ := h
    rw [moves_map_manager]
    exact .keep (StakesKept.refl _)
  | initiateValidatorRegistration =>
    obtain ⟨⟨_, _, _⟩, h1, h2⟩ := map_eq_ok.1 h
    cases h2
    exact initiateValidatorRegistration_lockStep h1
  | completeValidatorRegistration =>
    obtain ⟨⟨_, _, _⟩, h1, h2⟩ := map_eq_ok.1 h
    cases h2
    simp only [completeValidatorRegistration, bind_eq_ok, pure_eq_ok, Prod.mk.injEq] at h1
    obtain ⟨⟨v, m, l₁⟩, -, -, rfl, rfl⟩ := h1
    rw [moves_map_manager]
    exact .keep (StakesKept.refl _)
  | submitUptimeProof =>
    simp only [step, submitUptimeProof, bind_eq_ok, require_eq_ok, pure_eq_ok,
      Prod.mk.injEq] at h
    obtain ⟨_, -, _, -, ⟨u, staking, l₁⟩, hu, rfl, rfl⟩ := h
    exact .of_quiet (updateUptime_quiet hu) (updateUptime_frame hu)
  | claimDelegationFees =>
    simp only [step, claimDelegationFees, bind_eq_ok, require_eq_ok, pure_eq_ok,
      Prod.mk.injEq] at h
    obtain ⟨_, -, _, -, rfl, rfl⟩ := h
    refine .of_quiet ?_ ?_
    · exact withdrawValidationRewards_quiet _ _
    · dsimp only
      exact withdrawValidationRewards_frame _ _
  | changeValidatorRewardRecipient =>
    obtain ⟨⟨staking, l₁⟩, h1, h2⟩ := bind_eq_ok.1 h
    cases h2
    exact .of_quiet (changeValidatorRewardRecipient_quiet h1)
      (changeValidatorRewardRecipient_frame h1)
  | changeDelegatorRewardRecipient =>
    obtain ⟨⟨staking, l₁⟩, h1, h2⟩ := bind_eq_ok.1 h
    cases h2
    exact .of_quiet (changeDelegatorRewardRecipient_quiet h1)
      (changeDelegatorRewardRecipient_frame h1)
  | initiateValidatorRemoval =>
    exact initiatePoSValidatorRemoval_lockStep (initiateValidatorRemoval_eq_ok h)
  | forceInitiateValidatorRemoval =>
    obtain ⟨_, h1⟩ := forceInitiateValidatorRemoval_eq_ok h
    exact initiatePoSValidatorRemoval_lockStep h1
  | completeValidatorRemoval =>
    obtain ⟨⟨_, _, _⟩, h1, h2⟩ := map_eq_ok.1 h
    cases h2
    exact completeValidatorRemoval_lockStep h1
  | initiateDelegatorRegistration =>
    obtain ⟨⟨_, _, _⟩, h1, h2⟩ := map_eq_ok.1 h
    cases h2
    exact initiateDelegatorRegistration_lockStep h1
  | completeDelegatorRegistration => exact completeDelegatorRegistration_lockStep h
  | initiateDelegatorRemoval =>
    exact initiateDelegatorRemovalInternal_lockStep rfl (initiateDelegatorRemoval_eq_ok h)
  | forceInitiateDelegatorRemoval =>
    obtain ⟨_, h1⟩ := forceInitiateDelegatorRemoval_eq_ok h
    exact initiateDelegatorRemovalInternal_lockStep rfl h1
  | resendUpdateDelegator =>
    simp only [step, resendUpdateDelegator, bind_eq_ok, require_eq_ok, pure_eq_ok,
      Prod.mk.injEq] at h
    obtain ⟨_, -, _, -, rfl, rfl⟩ := h
    exact .keep (StakesKept.refl _)
  | completeDelegatorRemoval => exact completeDelegatorRemoval_lockStep h

end

/-! ## What the observer sees -/

section
variable {ctx : Context ID} {s s' : System ID} {c : Call ID} {l : List (Log ID)}

theorem stakeEvents_of_stakeOf (h : step ctx s c = .ok (s', l)) {st : Stake ID}
    (hc : stakeOf ctx s c = some st) : stakeEvents ctx s c = (moves l).map (StakeEvent.mk st) := by
  simp only [stakeEvents, hc, h]

theorem stakeEvents_of_moves (h : step ctx s c = .ok (s', l)) (hm : moves l = []) :
    stakeEvents ctx s c = [] := by
  cases hc : stakeOf ctx s c with
  | none => simp only [stakeEvents, hc]
  | some st => rw [stakeEvents_of_stakeOf h hc, hm, List.map_nil]

theorem stakeEvents_moves (h : step ctx s c = .ok (s', l)) :
    (stakeEvents ctx s c).map StakeEvent.move = moves l := by
  cases hc : stakeOf ctx s c with
  | some st =>
    rw [stakeEvents_of_stakeOf h hc, List.map_map]
    exact List.map_id _
  | none =>
    -- a call about no stake moves no token
    have hl := step_lockStep h
    generalize hm : moves l = ms at hl
    cases hl with
    | keep => rw [stakeEvents_of_moves h hm, List.map_nil]
    | lockValidation _ _ hc' | unlockValidation _ hc' | lockDelegation _ _ _ hc'
    | unlockDelegation _ hc' =>
      rw [hc] at hc'
      cases hc'

theorem observed_moves {s₀ : System ID} {tr : List (Call ID × List (Log ID))}
    {os : List (StakeEvent ID)} (h : Observed (step ctx) (stakeEvents ctx) s₀ tr os s) :
    moves (log tr) = os.map StakeEvent.move := by
  induction h with
  | nil => rfl
  | snoc _ hc ih => rw [log_snoc, moves_append, ih, List.map_append, stakeEvents_moves hc]

theorem SystemInv.periodsMono (hi : SystemInv ctx s) (h : step ctx s c = .ok (s', l)) :
    ValidatorManager.PeriodsMono s.manager s'.manager := by
  rcases (step_systemStep hi.owns h).manager with hm | ⟨c', l', hc'⟩
  · rw [hm]
    exact fun v hv => .refl hv
  · exact ValidatorManager.step_periodsMono hc' fun v hv => hi.delegation.initialized hv

end

/-! ## The invariant -/

/-- What holds of a state and of the token movements observed up to it (see the module doc). -/
structure StakeInv (ctx : Context ID) (s : System ID) (os : List (StakeEvent ID)) : Prop where
  system : SystemInv ctx s
  nodup : (unlockedStakes os).Nodup
  bounded : ∀ st value, ⟨st, .unlock value⟩ ∈ os →
    ∃ lockedValue, ⟨st, .lock lockedValue⟩ ∈ os ∧ value ≤ lockedValue
  ended : ∀ v, .validation v ∈ unlockedStakes os →
    (s.manager.validationPeriods v).status = .completed ∨
      (s.manager.validationPeriods v).status = .invalidated
  validation : ∀ v, isPoSValidator s.staking v = true →
    (s.manager.validationPeriods v).status.isLive = true →
    ∃ lockedValue, ⟨.validation v, .lock lockedValue⟩ ∈ os ∧
      (s.manager.validationPeriods v).startingWeight * s.staking.weightToValueFactor ≤ lockedValue
  delegation : ∀ d, (s.staking.delegatorStakes d).status ≠ .unknown →
    .delegation d ∉ unlockedStakes os ∧ ∃ lockedValue, ⟨.delegation d, .lock lockedValue⟩ ∈ os ∧
      (s.staking.delegatorStakes d).weight * s.staking.weightToValueFactor ≤ lockedValue
  deleted : ∀ d, .delegation d ∈ unlockedStakes os →
    (s.staking.delegatorStakes d).status = .unknown ∧ ∃ v n, d = ctx.keccak256 v n ∧
      n ≤ (s.manager.validationPeriods v).sentNonce ∧
      (s.manager.validationPeriods v).status ≠ .unknown

section
variable {ctx : Context ID} {s s' : System ID} {os : List (StakeEvent ID)}
  {nv : Option ID}

/-! What a call keeps of the old stakes. -/

theorem StakeInv.ended_of_mono (hi : StakeInv ctx s os)
    (hmono : ValidatorManager.PeriodsMono s.manager s'.manager) {v : ID}
    (hv : .validation v ∈ unlockedStakes os) :
    (s'.manager.validationPeriods v).status = .completed ∨
      (s'.manager.validationPeriods v).status = .invalidated := by
  have hf := hi.ended v hv
  have hk : (s.manager.validationPeriods v).status ≠ .unknown := by
    rcases hf with h | h <;> simp [h]
  rw [(hmono v hk).final hf]
  exact hf

/-- A validation PoS before a call and live after it still holds what was locked for it. -/
theorem StakeInv.validation_of_pos (hi : StakeInv ctx s os)
    (hmono : ValidatorManager.PeriodsMono s.manager s'.manager)
    (hf : s'.staking.weightToValueFactor = s.staking.weightToValueFactor) {v : ID}
    (hpos : isPoSValidator s.staking v = true)
    (hl : (s'.manager.validationPeriods v).status.isLive = true) :
    ∃ lockedValue, ⟨.validation v, .lock lockedValue⟩ ∈ os ∧
      (s'.manager.validationPeriods v).startingWeight * s'.staking.weightToValueFactor ≤
        lockedValue := by
  have hk : (s.manager.validationPeriods v).status ≠ .unknown :=
    (hi.system.delegation.carries v hpos).known
  have hm := hmono v hk
  obtain ⟨lv, hlv, hle⟩ := hi.validation v hpos (hm.isLive hk hl)
  exact ⟨lv, hlv, by rw [hm.startingWeight, hf]; exact hle⟩

/-- A delegation stored after a call that stores none anew was stored before, with its lock. -/
theorem StakeInv.delegation_of_kept (hi : StakeInv ctx s os)
    (hs : StakesKept s.staking s'.staking nv none) {d : ID}
    (hd : (s'.staking.delegatorStakes d).status ≠ .unknown) :
    .delegation d ∉ unlockedStakes os ∧ ∃ lockedValue, ⟨.delegation d, .lock lockedValue⟩ ∈ os ∧
      (s'.staking.delegatorStakes d).weight * s'.staking.weightToValueFactor ≤ lockedValue := by
  obtain ⟨hd', hw⟩ := (hs.stored d hd).resolve_right (Option.some_ne_none _).symm
  obtain ⟨hn, lv, hlv, hle⟩ := hi.delegation d hd'
  exact ⟨hn, lv, hlv, by rw [hw, hs.factor]; exact hle⟩

theorem StakeInv.issued_of_mono (hi : StakeInv ctx s os)
    (hmono : ValidatorManager.PeriodsMono s.manager s'.manager) {d : ID}
    (hd : .delegation d ∈ unlockedStakes os) :
    ∃ v n, d = ctx.keccak256 v n ∧ n ≤ (s'.manager.validationPeriods v).sentNonce ∧
      (s'.manager.validationPeriods v).status ≠ .unknown := by
  obtain ⟨-, v, n, rfl, hn, hk⟩ := hi.deleted d hd
  have hm := hmono v hk
  exact ⟨v, n, rfl, hn.trans hm.sentNonce, hm.known⟩

theorem StakeInv.deleted_of_kept (hi : StakeInv ctx s os)
    (hmono : ValidatorManager.PeriodsMono s.manager s'.manager)
    (hs : StakesKept s.staking s'.staking nv none) {d : ID}
    (hd : .delegation d ∈ unlockedStakes os) :
    (s'.staking.delegatorStakes d).status = .unknown ∧ ∃ v n, d = ctx.keccak256 v n ∧
      n ≤ (s'.manager.validationPeriods v).sentNonce ∧
      (s'.manager.validationPeriods v).status ≠ .unknown := by
  refine ⟨by_contra fun hne => ?_, hi.issued_of_mono hmono hd⟩
  exact ((hs.stored d hne).resolve_right (Option.some_ne_none _).symm).1 (hi.deleted d hd).1

theorem StakeInv.next_not_unlocked (hi : StakeInv ctx s os) (hk : KeccakInjective ctx) (v : ID) :
    .delegation (ctx.keccak256 v ((s.manager.validationPeriods v).sentNonce + 1)) ∉
      unlockedStakes os := by
  intro hd
  obtain ⟨-, v', n, he, hn, -⟩ := hi.deleted _ hd
  obtain ⟨rfl, rfl⟩ := hk _ _ _ _ he
  exact Nat.not_succ_le_self _ hn

/-! Each kind of `LockStep` keeps the invariant. -/

theorem StakeInv.keep (hi : StakeInv ctx s os) (hsys : SystemInv ctx s')
    (hmono : ValidatorManager.PeriodsMono s.manager s'.manager)
    (hs : StakesKept s.staking s'.staking none none) : StakeInv ctx s' os where
  system := hsys
  nodup := hi.nodup
  bounded := hi.bounded
  ended _ hv := hi.ended_of_mono hmono hv
  validation v hpos hl :=
    hi.validation_of_pos hmono hs.factor ((hs.pos v hpos).resolve_right (Option.some_ne_none _).symm) hl
  delegation _ hd := hi.delegation_of_kept hs hd
  deleted _ hd := hi.deleted_of_kept hmono hs hd

theorem StakeInv.lockValidation (hi : StakeInv ctx s os) (hsys : SystemInv ctx s')
    (hmono : ValidatorManager.PeriodsMono s.manager s'.manager) {v : ID} {value : ℕ}
    (hw : (s'.manager.validationPeriods v).startingWeight * s.staking.weightToValueFactor ≤ value)
    (hs : StakesKept s.staking s'.staking (some v) none) :
    StakeInv ctx s' (os ++ [⟨.validation v, .lock value⟩]) where
  system := hsys
  nodup := by simpa using hi.nodup
  bounded st value' hu := by
    have hu' : ⟨st, .unlock value'⟩ ∈ os := by simpa using hu
    obtain ⟨lv, hlv, hle⟩ := hi.bounded st value' hu'
    exact ⟨lv, List.mem_append_left _ hlv, hle⟩
  ended _ hv := hi.ended_of_mono hmono (by simpa using hv)
  validation v' hpos hl := by
    rcases hs.pos v' hpos with hpos' | he
    · obtain ⟨lv, hlv, hle⟩ := hi.validation_of_pos hmono hs.factor hpos' hl
      exact ⟨lv, List.mem_append_left _ hlv, hle⟩
    · -- the new validation holds the new lock
      cases he
      exact ⟨value, by simp, by rw [hs.factor]; exact hw⟩
  delegation _ hd := by
    obtain ⟨hn, lv, hlv, hle⟩ := hi.delegation_of_kept hs hd
    exact ⟨by simpa using hn, lv, List.mem_append_left _ hlv, hle⟩
  deleted _ hd := hi.deleted_of_kept hmono hs (by simpa using hd)

theorem StakeInv.unlockValidation (hi : StakeInv ctx s os) (hsys : SystemInv ctx s')
    (hmono : ValidatorManager.PeriodsMono s.manager s'.manager) {v : ID}
    (hpos : isPoSValidator s.staking v = true)
    (hst : (s.manager.validationPeriods v).status = .pendingAdded ∨
      (s.manager.validationPeriods v).status = .pendingRemoved)
    (hend : (s'.manager.validationPeriods v).status = .completed ∨
      (s'.manager.validationPeriods v).status = .invalidated)
    (hs : StakesKept s.staking s'.staking none none) :
    StakeInv ctx s' (os ++ [⟨.validation v, .unlock ((s.manager.validationPeriods v).startingWeight *
      s.staking.weightToValueFactor)⟩]) where
  system := hsys
  nodup := by
    -- a validation that has not ended has not been unlocked
    have hn : .validation v ∉ unlockedStakes os := fun hv => by
      rcases hi.ended v hv with h | h <;> rcases hst with h' | h' <;> rw [h] at h' <;> cases h'
    simpa [List.nodup_append] using ⟨hi.nodup, fun a ha he => hn (he ▸ ha)⟩
  bounded st value hu := by
    rcases List.mem_append.1 hu with hu | hu
    · obtain ⟨lv, hlv, hle⟩ := hi.bounded st value hu
      exact ⟨lv, List.mem_append_left _ hlv, hle⟩
    · obtain ⟨rfl, rfl⟩ : st = .validation v ∧ value = _ := by simpa using hu
      have hl : (s.manager.validationPeriods v).status.isLive = true := by
        rcases hst with h | h <;> simp [h, ValidatorManager.ValidatorStatus.isLive]
      obtain ⟨lv, hlv, hle⟩ := hi.validation v hpos hl
      exact ⟨lv, List.mem_append_left _ hlv, hle⟩
  ended v' hv := by
    simp only [unlockedStakes_append, unlockedStakes_unlock, List.mem_append, List.mem_singleton,
      Stake.validation.injEq] at hv
    rcases hv with hv | rfl
    · exact hi.ended_of_mono hmono hv
    · exact hend
  validation v' hpos' hl := by
    obtain ⟨lv, hlv, hle⟩ :=
      hi.validation_of_pos hmono hs.factor ((hs.pos v' hpos').resolve_right (Option.some_ne_none _).symm) hl
    exact ⟨lv, List.mem_append_left _ hlv, hle⟩
  delegation _ hd := by
    obtain ⟨hn, lv, hlv, hle⟩ := hi.delegation_of_kept hs hd
    exact ⟨by simpa using hn, lv, List.mem_append_left _ hlv, hle⟩
  deleted _ hd := hi.deleted_of_kept hmono hs (by simpa using hd)

theorem StakeInv.lockDelegation (hi : StakeInv ctx s os) (hk : KeccakInjective ctx)
    (hsys : SystemInv ctx s') (hmono : ValidatorManager.PeriodsMono s.manager s'.manager)
    {v d : ID} {value : ℕ}
    (hd : d = ctx.keccak256 v ((s.manager.validationPeriods v).sentNonce + 1))
    (hw : (s'.staking.delegatorStakes d).weight * s.staking.weightToValueFactor ≤ value)
    (hs : StakesKept s.staking s'.staking none (some d)) :
    StakeInv ctx s' (os ++ [⟨.delegation d, .lock value⟩]) := by
  -- the new delegation's hash was never unlocked
  have hnew : .delegation d ∉ unlockedStakes os := by
    rw [hd]
    exact hi.next_not_unlocked hk v
  exact {
    system := hsys
    nodup := by simpa using hi.nodup
    bounded := fun st value' hu => by
      have hu' : ⟨st, .unlock value'⟩ ∈ os := by simpa using hu
      obtain ⟨lv, hlv, hle⟩ := hi.bounded st value' hu'
      exact ⟨lv, List.mem_append_left _ hlv, hle⟩
    ended := fun _ hv => hi.ended_of_mono hmono (by simpa using hv)
    validation := fun v' hpos hl => by
      obtain ⟨lv, hlv, hle⟩ :=
        hi.validation_of_pos hmono hs.factor ((hs.pos v' hpos).resolve_right (Option.some_ne_none _).symm) hl
      exact ⟨lv, List.mem_append_left _ hlv, hle⟩
    delegation := fun d' hd' => by
      rcases hs.stored d' hd' with ⟨hd'', hw'⟩ | he
      · obtain ⟨hn, lv, hlv, hle⟩ := hi.delegation d' hd''
        exact ⟨by simpa using hn, lv, List.mem_append_left _ hlv,
          by rw [hw', hs.factor]; exact hle⟩
      · cases he
        exact ⟨by simpa using hnew, value, by simp, by rw [hs.factor]; exact hw⟩
    deleted := fun d' hd' => by
      have hd'' : .delegation d' ∈ unlockedStakes os := by simpa using hd'
      refine ⟨by_contra fun hne => ?_, hi.issued_of_mono hmono hd''⟩
      rcases hs.stored d' hne with ⟨hd₀, -⟩ | he
      · exact hd₀ (hi.deleted d' hd'').1
      · cases he
        exact hnew hd'' }

theorem StakeInv.unlockDelegation (hi : StakeInv ctx s os) (hsys : SystemInv ctx s')
    (hmono : ValidatorManager.PeriodsMono s.manager s'.manager) {d : ID}
    (hst : (s.staking.delegatorStakes d).status ≠ .unknown)
    (hdel : (s'.staking.delegatorStakes d).status = .unknown)
    (hs : StakesKept s.staking s'.staking none none) :
    StakeInv ctx s' (os ++ [⟨.delegation d, .unlock ((s.staking.delegatorStakes d).weight *
      s.staking.weightToValueFactor)⟩]) where
  system := hsys
  nodup := by
    simpa [List.nodup_append] using ⟨hi.nodup, fun a ha he => (hi.delegation d hst).1 (he ▸ ha)⟩
  bounded st value hu := by
    rcases List.mem_append.1 hu with hu | hu
    · obtain ⟨lv, hlv, hle⟩ := hi.bounded st value hu
      exact ⟨lv, List.mem_append_left _ hlv, hle⟩
    · obtain ⟨rfl, rfl⟩ : st = .delegation d ∧ value = _ := by simpa using hu
      obtain ⟨-, lv, hlv, hle⟩ := hi.delegation d hst
      exact ⟨lv, List.mem_append_left _ hlv, hle⟩
  ended _ hv := hi.ended_of_mono hmono (by simpa using hv)
  validation v hpos hl := by
    obtain ⟨lv, hlv, hle⟩ :=
      hi.validation_of_pos hmono hs.factor ((hs.pos v hpos).resolve_right (Option.some_ne_none _).symm) hl
    exact ⟨lv, List.mem_append_left _ hlv, hle⟩
  delegation d' hd' := by
    -- the deleted delegation is not stored; the others keep their locks
    have he : d' ≠ d := fun he => hd' (by rw [he]; exact hdel)
    obtain ⟨hn, lv, hlv, hle⟩ := hi.delegation_of_kept hs hd'
    exact ⟨by simpa [he] using hn, lv, List.mem_append_left _ hlv, hle⟩
  deleted d' hd' := by
    simp only [unlockedStakes_append, unlockedStakes_unlock, List.mem_append, List.mem_singleton,
      Stake.delegation.injEq] at hd'
    rcases hd' with hd' | rfl
    · exact hi.deleted_of_kept hmono hs hd'
    · -- the delegation was stored under a nonce its validation had sent
      have hI := hi.system.delegation.issued d' hst
      have hm := hmono _ hI.known
      exact ⟨hdel, _, _, hI.key, hI.nonce.trans hm.sentNonce, hm.known⟩

end

/-! ## Along every run -/

section
variable {ctx : Context ID} {s s' : System ID} {os : List (StakeEvent ID)}

theorem step_stakeInv (hk : KeccakInjective ctx) (hi : StakeInv ctx s os) {c : Call ID}
    {l : List (Log ID)} (h : step ctx s c = .ok (s', l)) :
    StakeInv ctx s' (os ++ stakeEvents ctx s c) := by
  have hsys := step_systemInv hk hi.system h
  have hmono := hi.system.periodsMono h
  have hl := step_lockStep h
  generalize hm : moves l = ms at hl
  cases hl with
  | keep hs =>
    rw [stakeEvents_of_moves h hm, List.append_nil]
    exact hi.keep hsys hmono hs
  | lockValidation v value hc _ hw hs =>
    rw [stakeEvents_of_stakeOf h hc, hm]
    exact hi.lockValidation hsys hmono hw hs
  | unlockValidation v hc hpos hst hu hs =>
    rw [stakeEvents_of_stakeOf h hc, hm]
    exact hi.unlockValidation hsys hmono hpos hst hu.2 hs
  | lockDelegation v d value hc hd hw hs =>
    rw [stakeEvents_of_stakeOf h hc, hm]
    exact hi.lockDelegation hk hsys hmono hd hw hs
  | unlockDelegation d hc hst hu hs =>
    rw [stakeEvents_of_stakeOf h hc, hm]
    exact hi.unlockDelegation hsys hmono hst hu.1 hs

/-- A call that unlocks a stake has checked what `UnlockedBy` says, from any state. -/
theorem unlockedBy_of_step {c : Call ID} {l : List (Log ID)} (h : step ctx s c = .ok (s', l))
    {st : Stake ID} {value : ℕ} (hu : ⟨st, .unlock value⟩ ∈ stakeEvents ctx s c) :
    UnlockedBy s c s' st := by
  have hl := step_lockStep h
  generalize hm : moves l = ms at hl
  cases hl with
  | keep =>
    rw [stakeEvents_of_moves h hm] at hu
    cases hu
  | lockValidation _ _ hc | lockDelegation _ _ _ hc =>
    rw [stakeEvents_of_stakeOf h hc, hm] at hu
    simp at hu
  | unlockValidation v hc _ _ hv =>
    rw [stakeEvents_of_stakeOf h hc, hm] at hu
    obtain ⟨rfl, -⟩ : st = .validation v ∧ _ := by simpa using hu
    exact hv
  | unlockDelegation d hc _ hd =>
    rw [stakeEvents_of_stakeOf h hc, hm] at hu
    obtain ⟨rfl, -⟩ : st = .delegation d ∧ _ := by simpa using hu
    exact hd

theorem stakeInv_init {vmSettings : ValidatorManager.ValidatorManagerSettings}
    {settings : StakingManagerSettings} {m₀ : ValidatorManager.State ID} {st₀ : State ID}
    (hm₀ : ValidatorManager.validatorManagerInit vmSettings = .ok m₀)
    (hs₀ : stakingManagerInit settings m₀ = .ok st₀) (ho : ctx.OwnsManager) :
    StakeInv ctx ⟨m₀, st₀⟩ [] where
  system := systemInit_inv hm₀ hs₀ ho
  nodup := List.nodup_nil
  bounded _ _ h := by simp at h
  ended _ h := by simp [unlockedStakes] at h
  validation v hpos := by
    obtain ⟨-, -, hp⟩ := stakingManagerInit_eq_ok hs₀
    simp [isPoSValidator, hp v] at hpos
  delegation d hd := by
    obtain ⟨-, hd₀, -⟩ := stakingManagerInit_eq_ok hs₀
    simp [hd₀ d] at hd
  deleted _ h := by simp [unlockedStakes] at h

/-- The invariant holds along every run from a staking manager that owns its validator
manager. -/
theorem exec_stakeInv (hk : KeccakInjective ctx)
    {vmSettings : ValidatorManager.ValidatorManagerSettings} {settings : StakingManagerSettings}
    {m₀ : ValidatorManager.State ID} {st₀ : State ID} {tr : List (Call ID × List (Log ID))}
    (hm₀ : ValidatorManager.validatorManagerInit vmSettings = .ok m₀)
    (hs₀ : stakingManagerInit settings m₀ = .ok st₀) (ho : ctx.OwnsManager)
    (h : Observed (step ctx) (stakeEvents ctx) ⟨m₀, st₀⟩ tr os s) : StakeInv ctx s os :=
  h.inv (P := StakeInv ctx) (fun _ _ _ _ _ ht hs => step_stakeInv hk ht hs)
    (stakeInv_init hm₀ hs₀ ho)

theorem stake_unlocked_at_most_once (hk : KeccakInjective ctx)
    {vmSettings : ValidatorManager.ValidatorManagerSettings} {settings : StakingManagerSettings}
    {m₀ : ValidatorManager.State ID} {st₀ : State ID} {tr : List (Call ID × List (Log ID))}
    (hm₀ : ValidatorManager.validatorManagerInit vmSettings = .ok m₀)
    (hs₀ : stakingManagerInit settings m₀ = .ok st₀) (ho : ctx.OwnsManager)
    (h : Observed (step ctx) (stakeEvents ctx) ⟨m₀, st₀⟩ tr os s) :
    moves (log tr) = os.map StakeEvent.move ∧ (unlockedStakes os).Nodup ∧
      (∀ st value, ⟨st, .unlock value⟩ ∈ os →
        ∃ lockedValue, ⟨st, .lock lockedValue⟩ ∈ os ∧ value ≤ lockedValue) ∧
      (∀ v, .validation v ∈ unlockedStakes os →
        (s.manager.validationPeriods v).status = .completed ∨
          (s.manager.validationPeriods v).status = .invalidated) ∧
      (∀ d, .delegation d ∈ unlockedStakes os → (s.staking.delegatorStakes d).status = .unknown) ∧
      ∀ (t u : System ID) c out st value, step ctx t c = .ok (u, out) →
        ⟨st, .unlock value⟩ ∈ stakeEvents ctx t c → UnlockedBy t c u st := by
  have hi := exec_stakeInv hk hm₀ hs₀ ho h
  exact ⟨observed_moves h, hi.nodup, hi.bounded, hi.ended, fun d hd => (hi.deleted d hd).1,
    fun _ _ _ _ _ _ hc hu => unlockedBy_of_step hc hu⟩

end

set_option maxRecDepth 20000 in
/-- The PoS validator of `sampleValidationID` and a delegation of 10 to it registered; the
delegation then forced out after the minimum stake duration, and its stake unlocked. -/
theorem stake_unlocked_at_most_once_delegated :
    ∃ (m₀ : ValidatorManager.State ℕ) (st₀ : State ℕ) (s : System ℕ)
      (tr : List (Call ℕ × List (Log ℕ))) (os : List (StakeEvent ℕ)),
      ValidatorManager.validatorManagerInit ValidatorManager.idealSettings = .ok m₀ ∧
      stakingManagerInit idealStakingSettings m₀ = .ok st₀ ∧
      Observed (step idealStakingContext) (stakeEvents idealStakingContext) ⟨m₀, st₀⟩ tr os s ∧
      os = [⟨.validation sampleValidationID, .lock 20⟩,
        ⟨.delegation (Nat.pair sampleValidationID 1), .lock 10⟩,
        ⟨.delegation (Nat.pair sampleValidationID 1), .unlock 10⟩] ∧
      moves (log tr) = os.map StakeEvent.move ∧ (unlockedStakes os).Nodup ∧
      (∀ st value, ⟨st, .unlock value⟩ ∈ os →
        ∃ lockedValue, ⟨st, .lock lockedValue⟩ ∈ os ∧ value ≤ lockedValue) ∧
      (∀ v, .validation v ∈ unlockedStakes os →
        (s.manager.validationPeriods v).status = .completed ∨
          (s.manager.validationPeriods v).status = .invalidated) ∧
      (∀ d, .delegation d ∈ unlockedStakes os → (s.staking.delegatorStakes d).status = .unknown) ∧
      ∀ (t u : System ℕ) c out st value, step idealStakingContext t c = .ok (u, out) →
        ⟨st, .unlock value⟩ ∈ stakeEvents idealStakingContext t c → UnlockedBy t c u st := by
  obtain ⟨m₀, st₀, s, tr, os, hm₀, hs₀, h, hos⟩ : ∃ (m₀ : ValidatorManager.State ℕ)
      (st₀ : State ℕ) (s : System ℕ) (tr : List (Call ℕ × List (Log ℕ)))
      (os : List (StakeEvent ℕ)),
      ValidatorManager.validatorManagerInit ValidatorManager.idealSettings = .ok m₀ ∧
      stakingManagerInit idealStakingSettings m₀ = .ok st₀ ∧
      Observed (step idealStakingContext) (stakeEvents idealStakingContext) ⟨m₀, st₀⟩ tr os s ∧
      os = [⟨.validation sampleValidationID, .lock 20⟩,
        ⟨.delegation (Nat.pair sampleValidationID 1), .lock 10⟩,
        ⟨.delegation (Nat.pair sampleValidationID 1), .unlock 10⟩] :=
    ⟨_, _, _, _, _, rfl, rfl, .snoc (.snoc (.snoc (.snoc (.snoc (.snoc (.snoc (.nil _)
      (show step idealStakingContext _ (.manager (.initializeValidatorSet 0
        ValidatorManager.sampleConversion (some ⟨0, 0, .subnetToL1Conversion
          (ValidatorManager.idealSha256
            (ValidatorManager.packConversionData ValidatorManager.sampleConversion))⟩))) =
        .ok (_, _) from rfl))
      (show step idealStakingContext _ (.initiateValidatorRegistration 0xA 10
        (List.replicate 20 4) (List.replicate 48 0) ⟨0, []⟩ ⟨0, []⟩ 100 3600 20 0xA 20) =
        .ok (_, _) from rfl))
      (show step idealStakingContext _ (.completeValidatorRegistration 11
        (some ⟨0, 0, .l1ValidatorRegistration sampleValidationID true⟩)) = .ok (_, _) from rfl))
      (show step idealStakingContext _
        (.initiateDelegatorRegistration 0xB 12 sampleValidationID 0xB 10) = .ok (_, _) from rfl))
      (show step idealStakingContext _ (.completeDelegatorRegistration 13
        (Nat.pair sampleValidationID 1)
        (some ⟨0, 0, .l1ValidatorWeight sampleValidationID 1 30⟩)) = .ok (_, _) from rfl))
      (show step idealStakingContext _ (.forceInitiateDelegatorRemoval 0xB 4000
        (Nat.pair sampleValidationID 1) false none) = .ok (_, _) from rfl))
      (show step idealStakingContext _ (.completeDelegatorRemoval 4001
        (Nat.pair sampleValidationID 1)
        (some ⟨0, 0, .l1ValidatorWeight sampleValidationID 2 20⟩)) = .ok (_, _) from rfl),
      rfl⟩
  exact ⟨m₀, st₀, s, tr, os, hm₀, hs₀, h, hos, stake_unlocked_at_most_once
    idealStakingContext_keccakInjective hm₀ hs₀ idealStakingContext_ownsManager h⟩

end StakingManager
