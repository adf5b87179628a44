import IcmServices.ValidatorManager.Manager

/-!
# What one call of the validator manager does

The `_eq_ok` lemmas take a successful call apart into the checks it passed and the state it wrote.
`ManagerStep` then says once what a call other than `initializeValidatorSet` can do to the parts
of the state the invariants are about (each validation period's status, node ID and weight, the
node ID index `_registeredValidators` and the tracked total weight): nothing, or one of six
transitions of one validation period. `step_managerStep` shows every call is one.
-/

namespace ValidatorManager

open Solidity Function

variable {ID : Type} [DecidableEq ID] [Zero ID]

/-! ## The statements of each entry point -/

section
variable {ctx : Context ID} {s s' : State ID} {l : List (Log ID)}

omit [DecidableEq ID] [Zero ID] in
/-- A new churn period or the current one: either way the total weight is the tracker's. -/
theorem churnPeriod_totalWeight {timestamp change : ℕ} {churnTracker : ValidatorChurnPeriod}
    (h : churnPeriod s timestamp change = .ok churnTracker) :
    churnTracker.totalWeight = s.churnTracker.totalWeight := by
  simp only [churnPeriod] at h
  split at h
  · rw [← pure_eq_ok.1 h]
  · obtain ⟨e, -, h⟩ := bind_eq_ok.1 h
    split at h
    · rw [← pure_eq_ok.1 h]
    · obtain ⟨a, -, h⟩ := bind_eq_ok.1 h
      rw [← pure_eq_ok.1 h]

omit [DecidableEq ID] [Zero ID] in
/-- The churn tracker moves the total weight by the change, and nothing else of the state. -/
theorem checkAndUpdateChurnTracker_eq_ok {timestamp new old : ℕ}
    (h : checkAndUpdateChurnTracker s timestamp new old = .ok s') :
    ∃ churnTracker, s' = { s with churnTracker := churnTracker } ∧
      churnTracker.totalWeight + old = s.churnTracker.totalWeight + new := by
  simp only [checkAndUpdateChurnTracker, bind_eq_ok, require_eq_ok, checkedMul_eq_ok,
    checkedAdd_eq_ok, checkedSub_eq_ok, pure_eq_ok] at h
  obtain ⟨ct, hct, _, -, _, -, _, -, total, ⟨-, rfl⟩, total', ⟨hle, rfl⟩, _, -, _, -, rfl⟩ := h
  have hk := churnPeriod_totalWeight hct
  refine ⟨_, rfl, ?_⟩
  dsimp only
  omega

omit [Zero ID] in
theorem initiateWeightUpdate_eq_ok {timestamp : ℕ} {validationID : ID} {newWeight nonce : ℕ}
    (h : initiateWeightUpdate s timestamp validationID newWeight = .ok (nonce, s', l)) :
    ∃ churnTracker,
      churnTracker.totalWeight + (s.validationPeriods validationID).weight =
        s.churnTracker.totalWeight + newWeight ∧
      nonce = (s.validationPeriods validationID).sentNonce + 1 ∧
      s' = { s with
        churnTracker := churnTracker
        validationPeriods := update s.validationPeriods validationID
          { s.validationPeriods validationID with sentNonce := nonce, weight := newWeight } } ∧
      l = [.sendWarpMessage (.l1ValidatorWeight validationID nonce newWeight),
        .initiatedValidatorWeightUpdate validationID nonce newWeight] := by
  simp only [initiateWeightUpdate, bind_eq_ok, checkedAdd_eq_ok, pure_eq_ok, Prod.mk.injEq] at h
  obtain ⟨s₁, h1, n, ⟨-, rfl⟩, rfl, rfl, rfl⟩ := h
  obtain ⟨ct, rfl, hct⟩ := checkAndUpdateChurnTracker_eq_ok h1
  exact ⟨ct, hct, rfl, rfl, rfl⟩

theorem initiateValidatorRegistration_eq_ok {ctx : Context ID} {sender : Address}
    {timestamp : ℕ} {nodeID blsPublicKey : Bytes} {rbo disableOwner : PChainOwner} {weight : ℕ}
    {validationID : ID}
    (h : initiateValidatorRegistration ctx s sender timestamp nodeID blsPublicKey rbo
      disableOwner weight = .ok (validationID, s', l)) :
    ∃ churnTracker message,
      s.initializedValidatorSet = true ∧ nodeID.length = nodeIDLength ∧
      s.registeredValidators nodeID = 0 ∧ validationID = ctx.sha256 message ∧
      (s.validationPeriods validationID).status = .unknown ∧
      churnTracker.totalWeight = s.churnTracker.totalWeight + weight ∧
      s' = { s with
        churnTracker := churnTracker
        pendingRegisterValidationMessages :=
          update s.pendingRegisterValidationMessages validationID message
        registeredValidators := update s.registeredValidators nodeID validationID
        validationPeriods := update s.validationPeriods validationID
          { s.validationPeriods validationID with
            status := .pendingAdded
            nodeID := nodeID
            startingWeight := weight
            sentNonce := 0
            weight := weight
            startTime := 0
            endTime := 0 } } := by
  simp only [initiateValidatorRegistration, bind_eq_ok, require_eq_ok, 
    checkedAdd_eq_ok, pure_eq_ok, Prod.mk.injEq] at h
  obtain ⟨_, -, _, hinit, _, -, _, -, _, -, _, -, _, hlen, _, hreg, s₁, h1, expiry, -,
    ⟨id, message⟩, h2, _, hst, rfl, rfl, -⟩ := h
  obtain ⟨ct, rfl, hct⟩ := checkAndUpdateChurnTracker_eq_ok h1
  obtain ⟨-, rfl⟩ := packRegisterL1ValidatorMessage_eq_ok h2
  exact ⟨ct, message, hinit, hlen, hreg, rfl, hst, by omega, rfl⟩

omit [Zero ID] in
theorem completeValidatorRegistration_eq_ok {sender : Address} {timestamp : ℕ}
    {message : Option (WarpMessage ID)} {validationID : ID}
    (h : completeValidatorRegistration ctx s sender timestamp message = .ok (validationID, s', l)) :
    (s.validationPeriods validationID).status = .pendingAdded ∧
      s' = { s with
        pendingRegisterValidationMessages :=
          update s.pendingRegisterValidationMessages validationID []
        validationPeriods := update s.validationPeriods validationID
          { s.validationPeriods validationID with
            status := .active
            startTime := timestamp % 2 ^ 64 } } := by
  simp only [completeValidatorRegistration, bind_eq_ok, require_eq_ok, 
    pure_eq_ok, Prod.mk.injEq] at h
  obtain ⟨_, -, w, -, ⟨id, valid⟩, -, _, -, _, -, _, hst, rfl, rfl, -⟩ := h
  exact ⟨hst, rfl⟩

omit [Zero ID] in
theorem initiateValidatorRemoval_eq_ok {sender : Address} {timestamp : ℕ} {validationID : ID}
    (h : initiateValidatorRemoval ctx s sender timestamp validationID = .ok (s', l)) :
    ∃ churnTracker,
      (s.validationPeriods validationID).status = .active ∧
      churnTracker.totalWeight + (s.validationPeriods validationID).weight =
        s.churnTracker.totalWeight ∧
      s' = { s with
        churnTracker := churnTracker
        validationPeriods := update s.validationPeriods validationID
          { s.validationPeriods validationID with
            status := .pendingRemoved
            endTime := timestamp % 2 ^ 64
            sentNonce := (s.validationPeriods validationID).sentNonce + 1
            weight := 0 } } := by
  simp only [initiateValidatorRemoval, bind_eq_ok, require_eq_ok, 
    pure_eq_ok, Prod.mk.injEq] at h
  obtain ⟨_, -, _, hst, ⟨n, s₁, l₁⟩, h1, rfl, -⟩ := h
  obtain ⟨ct, hct, rfl, rfl, -⟩ := initiateWeightUpdate_eq_ok h1
  refine ⟨ct, hst, by simpa using hct, ?_⟩
  simp [update_idem]

theorem completeValidatorRemoval_eq_ok {sender : Address} {message : Option (WarpMessage ID)}
    {validationID : ID}
    (h : completeValidatorRemoval ctx s sender message = .ok (validationID, s', l)) :
    let validator := s.validationPeriods validationID
    (validator.status = .pendingRemoved ∧
      s' = { s with
        registeredValidators := update s.registeredValidators validator.nodeID 0
        validationPeriods := update s.validationPeriods validationID
          { validator with status := .completed } }) ∨
    (validator.status = .pendingAdded ∧ validator.weight ≤ s.churnTracker.totalWeight ∧
      s' = { s with
        churnTracker := { s.churnTracker with
          totalWeight := s.churnTracker.totalWeight - validator.weight }
        registeredValidators := update s.registeredValidators validator.nodeID 0
        validationPeriods := update s.validationPeriods validationID
          { validator with status := .invalidated } }) := by
  simp only [completeValidatorRemoval, bind_eq_ok, require_eq_ok] at h
  obtain ⟨_, -, w, -, ⟨id, registered⟩, -, _, -, _, hst, h⟩ := h
  split at h
  · rename_i hr
    simp only [bind_eq_ok, pure_eq_ok] at h
    obtain ⟨_, rfl, h⟩ := h
    simp only [Prod.mk.injEq] at h
    obtain ⟨rfl, rfl, -⟩ := h
    exact .inl ⟨hr, rfl⟩
  · rename_i hr
    simp only [bind_eq_ok, checkedSub_eq_ok, pure_eq_ok] at h
    obtain ⟨_, ⟨hle, rfl⟩, _, rfl, h⟩ := h
    simp only [Prod.mk.injEq] at h
    obtain ⟨rfl, rfl, -⟩ := h
    exact .inr ⟨hst.resolve_left hr, hle, rfl⟩

omit [Zero ID] in
theorem initiateValidatorWeightUpdate_eq_ok {sender : Address} {timestamp : ℕ}
    {validationID : ID} {newWeight nonce : ℕ}
    (h : initiateValidatorWeightUpdate ctx s sender timestamp validationID newWeight =
      .ok (nonce, s', l)) :
    ∃ churnTracker,
      (s.validationPeriods validationID).status = .active ∧
      churnTracker.totalWeight + (s.validationPeriods validationID).weight =
        s.churnTracker.totalWeight + newWeight ∧
      nonce = (s.validationPeriods validationID).sentNonce + 1 ∧
      s' = { s with
        churnTracker := churnTracker
        validationPeriods := update s.validationPeriods validationID
          { s.validationPeriods validationID with sentNonce := nonce, weight := newWeight } } ∧
      l = [.sendWarpMessage (.l1ValidatorWeight validationID nonce newWeight),
        .initiatedValidatorWeightUpdate validationID nonce newWeight] := by
  simp only [initiateValidatorWeightUpdate, bind_eq_ok, require_eq_ok] at h
  obtain ⟨_, -, _, hst, h1⟩ := h
  obtain ⟨ct, hct, hn, hs, hl⟩ := initiateWeightUpdate_eq_ok h1
  exact ⟨ct, hst, hct, hn, hs, hl⟩

omit [Zero ID] in
theorem completeValidatorWeightUpdate_eq_ok {sender : Address}
    {message : Option (WarpMessage ID)} {r : ID × ℕ}
    (h : completeValidatorWeightUpdate ctx s sender message = .ok (r, s', l)) :
    r.2 ≤ (s.validationPeriods r.1).sentNonce ∧
      s' = { s with
        validationPeriods := update s.validationPeriods r.1
          { s.validationPeriods r.1 with receivedNonce := r.2 } } := by
  simp only [completeValidatorWeightUpdate, bind_eq_ok, require_eq_ok, 
    pure_eq_ok, Prod.mk.injEq] at h
  obtain ⟨_, -, w, -, ⟨id, nonce, weight⟩, -, _, hn, rfl, rfl, -⟩ := h
  dsimp only at hn ⊢
  exact ⟨by omega, rfl⟩

omit [DecidableEq ID] [Zero ID] in
theorem resendRegisterValidatorMessage_eq_ok {validationID : ID}
    (h : resendRegisterValidatorMessage s validationID = .ok (s', l)) : s' = s := by
  simp only [resendRegisterValidatorMessage, bind_eq_ok, require_eq_ok, pure_eq_ok,
    Prod.mk.injEq] at h
  obtain ⟨_, -, _, -, rfl, -⟩ := h
  rfl

omit [DecidableEq ID] [Zero ID] in
theorem resendValidatorRemovalMessage_eq_ok {validationID : ID}
    (h : resendValidatorRemovalMessage s validationID = .ok (s', l)) : s' = s := by
  simp only [resendValidatorRemovalMessage, bind_eq_ok, require_eq_ok, pure_eq_ok,
    Prod.mk.injEq] at h
  obtain ⟨_, -, rfl, -⟩ := h
  rfl

theorem initializeValidatorSet_eq_ok {timestamp : ℕ} {conversionData : ConversionData}
    {message : Option (WarpMessage ID)}
    (h : initializeValidatorSet ctx s timestamp conversionData message = .ok (s', l)) :
    s.initializedValidatorSet = false ∧ s'.initializedValidatorSet = true := by
  simp only [initializeValidatorSet, bind_eq_ok, require_eq_ok, checkedMul_eq_ok, pure_eq_ok,
    Prod.mk.injEq] at h
  obtain ⟨_, hinit, _, -, _, -, _, -, _, -, _, -, ⟨s₁, t, l₁⟩, -, _, -, _, -, rfl, -⟩ := h
  exact ⟨hinit, rfl⟩

end

/-! ## What a call can do -/

/-- `PendingAdded`, `Active` or `PendingRemoved`: a validation period that has not ended. -/
def ValidatorStatus.isLive : ValidatorStatus → Bool
  | .pendingAdded | .active | .pendingRemoved => true
  | _ => false

/-- What the invariants read of a validation period: its status, node ID and weight. -/
def Validator.view (v : Validator) : ValidatorStatus × Bytes × ℕ := (v.status, v.nodeID, v.weight)

/-- `s'` writes the validation period `id` with view `v`, and no other period. -/
structure Writes (s s' : State ID) (id : ID) (v : ValidatorStatus × Bytes × ℕ) : Prop where
  others : ∀ id', id' ≠ id → (s'.validationPeriods id').view = (s.validationPeriods id').view
  self : (s'.validationPeriods id).view = v
  initialized : s'.initializedValidatorSet = s.initializedValidatorSet

omit [Zero ID] in
theorem writes_update {s s' : State ID} {id : ID} {v : Validator}
    {w : ValidatorStatus × Bytes × ℕ} (hv : s'.validationPeriods = update s.validationPeriods id v)
    (hw : v.view = w) (hi : s'.initializedValidatorSet = s.initializedValidatorSet) :
    Writes s s' id w where
  others id' h := by rw [hv, update_of_ne h]
  self := by rw [hv, update_self, hw]
  initialized := hi

/-- What a call other than `initializeValidatorSet` does to the validation periods, the node ID
index and the total weight: nothing, or one transition of one period. -/
inductive ManagerStep (s s' : State ID) : Prop
  | frame (hv : ∀ id, (s'.validationPeriods id).view = (s.validationPeriods id).view)
      (hr : s'.registeredValidators = s.registeredValidators)
      (ht : s'.churnTracker.totalWeight = s.churnTracker.totalWeight)
      (hi : s'.initializedValidatorSet = s.initializedValidatorSet)
  /-- `initiateValidatorRegistration`: a new period, indexed under its node ID. -/
  | register (id : ID) (nodeID : Bytes) (weight : ℕ) (hid : id ≠ 0)
      (hinit : s.initializedValidatorSet = true)
      (hst : (s.validationPeriods id).status = .unknown) (hn : s.registeredValidators nodeID = 0)
      (hw : Writes s s' id (.pendingAdded, nodeID, weight))
      (hr : s'.registeredValidators = update s.registeredValidators nodeID id)
      (ht : s'.churnTracker.totalWeight = s.churnTracker.totalWeight + weight)
  /-- `completeValidatorRegistration`. -/
  | activate (id : ID) (hst : (s.validationPeriods id).status = .pendingAdded)
      (hw : Writes s s' id
        (.active, (s.validationPeriods id).nodeID, (s.validationPeriods id).weight))
      (hr : s'.registeredValidators = s.registeredValidators)
      (ht : s'.churnTracker.totalWeight = s.churnTracker.totalWeight)
  /-- `initiateValidatorWeightUpdate`. -/
  | reweigh (id : ID) (weight : ℕ) (hst : (s.validationPeriods id).status = .active)
      (hw : Writes s s' id (.active, (s.validationPeriods id).nodeID, weight))
      (hr : s'.registeredValidators = s.registeredValidators)
      (ht : s'.churnTracker.totalWeight + (s.validationPeriods id).weight =
        s.churnTracker.totalWeight + weight)
  /-- `initiateValidatorRemoval`: the weight goes to zero at once. -/
  | beginRemoval (id : ID) (hst : (s.validationPeriods id).status = .active)
      (hw : Writes s s' id (.pendingRemoved, (s.validationPeriods id).nodeID, 0))
      (hr : s'.registeredValidators = s.registeredValidators)
      (ht : s'.churnTracker.totalWeight + (s.validationPeriods id).weight =
        s.churnTracker.totalWeight)
  /-- `completeValidatorRemoval` of a period whose removal was initiated. -/
  | complete (id : ID) (hst : (s.validationPeriods id).status = .pendingRemoved)
      (hw : Writes s s' id
        (.completed, (s.validationPeriods id).nodeID, (s.validationPeriods id).weight))
      (hr : s'.registeredValidators =
        update s.registeredValidators (s.validationPeriods id).nodeID 0)
      (ht : s'.churnTracker.totalWeight = s.churnTracker.totalWeight)
  /-- `completeValidatorRemoval` of a registration the P-Chain never made. -/
  | invalidate (id : ID) (hst : (s.validationPeriods id).status = .pendingAdded)
      (hw : Writes s s' id
        (.invalidated, (s.validationPeriods id).nodeID, (s.validationPeriods id).weight))
      (hr : s'.registeredValidators =
        update s.registeredValidators (s.validationPeriods id).nodeID 0)
      (ht : s'.churnTracker.totalWeight + (s.validationPeriods id).weight =
        s.churnTracker.totalWeight)

section
variable {ctx : Context ID} {s s' : State ID} {l : List (Log ID)}

omit [DecidableEq ID] in
theorem ManagerStep.of_eq (h : s' = s) : ManagerStep s s' := by
  subst h
  exact .frame (fun _ => rfl) rfl rfl rfl

theorem initiateValidatorRegistration_managerStep (hnz : ∀ b, ctx.sha256 b ≠ 0)
    {sender : Address} {timestamp : ℕ} {nodeID blsPublicKey : Bytes}
    {rbo disableOwner : PChainOwner} {weight : ℕ} {validationID : ID}
    (h : initiateValidatorRegistration ctx s sender timestamp nodeID blsPublicKey rbo
      disableOwner weight = .ok (validationID, s', l)) :
    ManagerStep s s' := by
  obtain ⟨ct, message, hinit, -, hreg, hid, hst, ht, rfl⟩ := initiateValidatorRegistration_eq_ok h
  exact .register validationID nodeID weight (hid ▸ hnz message) hinit hst hreg
    (writes_update rfl rfl rfl) rfl ht

theorem completeValidatorRegistration_managerStep {sender : Address} {timestamp : ℕ}
    {message : Option (WarpMessage ID)} {validationID : ID}
    (h : completeValidatorRegistration ctx s sender timestamp message = .ok (validationID, s', l)) :
    ManagerStep s s' := by
  obtain ⟨hst, rfl⟩ := completeValidatorRegistration_eq_ok h
  exact .activate validationID hst (writes_update rfl rfl rfl) rfl rfl

theorem initiateValidatorRemoval_managerStep {sender : Address} {timestamp : ℕ}
    {validationID : ID} (h : initiateValidatorRemoval ctx s sender timestamp validationID = .ok (s', l)) :
    ManagerStep s s' := by
  obtain ⟨ct, hst, ht, rfl⟩ := initiateValidatorRemoval_eq_ok h
  exact .beginRemoval validationID hst (writes_update rfl rfl rfl) rfl ht

theorem completeValidatorRemoval_managerStep {sender : Address}
    {message : Option (WarpMessage ID)} {validationID : ID}
    (h : completeValidatorRemoval ctx s sender message = .ok (validationID, s', l)) :
    ManagerStep s s' := by
  rcases completeValidatorRemoval_eq_ok h with ⟨hst, rfl⟩ | ⟨hst, hle, rfl⟩
  · exact .complete validationID hst (writes_update rfl rfl rfl) rfl rfl
  · refine .invalidate validationID hst (writes_update rfl rfl rfl) rfl ?_
    dsimp only
    omega

theorem initiateValidatorWeightUpdate_managerStep {sender : Address} {timestamp : ℕ}
    {validationID : ID} {newWeight nonce : ℕ}
    (h : initiateValidatorWeightUpdate ctx s sender timestamp validationID newWeight =
      .ok (nonce, s', l)) : ManagerStep s s' := by
  obtain ⟨ct, hst, ht, -, rfl, -⟩ := initiateValidatorWeightUpdate_eq_ok h
  exact .reweigh validationID newWeight hst
    (writes_update rfl (by simp [Validator.view, hst]) rfl) rfl ht

theorem completeValidatorWeightUpdate_managerStep {sender : Address}
    {message : Option (WarpMessage ID)} {r : ID × ℕ}
    (h : completeValidatorWeightUpdate ctx s sender message = .ok (r, s', l)) : ManagerStep s s' := by
  obtain ⟨-, rfl⟩ := completeValidatorWeightUpdate_eq_ok h
  refine .frame (fun id => ?_) rfl rfl rfl
  by_cases he : id = r.1
  · subst he
    simp [Validator.view]
  · simp [update_of_ne he]

/-- Every call but `initializeValidatorSet` is a `ManagerStep`. -/
theorem step_managerStep (hnz : ∀ b, ctx.sha256 b ≠ 0) {c : Call ID}
    (hc : ∀ timestamp conversionData message, c ≠ .initializeValidatorSet timestamp conversionData message)
    (h : step ctx s c = .ok (s', l)) : ManagerStep s s' := by
  cases c with
  | initializeValidatorSet timestamp conversionData message =>
    exact absurd rfl (hc timestamp conversionData message)
  | initiateValidatorRegistration =>
    obtain ⟨⟨_, _, _⟩, h1, h2⟩ := map_eq_ok.1 h
    cases h2
    exact initiateValidatorRegistration_managerStep hnz h1
  | resendRegisterValidatorMessage => exact .of_eq (resendRegisterValidatorMessage_eq_ok h)
  | completeValidatorRegistration =>
    obtain ⟨⟨_, _, _⟩, h1, h2⟩ := map_eq_ok.1 h
    cases h2
    exact completeValidatorRegistration_managerStep h1
  | initiateValidatorRemoval => exact initiateValidatorRemoval_managerStep h
  | resendValidatorRemovalMessage => exact .of_eq (resendValidatorRemovalMessage_eq_ok h)
  | completeValidatorRemoval =>
    obtain ⟨⟨_, _, _⟩, h1, h2⟩ := map_eq_ok.1 h
    cases h2
    exact completeValidatorRemoval_managerStep h1
  | initiateValidatorWeightUpdate =>
    obtain ⟨⟨_, _, _⟩, h1, h2⟩ := map_eq_ok.1 h
    cases h2
    exact initiateValidatorWeightUpdate_managerStep h1
  | completeValidatorWeightUpdate =>
    obtain ⟨⟨_, _, _⟩, h1, h2⟩ := map_eq_ok.1 h
    cases h2
    exact completeValidatorWeightUpdate_managerStep h1

end

end ValidatorManager
