import IcmServices.StakingManager.Transition
import IcmServices.ValidatorManager.Invariants
import IcmServices.Lib.Finsum
import Mathlib.Data.Nat.Pairing

/-!
# A PoS validator's weight is its stake and its delegations'

While a PoS validator is pending or active, its weight in the validator manager is its starting
weight plus the weights of its delegations that are pending or active (`delegatedWeight`), and at
most its starting weight times the maximum stake multiplier (`Carries`). `DelegationInv` adds
what keeps this true from one call to the next:

* every stored delegation sits under the hash of its validation ID and a nonce the validator
  manager has already sent for that validation (`Issued`), so a new delegation, hashed with the
  next nonce, never lands on a stored one when the hash is injective;
* before the initial validator set is installed no validation period exists.

`StakeStep.delegationInv` shows each of the nine transitions keeps it, and
`pos_weight_is_stake_and_delegations` gives it along every run of the system.
-/

namespace StakingManager

open Solidity Function Contract

variable {ID : Type}

/-- `PendingAdded` or `Active`: the delegations whose weight their validator carries. -/
def DelegatorStatus.counts : DelegatorStatus → Bool
  | .pendingAdded | .active => true
  | _ => false

/-- `keccak256(abi.encodePacked(validationID, nonce))` tells its arguments apart. -/
def KeccakInjective (ctx : Context ID) : Prop :=
  ∀ v n v' n', ctx.keccak256 v n = ctx.keccak256 v' n' → v = v' ∧ n = n'

section
variable [DecidableEq ID]

/-- What a delegation with view `x` adds to the weight of the validation `v`. -/
def DelegationView.weightFor (v : ID) (x : DelegationView ID) : ℕ :=
  if x.status.counts ∧ x.validationID = v then x.weight else 0

/-- The delegations the staking manager stores. -/
def storedDelegations [Zero ID] (s : State ID) : Set ID :=
  {d | (s.delegatorStakes d).status ≠ .unknown}

/-- The weight the stored delegations add to the validation `v`. -/
noncomputable def delegatedWeight (s : State ID) (v : ID) : ℕ :=
  ∑ᶠ d, (s.delegatorStakes d).view.weightFor v

/-- The views of all validation periods. -/
def periodViews (m : ValidatorManager.State ID) (v : ID) : PeriodView :=
  periodView (m.validationPeriods v)

end

/-- The delegation `d` with view `x` hangs off a known validation, under the hash of its
validation ID and a starting nonce the validator manager has already sent. -/
structure Issued (ctx : Context ID) (periods : ID → PeriodView) (d : ID) (x : DelegationView ID) :
    Prop where
  key : d = ctx.keccak256 x.validationID x.startingNonce
  nonce : x.startingNonce ≤ (periods x.validationID).sentNonce
  known : (periods x.validationID).status ≠ .unknown

/-- A PoS validation with view `p`, to which its delegations add `delegated`: it is known, and
while pending or active its weight is its starting weight plus `delegated`, within `multiplier`
times the starting weight. -/
structure Carries (p : PeriodView) (delegated multiplier : ℕ) : Prop where
  known : p.status ≠ .unknown
  weight : p.status = .pendingAdded ∨ p.status = .active → p.weight = p.startingWeight + delegated
  bound : p.status = .pendingAdded ∨ p.status = .active →
    p.weight ≤ p.startingWeight * multiplier

variable [DecidableEq ID] [Zero ID]

/-- The staking manager's invariant (see the module doc). -/
structure DelegationInv (ctx : Context ID) (s : System ID) : Prop where
  multiplier : 0 < s.staking.maximumStakeMultiplier
  fresh : s.manager.initializedValidatorSet = false →
    ∀ v, (s.manager.validationPeriods v).status = .unknown
  finite : (storedDelegations s.staking).Finite
  issued : ∀ d ∈ storedDelegations s.staking,
    Issued ctx (periodViews s.manager) d (s.staking.delegatorStakes d).view
  carries : ∀ v, isPoSValidator s.staking v = true →
    Carries (periodViews s.manager v) (delegatedWeight s.staking v)
      s.staking.maximumStakeMultiplier

/-! ## The delegated weight -/

section
variable {s s' : State ID} {d v : ID}

omit [Zero ID] in
theorem weightFor_of_not_counts {x : DelegationView ID} (h : x.status.counts = false) :
    x.weightFor v = 0 := by
  simp [DelegationView.weightFor, h]

omit [Zero ID] in
theorem weightFor_of_ne {x : DelegationView ID} (h : x.validationID ≠ v) : x.weightFor v = 0 := by
  simp [DelegationView.weightFor, h]

theorem support_weightFor_subset (s : State ID) (v : ID) :
    support (fun d => (s.delegatorStakes d).view.weightFor v) ⊆ storedDelegations s := by
  intro d hd hu
  exact hd (weightFor_of_not_counts (by simp [Delegator.view, hu, DelegatorStatus.counts]))

theorem delegatedWeight_eq_zero
    (h : ∀ d ∈ storedDelegations s, (s.delegatorStakes d).validationID ≠ v) :
    delegatedWeight s v = 0 := by
  apply finsum_eq_zero_of_forall_eq_zero
  intro d
  by_cases hd : d ∈ storedDelegations s
  · exact weightFor_of_ne (h d hd)
  · exact Function.notMem_support.1 fun hs => hd (support_weightFor_subset s v hs)

omit [Zero ID] in
theorem finsum_mem_eq_delegatedWeight (s : State ID) (v : ID) :
    ∑ᶠ d ∈ {d | (s.delegatorStakes d).validationID = v ∧
        ((s.delegatorStakes d).status = .pendingAdded ∨ (s.delegatorStakes d).status = .active)},
      (s.delegatorStakes d).weight = delegatedWeight s v := by
  rw [finsum_mem_def]
  congr 1
  funext d
  have hpq : ((s.delegatorStakes d).validationID = v ∧ ((s.delegatorStakes d).status =
      .pendingAdded ∨ (s.delegatorStakes d).status = .active)) ↔
      ((s.delegatorStakes d).status.counts = true ∧ (s.delegatorStakes d).validationID = v) := by
    cases (s.delegatorStakes d).status <;> simp [DelegatorStatus.counts, and_comm]
  simp only [Set.indicator_apply, Set.mem_ofPred_eq, Delegator.view, DelegationView.weightFor, hpq]
  congr

end

section
variable {s s' : State ID} {d : ID} {x : DelegationView ID}

theorem DelegationWrites.stored_subset (hw : DelegationWrites s s' d x) :
    storedDelegations s' ⊆ insert d (storedDelegations s) := by
  intro d' hd'
  by_cases he : d' = d
  · exact .inl he
  · have hv := congrArg DelegationView.status (hw.others d' he)
    exact .inr fun hu => hd' (hv.trans hu)

theorem DelegationWrites.finite (hw : DelegationWrites s s' d x)
    (hf : (storedDelegations s).Finite) : (storedDelegations s').Finite :=
  (hf.insert d).subset hw.stored_subset

omit [DecidableEq ID] in
theorem DelegationWrites.mem_stored (hw : DelegationWrites s s' d x) {d' : ID} (he : d' ≠ d)
    (h : d' ∈ storedDelegations s') : d' ∈ storedDelegations s :=
  fun hu => h ((congrArg DelegationView.status (hw.others d' he)).trans hu)

/-- Writing one delegation replaces its part of every validator's delegated weight. -/
theorem DelegationWrites.delegatedWeight_add (hw : DelegationWrites s s' d x)
    (hf : (storedDelegations s).Finite) (v : ID) :
    delegatedWeight s' v + (s.delegatorStakes d).view.weightFor v =
      delegatedWeight s v + x.weightFor v := by
  have hfun : (fun d' => (s'.delegatorStakes d').view.weightFor v) =
      update (fun d' => (s.delegatorStakes d').view.weightFor v) d (x.weightFor v) := by
    funext d'
    by_cases he : d' = d
    · subst he
      rw [update_self, hw.self]
    · rw [update_of_ne he, hw.others d' he]
  rw [StakingManager.delegatedWeight, StakingManager.delegatedWeight, hfun]
  exact Mapping.finsum_update_add (hf.subset (support_weightFor_subset s v)) d _

omit [DecidableEq ID] [Zero ID] in
theorem DelegationWrites.isPoSValidator_eq (hw : DelegationWrites s s' d x) (v : ID) :
    isPoSValidator s' v = isPoSValidator s v := by
  simp only [StakingManager.isPoSValidator, hw.owner v]

end

omit [DecidableEq ID] [Zero ID] in
theorem StakingFrame.isPoSValidator_eq {s s' : State ID} (hs : StakingFrame s s') (v : ID) :
    isPoSValidator s' v = isPoSValidator s v := by
  simp only [StakingManager.isPoSValidator, hs.owner v]

omit [Zero ID] in
theorem StakingFrame.delegatedWeight_eq {s s' : State ID} (hs : StakingFrame s s') :
    delegatedWeight s' = delegatedWeight s := by
  funext v
  simp only [StakingManager.delegatedWeight, hs.delegatorStakes]

omit [DecidableEq ID] in
theorem StakingFrame.storedDelegations_eq {s s' : State ID} (hs : StakingFrame s s') :
    storedDelegations s' = storedDelegations s := by
  simp only [StakingManager.storedDelegations, hs.delegatorStakes]

/-! ## The views of the periods -/

section
variable {m m' : ValidatorManager.State ID} {v : ID} {x : PeriodView}

omit [DecidableEq ID] [Zero ID] in
theorem PeriodsKept.periodViews (h : PeriodsKept m m') : periodViews m' = periodViews m :=
  funext h.views

omit [DecidableEq ID] [Zero ID] in
theorem PeriodsKept.status (h : PeriodsKept m m') (v : ID) :
    (m'.validationPeriods v).status = (m.validationPeriods v).status :=
  congrArg PeriodView.status (h.views v)

omit [Zero ID] in
theorem PeriodWrites.periodViews (h : PeriodWrites m m' v x) :
    periodViews m' = update (periodViews m) v x := by
  funext v'
  by_cases he : v' = v
  · subst he
    rw [update_self]
    exact h.self
  · rw [update_of_ne he]
    exact h.others v' he

omit [DecidableEq ID] [Zero ID] in
theorem Issued.status {ctx : Context ID} {P : ID → PeriodView} {d : ID} {δ : DelegationView ID}
    (h : Issued ctx P d δ) (st : DelegatorStatus) : Issued ctx P d { δ with status := st } :=
  ⟨h.key, h.nonce, h.known⟩

omit [Zero ID] in
/-- A stored delegation stays issued when one period's view is written, provided a known period
keeps its nonce from going down and stays known. -/
theorem Issued.write {ctx : Context ID} {P : ID → PeriodView} {d : ID} {δ : DelegationView ID}
    (h : Issued ctx P d δ)
    (hx : (P v).status ≠ .unknown → (P v).sentNonce ≤ x.sentNonce ∧ x.status ≠ .unknown) :
    Issued ctx (update P v x) d δ := by
  by_cases he : δ.validationID = v
  · obtain ⟨hn, hk⟩ := hx (he ▸ h.known)
    refine ⟨h.key, ?_, ?_⟩
    · rw [he, update_self]
      exact (he ▸ h.nonce).trans hn
    · rw [he, update_self]
      exact hk
  · exact ⟨h.key, by rw [update_of_ne he]; exact h.nonce, by rw [update_of_ne he]; exact h.known⟩

end

/-! ## Each transition keeps the invariant -/

section
variable {ctx : Context ID} {s s' : System ID}

theorem DelegationInv.known (hi : DelegationInv ctx s) {d : ID}
    (hd : d ∈ storedDelegations s.staking) :
    (s.manager.validationPeriods (s.staking.delegatorStakes d).validationID).status ≠ .unknown :=
  (hi.issued d hd).known

theorem DelegationInv.initialized (hi : DelegationInv ctx s) {v : ID}
    (h : (s.manager.validationPeriods v).status ≠ .unknown) :
    s.manager.initializedValidatorSet = true := by
  by_contra hf
  exact h (hi.fresh (by simpa using hf) v)

/-- A step that keeps whether the set is installed and touches a known period. -/
theorem DelegationInv.fresh_of_known (hi : DelegationInv ctx s) {v : ID}
    (h : (s.manager.validationPeriods v).status ≠ .unknown)
    (he : s'.manager.initializedValidatorSet = s.manager.initializedValidatorSet) :
    s'.manager.initializedValidatorSet = false →
      ∀ v, (s'.manager.validationPeriods v).status = .unknown := by
  intro hf
  rw [he, hi.initialized h] at hf
  cases hf

/-- The validators whose view and delegated weight a step keeps still carry them. -/
theorem DelegationInv.carries_of_eq (hi : DelegationInv ctx s) {v : ID}
    (hpos : isPoSValidator s'.staking v = isPoSValidator s.staking v)
    (hp : periodViews s'.manager v = periodViews s.manager v)
    (hd : delegatedWeight s'.staking v = delegatedWeight s.staking v)
    (hx : s'.staking.maximumStakeMultiplier = s.staking.maximumStakeMultiplier) :
    isPoSValidator s'.staking v = true →
      Carries (periodViews s'.manager v) (delegatedWeight s'.staking v)
        s'.staking.maximumStakeMultiplier := by
  intro h
  rw [hp, hd, hx]
  exact hi.carries v (hpos ▸ h)

theorem DelegationInv.frame (hi : DelegationInv ctx s) (hm : PeriodsKept s.manager s'.manager)
    (hs : StakingFrame s.staking s'.staking) : DelegationInv ctx s' where
  multiplier := hs.maximumStakeMultiplier ▸ hi.multiplier
  fresh hf v := by
    rw [hm.status v]
    exact hi.fresh (hm.initialized ▸ hf) v
  finite := hs.storedDelegations_eq ▸ hi.finite
  issued d hd := by
    rw [hm.periodViews, hs.delegatorStakes]
    exact hi.issued d (hs.storedDelegations_eq ▸ hd)
  carries v := hi.carries_of_eq (hs.isPoSValidator_eq v) (congrFun hm.periodViews v)
    (congrFun hs.delegatedWeight_eq v) hs.maximumStakeMultiplier

/-- Before the set is installed nothing is stored and nobody is PoS, so nothing is after. -/
theorem DelegationInv.installInitialSet (hi : DelegationInv ctx s)
    (hinit : s.manager.initializedValidatorSet = false)
    (hinit' : s'.manager.initializedValidatorSet = true) (hs : s'.staking = s.staking) :
    DelegationInv ctx s' where
  multiplier := hs ▸ hi.multiplier
  fresh hf := by
    rw [hinit'] at hf
    cases hf
  finite := hs ▸ hi.finite
  issued d hd := by
    rw [hs] at hd
    exact absurd (hi.fresh hinit _) (hi.issued d hd).known
  carries v hv := by
    rw [hs] at hv
    exact absurd (hi.fresh hinit v) (hi.carries v hv).known

theorem DelegationInv.register (hi : DelegationInv ctx s) {v : ID} {weight : ℕ}
    (hinit : s.manager.initializedValidatorSet = true)
    (hst : (s.manager.validationPeriods v).status = .unknown)
    (hm : PeriodWrites s.manager s'.manager v ⟨.pendingAdded, weight, weight, 0⟩)
    (hd : s'.staking.delegatorStakes = s.staking.delegatorStakes)
    (ho : ∀ v', v' ≠ v →
      (s'.staking.posValidatorInfo v').owner = (s.staking.posValidatorInfo v').owner)
    (hx : s'.staking.maximumStakeMultiplier = s.staking.maximumStakeMultiplier) :
    DelegationInv ctx s' := by
  have hS : storedDelegations s'.staking = storedDelegations s.staking := by
    rw [storedDelegations, storedDelegations, hd]
  have hW : delegatedWeight s'.staking = delegatedWeight s.staking := by
    funext v'
    simp only [StakingManager.delegatedWeight, hd]
  refine ⟨hx ▸ hi.multiplier, fun hf => ?_, hS ▸ hi.finite, fun d hd' => ?_, fun v' => ?_⟩
  · rw [hm.initialized, hinit] at hf
    cases hf
  · -- the new period was unknown, so no stored delegation hangs off it
    rw [hm.periodViews, hd]
    exact (hi.issued d (hS ▸ hd')).write fun hk => absurd hst hk
  · by_cases he : v' = v
    · subst he
      -- its delegated weight is nothing yet: every stored delegation hangs off a known period
      have h0 : delegatedWeight s.staking v' = 0 := by
        refine delegatedWeight_eq_zero fun d hd' he' => ?_
        have hk := hi.known hd'
        rw [he'] at hk
        exact hk hst
      intro _
      rw [hm.periodViews, update_self, hW, h0, hx]
      refine ⟨nofun, fun _ => rfl, fun _ => ?_⟩
      exact Nat.le_mul_of_pos_right weight hi.multiplier
    · have hpos : isPoSValidator s'.staking v' = isPoSValidator s.staking v' := by
        simp only [StakingManager.isPoSValidator, ho v' he]
      exact hi.carries_of_eq hpos (by rw [hm.periodViews, update_of_ne he]) (congrFun hW v') hx

theorem DelegationInv.activate (hi : DelegationInv ctx s) {v : ID}
    (hst : (s.manager.validationPeriods v).status = .pendingAdded)
    (hm : PeriodWrites s.manager s'.manager v
      { periodView (s.manager.validationPeriods v) with status := .active })
    (hs : StakingFrame s.staking s'.staking) : DelegationInv ctx s' := by
  have hk : (s.manager.validationPeriods v).status ≠ .unknown := by simp [hst]
  refine ⟨hs.maximumStakeMultiplier ▸ hi.multiplier, hi.fresh_of_known hk hm.initialized,
    hs.storedDelegations_eq ▸ hi.finite, fun d hd => ?_, fun v' => ?_⟩
  · rw [hm.periodViews, hs.delegatorStakes]
    exact (hi.issued d (hs.storedDelegations_eq ▸ hd)).write fun _ => ⟨le_rfl, nofun⟩
  · by_cases he : v' = v
    · -- weight, starting weight and delegations stay; `PendingAdded` becomes `Active`
      subst he
      intro hpos
      have hc := hi.carries v' (hs.isPoSValidator_eq v' ▸ hpos)
      have hpa : (periodViews s.manager v').status = .pendingAdded := hst
      rw [hm.periodViews, update_self, congrFun hs.delegatedWeight_eq v', hs.maximumStakeMultiplier]
      exact ⟨nofun, fun _ => hc.weight (.inl hpa), fun _ => hc.bound (.inl hpa)⟩
    · exact hi.carries_of_eq (hs.isPoSValidator_eq v') (by rw [hm.periodViews, update_of_ne he])
        (congrFun hs.delegatedWeight_eq v') hs.maximumStakeMultiplier

theorem DelegationInv.retire (hi : DelegationInv ctx s) {v : ID} {x : PeriodView}
    (hst : (s.manager.validationPeriods v).status ≠ .unknown)
    (hx : x.status = .pendingRemoved ∨ x.status = .completed ∨ x.status = .invalidated)
    (hn : (s.manager.validationPeriods v).sentNonce ≤ x.sentNonce)
    (hm : PeriodWrites s.manager s'.manager v x) (hs : StakingFrame s.staking s'.staking) :
    DelegationInv ctx s' := by
  have hxk : x.status ≠ .unknown := by rcases hx with h | h | h <;> simp [h]
  have hxl : ¬ (x.status = .pendingAdded ∨ x.status = .active) := by
    rcases hx with h | h | h <;> simp [h]
  refine ⟨hs.maximumStakeMultiplier ▸ hi.multiplier, hi.fresh_of_known hst hm.initialized,
    hs.storedDelegations_eq ▸ hi.finite, fun d hd => ?_, fun v' => ?_⟩
  · rw [hm.periodViews, hs.delegatorStakes]
    exact (hi.issued d (hs.storedDelegations_eq ▸ hd)).write fun _ => ⟨hn, hxk⟩
  · by_cases he : v' = v
    · -- the period has left `PendingAdded` and `Active`: only `known` is left to show
      subst he
      intro _
      rw [hm.periodViews, update_self]
      exact ⟨hxk, fun h => absurd h hxl, fun h => absurd h hxl⟩
    · exact hi.carries_of_eq (hs.isPoSValidator_eq v') (by rw [hm.periodViews, update_of_ne he])
        (congrFun hs.delegatedWeight_eq v') hs.maximumStakeMultiplier

/-- A delegation hashed with the next nonce of a validation is not stored yet. -/
theorem DelegationInv.not_stored_next (hi : DelegationInv ctx s) (hk : KeccakInjective ctx)
    (v : ID) :
    ctx.keccak256 v ((s.manager.validationPeriods v).sentNonce + 1) ∉
      storedDelegations s.staking := by
  intro hd
  have hI := hi.issued _ hd
  obtain ⟨hv, hn⟩ := hk _ _ _ _ hI.key
  have hle := hI.nonce
  rw [← hv, ← hn] at hle
  exact Nat.not_succ_le_self _ hle

theorem DelegationInv.delegate (hi : DelegationInv ctx s) (hk : KeccakInjective ctx)
    {v d : ID} {weight : ℕ} (hst : (s.manager.validationPeriods v).status = .active)
    (hle : (s.manager.validationPeriods v).weight + weight ≤
      (s.manager.validationPeriods v).startingWeight * s.staking.maximumStakeMultiplier)
    (hd : d = ctx.keccak256 v ((s.manager.validationPeriods v).sentNonce + 1))
    (hm : PeriodWrites s.manager s'.manager v
      { periodView (s.manager.validationPeriods v) with
        weight := (s.manager.validationPeriods v).weight + weight
        sentNonce := (s.manager.validationPeriods v).sentNonce + 1 })
    (hs : DelegationWrites s.staking s'.staking d
      ⟨.pendingAdded, v, weight, (s.manager.validationPeriods v).sentNonce + 1⟩) :
    DelegationInv ctx s' := by
  have hkn : (s.manager.validationPeriods v).status ≠ .unknown := by simp [hst]
  have hnew : d ∉ storedDelegations s.staking := hd ▸ hi.not_stored_next hk v
  -- the new delegation replaces nothing
  have hold : ∀ u, (s.staking.delegatorStakes d).view.weightFor u = 0 := fun u =>
    weightFor_of_not_counts (by
      simp [storedDelegations] at hnew
      simp [Delegator.view, hnew, DelegatorStatus.counts])
  have hW := hs.delegatedWeight_add hi.finite
  refine ⟨hs.maximumStakeMultiplier ▸ hi.multiplier, hi.fresh_of_known hkn hm.initialized,
    hs.finite hi.finite, fun d' hd' => ?_, fun v' => ?_⟩
  · rw [hm.periodViews]
    by_cases he : d' = d
    · subst he
      rw [hs.self]
      refine ⟨hd, ?_, ?_⟩ <;> simp [hst, periodView]
    · rw [hs.others d' he]
      exact (hi.issued d' (hs.mem_stored he hd')).write fun _ =>
        ⟨Nat.le_succ _, by simp [hst, periodView]⟩
  · by_cases he : v' = v
    · subst he
      -- the validator's weight and its delegated weight both grow by `weight`
      intro hpos
      have hc := hi.carries v' (hs.isPoSValidator_eq v' ▸ hpos)
      have hact : (periodViews s.manager v').status = .active := hst
      have h1 := hc.weight (.inr hact)
      have h2 := hW v'
      rw [hold, Nat.add_zero] at h2
      have h3 : (⟨.pendingAdded, v', weight, (s.manager.validationPeriods v').sentNonce + 1⟩ :
          DelegationView ID).weightFor v' = weight := by
        simp [DelegationView.weightFor, DelegatorStatus.counts]
      rw [h3] at h2
      rw [hm.periodViews, update_self, h2, hs.maximumStakeMultiplier]
      refine ⟨by simp [hst, periodView], fun _ => ?_, fun _ => hle⟩
      simp only [periodViews, periodView] at h1
      simp only [periodView]
      omega
    · have h2 := hW v'
      rw [hold, weightFor_of_ne (Ne.symm he), Nat.add_zero, Nat.add_zero] at h2
      exact hi.carries_of_eq (hs.isPoSValidator_eq v') (by rw [hm.periodViews, update_of_ne he]) h2
        hs.maximumStakeMultiplier

theorem DelegationInv.activateDelegation (hi : DelegationInv ctx s) {d : ID}
    (hst : (s.staking.delegatorStakes d).status = .pendingAdded)
    (hm : PeriodsKept s.manager s'.manager)
    (hs : DelegationWrites s.staking s'.staking d
      { (s.staking.delegatorStakes d).view with status := .active }) :
    DelegationInv ctx s' := by
  have hd : d ∈ storedDelegations s.staking := by simp [storedDelegations, hst]
  -- `PendingAdded` and `Active` both count: no validator's delegated weight moves
  have hW : ∀ v, delegatedWeight s'.staking v = delegatedWeight s.staking v := by
    intro v
    have h := hs.delegatedWeight_add hi.finite v
    have he : ({ (s.staking.delegatorStakes d).view with status := .active } :
        DelegationView ID).weightFor v = (s.staking.delegatorStakes d).view.weightFor v := by
      simp [DelegationView.weightFor, Delegator.view, hst, DelegatorStatus.counts]
    omega
  refine ⟨hs.maximumStakeMultiplier ▸ hi.multiplier, fun hf v => ?_, hs.finite hi.finite,
    fun d' hd' => ?_, fun v => ?_⟩
  · rw [hm.status v]
    exact hi.fresh (hm.initialized ▸ hf) v
  · rw [hm.periodViews]
    by_cases he : d' = d
    · subst he
      rw [hs.self]
      exact (hi.issued d' hd).status _
    · rw [hs.others d' he]
      exact hi.issued d' (hs.mem_stored he hd')
  · exact hi.carries_of_eq (hs.isPoSValidator_eq v) (congrFun hm.periodViews v) (hW v)
      hs.maximumStakeMultiplier

theorem DelegationInv.beginDelegationRemoval (hi : DelegationInv ctx s) {d u : ID}
    (hst : (s.staking.delegatorStakes d).status = .active)
    (hu : (s.staking.delegatorStakes d).validationID = u)
    (hv : (s.manager.validationPeriods u).status = .active)
    (hle : (s.staking.delegatorStakes d).weight ≤ (s.manager.validationPeriods u).weight)
    (hm : PeriodWrites s.manager s'.manager u
      { periodView (s.manager.validationPeriods u) with
        weight := (s.manager.validationPeriods u).weight - (s.staking.delegatorStakes d).weight
        sentNonce := (s.manager.validationPeriods u).sentNonce + 1 })
    (hs : DelegationWrites s.staking s'.staking d
      { (s.staking.delegatorStakes d).view with status := .pendingRemoved }) :
    DelegationInv ctx s' := by
  have hkn : (s.manager.validationPeriods u).status ≠ .unknown := by simp [hv]
  have hd : d ∈ storedDelegations s.staking := by simp [storedDelegations, hst]
  have hW := hs.delegatedWeight_add hi.finite
  -- the delegation stops counting: `u` loses its weight, no other validation anything
  have hnew : ∀ v, ({ (s.staking.delegatorStakes d).view with status := .pendingRemoved } :
      DelegationView ID).weightFor v = 0 := fun _ =>
    weightFor_of_not_counts rfl
  have hold : (s.staking.delegatorStakes d).view.weightFor u =
      (s.staking.delegatorStakes d).weight := by
    simp [DelegationView.weightFor, Delegator.view, hst, DelegatorStatus.counts, hu]
  have hsent : ∀ d ∈ storedDelegations s.staking,
      Issued ctx (periodViews s'.manager) d (s.staking.delegatorStakes d).view := fun d hd =>
    hm.periodViews ▸ (hi.issued d hd).write fun _ => ⟨Nat.le_succ _, by simp [hv, periodView]⟩
  refine ⟨hs.maximumStakeMultiplier ▸ hi.multiplier, hi.fresh_of_known hkn hm.initialized,
    hs.finite hi.finite, fun d' hd' => ?_, fun v' => ?_⟩
  · by_cases he : d' = d
    · subst he
      rw [hs.self]
      exact (hsent d' hd).status _
    · rw [hs.others d' he]
      exact hsent d' (hs.mem_stored he hd')
  · by_cases he : v' = u
    · subst he
      intro hpos
      have hc := hi.carries v' (hs.isPoSValidator_eq v' ▸ hpos)
      have hact : (periodViews s.manager v').status = .active := hv
      have h1 : (s.manager.validationPeriods v').weight =
          (s.manager.validationPeriods v').startingWeight + delegatedWeight s.staking v' :=
        hc.weight (.inr hact)
      have h2 : (s.manager.validationPeriods v').weight ≤
          (s.manager.validationPeriods v').startingWeight * s.staking.maximumStakeMultiplier :=
        hc.bound (.inr hact)
      have h3 : delegatedWeight s'.staking v' + (s.staking.delegatorStakes d).weight =
          delegatedWeight s.staking v' := by
        have h := hW v'
        rwa [hold, hnew, Nat.add_zero] at h
      rw [hm.periodViews, update_self, hs.maximumStakeMultiplier]
      refine ⟨by simp [hv, periodView], fun _ => ?_, fun _ => ?_⟩
      · show (s.manager.validationPeriods v').weight - (s.staking.delegatorStakes d).weight =
          (s.manager.validationPeriods v').startingWeight + delegatedWeight s'.staking v'
        omega
      · show (s.manager.validationPeriods v').weight - (s.staking.delegatorStakes d).weight ≤
          (s.manager.validationPeriods v').startingWeight * s.staking.maximumStakeMultiplier
        omega
    · have h3 := hW v'
      rw [hnew, weightFor_of_ne fun h => he (h.symm.trans hu), Nat.add_zero, Nat.add_zero] at h3
      exact hi.carries_of_eq (hs.isPoSValidator_eq v') (by rw [hm.periodViews, update_of_ne he])
        h3 hs.maximumStakeMultiplier

theorem DelegationInv.endDelegation (hi : DelegationInv ctx s) {d : ID}
    (hst : (s.staking.delegatorStakes d).status = .pendingRemoved ∨
      (s.manager.validationPeriods (s.staking.delegatorStakes d).validationID).status =
        .completed)
    (hm : PeriodsKept s.manager s'.manager)
    (hs : DelegationWrites s.staking s'.staking d (default : Delegator ID).view) :
    DelegationInv ctx s' := by
  have hW := hs.delegatedWeight_add hi.finite
  have hnew : ∀ v, (default : Delegator ID).view.weightFor v = 0 := fun _ =>
    weightFor_of_not_counts rfl
  refine ⟨hs.maximumStakeMultiplier ▸ hi.multiplier, fun hf v => ?_, hs.finite hi.finite,
    fun d' hd' => ?_, fun v => ?_⟩
  · rw [hm.status v]
    exact hi.fresh (hm.initialized ▸ hf) v
  · rw [hm.periodViews]
    by_cases he : d' = d
    · -- the deleted delegation is no longer stored
      subst he
      exact absurd (congrArg DelegationView.status hs.self) hd'
    · rw [hs.others d' he]
      exact hi.issued d' (hs.mem_stored he hd')
  · -- only the delegation's validator can lose weight, and only if it has completed
    by_cases h0 : (s.staking.delegatorStakes d).view.weightFor v = 0
    · have h1 := hW v
      rw [h0, hnew, Nat.add_zero, Nat.add_zero] at h1
      exact hi.carries_of_eq (hs.isPoSValidator_eq v) (congrFun hm.periodViews v) h1
        hs.maximumStakeMultiplier
    · have hcounts : (s.staking.delegatorStakes d).status.counts = true ∧
          (s.staking.delegatorStakes d).validationID = v := by
        by_contra hn
        exact h0 (if_neg hn)
      have hcomp : (s.manager.validationPeriods v).status = .completed := by
        rcases hst with h | h
        · simp [h, DelegatorStatus.counts] at hcounts
        · rw [← hcounts.2]
          exact h
      intro hpos
      have hc := hi.carries v (hs.isPoSValidator_eq v ▸ hpos)
      have hst' : (periodViews s'.manager v).status = .completed := by
        rw [hm.periodViews]
        exact hcomp
      refine ⟨by simp [hst'], fun h => ?_, fun h => ?_⟩ <;> rcases h with h | h <;>
        simp [hst'] at h

/-- Every transition keeps the invariant. -/
theorem StakeStep.delegationInv (hk : KeccakInjective ctx) (h : StakeStep ctx s s')
    (hi : DelegationInv ctx s) : DelegationInv ctx s' := by
  cases h with
  | frame hm hs => exact hi.frame hm hs
  | installInitialSet hinit hinit' hs => exact hi.installInitialSet hinit hinit' hs
  | register v weight hinit hst hm hd ho hx => exact hi.register hinit hst hm hd ho hx
  | activate v hst hm hs => exact hi.activate hst hm hs
  | retire v x hst hx hn hm hs => exact hi.retire hst hx hn hm hs
  | delegate v d weight hst _ hle hd hm hs => exact hi.delegate hk hst hle hd hm hs
  | activateDelegation d hst hm hs => exact hi.activateDelegation hst hm hs
  | beginDelegationRemoval d hst hv hle hm hs =>
    exact hi.beginDelegationRemoval hst rfl hv hle hm hs
  | endDelegation d hst hm hs => exact hi.endDelegation hst hm hs

end

/-! ## Along every run -/

/-- The staking manager owns the validator manager, and the delegations carry the weights. -/
structure SystemInv (ctx : Context ID) (s : System ID) : Prop where
  owns : ctx.OwnsManager
  delegation : DelegationInv ctx s

section
variable {ctx : Context ID}

theorem step_systemInv (hk : KeccakInjective ctx) {s s' : System ID} {c : Call ID}
    {l : List (Log ID)} (hi : SystemInv ctx s) (h : step ctx s c = .ok (s', l)) :
    SystemInv ctx s' := by
  exact ⟨hi.owns, (step_systemStep hi.owns h).stake.delegationInv hk hi.delegation⟩

omit [DecidableEq ID] in
@[simp] theorem default_delegator_status : (default : Delegator ID).status = .unknown := rfl

@[simp] theorem default_posValidatorInfo_owner : (default : PoSValidatorInfo).owner = 0 := rfl

omit [DecidableEq ID] in
theorem stakingManagerInit_eq_ok {settings : StakingManagerSettings}
    {manager : ValidatorManager.State ID} {s : State ID}
    (h : stakingManagerInit settings manager = .ok s) :
    0 < s.maximumStakeMultiplier ∧ (∀ d, s.delegatorStakes d = default) ∧
      ∀ v, s.posValidatorInfo v = default := by
  simp only [stakingManagerInit, bind_eq_ok, require_eq_ok, pure_eq_ok] at h
  obtain ⟨_, -, _, -, _, hx, _, -, _, -, _, -, _, -, _, -, rfl⟩ := h
  exact ⟨Nat.pos_of_ne_zero fun h0 => hx (.inl h0), fun _ => rfl, fun _ => rfl⟩

/-- The system starts with the invariant when the staking manager owns the validator manager. -/
theorem systemInit_inv {vmSettings : ValidatorManager.ValidatorManagerSettings}
    {settings : StakingManagerSettings} {m₀ : ValidatorManager.State ID} {st₀ : State ID}
    (hm₀ : ValidatorManager.validatorManagerInit vmSettings = .ok m₀)
    (hs₀ : stakingManagerInit settings m₀ = .ok st₀) (ho : ctx.OwnsManager) :
    SystemInv ctx ⟨m₀, st₀⟩ := by
  obtain ⟨hx, hd, hp⟩ := stakingManagerInit_eq_ok hs₀
  simp only [ValidatorManager.validatorManagerInit, bind_eq_ok, require_eq_ok, pure_eq_ok] at hm₀
  obtain ⟨_, -, _, -, rfl⟩ := hm₀
  have hempty : storedDelegations st₀ = ∅ := by
    ext d
    simp [storedDelegations, hd d]
  refine ⟨ho, hx, fun _ _ => rfl, hempty ▸ Set.finite_empty, fun d hd' => ?_, fun v hv => ?_⟩
  · rw [hempty] at hd'
    exact absurd hd' (Set.notMem_empty d)
  · simp [isPoSValidator, hp v] at hv

/-- The system invariant holds along every run from a staking manager that owns its validator
manager. -/
theorem exec_systemInv (hk : KeccakInjective ctx)
    {vmSettings : ValidatorManager.ValidatorManagerSettings} {settings : StakingManagerSettings}
    {m₀ : ValidatorManager.State ID} {st₀ : State ID} {s : System ID}
    {tr : List (Call ID × List (Log ID))}
    (hm₀ : ValidatorManager.validatorManagerInit vmSettings = .ok m₀)
    (hs₀ : stakingManagerInit settings m₀ = .ok st₀) (ho : ctx.OwnsManager)
    (h : Exec (step ctx) ⟨m₀, st₀⟩ tr s) : SystemInv ctx s :=
  h.inv (fun _ _ _ _ ht hs => step_systemInv hk ht hs) (systemInit_inv hm₀ hs₀ ho)

theorem pos_weight_is_stake_and_delegations (hk : KeccakInjective ctx)
    {vmSettings : ValidatorManager.ValidatorManagerSettings} {settings : StakingManagerSettings}
    {m₀ : ValidatorManager.State ID} {st₀ : State ID} {s : System ID}
    {tr : List (Call ID × List (Log ID))}
    (hm₀ : ValidatorManager.validatorManagerInit vmSettings = .ok m₀)
    (hs₀ : stakingManagerInit settings m₀ = .ok st₀) (ho : ctx.OwnsManager)
    (h : Exec (step ctx) ⟨m₀, st₀⟩ tr s) :
    ∀ v, isPoSValidator s.staking v = true →
      (s.manager.validationPeriods v).status = .active →
      {d | (s.staking.delegatorStakes d).validationID = v ∧
          ((s.staking.delegatorStakes d).status = .pendingAdded ∨
            (s.staking.delegatorStakes d).status = .active)}.Finite ∧
      (s.manager.validationPeriods v).weight = (s.manager.validationPeriods v).startingWeight +
        ∑ᶠ d ∈ {d | (s.staking.delegatorStakes d).validationID = v ∧
          ((s.staking.delegatorStakes d).status = .pendingAdded ∨
            (s.staking.delegatorStakes d).status = .active)},
          (s.staking.delegatorStakes d).weight ∧
      (s.manager.validationPeriods v).weight ≤
        (s.manager.validationPeriods v).startingWeight * s.staking.maximumStakeMultiplier := by
  intro v hpos hact
  have hi := (exec_systemInv hk hm₀ hs₀ ho h).delegation
  have hc := hi.carries v hpos
  have ha : (periodViews s.manager v).status = .active := hact
  refine ⟨hi.finite.subset fun d hd hu => ?_, ?_, hc.bound (.inr ha)⟩
  · rcases hd.2 with h' | h' <;> rw [h'] at hu <;> cases hu
  · rw [finsum_mem_eq_delegatedWeight]
    exact hc.weight (.inr ha)

end

/-- A staking manager at address 1 hashing delegation IDs with `Nat.pair`, injective as
`keccak256` is taken to be. -/
def idealStakingContext : Context ℕ :=
  ⟨ValidatorManager.idealContext, 1, Nat.pair, fun _ _ _ _ _ => 0⟩

theorem idealStakingContext_keccakInjective : KeccakInjective idealStakingContext :=
  fun _ _ _ _ h => Nat.pair_eq_pair.1 h

theorem idealStakingContext_ownsManager : idealStakingContext.OwnsManager :=
  fun _ h => require_eq_ok.1 h

/-- Settings that `initialize` accepts with `ValidatorManager.idealSettings`. -/
def idealStakingSettings : StakingManagerSettings := ⟨1, 1, 100, 3600, 100, 4, 1, 2, 1⟩

/-- The validation ID of the PoS validator the samples register: node `4` with weight `20`, its
registration expiring a day after time `10`. -/
def sampleValidationID : ℕ :=
  match ValidatorManager.packRegisterL1ValidatorMessage ValidatorManager.idealSha256
      ⟨0, List.replicate 20 4, List.replicate 48 0, 86410, ⟨0, []⟩, ⟨0, []⟩, 20⟩ with
  | .ok (validationID, _) => validationID
  | .error _ => 0

set_option maxRecDepth 20000 in
/-- The initial validators of `ValidatorManager.sampleConversion` installed, then a PoS validator
of stake 20 registered by `0xA`, and a delegation of 10 to it by `0xB`, both completed. -/
theorem pos_weight_is_stake_and_delegations_delegated :
    ∃ (m₀ : ValidatorManager.State ℕ) (st₀ : State ℕ) (s : System ℕ)
      (tr : List (Call ℕ × List (Log ℕ))),
      ValidatorManager.validatorManagerInit ValidatorManager.idealSettings = .ok m₀ ∧
      stakingManagerInit idealStakingSettings m₀ = .ok st₀ ∧
      Exec (step idealStakingContext) ⟨m₀, st₀⟩ tr s ∧
      isPoSValidator s.staking sampleValidationID = true ∧
      (s.staking.delegatorStakes (Nat.pair sampleValidationID 1)).status = .active ∧
      (s.manager.validationPeriods sampleValidationID).weight = 30 ∧
      ∀ v, isPoSValidator s.staking v = true →
        (s.manager.validationPeriods v).status = .active →
        {d | (s.staking.delegatorStakes d).validationID = v ∧
            ((s.staking.delegatorStakes d).status = .pendingAdded ∨
              (s.staking.delegatorStakes d).status = .active)}.Finite ∧
        (s.manager.validationPeriods v).weight = (s.manager.validationPeriods v).startingWeight +
          ∑ᶠ d ∈ {d | (s.staking.delegatorStakes d).validationID = v ∧
            ((s.staking.delegatorStakes d).status = .pendingAdded ∨
              (s.staking.delegatorStakes d).status = .active)},
            (s.staking.delegatorStakes d).weight ∧
        (s.manager.validationPeriods v).weight ≤
          (s.manager.validationPeriods v).startingWeight * s.staking.maximumStakeMultiplier := by
  obtain ⟨m₀, st₀, s, tr, hm₀, hs₀, h, hpos, hd, hw⟩ :
      ∃ (m₀ : ValidatorManager.State ℕ) (st₀ : State ℕ) (s : System ℕ)
        (tr : List (Call ℕ × List (Log ℕ))),
      ValidatorManager.validatorManagerInit ValidatorManager.idealSettings = .ok m₀ ∧
      stakingManagerInit idealStakingSettings m₀ = .ok st₀ ∧
      Exec (step idealStakingContext) ⟨m₀, st₀⟩ tr s ∧
      isPoSValidator s.staking sampleValidationID = true ∧
      (s.staking.delegatorStakes (Nat.pair sampleValidationID 1)).status = .active ∧
      (s.manager.validationPeriods sampleValidationID).weight = 30 :=
    ⟨_, _, _, _, rfl, rfl, .snoc (.snoc (.snoc (.snoc (.snoc (.nil _)
      (show step idealStakingContext _ (.manager (.initializeValidatorSet 0
        ValidatorManager.sampleConversion (some ⟨0, 0, .subnetToL1Conversion
          (ValidatorManager.idealSha256
            (ValidatorManager.packConversionData ValidatorManager.sampleConversion))⟩))) =
        .ok (_, _) from rfl))
      (show step idealStakingContext _ (.initiateValidatorRegistration 0xA 10
        (List.replicate 20 4) (List.replicate 48 0) ⟨0, []⟩ ⟨0, []⟩ 100 3600 20 0xA 20) =
        .ok (_, _) from rfl))
      (show step idealStakingContext _ (.completeValidatorRegistration 11
        (some ⟨0, 0, .l1ValidatorRegistration sampleValidationID true⟩)) = .ok (_, _) from rfl))
      (show step idealStakingContext _
        (.initiateDelegatorRegistration 0xB 12 sampleValidationID 0xB 10) = .ok (_, _) from rfl))
      (show step idealStakingContext _ (.completeDelegatorRegistration 13
        (Nat.pair sampleValidationID 1)
        (some ⟨0, 0, .l1ValidatorWeight sampleValidationID 1 30⟩)) = .ok (_, _) from rfl),
      rfl, rfl, rfl⟩
  exact ⟨m₀, st₀, s, tr, hm₀, hs₀, h, hpos, hd, hw, pos_weight_is_stake_and_delegations
    idealStakingContext_keccakInjective hm₀ hs₀ idealStakingContext_ownsManager h⟩

end StakingManager
