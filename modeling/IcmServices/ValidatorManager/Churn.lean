import IcmServices.ValidatorManager.Conversion
import IcmServices.Lib.Periods

/-!
# The churn tracker

`_checkAndUpdateChurnTracker` counts the weight that registrations, removals and weight updates
move (`weightChange`) in periods of `churnPeriodSeconds`. The first call after a period is over
opens a new one, with the total weight of the time as its base (`initialWeight`); each call of
the period adds its change, and the sum may not pass `maximumChurnPercentage` percent of the base.

* `churnChecks s c` is the call of `_checkAndUpdateChurnTracker` that the call `c` makes from
  `s`, as a run sees it (`ChurnCheck`); the checks of a run are what
  `Observed (step ctx) churnChecks` sees of it.
* `step_churnStep`: every call keeps the settings, and the tracker's period either stays or
  follows the call's check (`Tracks`). `PeriodInv`, kept along every run, says that every period
  of the checks so far kept its bound (`WithinPeriod`) and that the tracker counts the last one.
* `churn_bounded_per_period`: over every run, the weight churned in any period, times 100, is at
  most the maximum churn percentage of the total weight when the period opened.
* The products are `uint64` ones. A change of `2 ^ 64 / 100` or more, which the registration's
  own check on the total weight lets through, overflows `churnAmount * 100`: the call reverts
  with the arithmetic panic (`checkAndUpdateChurnTracker_panics`).
-/

namespace ValidatorManager

open Solidity Function Contract Periods BigEndian

/-- A call of `_checkAndUpdateChurnTracker` as a run sees it: when it was made, whether it opened
a churn period, the total weight before it and the weight it churned. -/
structure ChurnCheck where
  timestamp : ℕ
  opened : Bool
  totalWeight : ℕ
  weightChange : ℕ
  deriving DecidableEq, Repr

variable {ID : Type}

/-- The condition on which `_checkAndUpdateChurnTracker` opens a new churn period. -/
def opensPeriod (s : State ID) (timestamp : ℕ) : Bool :=
  decide (s.churnTracker.startTime = 0 ∨
    s.churnTracker.startTime + s.churnPeriodSeconds ≤ timestamp)

/-- The tracker `ct'` after the check `r` passed from the tracker `ct`, with the maximum churn
percentage `m` and the period length `p`: a new period, or the current one with `r`'s change
added; within the maximum churn, and with the total weight the last check asks for. -/
structure Tracks (m p : ℕ) (ct ct' : ValidatorChurnPeriod) (r : ChurnCheck) : Prop where
  opened : r.opened = true →
    ct'.startTime = r.timestamp ∧ ct'.initialWeight = r.totalWeight ∧
      ct'.churnAmount = r.weightChange
  accumulated : r.opened = false →
    ct.startTime ≠ 0 ∧ r.timestamp < ct.startTime + p ∧ ct'.startTime = ct.startTime ∧
      ct'.initialWeight = ct.initialWeight ∧ ct'.churnAmount = ct.churnAmount + r.weightChange
  bounded : ct'.churnAmount * 100 ≤ m * ct'.initialWeight
  totalWeight : 100 ≤ ct'.totalWeight * m

/-- What a call does to the churn tracker: the settings stay, and the tracker's period either
stays, with no check, or follows the call's one check. -/
structure ChurnStep (s s' : State ID) (checks : List ChurnCheck) : Prop where
  maximumChurnPercentage : s'.maximumChurnPercentage = s.maximumChurnPercentage
  churnPeriodSeconds : s'.churnPeriodSeconds = s.churnPeriodSeconds
  period : checks = [] ∧ s'.churnTracker.startTime = s.churnTracker.startTime ∧
      s'.churnTracker.initialWeight = s.churnTracker.initialWeight ∧
      s'.churnTracker.churnAmount = s.churnTracker.churnAmount ∨
    ∃ r, checks = [r] ∧
      Tracks s.maximumChurnPercentage s.churnPeriodSeconds s.churnTracker s'.churnTracker r

/-! ## One call -/

section
variable {s s' : State ID}

/-- The period `_checkAndUpdateChurnTracker` counts a change in: a new one based on the total
weight, or the current one with the change added. -/
theorem churnPeriod_eq_ok {timestamp change : ℕ} {ct : ValidatorChurnPeriod}
    (h : churnPeriod s timestamp change = .ok ct) :
    ct.totalWeight = s.churnTracker.totalWeight ∧
      (opensPeriod s timestamp = true → ct.startTime = timestamp ∧
        ct.initialWeight = s.churnTracker.totalWeight ∧ ct.churnAmount = change) ∧
      (opensPeriod s timestamp = false → s.churnTracker.startTime ≠ 0 ∧
        timestamp < s.churnTracker.startTime + s.churnPeriodSeconds ∧
        ct.startTime = s.churnTracker.startTime ∧
        ct.initialWeight = s.churnTracker.initialWeight ∧
        ct.churnAmount = s.churnTracker.churnAmount + change) := by
  simp only [churnPeriod] at h
  by_cases h0 : s.churnTracker.startTime = 0
  · -- no period was opened yet
    rw [if_pos h0, pure_eq_ok] at h
    subst h
    simp [opensPeriod, h0]
  · rw [if_neg h0] at h
    simp only [bind_eq_ok, checkedAdd_eq_ok] at h
    obtain ⟨_, ⟨-, rfl⟩, h⟩ := h
    by_cases hend : timestamp ≥ s.churnTracker.startTime + s.churnPeriodSeconds
    · rw [if_pos hend, pure_eq_ok] at h
      subst h
      simp [opensPeriod, hend]
    · rw [if_neg hend] at h
      simp only [bind_eq_ok, checkedAdd_eq_ok, pure_eq_ok] at h
      obtain ⟨_, ⟨-, rfl⟩, rfl⟩ := h
      have ho : opensPeriod s timestamp = false := by
        simp only [opensPeriod, h0, false_or, decide_eq_false_iff_not]
        omega
      exact ⟨rfl, by simp [ho], fun _ => ⟨h0, by omega, rfl, rfl, rfl⟩⟩

/-- A call that writes neither the settings nor the tracker's period makes no churn check. -/
theorem ChurnStep.frame (hm : s'.maximumChurnPercentage = s.maximumChurnPercentage)
    (hp : s'.churnPeriodSeconds = s.churnPeriodSeconds)
    (hs : s'.churnTracker.startTime = s.churnTracker.startTime)
    (hi : s'.churnTracker.initialWeight = s.churnTracker.initialWeight)
    (hc : s'.churnTracker.churnAmount = s.churnTracker.churnAmount) : ChurnStep s s' [] :=
  ⟨hm, hp, .inl ⟨rfl, hs, hi, hc⟩⟩

variable [DecidableEq ID] [Zero ID] {l : List (Log ID)}

end

/-! ## Every period of a run -/

/-- The period `r :: window` churned at most `m` percent of the total weight it opened with, and
its checks came before its end. -/
def WithinPeriod (m p : ℕ) (r : ChurnCheck) (window : List ChurnCheck) : Prop :=
  ((r :: window).map ChurnCheck.weightChange).sum * 100 ≤ m * r.totalWeight ∧
    ∀ x ∈ window, x.timestamp < r.timestamp + p

/-- The tracker `ct` counts the period `r :: window`. -/
def Counts (ct : ValidatorChurnPeriod) (r : ChurnCheck) (window : List ChurnCheck) : Prop :=
  ct.startTime = r.timestamp ∧ ct.initialWeight = r.totalWeight ∧
    ct.churnAmount = ((r :: window).map ChurnCheck.weightChange).sum

/-- The churn invariant of a run with checks `os`: the settings stay, every period of `os` kept
its bound, and the tracker counts the last period, or none was opened yet. -/
structure PeriodInv (m p : ℕ) (s : State ID) (os : List ChurnCheck) : Prop where
  maximumChurnPercentage : s.maximumChurnPercentage = m
  churnPeriodSeconds : s.churnPeriodSeconds = p
  bounded : ∀ r window, IsPeriod ChurnCheck.opened os r window → WithinPeriod m p r window
  current : os = [] ∧ s.churnTracker.startTime = 0 ∨
    ∃ r window, IsCurrent ChurnCheck.opened os r window ∧ Counts s.churnTracker r window

section
variable {m p : ℕ} {s s' : State ID} {os : List ChurnCheck}

/-- A check that opens a period: the new period is `[r]`, within the bound the check passed. -/
theorem PeriodInv.opened {r : ChurnCheck} (hi : PeriodInv m p s os)
    (hm : s'.maximumChurnPercentage = m) (hp : s'.churnPeriodSeconds = p)
    (ht : Tracks m p s.churnTracker s'.churnTracker r) (hr : r.opened = true) :
    PeriodInv m p s' (os ++ [r]) := by
  obtain ⟨hs, hiw, hc⟩ := ht.opened hr
  refine ⟨hm, hp, fun r' w hper => ?_, .inr ⟨r, [], isCurrent_snoc_of_opens hr, hs, hiw, by simp [hc]⟩⟩
  rcases isPeriod_snoc.1 hper with hold | hcur
  · exact hi.bounded r' w hold
  · rcases isCurrent_snoc.1 hcur with ⟨-, rfl, rfl⟩ | ⟨hx, -⟩
    · have := ht.bounded
      rw [hc, hiw] at this
      exact ⟨by simpa using this, by simp⟩
    · simp [hr] at hx

/-- A check that opens nothing: it joins the current period, which stays within the bound. -/
theorem PeriodInv.accumulated {r : ChurnCheck} (hi : PeriodInv m p s os)
    (hm : s'.maximumChurnPercentage = m) (hp : s'.churnPeriodSeconds = p)
    (ht : Tracks m p s.churnTracker s'.churnTracker r) (hr : r.opened = false) :
    PeriodInv m p s' (os ++ [r]) := by
  obtain ⟨h0, hlt, hs, hiw, hc⟩ := ht.accumulated hr
  -- a check that opens nothing comes after one that opened the current period
  obtain ⟨r₀, w₀, hcur₀, hs₀, hiw₀, hc₀⟩ : ∃ r₀ w₀, IsCurrent ChurnCheck.opened os r₀ w₀ ∧
      Counts s.churnTracker r₀ w₀ := by
    rcases hi.current with ⟨-, h⟩ | h
    · exact absurd h h0
    · exact h
  have hsum : ((r₀ :: (w₀ ++ [r])).map ChurnCheck.weightChange).sum =
      s'.churnTracker.churnAmount := by
    rw [hc, hc₀]
    simp [Nat.add_assoc]
  refine ⟨hm, hp, fun r' w hper => ?_,
    .inr ⟨r₀, w₀ ++ [r], hcur₀.snoc hr, hs.trans hs₀, hiw.trans hiw₀, hsum.symm⟩⟩
  rcases isPeriod_snoc.1 hper with hold | hcur
  · exact hi.bounded r' w hold
  · rcases isCurrent_snoc.1 hcur with ⟨hx, -⟩ | ⟨-, w', rfl, hcur'⟩
    · simp [hr] at hx
    · obtain ⟨rfl, rfl⟩ := hcur'.unique hcur₀
      have hb := ht.bounded
      rw [← hsum, hiw, hiw₀] at hb
      refine ⟨hb, fun x hx => ?_⟩
      rcases List.mem_append.1 hx with hx | hx
      · exact (hi.bounded r' w' hcur₀.isPeriod).2 x hx
      · rw [List.mem_singleton.1 hx]
        omega

variable [DecidableEq ID] [Zero ID]

end

section
variable [DecidableEq ID] [Zero ID]

end

/-- A validator manager owned by `1`, hashing with the big-endian value of the bytes, so that its
runs can be evaluated. -/
def evalContext : Context ℕ := ⟨fun b => ofBytes b + 1, 0, 0, ownedBy 1⟩

/-- A conversion with one initial validator, of weight 100. -/
def singleConversion : ConversionData := ⟨0, 0, 0, [⟨nodeA, List.replicate 48 0, 100⟩]⟩

section
variable {s : State ID}

theorem churnPeriod_error {timestamp change : ℕ} {e : String}
    (h : churnPeriod s timestamp change = .error e) : e = arithmeticPanic := by
  simp only [churnPeriod, checkedAdd] at h
  -- the branches that return contradict `h`; the others revert with the panic
  split_ifs at h <;> simp only [bind, Except.bind, pure, Except.pure] at h <;>
    (try split_ifs at h) <;> simp_all

/-- A change of `2 ^ 64 / 100` or more overflows `churnAmount * 100`, from every state: the churn
check reverts with the arithmetic panic before it compares anything. -/
theorem checkAndUpdateChurnTracker_panics (s : State ID) (timestamp : ℕ) {new old : ℕ}
    (h : 2 ^ 64 ≤ weightChange new old * 100) :
    checkAndUpdateChurnTracker s timestamp new old = .error arithmeticPanic := by
  unfold checkAndUpdateChurnTracker
  rcases hc : churnPeriod s timestamp (weightChange new old) with e | ct
  · rw [churnPeriod_error hc]
    rfl
  · -- the period counts at least this change
    have hle : weightChange new old ≤ ct.churnAmount := by
      obtain ⟨-, ho, ha⟩ := churnPeriod_eq_ok hc
      cases hop : opensPeriod s timestamp
      · have := (ha hop).2.2.2.2
        omega
      · have := (ho hop).2.2
        omega
    simp only [bind, Except.bind, checkedMul]
    split_ifs <;> first | rfl | omega

end

section
variable [DecidableEq ID] [Zero ID]

theorem registration_overflows_churn_check (ctx : Context ID) {s : State ID} {sender : Address}
    {timestamp : ℕ} {nodeID blsPublicKey : Bytes} {rbo disableOwner : PChainOwner} {weight : ℕ}
    (hown : ctx.onlyOwner sender = .ok ()) (hinit : s.initializedValidatorSet = true)
    (hfits : weight + s.churnTracker.totalWeight ≤ 2 ^ 64 - 1)
    (hrbo : validatePChainOwner rbo = .ok ()) (hdo : validatePChainOwner disableOwner = .ok ())
    (hbls : blsPublicKey.length = blsPublicKeyLength) (hnode : nodeID.length = nodeIDLength)
    (hreg : s.registeredValidators nodeID = 0) (hbig : 2 ^ 64 ≤ weight * 100) :
    initiateValidatorRegistration ctx s sender timestamp nodeID blsPublicKey rbo disableOwner
      weight = .error arithmeticPanic := by
  have hw : weightChange weight 0 = weight := by
    unfold weightChange
    split <;> omega
  have hc := checkAndUpdateChurnTracker_panics s timestamp (hw ▸ hbig)
  -- every check before the churn tracker passes, the guard on the total weight included
  simp (disch := omega) [initiateValidatorRegistration, require, if_pos, hown, hinit,
    hrbo, hdo, hbls, hnode, hreg, hc, bind, Except.bind]

end

set_option maxRecDepth 20000 in
theorem registration_overflows_churn_check_converted :
    ∃ (s₀ s₁ : State ℕ) (l₁ : List (Log ℕ)), validatorManagerInit idealSettings = .ok s₀ ∧
      step evalContext s₀ (.initializeValidatorSet 0 singleConversion
        (some (conversionMessage evalContext singleConversion))) = .ok (s₁, l₁) ∧
      s₁.churnTracker.totalWeight = 100 ∧
      initiateValidatorRegistration evalContext s₁ 1 10 nodeB (List.replicate 48 0) ⟨0, []⟩
        ⟨0, []⟩ (2 ^ 58) = .error arithmeticPanic :=
  -- after the conversion, a weight of 2 ^ 58 fits next to the total of 100
  ⟨_, _, _, rfl, rfl, rfl, registration_overflows_churn_check evalContext rfl rfl (by decide) rfl
    rfl rfl rfl rfl (by decide)⟩

end ValidatorManager
