import IcmServices.Lib.Solidity
import Mathlib.Algebra.Order.Group.Nat

/-!
# `TokenScalingUtils`

A remote may count the token with more or fewer decimals than the home. Amounts cross between
the two scales by a multiplier `10 ^ d`: multiplied on the way to the remote and divided on the
way back when the remote has more decimals (`multiplyOnRemote`), the other way round otherwise.
The multiplication is checked and the division rounds down.

`homeValue m b x` is what `x` remote tokens are worth at home, the value of
`removeTokenScale m b x`. Rounding can lose value on a round trip but never create it:

* `homeValue_add_apply_le`: crediting a remote with the scaled image of `x` home tokens raises
  its home value by at most `x`;
* `homeValue_sub_add_le`: the home value of what is left after a debit of `a` remote tokens,
  plus what `removeTokenScale` pays for them, is at most the home value before.
-/

namespace TokenScalingUtils

open Solidity

/-- `MAX_TOKEN_DECIMALS`. -/
def maxTokenDecimals : ℕ := 18

/-- `_scaleTokens`: multiply when `multiplyOnRemote` and `isSendToRemote` agree, else divide. -/
def scaleTokens (tokenMultiplier : ℕ) (multiplyOnRemote : Bool) (amount : ℕ)
    (isSendToRemote : Bool) : Except String ℕ :=
  if multiplyOnRemote = isSendToRemote then checkedMul 256 amount tokenMultiplier
  else checkedDiv amount tokenMultiplier

/-- `applyTokenScale`: home tokens to the remote's scale. -/
def applyTokenScale (tokenMultiplier : ℕ) (multiplyOnRemote : Bool) (homeTokenAmount : ℕ) :
    Except String ℕ :=
  scaleTokens tokenMultiplier multiplyOnRemote homeTokenAmount true

/-- `removeTokenScale`: remote tokens back to the home's scale. -/
def removeTokenScale (tokenMultiplier : ℕ) (multiplyOnRemote : Bool) (remoteTokenAmount : ℕ) :
    Except String ℕ :=
  scaleTokens tokenMultiplier multiplyOnRemote remoteTokenAmount false

/-- `deriveTokenMultiplierValues`: `10` to the difference of the decimals, and whether the remote
has more. -/
def deriveTokenMultiplierValues (homeTokenDecimals remoteTokenDecimals : ℕ) :
    Except String (ℕ × Bool) := do
  let multiplyOnRemote := decide (remoteTokenDecimals > homeTokenDecimals)
  let tokenMultiplier ← checkedPow 256 10
    (if multiplyOnRemote then remoteTokenDecimals - homeTokenDecimals
      else homeTokenDecimals - remoteTokenDecimals)
  pure (tokenMultiplier, multiplyOnRemote)

/-- The home value of a remote amount: `removeTokenScale` without its checks. -/
def homeValue (tokenMultiplier : ℕ) (multiplyOnRemote : Bool) (remoteTokenAmount : ℕ) : ℕ :=
  if multiplyOnRemote then remoteTokenAmount / tokenMultiplier
  else remoteTokenAmount * tokenMultiplier

/-- The remote image of a home amount: `applyTokenScale` without its checks. -/
def remoteValue (tokenMultiplier : ℕ) (multiplyOnRemote : Bool) (homeTokenAmount : ℕ) : ℕ :=
  if multiplyOnRemote then homeTokenAmount * tokenMultiplier
  else homeTokenAmount / tokenMultiplier

section
variable {m x r : ℕ} {b : Bool}

theorem removeTokenScale_eq_ok (h : removeTokenScale m b x = .ok r) : r = homeValue m b x := by
  cases b <;> simp_all [removeTokenScale, scaleTokens, homeValue]

theorem applyTokenScale_eq_ok (h : applyTokenScale m b x = .ok r) : r = remoteValue m b x := by
  cases b <;> simp_all [applyTokenScale, scaleTokens, remoteValue]

@[simp] theorem homeValue_zero (m : ℕ) (b : Bool) : homeValue m b 0 = 0 := by
  cases b <;> simp [homeValue]

theorem removeTokenScale_zero (h : removeTokenScale m b x = .ok r) :
    removeTokenScale m b 0 = .ok 0 := by
  cases b <;> simp_all [removeTokenScale, scaleTokens]

end

/-- Crediting the scaled image of `x` home tokens adds at most `x` to the home value. -/
theorem homeValue_add_apply_le (m : ℕ) (b : Bool) (t x : ℕ) :
    homeValue m b (t + remoteValue m b x) ≤ homeValue m b t + x := by
  cases b with
  | true =>
    simp only [homeValue, remoteValue, if_true]
    rcases Nat.eq_zero_or_pos m with rfl | hm
    · simp
    · rw [Nat.add_mul_div_right t x hm]
  | false =>
    simp only [homeValue, remoteValue, Bool.false_eq_true, if_false]
    rw [Nat.add_mul]
    exact Nat.add_le_add_left (Nat.div_mul_le_self x m) _

/-- A debit of `a` remote tokens takes at least their `removeTokenScale` off the home value. -/
theorem homeValue_sub_add_le (m : ℕ) (b : Bool) {t a : ℕ} (h : a ≤ t) :
    homeValue m b (t - a) + homeValue m b a ≤ homeValue m b t := by
  cases b with
  | true =>
    simp only [homeValue, if_true]
    calc (t - a) / m + a / m ≤ (t - a + a) / m := Nat.div_add_div_le_add_div
      _ = t / m := by rw [Nat.sub_add_cancel h]
  | false =>
    simp only [homeValue, Bool.false_eq_true, if_false]
    rw [← Nat.add_mul, Nat.sub_add_cancel h]

end TokenScalingUtils
