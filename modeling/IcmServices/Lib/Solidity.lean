import Mathlib.Data.BitVec
import Mathlib.Order.Basic

/-!
# Solidity statements as `Except` computations

A Solidity function that may revert is modelled as a function into `Except String`: a revert
with a reason string is `.error reason`, and the state updates of a reverted call are never
observed, so a reverted call is simply one that returns no new state.

* `require c msg` is `require(c, msg)`.
* `checkedAdd w a b`, `checkedMul w a b`, `checkedSub a b` and `checkedPow w a b` are the
  checked `+`, `*`, `-` and `**` of Solidity 0.8 on `uint<w>`: they revert with the arithmetic
  panic where the result leaves the type; `checkedDiv a b` reverts on a zero divisor.
* `byteAt bs i` is `bs[i]` on `bytes`, and `arrayAt xs i` and `arraySet xs i x` are `xs[i]` and
  `xs[i] = x` on an array, reverting with the bounds panic past the end.
* `bind_eq_ok` peels a successful `do` block apart one statement at a time; with the `_eq_ok`
  lemmas of each statement it turns a successful call into the conditions the call checked.
-/

namespace Solidity

/-- An EVM address: 20 bytes. -/
abbrev Address := BitVec 160

/-- A `bytes32` value. -/
abbrev Bytes32 := BitVec 256

/-- A `bytes` value. -/
abbrev Bytes := List UInt8

/-- `require(c, msg)`. -/
def require (c : Prop) [Decidable c] (msg : String) : Except String Unit :=
  if c then .ok () else .error msg

/-- The reason of a reverted checked operation (`Panic(0x11)` in Solidity 0.8). -/
def arithmeticPanic : String := "Panic(0x11)"

/-- `a + b` on `uint<w>`, reverting on overflow. -/
def checkedAdd (w a b : ℕ) : Except String ℕ :=
  if a + b < 2 ^ w then .ok (a + b) else .error arithmeticPanic

/-- `a * b` on `uint<w>`, reverting on overflow. -/
def checkedMul (w a b : ℕ) : Except String ℕ :=
  if a * b < 2 ^ w then .ok (a * b) else .error arithmeticPanic

/-- `a - b` on an unsigned type, reverting on underflow. -/
def checkedSub (a b : ℕ) : Except String ℕ :=
  if b ≤ a then .ok (a - b) else .error arithmeticPanic

/-- `a ** b` on `uint<w>`, reverting on overflow. -/
def checkedPow (w a b : ℕ) : Except String ℕ :=
  if a ^ b < 2 ^ w then .ok (a ^ b) else .error arithmeticPanic

/-- The reason of a division by zero (`Panic(0x12)`). -/
def divisionPanic : String := "Panic(0x12)"

/-- `a / b` on an unsigned type, reverting on a zero divisor. -/
def checkedDiv (a b : ℕ) : Except String ℕ :=
  if b = 0 then .error divisionPanic else .ok (a / b)

/-- The reason of an array index out of bounds (`Panic(0x32)`). -/
def indexPanic : String := "Panic(0x32)"

/-- `bs[i]` on `bytes`, reverting out of bounds. -/
def byteAt (bs : Bytes) (i : ℕ) : Except String UInt8 :=
  match bs[i]? with
  | some b => .ok b
  | none => .error indexPanic

/-- `xs[i]` on an array, reverting out of bounds. -/
def arrayAt {α : Type} (xs : List α) (i : ℕ) : Except String α :=
  match xs[i]? with
  | some x => .ok x
  | none => .error indexPanic

/-- `xs[i] = x` on a memory array, reverting out of bounds. -/
def arraySet {α : Type} (xs : List α) (i : ℕ) (x : α) : Except String (List α) :=
  if i < xs.length then .ok (xs.set i x) else .error indexPanic

/-- The revert of a loop that would not end: it runs out of gas. -/
def outOfGas : String := "out of gas"

/-- `onlyOwner` of `Ownable` while `owner` owns the contract. The contracts take their access
checks as parameters; this is the one the samples use. -/
def ownedBy (owner sender : Address) : Except String Unit :=
  require (sender = owner) "OwnableUnauthorizedAccount"

section
variable {ε α β : Type}

theorem bind_eq_ok {x : Except ε α} {f : α → Except ε β} {b : β} :
    x >>= f = .ok b ↔ ∃ a, x = .ok a ∧ f a = .ok b := by
  cases x <;> simp [bind, Except.bind]

theorem map_eq_ok {x : Except ε α} {f : α → β} {b : β} :
    f <$> x = .ok b ↔ ∃ a, x = .ok a ∧ f a = b := by
  cases x <;> simp [Functor.map, Except.map]

theorem ok_bind {a : α} {f : α → Except ε β} : (Except.ok a >>= f) = f a := rfl

@[simp] theorem pure_eq_ok {a b : α} : (pure a : Except ε α) = .ok b ↔ a = b := by
  simp [pure, Except.pure]

@[simp] theorem error_ne_ok {e : ε} {b : α} : (Except.error e : Except ε α) ≠ .ok b := by
  simp

end

@[simp] theorem require_eq_ok {c : Prop} [Decidable c] {msg : String} {u : Unit} :
    require c msg = .ok u ↔ c := by
  unfold require; split <;> simp_all

@[simp] theorem checkedAdd_eq_ok {w a b c : ℕ} :
    checkedAdd w a b = .ok c ↔ a + b < 2 ^ w ∧ c = a + b := by
  unfold checkedAdd; split <;> simp_all [eq_comm]

@[simp] theorem checkedMul_eq_ok {w a b c : ℕ} :
    checkedMul w a b = .ok c ↔ a * b < 2 ^ w ∧ c = a * b := by
  unfold checkedMul; split <;> simp_all [eq_comm]

@[simp] theorem checkedSub_eq_ok {a b c : ℕ} :
    checkedSub a b = .ok c ↔ b ≤ a ∧ c = a - b := by
  unfold checkedSub; split <;> simp_all [eq_comm]

@[simp] theorem checkedPow_eq_ok {w a b c : ℕ} :
    checkedPow w a b = .ok c ↔ a ^ b < 2 ^ w ∧ c = a ^ b := by
  unfold checkedPow; split <;> simp_all [eq_comm]

@[simp] theorem checkedDiv_eq_ok {a b c : ℕ} :
    checkedDiv a b = .ok c ↔ 0 < b ∧ c = a / b := by
  unfold checkedDiv; split <;> simp_all [eq_comm, Nat.pos_iff_ne_zero]

@[simp] theorem byteAt_eq_ok {bs : Bytes} {i : ℕ} {b : UInt8} :
    byteAt bs i = .ok b ↔ bs[i]? = some b := by
  unfold byteAt; split <;> simp_all

@[simp] theorem arrayAt_eq_ok {α : Type} {xs : List α} {i : ℕ} {x : α} :
    arrayAt xs i = .ok x ↔ xs[i]? = some x := by
  unfold arrayAt; split <;> simp_all

@[simp] theorem arraySet_eq_ok {α : Type} {xs ys : List α} {i : ℕ} {x : α} :
    arraySet xs i x = .ok ys ↔ i < xs.length ∧ ys = xs.set i x := by
  unfold arraySet; split <;> simp_all [eq_comm]

end Solidity
