import IcmServices.Lib.Solidity
import IcmServices.Lib.Finsum

/-!
# ERC-20 ledgers

The remotes and the batch messenger call OpenZeppelin's `ERC20` and `SafeERC20`, a library the
repository takes from outside it. A ledger is therefore a parameter: `Ledger` holds the operations
the contracts call, and `Ledger.Laws` what each of them may do to the balances. The storage is what
`IERC20` shows of a token: its balances and allowances (`State`) and, for a contract that is itself
a token, its supply (`Token`). The operations of `Ledger` other than `_mint` and `_burn` see only
the balances and allowances, so they leave the supply as it is (`Token.ledger`).

* `Laws.transfer_keepsTotal`, `Laws.transferFrom_keepsTotal`, ...: every operation of a lawful
  ledger keeps the total of the balances;
* `Token.Sound`: the supply is the total of the balances; a lawful ledger's `_mint`, `_burn` and
  other operations keep it so (`Laws.mint_sound`, `Laws.burn_sound`, `Laws.ledger_kept`), and a
  burn takes exactly its value off the supply (`Laws.burn_totalSupply`).

`standard` is a ledger after OpenZeppelin's `_update`, `_approve` and `_spendAllowance`; it meets
the laws (`standard_laws`), and the sample runs use it.
-/

namespace ERC20

open Solidity Function

/-- The storage of a token as `IERC20` shows it: `balanceOf` and `allowance`. -/
structure State where
  balanceOf : Address → ℕ
  allowance : Address → Address → ℕ

/-- The storage of a contract that is itself a token: its ledger and `totalSupply`. -/
structure Token extends State where
  totalSupply : ℕ

/-- The operations of `ERC20` and `SafeERC20` that the contracts call. -/
structure Ledger where
  /-- `_approve(owner, spender, value)`. -/
  approve : State → Address → Address → ℕ → Except String State
  /-- `_spendAllowance(owner, spender, value)`. -/
  spendAllowance : State → Address → Address → ℕ → Except String State
  /-- `_transfer(from, to, value)`. -/
  transfer : State → Address → Address → ℕ → Except String State
  /-- `transferFrom(from, to, value)`, called by the spender given first. -/
  transferFrom : State → Address → Address → Address → ℕ → Except String State
  /-- `SafeERC20.safeIncreaseAllowance`, called by the owner given first. -/
  safeIncreaseAllowance : State → Address → Address → ℕ → Except String State
  /-- `_mint(account, value)`. -/
  mint : Token → Address → ℕ → Except String Token
  /-- `_burn(account, value)`. -/
  burn : Token → Address → ℕ → Except String Token

/-- What the operations of a standard token do to the balances: the allowance operations move
none, a transfer moves its value from the source to the destination, a mint and a burn move one
balance and the supply by the value. Tokens that charge a fee or burn on transfer break these. -/
structure Ledger.Laws (L : Ledger) : Prop where
  approve_balanceOf : ∀ {s s' : State} {owner spender : Address} {value : ℕ},
    L.approve s owner spender value = .ok s' → s'.balanceOf = s.balanceOf
  spendAllowance_balanceOf : ∀ {s s' : State} {owner spender : Address} {value : ℕ},
    L.spendAllowance s owner spender value = .ok s' → s'.balanceOf = s.balanceOf
  safeIncreaseAllowance_balanceOf : ∀ {s s' : State} {owner spender : Address} {value : ℕ},
    L.safeIncreaseAllowance s owner spender value = .ok s' → s'.balanceOf = s.balanceOf
  transfer_balanceOf : ∀ {s s' : State} {src dst : Address} {value : ℕ},
    L.transfer s src dst value = .ok s' →
      value ≤ s.balanceOf src ∧ ∀ a, s'.balanceOf a + (if a = src then value else 0) =
        s.balanceOf a + (if a = dst then value else 0)
  transferFrom_balanceOf : ∀ {s s' : State} {spender src dst : Address} {value : ℕ},
    L.transferFrom s spender src dst value = .ok s' →
      value ≤ s.balanceOf src ∧ ∀ a, s'.balanceOf a + (if a = src then value else 0) =
        s.balanceOf a + (if a = dst then value else 0)
  mint_eq_ok : ∀ {t t' : Token} {account : Address} {value : ℕ},
    L.mint t account value = .ok t' →
      t'.totalSupply = t.totalSupply + value ∧
        t'.balanceOf = update t.balanceOf account (t.balanceOf account + value)
  burn_eq_ok : ∀ {t t' : Token} {account : Address} {value : ℕ},
    L.burn t account value = .ok t' →
      value ≤ t.balanceOf account ∧ t'.totalSupply = t.totalSupply - value ∧
        t'.balanceOf = update t.balanceOf account (t.balanceOf account - value)

/-! ## Operations that keep the total of the balances -/

/-- `s'` holds the tokens of `s`, maybe with other holders: a finitely supported ledger stays so,
with the same total. -/
def KeepsTotal (s s' : State) : Prop :=
  (support s.balanceOf).Finite →
    (support s'.balanceOf).Finite ∧ ∑ᶠ a, s'.balanceOf a = ∑ᶠ a, s.balanceOf a

variable {s s' : State}

theorem KeepsTotal.of_balanceOf (h : s'.balanceOf = s.balanceOf) : KeepsTotal s s' := by
  intro hf
  rw [h]
  exact ⟨hf, rfl⟩

theorem KeepsTotal.of_move {src dst : Address} {value : ℕ} (hv : value ≤ s.balanceOf src)
    (hb : ∀ a, s'.balanceOf a + (if a = src then value else 0) =
      s.balanceOf a + (if a = dst then value else 0)) : KeepsTotal s s' := by
  intro hf
  -- `s'` is `s` debited at `src` and then credited at `dst`
  have hs' : s'.balanceOf = update (update s.balanceOf src (s.balanceOf src - value)) dst
      (update s.balanceOf src (s.balanceOf src - value) dst + value) := by
    funext a
    have h := hb a
    rcases eq_or_ne a dst with rfl | hd
    · rcases eq_or_ne a src with rfl | hs
      · simp only [if_true] at h
        simp only [update_self]
        omega
      · simp only [if_true, if_neg hs] at h
        simp only [update_self, update_of_ne hs]
        omega
    · rcases eq_or_ne a src with rfl | hs
      · simp only [if_true, if_neg hd] at h
        simp only [update_of_ne hd, update_self]
        omega
      · simp only [if_neg hd, if_neg hs] at h
        simp only [update_of_ne hd, update_of_ne hs]
        omega
  set b₁ := update s.balanceOf src (s.balanceOf src - value)
  have hf₁ : (support b₁).Finite := Mapping.Finite.update hf _ _
  have h₁ : (∑ᶠ a, b₁ a) + s.balanceOf src = (∑ᶠ a, s.balanceOf a) + (s.balanceOf src - value) :=
    Mapping.finsum_update_add hf src _
  have h₂ := Mapping.finsum_update_add_cancel hf₁ dst value
  rw [hs']
  refine ⟨Mapping.Finite.update hf₁ _ _, ?_⟩
  omega

namespace Ledger.Laws

variable {L : Ledger} (hL : L.Laws)
include hL

theorem approve_keepsTotal {owner spender : Address} {value : ℕ}
    (h : L.approve s owner spender value = .ok s') : KeepsTotal s s' :=
  .of_balanceOf (hL.approve_balanceOf h)

theorem spendAllowance_keepsTotal {owner spender : Address} {value : ℕ}
    (h : L.spendAllowance s owner spender value = .ok s') : KeepsTotal s s' :=
  .of_balanceOf (hL.spendAllowance_balanceOf h)

theorem safeIncreaseAllowance_keepsTotal {owner spender : Address} {value : ℕ}
    (h : L.safeIncreaseAllowance s owner spender value = .ok s') : KeepsTotal s s' :=
  .of_balanceOf (hL.safeIncreaseAllowance_balanceOf h)

theorem transfer_keepsTotal {src dst : Address} {value : ℕ}
    (h : L.transfer s src dst value = .ok s') : KeepsTotal s s' :=
  .of_move (hL.transfer_balanceOf h).1 (hL.transfer_balanceOf h).2

theorem transferFrom_keepsTotal {spender src dst : Address} {value : ℕ}
    (h : L.transferFrom s spender src dst value = .ok s') : KeepsTotal s s' :=
  .of_move (hL.transferFrom_balanceOf h).1 (hL.transferFrom_balanceOf h).2

end Ledger.Laws

/-! ## A token that mints and burns -/

namespace Token

/-- An operation of the ledger (`_approve`, `_spendAllowance`, `_transfer`, ...) on the token:
the supply stays. -/
def ledger (t : Token) (op : State → Except String State) : Except String Token := do
  let s ← op t.toState
  pure { t with toState := s }

/-- The supply is the total of the balances. -/
structure Sound (t : Token) : Prop where
  finite : (support t.balanceOf).Finite
  total : ∑ᶠ a, t.balanceOf a = t.totalSupply

variable {t t' : Token}

theorem ledger_eq_ok {op : State → Except String State} (h : t.ledger op = .ok t') :
    op t.toState = .ok t'.toState ∧ t'.totalSupply = t.totalSupply := by
  simp only [ledger, bind_eq_ok, pure_eq_ok] at h
  obtain ⟨s, hs, rfl⟩ := h
  exact ⟨hs, rfl⟩

theorem Sound.balanceOf_le (hs : t.Sound) (a : Address) : t.balanceOf a ≤ t.totalSupply :=
  hs.total ▸ single_le_finsum a hs.finite fun _ => Nat.zero_le _

/-- An operation that keeps the total keeps a sound token sound, with its supply. -/
theorem Sound.ledger_kept (hs : t.Sound) {op : State → Except String State}
    (h : t.ledger op = .ok t') (hk : ∀ s', op t.toState = .ok s' → KeepsTotal t.toState s') :
    t'.Sound ∧ t'.totalSupply = t.totalSupply := by
  obtain ⟨hop, hsup⟩ := ledger_eq_ok h
  obtain ⟨hf, htot⟩ := hk _ hop hs.finite
  exact ⟨⟨hf, by rw [htot, hsup]; exact hs.total⟩, hsup⟩

end Token

namespace Ledger.Laws

open Token

variable {L : Ledger} (hL : L.Laws) {t t' : Token}
include hL

theorem mint_sound (hs : t.Sound) {account : Address} {value : ℕ}
    (h : L.mint t account value = .ok t') : t'.Sound := by
  obtain ⟨hsup, hbal⟩ := hL.mint_eq_ok h
  refine ⟨hbal ▸ Mapping.Finite.update hs.finite _ _, ?_⟩
  rw [hbal, Mapping.finsum_update_add_cancel hs.finite, hs.total, hsup]

theorem burn_sound (hs : t.Sound) {account : Address} {value : ℕ}
    (h : L.burn t account value = .ok t') : t'.Sound := by
  obtain ⟨hv, hsup, hbal⟩ := hL.burn_eq_ok h
  have hle := hs.balanceOf_le account
  have h₁ := Mapping.finsum_update_add hs.finite account (t.balanceOf account - value)
  refine ⟨hbal ▸ Mapping.Finite.update hs.finite _ _, ?_⟩
  rw [hbal, hsup, ← hs.total]
  rw [hs.total] at h₁ ⊢
  omega

/-- A burn within the supply takes exactly its value off it. -/
theorem burn_totalSupply (hs : t.Sound) {account : Address} {value : ℕ}
    (h : L.burn t account value = .ok t') : t'.totalSupply + value = t.totalSupply := by
  obtain ⟨hv, hsup, -⟩ := hL.burn_eq_ok h
  have := hs.balanceOf_le account
  omega

end Ledger.Laws

/-! ## A ledger that meets the laws -/

namespace Standard

/-- `type(uint256).max`, the allowance that is never spent. -/
def maxAllowance : ℕ := 2 ^ 256 - 1

/-- `_approve(owner, spender, value)`. -/
def approve (s : State) (owner spender : Address) (value : ℕ) : Except String State := do
  require (owner ≠ 0) "ERC20InvalidApprover"
  require (spender ≠ 0) "ERC20InvalidSpender"
  pure { s with allowance := update s.allowance owner (update (s.allowance owner) spender value) }

/-- `_spendAllowance(owner, spender, value)`. -/
def spendAllowance (s : State) (owner spender : Address) (value : ℕ) : Except String State := do
  let currentAllowance := s.allowance owner spender
  if currentAllowance ≠ maxAllowance then do
    require (currentAllowance ≥ value) "ERC20InsufficientAllowance"
    approve s owner spender (currentAllowance - value)
  else pure s

/-- `_transfer(from, to, value)`, through `_update` between two nonzero addresses. -/
def transfer (s : State) (src dst : Address) (value : ℕ) : Except String State := do
  require (src ≠ 0) "ERC20InvalidSender"
  require (dst ≠ 0) "ERC20InvalidReceiver"
  let fromBalance := s.balanceOf src
  require (fromBalance ≥ value) "ERC20InsufficientBalance"
  let s := { s with balanceOf := update s.balanceOf src (fromBalance - value) }
  pure { s with balanceOf := update s.balanceOf dst (s.balanceOf dst + value) }

/-- `transferFrom(from, to, value)` called by `spender`. -/
def transferFrom (s : State) (spender src dst : Address) (value : ℕ) : Except String State := do
  let s ← spendAllowance s src spender value
  transfer s src dst value

/-- `safeIncreaseAllowance` called by `owner`: `forceApprove` of the old allowance plus
`value`. -/
def safeIncreaseAllowance (s : State) (owner spender : Address) (value : ℕ) :
    Except String State := do
  let oldAllowance := s.allowance owner spender
  let newAllowance ← checkedAdd 256 oldAllowance value
  approve s owner spender newAllowance

/-- `_mint(account, value)`: `_update(address(0), account, value)`. -/
def mint (t : Token) (account : Address) (value : ℕ) : Except String Token := do
  require (account ≠ 0) "ERC20InvalidReceiver"
  let totalSupply ← checkedAdd 256 t.totalSupply value
  pure { t with
    totalSupply
    balanceOf := update t.balanceOf account (t.balanceOf account + value) }

/-- `_burn(account, value)`: `_update(account, address(0), value)`. -/
def burn (t : Token) (account : Address) (value : ℕ) : Except String Token := do
  require (account ≠ 0) "ERC20InvalidSender"
  let fromBalance := t.balanceOf account
  require (fromBalance ≥ value) "ERC20InsufficientBalance"
  pure { t with
    balanceOf := update t.balanceOf account (fromBalance - value)
    totalSupply := t.totalSupply - value }

theorem approve_balanceOf {owner spender : Address} {value : ℕ}
    (h : approve s owner spender value = .ok s') : s'.balanceOf = s.balanceOf := by
  simp only [approve, bind_eq_ok, require_eq_ok, pure_eq_ok] at h
  obtain ⟨_, -, _, -, rfl⟩ := h
  rfl

theorem spendAllowance_balanceOf {owner spender : Address} {value : ℕ}
    (h : spendAllowance s owner spender value = .ok s') : s'.balanceOf = s.balanceOf := by
  simp only [spendAllowance] at h
  split at h
  · simp only [bind_eq_ok, require_eq_ok] at h
    obtain ⟨_, -, h⟩ := h
    exact approve_balanceOf h
  · obtain rfl := pure_eq_ok.1 h
    rfl

theorem safeIncreaseAllowance_balanceOf {owner spender : Address} {value : ℕ}
    (h : safeIncreaseAllowance s owner spender value = .ok s') : s'.balanceOf = s.balanceOf := by
  simp only [safeIncreaseAllowance, bind_eq_ok, checkedAdd_eq_ok] at h
  obtain ⟨_, -, h⟩ := h
  exact approve_balanceOf h

theorem transfer_balanceOf {src dst : Address} {value : ℕ}
    (h : transfer s src dst value = .ok s') :
    value ≤ s.balanceOf src ∧ ∀ a, s'.balanceOf a + (if a = src then value else 0) =
      s.balanceOf a + (if a = dst then value else 0) := by
  simp only [transfer, bind_eq_ok, require_eq_ok, pure_eq_ok] at h
  obtain ⟨_, -, _, -, _, hv, rfl⟩ := h
  refine ⟨hv, fun a => ?_⟩
  dsimp only
  -- `dst` is credited after `src` is debited, which matters when they are one address
  rcases eq_or_ne a dst with rfl | hd
  · rcases eq_or_ne a src with rfl | hs
    · simp only [update_self, if_true]
      omega
    · simp only [update_self, update_of_ne hs, if_neg hs, if_true, Nat.add_zero]
  · rcases eq_or_ne a src with rfl | hs
    · simp only [update_of_ne hd, update_self, if_true, if_neg hd]
      omega
    · simp only [update_of_ne hd, update_of_ne hs, if_neg hd, if_neg hs]

theorem transferFrom_balanceOf {spender src dst : Address} {value : ℕ}
    (h : transferFrom s spender src dst value = .ok s') :
    value ≤ s.balanceOf src ∧ ∀ a, s'.balanceOf a + (if a = src then value else 0) =
      s.balanceOf a + (if a = dst then value else 0) := by
  simp only [transferFrom, bind_eq_ok] at h
  obtain ⟨s₁, h₁, h₂⟩ := h
  rw [← spendAllowance_balanceOf h₁]
  exact transfer_balanceOf h₂

variable {t t' : Token}

theorem mint_eq_ok {account : Address} {value : ℕ} (h : mint t account value = .ok t') :
    t'.totalSupply = t.totalSupply + value ∧
      t'.balanceOf = update t.balanceOf account (t.balanceOf account + value) := by
  simp only [mint, bind_eq_ok, require_eq_ok, checkedAdd_eq_ok, pure_eq_ok] at h
  obtain ⟨_, -, _, ⟨-, rfl⟩, rfl⟩ := h
  exact ⟨rfl, rfl⟩

theorem burn_eq_ok {account : Address} {value : ℕ} (h : burn t account value = .ok t') :
    value ≤ t.balanceOf account ∧ t'.totalSupply = t.totalSupply - value ∧
      t'.balanceOf = update t.balanceOf account (t.balanceOf account - value) := by
  simp only [burn, bind_eq_ok, require_eq_ok, pure_eq_ok] at h
  obtain ⟨_, -, _, hv, rfl⟩ := h
  exact ⟨hv, rfl, rfl⟩

end Standard

/-- The standard ledger. -/
def standard : Ledger :=
  ⟨Standard.approve, Standard.spendAllowance, Standard.transfer, Standard.transferFrom,
    Standard.safeIncreaseAllowance, Standard.mint, Standard.burn⟩

theorem standard_laws : standard.Laws :=
  ⟨Standard.approve_balanceOf, Standard.spendAllowance_balanceOf,
    Standard.safeIncreaseAllowance_balanceOf, Standard.transfer_balanceOf,
    Standard.transferFrom_balanceOf, Standard.mint_eq_ok, Standard.burn_eq_ok⟩

end ERC20
