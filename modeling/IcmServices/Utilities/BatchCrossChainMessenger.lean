import IcmServices.Teleporter.Spec
import IcmServices.Lib.ERC20

/-!
# `BatchCrossChainMessenger.sendMessages`

`sendMessages` takes one fee from its caller and sends one Teleporter message per string. Each
message goes through `TeleporterRegistryApp._sendTeleporterMessage`, which raises the
messenger's allowance by the message's fee, and the messenger then pulls that fee from the app.
The fee tokens are ERC-20 ledgers (`ERC20.State`), one per token address, kept by the operations
of `erc20`, and the messenger is the registry's latest, unpaused version: the one of `ctx`.

Every message carries the whole adjusted fee of the call. With `k` messages the messenger pulls
`k` times the fee that came in (`sendEach_tokens`, `sendMessages_tokens`): the
app pays the other `k - 1` fees out of what it holds, and reverts when it holds too little.
-/

namespace SafeERC20TransferFrom

open Solidity

/-- `safeTransferFrom(erc20, from, amount)` in the contract at `self`: `self`'s balance increase
from `from`'s transfer. -/
def safeTransferFrom (erc20 : ERC20.Ledger) (self : Address) (token : ERC20.State) (src : Address)
    (amount : ℕ) : Except String (ERC20.State × ℕ) := do
  let balanceBefore := token.balanceOf self
  let token ← erc20.transferFrom token self src self amount
  let balanceAfter := token.balanceOf self
  require (balanceAfter > balanceBefore) "SafeERC20TransferFrom: balance not increased"
  pure (token, balanceAfter - balanceBefore)

/-- On a lawful ledger the increase is the amount moved, and nothing else moves. -/
theorem safeTransferFrom_eq_ok {erc20 : ERC20.Ledger} (hL : erc20.Laws) {self src : Address}
    {token token' : ERC20.State} {amount received : ℕ} (hne : src ≠ self)
    (h : safeTransferFrom erc20 self token src amount = .ok (token', received)) :
    received = amount ∧ amount ≤ token.balanceOf src ∧
      ∀ a, token'.balanceOf a + (if a = src then amount else 0) =
        token.balanceOf a + (if a = self then amount else 0) := by
  simp only [safeTransferFrom, bind_eq_ok, require_eq_ok, pure_eq_ok, Prod.mk.injEq] at h
  obtain ⟨t, ht, _, -, rfl, rfl⟩ := h
  obtain ⟨hle, hb⟩ := hL.transferFrom_balanceOf ht
  have hself := hb self
  rw [if_neg (Ne.symm hne), if_pos rfl] at hself
  exact ⟨by omega, hle, hb⟩

end SafeERC20TransferFrom

namespace BatchCrossChainMessenger

open Solidity Function Teleporter

/-- What `sendMessages` acts on: the token ledgers, by token address, and the messenger. -/
structure World (B : Type) where
  tokens : Address → ERC20.State
  messenger : Teleporter.State B

/-- The `SendMessages` event and what the messenger logs. -/
inductive Log (B : Type)
  | sendMessages (destinationBlockchainID : B) (destinationAddress feeTokenAddress : Address)
      (feeAmount requiredGasLimit : ℕ) (messages : List Bytes)
  | messenger (event : Teleporter.Log B)

variable {B : Type} [DecidableEq B] [Zero B]

section
variable (erc20 : ERC20.Ledger) (ctx : Context B) (self : Address)

/-- `TeleporterRegistryApp._sendTeleporterMessage` of the app at `self`, through the messenger
at `ctx.self`. The messenger's pull of the fee (its `SafeERC20TransferFrom.safeTransferFrom`
from the app) runs on the token, and what it credits is the messenger's `received`. -/
def sendTeleporterMessage (w : World B) (messageInput : TeleporterMessageInput B) :
    Except String (World B × List (Teleporter.Log B)) := do
  let feeInfo := messageInput.feeInfo
  -- For non-zero fee amounts increase the Teleporter contract's allowance.
  let w ← if feeInfo.amount > 0 then do
      require (feeInfo.feeTokenAddress ≠ 0) "TeleporterRegistryApp: zero fee token address"
      let token ← erc20.safeIncreaseAllowance (w.tokens feeInfo.feeTokenAddress) self ctx.self
        feeInfo.amount
      pure { w with tokens := update w.tokens feeInfo.feeTokenAddress token }
    else pure w
  let (w, received) ← if feeInfo.amount > 0 then do
      let (token, received) ← SafeERC20TransferFrom.safeTransferFrom erc20 ctx.self
        (w.tokens feeInfo.feeTokenAddress) self feeInfo.amount
      pure ({ w with tokens := update w.tokens feeInfo.feeTokenAddress token }, received)
    else pure (w, 0)
  let (messenger, l) ← Teleporter.sendCrossChainMessage ctx w.messenger self messageInput received
  pure ({ w with messenger }, l)

/-- The loop of `sendMessages`: one message per string, each with the fee info of the call. -/
def sendEach (messageInput : TeleporterMessageInput B) :
    World B → List Bytes → Except String (World B × List (Log B))
  | w, [] => pure (w, [])
  | w, message :: messages => do
    let (w, l₁) ← sendTeleporterMessage erc20 ctx self w { messageInput with message }
    let (w, l₂) ← sendEach messageInput w messages
    pure (w, l₁.map .messenger ++ l₂)

/-- `sendMessages` of the app at `self`, called by `caller`; the strings are given encoded. -/
def sendMessages (w : World B) (caller : Address) (destinationBlockchainID : B)
    (destinationAddress feeTokenAddress : Address) (feeAmount requiredGasLimit : ℕ)
    (messages : List Bytes) : Except String (World B × List (Log B)) := do
  -- For non-zero fee amounts, first transfer the fee to this contract.
  let (w, adjustedFeeAmount) ← if feeAmount > 0 then do
      let (token, adjusted) ← SafeERC20TransferFrom.safeTransferFrom erc20 self
        (w.tokens feeTokenAddress) caller feeAmount
      pure ({ w with tokens := update w.tokens feeTokenAddress token }, adjusted)
    else pure (w, 0)
  let e := Log.sendMessages destinationBlockchainID destinationAddress feeTokenAddress
    adjustedFeeAmount requiredGasLimit messages
  let (w, l) ← sendEach erc20 ctx self ⟨destinationBlockchainID, destinationAddress,
    ⟨feeTokenAddress, adjustedFeeAmount⟩, requiredGasLimit, [], []⟩ w messages
  pure (w, e :: l)

end

/-! ## Where the fee tokens go -/

section
variable {erc20 : ERC20.Ledger} (hL : erc20.Laws) {ctx : Context B} {self : Address}
include hL

/-- One message: the app holds its fee, the messenger pulls it, and no other ledger moves. -/
theorem sendTeleporterMessage_tokens {w w' : World B} {messageInput : TeleporterMessageInput B}
    {l : List (Teleporter.Log B)} (hne : self ≠ ctx.self)
    (h : sendTeleporterMessage erc20 ctx self w messageInput = .ok (w', l)) :
    messageInput.feeInfo.amount ≤ (w.tokens messageInput.feeInfo.feeTokenAddress).balanceOf self ∧
      ∀ a, (w'.tokens messageInput.feeInfo.feeTokenAddress).balanceOf a +
          (if a = self then messageInput.feeInfo.amount else 0) =
        (w.tokens messageInput.feeInfo.feeTokenAddress).balanceOf a +
          (if a = ctx.self then messageInput.feeInfo.amount else 0) := by
  by_cases hf : messageInput.feeInfo.amount > 0
  · -- the allowance is raised, then the messenger pulls the fee
    simp only [sendTeleporterMessage, hf, if_true, bind_eq_ok, require_eq_ok, pure_eq_ok,
      Prod.mk.injEq] at h
    obtain ⟨_, -, token₁, ht₁, _, rfl, ⟨token₂, r⟩, ht₂, _, rfl, ⟨messenger, l'⟩, -, rfl, -⟩ := h
    have hb₁ := hL.safeIncreaseAllowance_balanceOf ht₁
    obtain ⟨-, hle, hb₂⟩ := SafeERC20TransferFrom.safeTransferFrom_eq_ok hL hne ht₂
    simp only [update_self] at hle hb₂ ⊢
    rw [hb₁] at hle hb₂
    exact ⟨hle, hb₂⟩
  · -- no fee: no ledger moves
    have h0 : messageInput.feeInfo.amount = 0 := by omega
    simp only [sendTeleporterMessage, hf, if_false, bind_eq_ok, pure_eq_ok, Prod.mk.injEq] at h
    obtain ⟨_, rfl, _, rfl, ⟨messenger, l'⟩, -, rfl, -⟩ := h
    refine ⟨by omega, fun a => ?_⟩
    simp only [h0, ite_self]

/-- Over `k` messages of one fee, the messenger pulls `k` fees out of the app. -/
theorem sendEach_tokens {messageInput : TeleporterMessageInput B} (hne : self ≠ ctx.self) :
    ∀ {w w' : World B} {messages : List Bytes} {l : List (Log B)},
      sendEach erc20 ctx self messageInput w messages = .ok (w', l) →
      messages.length * messageInput.feeInfo.amount ≤
          (w.tokens messageInput.feeInfo.feeTokenAddress).balanceOf self ∧
        ∀ a, (w'.tokens messageInput.feeInfo.feeTokenAddress).balanceOf a +
            (if a = self then messages.length * messageInput.feeInfo.amount else 0) =
          (w.tokens messageInput.feeInfo.feeTokenAddress).balanceOf a +
            (if a = ctx.self then messages.length * messageInput.feeInfo.amount else 0)
  | w, w', [], l, h => by
    obtain ⟨rfl, -⟩ := Prod.mk.inj (pure_eq_ok.1 h)
    simp
  | w, w', message :: messages, l, h => by
    simp only [sendEach, bind_eq_ok, pure_eq_ok, Prod.mk.injEq] at h
    obtain ⟨⟨w₁, l₁⟩, h₁, ⟨w₂, l₂⟩, h₂, rfl, -⟩ := h
    obtain ⟨hle₁, hb₁⟩ := sendTeleporterMessage_tokens hL hne h₁
    obtain ⟨hle₂, hb₂⟩ := sendEach_tokens hne h₂
    -- the message's input has the call's fee info
    dsimp only at hle₁ hb₁ hle₂ hb₂ ⊢
    have hself := hb₁ self
    rw [if_pos rfl, if_neg hne] at hself
    refine ⟨?_, fun a => ?_⟩
    · rw [List.length_cons, Nat.succ_mul]
      omega
    · have h₁a := hb₁ a
      have h₂a := hb₂ a
      rw [List.length_cons, Nat.succ_mul]
      split_ifs at h₁a h₂a ⊢ <;> omega

/-- The ledger of the fee token after `sendMessages`: the caller pays the fee once, the app
holds it and pays `k` fees, and the messenger receives them. -/
theorem sendMessages_tokens {w w' : World B} {l : List (Log B)} {caller : Address}
    {destinationBlockchainID : B} {destinationAddress feeTokenAddress : Address}
    {feeAmount requiredGasLimit : ℕ} {messages : List Bytes} (hf : 0 < feeAmount)
    (hcs : caller ≠ self) (hst : self ≠ ctx.self)
    (h : sendMessages erc20 ctx self w caller destinationBlockchainID destinationAddress
      feeTokenAddress feeAmount requiredGasLimit messages = .ok (w', l)) :
    messages.length * feeAmount ≤ (w.tokens feeTokenAddress).balanceOf self + feeAmount ∧
      ∀ a, (w'.tokens feeTokenAddress).balanceOf a +
          (if a = caller then feeAmount else 0) + (if a = self then messages.length * feeAmount else 0) =
        (w.tokens feeTokenAddress).balanceOf a +
          (if a = self then feeAmount else 0) +
          (if a = ctx.self then messages.length * feeAmount else 0) := by
  simp only [sendMessages, gt_iff_lt, hf, if_true, bind_eq_ok, pure_eq_ok, Prod.mk.injEq] at h
  obtain ⟨⟨token, r⟩, ht, _, rfl, ⟨w₂, l₂⟩, h₂, rfl, -⟩ := h
  obtain ⟨rfl, -, hb₁⟩ := SafeERC20TransferFrom.safeTransferFrom_eq_ok hL hcs ht
  obtain ⟨hle₂, hb₂⟩ := sendEach_tokens hL hst h₂
  simp only [update_self] at hle₂ hb₂ ⊢
  have hself := hb₁ self
  rw [if_pos rfl, if_neg (Ne.symm hcs)] at hself
  refine ⟨by omega, fun a => ?_⟩
  have h₁a := hb₁ a
  have h₂a := hb₂ a
  split_ifs at h₁a h₂a ⊢ <;> omega

end

/-! ## The fee is pulled once per message -/

theorem sendMessages_pulls_fee_per_message {erc20 : ERC20.Ledger} (hL : erc20.Laws)
    (ctx : Context B) (self : Address) {w w' : World B}
    {l : List (Log B)} {caller : Address} {destinationBlockchainID : B}
    {destinationAddress feeTokenAddress : Address} {feeAmount requiredGasLimit : ℕ}
    {messages : List Bytes} (hf : 0 < feeAmount) (hcs : caller ≠ self) (hst : self ≠ ctx.self)
    (hct : caller ≠ ctx.self)
    (h : sendMessages erc20 ctx self w caller destinationBlockchainID destinationAddress
      feeTokenAddress feeAmount requiredGasLimit messages = .ok (w', l)) :
    (w'.tokens feeTokenAddress).balanceOf ctx.self =
        (w.tokens feeTokenAddress).balanceOf ctx.self + messages.length * feeAmount ∧
      (w'.tokens feeTokenAddress).balanceOf self + messages.length * feeAmount =
        (w.tokens feeTokenAddress).balanceOf self + feeAmount ∧
      (w'.tokens feeTokenAddress).balanceOf caller + feeAmount =
        (w.tokens feeTokenAddress).balanceOf caller := by
  obtain ⟨-, hb⟩ := sendMessages_tokens hL hf hcs hst h
  have hT := hb ctx.self
  have hS := hb self
  have hC := hb caller
  simp only [Ne.symm hct, Ne.symm hst, if_true, if_false] at hT
  simp only [Ne.symm hcs, hst, if_true, if_false] at hS
  simp only [hcs, hct, if_true, if_false] at hC
  omega

theorem sendMessages_pulls_fee_per_message_two :
    ERC20.standard.Laws ∧ ∃ w' l, sendMessages ERC20.standard (idealContext 1 7) 2
        ⟨fun _ => ⟨fun a => if a = 3 then 1 else if a = 2 then 5 else 0,
          fun o sp => if o = 3 ∧ sp = 2 then 1 else 0⟩, State.init⟩
        3 9 5 4 1 100 [[1], [2]] = .ok (w', l) ∧
      (w'.tokens 4).balanceOf 1 = 2 ∧ (w'.tokens 4).balanceOf 2 = 4 := by
  -- the caller at 3 pays a fee of 1 for two messages; the app at 2 holds 5 of its own
  obtain ⟨w', l, h⟩ : ∃ w' l, sendMessages ERC20.standard (idealContext 1 7) 2
      ⟨fun _ => ⟨fun a => if a = 3 then 1 else if a = 2 then 5 else 0,
        fun o sp => if o = 3 ∧ sp = 2 then 1 else 0⟩, State.init⟩
      3 9 5 4 1 100 [[1], [2]] = .ok (w', l) := ⟨_, _, rfl⟩
  obtain ⟨hT, hS, -⟩ := sendMessages_pulls_fee_per_message ERC20.standard_laws (idealContext 1 7) 2
    (by decide) (by decide) (by decide) (by decide) h
  refine ⟨ERC20.standard_laws, w', l, h, ?_, ?_⟩
  · simpa [idealContext] using hT
  · simp at hS
    omega


end BatchCrossChainMessenger
