import IcmServices.Ictt.TokenHome

/-!
# What each entry point of the home does

One lemma per function of `TokenHome.lean`: from a successful call, the checks that passed and
the new state as an update of the old one. The state changes in four ways only: what the home
holds (`balance`), a remote's transferred balance credited (`prepareSend`,
`prepareMultiHopRouting`) or debited (`processReceivedTransfer`), and a remote's settings
written (`registerRemote`, `addCollateral`). The solvency proof uses these lemmas and never
unfolds an entry point.
-/

namespace Ictt

namespace TokenHome

open Solidity Function TokenScalingUtils

variable {s s' : State} {l : List Log}

theorem withdraw_eq_ok {recipient : Address} {amount : ℕ}
    (h : withdraw s recipient amount = .ok (s', l)) :
    amount ≤ s.balance ∧ s' = { s with balance := s.balance - amount } ∧
      l = [.tokensWithdrawn recipient amount] := by
  simp only [withdraw, bind_eq_ok, checkedSub_eq_ok, pure_eq_ok, Prod.mk.injEq] at h
  obtain ⟨_, ⟨h1, rfl⟩, rfl, rfl⟩ := h
  exact ⟨h1, rfl, rfl⟩

theorem handleSendAndCall_eq_ok {message : SingleHopCallMessage} {amount : ℕ} {success : Bool}
    (h : handleSendAndCall s message amount success = .ok (s', l)) :
    amount ≤ s.balance ∧ s' = { s with balance := s.balance - amount } := by
  simp only [handleSendAndCall, bind_eq_ok, checkedSub_eq_ok, pure_eq_ok, Prod.mk.injEq] at h
  obtain ⟨_, ⟨h1, rfl⟩, rfl, -⟩ := h
  exact ⟨h1, rfl⟩

/-- What a message fee takes out of the home's holdings: the fee, when it is paid in the home
token. -/
def feePaid (tokenAddress feeTokenAddress : Address) (fee : ℕ) : ℕ :=
  if feeTokenAddress = tokenAddress then fee else 0

theorem sendTeleporterMessage_eq_ok {destination : Remote} {feeTokenAddress : Address}
    {fee requiredGasLimit : ℕ} {message : TransferrerMessage}
    (h : sendTeleporterMessage s destination feeTokenAddress fee requiredGasLimit message =
      .ok (s', l)) :
    feePaid s.tokenAddress feeTokenAddress fee ≤ s.balance ∧
      s' = { s with balance := s.balance - feePaid s.tokenAddress feeTokenAddress fee } ∧
      l = [.sendTeleporterMessage destination feeTokenAddress fee requiredGasLimit message] := by
  unfold sendTeleporterMessage at h
  split at h
  · rename_i ht
    simp only [bind_eq_ok, checkedSub_eq_ok, pure_eq_ok, Prod.mk.injEq] at h
    obtain ⟨_, ⟨h1, rfl⟩, rfl, rfl⟩ := h
    rw [feePaid, if_pos ht]
    exact ⟨h1, rfl, rfl⟩
  · rename_i ht
    simp only [bind_eq_ok, pure_eq_ok, Prod.mk.injEq] at h
    obtain ⟨_, rfl, rfl, rfl⟩ := h
    rw [feePaid, if_neg ht]
    exact ⟨Nat.zero_le _, rfl, rfl⟩

theorem deductSenderBalance_eq_ok {remote : Remote} {amount : ℕ}
    (h : deductSenderBalance s remote amount = .ok s') :
    amount ≤ s.transferredBalances remote ∧
      s' = { s with
        transferredBalances := update s.transferredBalances remote
          (s.transferredBalances remote - amount) } := by
  simp only [deductSenderBalance, bind_eq_ok, require_eq_ok, pure_eq_ok] at h
  obtain ⟨_, h1, rfl⟩ := h
  exact ⟨h1, rfl⟩

/-- A received transfer debits its registered, collateralized source and pays out the home value
of the amount. -/
theorem processReceivedTransfer_eq_ok {remote : Remote} {amount homeAmount : ℕ}
    (h : processReceivedTransfer s remote amount = .ok (s', homeAmount)) :
    (s.registeredRemotes remote).registered = true ∧
      (s.registeredRemotes remote).collateralNeeded = 0 ∧
      amount ≤ s.transferredBalances remote ∧ 0 < homeAmount ∧
      homeAmount = homeValue (s.registeredRemotes remote).tokenMultiplier
        (s.registeredRemotes remote).multiplyOnRemote amount ∧
      s' = { s with
        transferredBalances := update s.transferredBalances remote
          (s.transferredBalances remote - amount) } := by
  simp only [processReceivedTransfer, bind_eq_ok, require_eq_ok, pure_eq_ok,
    Prod.mk.injEq] at h
  obtain ⟨_, h1, _, h2, s₁, hd, x, hx, _, h3, rfl, rfl⟩ := h
  obtain ⟨h4, rfl⟩ := deductSenderBalance_eq_ok hd
  exact ⟨h1, h2, h4, h3, removeTokenScale_eq_ok hx, rfl⟩

theorem processMultiHopTransfer_eq_ok {remote : Remote} {amount secondaryFee homeAmount fee : ℕ}
    (h : processMultiHopTransfer s remote amount secondaryFee = .ok (s', homeAmount, fee)) :
    processReceivedTransfer s remote amount = .ok (s', homeAmount) ∧
      fee = homeValue (s.registeredRemotes remote).tokenMultiplier
        (s.registeredRemotes remote).multiplyOnRemote secondaryFee := by
  simp only [processMultiHopTransfer, bind_eq_ok, pure_eq_ok, Prod.mk.injEq] at h
  obtain ⟨⟨s₁, h₁⟩, hp, f, hf, rfl, rfl, rfl⟩ := h
  exact ⟨hp, removeTokenScale_eq_ok hf⟩

theorem receiveFee_eq (s : State) (feeTokenAddress : Address) (feeReceived : ℕ) :
    receiveFee s feeTokenAddress feeReceived =
      { s with balance := s.balance + feePaid s.tokenAddress feeTokenAddress feeReceived } := by
  unfold receiveFee feePaid
  split
  · rfl
  · rfl

/-- A send locks what arrived (and the fee, in the home token) and credits the registered,
collateralized remote with the scaled amount. -/
theorem prepareSend_eq_ok {remote : Remote} {deposited feeAmount feeReceived scaled fee : ℕ}
    {primaryFeeTokenAddress : Address}
    (h : prepareSend s remote deposited primaryFeeTokenAddress feeAmount feeReceived =
      .ok (s', scaled, fee)) :
    (s.registeredRemotes remote).registered = true ∧
      (s.registeredRemotes remote).collateralNeeded = 0 ∧ 0 < scaled ∧
      scaled = remoteValue (s.registeredRemotes remote).tokenMultiplier
        (s.registeredRemotes remote).multiplyOnRemote deposited ∧
      s' = { s with
        balance := s.balance + deposited + feePaid s.tokenAddress primaryFeeTokenAddress fee
        transferredBalances := update s.transferredBalances remote
          (s.transferredBalances remote + scaled) } := by
  simp only [prepareSend, bind_eq_ok, require_eq_ok, checkedAdd_eq_ok, pure_eq_ok,
    Prod.mk.injEq] at h
  obtain ⟨_, h1, _, h2, x, hx, _, h3, b, ⟨-, rfl⟩, rfl, rfl, hf⟩ := h
  refine ⟨h1, h2, h3, applyTokenScale_eq_ok hx, ?_⟩
  -- the fee, if any, was pulled before the credit; without one the fee is zero
  by_cases hpos : feeAmount > 0
  · simp only [hpos, if_true] at hf ⊢
    subst hf
    rw [receiveFee_eq]
    rfl
  · simp only [hpos, if_false] at hf ⊢
    subst hf
    obtain rfl : feeAmount = 0 := by omega
    simp only [feePaid, ite_self, Nat.add_zero]
    rfl

theorem prepareMultiHopRouting_eq_ok {remote : Remote} {amount fee adjusted : ℕ}
    (h : prepareMultiHopRouting s remote amount fee = .ok (s', adjusted)) :
    adjusted = 0 ∧ s' = s ∨
      (s.registeredRemotes remote).registered = true ∧
      (s.registeredRemotes remote).collateralNeeded = 0 ∧ fee < amount ∧ 0 < adjusted ∧
      adjusted = remoteValue (s.registeredRemotes remote).tokenMultiplier
        (s.registeredRemotes remote).multiplyOnRemote (amount - fee) ∧
      s' = { s with
        transferredBalances := update s.transferredBalances remote
          (s.transferredBalances remote + adjusted) } := by
  simp only [prepareMultiHopRouting] at h
  split at h
  · obtain ⟨rfl, rfl⟩ := Prod.mk.inj (pure_eq_ok.1 h)
    exact .inl ⟨rfl, rfl⟩
  · rename_i hr
    simp only [bind_eq_ok, require_eq_ok] at h
    obtain ⟨_, hf, x, hx, h⟩ := h
    split at h
    · obtain ⟨rfl, rfl⟩ := Prod.mk.inj (pure_eq_ok.1 h)
      exact .inl ⟨rfl, rfl⟩
    · rename_i hx0
      simp only [bind_eq_ok, checkedAdd_eq_ok, pure_eq_ok, Prod.mk.injEq] at h
      obtain ⟨_, ⟨-, rfl⟩, rfl, rfl⟩ := h
      obtain ⟨hr1, hr2⟩ : (s.registeredRemotes remote).registered = true ∧
          (s.registeredRemotes remote).collateralNeeded = 0 := by simpa using hr
      exact .inr ⟨hr1, hr2, hf, Nat.pos_of_ne_zero hx0, applyTokenScale_eq_ok hx, rfl⟩

/-- A registration writes registered settings for an unregistered remote, with the multiplier
derived from the two decimals. -/
theorem registerRemote_eq_ok {remote : Remote} {message : RegisterRemoteMessage}
    (h : registerRemote s remote message = .ok (s', l)) :
    (s.registeredRemotes remote).registered = false ∧
      ∃ settings : RemoteTokenTransferrerSettings, settings.registered = true ∧
        deriveTokenMultiplierValues s.tokenDecimals message.remoteTokenDecimals =
          .ok (settings.tokenMultiplier, settings.multiplyOnRemote) ∧
        s' = { s with registeredRemotes := update s.registeredRemotes remote settings } ∧
        l = [.remoteRegistered remote settings.collateralNeeded message.remoteTokenDecimals] := by
  simp only [registerRemote, bind_eq_ok, require_eq_ok] at h
  obtain ⟨_, -, _, -, _, -, _, hr, _, -, _, -, ⟨m, b⟩, hd, c, -, h⟩ := h
  -- rounded up or not, the settings are written
  split at h
  · simp only [bind_eq_ok, checkedAdd_eq_ok, pure_eq_ok, Prod.mk.injEq] at h
    obtain ⟨c', -, rfl, rfl⟩ := h
    exact ⟨hr, ⟨true, c', m, b⟩, rfl, hd, rfl, rfl⟩
  · simp only [bind_eq_ok, pure_eq_ok, Prod.mk.injEq] at h
    obtain ⟨c', -, rfl, rfl⟩ := h
    exact ⟨hr, ⟨true, c', m, b⟩, rfl, hd, rfl, rfl⟩

/-- Collateral is locked up to what is still needed; the excess goes back to the sender. -/
theorem addCollateral_eq_ok {sender : Address} {remote : Remote} {deposited : ℕ}
    (h : addCollateral s sender remote deposited = .ok (s', l)) :
    (s.registeredRemotes remote).registered = true ∧
      ∃ excess remaining, excess ≤ deposited ∧
        remaining + (deposited - excess) = (s.registeredRemotes remote).collateralNeeded ∧
        s' = { s with
          balance := s.balance + deposited - excess
          registeredRemotes := update s.registeredRemotes remote
            { s.registeredRemotes remote with collateralNeeded := remaining } } := by
  simp only [addCollateral, bind_eq_ok, require_eq_ok] at h
  obtain ⟨_, h1, _, h2, h⟩ := h
  refine ⟨h1, ?_⟩
  by_cases hc : deposited ≥ (s.registeredRemotes remote).collateralNeeded
  · simp only [hc, if_true] at h
    split at h
    · simp only [bind_eq_ok, pure_eq_ok, Prod.mk.injEq] at h
      obtain ⟨⟨s₁, l₁⟩, hw, rfl, rfl⟩ := h
      obtain ⟨-, rfl, rfl⟩ := withdraw_eq_ok hw
      exact ⟨_, 0, Nat.sub_le _ _, by omega, rfl⟩
    · obtain ⟨rfl, rfl⟩ := Prod.mk.inj (pure_eq_ok.1 h)
      exact ⟨0, 0, Nat.zero_le _, by omega, rfl⟩
  · simp only [hc, if_false, gt_iff_lt, lt_self_iff_false] at h
    obtain ⟨rfl, rfl⟩ := Prod.mk.inj (pure_eq_ok.1 h)
    exact ⟨0, _, Nat.zero_le _, by omega, rfl⟩

/-! ## The entry points, as their parts -/

theorem send_eq_ok {sender : Address} {input : SendTokensInput} {deposited feeReceived : ℕ}
    (h : send s sender input deposited feeReceived = .ok (s', l)) :
    input.recipient ≠ 0 ∧ 0 < input.requiredGasLimit ∧
      ∃ s₁ scaled fee l₁,
        prepareSend s (input.destinationBlockchainID, input.destinationTokenTransferrerAddress)
          deposited input.primaryFeeTokenAddress input.primaryFee feeReceived = .ok (s₁, scaled, fee) ∧
        sendTeleporterMessage s₁ (input.destinationBlockchainID,
          input.destinationTokenTransferrerAddress) input.primaryFeeTokenAddress fee
          input.requiredGasLimit (.singleHopSend ⟨input.recipient, scaled⟩) = .ok (s', l₁) ∧
        l = l₁ ++ [.tokensSent sender input scaled] := by
  simp only [send, validateSendTokensInput, bind_eq_ok, require_eq_ok, pure_eq_ok,
    Prod.mk.injEq] at h
  obtain ⟨_, ⟨_, h1, _, h2, -⟩, _, -, ⟨s₁, scaled, fee⟩, hp, ⟨s₂, l₁⟩, hs, rfl, rfl⟩ := h
  exact ⟨h1, h2, s₁, scaled, fee, l₁, hp, hs, rfl⟩

theorem sendAndCall_eq_ok {sourceBlockchainID : Bytes32}
    {originTokenTransferrerAddress originSenderAddress : Address} {input : SendAndCallInput}
    {deposited feeReceived : ℕ}
    (h : sendAndCall s sourceBlockchainID originTokenTransferrerAddress originSenderAddress input
      deposited feeReceived = .ok (s', l)) :
    ∃ s₁ scaled fee l₁,
      prepareSend s (input.destinationBlockchainID, input.destinationTokenTransferrerAddress)
        deposited input.primaryFeeTokenAddress input.primaryFee feeReceived = .ok (s₁, scaled, fee) ∧
      sendTeleporterMessage s₁ (input.destinationBlockchainID,
        input.destinationTokenTransferrerAddress) input.primaryFeeTokenAddress fee
        input.requiredGasLimit (.singleHopCall ⟨sourceBlockchainID, originTokenTransferrerAddress,
          originSenderAddress, input.recipientContract, scaled, input.recipientPayload,
          input.recipientGasLimit, input.fallbackRecipient⟩) = .ok (s', l₁) ∧
      l = l₁ ++ [.tokensAndCallSent originSenderAddress input scaled] := by
  simp only [sendAndCall, bind_eq_ok, require_eq_ok, pure_eq_ok, Prod.mk.injEq] at h
  obtain ⟨_, -, _, -, ⟨s₁, scaled, fee⟩, hp, ⟨s₂, l₁⟩, hs, rfl, rfl⟩ := h
  exact ⟨s₁, scaled, fee, l₁, hp, hs, rfl⟩

theorem routeMultiHop_eq_ok {input : SendTokensInput} {amount : ℕ}
    (h : routeMultiHop s input amount = .ok (s', l)) :
    ∃ s₁ adjusted, prepareMultiHopRouting s (input.destinationBlockchainID,
        input.destinationTokenTransferrerAddress) amount input.primaryFee = .ok (s₁, adjusted) ∧
      (adjusted = 0 ∧ withdraw s₁ input.multiHopFallback amount = .ok (s', l) ∨
        adjusted ≠ 0 ∧ ∃ l₁, sendTeleporterMessage s₁ (input.destinationBlockchainID,
          input.destinationTokenTransferrerAddress) input.primaryFeeTokenAddress input.primaryFee
          input.requiredGasLimit (.singleHopSend ⟨input.recipient, adjusted⟩) = .ok (s', l₁) ∧
        l = l₁ ++ [.tokensRouted input adjusted]) := by
  simp only [routeMultiHop, bind_eq_ok] at h
  obtain ⟨_, -, ⟨s₁, adjusted⟩, hp, h⟩ := h
  refine ⟨s₁, adjusted, hp, ?_⟩
  split at h
  · exact .inl ⟨‹_›, h⟩
  · simp only [bind_eq_ok, pure_eq_ok, Prod.mk.injEq] at h
    obtain ⟨⟨s₂, l₁⟩, hs, rfl, rfl⟩ := h
    exact .inr ⟨‹_›, l₁, hs, rfl⟩

theorem routeMultiHopSendAndCall_eq_ok {sourceBlockchainID : Bytes32}
    {originTokenTransferrerAddress originSenderAddress : Address} {input : SendAndCallInput}
    {amount : ℕ}
    (h : routeMultiHopSendAndCall s sourceBlockchainID originTokenTransferrerAddress
      originSenderAddress input amount = .ok (s', l)) :
    ∃ s₁ adjusted, prepareMultiHopRouting s (input.destinationBlockchainID,
        input.destinationTokenTransferrerAddress) amount input.primaryFee = .ok (s₁, adjusted) ∧
      (adjusted = 0 ∧ withdraw s₁ input.multiHopFallback amount = .ok (s', l) ∨
        adjusted ≠ 0 ∧ ∃ l₁, sendTeleporterMessage s₁ (input.destinationBlockchainID,
          input.destinationTokenTransferrerAddress) input.primaryFeeTokenAddress input.primaryFee
          input.requiredGasLimit (.singleHopCall ⟨sourceBlockchainID,
            originTokenTransferrerAddress, originSenderAddress, input.recipientContract, adjusted,
            input.recipientPayload, input.recipientGasLimit, input.fallbackRecipient⟩) =
          .ok (s', l₁) ∧
        l = l₁ ++ [.tokensAndCallRouted input adjusted]) := by
  simp only [routeMultiHopSendAndCall, bind_eq_ok] at h
  obtain ⟨_, -, ⟨s₁, adjusted⟩, hp, h⟩ := h
  refine ⟨s₁, adjusted, hp, ?_⟩
  split at h
  · exact .inl ⟨‹_›, h⟩
  · simp only [bind_eq_ok, pure_eq_ok, Prod.mk.injEq] at h
    obtain ⟨⟨s₂, l₁⟩, hs, rfl, rfl⟩ := h
    exact .inr ⟨‹_›, l₁, hs, rfl⟩

/-! ## Deliveries, one lemma per message type -/

section
variable {sourceBlockchainID : Bytes32} {originSenderAddress : Address} {success : Bool}

theorem receive_singleHopSend_eq_ok {payload : SingleHopSendMessage}
    (h : receiveTeleporterMessage s sourceBlockchainID originSenderAddress (.singleHopSend payload)
      success = .ok (s', l)) :
    ∃ s₁ homeAmount, processReceivedTransfer s (sourceBlockchainID, originSenderAddress)
        payload.amount = .ok (s₁, homeAmount) ∧
      withdraw s₁ payload.recipient homeAmount = .ok (s', l) := by
  simp only [receiveTeleporterMessage, bind_eq_ok] at h
  obtain ⟨⟨s₁, homeAmount⟩, hp, hw⟩ := h
  exact ⟨s₁, homeAmount, hp, hw⟩

theorem receive_singleHopCall_eq_ok {payload : SingleHopCallMessage}
    (h : receiveTeleporterMessage s sourceBlockchainID originSenderAddress (.singleHopCall payload)
      success = .ok (s', l)) :
    ∃ s₁ homeAmount, processReceivedTransfer s (sourceBlockchainID, originSenderAddress)
        payload.amount = .ok (s₁, homeAmount) ∧
      payload.sourceBlockchainID = sourceBlockchainID ∧
      payload.originTokenTransferrerAddress = originSenderAddress ∧
      handleSendAndCall s₁ payload homeAmount success = .ok (s', l) := by
  simp only [receiveTeleporterMessage, bind_eq_ok, require_eq_ok] at h
  obtain ⟨⟨s₁, homeAmount⟩, hp, _, h1, _, h2, hc⟩ := h
  exact ⟨s₁, homeAmount, hp, h1, h2, hc⟩

theorem receive_multiHopSend_eq_ok {payload : MultiHopSendMessage}
    (h : receiveTeleporterMessage s sourceBlockchainID originSenderAddress (.multiHopSend payload)
      success = .ok (s', l)) :
    ∃ s₁ homeAmount fee, processMultiHopTransfer s (sourceBlockchainID, originSenderAddress)
        payload.amount payload.secondaryFee = .ok (s₁, homeAmount, fee) ∧
      routeMultiHop s₁ ⟨payload.destinationBlockchainID,
        payload.destinationTokenTransferrerAddress, payload.recipient, s₁.tokenAddress, fee, 0,
        payload.secondaryGasLimit, payload.multiHopFallback⟩ homeAmount = .ok (s', l) := by
  simp only [receiveTeleporterMessage, bind_eq_ok] at h
  obtain ⟨⟨s₁, homeAmount, fee⟩, hp, hr⟩ := h
  exact ⟨s₁, homeAmount, fee, hp, hr⟩

theorem receive_multiHopCall_eq_ok {payload : MultiHopCallMessage}
    (h : receiveTeleporterMessage s sourceBlockchainID originSenderAddress (.multiHopCall payload)
      success = .ok (s', l)) :
    ∃ s₁ homeAmount fee, processMultiHopTransfer s (sourceBlockchainID, originSenderAddress)
        payload.amount payload.secondaryFee = .ok (s₁, homeAmount, fee) ∧
      routeMultiHopSendAndCall s₁ sourceBlockchainID originSenderAddress
        payload.originSenderAddress ⟨payload.destinationBlockchainID,
          payload.destinationTokenTransferrerAddress, payload.recipientContract,
          payload.recipientPayload, payload.secondaryRequiredGasLimit, payload.recipientGasLimit,
          payload.multiHopFallback, payload.fallbackRecipient, s₁.tokenAddress, fee, 0⟩
        homeAmount = .ok (s', l) := by
  simp only [receiveTeleporterMessage, bind_eq_ok] at h
  obtain ⟨⟨s₁, homeAmount, fee⟩, hp, hr⟩ := h
  exact ⟨s₁, homeAmount, fee, hp, hr⟩

theorem receive_registerRemote_eq_ok {payload : RegisterRemoteMessage}
    (h : receiveTeleporterMessage s sourceBlockchainID originSenderAddress (.registerRemote payload)
      success = .ok (s', l)) :
    registerRemote s (sourceBlockchainID, originSenderAddress) payload = .ok (s', l) := h

/-- A delivery passes `_deductSenderBalance`: it carries at most the books of its source. -/
theorem receiveTeleporterMessage_amount_le {message : TransferrerMessage}
    (h : receiveTeleporterMessage s sourceBlockchainID originSenderAddress message success =
      .ok (s', l)) :
    message.amount ≤ s.transferredBalances (sourceBlockchainID, originSenderAddress) := by
  cases message with
  | singleHopSend payload =>
    obtain ⟨s₁, a, hp, -⟩ := receive_singleHopSend_eq_ok h
    exact (processReceivedTransfer_eq_ok hp).2.2.1
  | singleHopCall payload =>
    obtain ⟨s₁, a, hp, -⟩ := receive_singleHopCall_eq_ok h
    exact (processReceivedTransfer_eq_ok hp).2.2.1
  | multiHopSend payload =>
    obtain ⟨s₁, a, f, hp, -⟩ := receive_multiHopSend_eq_ok h
    exact (processReceivedTransfer_eq_ok (processMultiHopTransfer_eq_ok hp).1).2.2.1
  | multiHopCall payload =>
    obtain ⟨s₁, a, f, hp, -⟩ := receive_multiHopCall_eq_ok h
    exact (processReceivedTransfer_eq_ok (processMultiHopTransfer_eq_ok hp).1).2.2.1
  | registerRemote payload => exact Nat.zero_le _

end

end TokenHome

end Ictt
