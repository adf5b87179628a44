import IcmServices.Ictt.RemoteStep

/-!
# What a call does to a native remote's coins, exactly

`Moves.minted` bounds a native remote's coins by what the call sent to
`BURNED_FOR_TRANSFER_ADDRESS`, since a recipient or a withdrawal may send coins there too. The
balance of the home against the remote (`Ictt.Network`) needs the exact count: the coins minted,
less the burned fees reported, move by the inflow less the outflow, plus what `_burn` itself sent
to `BURNED_FOR_TRANSFER_ADDRESS` for the transfer (`burned`). `Mints` says so, one lemma per
function gives it as `Moves` does, and `step_mints` gives it for every call, with `Call.burned`
the amount of a send.
-/

namespace Ictt

namespace TokenRemote

open Solidity Function TokenScalingUtils

/-- What a call burns for a transfer: the amount of a send, which `_burn` takes. -/
def Call.burned : Call → ℕ
  | .send _ _ amount _ => amount
  | .sendAndCall _ _ amount _ => amount
  | _ => 0

/-- A call from `s` to `s'` that took in `inflow`, sent out `outflow` and burned `burned` for
transfers (see the module doc). -/
structure Mints (s s' : State) (inflow outflow burned : ℕ) : Prop where
  kind : s'.kind = s.kind
  minted : s.kind = .native →
    s'.totalMinted + outflow + s.lastestBurnedFeesReported =
      s.totalMinted + inflow + s'.lastestBurnedFeesReported + burned

variable {erc20 : ERC20.Ledger} {s s' s₁ : State} {l : List Log} {i₁ i₂ o₁ o₂ b₁ b₂ : ℕ}

theorem Mints.refl (s : State) : Mints s s 0 0 0 := ⟨rfl, fun _ => rfl⟩

theorem Mints.trans (h₁ : Mints s s₁ i₁ o₁ b₁) (h₂ : Mints s₁ s' i₂ o₂ b₂) :
    Mints s s' (i₁ + i₂) (o₁ + o₂) (b₁ + b₂) where
  kind := h₂.kind.trans h₁.kind
  minted hk := by
    have := h₁.minted hk
    have := h₂.minted (h₁.kind.trans hk)
    omega

theorem Mints.of_token (token : ERC20.Token) : Mints s { s with token } 0 0 0 :=
  ⟨rfl, fun _ => rfl⟩

theorem Mints.cancel {k : ℕ} (h : Mints s s' (i₁ + k) (o₁ + k) b₁) : Mints s s' i₁ o₁ b₁ where
  kind := h.kind
  minted hk := by
    have := h.minted hk
    omega

/-! ## The hooks -/

theorem mintNativeCoin_mints {recipient : Address} {amount : ℕ}
    (h : mintNativeCoin s recipient amount = .ok (s', l)) : Mints s s' amount 0 0 := by
  obtain ⟨rfl, -⟩ := mintNativeCoin_eq_ok h
  exact ⟨rfl, fun _ => by dsimp only; omega⟩

theorem withdraw_mints {recipient : Address} {amount : ℕ}
    (h : withdraw erc20 s recipient amount = .ok (s', l)) : Mints s s' amount 0 0 := by
  unfold withdraw at h
  split at h
  · rename_i hk
    simp only [bind_eq_ok, pure_eq_ok, Prod.mk.injEq] at h
    obtain ⟨token, -, rfl, rfl⟩ := h
    exact ⟨rfl, fun he => by simp [hk] at he⟩
  · simp only [bind_eq_ok, pure_eq_ok, Prod.mk.injEq] at h
    obtain ⟨⟨s₁, l₁⟩, hm, rfl, rfl⟩ := h
    exact mintNativeCoin_mints hm

theorem burn_mints {self sender : Address} {amount : ℕ}
    (h : burn erc20 s self sender amount = .ok (s', l)) : Mints s s' 0 amount amount := by
  unfold burn at h
  split at h
  · rename_i hk
    simp only [bind_eq_ok, pure_eq_ok, Prod.mk.injEq] at h
    obtain ⟨t₁, -, t₂, -, rfl, rfl⟩ := h
    exact ⟨rfl, fun he => by simp [hk] at he⟩
  · obtain ⟨rfl, rfl⟩ := Prod.mk.inj (pure_eq_ok.1 h)
    -- the coins that came with the call go to `BURNED_FOR_TRANSFER_ADDRESS`
    exact ⟨rfl, fun _ => by omega⟩

theorem handleSendAndCall_mints {self : Address} {message : SingleHopCallMessage} {amount : ℕ}
    {success : Bool} {spent : ℕ}
    (h : handleSendAndCall erc20 s self message amount success spent = .ok (s', l)) :
    Mints s s' amount 0 0 := by
  unfold handleSendAndCall at h
  split at h
  · rename_i hk
    simp only [bind_eq_ok] at h
    obtain ⟨t₁, -, t₂, -, t₃, -, t₄, -, h⟩ := h
    -- an ERC-20 remote only writes its token
    obtain ⟨t, rfl⟩ : ∃ t : ERC20.Token, s' = { s with token := t } := by
      split at h
      · simp only [bind_eq_ok, pure_eq_ok, Prod.mk.injEq] at h
        obtain ⟨t, -, rfl, -⟩ := h
        exact ⟨t, rfl⟩
      · exact ⟨t₄, (Prod.mk.inj (pure_eq_ok.1 h)).1.symm⟩
    exact ⟨rfl, fun he => by simp [hk] at he⟩
  · simp only [bind_eq_ok] at h
    obtain ⟨⟨s₁, l₁⟩, hm, h⟩ := h
    -- the coins are minted, then leave with the call or for the fallback recipient
    obtain rfl : s' = s₁ := by
      split at h
      · exact (Prod.mk.inj (pure_eq_ok.1 h)).1.symm
      · exact (Prod.mk.inj (pure_eq_ok.1 h)).1.symm
    exact mintNativeCoin_mints hm

theorem handleFees_mints {self sender feeTokenAddress : Address} {feeAmount feeReceived fee : ℕ}
    (h : handleFees erc20 s self sender feeTokenAddress feeAmount feeReceived = .ok (s', fee)) :
    Mints s s' 0 0 0 := by
  unfold handleFees at h
  split at h
  · obtain ⟨rfl, -⟩ := Prod.mk.inj (pure_eq_ok.1 h)
    exact .refl s
  · split at h
    · simp only [bind_eq_ok, pure_eq_ok, Prod.mk.injEq] at h
      obtain ⟨t₁, -, t₂, -, rfl, -⟩ := h
      exact .of_token t₂
    · obtain ⟨rfl, -⟩ := Prod.mk.inj (pure_eq_ok.1 h)
      exact .refl s

theorem sendTeleporterMessage_mints {self feeTokenAddress : Address} {fee requiredGasLimit : ℕ}
    {message : TransferrerMessage}
    (h : sendTeleporterMessage erc20 s self feeTokenAddress fee requiredGasLimit message =
      .ok (s', l)) : Mints s s' 0 0 0 := by
  simp only [sendTeleporterMessage, bind_eq_ok, pure_eq_ok, Prod.mk.injEq] at h
  obtain ⟨token, -, rfl, rfl⟩ := h
  exact .of_token token

/-! ## Sends -/

theorem prepareSend_mints {self sender primaryFeeTokenAddress : Address}
    {amount primaryFee secondaryFee feeReceived amount' fee : ℕ} {l : List Log}
    (h : prepareSend erc20 s self sender amount primaryFeeTokenAddress primaryFee secondaryFee
      feeReceived = .ok (s', l, amount', fee)) : Mints s s' 0 amount amount := by
  simp only [prepareSend, bind_eq_ok, require_eq_ok, pure_eq_ok, Prod.mk.injEq] at h
  obtain ⟨⟨s₁, l₁⟩, hb, ⟨s₂, f⟩, hf, _, -, _, -, _, -, rfl, -, -, -⟩ := h
  simpa using (burn_mints hb).trans (handleFees_mints hf)

theorem Mints.send (hL : erc20.Laws) (hs : s.token.Sound) {self sender primaryFeeTokenAddress : Address}
    {amount primaryFee secondaryFee feeReceived amount' fee requiredGasLimit : ℕ}
    {message : TransferrerMessage} {l₁ l₂ : List Log}
    (h₁ : prepareSend erc20 s self sender amount primaryFeeTokenAddress primaryFee secondaryFee
      feeReceived = .ok (s₁, l₁, amount', fee))
    (h₂ : sendTeleporterMessage erc20 s₁ self primaryFeeTokenAddress fee requiredGasLimit message =
      .ok (s', l₂))
    (hm : message.amount = amount') {x : Log} (hx : x.sent = 0) :
    Mints s s' 0 (sentAmount (l₁ ++ l₂ ++ [x])) amount := by
  obtain ⟨m₁, rfl, e₁⟩ := prepareSend_moves hL hs h₁
  obtain ⟨-, e₂⟩ := sendTeleporterMessage_moves hL m₁.sound h₂
  simpa [e₁, e₂, hm, hx] using (prepareSend_mints h₁).trans (sendTeleporterMessage_mints h₂)

variable {self sender : Address} {amount feeReceived : ℕ}

theorem processSend_mints (hL : erc20.Laws) (hs : s.token.Sound) {input : SendTokensInput}
    (h : processSend erc20 s self sender input amount feeReceived = .ok (s', l)) :
    Mints s s' 0 (sentAmount l) amount := by
  simp only [processSend, bind_eq_ok, pure_eq_ok, Prod.mk.injEq] at h
  obtain ⟨_, -, ⟨s₁, l₁, a, f⟩, h₁, ⟨s₂, l₂⟩, h₂, rfl, rfl⟩ := h
  exact .send hL hs h₁ h₂ rfl rfl

theorem processSendMultiHop_mints (hL : erc20.Laws) (hs : s.token.Sound) {input : SendTokensInput}
    (h : processSendMultiHop erc20 s self sender input amount feeReceived = .ok (s', l)) :
    Mints s s' 0 (sentAmount l) amount := by
  simp only [processSendMultiHop, bind_eq_ok, pure_eq_ok, Prod.mk.injEq] at h
  obtain ⟨_, -, ⟨s₁, l₁, a, f⟩, h₁, ⟨s₂, l₂⟩, h₂, rfl, rfl⟩ := h
  exact .send hL hs h₁ h₂ rfl rfl

theorem processSendAndCall_mints (hL : erc20.Laws) (hs : s.token.Sound) {input : SendAndCallInput}
    (h : processSendAndCall erc20 s self sender input amount feeReceived = .ok (s', l)) :
    Mints s s' 0 (sentAmount l) amount := by
  simp only [processSendAndCall, bind_eq_ok, pure_eq_ok, Prod.mk.injEq] at h
  obtain ⟨_, -, ⟨s₁, l₁, a, f⟩, h₁, ⟨s₂, l₂⟩, h₂, rfl, rfl⟩ := h
  exact .send hL hs h₁ h₂ rfl rfl

theorem processSendAndCallMultiHop_mints (hL : erc20.Laws) (hs : s.token.Sound) {input : SendAndCallInput}
    (h : processSendAndCallMultiHop erc20 s self sender input amount feeReceived = .ok (s', l)) :
    Mints s s' 0 (sentAmount l) amount := by
  simp only [processSendAndCallMultiHop, bind_eq_ok, pure_eq_ok, Prod.mk.injEq] at h
  obtain ⟨_, -, ⟨s₁, l₁, a, f⟩, h₁, ⟨s₂, l₂⟩, h₂, rfl, rfl⟩ := h
  exact .send hL hs h₁ h₂ rfl rfl

theorem send_mints (hL : erc20.Laws) (hs : s.token.Sound) {input : SendTokensInput}
    (h : send erc20 s self sender input amount feeReceived = .ok (s', l)) :
    Mints s s' 0 (sentAmount l) amount := by
  simp only [send, bind_eq_ok] at h
  obtain ⟨_, -, h⟩ := h
  split at h
  · exact processSend_mints hL hs h
  · exact processSendMultiHop_mints hL hs h

theorem sendAndCall_mints (hL : erc20.Laws) (hs : s.token.Sound) {input : SendAndCallInput}
    (h : sendAndCall erc20 s self sender input amount feeReceived = .ok (s', l)) :
    Mints s s' 0 (sentAmount l) amount := by
  simp only [sendAndCall, bind_eq_ok] at h
  obtain ⟨_, -, h⟩ := h
  split at h
  · exact processSendAndCall_mints hL hs h
  · exact processSendAndCallMultiHop_mints hL hs h

theorem registerWithHome_mints (hL : erc20.Laws) (hs : s.token.Sound) {feeInfo : Teleporter.TeleporterFeeInfo}
    (h : registerWithHome erc20 s self sender feeInfo feeReceived = .ok (s', l)) :
    Mints s s' 0 (sentAmount l) 0 := by
  simp only [registerWithHome, bind_eq_ok, require_eq_ok] at h
  obtain ⟨_, -, ⟨s₁, f⟩, hf, h⟩ := h
  obtain ⟨-, e⟩ := sendTeleporterMessage_moves hL (handleFees_moves hL hs hf).sound h
  simpa [e, TransferrerMessage.amount] using (handleFees_mints hf).trans
    (sendTeleporterMessage_mints h)

/-! ## Deliveries -/

theorem receiveTeleporterMessage_mints (hL : erc20.Laws) (hs : s.token.Sound) {sourceBlockchainID : Bytes32}
    {originSenderAddress : Address} {message : TransferrerMessage} {success : Bool} {spent : ℕ}
    (h : receiveTeleporterMessage erc20 s self sourceBlockchainID originSenderAddress message success
      spent = .ok (s', l)) :
    Mints s s' message.amount (sentAmount l) 0 := by
  simp only [receiveTeleporterMessage, bind_eq_ok, require_eq_ok] at h
  obtain ⟨_, -, _, -, h⟩ := h
  -- the registration flags are not coins
  set s₀ := if s.isRegistered = false ∨ s.isCollateralized = false then
      { s with isRegistered := true, isCollateralized := true } else s
  have m₀ : Mints s s₀ 0 0 0 := by
    simp only [s₀]
    split
    · exact ⟨rfl, fun _ => rfl⟩
    · exact .refl s
  have hs₀ : s₀.token.Sound := by
    simp only [s₀]
    split
    · exact hs
    · exact hs
  cases message with
  | singleHopSend payload =>
    simp only at h
    have e := (withdraw_moves hL hs₀ h).2
    simpa [e, TransferrerMessage.amount] using m₀.trans (withdraw_mints h)
  | singleHopCall payload =>
    simp only at h
    have e := (handleSendAndCall_moves hL hs₀ h).2
    simpa [e, TransferrerMessage.amount] using m₀.trans (handleSendAndCall_mints h)
  | registerRemote _ => cases h
  | multiHopSend _ => cases h
  | multiHopCall _ => cases h

/-! ## What only a native remote has -/

theorem mintReward_mints {reward : ℕ} (h : mintReward erc20 s self reward = .ok (s', l)) :
    Mints s s' reward 0 0 := by
  unfold mintReward at h
  split at h
  · simp only [bind_eq_ok, pure_eq_ok, Prod.mk.injEq] at h
    obtain ⟨⟨s₁, l₁⟩, hm, t, -, rfl, rfl⟩ := h
    simpa using (mintNativeCoin_mints hm).trans (.of_token t)
  · obtain ⟨rfl, rfl⟩ := Prod.mk.inj (pure_eq_ok.1 h)
    obtain rfl : reward = 0 := by omega
    exact .refl s

/-- A report raises the last report by what it sends home and the reward it mints. -/
theorem reportBurnedTxFees_mints (hL : erc20.Laws) (hs : s.token.Sound) (hk : s.kind = .native)
    {requiredGasLimit burnAddressBalance : ℕ}
    (h : reportBurnedTxFees erc20 s self requiredGasLimit burnAddressBalance = .ok (s', l)) :
    Mints s s' 0 (sentAmount l) 0 := by
  simp only [reportBurnedTxFees, bind_eq_ok, require_eq_ok, checkedMul_eq_ok, checkedSub_eq_ok,
    pure_eq_ok, Prod.mk.injEq] at h
  obtain ⟨_, hb, _, ⟨-, rfl⟩, fees, ⟨hr, rfl⟩, ⟨s₁, l₁⟩, hm₁, _, -, _, -, ⟨s₂, l₂⟩, ht, rfl, rfl⟩ :=
    h
  set reward := (burnAddressBalance - s.lastestBurnedFeesReported) *
    s.burnedFeesReportingRewardPercentage / 100
  -- raising the last report by the new fees lets that much go out
  have m₀ : Mints s { s with lastestBurnedFeesReported := burnAddressBalance }
      0 (burnAddressBalance - s.lastestBurnedFeesReported) 0 :=
    ⟨rfl, fun _ => by dsimp only; omega⟩
  obtain ⟨m₁, e₁⟩ :=
    mintReward_moves (s := { s with lastestBurnedFeesReported := burnAddressBalance }) hL hs hk hm₁
  obtain ⟨-, e₂⟩ := sendTeleporterMessage_moves hL m₁.sound ht
  have m := (m₀.trans (mintReward_mints hm₁)).trans (sendTeleporterMessage_mints ht)
  refine Mints.cancel (k := reward) ?_
  simpa [e₁, e₂, TransferrerMessage.amount, Log.sent, Nat.sub_add_cancel hr] using m

/-! ## The calls -/

/-- **Every call moves a native remote's coins exactly** by what it takes in, what its messages
carry out and what it burns for transfers. -/
theorem step_mints (hL : erc20.Laws) {burnedTxFees : ℕ} {c : Call} (hs : s.token.Sound)
    (h : step erc20 self burnedTxFees s c = .ok (s', l)) :
    Mints s s' c.inflow (sentAmount l) c.burned := by
  cases c with
  | send sender input amount feeReceived =>
    simp only [step, bind_eq_ok] at h
    obtain ⟨_, -, h⟩ := h
    exact send_mints hL hs h
  | sendAndCall sender input amount feeReceived =>
    simp only [step, bind_eq_ok] at h
    obtain ⟨_, -, h⟩ := h
    exact sendAndCall_mints hL hs h
  | registerWithHome sender feeInfo feeReceived => exact registerWithHome_mints hL hs h
  | reportBurnedTxFees requiredGasLimit =>
    simp only [step] at h
    split at h
    · exact reportBurnedTxFees_mints hL hs ‹_› h
    · cases h
  | deposit sender value =>
    simp only [step] at h
    split at h
    · simp only [deposit, bind_eq_ok, pure_eq_ok, Prod.mk.injEq] at h
      obtain ⟨t, -, rfl, rfl⟩ := h
      exact .of_token t
    · cases h
  | withdraw sender amount =>
    simp only [step] at h
    split at h
    · simp only [withdrawWrapped, bind_eq_ok, pure_eq_ok, Prod.mk.injEq] at h
      obtain ⟨t, -, rfl, rfl⟩ := h
      exact .of_token t
    · cases h
  | transfer sender dst value =>
    simp only [step, bind_eq_ok, pure_eq_ok, Prod.mk.injEq] at h
    obtain ⟨t, -, rfl, rfl⟩ := h
    exact .of_token t
  | approve sender spender value =>
    simp only [step, bind_eq_ok, pure_eq_ok, Prod.mk.injEq] at h
    obtain ⟨t, -, rfl, rfl⟩ := h
    exact .of_token t
  | transferFrom sender src dst value =>
    simp only [step, bind_eq_ok, pure_eq_ok, Prod.mk.injEq] at h
    obtain ⟨t, -, rfl, rfl⟩ := h
    exact .of_token t
  | receiveTeleporterMessage sourceBlockchainID originSenderAddress message success spent =>
    exact receiveTeleporterMessage_mints hL hs h

end TokenRemote

end Ictt
