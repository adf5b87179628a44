import IcmServices.Ictt.TokenRemote

/-!
# What each entry point of a remote does to its supply

A call into a remote takes tokens in (the amount of a message from the home, `inflow`) and sends
tokens out (the amounts of its messages to the home, `outflow`). `Moves s s' l inflow outflow`
says how the supply follows:

* an ERC-20 remote's `totalSupply` moves by exactly the difference;
* a native remote's coins minted, less the burned fees it reported, move by at most the
  difference, plus the coins the call sent to `BURNED_FOR_TRANSFER_ADDRESS` (`nativeTo`): a burn
  for a transfer sends there what its message carries, and any coins minted or sent there by
  other means are out of circulation without a message;
* the settings do not change (`Frame`), the token stays sound, and every message goes home.

`Moves.trans` adds up the parts of a call. One lemma per function of `TokenRemote.lean` gives its
`Moves`, and `step_moves` gives the whole call's, with the outflow read off the log
(`sentAmount`).
-/

namespace Ictt

namespace TokenRemote

open Solidity Function TokenScalingUtils

/-- The amount a log entry sends to Teleporter. -/
def Log.sent : Log → ℕ
  | .sendTeleporterMessage _ _ _ _ message => message.amount
  | _ => 0

/-- Where a log entry sends a message. -/
def Log.destination : Log → Option Remote
  | .sendTeleporterMessage destination _ _ _ _ => some destination
  | _ => none

/-- The native coins a log entry creates at or sends to `a`. -/
def Log.credit (a : Address) : Log → ℕ
  | .mintNativeCoin recipient amount => if recipient = a then amount else 0
  | .sendValue recipient amount => if recipient = a then amount else 0
  | _ => 0

/-- What a log sends away in messages. -/
def sentAmount (l : List Log) : ℕ := (l.map Log.sent).sum

/-- The native coins a log creates at or sends to `a`. -/
def nativeTo (a : Address) (l : List Log) : ℕ := (l.map (Log.credit a)).sum

@[simp] theorem sentAmount_nil : sentAmount [] = 0 := rfl

@[simp] theorem sentAmount_cons (x : Log) (l : List Log) :
    sentAmount (x :: l) = x.sent + sentAmount l := by
  simp [sentAmount]

@[simp] theorem sentAmount_append (l₁ l₂ : List Log) :
    sentAmount (l₁ ++ l₂) = sentAmount l₁ + sentAmount l₂ := by
  simp [sentAmount]

@[simp] theorem nativeTo_nil (a : Address) : nativeTo a [] = 0 := rfl

@[simp] theorem nativeTo_cons (a : Address) (x : Log) (l : List Log) :
    nativeTo a (x :: l) = x.credit a + nativeTo a l := by
  simp [nativeTo]

@[simp] theorem nativeTo_append (a : Address) (l₁ l₂ : List Log) :
    nativeTo a (l₁ ++ l₂) = nativeTo a l₁ + nativeTo a l₂ := by
  simp [nativeTo]

/-- The fields no call writes. -/
structure Frame (s s' : State) : Prop where
  kind : s'.kind = s.kind
  blockchainID : s'.blockchainID = s.blockchainID
  teleporterMessenger : s'.teleporterMessenger = s.teleporterMessenger
  tokenHomeBlockchainID : s'.tokenHomeBlockchainID = s.tokenHomeBlockchainID
  tokenHomeAddress : s'.tokenHomeAddress = s.tokenHomeAddress
  initialReserveImbalance : s'.initialReserveImbalance = s.initialReserveImbalance
  tokenMultiplier : s'.tokenMultiplier = s.tokenMultiplier
  multiplyOnRemote : s'.multiplyOnRemote = s.multiplyOnRemote
  burnedFeesReportingRewardPercentage :
    s'.burnedFeesReportingRewardPercentage = s.burnedFeesReportingRewardPercentage

theorem Frame.refl (s : State) : Frame s s := ⟨rfl, rfl, rfl, rfl, rfl, rfl, rfl, rfl, rfl⟩

theorem Frame.trans {s₁ s₂ s₃ : State} (h₁ : Frame s₁ s₂) (h₂ : Frame s₂ s₃) : Frame s₁ s₃ :=
  ⟨h₂.1.trans h₁.1, h₂.2.trans h₁.2, h₂.3.trans h₁.3, h₂.4.trans h₁.4, h₂.5.trans h₁.5,
    h₂.6.trans h₁.6, h₂.7.trans h₁.7, h₂.8.trans h₁.8, h₂.9.trans h₁.9⟩

/-- A call from `s` to `s'` with log `l` that took in `inflow` tokens and sent out `outflow`
(see the module doc). -/
structure Moves (s s' : State) (l : List Log) (inflow outflow : ℕ) : Prop where
  frame : Frame s s'
  sound : s'.token.Sound
  toHome : ∀ x ∈ l, ∀ d, x.destination = some d →
    d = (s.tokenHomeBlockchainID, s.tokenHomeAddress)
  supply : s.kind = .erc20 → s'.token.totalSupply + outflow = s.token.totalSupply + inflow
  minted : s.kind = .native →
    s'.totalMinted + outflow + s.lastestBurnedFeesReported ≤
      s.totalMinted + inflow + s'.lastestBurnedFeesReported + nativeTo burnedForTransferAddress l

variable {s s' s₁ : State} {l l₁ l₂ : List Log} {i₁ i₂ o₁ o₂ : ℕ}

/-- The parts of a call add up. -/
theorem Moves.trans (h₁ : Moves s s₁ l₁ i₁ o₁) (h₂ : Moves s₁ s' l₂ i₂ o₂) :
    Moves s s' (l₁ ++ l₂) (i₁ + i₂) (o₁ + o₂) where
  frame := h₁.frame.trans h₂.frame
  sound := h₂.sound
  toHome x hx d hd := by
    rcases List.mem_append.1 hx with hx | hx
    · exact h₁.toHome x hx d hd
    · rw [h₂.toHome x hx d hd, h₁.frame.tokenHomeBlockchainID, h₁.frame.tokenHomeAddress]
  supply hk := by
    have := h₁.supply hk
    have := h₂.supply (h₁.frame.kind.trans hk)
    omega
  minted hk := by
    have := h₁.minted hk
    have := h₂.minted (h₁.frame.kind.trans hk)
    rw [nativeTo_append]
    omega

/-- A call that only writes the token: what the token's supply does, and for a native remote an
outflow covered by the inflow and the coins sent to `BURNED_FOR_TRANSFER_ADDRESS`. -/
theorem Moves.of_token {token : ERC20.Token} {i o : ℕ} (hs : token.Sound)
    (ht : s.kind = .erc20 → token.totalSupply + o = s.token.totalSupply + i)
    (hn : s.kind = .native → o ≤ i + nativeTo burnedForTransferAddress l)
    (hl : ∀ x ∈ l, ∀ d, x.destination = some d →
      d = (s.tokenHomeBlockchainID, s.tokenHomeAddress)) :
    Moves s { s with token } l i o where
  frame := ⟨rfl, rfl, rfl, rfl, rfl, rfl, rfl, rfl, rfl⟩
  sound := hs
  toHome := hl
  supply := ht
  minted hk := by
    have := hn hk
    dsimp only
    omega

theorem Moves.quiet (hs : s.token.Sound) (hl : ∀ x ∈ l, x.destination = none) :
    Moves s s l 0 0 :=
  Moves.of_token hs (fun _ => rfl) (fun _ => Nat.zero_le _)
    (fun x hx d hd => by simp [hl x hx] at hd)

theorem Moves.cancel {k : ℕ} (h : Moves s s' l (i₁ + k) (o₁ + k)) : Moves s s' l i₁ o₁ where
  frame := h.frame
  sound := h.sound
  toHome := h.toHome
  supply hk := by
    have := h.supply hk
    omega
  minted hk := by
    have := h.minted hk
    omega

/-! ## The hooks -/

theorem mintNativeCoin_eq_ok {recipient : Address} {amount : ℕ}
    (h : mintNativeCoin s recipient amount = .ok (s', l)) :
    s' = { s with totalMinted := s.totalMinted + amount } ∧
      l = [.mintNativeCoin recipient amount] := by
  simp only [mintNativeCoin, bind_eq_ok, checkedAdd_eq_ok, pure_eq_ok, Prod.mk.injEq] at h
  obtain ⟨_, ⟨-, rfl⟩, rfl, rfl⟩ := h
  exact ⟨rfl, rfl⟩

theorem mintNativeCoin_moves (hs : s.token.Sound) (hk : s.kind = .native)
    {recipient : Address} {amount : ℕ} (h : mintNativeCoin s recipient amount = .ok (s', l)) :
    Moves s s' l amount 0 := by
  obtain ⟨rfl, rfl⟩ := mintNativeCoin_eq_ok h
  refine ⟨⟨rfl, rfl, rfl, rfl, rfl, rfl, rfl, rfl, rfl⟩, hs, by simp [Log.destination],
    fun he => by simp [hk] at he, fun _ => ?_⟩
  simp only [nativeTo_cons, nativeTo_nil]
  omega

variable {erc20 : ERC20.Ledger} (hL : erc20.Laws)
include hL

theorem withdraw_moves (hs : s.token.Sound) {recipient : Address} {amount : ℕ}
    (h : withdraw erc20 s recipient amount = .ok (s', l)) :
    Moves s s' l amount 0 ∧ sentAmount l = 0 := by
  unfold withdraw at h
  split at h
  · rename_i hk
    simp only [bind_eq_ok, pure_eq_ok, Prod.mk.injEq] at h
    obtain ⟨token, ht, rfl, rfl⟩ := h
    obtain ⟨hsup, -⟩ := hL.mint_eq_ok ht
    exact ⟨.of_token (hL.mint_sound hs ht) (fun _ => by omega) (fun he => by simp [hk] at he)
      (by simp [Log.destination]), by simp [Log.sent]⟩
  · rename_i hk
    simp only [bind_eq_ok, pure_eq_ok, Prod.mk.injEq] at h
    obtain ⟨⟨s₁, l₁⟩, hm, rfl, rfl⟩ := h
    have he : Moves s s [.tokensWithdrawn recipient amount] 0 0 :=
      .quiet hs (by simp [Log.destination])
    obtain ⟨-, rfl⟩ := mintNativeCoin_eq_ok hm
    exact ⟨by simpa using he.trans (mintNativeCoin_moves hs hk hm), by simp [Log.sent]⟩

theorem burn_moves (hs : s.token.Sound) {self sender : Address} {amount : ℕ}
    (h : burn erc20 s self sender amount = .ok (s', l)) : Moves s s' l 0 amount ∧ sentAmount l = 0 := by
  unfold burn at h
  split at h
  · rename_i hk
    simp only [bind_eq_ok, pure_eq_ok, Prod.mk.injEq] at h
    obtain ⟨t₁, h₁, t₂, h₂, rfl, rfl⟩ := h
    obtain ⟨hs₁, e₁⟩ := hs.ledger_kept h₁ fun _ => hL.spendAllowance_keepsTotal
    have e₂ := hL.burn_totalSupply hs₁ h₂
    exact ⟨.of_token (hL.burn_sound hs₁ h₂) (fun _ => by omega) (fun he => by simp [hk] at he)
      (by simp), rfl⟩
  · rename_i hk
    obtain ⟨rfl, rfl⟩ := Prod.mk.inj (pure_eq_ok.1 h)
    -- the coins that came with the call go to `BURNED_FOR_TRANSFER_ADDRESS`
    exact ⟨.of_token hs (fun he => by simp [hk] at he)
      (fun _ => by simp [Log.credit]) (by simp [Log.destination]), by simp [Log.sent]⟩

theorem recipientCall_kept {token token' : ERC20.Token} {self recipientContract : Address}
    {success : Bool} {spent : ℕ} (hs : token.Sound)
    (h : recipientCall erc20 token self recipientContract success spent = .ok token') :
    token'.Sound ∧ token'.totalSupply = token.totalSupply := by
  unfold recipientCall at h
  split at h
  · exact hs.ledger_kept h fun _ => hL.transferFrom_keepsTotal
  · obtain rfl := pure_eq_ok.1 h
    exact ⟨hs, rfl⟩

theorem handleSendAndCall_moves (hs : s.token.Sound) {self : Address}
    {message : SingleHopCallMessage} {amount : ℕ} {success : Bool} {spent : ℕ}
    (h : handleSendAndCall erc20 s self message amount success spent = .ok (s', l)) :
    Moves s s' l amount 0 ∧ sentAmount l = 0 := by
  unfold handleSendAndCall at h
  split at h
  · rename_i hk
    simp only [bind_eq_ok] at h
    obtain ⟨t₁, h₁, t₂, h₂, t₃, h₃, t₄, h₄, h⟩ := h
    obtain ⟨e₁, -⟩ := hL.mint_eq_ok h₁
    obtain ⟨hs₂, e₂⟩ := (hL.mint_sound hs h₁).ledger_kept h₂ fun _ => hL.approve_keepsTotal
    obtain ⟨hs₃, e₃⟩ := recipientCall_kept hL hs₂ h₃
    obtain ⟨hs₄, e₄⟩ := hs₃.ledger_kept h₄ fun _ => hL.approve_keepsTotal
    -- what is left of the allowance goes to the fallback recipient
    obtain ⟨t, hst, et, rfl, rfl⟩ : ∃ t : ERC20.Token, t.Sound ∧
        t.totalSupply = t₄.totalSupply ∧ s' = { s with token := t } ∧
        l = [if success then .callSucceeded message.recipientContract amount
          else .callFailed message.recipientContract amount] := by
      split at h
      · simp only [bind_eq_ok, pure_eq_ok, Prod.mk.injEq] at h
        obtain ⟨t, ht, rfl, rfl⟩ := h
        obtain ⟨hst, et⟩ := hs₄.ledger_kept ht fun _ => hL.transfer_keepsTotal
        exact ⟨t, hst, et, rfl, rfl⟩
      · obtain ⟨rfl, rfl⟩ := Prod.mk.inj (pure_eq_ok.1 h)
        exact ⟨t₄, hs₄, rfl, rfl, rfl⟩
    refine ⟨.of_token hst (fun _ => by omega) (fun he => by simp [hk] at he) ?_, ?_⟩
    · intro x hx d hd
      cases success <;> simp_all [Log.destination]
    · cases success <;> simp [Log.sent]
  · rename_i hk
    simp only [bind_eq_ok] at h
    obtain ⟨⟨s₁, l₁⟩, hm, h⟩ := h
    have hm' := mintNativeCoin_moves hs hk hm
    obtain ⟨-, rfl⟩ := mintNativeCoin_eq_ok hm
    -- after the mint the coins leave the remote, with the call or to the fallback recipient
    have hq : ∀ l₂ : List Log, (∀ x ∈ l₂, x.destination = none) →
        Moves s s₁ ([.mintNativeCoin self amount] ++ l₂) amount 0 := fun l₂ hl => by
      simpa using hm'.trans (Moves.quiet hm'.sound hl)
    split at h
    · obtain ⟨rfl, rfl⟩ := Prod.mk.inj (pure_eq_ok.1 h)
      exact ⟨hq _ (by simp [Log.destination]), by simp [Log.sent]⟩
    · obtain ⟨rfl, rfl⟩ := Prod.mk.inj (pure_eq_ok.1 h)
      exact ⟨hq _ (by simp [Log.destination]), by simp [Log.sent]⟩

theorem handleFees_moves (hs : s.token.Sound) {self sender feeTokenAddress : Address}
    {feeAmount feeReceived fee : ℕ}
    (h : handleFees erc20 s self sender feeTokenAddress feeAmount feeReceived = .ok (s', fee)) :
    Moves s s' [] 0 0 := by
  unfold handleFees at h
  split at h
  · obtain ⟨rfl, -⟩ := Prod.mk.inj (pure_eq_ok.1 h)
    exact .quiet hs (by simp)
  · split at h
    · simp only [bind_eq_ok, pure_eq_ok, Prod.mk.injEq] at h
      obtain ⟨t₁, h₁, t₂, h₂, rfl, -⟩ := h
      obtain ⟨hs₁, e₁⟩ := hs.ledger_kept h₁ fun _ => hL.spendAllowance_keepsTotal
      obtain ⟨hs₂, e₂⟩ := hs₁.ledger_kept h₂ fun _ => hL.transfer_keepsTotal
      exact .of_token hs₂ (fun _ => by omega) (fun _ => Nat.zero_le _) (by simp)
    · obtain ⟨rfl, -⟩ := Prod.mk.inj (pure_eq_ok.1 h)
      exact .quiet hs (by simp)

theorem teleporterFee_kept (hs : s.token.Sound) {self feeTokenAddress : Address} {fee : ℕ}
    {token : ERC20.Token} (h : teleporterFee erc20 s self feeTokenAddress fee = .ok token) :
    token.Sound ∧ token.totalSupply = s.token.totalSupply := by
  unfold teleporterFee at h
  split at h
  · simp only [bind_eq_ok, require_eq_ok] at h
    obtain ⟨_, -, h⟩ := h
    split at h
    · simp only [bind_eq_ok] at h
      obtain ⟨t₁, h₁, h₂⟩ := h
      obtain ⟨hs₁, e₁⟩ := hs.ledger_kept h₁ fun _ => hL.safeIncreaseAllowance_keepsTotal
      obtain ⟨hs₂, e₂⟩ := hs₁.ledger_kept h₂ fun _ => hL.transferFrom_keepsTotal
      exact ⟨hs₂, e₂.trans e₁⟩
    · obtain rfl := pure_eq_ok.1 h
      exact ⟨hs, rfl⟩
  · obtain rfl := pure_eq_ok.1 h
    exact ⟨hs, rfl⟩

/-- A message goes home, carrying its amount; a fee in the remote's own token only moves
balances. -/
theorem sendTeleporterMessage_moves (hs : s.token.Sound) {self feeTokenAddress : Address}
    {fee requiredGasLimit : ℕ} {message : TransferrerMessage}
    (h : sendTeleporterMessage erc20 s self feeTokenAddress fee requiredGasLimit message =
      .ok (s', l)) :
    Moves s s' l 0 0 ∧ sentAmount l = message.amount := by
  simp only [sendTeleporterMessage, bind_eq_ok, pure_eq_ok, Prod.mk.injEq] at h
  obtain ⟨token, ht, rfl, rfl⟩ := h
  obtain ⟨hst, et⟩ := teleporterFee_kept hL hs ht
  refine ⟨.of_token hst (fun _ => by omega) (fun _ => Nat.zero_le _) ?_, by simp [Log.sent]⟩
  simp [Log.destination, eq_comm]

/-! ## Sends -/

theorem prepareSend_moves (hs : s.token.Sound) {self sender primaryFeeTokenAddress : Address}
    {amount primaryFee secondaryFee feeReceived amount' fee : ℕ}
    (h : prepareSend erc20 s self sender amount primaryFeeTokenAddress primaryFee secondaryFee
      feeReceived = .ok (s', l, amount', fee)) :
    Moves s s' l 0 amount ∧ amount' = amount ∧ sentAmount l = 0 := by
  simp only [prepareSend, bind_eq_ok, require_eq_ok, pure_eq_ok, Prod.mk.injEq] at h
  obtain ⟨⟨s₁, l₁⟩, hb, ⟨s₂, f⟩, hf, _, -, _, -, _, -, rfl, rfl, rfl, -⟩ := h
  obtain ⟨hb', hl⟩ := burn_moves hL hs hb
  exact ⟨by simpa using hb'.trans (handleFees_moves hL hb'.sound hf), rfl, hl⟩

/-- A send in three parts: the burn, the message that carries what was burned, and its event. -/
theorem Moves.send (hs : s.token.Sound) {self sender primaryFeeTokenAddress : Address}
    {amount primaryFee secondaryFee feeReceived amount' fee requiredGasLimit : ℕ}
    {message : TransferrerMessage} {s₁ : State} {l₁ l₂ : List Log}
    (h₁ : prepareSend erc20 s self sender amount primaryFeeTokenAddress primaryFee secondaryFee
      feeReceived = .ok (s₁, l₁, amount', fee))
    (h₂ : sendTeleporterMessage erc20 s₁ self primaryFeeTokenAddress fee requiredGasLimit message =
      .ok (s', l₂))
    (hm : message.amount = amount') {x : Log} (hx : x.destination = none) (hx' : x.sent = 0) :
    Moves s s' (l₁ ++ l₂ ++ [x]) 0 (sentAmount (l₁ ++ l₂ ++ [x])) := by
  obtain ⟨m₁, rfl, e₁⟩ := prepareSend_moves hL hs h₁
  obtain ⟨m₂, e₂⟩ := sendTeleporterMessage_moves hL m₁.sound h₂
  have m₃ : Moves s' s' [x] 0 0 := .quiet m₂.sound (by simpa using hx)
  simpa [e₁, e₂, hm, hx'] using (m₁.trans m₂).trans m₃

variable {self sender : Address} {amount feeReceived : ℕ}

theorem processSend_moves (hs : s.token.Sound) {input : SendTokensInput}
    (h : processSend erc20 s self sender input amount feeReceived = .ok (s', l)) :
    Moves s s' l 0 (sentAmount l) := by
  simp only [processSend, bind_eq_ok, pure_eq_ok, Prod.mk.injEq] at h
  obtain ⟨_, -, ⟨s₁, l₁, a, f⟩, h₁, ⟨s₂, l₂⟩, h₂, rfl, rfl⟩ := h
  exact .send hL hs h₁ h₂ rfl rfl rfl

theorem processSendMultiHop_moves (hs : s.token.Sound) {input : SendTokensInput}
    (h : processSendMultiHop erc20 s self sender input amount feeReceived = .ok (s', l)) :
    Moves s s' l 0 (sentAmount l) := by
  simp only [processSendMultiHop, bind_eq_ok, pure_eq_ok, Prod.mk.injEq] at h
  obtain ⟨_, -, ⟨s₁, l₁, a, f⟩, h₁, ⟨s₂, l₂⟩, h₂, rfl, rfl⟩ := h
  exact .send hL hs h₁ h₂ rfl rfl rfl

theorem processSendAndCall_moves (hs : s.token.Sound) {input : SendAndCallInput}
    (h : processSendAndCall erc20 s self sender input amount feeReceived = .ok (s', l)) :
    Moves s s' l 0 (sentAmount l) := by
  simp only [processSendAndCall, bind_eq_ok, pure_eq_ok, Prod.mk.injEq] at h
  obtain ⟨_, -, ⟨s₁, l₁, a, f⟩, h₁, ⟨s₂, l₂⟩, h₂, rfl, rfl⟩ := h
  exact .send hL hs h₁ h₂ rfl rfl rfl

theorem processSendAndCallMultiHop_moves (hs : s.token.Sound) {input : SendAndCallInput}
    (h : processSendAndCallMultiHop erc20 s self sender input amount feeReceived = .ok (s', l)) :
    Moves s s' l 0 (sentAmount l) := by
  simp only [processSendAndCallMultiHop, bind_eq_ok, pure_eq_ok, Prod.mk.injEq] at h
  obtain ⟨_, -, ⟨s₁, l₁, a, f⟩, h₁, ⟨s₂, l₂⟩, h₂, rfl, rfl⟩ := h
  exact .send hL hs h₁ h₂ rfl rfl rfl

theorem send_moves (hs : s.token.Sound) {input : SendTokensInput}
    (h : send erc20 s self sender input amount feeReceived = .ok (s', l)) :
    Moves s s' l 0 (sentAmount l) := by
  simp only [send, bind_eq_ok] at h
  obtain ⟨_, -, h⟩ := h
  split at h
  · exact processSend_moves hL hs h
  · exact processSendMultiHop_moves hL hs h

theorem sendAndCall_moves (hs : s.token.Sound) {input : SendAndCallInput}
    (h : sendAndCall erc20 s self sender input amount feeReceived = .ok (s', l)) :
    Moves s s' l 0 (sentAmount l) := by
  simp only [sendAndCall, bind_eq_ok] at h
  obtain ⟨_, -, h⟩ := h
  split at h
  · exact processSendAndCall_moves hL hs h
  · exact processSendAndCallMultiHop_moves hL hs h

theorem registerWithHome_moves (hs : s.token.Sound) {feeInfo : Teleporter.TeleporterFeeInfo}
    (h : registerWithHome erc20 s self sender feeInfo feeReceived = .ok (s', l)) :
    Moves s s' l 0 (sentAmount l) := by
  simp only [registerWithHome, bind_eq_ok, require_eq_ok] at h
  obtain ⟨_, -, ⟨s₁, f⟩, hf, h⟩ := h
  have m₁ := handleFees_moves hL hs hf
  obtain ⟨m₂, e₂⟩ := sendTeleporterMessage_moves hL m₁.sound h
  simpa [e₂, TransferrerMessage.amount] using m₁.trans m₂

/-! ## Deliveries -/

theorem receiveTeleporterMessage_moves (hs : s.token.Sound) {sourceBlockchainID : Bytes32}
    {originSenderAddress : Address} {message : TransferrerMessage} {success : Bool} {spent : ℕ}
    (h : receiveTeleporterMessage erc20 s self sourceBlockchainID originSenderAddress message success
      spent = .ok (s', l)) :
    (sourceBlockchainID, originSenderAddress) = (s.tokenHomeBlockchainID, s.tokenHomeAddress) ∧
      Moves s s' l message.amount (sentAmount l) := by
  simp only [receiveTeleporterMessage, bind_eq_ok, require_eq_ok] at h
  obtain ⟨_, rfl, _, rfl, h⟩ := h
  refine ⟨rfl, ?_⟩
  -- the registration flags are not the supply
  have hf : Moves s (if s.isRegistered = false ∨ s.isCollateralized = false then
      { s with isRegistered := true, isCollateralized := true } else s) [] 0 0 := by
    split
    · exact ⟨⟨rfl, rfl, rfl, rfl, rfl, rfl, rfl, rfl, rfl⟩, hs, by simp, fun _ => rfl,
        fun _ => by simp⟩
    · exact .quiet hs (by simp)
  cases message with
  | singleHopSend payload =>
    obtain ⟨m, e⟩ := withdraw_moves hL hf.sound h
    simpa [e, TransferrerMessage.amount] using hf.trans m
  | singleHopCall payload =>
    obtain ⟨m, e⟩ := handleSendAndCall_moves hL hf.sound h
    simpa [e, TransferrerMessage.amount] using hf.trans m
  | registerRemote _ => cases h
  | multiHopSend _ => cases h
  | multiHopCall _ => cases h

/-! ## What only a native remote has -/

/-- The reward is taken in as minted coins; its wrapped tokens stay with the remote. -/
theorem mintReward_moves (hs : s.token.Sound) (hk : s.kind = .native) {reward : ℕ}
    (h : mintReward erc20 s self reward = .ok (s', l)) : Moves s s' l reward 0 ∧ sentAmount l = 0 := by
  unfold mintReward at h
  split at h
  · simp only [bind_eq_ok, pure_eq_ok, Prod.mk.injEq] at h
    obtain ⟨⟨s₁, l₁⟩, hm, t, ht, rfl, rfl⟩ := h
    have m₁ := mintNativeCoin_moves hs hk hm
    have m₂ : Moves s₁ { s₁ with token := t } [] 0 0 :=
      .of_token (hL.mint_sound m₁.sound ht) (fun he => by simp [m₁.frame.kind, hk] at he)
        (fun _ => Nat.zero_le _) (by simp)
    obtain ⟨-, rfl⟩ := mintNativeCoin_eq_ok hm
    exact ⟨by simpa using m₁.trans m₂, by simp [Log.sent]⟩
  · rename_i hr
    obtain ⟨rfl, rfl⟩ := Prod.mk.inj (pure_eq_ok.1 h)
    obtain rfl : reward = 0 := by omega
    exact ⟨.quiet hs (by simp), rfl⟩

/-- A report sends home the burned fees it has not reported yet, less the reward it mints:
together they are the rise of the last report. -/
theorem reportBurnedTxFees_moves (hs : s.token.Sound) (hk : s.kind = .native)
    {requiredGasLimit burnAddressBalance : ℕ}
    (h : reportBurnedTxFees erc20 s self requiredGasLimit burnAddressBalance = .ok (s', l)) :
    Moves s s' l 0 (sentAmount l) := by
  simp only [reportBurnedTxFees, bind_eq_ok, require_eq_ok, checkedMul_eq_ok, checkedSub_eq_ok,
    pure_eq_ok, Prod.mk.injEq] at h
  obtain ⟨_, hb, _, ⟨-, rfl⟩, fees, ⟨hr, rfl⟩, ⟨s₁, l₁⟩, hm, _, -, _, -, ⟨s₂, l₂⟩, ht, rfl, rfl⟩ :=
    h
  set reward := (burnAddressBalance - s.lastestBurnedFeesReported) *
    s.burnedFeesReportingRewardPercentage / 100
  -- raising the last report by the new fees lets that much go out
  have m₀ : Moves s { s with lastestBurnedFeesReported := burnAddressBalance } []
      0 (burnAddressBalance - s.lastestBurnedFeesReported) :=
    ⟨⟨rfl, rfl, rfl, rfl, rfl, rfl, rfl, rfl, rfl⟩, hs, by simp, fun he => by simp [hk] at he,
      fun _ => by simp; omega⟩
  obtain ⟨m₁, e₁⟩ := mintReward_moves hL m₀.sound hk hm
  obtain ⟨m₂, e₂⟩ := sendTeleporterMessage_moves hL m₁.sound ht
  have m₃ : Moves s₂ s₂ [.reportBurnedTxFees (burnAddressBalance - s.lastestBurnedFeesReported -
      reward)] 0 0 := .quiet m₂.sound (by simp [Log.destination])
  have m := ((m₀.trans m₁).trans m₂).trans m₃
  simp only [List.nil_append, Nat.add_zero, Nat.zero_add] at m
  refine Moves.cancel (k := reward) ?_
  simpa [e₁, e₂, TransferrerMessage.amount, Log.sent, Nat.sub_add_cancel hr] using m

theorem deposit_moves (hs : s.token.Sound) (hk : s.kind = .native) {value : ℕ}
    (h : deposit erc20 s sender value = .ok (s', l)) : Moves s s' l 0 (sentAmount l) := by
  simp only [deposit, bind_eq_ok, pure_eq_ok, Prod.mk.injEq] at h
  obtain ⟨t, ht, rfl, rfl⟩ := h
  exact .of_token (hL.mint_sound hs ht) (fun he => by simp [hk] at he) (fun _ => by simp [Log.sent])
    (by simp [Log.destination])

theorem withdrawWrapped_moves (hs : s.token.Sound) (hk : s.kind = .native)
    (h : withdrawWrapped erc20 s sender amount = .ok (s', l)) : Moves s s' l 0 (sentAmount l) := by
  simp only [withdrawWrapped, bind_eq_ok, pure_eq_ok, Prod.mk.injEq] at h
  obtain ⟨t, ht, rfl, rfl⟩ := h
  exact .of_token (hL.burn_sound hs ht) (fun he => by simp [hk] at he) (fun _ => by simp [Log.sent])
    (by simp [Log.destination])

/-! ## The calls -/

/-- What a call takes in: the amount of the message it delivers. -/
def Call.inflow : Call → ℕ
  | .receiveTeleporterMessage _ _ message _ _ => message.amount
  | _ => 0

omit hL in
theorem Moves.of_ledger (hs : s.token.Sound) {op : ERC20.State → Except String ERC20.State}
    {token : ERC20.Token} (ht : s.token.ledger op = .ok token)
    (hop : ∀ t', op s.token.toState = .ok t' → ERC20.KeepsTotal s.token.toState t') :
    Moves s { s with token } [] 0 0 := by
  obtain ⟨hst, et⟩ := hs.ledger_kept ht hop
  exact .of_token hst (fun _ => by omega) (fun _ => Nat.zero_le _) (by simp)

/-- **Every call moves the supply** by what it takes in and what its messages carry out. -/
theorem step_moves {burnedTxFees : ℕ} {c : Call} (hs : s.token.Sound)
    (h : step erc20 self burnedTxFees s c = .ok (s', l)) : Moves s s' l c.inflow (sentAmount l) := by
  cases c with
  | send sender input amount feeReceived =>
    simp only [step, bind_eq_ok] at h
    obtain ⟨_, -, h⟩ := h
    exact send_moves hL hs h
  | sendAndCall sender input amount feeReceived =>
    simp only [step, bind_eq_ok] at h
    obtain ⟨_, -, h⟩ := h
    exact sendAndCall_moves hL hs h
  | registerWithHome sender feeInfo feeReceived => exact registerWithHome_moves hL hs h
  | reportBurnedTxFees requiredGasLimit =>
    simp only [step] at h
    split at h
    · exact reportBurnedTxFees_moves hL hs ‹_› h
    · cases h
  | deposit sender value =>
    simp only [step] at h
    split at h
    · exact deposit_moves hL hs ‹_› h
    · cases h
  | withdraw sender amount =>
    simp only [step] at h
    split at h
    · exact withdrawWrapped_moves hL hs ‹_› h
    · cases h
  | transfer sender dst value =>
    simp only [step, bind_eq_ok, pure_eq_ok, Prod.mk.injEq] at h
    obtain ⟨t, ht, rfl, rfl⟩ := h
    exact .of_ledger hs ht fun _ => hL.transfer_keepsTotal
  | approve sender spender value =>
    simp only [step, bind_eq_ok, pure_eq_ok, Prod.mk.injEq] at h
    obtain ⟨t, ht, rfl, rfl⟩ := h
    exact .of_ledger hs ht fun _ => hL.approve_keepsTotal
  | transferFrom sender src dst value =>
    simp only [step, bind_eq_ok, pure_eq_ok, Prod.mk.injEq] at h
    obtain ⟨t, ht, rfl, rfl⟩ := h
    exact .of_ledger hs ht fun _ => hL.transferFrom_keepsTotal
  | receiveTeleporterMessage sourceBlockchainID originSenderAddress message success spent =>
    exact (receiveTeleporterMessage_moves hL hs h).2

theorem step_receive_source {burnedTxFees : ℕ} {sourceBlockchainID : Bytes32}
    {originSenderAddress : Address} {message : TransferrerMessage} {success : Bool} {spent : ℕ}
    (hs : s.token.Sound)
    (h : step erc20 self burnedTxFees s (.receiveTeleporterMessage sourceBlockchainID
      originSenderAddress message success spent) = .ok (s', l)) :
    (sourceBlockchainID, originSenderAddress) = (s.tokenHomeBlockchainID, s.tokenHomeAddress) :=
  (receiveTeleporterMessage_moves hL hs h).1

end TokenRemote

end Ictt
