import IcmServices.Ictt.HomeStep

/-!
# What each call of the home credits and debits

The home keeps one transferred balance per remote. A call credits a remote with the amount of
every single hop it sends there (`creditedTo`, read off the log), and a delivery debits the
message's source by the amount the message carries (`Call.debited`). `Credits` says that this is
all that happens to the balances, and `step_credits` that every call does so; the balance of the
home against the remotes (`Ictt.Network`) rests on it. The lemmas use those of `HomeStep.lean`
and never unfold an entry point.
-/

namespace Ictt

/-- What a message credits at its destination: the amount of a single hop. -/
def TransferrerMessage.singleHopAmount : TransferrerMessage → ℕ
  | .singleHopSend payload => payload.amount
  | .singleHopCall payload => payload.amount
  | _ => 0

namespace TokenHome

open Solidity Function TokenScalingUtils

/-- What a log entry of the home credits `remote` with: a single hop sent there. -/
def Log.credited (remote : Remote) : Log → ℕ
  | .sendTeleporterMessage destination _ _ _ message =>
    if destination = remote then message.singleHopAmount else 0
  | _ => 0

/-- What a log credits `remote` with. -/
def creditedTo (remote : Remote) (l : List Log) : ℕ := (l.map (Log.credited remote)).sum

@[simp] theorem creditedTo_nil (remote : Remote) : creditedTo remote [] = 0 := rfl

@[simp] theorem creditedTo_cons (remote : Remote) (x : Log) (l : List Log) :
    creditedTo remote (x :: l) = x.credited remote + creditedTo remote l := by
  simp [creditedTo]

@[simp] theorem creditedTo_append (remote : Remote) (l₁ l₂ : List Log) :
    creditedTo remote (l₁ ++ l₂) = creditedTo remote l₁ + creditedTo remote l₂ := by
  simp [creditedTo]

/-- What a call debits from `remote`: the amount of a message from it that the call delivers. -/
def Call.debited (c : Call) (remote : Remote) : ℕ :=
  match c with
  | .receiveTeleporterMessage sourceBlockchainID originSenderAddress message _ =>
    if (sourceBlockchainID, originSenderAddress) = remote then message.amount else 0
  | _ => 0

/-- A call from `s` to `s'` with log `l` that debited `debit remote` from each remote: every
transferred balance moved by what the log credits less what was debited. -/
def Credits (s s' : State) (l : List Log) (debit : Remote → ℕ) : Prop :=
  ∀ remote, s'.transferredBalances remote + debit remote =
    s.transferredBalances remote + creditedTo remote l

variable {s s' s₁ : State} {l l₁ l₂ : List Log} {d₁ d₂ : Remote → ℕ}

theorem Credits.trans (h₁ : Credits s s₁ l₁ d₁) (h₂ : Credits s₁ s' l₂ d₂) :
    Credits s s' (l₁ ++ l₂) (d₁ + d₂) := by
  intro remote
  have := h₁ remote
  have := h₂ remote
  simp only [Pi.add_apply, creditedTo_append]
  omega

theorem Credits.quiet (htb : s'.transferredBalances = s.transferredBalances)
    (hl : ∀ remote, creditedTo remote l = 0) : Credits s s' l 0 := by
  intro remote
  rw [htb, hl]
  rfl

/-- A credit of `scaled` to `remote`, then the single hop that carries it, then an event. -/
theorem Credits.sent {remote : Remote} {scaled : ℕ} {feeTokenAddress : Address}
    {fee requiredGasLimit : ℕ} {message : TransferrerMessage}
    (h₁ : s₁.transferredBalances =
      update s.transferredBalances remote (s.transferredBalances remote + scaled))
    (h₂ : sendTeleporterMessage s₁ remote feeTokenAddress fee requiredGasLimit message =
      .ok (s', l))
    (hm : message.singleHopAmount = scaled) {x : Log} (hx : ∀ r, x.credited r = 0) :
    Credits s s' (l ++ [x]) 0 := by
  obtain ⟨-, rfl, rfl⟩ := sendTeleporterMessage_eq_ok h₂
  intro r
  simp only [creditedTo_append, creditedTo_cons, creditedTo_nil, hx]
  by_cases e : remote = r
  · subst e
    simp [h₁, Log.credited, hm]
  · simp [h₁, Log.credited, e, update_of_ne (Ne.symm e)]

theorem processReceivedTransfer_credits {source : Remote} {amount homeAmount : ℕ}
    (h : processReceivedTransfer s source amount = .ok (s₁, homeAmount)) :
    Credits s s₁ [] fun remote => if source = remote then amount else 0 := by
  obtain ⟨-, -, hle, -, -, rfl⟩ := processReceivedTransfer_eq_ok h
  intro remote
  by_cases e : source = remote
  · subst e
    simp only [update_self, if_true, creditedTo_nil]
    omega
  · simp [e, update_of_ne (Ne.symm e)]

theorem withdraw_credits {recipient : Address} {amount : ℕ}
    (h : withdraw s recipient amount = .ok (s', l)) : Credits s s' l 0 := by
  obtain ⟨-, rfl, rfl⟩ := withdraw_eq_ok h
  exact .quiet rfl fun _ => rfl

theorem handleSendAndCall_credits {message : SingleHopCallMessage} {amount : ℕ} {success : Bool}
    (h : handleSendAndCall s message amount success = .ok (s', l)) : Credits s s' l 0 := by
  simp only [handleSendAndCall, bind_eq_ok, checkedSub_eq_ok, pure_eq_ok, Prod.mk.injEq] at h
  obtain ⟨_, ⟨-, rfl⟩, rfl, rfl⟩ := h
  refine .quiet rfl fun _ => ?_
  cases success
  · rfl
  · rfl

theorem addCollateral_credits {sender : Address} {remote : Remote} {deposited : ℕ}
    (h : addCollateral s sender remote deposited = .ok (s', l)) : Credits s s' l 0 := by
  -- the log is the deposit's event and perhaps the return of the excess
  have hl : ∀ r, creditedTo r l = 0 := by
    simp only [addCollateral, bind_eq_ok, require_eq_ok] at h
    obtain ⟨_, -, _, -, h⟩ := h
    by_cases hc : deposited ≥ (s.registeredRemotes remote).collateralNeeded
    · simp only [hc, if_true] at h
      split at h
      · simp only [bind_eq_ok, pure_eq_ok, Prod.mk.injEq] at h
        obtain ⟨⟨s₂, l₂⟩, hw, -, rfl⟩ := h
        obtain ⟨-, -, rfl⟩ := withdraw_eq_ok hw
        exact fun _ => rfl
      · obtain ⟨-, rfl⟩ := Prod.mk.inj (pure_eq_ok.1 h)
        exact fun _ => rfl
    · simp only [hc, if_false, gt_iff_lt, lt_self_iff_false] at h
      obtain ⟨-, rfl⟩ := Prod.mk.inj (pure_eq_ok.1 h)
      exact fun _ => rfl
  obtain ⟨-, -, -, -, -, rfl⟩ := addCollateral_eq_ok h
  exact .quiet rfl hl

/-! ## The entry points -/

/-- A route credits the destination with what it forwards, or pays the fallback. -/
theorem routeMultiHop_credits {input : SendTokensInput} {amount : ℕ}
    (h : routeMultiHop s input amount = .ok (s', l)) : Credits s s' l 0 := by
  obtain ⟨s₁, adjusted, hp, ⟨h0, hw⟩ | ⟨h0, l₁, hs, rfl⟩⟩ := routeMultiHop_eq_ok h
  · obtain ⟨-, rfl⟩ | ⟨-, -, -, hpos, -⟩ := prepareMultiHopRouting_eq_ok hp
    · exact withdraw_credits hw
    · omega
  · obtain ⟨h0', -⟩ | ⟨-, -, -, -, -, rfl⟩ := prepareMultiHopRouting_eq_ok hp
    · exact absurd h0' h0
    · exact .sent rfl hs rfl fun _ => rfl

theorem routeMultiHopSendAndCall_credits {sourceBlockchainID : Bytes32}
    {originTokenTransferrerAddress originSenderAddress : Address} {input : SendAndCallInput}
    {amount : ℕ}
    (h : routeMultiHopSendAndCall s sourceBlockchainID originTokenTransferrerAddress
      originSenderAddress input amount = .ok (s', l)) : Credits s s' l 0 := by
  obtain ⟨s₁, adjusted, hp, ⟨h0, hw⟩ | ⟨h0, l₁, hs, rfl⟩⟩ := routeMultiHopSendAndCall_eq_ok h
  · obtain ⟨-, rfl⟩ | ⟨-, -, -, hpos, -⟩ := prepareMultiHopRouting_eq_ok hp
    · exact withdraw_credits hw
    · omega
  · obtain ⟨h0', -⟩ | ⟨-, -, -, -, -, rfl⟩ := prepareMultiHopRouting_eq_ok hp
    · exact absurd h0' h0
    · exact .sent rfl hs rfl fun _ => rfl

/-- A delivery debits the source by the amount of the message, and credits the remote a
multi-hop goes on to. -/
theorem receiveTeleporterMessage_credits {sourceBlockchainID : Bytes32}
    {originSenderAddress : Address} {message : TransferrerMessage} {success : Bool}
    (h : receiveTeleporterMessage s sourceBlockchainID originSenderAddress message success =
      .ok (s', l)) :
    Credits s s' l fun remote =>
      if (sourceBlockchainID, originSenderAddress) = remote then message.amount else 0 := by
  cases message with
  | singleHopSend payload =>
    obtain ⟨s₁, a, hp, hw⟩ := receive_singleHopSend_eq_ok h
    simpa [TransferrerMessage.amount] using
      (processReceivedTransfer_credits hp).trans (withdraw_credits hw)
  | singleHopCall payload =>
    obtain ⟨s₁, a, hp, -, -, hc⟩ := receive_singleHopCall_eq_ok h
    simpa [TransferrerMessage.amount] using
      (processReceivedTransfer_credits hp).trans (handleSendAndCall_credits hc)
  | multiHopSend payload =>
    obtain ⟨s₁, a, f, hp, hr⟩ := receive_multiHopSend_eq_ok h
    have hp' := (processMultiHopTransfer_eq_ok hp).1
    simpa [TransferrerMessage.amount] using
      (processReceivedTransfer_credits hp').trans (routeMultiHop_credits hr)
  | multiHopCall payload =>
    obtain ⟨s₁, a, f, hp, hr⟩ := receive_multiHopCall_eq_ok h
    have hp' := (processMultiHopTransfer_eq_ok hp).1
    simpa [TransferrerMessage.amount] using
      (processReceivedTransfer_credits hp').trans (routeMultiHopSendAndCall_credits hr)
  | registerRemote payload =>
    obtain ⟨-, settings, -, -, rfl, rfl⟩ := registerRemote_eq_ok (receive_registerRemote_eq_ok h)
    -- a registration writes settings only, and carries no amount
    intro remote
    simp [TransferrerMessage.amount, Log.credited]

/-- **Every call moves each transferred balance** by the single hops it sends to the remote less
what it delivers from it. -/
theorem step_credits {self : Address} {c : Call} (h : step self s c = .ok (s', l)) :
    Credits s s' l c.debited := by
  cases c with
  | send sender input deposited feeReceived =>
    obtain ⟨-, -, s₁, scaled, fee, l₁, hp, hs, rfl⟩ := send_eq_ok h
    obtain ⟨-, -, -, -, rfl⟩ := prepareSend_eq_ok hp
    exact .sent rfl hs rfl fun _ => rfl
  | sendAndCall sender input deposited feeReceived =>
    obtain ⟨s₁, scaled, fee, l₁, hp, hs, rfl⟩ := sendAndCall_eq_ok h
    obtain ⟨-, -, -, -, rfl⟩ := prepareSend_eq_ok hp
    exact .sent rfl hs rfl fun _ => rfl
  | addCollateral sender remote deposited => exact addCollateral_credits h
  | receiveTeleporterMessage sourceBlockchainID originSenderAddress message success =>
    exact receiveTeleporterMessage_credits h

end TokenHome

end Ictt
