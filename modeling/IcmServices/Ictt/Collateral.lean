import IcmServices.Ictt.HomeStep
import Mathlib.Order.Bounds.Basic

/-!
# Collateral for the initial reserve imbalance

A remote may start with tokens the home never sent (`initialReserveImbalance`). Before any send
to it, the home is collateralized for them: `_registerRemote` records the collateral needed in
home tokens and `_addCollateral` locks deposits against it.

* The collateral asked for is exact: it is the least home amount whose remote image covers the
  imbalance (`registerRemote_collateral`). When the remote has more decimals the division of
  `removeTokenScale` rounds down, and the registration adds one back unless it was exact
  (`le_remoteValue_iff`).
* A deposit locks what is still needed, or all of itself, and the excess goes back to the
  sender (`addCollateral_retains`).
* Along every run the log accounts for each remote (`Accounted`): an unregistered remote was
  never registered and needs nothing; a registered one was registered once, and the collateral
  locked for it since, plus what it still needs, is what that registration asked for
  (`exec_collateralInv`). Every call other than a registration or a deposit of collateral is
  `Quiet`: it writes no settings and logs nothing about collateral.
-/

namespace TokenScalingUtils

theorem le_mul_iff_div_add_le {a m c : ℕ} (hm : 0 < m) :
    a ≤ c * m ↔ a / m + (if a % m ≠ 0 then 1 else 0) ≤ c := by
  have hd : a / m * m + a % m = a := Nat.div_add_mod' a m
  have hr : a % m < m := Nat.mod_lt a hm
  by_cases h0 : a % m = 0
  · -- exact division: `a` is `a / m` times `m`
    rw [if_neg (not_not.2 h0), Nat.add_zero]
    constructor
    · intro h
      exact Nat.le_of_mul_le_mul_right (by omega) hm
    · intro h
      have := Nat.mul_le_mul_right m h
      omega
  · rw [if_pos h0]
    constructor
    · intro h
      have hlt : a / m * m < c * m := by omega
      have := Nat.lt_of_mul_lt_mul_right hlt
      omega
    · intro h
      have := Nat.mul_le_mul_right m h
      rw [Nat.add_mul, Nat.one_mul] at this
      omega

/-- The home amounts whose remote image covers `a` are those from the home value of `a` on,
rounded up when the remote divides. -/
theorem le_remoteValue_iff {m : ℕ} (b : Bool) {a c : ℕ} (hm : 0 < m) :
    a ≤ remoteValue m b c ↔ homeValue m b a + (if b = true ∧ a % m ≠ 0 then 1 else 0) ≤ c := by
  cases b with
  | true => simpa [remoteValue, homeValue] using le_mul_iff_div_add_le hm
  | false => simpa [remoteValue, homeValue] using Nat.le_div_iff_mul_le hm

theorem deriveTokenMultiplierValues_pos {homeTokenDecimals remoteTokenDecimals m : ℕ} {b : Bool}
    (h : deriveTokenMultiplierValues homeTokenDecimals remoteTokenDecimals = .ok (m, b)) :
    0 < m := by
  simp only [deriveTokenMultiplierValues, Solidity.bind_eq_ok, Solidity.checkedPow_eq_ok,
    Solidity.pure_eq_ok, Prod.mk.injEq] at h
  obtain ⟨_, ⟨-, rfl⟩, rfl, -⟩ := h
  exact Nat.pow_pos (by decide)

end TokenScalingUtils

namespace Ictt

namespace TokenHome

open Solidity Function TokenScalingUtils Contract

variable {s s' : State} {l : List Log}

/-! ## One registration, one deposit -/

/-- A registration writes registered settings whose collateral is the least home amount that
covers the imbalance in the remote's scale; of the amounts `applyTokenScale` accepts, exactly
those from the collateral on cover it. -/
theorem registerRemote_collateral {remote : Remote} {message : RegisterRemoteMessage}
    (h : registerRemote s remote message = .ok (s', l)) :
    ∃ m b, deriveTokenMultiplierValues s.tokenDecimals message.remoteTokenDecimals = .ok (m, b) ∧
      s'.registeredRemotes remote =
        ⟨true, (s'.registeredRemotes remote).collateralNeeded, m, b⟩ ∧
      ∀ c, message.initialReserveImbalance ≤ remoteValue m b c ↔
        (s'.registeredRemotes remote).collateralNeeded ≤ c := by
  simp only [registerRemote, bind_eq_ok, require_eq_ok] at h
  obtain ⟨_, -, _, -, _, -, _, -, _, -, _, -, ⟨m, b⟩, hd, c, hc, h⟩ := h
  have hm : 0 < m := deriveTokenMultiplierValues_pos hd
  obtain rfl := removeTokenScale_eq_ok hc
  refine ⟨m, b, hd, ?_⟩
  split at h
  · rename_i hup
    simp only [bind_eq_ok, checkedAdd_eq_ok, pure_eq_ok, Prod.mk.injEq] at h
    obtain ⟨c', ⟨-, rfl⟩, rfl, rfl⟩ := h
    refine ⟨by simp, fun c => ?_⟩
    simp only [update_self]
    rw [le_remoteValue_iff b hm, if_pos hup]
  · rename_i hup
    simp only [bind_eq_ok, pure_eq_ok, Prod.mk.injEq] at h
    obtain ⟨c', rfl, rfl, rfl⟩ := h
    refine ⟨by simp, fun c => ?_⟩
    simp only [update_self]
    rw [le_remoteValue_iff b hm, if_neg hup, Nat.add_zero]

/-- A deposit locks the smaller of itself and the collateral still needed, and the excess goes
back to the sender. -/
theorem addCollateral_retains {sender : Address} {remote : Remote} {deposited : ℕ}
    (h : addCollateral s sender remote deposited = .ok (s', l)) :
    (s.registeredRemotes remote).registered = true ∧
      0 < (s.registeredRemotes remote).collateralNeeded ∧
      s'.registeredRemotes = update s.registeredRemotes remote
        { s.registeredRemotes remote with
          collateralNeeded := (s.registeredRemotes remote).collateralNeeded - deposited } ∧
      s'.balance = s.balance + min deposited (s.registeredRemotes remote).collateralNeeded ∧
      l = .collateralAdded remote (min deposited (s.registeredRemotes remote).collateralNeeded)
          ((s.registeredRemotes remote).collateralNeeded - deposited) ::
        if (s.registeredRemotes remote).collateralNeeded < deposited then
          [.tokensWithdrawn sender (deposited - (s.registeredRemotes remote).collateralNeeded)]
        else [] := by
  simp only [addCollateral, bind_eq_ok, require_eq_ok] at h
  obtain ⟨_, h1, _, h2, h⟩ := h
  refine ⟨h1, h2, ?_⟩
  set need := (s.registeredRemotes remote).collateralNeeded with hneed
  by_cases hc : deposited ≥ need
  · simp only [hc, if_true] at h
    have hmin : min deposited need = need := Nat.min_eq_right hc
    have hrem : need - deposited = 0 := Nat.sub_eq_zero_of_le hc
    split at h
    · -- an excess: it is withdrawn to the sender
      simp only [bind_eq_ok, pure_eq_ok, Prod.mk.injEq] at h
      obtain ⟨⟨s₁, l₁⟩, hw, rfl, rfl⟩ := h
      obtain ⟨-, rfl, rfl⟩ := withdraw_eq_ok hw
      refine ⟨by rw [hrem]; rfl, by simp only [deposit, hmin]; omega, ?_⟩
      rw [hmin, hrem, if_pos (by omega)]
    · obtain ⟨rfl, rfl⟩ := Prod.mk.inj (pure_eq_ok.1 h)
      refine ⟨by rw [hrem]; rfl, by simp only [deposit, hmin]; omega, ?_⟩
      rw [hmin, hrem, if_neg (by omega)]
  · simp only [hc, if_false, gt_iff_lt, lt_self_iff_false] at h
    have hmin : min deposited need = deposited := Nat.min_eq_left (by omega)
    obtain ⟨rfl, rfl⟩ := Prod.mk.inj (pure_eq_ok.1 h)
    refine ⟨rfl, by simp only [deposit, hmin], ?_⟩
    rw [hmin, if_neg (by omega)]

/-! ## What the log says of collateral -/

/-- Whether an event is about collateral: a registration or a deposit of collateral. -/
def Log.isCollateral : Log → Bool
  | .remoteRegistered .. => true
  | .collateralAdded .. => true
  | _ => false

/-- The collateral a registration of `remote` asks for. -/
def Log.registration (remote : Remote) : Log → Option ℕ
  | .remoteRegistered r c _ => if r = remote then some c else none
  | _ => none

/-- The collateral a deposit for `remote` locks. -/
def Log.retained (remote : Remote) : Log → ℕ
  | .collateralAdded r amount _ => if r = remote then amount else 0
  | _ => 0

section
variable {remote r : Remote} {a b : ℕ}

@[simp] theorem Log.registration_remoteRegistered :
    Log.registration remote (.remoteRegistered r a b) = if r = remote then some a else none := rfl

@[simp] theorem Log.registration_collateralAdded :
    Log.registration remote (.collateralAdded r a b) = none := rfl

@[simp] theorem Log.retained_remoteRegistered :
    Log.retained remote (.remoteRegistered r a b) = 0 := rfl

@[simp] theorem Log.retained_collateralAdded :
    Log.retained remote (.collateralAdded r a b) = if r = remote then a else 0 := rfl

end

/-- The registrations of `remote` in a log, with the collateral each asked for. -/
def registrations (remote : Remote) (events : List Log) : List ℕ :=
  events.filterMap (Log.registration remote)

/-- The collateral locked for `remote` over a log. -/
def retainedCollateral (remote : Remote) (events : List Log) : ℕ :=
  (events.map (Log.retained remote)).sum

section
variable {remote : Remote} {events events' : List Log}

@[simp] theorem registrations_append :
    registrations remote (events ++ events') =
      registrations remote events ++ registrations remote events' :=
  List.filterMap_append

@[simp] theorem retainedCollateral_append :
    retainedCollateral remote (events ++ events') =
      retainedCollateral remote events + retainedCollateral remote events' := by
  simp [retainedCollateral]

theorem registrations_of_quiet (h : ∀ e ∈ events, e.isCollateral = false) :
    registrations remote events = [] := by
  refine List.filterMap_eq_nil_iff.2 fun e he => ?_
  have := h e he
  cases e <;> simp_all [Log.isCollateral, Log.registration]

theorem retainedCollateral_of_quiet (h : ∀ e ∈ events, e.isCollateral = false) :
    retainedCollateral remote events = 0 := by
  refine List.sum_eq_zero_iff_forall_eq_nat.2 fun x hx => ?_
  obtain ⟨e, he, rfl⟩ := List.mem_map.1 hx
  have := h e he
  cases e <;> simp_all [Log.isCollateral, Log.retained]

end

/-! ## The accounts of one remote -/

/-- What the log says of a remote agrees with its settings (module doc): its registrations and
the collateral locked for it. -/
inductive Accounted : RemoteTokenTransferrerSettings → List ℕ → ℕ → Prop
  | unregistered {settings : RemoteTokenTransferrerSettings} (hu : settings.registered = false)
      (hc : settings.collateralNeeded = 0) : Accounted settings [] 0
  | registered {settings : RemoteTokenTransferrerSettings} {c retained : ℕ}
      (hr : settings.registered = true) (hc : retained + settings.collateralNeeded = c) :
      Accounted settings [c] retained

section
variable {settings : RemoteTokenTransferrerSettings} {rs : List ℕ} {k : ℕ}

theorem Accounted.of_unregistered (h : Accounted settings rs k)
    (hu : settings.registered = false) : rs = [] ∧ k = 0 := by
  cases h with
  | unregistered => exact ⟨rfl, rfl⟩
  | registered hr => simp_all

theorem Accounted.of_registered (h : Accounted settings rs k)
    (hr : settings.registered = true) : ∃ c, rs = [c] ∧ k + settings.collateralNeeded = c := by
  cases h with
  | unregistered hu => simp_all
  | registered _ hc => exact ⟨_, rfl, hc⟩

end

/-- Every remote is accounted for by the log `events`. -/
def CollateralInv (s : State) (events : List Log) : Prop :=
  ∀ remote, Accounted (s.registeredRemotes remote) (registrations remote events)
    (retainedCollateral remote events)

/-! ## What a call does to collateral -/

/-- A call that writes no remote's settings and logs nothing about collateral. -/
structure Quiet (s s' : State) (l : List Log) : Prop where
  settings : s'.registeredRemotes = s.registeredRemotes
  log : ∀ e ∈ l, e.isCollateral = false

theorem Quiet.pre {s₁ : State} (hs : s₁.registeredRemotes = s.registeredRemotes)
    (h : Quiet s₁ s' l) : Quiet s s' l :=
  ⟨h.settings.trans hs, h.log⟩

theorem Quiet.event (h : Quiet s s' l) {e : Log} (he : e.isCollateral = false) :
    Quiet s s' (l ++ [e]) :=
  ⟨h.settings, List.forall_mem_append.2 ⟨h.log, List.forall_mem_singleton.2 he⟩⟩

theorem prepareSend_settings {remote : Remote} {deposited feeAmount feeReceived scaled fee : ℕ}
    {primaryFeeTokenAddress : Address}
    (h : prepareSend s remote deposited primaryFeeTokenAddress feeAmount feeReceived =
      .ok (s', scaled, fee)) :
    s'.registeredRemotes = s.registeredRemotes := by
  obtain ⟨-, -, -, -, rfl⟩ := prepareSend_eq_ok h
  rfl

theorem processReceivedTransfer_settings {remote : Remote} {amount homeAmount : ℕ}
    (h : processReceivedTransfer s remote amount = .ok (s', homeAmount)) :
    s'.registeredRemotes = s.registeredRemotes := by
  obtain ⟨-, -, -, -, -, rfl⟩ := processReceivedTransfer_eq_ok h
  rfl

theorem prepareMultiHopRouting_settings {remote : Remote} {amount fee adjusted : ℕ}
    (h : prepareMultiHopRouting s remote amount fee = .ok (s', adjusted)) :
    s'.registeredRemotes = s.registeredRemotes := by
  rcases prepareMultiHopRouting_eq_ok h with ⟨-, rfl⟩ | ⟨-, -, -, -, -, rfl⟩ <;> rfl

theorem withdraw_quiet {recipient : Address} {amount : ℕ}
    (h : withdraw s recipient amount = .ok (s', l)) : Quiet s s' l := by
  obtain ⟨-, rfl, rfl⟩ := withdraw_eq_ok h
  exact ⟨rfl, by simp [Log.isCollateral]⟩

theorem sendTeleporterMessage_quiet {destination : Remote} {feeTokenAddress : Address}
    {fee requiredGasLimit : ℕ} {message : TransferrerMessage}
    (h : sendTeleporterMessage s destination feeTokenAddress fee requiredGasLimit message =
      .ok (s', l)) : Quiet s s' l := by
  obtain ⟨-, rfl, rfl⟩ := sendTeleporterMessage_eq_ok h
  exact ⟨rfl, by simp [Log.isCollateral]⟩

theorem handleSendAndCall_quiet {message : SingleHopCallMessage} {amount : ℕ} {success : Bool}
    (h : handleSendAndCall s message amount success = .ok (s', l)) : Quiet s s' l := by
  simp only [handleSendAndCall, bind_eq_ok, checkedSub_eq_ok, pure_eq_ok, Prod.mk.injEq] at h
  obtain ⟨_, -, rfl, rfl⟩ := h
  refine ⟨rfl, ?_⟩
  cases success <;> simp [Log.isCollateral]

/-- Routing on from the home either pays the fallback or forwards the tokens. -/
theorem routeMultiHop_quiet {input : SendTokensInput} {amount : ℕ}
    (h : routeMultiHop s input amount = .ok (s', l)) : Quiet s s' l := by
  obtain ⟨s₁, adjusted, hp, hr⟩ := routeMultiHop_eq_ok h
  rcases hr with ⟨-, hw⟩ | ⟨-, l₁, hm, rfl⟩
  · exact (withdraw_quiet hw).pre (prepareMultiHopRouting_settings hp)
  · exact ((sendTeleporterMessage_quiet hm).pre (prepareMultiHopRouting_settings hp)).event
      (by rfl)

theorem routeMultiHopSendAndCall_quiet {sourceBlockchainID : Bytes32}
    {originTokenTransferrerAddress originSenderAddress : Address} {input : SendAndCallInput}
    {amount : ℕ}
    (h : routeMultiHopSendAndCall s sourceBlockchainID originTokenTransferrerAddress
      originSenderAddress input amount = .ok (s', l)) : Quiet s s' l := by
  obtain ⟨s₁, adjusted, hp, hr⟩ := routeMultiHopSendAndCall_eq_ok h
  rcases hr with ⟨-, hw⟩ | ⟨-, l₁, hm, rfl⟩
  · exact (withdraw_quiet hw).pre (prepareMultiHopRouting_settings hp)
  · exact ((sendTeleporterMessage_quiet hm).pre (prepareMultiHopRouting_settings hp)).event
      (by rfl)

/-- What a successful call does to collateral: nothing, a registration, or a deposit that locks
`amount` of what was needed. -/
inductive CollateralStep (s s' : State) (l : List Log) : Prop
  | quiet (hq : Quiet s s' l)
  | register (remote : Remote) (settings : RemoteTokenTransferrerSettings) (decimals : ℕ)
      (hu : (s.registeredRemotes remote).registered = false) (hr : settings.registered = true)
      (hs : s'.registeredRemotes = update s.registeredRemotes remote settings)
      (hl : l = [.remoteRegistered remote settings.collateralNeeded decimals])
  | lock (remote : Remote) (amount remaining : ℕ) (rest : List Log)
      (hr : (s.registeredRemotes remote).registered = true)
      (hc : amount + remaining = (s.registeredRemotes remote).collateralNeeded)
      (hs : s'.registeredRemotes = update s.registeredRemotes remote
        { s.registeredRemotes remote with collateralNeeded := remaining })
      (hl : l = .collateralAdded remote amount remaining :: rest)
      (hq : ∀ e ∈ rest, e.isCollateral = false)

theorem receiveTeleporterMessage_collateralStep {sourceBlockchainID : Bytes32}
    {originSenderAddress : Address} {message : TransferrerMessage} {success : Bool}
    (h : receiveTeleporterMessage s sourceBlockchainID originSenderAddress message success =
      .ok (s', l)) : CollateralStep s s' l := by
  cases message with
  | singleHopSend payload =>
    obtain ⟨s₁, _, hp, hw⟩ := receive_singleHopSend_eq_ok h
    exact .quiet ((withdraw_quiet hw).pre (processReceivedTransfer_settings hp))
  | singleHopCall payload =>
    obtain ⟨s₁, _, hp, -, -, hc⟩ := receive_singleHopCall_eq_ok h
    exact .quiet ((handleSendAndCall_quiet hc).pre (processReceivedTransfer_settings hp))
  | multiHopSend payload =>
    obtain ⟨s₁, _, _, hp, hr⟩ := receive_multiHopSend_eq_ok h
    exact .quiet ((routeMultiHop_quiet hr).pre
      (processReceivedTransfer_settings (processMultiHopTransfer_eq_ok hp).1))
  | multiHopCall payload =>
    obtain ⟨s₁, _, _, hp, hr⟩ := receive_multiHopCall_eq_ok h
    exact .quiet ((routeMultiHopSendAndCall_quiet hr).pre
      (processReceivedTransfer_settings (processMultiHopTransfer_eq_ok hp).1))
  | registerRemote payload =>
    obtain ⟨hu, settings, hr, -, rfl, rfl⟩ := registerRemote_eq_ok (receive_registerRemote_eq_ok h)
    exact .register _ settings _ hu hr rfl rfl

theorem step_collateralStep {self : Address} {c : Call} (h : step self s c = .ok (s', l)) :
    CollateralStep s s' l := by
  cases c with
  | send sender input deposited feeReceived =>
    obtain ⟨-, -, s₁, _, _, l₁, hp, hm, rfl⟩ := send_eq_ok h
    exact .quiet (((sendTeleporterMessage_quiet hm).pre (prepareSend_settings hp)).event (by rfl))
  | sendAndCall sender input deposited feeReceived =>
    obtain ⟨s₁, _, _, l₁, hp, hm, rfl⟩ := sendAndCall_eq_ok h
    exact .quiet (((sendTeleporterMessage_quiet hm).pre (prepareSend_settings hp)).event (by rfl))
  | addCollateral sender remote deposited =>
    obtain ⟨hr, -, hs, -, rfl⟩ := addCollateral_retains h
    refine .lock remote _ _ _ hr ?_ hs rfl ?_
    · omega
    · split <;> simp [Log.isCollateral]
  | receiveTeleporterMessage sourceBlockchainID originSenderAddress message success =>
    exact receiveTeleporterMessage_collateralStep h

/-! ## The accounts along a run -/

section
variable {events : List Log}

theorem CollateralInv.quiet (hi : CollateralInv s events) (hq : Quiet s s' l) :
    CollateralInv s' (events ++ l) := by
  intro remote
  rw [hq.settings, registrations_append, retainedCollateral_append,
    registrations_of_quiet hq.log, retainedCollateral_of_quiet hq.log, List.append_nil,
    Nat.add_zero]
  exact hi remote

/-- A registration of a remote that was never registered: its only registration asks for the
collateral it still needs. -/
theorem CollateralInv.register (hi : CollateralInv s events) {remote : Remote}
    {settings : RemoteTokenTransferrerSettings} {decimals : ℕ}
    (hu : (s.registeredRemotes remote).registered = false) (hr : settings.registered = true)
    (hs : s'.registeredRemotes = update s.registeredRemotes remote settings) :
    CollateralInv s' (events ++ [.remoteRegistered remote settings.collateralNeeded decimals]) := by
  intro r
  have hret : retainedCollateral r
      [.remoteRegistered remote settings.collateralNeeded decimals] = 0 := by
    simp [retainedCollateral]
  rw [hs, registrations_append, retainedCollateral_append, hret, Nat.add_zero]
  rcases eq_or_ne r remote with rfl | hne
  · obtain ⟨h₁, h₂⟩ := (hi r).of_unregistered hu
    have hreg : registrations r [.remoteRegistered r settings.collateralNeeded decimals] =
        [settings.collateralNeeded] := by
      simp [registrations]
    rw [update_self, h₁, h₂, hreg, List.nil_append]
    exact .registered hr (Nat.zero_add _)
  · have hreg : registrations r [.remoteRegistered remote settings.collateralNeeded decimals] =
        [] := by
      simp [registrations, Ne.symm hne]
    rw [update_of_ne hne, hreg, List.append_nil]
    exact hi r

theorem CollateralInv.lock (hi : CollateralInv s events) {remote : Remote} {amount remaining : ℕ}
    {rest : List Log} (hr : (s.registeredRemotes remote).registered = true)
    (hc : amount + remaining = (s.registeredRemotes remote).collateralNeeded)
    (hs : s'.registeredRemotes = update s.registeredRemotes remote
      { s.registeredRemotes remote with collateralNeeded := remaining })
    (hq : ∀ e ∈ rest, e.isCollateral = false) :
    CollateralInv s' (events ++ .collateralAdded remote amount remaining :: rest) := by
  intro r
  have hreg : registrations r [.collateralAdded remote amount remaining] = [] := rfl
  rw [hs, ← List.singleton_append, registrations_append, registrations_append,
    retainedCollateral_append, retainedCollateral_append, registrations_of_quiet hq,
    retainedCollateral_of_quiet hq, hreg, List.append_nil, List.append_nil, Nat.add_zero]
  rcases eq_or_ne r remote with rfl | hne
  · obtain ⟨c, h₁, h₂⟩ := (hi r).of_registered hr
    have hadd : retainedCollateral r [.collateralAdded r amount remaining] = amount := by
      simp [retainedCollateral]
    rw [update_self, h₁, hadd]
    refine .registered hr ?_
    dsimp only
    omega
  · have hret : retainedCollateral r [.collateralAdded remote amount remaining] = 0 := by
      simp [retainedCollateral, Ne.symm hne]
    rw [update_of_ne hne, hret, Nat.add_zero]
    exact hi r

theorem CollateralStep.inv (h : CollateralStep s s' l) (hi : CollateralInv s events) :
    CollateralInv s' (events ++ l) := by
  cases h with
  | quiet hq => exact hi.quiet hq
  | register remote settings decimals hu hr hs hl => exact hl ▸ hi.register hu hr hs
  | lock remote amount remaining rest hr hc hs hl hq => exact hl ▸ hi.lock hr hc hs hq

end

theorem tokenHomeInit_collateralInv {blockchainID : Bytes32} {tokenAddress : Address}
    {tokenDecimals balance : ℕ} {s₀ : State}
    (h : tokenHomeInit blockchainID tokenAddress tokenDecimals balance = .ok s₀) :
    CollateralInv s₀ [] := by
  simp only [tokenHomeInit, bind_eq_ok, require_eq_ok, pure_eq_ok] at h
  obtain ⟨_, -, _, -, rfl⟩ := h
  exact fun _ => .unregistered rfl rfl

/-- Along every run from a fresh home, the log accounts for every remote. -/
theorem exec_collateralInv {self : Address} {blockchainID : Bytes32} {tokenAddress : Address}
    {tokenDecimals balance : ℕ} {s₀ s : State} {tr : List (Call × List Log)}
    (h0 : tokenHomeInit blockchainID tokenAddress tokenDecimals balance = .ok s₀)
    (h : Exec (step self) s₀ tr s) : CollateralInv s (log tr) := by
  induction h with
  | nil => exact tokenHomeInit_collateralInv h0
  | snoc _ hc ih =>
    rw [log_snoc]
    exact (step_collateralStep hc).inv ih

/-! ## The collateral is exact -/

theorem collateral_is_exact :
    (∀ (s s' : State) (l : List Log) (remote : Remote) (message : RegisterRemoteMessage),
      registerRemote s remote message = .ok (s', l) →
      ∃ m b, deriveTokenMultiplierValues s.tokenDecimals message.remoteTokenDecimals =
          .ok (m, b) ∧
        (s'.registeredRemotes remote).tokenMultiplier = m ∧
        (s'.registeredRemotes remote).multiplyOnRemote = b ∧
        IsLeast {c | message.initialReserveImbalance ≤ remoteValue m b c}
          (s'.registeredRemotes remote).collateralNeeded ∧
        (∀ c r, applyTokenScale m b c = .ok r →
          (message.initialReserveImbalance ≤ r ↔
            (s'.registeredRemotes remote).collateralNeeded ≤ c)) ∧
        l = [.remoteRegistered remote (s'.registeredRemotes remote).collateralNeeded
          message.remoteTokenDecimals]) ∧
    (∀ (s s' : State) (l : List Log) (sender : Address) (remote : Remote) (deposited : ℕ),
      addCollateral s sender remote deposited = .ok (s', l) →
      (s'.registeredRemotes remote).collateralNeeded =
          (s.registeredRemotes remote).collateralNeeded - deposited ∧
        s'.balance = s.balance + min deposited (s.registeredRemotes remote).collateralNeeded ∧
        l = .collateralAdded remote (min deposited (s.registeredRemotes remote).collateralNeeded)
            ((s.registeredRemotes remote).collateralNeeded - deposited) ::
          if (s.registeredRemotes remote).collateralNeeded < deposited then
            [.tokensWithdrawn sender (deposited - (s.registeredRemotes remote).collateralNeeded)]
          else []) ∧
    (∀ (self : Address) (blockchainID : Bytes32) (tokenAddress : Address)
      (tokenDecimals balance : ℕ) (s₀ s : State) (tr : List (Call × List Log)),
      tokenHomeInit blockchainID tokenAddress tokenDecimals balance = .ok s₀ →
      Exec (step self) s₀ tr s →
      ∀ remote, (s.registeredRemotes remote).registered = true →
        ∃ c, registrations remote (log tr) = [c] ∧
          retainedCollateral remote (log tr) + (s.registeredRemotes remote).collateralNeeded = c ∧
          ((s.registeredRemotes remote).collateralNeeded = 0 ↔
            retainedCollateral remote (log tr) = c)) := by
  refine ⟨fun s s' l remote message h => ?_, fun s s' l sender remote deposited h => ?_,
    fun self blockchainID tokenAddress tokenDecimals balance s₀ s tr h0 h remote hr => ?_⟩
  · -- the registration: the threshold of `registerRemote_collateral`, and its log
    obtain ⟨m, b, hd, hs, hiff⟩ := registerRemote_collateral h
    obtain ⟨-, settings, -, -, rfl, rfl⟩ := registerRemote_eq_ok h
    refine ⟨m, b, hd, by rw [hs], by rw [hs], ⟨(hiff _).2 le_rfl, fun c hc => (hiff c).1 hc⟩,
      fun c r hr => ?_, by simp⟩
    rw [applyTokenScale_eq_ok hr]
    exact hiff c
  · -- one deposit
    obtain ⟨-, -, hs, hb, hl⟩ := addCollateral_retains h
    exact ⟨by simp [hs], hb, hl⟩
  · -- the run: read the accounts of `remote` off the invariant
    obtain ⟨c, hc, hsum⟩ := (exec_collateralInv h0 h remote).of_registered hr
    exact ⟨c, hc, hsum, by omega⟩

theorem collateral_is_exact_eleven : ∃ (s₀ s : State) (tr : List (Call × List Log)),
    tokenHomeInit 1 1 6 0 = .ok s₀ ∧ Exec (step 0) s₀ tr s ∧
    (s.registeredRemotes (2, 5)).registered = true ∧
    (s.registeredRemotes (2, 5)).collateralNeeded = 0 ∧
    ∃ c, registrations (2, 5) (log tr) = [c] ∧ retainedCollateral (2, 5) (log tr) = c := by
  -- a remote at (2, 5) with one more decimal than the home registers an imbalance of 11, which
  -- needs 2 home tokens; a deposit of 5 locks them
  obtain ⟨s₀, tr, s, h0, hrun, hr, hn⟩ : ∃ s₀ tr s, tokenHomeInit 1 1 6 0 = .ok s₀ ∧
      Exec (step 0) s₀ tr s ∧ (s.registeredRemotes (2, 5)).registered = true ∧
      (s.registeredRemotes (2, 5)).collateralNeeded = 0 :=
    ⟨_, _, _, rfl, .snoc (.snoc (.nil _)
      (show step 0 _ (.receiveTeleporterMessage 2 5 (.registerRemote ⟨11, 6, 7⟩) true) = _ from rfl))
      (show step 0 _ (.addCollateral 7 (2, 5) 5) = _ from rfl), rfl, rfl⟩
  obtain ⟨c, hc, -, hiff⟩ := collateral_is_exact.2.2 0 1 1 6 0 s₀ s tr h0 hrun (2, 5) hr
  exact ⟨s₀, s, tr, h0, hrun, hr, hn, c, hc, hiff.1 hn⟩


end TokenHome

end Ictt
