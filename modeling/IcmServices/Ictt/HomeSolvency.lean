import IcmServices.Ictt.HomeStep
import IcmServices.Lib.Finsum

/-!
# The home stays solvent

What the home owes a remote is the home value of the remote's transferred balance, and the home
holds at least what it owes all remotes together (`home_solvent`). Rounding works for the home:
a credit of the scaled image of `x` home tokens raises what is owed by at most `x`
(`homeValue_add_apply_le`), and a debit of `a` remote tokens lowers it by at least what
`removeTokenScale` pays for them (`homeValue_sub_add_le`).

The argument is a margin that no call shrinks: `Keeps s s'` says the books are kept and
`totalOwed s' + s.balance ≤ totalOwed s + s'.balance`. Each entry point is shown to keep the
margin from its spec lemmas in `HomeStep.lean`, and solvency follows along every run. What is
owed reads only the two mappings, so `totalOwed` and `Books` take them and not the state.
-/

namespace Ictt

namespace TokenHome

open Solidity Function TokenScalingUtils Contract

/-- What the home owes a remote with `settings` for `transferred` remote tokens, in home tokens. -/
def owed (settings : RemoteTokenTransferrerSettings) (transferred : ℕ) : ℕ :=
  homeValue settings.tokenMultiplier settings.multiplyOnRemote transferred

/-- What the home owes all remotes. -/
noncomputable def totalOwed (registeredRemotes : Remote → RemoteTokenTransferrerSettings)
    (transferredBalances : Remote → ℕ) : ℕ :=
  ∑ᶠ remote, owed (registeredRemotes remote) (transferredBalances remote)

/-- Finitely many remotes hold a transferred balance, and only registered ones. -/
structure Books (registeredRemotes : Remote → RemoteTokenTransferrerSettings)
    (transferredBalances : Remote → ℕ) : Prop where
  finite : (support transferredBalances).Finite
  unregistered : ∀ remote, (registeredRemotes remote).registered = false →
    transferredBalances remote = 0

/-- A call that keeps the books and does not shrink the margin `balance - totalOwed`. -/
structure Keeps (s s' : State) : Prop where
  books : Books s'.registeredRemotes s'.transferredBalances
  margin : totalOwed s'.registeredRemotes s'.transferredBalances + s.balance ≤
    totalOwed s.registeredRemotes s.transferredBalances + s'.balance

/-! ## What one write does to the total -/

section
variable {reg : Remote → RemoteTokenTransferrerSettings} {tb : Remote → ℕ}

@[simp] theorem owed_zero (settings : RemoteTokenTransferrerSettings) : owed settings 0 = 0 :=
  homeValue_zero _ _

theorem Books.owed_finite (hb : Books reg tb) :
    (support fun remote => owed (reg remote) (tb remote)).Finite :=
  hb.finite.subset fun remote hr h0 => hr (by simp only [h0, owed_zero])

/-- Writing `v` as a remote's transferred balance replaces what is owed to it. -/
theorem totalOwed_write (hb : Books reg tb) (remote : Remote) (v : ℕ) :
    totalOwed reg (update tb remote v) + owed (reg remote) (tb remote) =
      totalOwed reg tb + owed (reg remote) v := by
  have hf : ∀ r, owed (reg r) (update tb remote v r) =
      update (fun r => owed (reg r) (tb r)) remote (owed (reg remote) v) r :=
    fun r => apply_update (fun r => owed (reg r)) tb remote v r
  unfold totalOwed
  rw [finsum_congr hf]
  exact Mapping.finsum_update_add hb.owed_finite remote _

/-- A credit of the scaled image of `x` home tokens raises what is owed by at most `x`. -/
theorem totalOwed_credit (hb : Books reg tb) (remote : Remote) (x : ℕ) :
    totalOwed reg (update tb remote (tb remote + remoteValue (reg remote).tokenMultiplier
      (reg remote).multiplyOnRemote x)) ≤ totalOwed reg tb + x := by
  have hw := totalOwed_write hb remote
    (tb remote + remoteValue (reg remote).tokenMultiplier (reg remote).multiplyOnRemote x)
  have hv : owed (reg remote) (tb remote +
      remoteValue (reg remote).tokenMultiplier (reg remote).multiplyOnRemote x) ≤
      owed (reg remote) (tb remote) + x :=
    homeValue_add_apply_le _ _ _ _
  omega

/-- A debit of `a` remote tokens lowers what is owed by at least their home value. -/
theorem totalOwed_debit (hb : Books reg tb) {remote : Remote} {a : ℕ} (ha : a ≤ tb remote) :
    totalOwed reg (update tb remote (tb remote - a)) +
      homeValue (reg remote).tokenMultiplier (reg remote).multiplyOnRemote a ≤
      totalOwed reg tb := by
  have hw := totalOwed_write hb remote (tb remote - a)
  have hv : owed (reg remote) (tb remote - a) +
      homeValue (reg remote).tokenMultiplier (reg remote).multiplyOnRemote a ≤
      owed (reg remote) (tb remote) :=
    homeValue_sub_add_le _ _ ha
  omega

theorem totalOwed_settings {reg' : Remote → RemoteTokenTransferrerSettings}
    (h : ∀ remote, owed (reg' remote) (tb remote) = owed (reg remote) (tb remote)) :
    totalOwed reg' tb = totalOwed reg tb :=
  finsum_congr h

theorem Books.write (hb : Books reg tb) {remote : Remote}
    (hr : (reg remote).registered = true) (v : ℕ) : Books reg (update tb remote v) := by
  refine ⟨Mapping.Finite.update hb.finite remote v, fun r hu => ?_⟩
  have hne : r ≠ remote := by
    rintro rfl
    simp_all
  exact (update_of_ne hne _ _).trans (hb.unregistered r hu)

theorem Books.settings (hb : Books reg tb) {reg' : Remote → RemoteTokenTransferrerSettings}
    (h : ∀ remote, (reg' remote).registered = false → (reg remote).registered = false) :
    Books reg' tb :=
  ⟨hb.finite, fun remote hu => hb.unregistered remote (h remote hu)⟩

theorem Books.register (hb : Books reg tb) {remote : Remote}
    (hu : (reg remote).registered = false) {settings : RemoteTokenTransferrerSettings}
    (hr : settings.registered = true) :
    Books (update reg remote settings) tb ∧
      totalOwed (update reg remote settings) tb = totalOwed reg tb := by
  have h0 : tb remote = 0 := hb.unregistered remote hu
  refine ⟨hb.settings fun r hr' => ?_, totalOwed_settings fun r => ?_⟩
  · rcases eq_or_ne r remote with rfl | hne
    · simp_all
    · rwa [update_of_ne hne] at hr'
  · rcases eq_or_ne r remote with rfl | hne
    · simp [h0]
    · rw [update_of_ne hne]

theorem Books.setCollateral (hb : Books reg tb) (remote : Remote) (c : ℕ) :
    Books (update reg remote { reg remote with collateralNeeded := c }) tb ∧
      totalOwed (update reg remote { reg remote with collateralNeeded := c }) tb =
        totalOwed reg tb := by
  refine ⟨hb.settings fun r hr' => ?_, totalOwed_settings fun r => ?_⟩
  · rcases eq_or_ne r remote with rfl | hne
    · simpa using hr'
    · rwa [update_of_ne hne] at hr'
  · rcases eq_or_ne r remote with rfl | hne
    · simp [owed]
    · rw [update_of_ne hne]

end

/-! ## Each entry point keeps the margin -/

variable {s s' : State} {l : List Log}

/-- A send credits the remote with the image of the deposit and passes the fee through. -/
theorem sent_keeps (hb : Books s.registeredRemotes s.transferredBalances) {s₁ : State}
    {remote : Remote} {deposited feeAmount feeReceived scaled fee requiredGasLimit : ℕ}
    {primaryFeeTokenAddress : Address} {message : TransferrerMessage} {l₁ : List Log}
    (hp : prepareSend s remote deposited primaryFeeTokenAddress feeAmount feeReceived =
      .ok (s₁, scaled, fee))
    (hs : sendTeleporterMessage s₁ remote primaryFeeTokenAddress fee requiredGasLimit message =
      .ok (s', l₁)) :
    Keeps s s' := by
  obtain ⟨hr, -, -, rfl, rfl⟩ := prepareSend_eq_ok hp
  obtain ⟨hpaid, rfl, -⟩ := sendTeleporterMessage_eq_ok hs
  have hc := totalOwed_credit hb remote deposited
  exact ⟨hb.write hr _, by dsimp only at hpaid ⊢; omega⟩

theorem send_keeps (hb : Books s.registeredRemotes s.transferredBalances) {sender : Address}
    {input : SendTokensInput} {deposited feeReceived : ℕ}
    (h : send s sender input deposited feeReceived = .ok (s', l)) : Keeps s s' := by
  obtain ⟨-, -, s₁, scaled, fee, l₁, hp, hs, -⟩ := send_eq_ok h
  exact sent_keeps hb hp hs

theorem sendAndCall_keeps (hb : Books s.registeredRemotes s.transferredBalances)
    {sourceBlockchainID : Bytes32} {originTokenTransferrerAddress originSenderAddress : Address}
    {input : SendAndCallInput} {deposited feeReceived : ℕ}
    (h : sendAndCall s sourceBlockchainID originTokenTransferrerAddress originSenderAddress input
      deposited feeReceived = .ok (s', l)) : Keeps s s' := by
  obtain ⟨s₁, scaled, fee, l₁, hp, hs, -⟩ := sendAndCall_eq_ok h
  exact sent_keeps hb hp hs

theorem addCollateral_keeps (hb : Books s.registeredRemotes s.transferredBalances)
    {sender : Address} {remote : Remote} {deposited : ℕ}
    (h : addCollateral s sender remote deposited = .ok (s', l)) : Keeps s s' := by
  obtain ⟨-, excess, remaining, hle, -, rfl⟩ := addCollateral_eq_ok h
  obtain ⟨hb', ht⟩ := hb.setCollateral remote remaining
  exact ⟨hb', by dsimp only at ht ⊢; omega⟩

/-- A received transfer: the debit takes at least the home amount off what is owed. -/
theorem received_debit (hb : Books s.registeredRemotes s.transferredBalances)
    {remote : Remote} {amount homeAmount : ℕ}
    (h : processReceivedTransfer s remote amount = .ok (s', homeAmount)) :
    Books s'.registeredRemotes s'.transferredBalances ∧
      totalOwed s'.registeredRemotes s'.transferredBalances + homeAmount ≤
        totalOwed s.registeredRemotes s.transferredBalances ∧
      s'.balance = s.balance ∧ s'.tokenAddress = s.tokenAddress := by
  obtain ⟨hr, -, ha, -, rfl, rfl⟩ := processReceivedTransfer_eq_ok h
  exact ⟨hb.write hr _, totalOwed_debit hb ha, rfl, rfl⟩

/-- A route of `amount` home tokens: all of it to the fallback, or the rest after the fee
credited to the destination, the fee paid in the home token. -/
theorem routed_keeps (hb : Books s.registeredRemotes s.transferredBalances) {s₁ : State}
    {remote : Remote} {amount fee adjusted requiredGasLimit : ℕ} {multiHopFallback : Address}
    (hp : prepareMultiHopRouting s remote amount fee = .ok (s₁, adjusted))
    (h : adjusted = 0 ∧ withdraw s₁ multiHopFallback amount = .ok (s', l) ∨
      adjusted ≠ 0 ∧ ∃ message l₁, sendTeleporterMessage s₁ remote s.tokenAddress fee
        requiredGasLimit message = .ok (s', l₁)) :
    Books s'.registeredRemotes s'.transferredBalances ∧
      totalOwed s'.registeredRemotes s'.transferredBalances + s.balance ≤
        totalOwed s.registeredRemotes s.transferredBalances + amount + s'.balance := by
  rcases prepareMultiHopRouting_eq_ok hp with ⟨rfl, rfl⟩ | ⟨hr, -, hlt, hpos, rfl, rfl⟩
  · -- nothing was credited, so only the fallback payout can have happened
    rcases h with ⟨-, hw⟩ | ⟨hne, -⟩
    · obtain ⟨hle, rfl, -⟩ := withdraw_eq_ok hw
      exact ⟨hb, by dsimp only; omega⟩
    · exact absurd rfl hne
  · rcases h with ⟨h0, -⟩ | ⟨-, message, l₁, hs⟩
    · omega
    · obtain ⟨hpaid, rfl, -⟩ := sendTeleporterMessage_eq_ok hs
      have hc := totalOwed_credit hb remote (amount - fee)
      refine ⟨hb.write hr _, ?_⟩
      dsimp only at hpaid ⊢
      simp only [feePaid, if_true] at hpaid ⊢
      omega

section
variable {sourceBlockchainID : Bytes32} {originSenderAddress : Address} {success : Bool}

theorem receiveTeleporterMessage_keeps (hb : Books s.registeredRemotes s.transferredBalances)
    {message : TransferrerMessage}
    (h : receiveTeleporterMessage s sourceBlockchainID originSenderAddress message success =
      .ok (s', l)) : Keeps s s' := by
  cases message with
  | registerRemote payload =>
    obtain ⟨hu, settings, hr, -, rfl, -⟩ :=
      registerRemote_eq_ok (receive_registerRemote_eq_ok h)
    obtain ⟨hb', ht⟩ := hb.register hu hr
    exact ⟨hb', by dsimp only; omega⟩
  | singleHopSend payload =>
    obtain ⟨s₁, homeAmount, hp, hw⟩ := receive_singleHopSend_eq_ok h
    obtain ⟨hb₁, hd, hbal, -⟩ := received_debit hb hp
    obtain ⟨hle, rfl, -⟩ := withdraw_eq_ok hw
    exact ⟨hb₁, by dsimp only; omega⟩
  | singleHopCall payload =>
    obtain ⟨s₁, homeAmount, hp, -, -, hc⟩ := receive_singleHopCall_eq_ok h
    obtain ⟨hb₁, hd, hbal, -⟩ := received_debit hb hp
    obtain ⟨hle, rfl⟩ := handleSendAndCall_eq_ok hc
    exact ⟨hb₁, by dsimp only; omega⟩
  | multiHopSend payload =>
    obtain ⟨s₁, homeAmount, fee, hm, hr⟩ := receive_multiHopSend_eq_ok h
    obtain ⟨hb₁, hd, hbal, -⟩ := received_debit hb (processMultiHopTransfer_eq_ok hm).1
    obtain ⟨s₂, adjusted, hp, hroute⟩ := routeMultiHop_eq_ok hr
    obtain ⟨hb', hm'⟩ := routed_keeps hb₁ hp
      (hroute.imp id fun ⟨hne, l₁, hs, _⟩ => ⟨hne, _, l₁, hs⟩)
    exact ⟨hb', by omega⟩
  | multiHopCall payload =>
    obtain ⟨s₁, homeAmount, fee, hm, hr⟩ := receive_multiHopCall_eq_ok h
    obtain ⟨hb₁, hd, hbal, -⟩ := received_debit hb (processMultiHopTransfer_eq_ok hm).1
    obtain ⟨s₂, adjusted, hp, hroute⟩ := routeMultiHopSendAndCall_eq_ok hr
    obtain ⟨hb', hm'⟩ := routed_keeps hb₁ hp
      (hroute.imp id fun ⟨hne, l₁, hs, _⟩ => ⟨hne, _, l₁, hs⟩)
    exact ⟨hb', by omega⟩

end

theorem step_keeps (hb : Books s.registeredRemotes s.transferredBalances) {self : Address}
    {c : Call} (h : step self s c = .ok (s', l)) : Keeps s s' := by
  cases c with
  | send sender input deposited feeReceived => exact send_keeps hb h
  | sendAndCall sender input deposited feeReceived => exact sendAndCall_keeps hb h
  | addCollateral sender remote deposited => exact addCollateral_keeps hb h
  | receiveTeleporterMessage sourceBlockchainID originSenderAddress message success =>
    exact receiveTeleporterMessage_keeps hb h

/-! ## Along every run -/

theorem tokenHomeInit_books {blockchainID : Bytes32} {tokenAddress : Address}
    {tokenDecimals balance : ℕ} (h : tokenHomeInit blockchainID tokenAddress tokenDecimals balance = .ok s) :
    Books s.registeredRemotes s.transferredBalances ∧
      totalOwed s.registeredRemotes s.transferredBalances = 0 := by
  simp only [tokenHomeInit, bind_eq_ok, require_eq_ok, pure_eq_ok] at h
  obtain ⟨_, -, _, -, rfl⟩ := h
  exact ⟨⟨by simp, fun _ _ => rfl⟩, by simp [totalOwed]⟩

theorem exec_keeps {self : Address} {tr : List (Call × List Log)} (h : Exec (step self) s tr s')
    (hb : Books s.registeredRemotes s.transferredBalances) :
    Keeps s s' := by
  have hbooks : ∀ t c u out, Books t.registeredRemotes t.transferredBalances →
      step self t c = .ok (u, out) → Books u.registeredRemotes u.transferredBalances :=
    fun t c u out hbt hc => (step_keeps hbt hc).books
  have hmargin : ∀ t c u out, Books t.registeredRemotes t.transferredBalances →
      step self t c = .ok (u, out) →
      totalOwed u.registeredRemotes u.transferredBalances + t.balance ≤
        totalOwed t.registeredRemotes t.transferredBalances + u.balance :=
    fun t c u out hbt hc => (step_keeps hbt hc).margin
  -- margins add up along the run
  exact ⟨h.inv hbooks hb, h.rel hbooks hmargin (fun t => le_refl _) (fun a b c hab hbc => by omega) hb⟩

theorem home_solvent {blockchainID : Bytes32} {tokenAddress self : Address}
    {tokenDecimals balance : ℕ} {s₀ s : State} {tr : List (Call × List Log)}
    (h0 : tokenHomeInit blockchainID tokenAddress tokenDecimals balance = .ok s₀)
    (h : Exec (step self) s₀ tr s) :
    (support s.transferredBalances).Finite ∧
      ∑ᶠ remote ∈ {remote | (s.registeredRemotes remote).registered = true},
        homeValue (s.registeredRemotes remote).tokenMultiplier
          (s.registeredRemotes remote).multiplyOnRemote (s.transferredBalances remote) ≤
        s.balance := by
  obtain ⟨hb₀, ht₀⟩ := tokenHomeInit_books h0
  have hk := exec_keeps h hb₀
  have hs : totalOwed s.registeredRemotes s.transferredBalances ≤ s.balance := by
    have := hk.margin
    omega
  -- outside the registered remotes nothing is owed
  have hsupp : support (fun remote => owed (s.registeredRemotes remote)
      (s.transferredBalances remote)) ⊆ {remote | (s.registeredRemotes remote).registered = true} := by
    intro remote hr
    by_contra hu
    have h0 := hk.books.unregistered remote (by simpa using hu)
    exact hr (by simp only [h0, owed_zero])
  refine ⟨hk.books.finite, ?_⟩
  change ∑ᶠ remote ∈ _, owed (s.registeredRemotes remote) (s.transferredBalances remote) ≤ _
  rw [finsum_mem_inter_support_eq' _ _ Set.univ fun r hr => ⟨fun _ => trivial, fun _ => hsupp hr⟩,
    finsum_mem_univ]
  exact hs

theorem home_solvent_after_send : ∃ (s₀ s : State) (tr : List (Call × List Log)),
    tokenHomeInit 1 1 18 0 = .ok s₀ ∧ Exec (step 0) s₀ tr s ∧ s.transferredBalances (2, 5) = 50 ∧
    (support s.transferredBalances).Finite ∧
      ∑ᶠ remote ∈ {remote | (s.registeredRemotes remote).registered = true},
        homeValue (s.registeredRemotes remote).tokenMultiplier
          (s.registeredRemotes remote).multiplyOnRemote (s.transferredBalances remote) ≤
        s.balance := by
  -- a remote at (2, 5) registers, then 50 tokens are sent to it
  obtain ⟨s₀, tr, s, h0, hrun, hsent⟩ : ∃ s₀ tr s, tokenHomeInit 1 1 18 0 = .ok s₀ ∧
      Exec (step 0) s₀ tr s ∧ s.transferredBalances (2, 5) = 50 :=
    ⟨_, _, _, rfl, .snoc (.snoc (.nil _)
      (show step 0 _ (.receiveTeleporterMessage 2 5 (.registerRemote ⟨0, 18, 18⟩) true) = _ from rfl))
      (show step 0 _ (.send 7 ⟨2, 5, 9, 0, 0, 0, 100, 0⟩ 50 0) = _ from rfl), rfl⟩
  exact ⟨s₀, s, tr, h0, hrun, hsent, home_solvent h0 hrun⟩

end TokenHome

end Ictt
