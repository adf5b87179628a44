import IcmServices.Ictt.RemoteMint
import IcmServices.Ictt.HomeCredit

/-!
# The home, its remotes and the messages between them

A `World` composes one `TokenHome` at `home` with any number of remotes (`remotes`, keyed by
chain and address) over Teleporter. The messages handed to Teleporter and not yet executed are
in flight (`inFlight`); any of them may be executed at any time and in any order. An execution
that reverts leaves the message in flight to be retried, one that succeeds takes it out, so each
message is executed at most once. The chains around the remotes hold the balances of the two burn
addresses (`burnedTxFees`, `burnedForTransfer`): a native remote reads the first, and transaction
fees and plain transfers raise them. `burned` is a ghost: what each remote's `_burn` sent away.

The home's books against a remote `R`, `_transferredBalances[R]`, are what `R` holds plus what is
in flight between them (`pendingToRemote`, `pendingToHome`). What `R` holds is its supply for an
ERC-20 remote and, for a native remote, the coins it minted less the burned fees it reported and
less what `_burn` burned (`Balanced`). Every step keeps this (`step_inv`), so it holds in every
reachable world (`reachable_inv`). Read with the code's own `totalNativeAssetSupply`, which
counts every coin at `BURNED_FOR_TRANSFER_ADDRESS` as burned, the equation is off by the coins
that reached that address by other means (`strayBurned`). A home send whose recipient is that
address is one such means.

The books also say when the home can execute a return. An ERC-20 remote's returns in flight never
exceed its transferred balance (`erc20_return_covered`). A native remote's may: the collateral for
its reserve imbalance is not part of its transferred balance (`native_return_reverts`).
-/

namespace Ictt

open Solidity

namespace TokenHome

/-- The delivery of a Teleporter message, which only Teleporter makes. -/
def Call.isDelivery : Call → Bool
  | .receiveTeleporterMessage .. => true
  | _ => false

theorem Call.debited_of_isDelivery {c : Call} (h : c.isDelivery = false) : c.debited = 0 := by
  cases c with
  | receiveTeleporterMessage => cases h
  | _ => rfl

end TokenHome

namespace TokenRemote

open TokenScalingUtils

/-- The delivery of a Teleporter message, which only Teleporter makes. -/
def Call.isDelivery : Call → Bool
  | .receiveTeleporterMessage .. => true
  | _ => false

theorem Call.inflow_of_isDelivery {c : Call} (h : c.isDelivery = false) : c.inflow = 0 := by
  cases c with
  | receiveTeleporterMessage => cases h
  | _ => rfl

/-- A remote executes single hops only, and a single hop credits what it carries. -/
theorem step_receive_singleHop {erc20 : ERC20.Ledger} {self : Address} {burnedTxFees : ℕ} {s s' : State} {l : List Log}
    {sourceBlockchainID : Bytes32} {originSenderAddress : Address} {message : TransferrerMessage}
    {success : Bool} {spent : ℕ}
    (h : step erc20 self burnedTxFees s (.receiveTeleporterMessage sourceBlockchainID
      originSenderAddress message success spent) = .ok (s', l)) :
    message.singleHopAmount = message.amount := by
  simp only [step, receiveTeleporterMessage, bind_eq_ok, require_eq_ok] at h
  obtain ⟨_, -, _, -, h⟩ := h
  cases message with
  | singleHopSend => rfl
  | singleHopCall => rfl
  | registerRemote => cases h
  | multiHopSend => cases h
  | multiHopCall => cases h

/-- A collateralized native remote sends home any amount whose home value passes the send's check:
the coins come with the call. -/
theorem step_send_home {erc20 : ERC20.Ledger} {self : Address} {burnedTxFees : ℕ} {s : State}
    (hk : s.kind = .native) (hc : s.isCollateralized = true)
    (hh : s.tokenHomeBlockchainID ≠ 0 ∧ s.tokenHomeAddress ≠ 0) {sender recipient : Address}
    (hrec : recipient ≠ 0) {amount homeAmount : ℕ}
    (hscale : removeTokenScale s.tokenMultiplier s.multiplyOnRemote amount = .ok homeAmount)
    (hpos : 0 < homeAmount) :
    ∃ s' l, step erc20 self burnedTxFees s (.send sender ⟨s.tokenHomeBlockchainID,
        s.tokenHomeAddress, recipient, 0, 0, 0, 1, 0⟩ amount 0) = .ok (s', l) ∧
      Log.sendTeleporterMessage (s.tokenHomeBlockchainID, s.tokenHomeAddress) 0 0 1
        (.singleHopSend ⟨recipient, amount⟩) ∈ l := by
  have h0 := removeTokenScale_zero hscale
  -- the coins go to `BURNED_FOR_TRANSFER_ADDRESS`, the message home, and no fee is taken
  refine ⟨s, [.sendValue burnedForTransferAddress amount,
    .sendTeleporterMessage (s.tokenHomeBlockchainID, s.tokenHomeAddress) 0 0 1
      (.singleHopSend ⟨recipient, amount⟩),
    .tokensSent sender ⟨s.tokenHomeBlockchainID, s.tokenHomeAddress, recipient, 0, 0, 0, 1, 0⟩
      amount], ?_, by simp⟩
  simp [step, onlyWhenCollateralized, hk, hc, send, processSend, prepareSend, burn, handleFees,
    sendTeleporterMessage, teleporterFee, validateSendTokensInput, validateSingleHopInput,
    bind_eq_ok, hscale, h0, hpos]
  refine ⟨hrec, hh.1, hh.2, ?_⟩
  -- the state is the remote's own: its `kind` and `isCollateralized` were already so
  cases s
  simp only at hk hc
  subst hk hc
  rfl

/-- `tokenRemoteInit` writes the settings it checked, an empty token and no coins. -/
theorem tokenRemoteInit_eq_ok {kind : Kind} {blockchainID : Bytes32}
    {teleporterMessenger : Address} {settings : TokenRemoteSettings}
    {initialReserveImbalance tokenDecimals : ℕ} {s : State}
    (h : tokenRemoteInit kind blockchainID teleporterMessenger settings initialReserveImbalance
      tokenDecimals = .ok s) :
    settings.tokenHomeBlockchainID ≠ 0 ∧ settings.tokenHomeAddress ≠ 0 ∧
      settings.tokenHomeBlockchainID ≠ blockchainID ∧ s.kind = kind ∧
      s.blockchainID = blockchainID ∧
      (s.tokenHomeBlockchainID, s.tokenHomeAddress) =
        (settings.tokenHomeBlockchainID, settings.tokenHomeAddress) ∧
      s.initialReserveImbalance = initialReserveImbalance ∧ s.token = emptyToken ∧
      s.totalMinted = 0 ∧ s.lastestBurnedFeesReported = 0 := by
  simp only [tokenRemoteInit, bind_eq_ok, require_eq_ok, pure_eq_ok] at h
  obtain ⟨_, h0, _, hne, _, ha, _, -, _, -, ⟨m, b⟩, -, rfl⟩ := h
  exact ⟨h0, ha, hne, rfl, rfl, rfl, rfl, rfl, rfl, rfl⟩

theorem emptyToken_sound : emptyToken.Sound := ⟨by simp [emptyToken], by simp [emptyToken]⟩

end TokenRemote

namespace Network

open Function TokenRemote TokenScalingUtils

/-- A message handed to Teleporter: the chain and contract it leaves, those it goes to, and what
it says. -/
structure Message where
  source : Remote
  destination : Remote
  message : TransferrerMessage
  deriving DecidableEq

/-- The message a log entry of the home at `home` hands to Teleporter. -/
def homeMessage (home : Remote) : TokenHome.Log → Option Message
  | .sendTeleporterMessage destination _ _ _ message => some ⟨home, destination, message⟩
  | _ => none

/-- The message a log entry of the remote `R` hands to Teleporter. -/
def remoteMessage (R : Remote) : TokenRemote.Log → Option Message
  | .sendTeleporterMessage destination _ _ _ message => some ⟨R, destination, message⟩
  | _ => none

/-- The home, the deployed remotes, the balances of each chain's burn addresses, the ghost of what
each remote burned, and the messages in flight. -/
structure World where
  home : TokenHome.State
  remotes : Remote → Option TokenRemote.State
  burnedTxFees : Bytes32 → ℕ
  burnedForTransfer : Bytes32 → ℕ
  burned : Remote → ℕ
  inFlight : List Message

/-- What may happen next: a user's call into the home or a remote, the execution of a message in
flight (with the outcome of a recipient's call), fees burned on a chain, and a plain transfer to
a chain's `BURNED_FOR_TRANSFER_ADDRESS`. -/
inductive Action
  | callHome (c : TokenHome.Call)
  | callRemote (R : Remote) (c : TokenRemote.Call)
  | deliver (m : Message) (success : Bool) (spent : ℕ)
  | burnFees (chain : Bytes32) (amount : ℕ)
  | sendToBurnAddress (chain : Bytes32) (amount : ℕ)

namespace World

variable (erc20 : ERC20.Ledger)

/-- The world after a call of the home left it in `h` with log `l`: its messages go in flight. -/
def afterHome (w : World) (home : Remote) (h : TokenHome.State) (l : List TokenHome.Log) :
    World :=
  { w with home := h, inFlight := w.inFlight ++ l.filterMap (homeMessage home) }

/-- The world after a call `c` of the remote `R` left it in `s` with log `l`: the coins it sent
to the burn addresses are there, and its messages go in flight. -/
def afterRemote (w : World) (R : Remote) (s : TokenRemote.State) (l : List TokenRemote.Log)
    (c : TokenRemote.Call) : World :=
  { w with
    remotes := update w.remotes R (some s)
    burnedTxFees := update w.burnedTxFees R.1
      (w.burnedTxFees R.1 + nativeTo burnedTxFeesAddress l)
    burnedForTransfer := update w.burnedForTransfer R.1
      (w.burnedForTransfer R.1 + nativeTo burnedForTransferAddress l)
    burned := update w.burned R (w.burned R + c.burned)
    inFlight := w.inFlight ++ l.filterMap (remoteMessage R) }

/-- A call into the home at `home`; `none` when it reverts. -/
def callHome (w : World) (home : Remote) (c : TokenHome.Call) : Option World :=
  match TokenHome.step home.2 w.home c with
  | .ok (h, l) => some (w.afterHome home h l)
  | .error _ => none

/-- A call into the remote `R`, on its chain; `none` when it reverts or `R` is not deployed. -/
def callRemote (w : World) (R : Remote) (c : TokenRemote.Call) : Option World :=
  match w.remotes R with
  | some s =>
    match TokenRemote.step erc20 R.2 (w.burnedTxFees R.1) s c with
    | .ok (s', l) => some (w.afterRemote R s' l c)
    | .error _ => none
  | none => none

/-- The world with the message `m` no longer in flight. -/
def take (w : World) (m : Message) : World := { w with inFlight := w.inFlight.erase m }

/-- Teleporter executes the message `m` in flight at its destination; a success takes it out of
flight, a revert leaves everything as it was. -/
def deliver (w : World) (home : Remote) (m : Message) (success : Bool) (spent : ℕ) :
    Option World :=
  if m ∈ w.inFlight then
    if m.destination = home then
      (w.take m).callHome home (.receiveTeleporterMessage m.source.1 m.source.2 m.message success)
    else
      (w.take m).callRemote erc20 m.destination
        (.receiveTeleporterMessage m.source.1 m.source.2 m.message success spent)
  else none

theorem callHome_eq_some {w w' : World} {home : Remote} {c : TokenHome.Call}
    (h : w.callHome home c = some w') :
    ∃ h l, TokenHome.step home.2 w.home c = .ok (h, l) ∧ w' = w.afterHome home h l := by
  unfold callHome at h
  split at h
  · rename_i h' l hc
    exact ⟨h', l, hc, (Option.some.inj h).symm⟩
  · cases h

theorem callRemote_eq_some {erc20 : ERC20.Ledger} {w w' : World} {R : Remote}
    {c : TokenRemote.Call} (h : w.callRemote erc20 R c = some w') :
    ∃ s s' l, w.remotes R = some s ∧ TokenRemote.step erc20 R.2 (w.burnedTxFees R.1) s c = .ok (s', l) ∧
      w' = w.afterRemote R s' l c := by
  unfold callRemote at h
  split at h
  · rename_i s hs
    split at h
    · rename_i s' l hc
      exact ⟨s, s', l, hs, hc, (Option.some.inj h).symm⟩
    · cases h
  · cases h

end World

/-- One step of the world around the home at `home`; `none` when the call reverts or is a
delivery made by someone other than Teleporter. -/
def step (erc20 : ERC20.Ledger) (home : Remote) (w : World) : Action → Option World
  | .callHome c => if c.isDelivery then none else w.callHome home c
  | .callRemote R c => if c.isDelivery then none else w.callRemote erc20 R c
  | .deliver m success spent => w.deliver erc20 home m success spent
  | .burnFees chain amount =>
    some { w with burnedTxFees := update w.burnedTxFees chain (w.burnedTxFees chain + amount) }
  | .sendToBurnAddress chain amount =>
    some { w with
      burnedForTransfer := update w.burnedForTransfer chain (w.burnedForTransfer chain + amount) }

/-- The world after the actions, in order; `none` when one of them reverts. -/
def run (erc20 : ERC20.Ledger) (home : Remote) : World → List Action → Option World
  | w, [] => some w
  | w, a :: as => (step erc20 home w a).bind fun w' => run erc20 home w' as

/-! ## What is in flight -/

/-- What a message in flight credits `R` with when it is executed: a single hop from the home. -/
def Message.toRemote (home R : Remote) (m : Message) : ℕ :=
  if m.source = home ∧ m.destination = R then m.message.singleHopAmount else 0

/-- What a message in flight debits from `R` at the home when it is executed. -/
def Message.toHome (home R : Remote) (m : Message) : ℕ :=
  if m.source = R ∧ m.destination = home then m.message.amount else 0

/-- `P_HR`: the single hops from the home to `R` not yet executed. -/
def pendingToRemote (home R : Remote) (l : List Message) : ℕ :=
  (l.map (Message.toRemote home R)).sum

/-- `P_RH`: the amounts of the messages from `R` to the home not yet executed. -/
def pendingToHome (home R : Remote) (l : List Message) : ℕ :=
  (l.map (Message.toHome home R)).sum

variable {home R R₀ : Remote} {l : List Message} {m : Message}

@[simp] theorem pendingToRemote_nil : pendingToRemote home R [] = 0 := rfl

@[simp] theorem pendingToHome_nil : pendingToHome home R [] = 0 := rfl

@[simp] theorem pendingToRemote_cons (m : Message) (l : List Message) :
    pendingToRemote home R (m :: l) = m.toRemote home R + pendingToRemote home R l := by
  simp [pendingToRemote]

@[simp] theorem pendingToHome_cons (m : Message) (l : List Message) :
    pendingToHome home R (m :: l) = m.toHome home R + pendingToHome home R l := by
  simp [pendingToHome]

@[simp] theorem pendingToRemote_append (l₁ l₂ : List Message) :
    pendingToRemote home R (l₁ ++ l₂) = pendingToRemote home R l₁ + pendingToRemote home R l₂ := by
  simp [pendingToRemote]

@[simp] theorem pendingToHome_append (l₁ l₂ : List Message) :
    pendingToHome home R (l₁ ++ l₂) = pendingToHome home R l₁ + pendingToHome home R l₂ := by
  simp [pendingToHome]

theorem pendingToRemote_erase (home R : Remote) (h : m ∈ l) :
    m.toRemote home R + pendingToRemote home R (l.erase m) = pendingToRemote home R l :=
  List.sum_map_erase _ h

theorem pendingToHome_erase (home R : Remote) (h : m ∈ l) :
    m.toHome home R + pendingToHome home R (l.erase m) = pendingToHome home R l :=
  List.sum_map_erase _ h

theorem pendingToRemote_eq_zero (h : ∀ m ∈ l, m.source ≠ home) : pendingToRemote home R l = 0 :=
  List.sum_eq_zero fun x hx => by
    obtain ⟨m, hm, rfl⟩ := List.mem_map.1 hx
    simp [Message.toRemote, h m hm]

theorem pendingToHome_eq_zero (h : ∀ m ∈ l, m.source ≠ R) : pendingToHome home R l = 0 :=
  List.sum_eq_zero fun x hx => by
    obtain ⟨m, hm, rfl⟩ := List.mem_map.1 hx
    simp [Message.toHome, h m hm]

theorem source_of_mem_homeMessage {l : List TokenHome.Log}
    (h : m ∈ l.filterMap (homeMessage home)) : m.source = home := by
  obtain ⟨x, -, hx⟩ := List.mem_filterMap.1 h
  cases x <;> simp only [homeMessage, reduceCtorEq, Option.some.injEq] at hx
  rw [← hx]

theorem source_of_mem_remoteMessage {l : List TokenRemote.Log}
    (h : m ∈ l.filterMap (remoteMessage R)) : m.source = R := by
  obtain ⟨x, -, hx⟩ := List.mem_filterMap.1 h
  cases x <;> simp only [remoteMessage, reduceCtorEq, Option.some.injEq] at hx
  rw [← hx]

theorem pendingToRemote_homeMessage (l : List TokenHome.Log) :
    pendingToRemote home R (l.filterMap (homeMessage home)) = TokenHome.creditedTo R l := by
  induction l with
  | nil => rfl
  | cons x l ih =>
    cases x <;>
      simp [List.filterMap_cons, homeMessage, ih, Message.toRemote, TokenHome.Log.credited]

theorem pendingToHome_remoteMessage {l : List TokenRemote.Log}
    (hl : ∀ x ∈ l, ∀ d, x.destination = some d → d = home) :
    pendingToHome home R (l.filterMap (remoteMessage R)) = sentAmount l := by
  induction l with
  | nil => rfl
  | cons x l ih =>
    have ih := ih fun y hy => hl y (List.mem_cons_of_mem x hy)
    cases x with
    | sendTeleporterMessage d feeTokenAddress fee requiredGasLimit message =>
      obtain rfl := hl _ List.mem_cons_self d rfl
      simp [remoteMessage, Message.toHome, Log.sent, ih]
    | _ => simpa [List.filterMap_cons, remoteMessage, Log.sent] using ih

/-! ## The books -/

/-- The home's books against a remote in state `s`: its transferred balance `T` is what the
remote holds plus what is in flight to it (`toRemote`) and from it (`toHome`); `burned` is what
its `_burn` burned. -/
structure Balanced (s : TokenRemote.State) (T toRemote toHome burned : ℕ) : Prop where
  erc20 : s.kind = .erc20 → T = s.token.totalSupply + toRemote + toHome
  native : s.kind = .native →
    T + s.lastestBurnedFeesReported + burned = s.totalMinted + toRemote + toHome

variable {s s' : TokenRemote.State} {T T' x x' y y' B d c : ℕ}

/-- A call of the home credits `c` and debits `d`; what it credits goes in flight to the remote,
what it debits was in flight from it. -/
theorem Balanced.homeCall (hb : Balanced s T x y B) (hT : T' + d = T + c) (hx : x' = x + c)
    (hy : y' + d = y) : Balanced s T' x' y' B where
  erc20 hk := by
    have := hb.erc20 hk
    omega
  native hk := by
    have := hb.native hk
    omega

/-- A call of the remote takes in `i` that was in flight to it, sends out `o` and burns `b`. -/
theorem Balanced.remoteCall {l : List TokenRemote.Log} {i o b : ℕ} (hb : Balanced s T x y B)
    (hm : Moves s s' l i o) (hn : Mints s s' i o b) (hx : x' + i = x) :
    Balanced s' T x' (y + o) (B + b) where
  erc20 hk := by
    have := hb.erc20 (hm.frame.kind ▸ hk)
    have := hm.supply (hm.frame.kind ▸ hk)
    omega
  native hk := by
    have := hb.native (hm.frame.kind ▸ hk)
    have := hn.minted (hm.frame.kind ▸ hk)
    omega

/-- A deployed remote `R` in state `s`: on the chain of its key, pointing at the home on another
chain, with a sound token and no reserve imbalance if it is an ERC-20 remote, and with the home's
books balanced against it. -/
structure RemoteInv (home : Remote) (w : World) (R : Remote) (s : TokenRemote.State) : Prop where
  chain : s.blockchainID = R.1
  tokenHome : (s.tokenHomeBlockchainID, s.tokenHomeAddress) = home
  notHome : s.tokenHomeBlockchainID ≠ s.blockchainID
  sound : s.token.Sound
  imbalance : s.kind = .erc20 → s.initialReserveImbalance = 0
  books : Balanced s (w.home.transferredBalances R) (pendingToRemote home R w.inFlight)
    (pendingToHome home R w.inFlight) (w.burned R)
  homeSet : s.tokenHomeBlockchainID ≠ 0 ∧ s.tokenHomeAddress ≠ 0

/-- Every deployed remote keeps `RemoteInv`. -/
def Inv (home : Remote) (w : World) : Prop :=
  ∀ R s, w.remotes R = some s → RemoteInv home w R s

variable {erc20 : ERC20.Ledger} {w w' : World}

theorem RemoteInv.ne_home (h : RemoteInv home w R s) : R ≠ home := by
  rintro rfl
  apply h.notHome
  rw [h.chain, ← h.tokenHome]

theorem RemoteInv.of_books (h : RemoteInv home w R s)
    (hT : w'.home.transferredBalances R = w.home.transferredBalances R)
    (hx : pendingToRemote home R w'.inFlight = pendingToRemote home R w.inFlight)
    (hy : pendingToHome home R w'.inFlight = pendingToHome home R w.inFlight)
    (hB : w'.burned R = w.burned R) : RemoteInv home w' R s :=
  ⟨h.chain, h.tokenHome, h.notHome, h.sound, h.imbalance, by rw [hT, hx, hy, hB]; exact h.books,
    h.homeSet⟩

/-- The home's call `c` with the messages `inFlight` in flight: those that were, less the one `c`
executes. -/
theorem Inv.afterHome (hi : Inv home w) (inFlight : List Message) {c : TokenHome.Call}
    {h : TokenHome.State} {l : List TokenHome.Log}
    (hc : TokenHome.step home.2 w.home c = .ok (h, l))
    (hx : ∀ R, R ≠ home → pendingToRemote home R inFlight = pendingToRemote home R w.inFlight)
    (hy : ∀ R, R ≠ home →
      pendingToHome home R inFlight + c.debited R = pendingToHome home R w.inFlight) :
    Inv home ({ w with inFlight }.afterHome home h l) := by
  intro R s hs
  have hR := hi R s hs
  have hne := hR.ne_home
  -- the home's messages leave the home, so they debit no remote
  have hz : pendingToHome home R (l.filterMap (homeMessage home)) = 0 :=
    pendingToHome_eq_zero fun m hm => (source_of_mem_homeMessage hm).symm ▸ hne.symm
  refine ⟨hR.chain, hR.tokenHome, hR.notHome, hR.sound, hR.imbalance, hR.books.homeCall
    (TokenHome.step_credits hc R) ?_ ?_, hR.homeSet⟩
  · simp [World.afterHome, pendingToRemote_homeMessage, hx R hne]
  · simp [World.afterHome, hz, hy R hne]

/-- The call `c` of the remote `R₀` with the messages `inFlight` in flight: those that were, less
the one `c` executes. -/
theorem Inv.afterRemote (hL : erc20.Laws) (hi : Inv home w) {s₀ s₀' : TokenRemote.State}
    (hs₀ : w.remotes R₀ = some s₀) {c : TokenRemote.Call} {l : List TokenRemote.Log}
    (hc : TokenRemote.step erc20 R₀.2 (w.burnedTxFees R₀.1) s₀ c = .ok (s₀', l))
    (inFlight : List Message)
    (hx : ∀ R, R ≠ home → pendingToRemote home R inFlight + (if R = R₀ then c.inflow else 0) =
      pendingToRemote home R w.inFlight)
    (hy : ∀ R, R ≠ home → pendingToHome home R inFlight = pendingToHome home R w.inFlight) :
    Inv home ({ w with inFlight }.afterRemote R₀ s₀' l c) := by
  have h₀ := hi R₀ s₀ hs₀
  intro R s hs
  -- the remote's messages leave it, so they credit no remote
  have hz : pendingToRemote home R (l.filterMap (remoteMessage R₀)) = 0 :=
    pendingToRemote_eq_zero fun m hm => (source_of_mem_remoteMessage hm).symm ▸ h₀.ne_home
  by_cases e : R = R₀
  · subst e
    obtain rfl : s₀' = s := by simpa [World.afterRemote] using hs
    have hm := step_moves hL h₀.sound hc
    have hn := step_mints hL h₀.sound hc
    -- what the remote sends goes home, and is in flight from it
    have hy' : pendingToHome home R (l.filterMap (remoteMessage R)) = sentAmount l :=
      pendingToHome_remoteMessage fun x hx d hd => (hm.toHome x hx d hd).trans h₀.tokenHome
    have hxR := hx R h₀.ne_home
    rw [if_pos rfl] at hxR
    have hb := h₀.books.remoteCall hm hn hxR
    refine ⟨hm.frame.blockchainID.trans h₀.chain, ?_, ?_, hm.sound, ?_, ?_, ?_⟩
    · rw [hm.frame.tokenHomeBlockchainID, hm.frame.tokenHomeAddress, h₀.tokenHome]
    · rw [hm.frame.tokenHomeBlockchainID, hm.frame.blockchainID]
      exact h₀.notHome
    · intro hk
      rw [hm.frame.initialReserveImbalance]
      exact h₀.imbalance (hm.frame.kind ▸ hk)
    · simpa [World.afterRemote, hz, hy', hy R h₀.ne_home] using hb
    · rw [hm.frame.tokenHomeBlockchainID, hm.frame.tokenHomeAddress]
      exact h₀.homeSet
  · have hR := hi R s (by simpa [World.afterRemote, e] using hs)
    -- nothing of `R` moved: its books see the same numbers
    have hR₀ : pendingToHome home R (l.filterMap (remoteMessage R₀)) = 0 :=
      pendingToHome_eq_zero fun m hm => (source_of_mem_remoteMessage hm).symm ▸ Ne.symm e
    have hx' := hx R hR.ne_home
    rw [if_neg e, Nat.add_zero] at hx'
    exact hR.of_books rfl (by simp [World.afterRemote, hz, hx'])
      (by simp [World.afterRemote, hR₀, hy R hR.ne_home]) (by simp [World.afterRemote, e])

/-- A delivery to the home: the message is no longer in flight, and the home debits its
source. -/
theorem Inv.deliverHome (hi : Inv home w) (hm : m ∈ w.inFlight) (hd : m.destination = home)
    {success : Bool}
    (h : (w.take m).callHome home
      (.receiveTeleporterMessage m.source.1 m.source.2 m.message success) = some w') :
    Inv home w' := by
  obtain ⟨h', l, hc, rfl⟩ := World.callHome_eq_some h
  refine Inv.afterHome hi _ hc (fun R hR => ?_) (fun R hR => ?_)
  · -- it went home, so it credited no remote
    have := pendingToRemote_erase home R hm
    simp only [Message.toRemote, hd, Ne.symm hR, and_false, if_false, Nat.zero_add] at this
    exact this
  · have := pendingToHome_erase home R hm
    simp only [Message.toHome, hd, and_true] at this
    simpa [TokenHome.Call.debited, Nat.add_comm] using this

/-- A delivery to a remote: the message is no longer in flight, and the remote takes in what it
carries. -/
theorem Inv.deliverRemote (hL : erc20.Laws) (hi : Inv home w) (hm : m ∈ w.inFlight) (hd : m.destination ≠ home)
    {success : Bool} {spent : ℕ}
    (h : (w.take m).callRemote erc20 m.destination
      (.receiveTeleporterMessage m.source.1 m.source.2 m.message success spent) = some w') :
    Inv home w' := by
  obtain ⟨s₀, s₀', l, hs₀, hc, rfl⟩ := World.callRemote_eq_some h
  have h₀ := hi _ s₀ hs₀
  -- the remote takes messages from its home only, and single hops only
  have hsrc : m.source = home := (step_receive_source hL h₀.sound hc).trans h₀.tokenHome
  have hsh := step_receive_singleHop hc
  refine Inv.afterRemote hL hi hs₀ hc _ (fun R hR => ?_) (fun R hR => ?_)
  · have := pendingToRemote_erase home R hm
    by_cases e : R = m.destination
    · subst e
      simpa [Message.toRemote, hsrc, hsh, Call.inflow, Nat.add_comm] using this
    · simpa [Message.toRemote, Ne.symm e, e] using this
  · have := pendingToHome_erase home R hm
    simpa [Message.toHome, hd] using this

/-- **Every step keeps the books balanced.** -/
theorem step_inv (hL : erc20.Laws) {a : Action} (hi : Inv home w)
    (h : step erc20 home w a = some w') : Inv home w' := by
  cases a with
  | callHome c =>
    simp only [step] at h
    split at h
    · cases h
    · rename_i hd
      obtain ⟨h', l, hc, rfl⟩ := World.callHome_eq_some h
      exact Inv.afterHome hi w.inFlight hc (fun _ _ => rfl)
        (fun R _ => by simp [TokenHome.Call.debited_of_isDelivery (Bool.not_eq_true _ ▸ hd)])
  | callRemote R₀ c =>
    simp only [step] at h
    split at h
    · cases h
    · rename_i hd
      obtain ⟨s₀, s₀', l, hs₀, hc, rfl⟩ := World.callRemote_eq_some h
      exact Inv.afterRemote hL hi hs₀ hc w.inFlight
        (fun R _ => by simp [Call.inflow_of_isDelivery (Bool.not_eq_true _ ▸ hd)])
        (fun _ _ => rfl)
  | deliver m success spent =>
    simp only [step, World.deliver] at h
    split at h
    · rename_i hm
      split at h
      · exact Inv.deliverHome hi hm ‹_› h
      · exact Inv.deliverRemote hL hi hm ‹_› h
    · cases h
  | burnFees chain amount =>
    obtain rfl := Option.some.inj h
    exact fun R s hs => (hi R s hs).of_books rfl rfl rfl rfl
  | sendToBurnAddress chain amount =>
    obtain rfl := Option.some.inj h
    exact fun R s hs => (hi R s hs).of_books rfl rfl rfl rfl

/-! ## Runs -/

/-- A remote as `initialize` leaves it on the chain `R.1`, pointing at the home at `home`. -/
def Deployed (home R : Remote) (s : TokenRemote.State) : Prop :=
  ∃ (teleporterMessenger : Address) (settings : TokenRemoteSettings),
    (settings.tokenHomeBlockchainID, settings.tokenHomeAddress) = home ∧
    ((∃ tokenDecimals,
        erc20TokenRemoteInit R.1 teleporterMessenger settings tokenDecimals = .ok s) ∨
      ∃ initialReserveImbalance burnedFeesReportingRewardPercentage,
        nativeTokenRemoteInit R.1 teleporterMessenger settings initialReserveImbalance
          burnedFeesReportingRewardPercentage = .ok s)

/-- A world as deployment leaves it: a fresh home at `home`, fresh remotes that point at it,
nothing burned by them and nothing in flight. The burn addresses hold whatever they hold. -/
structure Initial (home : Remote) (w : World) : Prop where
  homeInit : ∃ tokenAddress tokenDecimals balance,
    TokenHome.tokenHomeInit home.1 tokenAddress tokenDecimals balance = .ok w.home
  remotes : ∀ R s, w.remotes R = some s → Deployed home R s
  burned : ∀ R, w.burned R = 0
  inFlight : w.inFlight = []

/-- The worlds reachable from a deployment around the home at `home`. -/
inductive Reachable (erc20 : ERC20.Ledger) (home : Remote) : World → Prop
  | init {w : World} : Initial home w → Reachable erc20 home w
  | step {w w' : World} {a : Action} : Reachable erc20 home w → step erc20 home w a = some w' →
    Reachable erc20 home w'

theorem Reachable.run {w w' : World} {as : List Action} (hr : Reachable erc20 home w)
    (h : run erc20 home w as = some w') : Reachable erc20 home w' := by
  induction as generalizing w with
  | nil => exact Option.some.inj h ▸ hr
  | cons a as ih =>
    obtain ⟨w₁, h₁, h⟩ := Option.bind_eq_some_iff.1 h
    exact ih (hr.step h₁) h

theorem Deployed.remoteInv (hd : Deployed home R s) (hT : w.home.transferredBalances R = 0)
    (hf : w.inFlight = []) (hB : w.burned R = 0) : RemoteInv home w R s := by
  obtain ⟨tm, settings, hh, ⟨dec, he⟩ | ⟨I, p, hn⟩⟩ := hd
  · obtain ⟨h0, ha, hne, hk, hc, ht, hI, htok, hM, hR⟩ := tokenRemoteInit_eq_ok he
    refine ⟨hc, ht.trans hh, ?_, htok ▸ emptyToken_sound, fun _ => hI, ⟨?_, ?_⟩, ?_⟩
    · rw [hc, (Prod.mk.inj ht).1]
      exact hne
    · intro _
      simp [hT, hf, htok, emptyToken]
    · intro h
      rw [hk] at h
      cases h
    · rw [(Prod.mk.inj ht).1, (Prod.mk.inj ht).2]
      exact ⟨h0, ha⟩
  · simp only [nativeTokenRemoteInit, bind_eq_ok, require_eq_ok, pure_eq_ok] at hn
    obtain ⟨_, -, s₁, h₁, _, -, rfl⟩ := hn
    obtain ⟨h0, ha, hne, hk, hc, ht, hI, htok, hM, hR⟩ := tokenRemoteInit_eq_ok h₁
    refine ⟨hc, ht.trans hh, ?_, htok ▸ emptyToken_sound, fun h => ?_, ?_, ?_⟩
    · rw [hc, (Prod.mk.inj ht).1]
      exact hne
    · rw [hk] at h
      cases h
    · refine ⟨fun h => ?_, fun _ => ?_⟩
      · rw [hk] at h
        cases h
      · simp [hT, hf, hB, hM, hR]
    · rw [(Prod.mk.inj ht).1, (Prod.mk.inj ht).2]
      exact ⟨h0, ha⟩

theorem Initial.inv (h : Initial home w) : Inv home w := by
  intro R s hs
  obtain ⟨tokenAddress, tokenDecimals, balance, hh⟩ := h.homeInit
  simp only [TokenHome.tokenHomeInit, bind_eq_ok, require_eq_ok, pure_eq_ok] at hh
  obtain ⟨_, -, _, -, hh⟩ := hh
  exact (h.remotes R s hs).remoteInv (by rw [← hh]) h.inFlight (h.burned R)

/-- **The books are balanced in every reachable world.** -/
theorem reachable_inv (hL : erc20.Laws) (h : Reachable erc20 home w) : Inv home w := by
  induction h with
  | init hw => exact hw.inv
  | step _ hs ih => exact step_inv hL ih hs

/-! ## The balance equation -/

/-- `S_R`: what `R` has in circulation, as the code counts it: `totalSupply`, or
`totalNativeAssetSupply` from the balances of its chain's burn addresses. -/
def circulatingSupply (w : World) (R : Remote) (s : TokenRemote.State) : ℤ :=
  match s.kind with
  | .erc20 => s.token.totalSupply
  | .native =>
    s.totalMinted + s.initialReserveImbalance - w.burnedTxFees R.1 - w.burnedForTransfer R.1

/-- `U_R`: the fees burned on a native remote's chain that it has not reported. -/
def unreportedFees (w : World) (R : Remote) (s : TokenRemote.State) : ℤ :=
  match s.kind with
  | .erc20 => 0
  | .native => (w.burnedTxFees R.1 : ℤ) - s.lastestBurnedFeesReported

/-- The coins at a native remote's `BURNED_FOR_TRANSFER_ADDRESS` that its own `_burn` did not
send there. -/
def strayBurned (w : World) (R : Remote) (s : TokenRemote.State) : ℤ :=
  match s.kind with
  | .erc20 => 0
  | .native => (w.burnedForTransfer R.1 : ℤ) - w.burned R

/-- The home's transferred balance of every deployed remote, with its reserve imbalance, is its
circulating supply, the fees it has not reported and what is in flight between them, once the
coins that reached `BURNED_FOR_TRANSFER_ADDRESS` other than by its `_burn` are counted back. -/
theorem transferred_balance_with_stray_burns (hL : erc20.Laws) (hr : Reachable erc20 home w)
    (hs : w.remotes R = some s) :
    (w.home.transferredBalances R : ℤ) + s.initialReserveImbalance =
      circulatingSupply w R s + unreportedFees w R s + pendingToRemote home R w.inFlight +
        pendingToHome home R w.inFlight + strayBurned w R s := by
  have hR := reachable_inv hL hr R s hs
  unfold circulatingSupply unreportedFees strayBurned
  split
  · rename_i hk
    have := hR.books.erc20 hk
    have := hR.imbalance hk
    omega
  · rename_i hk
    have := hR.books.native hk
    omega

/-! ## A home send to `BURNED_FOR_TRANSFER_ADDRESS` -/

/-- The home of the sample run: chain 1, address `0xA`. -/
def sampleHome : Remote := (1, 0xA)

/-- A native remote on chain 2 at `0xB`. -/
def sampleRemote : Remote := (2, 0xB)

/-- The native remote as `initialize` leaves it, with 100 coins of reserve imbalance. -/
def sampleRemoteState : TokenRemote.State where
  kind := .native
  blockchainID := 2
  teleporterMessenger := 0xD
  tokenHomeBlockchainID := 1
  tokenHomeAddress := 0xA
  initialReserveImbalance := 100
  isRegistered := false
  isCollateralized := false
  homeTokenDecimals := 18
  tokenDecimals := 18
  tokenMultiplier := 1
  multiplyOnRemote := false
  token := emptyToken
  totalMinted := 0
  lastestBurnedFeesReported := 0
  burnedFeesReportingRewardPercentage := 0

/-- A fresh home of token `0xC` and the native remote, with nothing burned anywhere. -/
def sampleWorld : World where
  home := ⟨1, 0xC, 18, fun _ => default, fun _ => 0, 0⟩
  remotes R := if R = sampleRemote then some sampleRemoteState else none
  burnedTxFees _ := 0
  burnedForTransfer _ := 0
  burned _ := 0
  inFlight := []

theorem sampleWorld_initial : Initial sampleHome sampleWorld where
  homeInit := ⟨0xC, 18, 0, rfl⟩
  remotes R s h := by
    simp only [sampleWorld] at h
    split at h
    · rename_i e
      obtain rfl := Option.some.inj h
      subst e
      exact ⟨0xD, ⟨1, 0xA, 18⟩, rfl, .inr ⟨100, 0, rfl⟩⟩
    · cases h
  burned _ := rfl
  inFlight := rfl

/-- The remote registers, the home gets the collateral, and a user sends 50 tokens from the home
to `BURNED_FOR_TRANSFER_ADDRESS` on the remote's chain, where the remote mints them. -/
def sampleRun : List Action :=
  [.callRemote sampleRemote (.registerWithHome 0xE ⟨0, 0⟩ 0),
    .deliver ⟨sampleRemote, sampleHome, .registerRemote ⟨100, 18, 18⟩⟩ true 0,
    .callHome (.addCollateral 0xE sampleRemote 100),
    .callHome (.send 0xE ⟨2, 0xB, burnedForTransferAddress, 0, 0, 0, 1, 0⟩ 50 0),
    .deliver ⟨sampleHome, sampleRemote, .singleHopSend ⟨burnedForTransferAddress, 50⟩⟩ true 0]

/-- Where the sample run ends. -/
def sampleEnd : World := (run ERC20.standard sampleHome sampleWorld sampleRun).getD sampleWorld

/-- The native remote where the sample run ends. -/
def sampleEndRemote : TokenRemote.State := (sampleEnd.remotes sampleRemote).getD sampleRemoteState

theorem sampleEnd_reachable : Reachable ERC20.standard sampleHome sampleEnd :=
  (Reachable.init sampleWorld_initial).run
    (show run ERC20.standard sampleHome sampleWorld sampleRun = some sampleEnd from rfl)

theorem transferred_balance_with_stray_burns_sample :
    ERC20.standard.Laws ∧ Reachable ERC20.standard sampleHome sampleEnd ∧ sampleEnd.remotes sampleRemote = some sampleEndRemote ∧
      (sampleEnd.home.transferredBalances sampleRemote : ℤ) +
          sampleEndRemote.initialReserveImbalance =
        circulatingSupply sampleEnd sampleRemote sampleEndRemote +
          unreportedFees sampleEnd sampleRemote sampleEndRemote +
          pendingToRemote sampleHome sampleRemote sampleEnd.inFlight +
          pendingToHome sampleHome sampleRemote sampleEnd.inFlight +
          strayBurned sampleEnd sampleRemote sampleEndRemote :=
  ⟨ERC20.standard_laws, sampleEnd_reachable, rfl,
    transferred_balance_with_stray_burns ERC20.standard_laws sampleEnd_reachable rfl⟩

/-- Without the stray coins the equation fails: after the sample run the home's books hold 50 and
the reserve imbalance 100, while the native supply is 100 (50 minted, 50 at
`BURNED_FOR_TRANSFER_ADDRESS`) and nothing is unreported or in flight. -/
theorem transferred_balance_equation_fails :
    ERC20.standard.Laws ∧ ∃ w s, Reachable ERC20.standard sampleHome w ∧
      w.remotes sampleRemote = some s ∧
      (w.home.transferredBalances sampleRemote : ℤ) + s.initialReserveImbalance ≠
        circulatingSupply w sampleRemote s + unreportedFees w sampleRemote s +
          pendingToRemote sampleHome sampleRemote w.inFlight +
          pendingToHome sampleHome sampleRemote w.inFlight :=
  ⟨ERC20.standard_laws, sampleEnd, sampleEndRemote, sampleEnd_reachable, rfl, by decide⟩

/-! ## Returns to the home -/

/-- **An ERC-20 remote's returns are always covered**: every message from it in flight to the
home carries at most the home's transferred balance for it, so `_deductSenderBalance` passes when
the home executes it. -/
theorem erc20_return_covered (hL : erc20.Laws) (hr : Reachable erc20 home w) (hs : w.remotes R = some s)
    (hk : s.kind = .erc20) (hm : m ∈ w.inFlight) (hsrc : m.source = R) (hd : m.destination = home) :
    ∃ h, TokenHome.deductSenderBalance w.home R m.message.amount = .ok h := by
  have hT := (reachable_inv hL hr R s hs).books.erc20 hk
  have he := pendingToHome_erase home R hm
  have hto : m.toHome home R = m.message.amount := by simp [Message.toHome, hsrc, hd]
  have hle : m.message.amount ≤ w.home.transferredBalances R := by omega
  simp only [TokenHome.deductSenderBalance, bind_eq_ok, require_eq_ok]
  exact ⟨_, (), hle, rfl⟩

/-- An ERC-20 remote on chain 3 at `0xF`. -/
def sampleERC20Remote : Remote := (3, 0xF)

/-- The ERC-20 remote as `initialize` leaves it. -/
def sampleERC20State : TokenRemote.State where
  kind := .erc20
  blockchainID := 3
  teleporterMessenger := 0xD
  tokenHomeBlockchainID := 1
  tokenHomeAddress := 0xA
  initialReserveImbalance := 0
  isRegistered := false
  isCollateralized := true
  homeTokenDecimals := 18
  tokenDecimals := 18
  tokenMultiplier := 1
  multiplyOnRemote := false
  token := emptyToken
  totalMinted := 0
  lastestBurnedFeesReported := 0
  burnedFeesReportingRewardPercentage := 0

/-- A fresh home and the ERC-20 remote. -/
def sampleERC20World : World where
  home := ⟨1, 0xC, 18, fun _ => default, fun _ => 0, 0⟩
  remotes R := if R = sampleERC20Remote then some sampleERC20State else none
  burnedTxFees _ := 0
  burnedForTransfer _ := 0
  burned _ := 0
  inFlight := []

theorem sampleERC20World_initial : Initial sampleHome sampleERC20World where
  homeInit := ⟨0xC, 18, 0, rfl⟩
  remotes R s h := by
    simp only [sampleERC20World] at h
    split at h
    · rename_i e
      obtain rfl := Option.some.inj h
      subst e
      exact ⟨0xD, ⟨1, 0xA, 18⟩, rfl, .inl ⟨18, rfl⟩⟩
    · cases h
  burned _ := rfl
  inFlight := rfl

/-- The remote registers, 50 tokens go from the home to `0x5`, and `0x5` sends 30 of them back
(after allowing the remote to burn them). -/
def sampleERC20Run : List Action :=
  [.callRemote sampleERC20Remote (.registerWithHome 0xE ⟨0, 0⟩ 0),
    .deliver ⟨sampleERC20Remote, sampleHome, .registerRemote ⟨0, 18, 18⟩⟩ true 0,
    .callHome (.send 0xE ⟨3, 0xF, 0x5, 0, 0, 0, 1, 0⟩ 50 0),
    .deliver ⟨sampleHome, sampleERC20Remote, .singleHopSend ⟨0x5, 50⟩⟩ true 0,
    .callRemote sampleERC20Remote (.approve 0x5 0xF 30),
    .callRemote sampleERC20Remote (.send 0x5 ⟨1, 0xA, 0x6, 0, 0, 0, 1, 0⟩ 30 0)]

/-- Where the ERC-20 sample run ends. -/
def sampleERC20End : World :=
  (run ERC20.standard sampleHome sampleERC20World sampleERC20Run).getD sampleERC20World

/-- The return of 30 tokens, in flight to the home. -/
def sampleERC20Return : Message := ⟨sampleERC20Remote, sampleHome, .singleHopSend ⟨0x6, 30⟩⟩

theorem erc20_return_covered_sample :
    ERC20.standard.Laws ∧ Reachable ERC20.standard sampleHome sampleERC20End ∧
      sampleERC20End.remotes sampleERC20Remote =
        some ((sampleERC20End.remotes sampleERC20Remote).getD sampleERC20State) ∧
      sampleERC20Return ∈ sampleERC20End.inFlight ∧
      ∃ h, TokenHome.deductSenderBalance sampleERC20End.home sampleERC20Remote 30 = .ok h :=
  have hr : Reachable ERC20.standard sampleHome sampleERC20End :=
    (Reachable.init sampleERC20World_initial).run
      (show run ERC20.standard sampleHome sampleERC20World sampleERC20Run = some sampleERC20End
        from rfl)
  ⟨ERC20.standard_laws, hr, rfl, by decide,
    erc20_return_covered (m := sampleERC20Return) ERC20.standard_laws hr rfl rfl (by decide) rfl rfl⟩

/-- **A native remote's return can exceed the home's books**: the collateral locked for the
reserve imbalance is never counted in `_transferredBalances`, and the coins of a send come with
the call. From every reachable world, a collateralized native remote accepts a send home of any
amount above the home's books for it (whose home value passes the send's check), and every
execution of that message at the home reverts, whatever the outcome of a call would be. -/
theorem native_return_reverts (hL : erc20.Laws) (hr : Reachable erc20 home w)
    (hs : w.remotes R = some s) (hk : s.kind = .native) (hc : s.isCollateralized = true)
    {sender recipient : Address} (hrec : recipient ≠ 0) {amount homeAmount : ℕ}
    (hscale : removeTokenScale s.tokenMultiplier s.multiplyOnRemote amount = .ok homeAmount)
    (hpos : 0 < homeAmount) (hgt : w.home.transferredBalances R < amount) :
    ∃ w', step erc20 home w
        (.callRemote R (.send sender ⟨home.1, home.2, recipient, 0, 0, 0, 1, 0⟩ amount 0)) =
          some w' ∧
      (⟨R, home, .singleHopSend ⟨recipient, amount⟩⟩ : Message) ∈ w'.inFlight ∧
      ∀ success spent,
        step erc20 home w' (.deliver ⟨R, home, .singleHopSend ⟨recipient, amount⟩⟩ success spent) =
          none := by
  have hR := reachable_inv hL hr R s hs
  -- the remote's home is `home`, so the send goes there as a single hop
  obtain ⟨s', l, hc', hl⟩ := @step_send_home erc20 R.2 (w.burnedTxFees R.1) s hk hc hR.homeSet
    sender recipient hrec amount homeAmount hscale hpos
  rw [hR.tokenHome] at hl
  have e₁ : s.tokenHomeBlockchainID = home.1 := congrArg Prod.fst hR.tokenHome
  have e₂ : s.tokenHomeAddress = home.2 := congrArg Prod.snd hR.tokenHome
  rw [e₁, e₂] at hc'
  set c : TokenRemote.Call := .send sender ⟨home.1, home.2, recipient, 0, 0, 0, 1, 0⟩ amount 0
  set m : Message := ⟨R, home, .singleHopSend ⟨recipient, amount⟩⟩
  have hm : m ∈ (w.afterRemote R s' l c).inFlight :=
    List.mem_append_right _ (List.mem_filterMap.2 ⟨_, hl, rfl⟩)
  refine ⟨_, ?_, hm, fun success spent => ?_⟩
  · simp only [step, c, Call.isDelivery, Bool.false_eq_true, if_false, World.callRemote, hs, hc']
  -- the home would debit more than its books hold for `R`
  have hne : ∀ w'', ((w.afterRemote R s' l c).take m).callHome home
      (.receiveTeleporterMessage R.1 R.2 m.message success) ≠ some w'' := by
    intro w'' h
    obtain ⟨h', l', hh, -⟩ := World.callHome_eq_some h
    have hh' : TokenHome.receiveTeleporterMessage ((w.afterRemote R s' l c).take m).home R.1 R.2
        m.message success = .ok (h', l') := hh
    have hle : amount ≤ w.home.transferredBalances R :=
      TokenHome.receiveTeleporterMessage_amount_le hh'
    omega
  simp only [step, World.deliver, if_pos hm, m, if_true]
  exact Option.eq_none_iff_forall_ne_some.2 hne

/-- After the sample run the home's books hold 50 for the native remote, and a user sends 60
coins of the reserve imbalance home. -/
theorem native_return_reverts_sample :
    ERC20.standard.Laws ∧ Reachable ERC20.standard sampleHome sampleEnd ∧
      sampleEnd.remotes sampleRemote = some sampleEndRemote ∧ sampleEndRemote.kind = .native ∧
      sampleEndRemote.isCollateralized = true ∧
      sampleEnd.home.transferredBalances sampleRemote = 50 ∧
      ∃ w', step ERC20.standard sampleHome sampleEnd
          (.callRemote sampleRemote (.send 0xE ⟨1, 0xA, 0x6, 0, 0, 0, 1, 0⟩ 60 0)) = some w' ∧
        (⟨sampleRemote, sampleHome, .singleHopSend ⟨0x6, 60⟩⟩ : Message) ∈ w'.inFlight ∧
        ∀ success spent, step ERC20.standard sampleHome w'
          (.deliver ⟨sampleRemote, sampleHome, .singleHopSend ⟨0x6, 60⟩⟩ success spent) = none :=
  ⟨ERC20.standard_laws, sampleEnd_reachable, rfl, rfl, rfl, rfl,
    native_return_reverts ERC20.standard_laws sampleEnd_reachable rfl rfl rfl (by decide)
      (show removeTokenScale 1 false 60 = .ok 60 from rfl) (by decide) (by decide)⟩

end Network

end Ictt
