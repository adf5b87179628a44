import IcmServices.Teleporter.Registry

/-!
# `TeleporterRegistryApp`

An application built on the registry. The callers that `_checkTeleporterRegistryAppAccess`
lets through may raise `minTeleporterVersion` and pause Teleporter addresses; that check is the
inheriting contract's (`TeleporterRegistryOwnableApp` checks its `Ownable` owner), a parameter
here. The app accepts a message from a Teleporter address whose registered version is at least
`minTeleporterVersion` and which it has not paused, and it sends through the registry's latest
Teleporter unless it paused that one. What the inheriting contract does with an accepted message
(`_receiveTeleporterMessage`) is not modelled: the call hands the message on, as the
`receiveTeleporterMessage` event.

The app runs together with the registry it reads (`step`): the registry's calls interleave with
the app's, and the app reads the registry as it stands.

* `Inv`: the registry's index is consistent (`TeleporterRegistry.Indexed`) and
  `0 < minTeleporterVersion ≤ latestVersion`. The constructor sets it up and every call keeps it
  (`Inv.step`), since what a call can do to the two (`step_moves`) keeps the minimum below a latest
  version that only grows.
* From such a state the app sends through the latest Teleporter, or reverts because it paused it,
  and it accepts messages from the Teleporter it sends through (`Inv.receiveTeleporterMessage_of_
  getTeleporterMessenger`).
* `Advances`: along a run the minimum version, the registry's versions and each address's version
  only grow (`exec_advances`).
-/

namespace Teleporter

namespace TeleporterRegistryApp

open Solidity Function Contract TeleporterRegistry

/-- The storage of `TeleporterRegistryApp`, with the registry it reads. -/
structure State where
  teleporterRegistry : TeleporterRegistry.State
  pausedTeleporterAddresses : Address → Bool
  minTeleporterVersion : ℕ

/-- The events of the app, of the registry, and the hand-off of an accepted message. -/
inductive Log
  | minTeleporterVersionUpdated (oldMinTeleporterVersion newMinTeleporterVersion : ℕ)
  | teleporterAddressPaused (teleporterAddress : Address)
  | teleporterAddressUnpaused (teleporterAddress : Address)
  | receiveTeleporterMessage (sourceBlockchainID : Bytes32) (originSenderAddress : Address)
      (message : Bytes)
  | registry (event : TeleporterRegistry.Log)
  deriving DecidableEq, Repr

/-- `isTeleporterAddressPaused`. -/
def isTeleporterAddressPaused (s : State) (teleporterAddress : Address) : Bool :=
  s.pausedTeleporterAddresses teleporterAddress

/-- `_setMinTeleporterVersion`. -/
def setMinTeleporterVersion (s : State) (version : ℕ) : Except String (State × List Log) := do
  let latestTeleporterVersion := s.teleporterRegistry.latestVersion
  let oldMinTeleporterVersion := s.minTeleporterVersion
  require (version ≤ latestTeleporterVersion) "TeleporterRegistryApp: invalid Teleporter version"
  require (version > oldMinTeleporterVersion)
    "TeleporterRegistryApp: not greater than current minimum version"
  pure ({ s with minTeleporterVersion := version },
    [.minTeleporterVersionUpdated oldMinTeleporterVersion version])

/-- The constructor of `TeleporterRegistryApp`, reading the registry at
`teleporterRegistryAddress` in the state `teleporterRegistry`. -/
def teleporterRegistryAppInit (teleporterRegistryAddress : Address)
    (teleporterRegistry : TeleporterRegistry.State) (minTeleporterVersion : ℕ) :
    Except String (State × List Log) := do
  require (teleporterRegistryAddress ≠ 0)
    "TeleporterRegistryApp: zero Teleporter registry address"
  require (teleporterRegistry.latestVersion > 0)
    "TeleporterRegistryApp: invalid Teleporter registry"
  setMinTeleporterVersion ⟨teleporterRegistry, fun _ => false, 0⟩ minTeleporterVersion

/-- `receiveTeleporterMessage` from the Teleporter at `sender`. -/
def receiveTeleporterMessage (s : State) (sender : Address) (sourceBlockchainID : Bytes32)
    (originSenderAddress : Address) (message : Bytes) : Except String (List Log) := do
  let version ← getVersionFromAddress s.teleporterRegistry sender
  require (version ≥ s.minTeleporterVersion) "TeleporterRegistryApp: invalid Teleporter sender"
  require (isTeleporterAddressPaused s sender = false)
    "TeleporterRegistryApp: Teleporter address paused"
  pure [.receiveTeleporterMessage sourceBlockchainID originSenderAddress message]

section
-- `_checkTeleporterRegistryAppAccess` of the inheriting contract
variable (checkTeleporterRegistryAppAccess : Address → Except String Unit)

/-- `updateMinTeleporterVersion`. -/
def updateMinTeleporterVersion (s : State) (sender : Address) (version : ℕ) :
    Except String (State × List Log) := do
  checkTeleporterRegistryAppAccess sender
  setMinTeleporterVersion s version

/-- `pauseTeleporterAddress`. -/
def pauseTeleporterAddress (s : State) (sender teleporterAddress : Address) :
    Except String (State × List Log) := do
  checkTeleporterRegistryAppAccess sender
  require (teleporterAddress ≠ 0) "TeleporterRegistryApp: zero Teleporter address"
  require (isTeleporterAddressPaused s teleporterAddress = false)
    "TeleporterRegistryApp: address already paused"
  pure ({ s with
      pausedTeleporterAddresses := update s.pausedTeleporterAddresses teleporterAddress true },
    [.teleporterAddressPaused teleporterAddress])

/-- `unpauseTeleporterAddress`. -/
def unpauseTeleporterAddress (s : State) (sender teleporterAddress : Address) :
    Except String (State × List Log) := do
  checkTeleporterRegistryAppAccess sender
  require (teleporterAddress ≠ 0) "TeleporterRegistryApp: zero Teleporter address"
  require (isTeleporterAddressPaused s teleporterAddress = true)
    "TeleporterRegistryApp: address not paused"
  pure ({ s with
      pausedTeleporterAddresses := update s.pausedTeleporterAddresses teleporterAddress false },
    [.teleporterAddressUnpaused teleporterAddress])

end

/-- `_getTeleporterMessenger`: the address of the latest Teleporter, unless it is paused. -/
def getTeleporterMessenger (s : State) : Except String Address := do
  let teleporter ← getLatestTeleporter s.teleporterRegistry
  require (isTeleporterAddressPaused s teleporter = false)
    "TeleporterRegistryApp: Teleporter sending paused"
  pure teleporter

/-- The calls into the registry and the app's external functions, with their sender. -/
inductive Call
  | registry (call : TeleporterRegistry.Call)
  | receiveTeleporterMessage (sender : Address) (sourceBlockchainID : Bytes32)
      (originSenderAddress : Address) (message : Bytes)
  | updateMinTeleporterVersion (sender : Address) (version : ℕ)
  | pauseTeleporterAddress (sender teleporterAddress : Address)
  | unpauseTeleporterAddress (sender teleporterAddress : Address)

/-- One successful call, with the registry at `teleporterRegistryAddress` and the access check
`checkTeleporterRegistryAppAccess`. -/
def step (checkTeleporterRegistryAppAccess : Address → Except String Unit)
    (teleporterRegistryAddress : Address) (s : State) :
    Call → Except String (State × List Log)
  | .registry call => do
    let (r, l) ← TeleporterRegistry.step teleporterRegistryAddress s.teleporterRegistry call
    pure ({ s with teleporterRegistry := r }, l.map .registry)
  | .receiveTeleporterMessage sender sourceBlockchainID originSenderAddress message => do
    let l ← receiveTeleporterMessage s sender sourceBlockchainID originSenderAddress message
    pure (s, l)
  | .updateMinTeleporterVersion sender version =>
    updateMinTeleporterVersion checkTeleporterRegistryAppAccess s sender version
  | .pauseTeleporterAddress sender teleporterAddress =>
    pauseTeleporterAddress checkTeleporterRegistryAppAccess s sender teleporterAddress
  | .unpauseTeleporterAddress sender teleporterAddress =>
    unpauseTeleporterAddress checkTeleporterRegistryAppAccess s sender teleporterAddress

variable {checkTeleporterRegistryAppAccess : Address → Except String Unit} {s s' : State}
  {l : List Log}

/-! ## The calls one by one -/

theorem setMinTeleporterVersion_eq_ok {version : ℕ}
    (h : setMinTeleporterVersion s version = .ok (s', l)) :
    version ≤ s.teleporterRegistry.latestVersion ∧ s.minTeleporterVersion < version ∧
      s' = { s with minTeleporterVersion := version } ∧
      l = [.minTeleporterVersionUpdated s.minTeleporterVersion version] := by
  simp only [setMinTeleporterVersion, bind_eq_ok, require_eq_ok, pure_eq_ok,
    Prod.mk.injEq] at h
  obtain ⟨_, h1, _, h2, rfl, rfl⟩ := h
  exact ⟨h1, h2, rfl, rfl⟩

theorem teleporterRegistryAppInit_eq_ok {teleporterRegistryAddress : Address}
    {r : TeleporterRegistry.State} {version : ℕ}
    (h : teleporterRegistryAppInit teleporterRegistryAddress r version = .ok (s, l)) :
    teleporterRegistryAddress ≠ 0 ∧ 0 < version ∧ version ≤ r.latestVersion ∧
      s = ⟨r, fun _ => false, version⟩ := by
  simp only [teleporterRegistryAppInit, bind_eq_ok, require_eq_ok] at h
  obtain ⟨_, h1, _, -, hmin⟩ := h
  obtain ⟨hle, hpos, rfl, -⟩ := setMinTeleporterVersion_eq_ok hmin
  exact ⟨h1, hpos, hle, rfl⟩

/-- A message is accepted from a registered Teleporter address whose version is at least the
minimum and which is not paused, and only from such. -/
theorem receiveTeleporterMessage_eq_ok {sender originSenderAddress : Address}
    {sourceBlockchainID : Bytes32} {message : Bytes} :
    receiveTeleporterMessage s sender sourceBlockchainID originSenderAddress message = .ok l ↔
      sender ≠ 0 ∧ s.teleporterRegistry.addressToVersion sender ≠ 0 ∧
      s.minTeleporterVersion ≤ s.teleporterRegistry.addressToVersion sender ∧
      isTeleporterAddressPaused s sender = false ∧
      l = [.receiveTeleporterMessage sourceBlockchainID originSenderAddress message] := by
  simp only [receiveTeleporterMessage, getVersionFromAddress, bind_eq_ok, require_eq_ok,
    pure_eq_ok]
  constructor
  · rintro ⟨v, ⟨_, h1, _, h2, rfl⟩, _, h3, _, h4, rfl⟩
    exact ⟨h1, h2, h3, h4, rfl⟩
  · rintro ⟨h1, h2, h3, h4, rfl⟩
    exact ⟨_, ⟨(), h1, (), h2, rfl⟩, (), h3, (), h4, rfl⟩

/-- The app's own calls other than `updateMinTeleporterVersion` touch neither the registry nor the
minimum version. -/
structure KeepsVersions (s s' : State) : Prop where
  registry : s'.teleporterRegistry = s.teleporterRegistry
  min : s'.minTeleporterVersion = s.minTeleporterVersion

theorem pauseTeleporterAddress_eq_ok {sender teleporterAddress : Address}
    (h : pauseTeleporterAddress checkTeleporterRegistryAppAccess s sender teleporterAddress =
      .ok (s', l)) :
    checkTeleporterRegistryAppAccess sender = .ok () ∧ teleporterAddress ≠ 0 ∧
      isTeleporterAddressPaused s teleporterAddress = false ∧
      s' = { s with
        pausedTeleporterAddresses := update s.pausedTeleporterAddresses teleporterAddress true } ∧
      l = [.teleporterAddressPaused teleporterAddress] := by
  simp only [pauseTeleporterAddress, bind_eq_ok, require_eq_ok, pure_eq_ok, Prod.mk.injEq] at h
  obtain ⟨⟨⟩, h1, _, h2, _, h3, rfl, rfl⟩ := h
  exact ⟨h1, h2, h3, rfl, rfl⟩

theorem unpauseTeleporterAddress_eq_ok {sender teleporterAddress : Address}
    (h : unpauseTeleporterAddress checkTeleporterRegistryAppAccess s sender teleporterAddress =
      .ok (s', l)) :
    checkTeleporterRegistryAppAccess sender = .ok () ∧ teleporterAddress ≠ 0 ∧
      isTeleporterAddressPaused s teleporterAddress = true ∧
      s' = { s with
        pausedTeleporterAddresses := update s.pausedTeleporterAddresses teleporterAddress false } ∧
      l = [.teleporterAddressUnpaused teleporterAddress] := by
  simp only [unpauseTeleporterAddress, bind_eq_ok, require_eq_ok, pure_eq_ok, Prod.mk.injEq] at h
  obtain ⟨⟨⟩, h1, _, h2, _, h3, rfl, rfl⟩ := h
  exact ⟨h1, h2, h3, rfl, rfl⟩

theorem keepsVersions_of_app_call {c : Call} {a : Address}
    (h : step checkTeleporterRegistryAppAccess a s c = .ok (s', l))
    (hc : ∀ sender version, c ≠ .updateMinTeleporterVersion sender version)
    (hr : ∀ call, c ≠ .registry call) : KeepsVersions s s' := by
  cases c with
  | registry call => exact absurd rfl (hr call)
  | updateMinTeleporterVersion sender version => exact absurd rfl (hc sender version)
  | receiveTeleporterMessage sender src orig message =>
    simp only [step, bind_eq_ok, pure_eq_ok, Prod.mk.injEq] at h
    obtain ⟨_, -, rfl, -⟩ := h
    exact ⟨rfl, rfl⟩
  | pauseTeleporterAddress sender teleporterAddress =>
    obtain ⟨-, -, -, rfl, -⟩ := pauseTeleporterAddress_eq_ok h
    exact ⟨rfl, rfl⟩
  | unpauseTeleporterAddress sender teleporterAddress =>
    obtain ⟨-, -, -, rfl, -⟩ := unpauseTeleporterAddress_eq_ok h
    exact ⟨rfl, rfl⟩

/-- What a call can do to the registry and the minimum version: a registry call registers one
entry; `updateMinTeleporterVersion` raises the minimum, at most to the latest version; the other
calls keep both. -/
theorem step_moves {a : Address} {c : Call}
    (h : step checkTeleporterRegistryAppAccess a s c = .ok (s', l)) :
    (∃ entry l', addToRegistry s.teleporterRegistry entry = .ok (s'.teleporterRegistry, l') ∧
      s'.minTeleporterVersion = s.minTeleporterVersion) ∨
    (s'.teleporterRegistry = s.teleporterRegistry ∧
      (s'.minTeleporterVersion = s.minTeleporterVersion ∨
        s.minTeleporterVersion < s'.minTeleporterVersion ∧
          s'.minTeleporterVersion ≤ s.teleporterRegistry.latestVersion)) := by
  by_cases hr : ∃ call, c = .registry call
  · obtain ⟨call, rfl⟩ := hr
    simp only [step, bind_eq_ok, pure_eq_ok, Prod.mk.injEq] at h
    obtain ⟨⟨r, l'⟩, hcall, rfl, -⟩ := h
    obtain ⟨entry, he⟩ := step_addToRegistry hcall
    exact .inl ⟨entry, l', he, rfl⟩
  by_cases hm : ∃ sender version, c = .updateMinTeleporterVersion sender version
  · obtain ⟨sender, version, rfl⟩ := hm
    simp only [step, updateMinTeleporterVersion, bind_eq_ok] at h
    obtain ⟨_, -, h⟩ := h
    obtain ⟨hle, hlt, rfl, -⟩ := setMinTeleporterVersion_eq_ok h
    exact .inr ⟨rfl, .inr ⟨hlt, hle⟩⟩
  push Not at hr hm
  have hk := keepsVersions_of_app_call h hm hr
  exact .inr ⟨hk.registry, .inl hk.min⟩

/-! ## The invariant -/

/-- The registry's index is consistent and the minimum version is a positive version at most the
latest (module doc). -/
structure Inv (s : State) : Prop where
  indexed : Indexed s.teleporterRegistry
  min_pos : 0 < s.minTeleporterVersion
  min_le_latest : s.minTeleporterVersion ≤ s.teleporterRegistry.latestVersion

theorem Inv.init {teleporterRegistryAddress : Address} {r : TeleporterRegistry.State}
    {version : ℕ} (hr : Indexed r)
    (h : teleporterRegistryAppInit teleporterRegistryAddress r version = .ok (s, l)) : Inv s := by
  obtain ⟨-, hpos, hle, rfl⟩ := teleporterRegistryAppInit_eq_ok h
  exact ⟨hr, hpos, hle⟩

theorem Inv.step {a : Address} {c : Call} (hi : Inv s)
    (h : step checkTeleporterRegistryAppAccess a s c = .ok (s', l)) : Inv s' := by
  rcases step_moves h with ⟨entry, l', he, hmin⟩ | ⟨hreg, hmin⟩
  · -- a registration keeps the index and does not lower the latest version
    refine ⟨hi.indexed.add he, hmin ▸ hi.min_pos, ?_⟩
    rw [hmin]
    exact hi.min_le_latest.trans (Extends.add he).latest
  · have hidx : Indexed s'.teleporterRegistry := hreg ▸ hi.indexed
    have hlat : s'.teleporterRegistry.latestVersion = s.teleporterRegistry.latestVersion := by
      rw [hreg]
    rcases hmin with hmin | ⟨hlt, hle⟩
    · exact ⟨hidx, hmin ▸ hi.min_pos, by rw [hmin, hlat]; exact hi.min_le_latest⟩
    · exact ⟨hidx, hi.min_pos.trans hlt, by rw [hlat]; exact hle⟩

theorem Inv.latest_pos (hi : Inv s) : 0 < s.teleporterRegistry.latestVersion :=
  hi.min_pos.trans_le hi.min_le_latest

theorem Inv.latest_registered (hi : Inv s) :
    s.teleporterRegistry.versionToAddress s.teleporterRegistry.latestVersion ≠ 0 :=
  hi.indexed.latest_registered.resolve_left hi.latest_pos.ne'

theorem Inv.getTeleporterMessenger_eq (hi : Inv s) :
    getTeleporterMessenger s =
      let latest := s.teleporterRegistry.versionToAddress s.teleporterRegistry.latestVersion
      if isTeleporterAddressPaused s latest then
        .error "TeleporterRegistryApp: Teleporter sending paused"
      else .ok latest := by
  have hlatest : getLatestTeleporter s.teleporterRegistry =
      .ok (s.teleporterRegistry.versionToAddress s.teleporterRegistry.latestVersion) := by
    simp only [getLatestTeleporter, getAddressFromVersion, bind_eq_ok, require_eq_ok,
      pure_eq_ok]
    exact ⟨(), hi.latest_pos.ne', (), hi.latest_registered, trivial⟩
  simp only [getTeleporterMessenger, hlatest, ok_bind]
  split <;> simp_all [require]

/-- The Teleporter the app sends through is one it accepts messages from: its version is the
latest, at least the minimum, and it is not paused. -/
theorem Inv.receiveTeleporterMessage_of_getTeleporterMessenger (hi : Inv s) {teleporter : Address}
    (h : getTeleporterMessenger s = .ok teleporter) (sourceBlockchainID : Bytes32)
    (originSenderAddress : Address) (message : Bytes) :
    receiveTeleporterMessage s teleporter sourceBlockchainID originSenderAddress message =
      .ok [.receiveTeleporterMessage sourceBlockchainID originSenderAddress message] := by
  rw [hi.getTeleporterMessenger_eq] at h
  dsimp only at h
  split at h
  · cases h
  · rename_i hpaused
    obtain rfl := Except.ok.inj h
    have hv := hi.indexed.le_addressToVersion _ hi.latest_registered
    refine receiveTeleporterMessage_eq_ok.mpr ⟨hi.latest_registered, ?_, ?_, ?_, rfl⟩
    · exact (hi.latest_pos.trans_le hv).ne'
    · exact hi.min_le_latest.trans hv
    · simpa using hpaused

/-! ## Along a run -/

/-- What a later state of the app keeps: the minimum version and each address's version do not
decrease, and the registry extends. -/
structure Advances (s t : State) : Prop where
  min : s.minTeleporterVersion ≤ t.minTeleporterVersion
  registry : Extends s.teleporterRegistry t.teleporterRegistry
  addressToVersion : ∀ p, s.teleporterRegistry.addressToVersion p ≤
    t.teleporterRegistry.addressToVersion p

theorem Advances.refl (s : State) : Advances s s :=
  ⟨le_rfl, Extends.refl _, fun _ => le_rfl⟩

theorem Advances.trans {t u : State} (h₁ : Advances s t) (h₂ : Advances t u) : Advances s u :=
  ⟨h₁.min.trans h₂.min, h₁.registry.trans h₂.registry,
    fun p => (h₁.addressToVersion p).trans (h₂.addressToVersion p)⟩

theorem addressToVersion_le_of_addToRegistry {r r' : TeleporterRegistry.State}
    {entry : ProtocolRegistryEntry} {l' : List TeleporterRegistry.Log}
    (h : addToRegistry r entry = .ok (r', l')) (p : Address) :
    r.addressToVersion p ≤ r'.addressToVersion p := by
  obtain ⟨-, -, -, -, -, hatv, -⟩ := addToRegistry_eq_ok h
  rw [hatv]
  exact le_update_max _ _ _ _

theorem Advances.step {a : Address} {c : Call}
    (h : step checkTeleporterRegistryAppAccess a s c = .ok (s', l)) : Advances s s' := by
  rcases step_moves h with ⟨entry, l', he, hmin⟩ | ⟨hreg, hmin⟩
  · exact ⟨hmin.ge, Extends.add he, addressToVersion_le_of_addToRegistry he⟩
  · refine ⟨?_, hreg ▸ Extends.refl _, fun p => hreg ▸ le_rfl⟩
    rcases hmin with hmin | ⟨hlt, -⟩
    · exact hmin.ge
    · exact hlt.le

theorem exec_advances {a : Address} {t : State} {tr : List (Call × List Log)}
    (h : Exec (step checkTeleporterRegistryAppAccess a) s tr t) : Advances s t := by
  induction h with
  | nil => exact Advances.refl _
  | snoc _ hc ih => exact ih.trans (Advances.step hc)

/-! ## Sending and receiving along every run -/

/-- The app deployed on a registry built by its constructor and its calls, then run together
with it: its minimum version stays a positive version at most the latest, which is registered,
and it sends through the latest Teleporter unless it paused it, which is then one it accepts
messages from. -/
theorem registryApp_sends_through_accepted {a : Address} {blockchainID : Bytes32}
    {initialEntries : List ProtocolRegistryEntry} {r₀ r : TeleporterRegistry.State}
    {l₀ : List TeleporterRegistry.Log}
    {tr₀ : List (TeleporterRegistry.Call × List TeleporterRegistry.Log)}
    {minTeleporterVersion : ℕ} {s₀ s : State} {l : List Log} {tr : List (Call × List Log)}
    (h₀ : teleporterRegistryInit blockchainID initialEntries = .ok (r₀, l₀))
    (hr : Exec (TeleporterRegistry.step a) r₀ tr₀ r)
    (hinit : teleporterRegistryAppInit a r minTeleporterVersion = .ok (s₀, l))
    (hrun : Exec (step checkTeleporterRegistryAppAccess a) s₀ tr s) :
    0 < s.minTeleporterVersion ∧ s.minTeleporterVersion ≤ s.teleporterRegistry.latestVersion ∧
    s.teleporterRegistry.versionToAddress s.teleporterRegistry.latestVersion ≠ 0 ∧
    getTeleporterMessenger s =
      (let latest := s.teleporterRegistry.versionToAddress s.teleporterRegistry.latestVersion
      if isTeleporterAddressPaused s latest then
        .error "TeleporterRegistryApp: Teleporter sending paused"
      else .ok latest) ∧
    ∀ teleporter, getTeleporterMessenger s = .ok teleporter →
      ∀ sourceBlockchainID originSenderAddress message,
        receiveTeleporterMessage s teleporter sourceBlockchainID originSenderAddress message =
          .ok [.receiveTeleporterMessage sourceBlockchainID originSenderAddress message] := by
  have hi₀ : Inv s₀ := Inv.init (exec_consistent h₀ hr).toIndexed hinit
  have hi : Inv s := hrun.inv (fun _ _ _ _ hi hc => hi.step hc) hi₀
  exact ⟨hi.min_pos, hi.min_le_latest, hi.latest_registered, hi.getTeleporterMessenger_eq,
    fun _ ht => hi.receiveTeleporterMessage_of_getTeleporterMessenger ht⟩

theorem registryApp_sends_through_accepted_sample :
    ∃ (r₀ : TeleporterRegistry.State) (l₀ : List TeleporterRegistry.Log) (s₀ s : State)
      (l : List Log) (tr : List (Call × List Log)),
      teleporterRegistryInit 0 [⟨1, 7⟩] = .ok (r₀, l₀) ∧
      teleporterRegistryAppInit 5 r₀ 1 = .ok (s₀, l) ∧ Exec (step (ownedBy 3) 5) s₀ tr s ∧
      getTeleporterMessenger s = .ok 9 ∧
      receiveTeleporterMessage s 9 0 0 [] = .ok [.receiveTeleporterMessage 0 0 []] := by
  -- version 2 at address 9 comes in through the registry after the app is deployed
  obtain ⟨r₀, l₀, s₀, l, s, tr, h₀, hinit, hrun, hsend⟩ : ∃ r₀ l₀ s₀ l s tr,
      teleporterRegistryInit 0 [⟨1, 7⟩] = .ok (r₀, l₀) ∧
      teleporterRegistryAppInit 5 r₀ 1 = .ok (s₀, l) ∧ Exec (step (ownedBy 3) 5) s₀ tr s ∧
      getTeleporterMessenger s = .ok 9 :=
    ⟨_, _, _, _, _, _, rfl, rfl,
      .single (show step (ownedBy 3) 5 _
        (.registry (.addProtocolVersion ⟨0, 0, ⟨2, 9⟩, 5⟩ true)) = _ from rfl),
      rfl⟩
  obtain ⟨-, -, -, -, hrecv⟩ := registryApp_sends_through_accepted h₀ (.nil r₀) hinit hrun
  exact ⟨r₀, l₀, s₀, s, l, tr, h₀, hinit, hrun, hsend, hrecv 9 hsend 0 0 []⟩

/-- Along a run of the app, the minimum version, the registered versions and each address's
version only grow; so a Teleporter whose version is below a minimum the app once had is
rejected, until the registry registers it again at a version that is high enough. -/
theorem registryApp_rejects_below_min {a : Address} {t : State} {tr : List (Call × List Log)}
    (h : Exec (step checkTeleporterRegistryAppAccess a) s tr t) :
    s.minTeleporterVersion ≤ t.minTeleporterVersion ∧
    Extends s.teleporterRegistry t.teleporterRegistry ∧
    (∀ p, s.teleporterRegistry.addressToVersion p ≤ t.teleporterRegistry.addressToVersion p) ∧
    ∀ sender, t.teleporterRegistry.addressToVersion sender < s.minTeleporterVersion →
      ∀ sourceBlockchainID originSenderAddress message (l : List Log),
        receiveTeleporterMessage t sender sourceBlockchainID originSenderAddress message ≠
          .ok l := by
  have hadv := exec_advances h
  refine ⟨hadv.min, hadv.registry, hadv.addressToVersion, fun sender hlt _ _ _ _ hrecv => ?_⟩
  obtain ⟨-, -, hmin, -⟩ := receiveTeleporterMessage_eq_ok.mp hrecv
  have := hadv.min
  omega

theorem registryApp_rejects_below_min_sample :
    ∃ (s t : State) (tr : List (Call × List Log)),
      Exec (step (ownedBy 3) 5) s tr t ∧ s.minTeleporterVersion = 2 ∧
      t.teleporterRegistry.addressToVersion 7 = 1 ∧
      receiveTeleporterMessage t 7 0 0 [] ≠ .ok [.receiveTeleporterMessage 0 0 []] := by
  -- versions 1 at 7 and 2 at 9 with the minimum raised to 2, then a version 3 comes in
  obtain ⟨s, t, tr, hrun, hmin, h7⟩ : ∃ s t tr, Exec (step (ownedBy 3) 5) s tr t ∧
      s.minTeleporterVersion = 2 ∧ t.teleporterRegistry.addressToVersion 7 = 1 :=
    ⟨⟨⟨0, 2, update (update (fun _ => 0) 1 7) 2 9, update (update (fun _ => 0) 7 1) 9 2⟩,
        fun _ => false, 2⟩, _, _,
      .single (show step (ownedBy 3) 5 _
        (.registry (.addProtocolVersion ⟨0, 0, ⟨3, 11⟩, 5⟩ true)) = _ from rfl),
      rfl, rfl⟩
  obtain ⟨-, -, -, hrej⟩ := registryApp_rejects_below_min hrun
  exact ⟨s, t, tr, hrun, hmin, h7, hrej 7 (by rw [h7, hmin]; decide) 0 0 [] _⟩

end TeleporterRegistryApp

end Teleporter
