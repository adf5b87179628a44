import Mathlib.Data.List.Infix
import IcmServices.Teleporter.Registry
import IcmServices.Relayer.Coordinator

/-!
# The off-chain registry message handler

An off-chain registry message is a warp message that the validators of a chain sign to register a
Teleporter version in that chain's own `TeleporterRegistry`. The relayer routes it back to the
chain it comes from, to the configured registry (`getMessageRoutingInfo`). `ShouldSendMessage`
sends it only when it is addressed to that registry and the version is not registered there yet,
which the handler learns by calling the registry's `getAddressFromVersion` and finding the revert
reason `"TeleporterRegistry: version not found"` in the error; `SendMessage` then calls
`addProtocolVersion(0)` on the registry with the signed message.

The registry the handler calls is the registry model, in the state it has on the destination, and
its error is the revert reason.

* `shouldSendMessage_iff_version_free`: the handler's decision agrees with the registry's own
  checks: it sends exactly the messages for this registry whose version is free, and the only
  revert of the registry it passes on is that of a zero version.
* `offChainRegistry_registers_once`: a message it sends, signed by the chain's validators, is
  registered exactly when its address is nonzero and its version not too far above the latest;
  and once it is registered, the handler skips it in every later state of the registry.
-/

namespace OffChainRegistry

open Solidity Function Contract Teleporter TeleporterRegistry Relayer

/-- `addProtocolVersionGasLimit`. -/
def addProtocolVersionGasLimit : ℕ := 500000

/-- `revertVersionNotFoundString`. -/
def revertVersionNotFoundString : String := "TeleporterRegistry: version not found"

/-- `strings.Contains`. -/
def stringsContains (s substr : String) : Bool := decide (substr.toList <:+: s.toList)

/-- An addressed call (`warpPayload.AddressedCall`): its source address, and its payload as
`UnpackTeleporterRegistryWarpPayload` reads it, the entry and the destination address, or the
error of the decoding. -/
structure AddressedCall where
  sourceAddress : Address
  payload : Except String (ProtocolRegistryEntry × Address)

/-- A `warp.UnsignedMessage` as the handler reads it: its source chain, and its payload as
`ParseAddressedCall` parses it. -/
structure UnsignedMessage where
  sourceChainID : Bytes32
  addressedCall : Except String AddressedCall

/-- The `messageHandler` of a message. -/
structure MessageHandler where
  unsignedMessage : UnsignedMessage
  registryAddress : Address

/-- `GetMessageRoutingInfo` of the `factory` of the registry at `registryAddress`: the message goes
back to its own chain, to the registry. -/
def getMessageRoutingInfo (registryAddress : Address) (unsignedMessage : UnsignedMessage) :
    Except String MessageRoutingInfo :=
  match unsignedMessage.addressedCall with
  | .error err => .error ("failed parsing addressed payload: " ++ err)
  | .ok addressedPayload => .ok
    { sourceChainID := unsignedMessage.sourceChainID
      senderAddress := addressedPayload.sourceAddress
      destinationChainID := unsignedMessage.sourceChainID
      destinationAddress := registryAddress }

/-- The `factory` of the registry at `registryAddress`, as the coordinator calls it. -/
def factory (registryAddress : Address) : MessageHandlerFactory UnsignedMessage MessageHandler where
  getMessageRoutingInfo := getMessageRoutingInfo registryAddress
  newMessageHandler unsignedMessage _ := .ok ⟨unsignedMessage, registryAddress⟩

/-- `ShouldSendMessage`, with the registry of the destination in the state `registry`. -/
def MessageHandler.shouldSendMessage (m : MessageHandler) (registry : TeleporterRegistry.State) :
    Except String Bool := do
  let addressedPayload ← m.unsignedMessage.addressedCall
  let (entry, destination) ← addressedPayload.payload
  if destination ≠ m.registryAddress then pure false
  else
    match getAddressFromVersion registry entry.version with
    | .error err =>
      if stringsContains err revertVersionNotFoundString then pure true else .error err
    | .ok _ => pure false

/-- The message the registry reads at index `0` of the transaction `SendMessage` sends: the warp
precompile's source chain and origin sender of the signed message, and its payload decoded by
the registry as `UnpackTeleporterRegistryWarpPayload` decodes it. -/
def UnsignedMessage.registryMessage (m : UnsignedMessage) : Except String WarpMessage := do
  let addressedPayload ← m.addressedCall
  let (entry, destinationAddress) ← addressedPayload.payload
  pure ⟨m.sourceChainID, addressedPayload.sourceAddress, entry, destinationAddress⟩

/-- `SendMessage`: the transaction to the registry, with `addProtocolVersionGasLimit`, and the
registry call it makes, `addProtocolVersion(0)`; `success` is whether the warp precompile verified
the signed message. -/
def MessageHandler.sendMessage (m : MessageHandler) (success : Bool) :
    Except String (Address × ℕ × TeleporterRegistry.Call) := do
  let message ← m.unsignedMessage.registryMessage
  pure (m.registryAddress, addProtocolVersionGasLimit, .addProtocolVersion message success)

/-! ## The registry's answer -/

section
variable {r : TeleporterRegistry.State} {v : ℕ}

theorem getAddressFromVersion_eq :
    getAddressFromVersion r v =
      if v = 0 then .error "TeleporterRegistry: zero version"
      else if r.versionToAddress v = 0 then .error "TeleporterRegistry: version not found"
      else .ok (r.versionToAddress v) := by
  by_cases hv : v = 0
  · simp only [getAddressFromVersion, require, hv, ne_eq, not_true_eq_false, if_false, if_true]
    rfl
  · by_cases ha : r.versionToAddress v = 0
    · simp only [getAddressFromVersion, require, hv, ha, ne_eq, not_true_eq_false,
        not_false_eq_true, if_false, if_true, ok_bind]
      rfl
    · simp only [getAddressFromVersion, require, hv, ha, ne_eq, not_false_eq_true, if_false,
        if_true, ok_bind]
      rfl

/-- The handler reads the registry's answer right: the version is free when the registry says
"version not found", and a zero version's revert is passed on. -/
theorem versionFree_eq :
    (match getAddressFromVersion r v with
      | .error err =>
        if stringsContains err revertVersionNotFoundString then pure true else .error err
      | .ok _ => pure false : Except String Bool) =
      if v = 0 then .error "TeleporterRegistry: zero version"
      else .ok (decide (r.versionToAddress v = 0)) := by
  rw [getAddressFromVersion_eq]
  by_cases hv : v = 0
  · have hzero : stringsContains "TeleporterRegistry: zero version"
        revertVersionNotFoundString = false := by decide
    rw [if_pos hv, if_pos hv]
    simp only [hzero, Bool.false_eq_true, if_false]
  · rw [if_neg hv, if_neg hv]
    by_cases ha : r.versionToAddress v = 0
    · have hfound : stringsContains "TeleporterRegistry: version not found"
          revertVersionNotFoundString = true := by decide
      rw [if_pos ha, decide_eq_true ha]
      simp only [hfound, if_true]
      rfl
    · rw [if_neg ha, decide_eq_false ha]
      rfl

end

section
variable {m : MessageHandler} {r : TeleporterRegistry.State}

/-- The handler sends exactly the messages for its registry whose version is free there. -/
theorem shouldSendMessage_eq_ok {b : Bool} :
    m.shouldSendMessage r = .ok b ↔
      ∃ addressedPayload entry destination,
        m.unsignedMessage.addressedCall = .ok addressedPayload ∧
        addressedPayload.payload = .ok (entry, destination) ∧
        (destination = m.registryAddress → entry.version ≠ 0) ∧
        (b = true ↔ destination = m.registryAddress ∧ r.versionToAddress entry.version = 0) := by
  unfold MessageHandler.shouldSendMessage
  rcases hc : m.unsignedMessage.addressedCall with err | addressedPayload
  · simp [bind, Except.bind]
  rcases hp : addressedPayload.payload with err | ⟨entry, destination⟩
  · simp [bind, Except.bind, hp]
  simp only [bind, Except.bind, versionFree_eq]
  by_cases hd : destination = m.registryAddress
  · -- the registry's answer decides
    by_cases hv : entry.version = 0
    · simp [hd, hv, hp]
    · cases b <;> simp [hd, hv, hp]
  · simp [hd, hp]

/-- The handler fails on a message it cannot decode, and on one for its registry with a zero
version, with the registry's revert. -/
theorem shouldSendMessage_eq_error {e : String} :
    m.shouldSendMessage r = .error e ↔
      m.unsignedMessage.addressedCall = .error e ∨
      ∃ addressedPayload, m.unsignedMessage.addressedCall = .ok addressedPayload ∧
        (addressedPayload.payload = .error e ∨
          ∃ entry, addressedPayload.payload = .ok (entry, m.registryAddress) ∧
            entry.version = 0 ∧ e = "TeleporterRegistry: zero version") := by
  unfold MessageHandler.shouldSendMessage
  rcases hc : m.unsignedMessage.addressedCall with err | addressedPayload
  · simp [bind, Except.bind]
  rcases hp : addressedPayload.payload with err | ⟨entry, destination⟩
  · simp [bind, Except.bind, hp]
  simp only [bind, Except.bind, versionFree_eq]
  by_cases hd : destination = m.registryAddress
  · subst hd
    by_cases hv : entry.version = 0
    · simp [hv, hp, eq_comm]
    · simp [hv, hp]
  · simp [hd, hp, pure, Except.pure]

theorem shouldSendMessage_of_taken {addressedPayload : AddressedCall}
    {entry : ProtocolRegistryEntry} {destination : Address}
    (hc : m.unsignedMessage.addressedCall = .ok addressedPayload)
    (hp : addressedPayload.payload = .ok (entry, destination))
    (hnz : destination = m.registryAddress → entry.version ≠ 0)
    (htaken : r.versionToAddress entry.version ≠ 0) : m.shouldSendMessage r = .ok false :=
  shouldSendMessage_eq_ok.mpr ⟨addressedPayload, entry, destination, hc, hp, hnz, by
    simp only [Bool.false_eq_true, false_iff, not_and]
    exact fun _ => htaken⟩

/-- The handler's decision agrees with the registry: it sends exactly the messages for its
registry whose version is free there, and it fails exactly on a message it cannot decode and on
one for its registry with a zero version. -/
theorem shouldSendMessage_iff_version_free {b : Bool} {e : String} :
    (m.shouldSendMessage r = .ok b ↔
      ∃ addressedPayload entry destination,
        m.unsignedMessage.addressedCall = .ok addressedPayload ∧
        addressedPayload.payload = .ok (entry, destination) ∧
        (destination = m.registryAddress → entry.version ≠ 0) ∧
        (b = true ↔ destination = m.registryAddress ∧ r.versionToAddress entry.version = 0)) ∧
    (m.shouldSendMessage r = .error e ↔
      m.unsignedMessage.addressedCall = .error e ∨
      ∃ addressedPayload, m.unsignedMessage.addressedCall = .ok addressedPayload ∧
        (addressedPayload.payload = .error e ∨
          ∃ entry, addressedPayload.payload = .ok (entry, m.registryAddress) ∧
            entry.version = 0 ∧ e = "TeleporterRegistry: zero version")) :=
  ⟨shouldSendMessage_eq_ok, shouldSendMessage_eq_error⟩

theorem shouldSendMessage_iff_version_free_sample :
    (⟨⟨0, .ok ⟨0, .ok (⟨2, 9⟩, 5)⟩⟩, 5⟩ : MessageHandler).shouldSendMessage
        ⟨0, 1, update (fun _ => 0) 1 7, update (fun _ => 0) 7 1⟩ = .ok true ∧
    (⟨⟨0, .ok ⟨0, .ok (⟨0, 9⟩, 5)⟩⟩, 5⟩ : MessageHandler).shouldSendMessage
        ⟨0, 1, update (fun _ => 0) 1 7, update (fun _ => 0) 7 1⟩ =
      .error "TeleporterRegistry: zero version" :=
  ⟨(shouldSendMessage_iff_version_free (e := "")).1.mpr
      ⟨_, ⟨2, 9⟩, 5, rfl, rfl, fun _ => by decide, iff_of_true rfl ⟨rfl, rfl⟩⟩,
    (shouldSendMessage_iff_version_free (b := true)).2.mpr (.inr ⟨_, rfl, .inr ⟨_, rfl, rfl, rfl⟩⟩)⟩

end

/-! ## Delivery -/

/-- A registration of a nonzero version that is free succeeds exactly when its address is nonzero
and the version is at most `MAX_VERSION_INCREMENT` above the latest, without overflow. -/
theorem addToRegistry_ok_iff {r : TeleporterRegistry.State} {entry : ProtocolRegistryEntry}
    (hv : entry.version ≠ 0) (hfree : r.versionToAddress entry.version = 0) :
    (∃ r' l, addToRegistry r entry = .ok (r', l)) ↔
      entry.protocolAddress ≠ 0 ∧ r.latestVersion + maxVersionIncrement < 2 ^ 256 ∧
        entry.version ≤ r.latestVersion + maxVersionIncrement := by
  constructor
  · rintro ⟨r', l, h⟩
    simp only [addToRegistry, bind_eq_ok, require_eq_ok, checkedAdd_eq_ok] at h
    obtain ⟨_, -, _, -, _, ha, _, ⟨hlt, rfl⟩, _, hle, -⟩ := h
    exact ⟨ha, hlt, hle⟩
  · rintro ⟨ha, hlt, hle⟩
    simp only [addToRegistry, bind_eq_ok, require_eq_ok, checkedAdd_eq_ok]
    by_cases hgt : entry.version > r.latestVersion
    · exact ⟨_, _, (), hv, (), hfree, (), ha, _, ⟨hlt, rfl⟩, (), hle, by rw [if_pos hgt]; rfl⟩
    · exact ⟨_, _, (), hv, (), hfree, (), ha, _, ⟨hlt, rfl⟩, (), hle, by rw [if_neg hgt]; rfl⟩

/-- A version registered at a nonzero address stays so along every run of the registry. -/
theorem getAddressFromVersion_of_exec {self : Address} {r r' : TeleporterRegistry.State}
    {tr : List (TeleporterRegistry.Call × List TeleporterRegistry.Log)} {v : ℕ} {a : Address}
    (hv : v ≠ 0) (ha : a ≠ 0) (hreg : r.versionToAddress v = a)
    (h : Exec (TeleporterRegistry.step self) r tr r') :
    getAddressFromVersion r' v = .ok a := by
  have hkeep := (exec_extends h).versions v (by rw [hreg]; exact ha)
  rw [getAddressFromVersion_eq, if_neg hv, hkeep, hreg, if_neg ha]

/-- A message the handler sends, signed by the validators of the registry's chain, is registered
exactly when its address is nonzero and its version not too far above the latest; it is then
found at its version in every later state of the registry, and the handler skips it there. -/
theorem offChainRegistry_registers_once {m : MessageHandler} {r : TeleporterRegistry.State}
    {message : WarpMessage} (hsend : m.shouldSendMessage r = .ok true)
    (hmessage : m.unsignedMessage.registryMessage = .ok message)
    (hchain : message.sourceChainID = r.blockchainID)
    (horigin : message.originSenderAddress = validatorsSourceAddress) :
    m.sendMessage true =
        .ok (m.registryAddress, addProtocolVersionGasLimit, .addProtocolVersion message true) ∧
    ((∃ r' l, TeleporterRegistry.step m.registryAddress r (.addProtocolVersion message true) =
        .ok (r', l)) ↔
      message.entry.protocolAddress ≠ 0 ∧ r.latestVersion + maxVersionIncrement < 2 ^ 256 ∧
        message.entry.version ≤ r.latestVersion + maxVersionIncrement) ∧
    ∀ r' l, TeleporterRegistry.step m.registryAddress r (.addProtocolVersion message true) =
        .ok (r', l) →
      ∀ tr r'', Exec (TeleporterRegistry.step m.registryAddress) r' tr r'' →
        getAddressFromVersion r'' message.entry.version = .ok message.entry.protocolAddress ∧
        m.shouldSendMessage r'' = .ok false := by
  obtain ⟨addressedPayload, entry, destination, hc, hp, hnz, hfree⟩ :=
    shouldSendMessage_eq_ok.mp hsend
  obtain ⟨hd, hfree⟩ := hfree.mp rfl
  have hv := hnz hd
  obtain ⟨hentry, hdest⟩ : message.entry = entry ∧ message.destinationAddress = destination := by
    simp only [UnsignedMessage.registryMessage, hc, hp, bind, Except.bind, pure_eq_ok] at hmessage
    rw [← hmessage]
    exact ⟨rfl, rfl⟩
  -- the registry's checks of the warp message pass, so its call is the registration
  have hstep : TeleporterRegistry.step m.registryAddress r (.addProtocolVersion message true) =
      addToRegistry r entry := by
    simp only [TeleporterRegistry.step, addProtocolVersion, require, hchain, horigin, hdest, hd,
      hentry, if_true, ok_bind]
  rw [hentry]
  refine ⟨by simp [MessageHandler.sendMessage, hmessage], ?_, fun r' l h tr r'' hrun => ?_⟩
  · rw [hstep]
    exact addToRegistry_ok_iff hv hfree
  · rw [hstep] at h
    obtain ⟨-, -, ha, -, hvta, -⟩ := addToRegistry_eq_ok h
    have hfound := getAddressFromVersion_of_exec hv ha (by rw [hvta, update_self]) hrun
    refine ⟨hfound, shouldSendMessage_of_taken hc hp hnz fun hfree'' => ?_⟩
    rw [getAddressFromVersion_eq, if_neg hv, hfree'', if_pos rfl] at hfound
    cases hfound

theorem offChainRegistry_registers_once_sample :
    ∃ (r' : TeleporterRegistry.State) (l : List TeleporterRegistry.Log),
      TeleporterRegistry.step 5 ⟨0, 1, update (fun _ => 0) 1 7, update (fun _ => 0) 7 1⟩
        (.addProtocolVersion ⟨0, 0, ⟨2, 9⟩, 5⟩ true) = .ok (r', l) ∧
      (⟨⟨0, .ok ⟨0, .ok (⟨2, 9⟩, 5)⟩⟩, 5⟩ : MessageHandler).shouldSendMessage r' = .ok false := by
  have hsend : (⟨⟨0, .ok ⟨0, .ok (⟨2, 9⟩, 5)⟩⟩, 5⟩ : MessageHandler).shouldSendMessage
      ⟨0, 1, update (fun _ => 0) 1 7, update (fun _ => 0) 7 1⟩ = .ok true := by
    simp [MessageHandler.shouldSendMessage, versionFree_eq, bind, Except.bind]
  obtain ⟨-, hok, honce⟩ := offChainRegistry_registers_once hsend rfl rfl rfl
  obtain ⟨r', l, h⟩ := hok.mpr ⟨by decide, by decide, by decide⟩
  exact ⟨r', l, h, (honce r' l h [] r' (.nil r')).2⟩

end OffChainRegistry
