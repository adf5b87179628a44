import IcmServices.Lib.Solidity
import IcmServices.Relayer.Checkpoint

/-!
# Routing messages to application relayers, and what each checkpoint vouches for

The relayer runs one application relayer per relayer ID of its configuration: a source chain, a
destination chain, an origin sender address and a destination address, where the zero address
`AllAllowedAddress` stands for every address (`database.GetSourceBlockchainRelayerIDs`).
`MessageCoordinator.ProcessBlock` hands each message of a block to the most specific application
relayer whose ID matches the message's route (`getApplicationRelayer`), then starts
`ProcessHeight` of every application relayer of the chain on the block, and `ProcessHeight`
stages the height in that relayer's checkpoint once every message handed to it was processed
without error.

* `getApplicationRelayer_isSome_iff`: on a validated configuration (no zero address among the
  allowed ones, distinct source chains), a route finds an application relayer exactly when its
  source chain allows the origin sender and lists the destination chain with the destination
  address among the allowed ones;
* `relayed_below_checkpoint`: in every run of a listener, with blocks dispatched any number of
  times and the calls of `ProcessHeight` returning in any order, each message that an
  application relayer was handed at a height its checkpoint has passed was processed without
  error. The checkpoint is where the relayer starts again after a restart, so no message is
  skipped there.
-/

namespace Database

open Solidity

/-- `AllAllowedAddress`, the zero address: in a relayer ID, every address. -/
def allAllowedAddress : Address := 0

/-- `RelayerID` without its `ID`, the Keccak hash of the four other fields: a relayer is known
by the four fields themselves. -/
structure RelayerID where
  sourceBlockchainID : Bytes32
  destinationBlockchainID : Bytes32
  originSenderAddress : Address
  destinationAddress : Address
  deriving DecidableEq, Repr

/-- `config.SupportedDestination` after `Validate`: a destination chain and the addresses on it
that may receive, every address when none is given. -/
structure SupportedDestination where
  blockchainID : Bytes32
  addresses : List Address

/-- `config.SourceBlockchain` after `Validate`, the fields the relayer IDs are made from. -/
structure SourceBlockchain where
  blockchainID : Bytes32
  allowedOriginSenderAddresses : List Address
  supportedDestinations : List SupportedDestination

/-- The addresses relayer IDs are made for: those given, or `AllAllowedAddress` when none is. -/
def orAllAllowed (addresses : List Address) : List Address :=
  if addresses.length = 0 then [allAllowedAddress] else addresses

/-- `GetSourceBlockchainRelayerIDs`. -/
def getSourceBlockchainRelayerIDs (sourceBlockchain : SourceBlockchain) : List RelayerID :=
  (orAllAllowed sourceBlockchain.allowedOriginSenderAddresses).flatMap fun srcAddress =>
    sourceBlockchain.supportedDestinations.flatMap fun dst =>
      (orAllAllowed dst.addresses).map fun dstAddress =>
        ⟨sourceBlockchain.blockchainID, dst.blockchainID, srcAddress, dstAddress⟩

/-- `GetConfigRelayerIDs`, over the configuration's `SourceBlockchains`. -/
def getConfigRelayerIDs (sourceBlockchains : List SourceBlockchain) : List RelayerID :=
  sourceBlockchains.flatMap getSourceBlockchainRelayerIDs

@[simp] theorem mem_orAllAllowed {a : Address} {addresses : List Address} :
    a ∈ orAllAllowed addresses ↔ addresses = [] ∧ a = allAllowedAddress ∨ a ∈ addresses := by
  cases addresses with
  | nil => simp [orAllAllowed]
  | cons b bs => simp [orAllAllowed]

theorem mem_getSourceBlockchainRelayerIDs {sb : SourceBlockchain} {id : RelayerID} :
    id ∈ getSourceBlockchainRelayerIDs sb ↔ id.sourceBlockchainID = sb.blockchainID ∧
      id.originSenderAddress ∈ orAllAllowed sb.allowedOriginSenderAddresses ∧
      ∃ dst ∈ sb.supportedDestinations, id.destinationBlockchainID = dst.blockchainID ∧
        id.destinationAddress ∈ orAllAllowed dst.addresses := by
  obtain ⟨source, destination, sender, address⟩ := id
  simp only [getSourceBlockchainRelayerIDs, List.mem_flatMap, List.mem_map, RelayerID.mk.injEq]
  constructor
  · rintro ⟨o, ho, dst, hdst, d, hd, rfl, rfl, rfl, rfl⟩
    exact ⟨rfl, ho, dst, hdst, rfl, hd⟩
  · rintro ⟨rfl, ho, dst, hdst, rfl, hd⟩
    exact ⟨sender, ho, dst, hdst, address, hd, rfl, rfl, rfl, rfl⟩

/-- The relayer IDs of a source chain are those of the configuration that start there, when no
two source chains share a blockchain ID. -/
theorem mem_getConfigRelayerIDs {sourceBlockchains : List SourceBlockchain}
    (hnd : (sourceBlockchains.map (·.blockchainID)).Nodup) {sb : SourceBlockchain}
    (hsb : sb ∈ sourceBlockchains) {id : RelayerID} (hid : id.sourceBlockchainID = sb.blockchainID) :
    id ∈ getConfigRelayerIDs sourceBlockchains ↔ id ∈ getSourceBlockchainRelayerIDs sb := by
  rw [getConfigRelayerIDs, List.mem_flatMap]
  constructor
  · rintro ⟨sb', hsb', hmem⟩
    -- the ID names its source chain, and only `sb` has that blockchain ID
    have hsrc := (mem_getSourceBlockchainRelayerIDs.mp hmem).1
    rwa [List.inj_on_of_nodup_map hnd hsb' hsb (hsrc.symm.trans hid)] at hmem
  · exact fun hmem => ⟨sb, hsb, hmem⟩

/-! ## What a configuration relays -/

/-- An allowed list lets `a` through: every address when it is empty. -/
def Allows (addresses : List Address) (a : Address) : Prop := addresses = [] ∨ a ∈ addresses

instance (addresses : List Address) (a : Address) : Decidable (Allows addresses a) :=
  inferInstanceAs (Decidable (_ ∨ _))

/-- What a source chain's configuration says to relay: a message from an allowed origin sender,
to a supported destination chain and an allowed address on it. -/
def SourceBlockchain.Relays (sb : SourceBlockchain) (destinationBlockchainID : Bytes32)
    (originSenderAddress destinationAddress : Address) : Prop :=
  Allows sb.allowedOriginSenderAddresses originSenderAddress ∧
    ∃ dst ∈ sb.supportedDestinations, dst.blockchainID = destinationBlockchainID ∧
      Allows dst.addresses destinationAddress

/-- What `SourceBlockchain.Validate` checks of the addresses: none is the zero address. -/
structure SourceBlockchain.Valid (sb : SourceBlockchain) : Prop where
  allowedOriginSenderAddresses : allAllowedAddress ∉ sb.allowedOriginSenderAddresses
  supportedDestinations : ∀ dst ∈ sb.supportedDestinations, allAllowedAddress ∉ dst.addresses

/-- A key address made for `a` or for every address lets `a` through, unless the zero address was
given itself. -/
theorem allows_of_mem_orAllAllowed {addresses : List Address} {a a' : Address}
    (hz : allAllowedAddress ∉ addresses) (hmem : a' ∈ orAllAllowed addresses)
    (ha : a' = a ∨ a' = allAllowedAddress) : Allows addresses a := by
  rcases mem_orAllAllowed.mp hmem with ⟨hnil, -⟩ | hin
  · exact .inl hnil
  · rcases ha with rfl | rfl
    · exact .inr hin
    · exact absurd hin hz

/-- An address let through has a key address: itself, or the zero address for every one. -/
theorem exists_mem_orAllAllowed {addresses : List Address} {a : Address} (h : Allows addresses a) :
    ∃ a' ∈ orAllAllowed addresses, a' = a ∨ a' = allAllowedAddress := by
  rcases h with rfl | hin
  · exact ⟨allAllowedAddress, by simp, .inr rfl⟩
  · exact ⟨a, mem_orAllAllowed.mpr (.inr hin), .inl rfl⟩

/-- On a validated source chain, an ID for the route or for every sender or address is made
exactly when the chain relays the route. -/
theorem exists_key_iff_relays {sb : SourceBlockchain} (hv : sb.Valid)
    (destinationBlockchainID : Bytes32) (originSenderAddress destinationAddress : Address) :
    (∃ o d, (o = originSenderAddress ∨ o = allAllowedAddress) ∧
        (d = destinationAddress ∨ d = allAllowedAddress) ∧
        (⟨sb.blockchainID, destinationBlockchainID, o, d⟩ : RelayerID) ∈
          getSourceBlockchainRelayerIDs sb) ↔
      sb.Relays destinationBlockchainID originSenderAddress destinationAddress := by
  constructor
  · rintro ⟨o, d, ho, hd, hmem⟩
    obtain ⟨-, hsender, dst, hdst, rfl, haddress⟩ := mem_getSourceBlockchainRelayerIDs.mp hmem
    exact ⟨allows_of_mem_orAllAllowed hv.allowedOriginSenderAddresses hsender ho,
      dst, hdst, rfl, allows_of_mem_orAllAllowed (hv.supportedDestinations dst hdst) haddress hd⟩
  · rintro ⟨hsender, dst, hdst, rfl, haddress⟩
    obtain ⟨o, ho, ho'⟩ := exists_mem_orAllAllowed hsender
    obtain ⟨d, hd, hd'⟩ := exists_mem_orAllAllowed haddress
    exact ⟨o, d, ho', hd', mem_getSourceBlockchainRelayerIDs.mpr ⟨rfl, ho, dst, hdst, rfl, hd⟩⟩

end Database

namespace Relayer

open Solidity Function Database Checkpoint

/-- `MessageCoordinator.getApplicationRelayer` over the application relayers `relayers`: an
exact match first, then a match for every destination address, then for every origin sender,
then for both. -/
def getApplicationRelayer (relayers : List RelayerID) (sourceBlockchainID : Bytes32)
    (originSenderAddress : Address) (destinationBlockchainID : Bytes32)
    (destinationAddress : Address) : Option RelayerID :=
  if (⟨sourceBlockchainID, destinationBlockchainID, originSenderAddress, destinationAddress⟩ :
      RelayerID) ∈ relayers then
    some ⟨sourceBlockchainID, destinationBlockchainID, originSenderAddress, destinationAddress⟩
  else if (⟨sourceBlockchainID, destinationBlockchainID, originSenderAddress, allAllowedAddress⟩ :
      RelayerID) ∈ relayers then
    some ⟨sourceBlockchainID, destinationBlockchainID, originSenderAddress, allAllowedAddress⟩
  else if (⟨sourceBlockchainID, destinationBlockchainID, allAllowedAddress, destinationAddress⟩ :
      RelayerID) ∈ relayers then
    some ⟨sourceBlockchainID, destinationBlockchainID, allAllowedAddress, destinationAddress⟩
  else if (⟨sourceBlockchainID, destinationBlockchainID, allAllowedAddress, allAllowedAddress⟩ :
      RelayerID) ∈ relayers then
    some ⟨sourceBlockchainID, destinationBlockchainID, allAllowedAddress, allAllowedAddress⟩
  else none

/-- The lookup returns one of the application relayers, for the route's chains, with the route's
addresses or the zero address in their place. -/
theorem getApplicationRelayer_eq_some {relayers : List RelayerID} {src dst : Bytes32}
    {sender address : Address} {r : RelayerID}
    (h : getApplicationRelayer relayers src sender dst address = some r) :
    r ∈ relayers ∧ r.sourceBlockchainID = src ∧ r.destinationBlockchainID = dst ∧
      (r.originSenderAddress = sender ∨ r.originSenderAddress = allAllowedAddress) ∧
      (r.destinationAddress = address ∨ r.destinationAddress = allAllowedAddress) := by
  unfold getApplicationRelayer at h
  split_ifs at h with h₁ h₂ h₃ h₄ <;> cases h
  · exact ⟨h₁, rfl, rfl, .inl rfl, .inl rfl⟩
  · exact ⟨h₂, rfl, rfl, .inl rfl, .inr rfl⟩
  · exact ⟨h₃, rfl, rfl, .inr rfl, .inl rfl⟩
  · exact ⟨h₄, rfl, rfl, .inr rfl, .inr rfl⟩

/-- The lookup finds a relayer exactly when one of its four keys is an application relayer. -/
theorem getApplicationRelayer_isSome {relayers : List RelayerID} {src dst : Bytes32}
    {sender address : Address} :
    (getApplicationRelayer relayers src sender dst address).isSome ↔
      ∃ o d, (o = sender ∨ o = allAllowedAddress) ∧ (d = address ∨ d = allAllowedAddress) ∧
        (⟨src, dst, o, d⟩ : RelayerID) ∈ relayers := by
  constructor
  · intro h
    obtain ⟨r, hr⟩ := Option.isSome_iff_exists.mp h
    obtain ⟨hmem, rfl, rfl, ho, hd⟩ := getApplicationRelayer_eq_some hr
    exact ⟨r.originSenderAddress, r.destinationAddress, ho, hd, hmem⟩
  · rintro ⟨o, d, ho, hd, hmem⟩
    unfold getApplicationRelayer
    -- the first key present answers; the four cases of `(o, d)` name a key that is
    split_ifs with h₁ h₂ h₃ h₄ <;> try rfl
    rcases ho with rfl | rfl <;> rcases hd with rfl | rfl
    · exact absurd hmem h₁
    · exact absurd hmem h₂
    · exact absurd hmem h₃
    · exact absurd hmem h₄

/-- **Routing.** On a validated configuration whose source chains have distinct blockchain IDs,
a message's route from a configured source chain finds an application relayer exactly when that
chain's configuration relays it. -/
theorem getApplicationRelayer_isSome_iff {sourceBlockchains : List SourceBlockchain}
    (hnd : (sourceBlockchains.map (·.blockchainID)).Nodup)
    (hv : ∀ sb ∈ sourceBlockchains, sb.Valid) {sb : SourceBlockchain} (hsb : sb ∈ sourceBlockchains)
    (originSenderAddress : Address) (destinationBlockchainID : Bytes32)
    (destinationAddress : Address) :
    (getApplicationRelayer (getConfigRelayerIDs sourceBlockchains) sb.blockchainID
        originSenderAddress destinationBlockchainID destinationAddress).isSome ↔
      sb.Relays destinationBlockchainID originSenderAddress destinationAddress := by
  rw [getApplicationRelayer_isSome, ← exists_key_iff_relays (hv sb hsb)]
  -- the keys start at `sb`, so the configuration has them when `sb` makes them
  refine exists_congr fun o => exists_congr fun d => and_congr_right fun _ => and_congr_right fun _ => ?_
  exact mem_getConfigRelayerIDs hnd hsb rfl

/-- A source chain `1` that relays the messages of `0xA` to chain `2`, to every address. -/
def sampleSourceBlockchain : SourceBlockchain := ⟨1, [0xA], [⟨2, []⟩]⟩

theorem getApplicationRelayer_isSome_iff_sample :
    ([sampleSourceBlockchain].map (·.blockchainID)).Nodup ∧
      (∀ sb ∈ [sampleSourceBlockchain], sb.Valid) ∧
      ((getApplicationRelayer (getConfigRelayerIDs [sampleSourceBlockchain])
          sampleSourceBlockchain.blockchainID 0xA 2 0x5).isSome ↔
        sampleSourceBlockchain.Relays 2 0xA 0x5) :=
  have hnd : ([sampleSourceBlockchain].map (·.blockchainID)).Nodup := by decide
  have hv : ∀ sb ∈ [sampleSourceBlockchain], sb.Valid := by
    intro sb hsb
    rw [List.mem_singleton] at hsb
    subst hsb
    exact ⟨by decide, by decide⟩
  ⟨hnd, hv, getApplicationRelayer_isSome_iff hnd hv (List.mem_singleton_self _) 0xA 2 0x5⟩

/-! ## The coordinator -/

/-- `messages.MessageRoutingInfo`. -/
structure MessageRoutingInfo where
  sourceChainID : Bytes32
  senderAddress : Address
  destinationChainID : Bytes32
  destinationAddress : Address

/-- `relayerTypes.WarpMessageInfo`, what the coordinator reads of it: the source chain of the
unsigned message, the contract that emitted it, and the unsigned message. -/
structure WarpMessageInfo (Msg : Type) where
  sourceChainID : Bytes32
  sourceAddress : Address
  unsignedMessage : Msg

/-- `messages.MessageHandlerFactory`, the two calls the coordinator makes of it: the route of a
message, and a handler for it towards an application relayer's destination client. -/
structure MessageHandlerFactory (Msg Handler : Type) where
  getMessageRoutingInfo : Msg → Except String MessageRoutingInfo
  newMessageHandler : Msg → RelayerID → Except String Handler

/-- `MessageCoordinator`: the handler factories by source chain and protocol address, and the
application relayers, each once, as the keys of a map are. -/
structure MessageCoordinator (Msg Handler : Type) where
  messageHandlerFactories : Bytes32 → Address → Option (MessageHandlerFactory Msg Handler)
  applicationRelayers : List RelayerID
  nodup : applicationRelayers.Nodup

/-- The application relayers `main` creates for a configuration, by relayer ID: one for each
relayer ID of the configuration. -/
def createApplicationRelayers (sourceBlockchains : List SourceBlockchain) : List RelayerID :=
  (getConfigRelayerIDs sourceBlockchains).dedup

variable {Msg Handler : Type}

/-- `getAppRelayerMessageHandler`: the application relayer of a message and a handler for it;
`none` for a message of an unsupported protocol address or with no application relayer, and the
factory's error when it cannot route the message or make its handler. -/
def MessageCoordinator.getAppRelayerMessageHandler (mc : MessageCoordinator Msg Handler)
    (warpMessageInfo : WarpMessageInfo Msg) : Except String (Option (RelayerID × Handler)) :=
  match mc.messageHandlerFactories warpMessageInfo.sourceChainID warpMessageInfo.sourceAddress with
  | none => .ok none
  | some messageHandlerFactory => do
    let routeInfo ← messageHandlerFactory.getMessageRoutingInfo warpMessageInfo.unsignedMessage
    match getApplicationRelayer mc.applicationRelayers routeInfo.sourceChainID
        routeInfo.senderAddress routeInfo.destinationChainID routeInfo.destinationAddress with
    | none => .ok none
    | some appRelayer => do
      let messageHandler ←
        messageHandlerFactory.newMessageHandler warpMessageInfo.unsignedMessage appRelayer
      .ok (some (appRelayer, messageHandler))

/-- A message goes to an application relayer whose ID matches its route, as its protocol's
factory reads the route. -/
theorem getAppRelayerMessageHandler_eq_some {mc : MessageCoordinator Msg Handler}
    {warpMessageInfo : WarpMessageInfo Msg} {appRelayer : RelayerID} {handler : Handler}
    (h : mc.getAppRelayerMessageHandler warpMessageInfo = .ok (some (appRelayer, handler))) :
    ∃ factory routeInfo,
      mc.messageHandlerFactories warpMessageInfo.sourceChainID warpMessageInfo.sourceAddress =
        some factory ∧
      factory.getMessageRoutingInfo warpMessageInfo.unsignedMessage = .ok routeInfo ∧
      getApplicationRelayer mc.applicationRelayers routeInfo.sourceChainID routeInfo.senderAddress
        routeInfo.destinationChainID routeInfo.destinationAddress = some appRelayer ∧
      factory.newMessageHandler warpMessageInfo.unsignedMessage appRelayer = .ok handler := by
  unfold MessageCoordinator.getAppRelayerMessageHandler at h
  split at h
  · cases h
  · rename_i factory hf
    obtain ⟨routeInfo, hroute, h⟩ := bind_eq_ok.mp h
    split at h
    · cases h
    · rename_i r hr
      obtain ⟨handler', hhandler, h⟩ := bind_eq_ok.mp h
      cases h
      exact ⟨factory, routeInfo, hf, hroute, hr, hhandler⟩

/-- The first loop of `ProcessBlock`, on one message: its handler is appended to those of its
application relayer; a message that fails or finds no relayer is skipped. -/
def MessageCoordinator.registerHandler (mc : MessageCoordinator Msg Handler)
    (messageHandlers : RelayerID → List Handler) (warpLogInfo : WarpMessageInfo Msg) :
    RelayerID → List Handler :=
  match mc.getAppRelayerMessageHandler warpLogInfo with
  | .ok (some (appRelayer, handler)) =>
    update messageHandlers appRelayer (messageHandlers appRelayer ++ [handler])
  | _ => messageHandlers

/-- The first loop of `ProcessBlock`: the handlers of a block's messages by application relayer,
in the order of the block. -/
def MessageCoordinator.registerHandlers (mc : MessageCoordinator Msg Handler)
    (messages : List (WarpMessageInfo Msg)) : RelayerID → List Handler :=
  messages.foldl mc.registerHandler fun _ => []

/-- `ProcessBlock`: the calls of `ProcessHeight` it starts, one for each application relayer of
the chain, with the handlers registered for it (none, and the height is then staged at once). -/
def MessageCoordinator.processBlock (mc : MessageCoordinator Msg Handler)
    (messages : List (WarpMessageInfo Msg)) (blockchainID : Bytes32) :
    List (RelayerID × List Handler) :=
  let messageHandlers := mc.registerHandlers messages
  (mc.applicationRelayers.filter fun appRelayer => appRelayer.sourceBlockchainID = blockchainID).map
    fun appRelayer => (appRelayer, messageHandlers appRelayer)

/-- One message registers its handler with its application relayer, and keeps the others. -/
theorem mem_registerHandler {mc : MessageCoordinator Msg Handler}
    {messageHandlers : RelayerID → List Handler} {warpLogInfo : WarpMessageInfo Msg}
    {r : RelayerID} {handler : Handler} (h : handler ∈ messageHandlers r ∨
      mc.getAppRelayerMessageHandler warpLogInfo = .ok (some (r, handler))) :
    handler ∈ mc.registerHandler messageHandlers warpLogInfo r := by
  rcases h with h | hget
  · -- the handlers registered before stay
    cases hget : mc.getAppRelayerMessageHandler warpLogInfo with
    | error e => simpa [MessageCoordinator.registerHandler, hget] using h
    | ok result =>
      rcases result with _ | ⟨appRelayer, handler'⟩
      · simpa [MessageCoordinator.registerHandler, hget] using h
      · simp only [MessageCoordinator.registerHandler, hget]
        by_cases hr : r = appRelayer
        · subst hr
          rw [update_self]
          exact List.mem_append_left _ h
        · rw [update_of_ne hr]
          exact h
  · -- the message's own handler is appended
    simp only [MessageCoordinator.registerHandler, hget, update_self]
    exact List.mem_append_right _ (List.mem_singleton_self _)

/-- Every message of a block that finds an application relayer and a handler is registered with
it, whatever came before it. -/
theorem mem_registerHandlers {mc : MessageCoordinator Msg Handler} {r : RelayerID}
    {handler : Handler} : ∀ {messages : List (WarpMessageInfo Msg)}
    {messageHandlers : RelayerID → List Handler},
    (handler ∈ messageHandlers r ∨ ∃ m ∈ messages,
      mc.getAppRelayerMessageHandler m = .ok (some (r, handler))) →
    handler ∈ messages.foldl mc.registerHandler messageHandlers r
  | [], _, h => h.resolve_right fun ⟨_, hm, _⟩ => absurd hm List.not_mem_nil
  | m :: messages, messageHandlers, h => by
    rw [List.foldl_cons]
    apply mem_registerHandlers
    rcases h with h | ⟨m', hm', hget⟩
    · exact .inl (mem_registerHandler (.inl h))
    · rcases List.mem_cons.mp hm' with rfl | hm'
      · exact .inl (mem_registerHandler (.inr hget))
      · exact .inr ⟨m', hm', hget⟩

/-- `ProcessBlock` starts the application relayers of the chain, with their handlers. -/
theorem mem_processBlock {mc : MessageCoordinator Msg Handler}
    {messages : List (WarpMessageInfo Msg)} {blockchainID : Bytes32} {r : RelayerID}
    {handlers : List Handler} :
    (r, handlers) ∈ mc.processBlock messages blockchainID ↔ r ∈ mc.applicationRelayers ∧
      r.sourceBlockchainID = blockchainID ∧ handlers = mc.registerHandlers messages r := by
  simp only [MessageCoordinator.processBlock, List.mem_map, List.mem_filter, decide_eq_true_eq,
    Prod.mk.injEq]
  constructor
  · rintro ⟨r', ⟨hr', hsrc⟩, rfl, rfl⟩
    exact ⟨hr', hsrc, rfl⟩
  · rintro ⟨hr, hsrc, rfl⟩
    exact ⟨r, ⟨hr, hsrc⟩, rfl, rfl⟩

/-- `ApplicationRelayer.ProcessHeight`, for the checkpoint: `processed` says for which handlers
`ProcessMessage` returned no error; the height is staged when it did for all of them
(`eg.Wait`), and is reported on `errChan` otherwise. -/
def processHeight (checkpointManager : CheckpointManager) (height : ℕ) (handlers : List Handler)
    (processed : Handler → Bool) : CheckpointManager :=
  if handlers.all processed then stageCommittedHeight checkpointManager height
  else checkpointManager

/-! ## A listener's run -/

/-- The application relayers of one source chain under its listener: their checkpoints, the
`ProcessHeight` calls started and not yet returned (application relayer, height, handlers) and,
as a record the code does not keep, each handler that `ProcessMessage` processed without error,
with its application relayer and height. -/
structure Listener (Handler : Type) where
  checkpoints : RelayerID → CheckpointManager
  inFlight : List (RelayerID × ℕ × List Handler)
  relayed : List (RelayerID × ℕ × Handler)

/-- What happens next under a listener. -/
inductive Event (Handler : Type)
  /-- `processLogs` passes the block at a height to `ProcessBlock`: a new block, or one of a
  catch-up, which may repeat a height -/
  | processBlock (height : ℕ)
  /-- a call of `ProcessHeight` returns; `processed` says for which handlers `ProcessMessage`
  returned no error -/
  | processHeight (call : RelayerID × ℕ × List Handler) (processed : Handler → Bool)

/-- Each application relayer starts from `NewCheckpointManager`. -/
def Listener.init (storedHeight startingHeight : RelayerID → ℕ) : Listener Handler :=
  ⟨fun r => newCheckpointManager (storedHeight r) (startingHeight r), [], []⟩

section Run

variable (mc : MessageCoordinator Msg Handler) (blockchainID : Bytes32)
  (blocks : ℕ → List (WarpMessageInfo Msg))

/-- The block at `height` is relayed for `r`: every handler `ProcessBlock` gives `r` for it was
processed without error. -/
def Listener.Relayed (w : Listener Handler) (r : RelayerID) (height : ℕ) : Prop :=
  ∀ handler ∈ mc.registerHandlers (blocks height) r, (r, height, handler) ∈ w.relayed

/-- What every event keeps: a call in flight carries the handlers `ProcessBlock` gave it, and the
checkpoint of each application relayer passes only relayed heights above its start `c₀ r`. -/
structure Listener.Inv (c₀ : RelayerID → ℕ) (w : Listener Handler) : Prop where
  inFlight : ∀ call ∈ w.inFlight, call.2.2 = mc.registerHandlers (blocks call.2.1) call.1
  staged : ∀ r, Staged (w.Relayed mc blocks r) (c₀ r) (w.checkpoints r).committedHeight
    (w.checkpoints r).pendingCommits.elems

variable {mc blockchainID blocks}

theorem Listener.Relayed.mono {w w' : Listener Handler} (hw : ∀ x ∈ w.relayed, x ∈ w'.relayed)
    {r : RelayerID} {height : ℕ} (h : w.Relayed mc blocks r height) :
    w'.Relayed mc blocks r height :=
  fun handler hh => hw _ (h handler hh)

/-- A returning call keeps `Staged` for its application relayer: it stages its height only when
every handler was processed, and the handlers are those of the height. -/
theorem processHeight_staged {w : Listener Handler} {r : RelayerID} {height : ℕ}
    {processed : Handler → Bool} {c₀ : ℕ}
    (hs : Staged (w.Relayed mc blocks r) c₀ (w.checkpoints r).committedHeight
      (w.checkpoints r).pendingCommits.elems)
    (relayed : List (RelayerID × ℕ × Handler))
    (hrelayed : ∀ x ∈ w.relayed, x ∈ relayed)
    (hnew : ∀ handler ∈ mc.registerHandlers (blocks height) r, processed handler = true →
      (r, height, handler) ∈ relayed) :
    let cm := processHeight (w.checkpoints r) height (mc.registerHandlers (blocks height) r)
      processed
    Staged (fun h => ∀ handler ∈ mc.registerHandlers (blocks h) r, (r, h, handler) ∈ relayed) c₀
      cm.committedHeight cm.pendingCommits.elems := by
  have hs' := hs.mono fun h hh handler hmem => hrelayed _ (hh handler hmem)
  unfold processHeight
  split
  · -- every handler was processed: the height is relayed
    rename_i hall
    rw [List.all_eq_true] at hall
    exact stageCommittedHeight_staged hs' fun handler hmem => hnew handler hmem (hall handler hmem)
  · exact hs'

theorem Listener.init_inv (storedHeight startingHeight : RelayerID → ℕ) :
    (Listener.init storedHeight startingHeight : Listener Handler).Inv mc blocks
      fun r => max (storedHeight r) (startingHeight r) where
  inFlight _ hcall := absurd hcall List.not_mem_nil
  staged r := staged_new _ (storedHeight r) (startingHeight r)

variable [DecidableEq Handler] (mc blockchainID blocks)

/-- One event of the listener of chain `blockchainID`, whose block at each height holds the
messages `blocks height`. The calls of `ProcessHeight` run concurrently: any started call may
return next. -/
def Listener.step (w : Listener Handler) : Event Handler → Option (Listener Handler)
  | .processBlock height =>
    some { w with inFlight := w.inFlight ++
      (mc.processBlock (blocks height) blockchainID).map fun call => (call.1, height, call.2) }
  | .processHeight call processed =>
    if call ∈ w.inFlight then
      some
        { checkpoints := update w.checkpoints call.1
            (processHeight (w.checkpoints call.1) call.2.1 call.2.2 processed)
          inFlight := w.inFlight.erase call
          relayed := w.relayed ++
            (call.2.2.filter processed).map fun handler => (call.1, call.2.1, handler) }
    else none

/-- The states a listener reaches from its application relayers' stored and starting heights. -/
inductive Reachable (storedHeight startingHeight : RelayerID → ℕ) : Listener Handler → Prop
  | init : Reachable storedHeight startingHeight (.init storedHeight startingHeight)
  | step {w w' : Listener Handler} {e : Event Handler} :
    Reachable storedHeight startingHeight w → w.step mc blockchainID blocks e = some w' →
      Reachable storedHeight startingHeight w'

/-- The listener after a list of events, `none` if one of them cannot happen. -/
def Listener.run (w : Listener Handler) : List (Event Handler) → Option (Listener Handler)
  | [] => some w
  | e :: es => (w.step mc blockchainID blocks e).bind fun w' => w'.run es

variable {mc blockchainID blocks}

theorem Reachable.run {storedHeight startingHeight : RelayerID → ℕ} :
    ∀ {w w' : Listener Handler} (es : List (Event Handler)),
      Reachable mc blockchainID blocks storedHeight startingHeight w →
        w.run mc blockchainID blocks es = some w' →
          Reachable mc blockchainID blocks storedHeight startingHeight w'
  | _, _, [], hr, h => by
    cases h
    exact hr
  | w, _, e :: es, hr, h => by
    obtain ⟨w₁, h₁, h⟩ := Option.bind_eq_some_iff.mp h
    exact Reachable.run es (hr.step h₁) h

theorem Listener.step_inv {c₀ : RelayerID → ℕ} {w w' : Listener Handler} {e : Event Handler}
    (hi : w.Inv mc blocks c₀) (h : w.step mc blockchainID blocks e = some w') :
    w'.Inv mc blocks c₀ := by
  cases e with
  | processBlock height =>
    cases h
    -- the new calls carry the handlers `ProcessBlock` registered; nothing else moves
    refine ⟨fun call hcall => ?_, hi.staged⟩
    rcases List.mem_append.mp hcall with hold | hnew
    · exact hi.inFlight call hold
    · obtain ⟨⟨r, handlers⟩, hmem, rfl⟩ := List.mem_map.mp hnew
      exact (mem_processBlock.mp hmem).2.2
  | processHeight call processed =>
    obtain ⟨r, height, handlers⟩ := call
    simp only [Listener.step] at h
    split at h
    · rename_i hcall
      cases h
      have hhandlers := hi.inFlight _ hcall
      simp only at hhandlers
      subst hhandlers
      have hrelayed : ∀ x ∈ w.relayed, x ∈ w.relayed ++
          ((mc.registerHandlers (blocks height) r).filter processed).map
            fun handler => (r, height, handler) := fun x hx => List.mem_append_left _ hx
      refine ⟨fun call' hcall' => hi.inFlight call' (List.mem_of_mem_erase hcall'), fun r' => ?_⟩
      by_cases hr : r' = r
      · -- the returning call's relayer: its height is staged only when relayed
        subst hr
        simp only [update_self]
        exact processHeight_staged (hi.staged r') _ hrelayed fun handler hmem hp =>
          List.mem_append_right _ (List.mem_map.mpr ⟨handler, List.mem_filter.mpr ⟨hmem, hp⟩, rfl⟩)
      · simp only [update_of_ne hr]
        exact (hi.staged r').mono fun h hh => Listener.Relayed.mono hrelayed hh
    · cases h

theorem Listener.step_relayed {w w' : Listener Handler} {e : Event Handler}
    (h : w.step mc blockchainID blocks e = some w') : ∀ x ∈ w.relayed, x ∈ w'.relayed := by
  cases e with
  | processBlock height =>
    cases h
    exact fun x hx => hx
  | processHeight call processed =>
    simp only [Listener.step] at h
    split at h
    · cases h
      exact fun x hx => List.mem_append_left _ hx
    · cases h

theorem Listener.reachable_inv {storedHeight startingHeight : RelayerID → ℕ} {w : Listener Handler}
    (hr : Reachable mc blockchainID blocks storedHeight startingHeight w) :
    w.Inv mc blocks fun r => max (storedHeight r) (startingHeight r) := by
  induction hr with
  | init => exact Listener.init_inv storedHeight startingHeight
  | step _ hs ih => exact Listener.step_inv ih hs

/-- **No message is skipped below a checkpoint.** In every run of a listener, each message of the
block at a height that an application relayer's checkpoint has passed, and that went to that
relayer with a handler, was processed without error. -/
theorem relayed_below_checkpoint {storedHeight startingHeight : RelayerID → ℕ}
    {w : Listener Handler} (hr : Reachable mc blockchainID blocks storedHeight startingHeight w)
    {r : RelayerID} {height : ℕ} (hlo : max (storedHeight r) (startingHeight r) < height)
    (hhi : height ≤ (w.checkpoints r).committedHeight) {m : WarpMessageInfo Msg}
    (hm : m ∈ blocks height) {handler : Handler}
    (hroute : mc.getAppRelayerMessageHandler m = .ok (some (r, handler))) :
    (r, height, handler) ∈ w.relayed := by
  have hrelayed := ((Listener.reachable_inv hr).staged r).committed height hlo hhi
  exact hrelayed handler (mem_registerHandlers (.inr ⟨m, hm, hroute⟩))

/-- One protocol contract `0xC` on chain `1`, whose every message goes from `0xA` to `0x5` on
chain `2` and is its own handler. -/
def sampleFactory : MessageHandlerFactory ℕ ℕ := ⟨fun _ => .ok ⟨1, 0xA, 2, 0x5⟩, fun m _ => .ok m⟩

def sampleCoordinator : MessageCoordinator ℕ ℕ :=
  ⟨fun chain address => if chain = 1 ∧ address = 0xC then some sampleFactory else none,
    createApplicationRelayers [sampleSourceBlockchain], List.nodup_dedup _⟩

def sampleMessage : WarpMessageInfo ℕ := ⟨1, 0xC, 7⟩

/-- Chain `1`, with one message at height `1`. -/
def sampleBlocks (height : ℕ) : List (WarpMessageInfo ℕ) :=
  if height = 1 then [sampleMessage] else []

def sampleRelayer : RelayerID := ⟨1, 2, 0xA, allAllowedAddress⟩

/-- The block at height `1` dispatched, and its call returning with the message processed. -/
def sampleEvents : List (Event ℕ) :=
  [.processBlock 1, .processHeight (sampleRelayer, 1, [7]) fun _ => true]

def sampleListener : Listener ℕ :=
  ((Listener.init (fun _ => 0) (fun _ => 0)).run sampleCoordinator 1 sampleBlocks
    sampleEvents).getD (.init (fun _ => 0) (fun _ => 0))

theorem relayed_below_checkpoint_sample :
    Reachable sampleCoordinator 1 sampleBlocks (fun _ => 0) (fun _ => 0) sampleListener ∧
      max 0 0 < 1 ∧ 1 ≤ (sampleListener.checkpoints sampleRelayer).committedHeight ∧
      sampleMessage ∈ sampleBlocks 1 ∧
      sampleCoordinator.getAppRelayerMessageHandler sampleMessage =
        .ok (some (sampleRelayer, 7)) ∧
      (sampleRelayer, 1, 7) ∈ sampleListener.relayed :=
  have hr : Reachable sampleCoordinator 1 sampleBlocks (fun _ => 0) (fun _ => 0) sampleListener :=
    Reachable.run sampleEvents .init rfl
  have hhi : 1 ≤ (sampleListener.checkpoints sampleRelayer).committedHeight := by decide
  have hm : sampleMessage ∈ sampleBlocks 1 := List.mem_singleton_self _
  have hroute : sampleCoordinator.getAppRelayerMessageHandler sampleMessage =
      .ok (some (sampleRelayer, 7)) := rfl
  ⟨hr, by decide, hhi, hm, hroute, relayed_below_checkpoint hr (by decide) hhi hm hroute⟩

end Run

end Relayer
