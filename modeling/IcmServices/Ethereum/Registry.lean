import IcmServices.Ethereum.ValidatorSetCodec
import IcmServices.Lib.Exec
import Mathlib.Logic.Function.Basic

/-!
# `AvalancheValidatorSetRegistry` with `SubsetUpdater`

The Ethereum side keeps, per Avalanche blockchain ID, the validator set that signs that chain's
ICM messages (`validatorSets`), and the set being assembled when one arrives in several shards
(`partialValidatorSets`). `registerValidatorSet` takes an ICM message with the set's metadata and
its first shard, signed by the chain's current set (by the P-Chain's for a chain's first set);
`updateValidatorSet` adds the next shard, and the last one completes the set. In `SubsetUpdater` a
shard is a serialized run of validators, committed to by its hash in the metadata. The byte
formats are those of `ValidatorSets`; SHA-256 and the BLS precompiles are parameters (`Context`).

Both paths push the parsed validators onto the array already stored: `registerValidatorSet`
onto the chain's set when the set has one shard, and onto the partial set when it has several,
and neither array is cleared before (`registerValidatorSet_eq_ok`). A chain that registers a new
set keeps the validators of the old one, while the total weight is the new set's alone
(`reregistration_keeps_stale_validators`).

* `stored_sets_end_with_weight`: along every run, with the public `applyShard` among the calls,
  every stored array is some validators followed by validators whose weights make up its total,
  each with a padded 128-byte key and a positive weight.
-/

namespace AvalancheValidatorSetRegistry

open Solidity Function BigEndian Contract
open ValidatorSets (Validator ValidatorSet ValidatorSetMetadata verifyValidatorSetSignature
  IsPaddedKey)

/-- `ValidatorSetShard`. -/
structure ValidatorSetShard where
  shardNumber : ℕ
  avalancheBlockchainID : Bytes32
  deriving DecidableEq, Repr

/-- `ValidatorSet`, as the registry stores it. -/
structure StoredValidatorSet where
  avalancheBlockchainID : Bytes32
  validators : List Validator
  totalWeight : ℕ
  pChainHeight : ℕ
  pChainTimestamp : ℕ
  deriving DecidableEq, Repr

/-- The fields of a stored set that a signature check reads. -/
def StoredValidatorSet.toValidatorSet (v : StoredValidatorSet) : ValidatorSet :=
  ⟨v.validators, v.totalWeight⟩

/-- The zero value of a `ValidatorSet` slot. -/
def StoredValidatorSet.empty : StoredValidatorSet := ⟨0, [], 0, 0, 0⟩

/-- `PartialValidatorSet`. -/
structure PartialValidatorSet where
  pChainHeight : ℕ
  pChainTimestamp : ℕ
  shardHashes : List Bytes32
  shardsReceived : ℕ
  validators : List Validator
  partialWeight : ℕ
  inProgress : Bool
  deriving DecidableEq, Repr

/-- The zero value of a `PartialValidatorSet` slot. -/
def PartialValidatorSet.empty : PartialValidatorSet := ⟨0, 0, [], 0, [], 0, false⟩

/-- `ICMMessage`. -/
structure ICMMessage where
  sourceNetworkID : ℕ
  sourceBlockchainID : Bytes32
  rawMessage : Bytes
  attestation : Bytes
  deriving DecidableEq, Repr

/-- The registry's storage: `_validatorSets` and `_partialValidatorSets`. -/
structure State where
  validatorSets : Bytes32 → StoredValidatorSet
  partialValidatorSets : Bytes32 → PartialValidatorSet

/-- The immutables `avalancheNetworkID` and `pChainID`, and the precompiles. -/
structure Context where
  avalancheNetworkID : ℕ
  pChainID : Bytes32
  precompiles : BLST.Precompiles

/-- The events of `IAvalancheValidatorSetRegistry`. -/
inductive Log
  | validatorSetRegistered (avalancheBlockchainID : Bytes32)
  | validatorSetUpdated (avalancheBlockchainID : Bytes32)
  deriving DecidableEq, Repr

/-- The constructor: the P-Chain's set is registered in shards, starting with none received. -/
def registryInit (initialValidatorSetData : ValidatorSetMetadata) : State :=
  let pChainID := initialValidatorSetData.avalancheBlockchainID
  { validatorSets := update (fun _ => StoredValidatorSet.empty) pChainID
      { StoredValidatorSet.empty with
        avalancheBlockchainID := pChainID
        pChainHeight := initialValidatorSetData.pChainHeight
        pChainTimestamp := initialValidatorSetData.pChainTimestamp }
    partialValidatorSets := update (fun _ => PartialValidatorSet.empty) pChainID
      { PartialValidatorSet.empty with
        pChainHeight := initialValidatorSetData.pChainHeight
        pChainTimestamp := initialValidatorSetData.pChainTimestamp
        shardHashes := initialValidatorSetData.shardHashes
        inProgress := true } }

/-- `isRegistered`: a complete set is registered. -/
def isRegistered (s : State) (avalancheBlockchainID : Bytes32) : Bool :=
  (s.validatorSets avalancheBlockchainID).totalWeight ≠ 0

/-- `isRegistrationInProgress`. -/
def isRegistrationInProgress (s : State) (avalancheBlockchainID : Bytes32) : Bool :=
  (s.partialValidatorSets avalancheBlockchainID).inProgress

/-- `pChainInitialized`. -/
def pChainInitialized (ctx : Context) (s : State) : Bool :=
  (s.validatorSets ctx.pChainID).totalWeight ≠ 0

/-- `verifyICMMessage`: the message is signed by a quorum of the set of `avalancheBlockchainID`.
The signed data is `abi.encodePacked(uint32 sourceNetworkID, sourceBlockchainID, rawMessage)`. -/
def verifyICMMessage (ctx : Context) (s : State) (message : ICMMessage)
    (avalancheBlockchainID : Bytes32) : Except String Unit := do
  require (pChainInitialized ctx s = true) "No P-chain validator set registered."
  require (isRegistered s avalancheBlockchainID = true) "No validator set registered to given ID"
  require (message.sourceNetworkID = ctx.avalancheNetworkID) "Network ID mismatch"
  let sig ← ValidatorSets.parseValidatorSetSignature message.attestation
  let signedData := toBytes 4 message.sourceNetworkID ++
    toBytes 32 message.sourceBlockchainID.toNat ++ message.rawMessage
  let verified ← verifyValidatorSetSignature ctx.precompiles sig signedData
    (s.validatorSets avalancheBlockchainID).toValidatorSet
  require (verified = true) "Failed to verify signatures"

/-- `SubsetUpdater.parseValidatorSetMetadata`: the metadata, and the validators of the first
shard, whose hash the metadata commits to. -/
def parseValidatorSetMetadata (ctx : Context) (s : State) (icmMessage : ICMMessage)
    (shardBytes : Bytes) : Except String (ValidatorSetMetadata × List Validator × ℕ) := do
  let validatorSetMetadata ← ValidatorSets.parseValidatorSetMetadata icmMessage.rawMessage
  let firstShardHash ← arrayAt validatorSetMetadata.shardHashes 0
  require (firstShardHash = ctx.precompiles.sha256 shardBytes) "Validator set hash mismatch"
  let (validators, totalWeight) ← ValidatorSets.parseValidators shardBytes
  let avalancheBlockchainID := validatorSetMetadata.avalancheBlockchainID
  require ((s.validatorSets avalancheBlockchainID).pChainHeight <
    validatorSetMetadata.pChainHeight) "P-Chain height too low"
  require ((s.validatorSets avalancheBlockchainID).pChainTimestamp <
    validatorSetMetadata.pChainTimestamp) "P-Chain timestamp too low"
  require (validators.length > 0) "Validator set cannot be empty"
  require (totalWeight > 0) "Total weight must exceed 0"
  pure (validatorSetMetadata, validators, totalWeight)

/-- `registerValidatorSet`. -/
def registerValidatorSet (ctx : Context) (s : State) (message : ICMMessage) (shardBytes : Bytes) :
    Except String (State × List Log) := do
  require (message.sourceNetworkID = ctx.avalancheNetworkID) "Network ID mismatch"
  require (isRegistrationInProgress s message.sourceBlockchainID = false)
    "A registration is already in progress"
  -- a chain's first set is signed by the P-Chain's, a later one by the chain's current set
  if isRegistered s message.sourceBlockchainID = false then
    verifyICMMessage ctx s message ctx.pChainID
  else verifyICMMessage ctx s message message.sourceBlockchainID
  let (validatorSetMetadata, validators, validatorWeight) ←
    parseValidatorSetMetadata ctx s message shardBytes
  let avalancheBlockchainID := validatorSetMetadata.avalancheBlockchainID
  require (message.sourceBlockchainID = avalancheBlockchainID) "Source chain ID mismatch"
  if validatorSetMetadata.shardHashes.length > 1 then
    let partialSet := s.partialValidatorSets avalancheBlockchainID
    let partialSet := { partialSet with
      pChainHeight := validatorSetMetadata.pChainHeight
      pChainTimestamp := validatorSetMetadata.pChainTimestamp
      shardHashes := validatorSetMetadata.shardHashes
      shardsReceived := 1
      partialWeight := validatorWeight
      inProgress := true
      validators := partialSet.validators ++ validators }
    let s := { s with
      partialValidatorSets := update s.partialValidatorSets avalancheBlockchainID partialSet }
    let s := if isRegistered s message.sourceBlockchainID = false then
        { s with
          validatorSets := update s.validatorSets avalancheBlockchainID
            { s.validatorSets avalancheBlockchainID with
              avalancheBlockchainID := avalancheBlockchainID
              pChainHeight := validatorSetMetadata.pChainHeight
              pChainTimestamp := validatorSetMetadata.pChainTimestamp } }
      else s
    pure (s, [.validatorSetRegistered avalancheBlockchainID])
  else
    let valSet := s.validatorSets avalancheBlockchainID
    let valSet := { valSet with
      avalancheBlockchainID := avalancheBlockchainID
      totalWeight := validatorWeight
      pChainHeight := validatorSetMetadata.pChainHeight
      pChainTimestamp := validatorSetMetadata.pChainTimestamp
      validators := valSet.validators ++ validators }
    pure ({ s with validatorSets := update s.validatorSets avalancheBlockchainID valSet },
      [.validatorSetRegistered avalancheBlockchainID])

/-- `SubsetUpdater.applyShard`: the shard's validators join the partial set, and the last shard
copies it over the chain's set. -/
def applyShard (s : State) (shard : ValidatorSetShard) (shardBytes : Bytes) :
    Except String State := do
  let avalancheBlockchainID := shard.avalancheBlockchainID
  let (validators, validatorWeight) ← ValidatorSets.parseValidators shardBytes
  require (validators.length > 0) "Validator set cannot be empty"
  require (validatorWeight > 0) "Total weight must exceed 0"
  let partialSet := s.partialValidatorSets avalancheBlockchainID
  let partialWeight ← checkedAdd 64 partialSet.partialWeight validatorWeight
  let shardsReceived ← checkedAdd 64 partialSet.shardsReceived 1
  let partialSet := { partialSet with
    validators := partialSet.validators ++ validators, partialWeight, shardsReceived }
  if shard.shardNumber = partialSet.shardHashes.length then
    let partialSet := { partialSet with inProgress := false }
    pure
      { partialValidatorSets := update s.partialValidatorSets avalancheBlockchainID partialSet
        validatorSets := update s.validatorSets avalancheBlockchainID
          { s.validatorSets avalancheBlockchainID with
            validators := partialSet.validators
            totalWeight := partialSet.partialWeight } }
  else
    pure { s with
      partialValidatorSets := update s.partialValidatorSets avalancheBlockchainID partialSet }

/-- `updateValidatorSet`: the next shard, in order and with its committed hash. -/
def updateValidatorSet (ctx : Context) (s : State) (shard : ValidatorSetShard)
    (shardBytes : Bytes) : Except String (State × List Log) := do
  require (isRegistrationInProgress s shard.avalancheBlockchainID = true)
    "Registration is not in progress"
  let avalancheBlockchainID := shard.avalancheBlockchainID
  let expected ← checkedAdd 64 (s.partialValidatorSets avalancheBlockchainID).shardsReceived 1
  require (expected = shard.shardNumber) "Received shard out of order"
  let index ← checkedSub shard.shardNumber 1
  let shardHash ← arrayAt (s.partialValidatorSets avalancheBlockchainID).shardHashes index
  require (shardHash = ctx.precompiles.sha256 shardBytes) "Unexpected shard hash"
  let s ← applyShard s shard shardBytes
  pure (s, if isRegistrationInProgress s shard.avalancheBlockchainID = false then
    [.validatorSetUpdated shard.avalancheBlockchainID] else [])

/-! ## What a registration stores -/

section
variable {ctx : Context} {s s' : State} {l : List Log}

/-- The validators a registration reads are those `parseValidators` returns for the shard. -/
theorem parseValidatorSetMetadata_eq_ok {message : ICMMessage} {shardBytes : Bytes}
    {metadata : ValidatorSetMetadata} {validators : List Validator} {weight : ℕ}
    (h : parseValidatorSetMetadata ctx s message shardBytes = .ok (metadata, validators, weight)) :
    ValidatorSets.parseValidators shardBytes = .ok (validators, weight) := by
  simp only [parseValidatorSetMetadata, bind_eq_ok, require_eq_ok, pure_eq_ok] at h
  obtain ⟨_, -, _, -, _, -, ⟨vs, w⟩, hp, h⟩ := h
  obtain ⟨_, -, _, -, _, -, _, -, h⟩ := h
  cases h
  exact hp

/-- A registration stores the parsed validators after those already in the array it writes: the
chain's set for a set of one shard, the partial set for one of several. The chain's total weight,
and the partial set's, are the new set's alone. -/
theorem registerValidatorSet_eq_ok {message : ICMMessage} {shardBytes : Bytes}
    (h : registerValidatorSet ctx s message shardBytes = .ok (s', l)) :
    ∃ metadata validators weight,
      parseValidatorSetMetadata ctx s message shardBytes = .ok (metadata, validators, weight) ∧
      metadata.avalancheBlockchainID = message.sourceBlockchainID ∧
      (metadata.shardHashes.length ≤ 1 →
        (s'.validatorSets message.sourceBlockchainID).validators =
          (s.validatorSets message.sourceBlockchainID).validators ++ validators ∧
        (s'.validatorSets message.sourceBlockchainID).totalWeight = weight) ∧
      (1 < metadata.shardHashes.length →
        (s'.partialValidatorSets message.sourceBlockchainID).validators =
          (s.partialValidatorSets message.sourceBlockchainID).validators ++ validators ∧
        (s'.partialValidatorSets message.sourceBlockchainID).partialWeight = weight) := by
  -- the P-Chain's set or the chain's own signs; what follows is the same
  rcases hreg : isRegistered s message.sourceBlockchainID with _ | _ <;>
    simp only [registerValidatorSet, hreg, ↓reduceIte, Bool.true_eq_false, bind_eq_ok,
      require_eq_ok] at h
  all_goals
    obtain ⟨_, -, _, -, _, -, ⟨metadata, validators, weight⟩, hp, _, hsrc, h⟩ := h
    dsimp only at h hsrc
    refine ⟨metadata, validators, weight, hp, hsrc.symm, fun hle => ?_, fun hlt => ?_⟩
    · rw [if_neg (by omega), pure_eq_ok] at h
      obtain ⟨rfl, -⟩ := Prod.mk.inj h
      simp [hsrc]
    · rw [if_pos hlt, pure_eq_ok] at h
      obtain ⟨rfl, -⟩ := Prod.mk.inj h
      -- whether or not the chain's set is written, the partial set is
      split <;> simp [hsrc]

end

/-! ## A re-registration -/

/-- A registry on network 1 whose P-Chain is chain 0, with the sample precompiles. -/
def sampleContext : Context := ⟨1, 0, BLST.samplePrecompiles⟩

/-- A validator whose unpadded key is the number `b`, with weight `w`. -/
def sampleValidator (b : UInt8) (w : ℕ) : Validator :=
  ⟨ValidatorSets.paddedKey (List.replicate 95 0 ++ [b]), w⟩

/-- The shard of one validator. -/
def sampleShard (b : UInt8) (w : ℕ) : Bytes :=
  ValidatorSets.serializedValidators [sampleValidator b w]

/-- A signature by the first validator of a set. -/
def sampleAttestation : Bytes :=
  ValidatorSets.serializeValidatorSetSignature ⟨[0x80], List.replicate 192 0⟩

/-- The registration of a one-shard set of chain 5 at P-Chain height and timestamp `t`. -/
def sampleRegistration (t : ℕ) (shard : Bytes) : ICMMessage :=
  ⟨1, 5, ValidatorSets.serializeValidatorSetMetadata ⟨5, t, t, [BLST.samplePrecompiles.sha256 shard]⟩,
    sampleAttestation⟩

set_option maxRecDepth 20000 in
/-- Chain 5 registers a set of one validator of weight 20, signed by the P-Chain's, and then a set
of one validator of weight 25, signed by the first. The chain's set then holds both, with the total
weight of the second alone, and a message that only the first validator signed verifies. -/
theorem reregistration_keeps_stale_validators :
    ∃ s₁ s₂ s₃ l₁ l₂ l₃,
      updateValidatorSet sampleContext
          (registryInit ⟨0, 1, 1, [BLST.samplePrecompiles.sha256 (sampleShard 10 10)]⟩) ⟨1, 0⟩
          (sampleShard 10 10) = .ok (s₁, l₁) ∧
      registerValidatorSet sampleContext s₁ (sampleRegistration 2 (sampleShard 20 20))
          (sampleShard 20 20) = .ok (s₂, l₂) ∧
      registerValidatorSet sampleContext s₂ (sampleRegistration 3 (sampleShard 25 25))
          (sampleShard 25 25) = .ok (s₃, l₃) ∧
      (s₃.validatorSets 5).validators = [sampleValidator 20 20, sampleValidator 25 25] ∧
      (s₃.validatorSets 5).totalWeight = 25 ∧
      verifyICMMessage sampleContext s₃ ⟨1, 5, [7], sampleAttestation⟩ 5 = .ok () :=
  ⟨_, _, _, _, _, _, rfl, rfl, rfl, rfl, rfl, rfl⟩

/-! ## The stored arrays along a run -/

/-- The calls that write the registry. `SubsetUpdater.applyShard` is `public`, so anyone can call
it directly, besides the two entry points of `IAvalancheValidatorSetRegistry`. -/
inductive Call
  | registerValidatorSet (message : ICMMessage) (shardBytes : Bytes)
  | updateValidatorSet (shard : ValidatorSetShard) (shardBytes : Bytes)
  | applyShard (shard : ValidatorSetShard) (shardBytes : Bytes)

/-- One successful call. -/
def step (ctx : Context) (s : State) : Call → Except String (State × List Log)
  | .registerValidatorSet message shardBytes => registerValidatorSet ctx s message shardBytes
  | .updateValidatorSet shard shardBytes => updateValidatorSet ctx s shard shardBytes
  | .applyShard shard shardBytes => do
    let s ← applyShard s shard shardBytes
    pure (s, [])

/-- An array of validators with the weight stored beside it: some validators, then validators
whose weights make up the weight. Every one has a padded key and a positive weight. -/
structure EndsWithWeight (validators : List Validator) (weight : ℕ) : Prop where
  split : ∃ stale current, validators = stale ++ current ∧
    (current.map Validator.weight).sum = weight
  keys : ∀ v ∈ validators, IsPaddedKey v.blsPublicKey ∧ 0 < v.weight

namespace EndsWithWeight

theorem nil : EndsWithWeight [] 0 := ⟨⟨[], [], rfl, rfl⟩, by simp⟩

variable {validators vs : List Validator} {weight w : ℕ} {shardBytes : Bytes}

/-- Parsed validators pushed onto the array, with their weight stored in place of the old. -/
theorem push (h : EndsWithWeight validators weight)
    (hp : ValidatorSets.parseValidators shardBytes = .ok (vs, w)) :
    EndsWithWeight (validators ++ vs) w := by
  obtain ⟨hkeys, -, hw⟩ := ValidatorSets.parseValidators_eq_ok hp
  refine ⟨⟨validators, vs, rfl, hw.symm⟩, fun v hv => ?_⟩
  rcases List.mem_append.mp hv with hv | hv
  · exact h.keys v hv
  · exact hkeys v hv

/-- Parsed validators pushed onto the array, with their weight added to the stored one. -/
theorem extend (h : EndsWithWeight validators weight)
    (hp : ValidatorSets.parseValidators shardBytes = .ok (vs, w)) :
    EndsWithWeight (validators ++ vs) (weight + w) := by
  obtain ⟨stale, current, rfl, hsum⟩ := h.split
  obtain ⟨-, -, hw⟩ := ValidatorSets.parseValidators_eq_ok hp
  refine ⟨⟨stale, current ++ vs, List.append_assoc .., ?_⟩, (h.push hp).keys⟩
  rw [List.map_append, List.sum_append, hsum, hw]

end EndsWithWeight

/-- Every chain's set ends with its total weight, and its partial set with its partial weight. -/
structure Stored (s : State) : Prop where
  validatorSets : ∀ C, EndsWithWeight (s.validatorSets C).validators (s.validatorSets C).totalWeight
  partialValidatorSets : ∀ C, EndsWithWeight (s.partialValidatorSets C).validators
    (s.partialValidatorSets C).partialWeight

namespace Stored

variable {s : State} (hs : Stored s) (C : Bytes32)
include hs

theorem setValidatorSet {v : StoredValidatorSet}
    (hv : EndsWithWeight v.validators v.totalWeight) :
    Stored { s with validatorSets := update s.validatorSets C v } :=
  ⟨(forall_update_iff _ fun _ (v : StoredValidatorSet) =>
      EndsWithWeight v.validators v.totalWeight).2
    ⟨hv, fun C' _ => hs.validatorSets C'⟩, hs.partialValidatorSets⟩

theorem setPartialValidatorSet {p : PartialValidatorSet}
    (hp : EndsWithWeight p.validators p.partialWeight) :
    Stored { s with partialValidatorSets := update s.partialValidatorSets C p } :=
  ⟨hs.validatorSets, (forall_update_iff _ fun _ (p : PartialValidatorSet) =>
      EndsWithWeight p.validators p.partialWeight).2
    ⟨hp, fun C' _ => hs.partialValidatorSets C'⟩⟩

end Stored

theorem registryInit_stored (m : ValidatorSetMetadata) : Stored (registryInit m) := by
  -- the zero slots, then the constructor's two writes
  have hzero : Stored ⟨fun _ => StoredValidatorSet.empty, fun _ => PartialValidatorSet.empty⟩ :=
    ⟨fun _ => .nil, fun _ => .nil⟩
  refine (hzero.setValidatorSet _ ?_).setPartialValidatorSet _ ?_
  exacts [.nil, .nil]

section
variable {ctx : Context} {s s' : State} {l : List Log}

theorem registerValidatorSet_stored {message : ICMMessage} {shardBytes : Bytes} (hs : Stored s)
    (h : registerValidatorSet ctx s message shardBytes = .ok (s', l)) : Stored s' := by
  rcases hreg : isRegistered s message.sourceBlockchainID with _ | _ <;>
    simp only [registerValidatorSet, hreg, ↓reduceIte, Bool.true_eq_false, bind_eq_ok,
      require_eq_ok] at h
  all_goals
    obtain ⟨_, -, _, -, _, -, ⟨metadata, validators, weight⟩, hm, _, -, h⟩ := h
    have hp := parseValidatorSetMetadata_eq_ok hm
    dsimp only at h
    split at h
    · -- several shards: the partial set grows, and the chain's keeps its validators and weight
      obtain ⟨rfl, -⟩ := Prod.mk.inj (pure_eq_ok.1 h)
      have hpart := (hs.partialValidatorSets metadata.avalancheBlockchainID).push hp
      split
      · refine (hs.setPartialValidatorSet _ ?_).setValidatorSet _ ?_
        exacts [hpart, hs.validatorSets _]
      · refine hs.setPartialValidatorSet _ ?_
        exact hpart
    · obtain ⟨rfl, -⟩ := Prod.mk.inj (pure_eq_ok.1 h)
      refine hs.setValidatorSet _ ?_
      exact (hs.validatorSets _).push hp

theorem applyShard_stored {shard : ValidatorSetShard} {shardBytes : Bytes} (hs : Stored s)
    (h : applyShard s shard shardBytes = .ok s') : Stored s' := by
  simp only [applyShard, bind_eq_ok, require_eq_ok, checkedAdd_eq_ok] at h
  obtain ⟨⟨validators, weight⟩, hp, h⟩ := h
  obtain ⟨_, -, _, -, _, ⟨-, rfl⟩, _, ⟨-, rfl⟩, h⟩ := h
  have hpart := (hs.partialValidatorSets shard.avalancheBlockchainID).extend hp
  split at h
  · -- the last shard: the partial set is copied over the chain's
    rw [pure_eq_ok] at h
    subst h
    refine (hs.setPartialValidatorSet _ ?_).setValidatorSet _ ?_
    exacts [hpart, hpart]
  · rw [pure_eq_ok] at h
    subst h
    refine hs.setPartialValidatorSet _ ?_
    exact hpart

theorem updateValidatorSet_stored {shard : ValidatorSetShard} {shardBytes : Bytes}
    (hs : Stored s) (h : updateValidatorSet ctx s shard shardBytes = .ok (s', l)) : Stored s' := by
  simp only [updateValidatorSet, bind_eq_ok, require_eq_ok] at h
  obtain ⟨_, -, _, -, _, -, _, -, _, -, _, -, s'', happly, h⟩ := h
  obtain ⟨rfl, -⟩ := Prod.mk.inj (pure_eq_ok.1 h)
  exact applyShard_stored hs happly

theorem step_stored (hs : Stored s) {c : Call} (h : step ctx s c = .ok (s', l)) : Stored s' := by
  cases c with
  | registerValidatorSet message shardBytes => exact registerValidatorSet_stored hs h
  | updateValidatorSet shard shardBytes => exact updateValidatorSet_stored hs h
  | applyShard shard shardBytes =>
    simp only [step, bind_eq_ok, pure_eq_ok] at h
    obtain ⟨s'', happly, h⟩ := h
    obtain ⟨rfl, -⟩ := Prod.mk.inj h
    exact applyShard_stored hs happly

/-- Along every run from the constructor, with the calls in any order and `applyShard` among
them, every chain's set is some validators followed by validators whose weights make up its total
weight, and its partial set likewise with its partial weight; every validator stored has a
padded 128-byte key and a positive weight. -/
theorem stored_sets_end_with_weight {m : ValidatorSetMetadata} {tr : List (Call × List Log)}
    (h : Exec (step ctx) (registryInit m) tr s) (C : Bytes32) :
    EndsWithWeight (s.validatorSets C).validators (s.validatorSets C).totalWeight ∧
      EndsWithWeight (s.partialValidatorSets C).validators
        (s.partialValidatorSets C).partialWeight := by
  have hs : Stored s := h.inv (fun _ _ _ _ ht hc => step_stored ht hc) (registryInit_stored m)
  exact ⟨hs.validatorSets C, hs.partialValidatorSets C⟩

end

set_option maxRecDepth 20000 in
/-- The P-Chain's set is completed and chain 5 registers a set of one validator; a direct call of
`applyShard` with a shard of chain 5 numbered 0 then replaces the chain's set by the shard's. -/
theorem stored_sets_end_with_weight_applyShard :
    ∃ s, Exec (step sampleContext)
        (registryInit ⟨0, 1, 1, [BLST.samplePrecompiles.sha256 (sampleShard 10 10)]⟩)
        [(.updateValidatorSet ⟨1, 0⟩ (sampleShard 10 10), [.validatorSetUpdated 0]),
          (.registerValidatorSet (sampleRegistration 2 (sampleShard 20 20)) (sampleShard 20 20),
            [.validatorSetRegistered 5]),
          (.applyShard ⟨0, 5⟩ (sampleShard 30 30), [])] s ∧
      (s.validatorSets 5).validators = [sampleValidator 30 30] ∧
      EndsWithWeight (s.validatorSets 5).validators (s.validatorSets 5).totalWeight ∧
      EndsWithWeight (s.partialValidatorSets 5).validators
        (s.partialValidatorSets 5).partialWeight := by
  have hrun : Exec (step sampleContext)
      (registryInit ⟨0, 1, 1, [BLST.samplePrecompiles.sha256 (sampleShard 10 10)]⟩)
      [(.updateValidatorSet ⟨1, 0⟩ (sampleShard 10 10), [.validatorSetUpdated 0]),
        (.registerValidatorSet (sampleRegistration 2 (sampleShard 20 20)) (sampleShard 20 20),
          [.validatorSetRegistered 5]),
        (.applyShard ⟨0, 5⟩ (sampleShard 30 30), [])] _ :=
    Exec.cons rfl (Exec.cons rfl (Exec.single rfl))
  exact ⟨_, hrun, rfl, stored_sets_end_with_weight hrun 5⟩

end AvalancheValidatorSetRegistry
