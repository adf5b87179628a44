import IcmServices.ValidatorManager.Types
import IcmServices.Lib.Bytes

/-!
# `ValidatorMessages`: packing

The packers the validator manager hashes: `packConversionData`, whose SHA-256 is the conversion
ID the P-Chain signs, and `packRegisterL1ValidatorMessage`, whose SHA-256 is a validation ID.
Both are `abi.encodePacked` concatenations built up in loops, written here as the folds the loops
are; `packConversionData_eq` gives the conversion data as a header followed by one record per
initial validator.

A record is `uint32(len(nodeID)) ‖ nodeID ‖ blsPublicKey ‖ weight`: the node ID carries its
length and the BLS key does not. `packConversionData` does not check that a key has 48 bytes, so
the key's end is not determined by the bytes: `packConversionData_shift` moves the boundary
between two records.

The unpackers are given on decoded payloads (see `Types`): each returns the fields of its message
type and reverts on any other.
-/

namespace ValidatorManager

open Solidity BigEndian

/-- `ValidatorMessages.CODEC_ID`. -/
def codecID : ℕ := 0

/-- `ValidatorMessages.REGISTER_L1_VALIDATOR_MESSAGE_TYPE_ID`. -/
def registerL1ValidatorMessageTypeID : ℕ := 1

/-- One iteration of the loop of `packConversionData`. -/
def packInitialValidator (res : Bytes) (v : InitialValidator) : Bytes :=
  res ++ toBytes 4 v.nodeID.length ++ v.nodeID ++ v.blsPublicKey ++ toBytes 8 v.weight.toNat

/-- `ValidatorMessages.packConversionData`. -/
def packConversionData (conversionData : ConversionData) : Bytes :=
  conversionData.initialValidators.foldl packInitialValidator
    (toBytes 2 codecID ++ toBytes 32 conversionData.subnetID.toNat ++
      toBytes 32 conversionData.validatorManagerBlockchainID.toNat ++ toBytes 4 20 ++
      toBytes 20 conversionData.validatorManagerAddress.toNat ++
      toBytes 4 conversionData.initialValidators.length)

/-- The record of one initial validator. -/
def initialValidatorBytes (v : InitialValidator) : Bytes := packInitialValidator [] v

theorem foldl_packInitialValidator (vs : List InitialValidator) (res : Bytes) :
    vs.foldl packInitialValidator res = res ++ vs.flatMap initialValidatorBytes := by
  induction vs generalizing res with
  | nil => simp
  | cons v vs ih => simp [ih, packInitialValidator, initialValidatorBytes]

/-- The conversion data is its header followed by the records of its initial validators. -/
theorem packConversionData_eq (conversionData : ConversionData) :
    packConversionData conversionData =
      toBytes 2 codecID ++ toBytes 32 conversionData.subnetID.toNat ++
        toBytes 32 conversionData.validatorManagerBlockchainID.toNat ++ toBytes 4 20 ++
        toBytes 20 conversionData.validatorManagerAddress.toNat ++
        toBytes 4 conversionData.initialValidators.length ++
        conversionData.initialValidators.flatMap initialValidatorBytes := by
  rw [packConversionData, foldl_packInitialValidator]

/-- The bytes after a BLS key may as well belong to it: a key that starts with a weight, a node
ID length and a node ID packs like two records whose boundary lies inside the key. -/
theorem packConversionData_shift (c : ConversionData) (pre post : List InitialValidator)
    (n₁ k₁ n₂ n₂' k₂' : Bytes) (w₁ w₁' w₂ : UInt64) :
    packConversionData { c with initialValidators := pre ++
        ⟨n₁, k₁, w₁⟩ :: ⟨n₂, toBytes 8 w₁'.toNat ++ toBytes 4 n₂'.length ++ n₂' ++ k₂', w₂⟩ ::
          post } =
      packConversionData { c with initialValidators := pre ++
        ⟨n₁, k₁ ++ toBytes 8 w₁.toNat ++ toBytes 4 n₂.length ++ n₂, w₁'⟩ :: ⟨n₂', k₂', w₂⟩ ::
          post } := by
  simp only [packConversionData_eq, List.length_append, List.length_cons, List.flatMap_append,
    List.flatMap_cons, initialValidatorBytes, packInitialValidator, List.nil_append,
    List.append_assoc]

/-- `ValidatorMessages.packRegisterL1ValidatorMessage`: the validation ID and the message. -/
def packRegisterL1ValidatorMessage {ID : Type} (sha256 : Bytes → ID)
    (validationPeriod : ValidationPeriod) : Except String (ID × Bytes) := do
  require (validationPeriod.blsPublicKey.length = 48) "InvalidBLSPublicKey"
  let res := toBytes 2 codecID ++ toBytes 4 registerL1ValidatorMessageTypeID ++
    toBytes 32 validationPeriod.subnetID.toNat ++ toBytes 4 validationPeriod.nodeID.length ++
    validationPeriod.nodeID ++ validationPeriod.blsPublicKey ++
    toBytes 8 validationPeriod.registrationExpiry ++
    toBytes 4 validationPeriod.remainingBalanceOwner.threshold.toNat ++
    toBytes 4 validationPeriod.remainingBalanceOwner.addresses.length
  let res := validationPeriod.remainingBalanceOwner.addresses.foldl
    (fun res a => res ++ toBytes 20 a.toNat) res
  let res := res ++ toBytes 4 validationPeriod.disableOwner.threshold.toNat ++
    toBytes 4 validationPeriod.disableOwner.addresses.length
  let res := validationPeriod.disableOwner.addresses.foldl
    (fun res a => res ++ toBytes 20 a.toNat) res
  let res := res ++ toBytes 8 validationPeriod.weight
  pure (sha256 res, res)

section
variable {ID : Type}

/-- `ValidatorMessages.unpackSubnetToL1ConversionMessage`. -/
def unpackSubnetToL1ConversionMessage : Payload ID → Except String ID
  | .subnetToL1Conversion conversionID => pure conversionID
  | _ => throw "InvalidMessageType"

/-- `ValidatorMessages.unpackL1ValidatorRegistrationMessage`. -/
def unpackL1ValidatorRegistrationMessage : Payload ID → Except String (ID × Bool)
  | .l1ValidatorRegistration validationID valid => pure (validationID, valid)
  | _ => throw "InvalidMessageType"

/-- `ValidatorMessages.unpackL1ValidatorWeightMessage`. -/
def unpackL1ValidatorWeightMessage : Payload ID → Except String (ID × ℕ × ℕ)
  | .l1ValidatorWeight validationID nonce weight => pure (validationID, nonce, weight)
  | _ => throw "InvalidMessageType"

/-- `ValidatorMessages.unpackValidationUptimeMessage`. -/
def unpackValidationUptimeMessage : Payload ID → Except String (ID × ℕ)
  | .validationUptime validationID uptime => pure (validationID, uptime)
  | _ => throw "InvalidMessageType"

theorem packRegisterL1ValidatorMessage_eq_ok {sha256 : Bytes → ID} {vp : ValidationPeriod}
    {validationID : ID} {message : Bytes}
    (h : packRegisterL1ValidatorMessage sha256 vp = .ok (validationID, message)) :
    vp.blsPublicKey.length = 48 ∧ validationID = sha256 message := by
  simp only [packRegisterL1ValidatorMessage, bind_eq_ok, require_eq_ok, pure_eq_ok,
    Prod.mk.injEq] at h
  obtain ⟨_, h1, rfl, rfl⟩ := h
  exact ⟨h1, rfl⟩

@[simp] theorem unpackSubnetToL1ConversionMessage_eq_ok {p : Payload ID} {conversionID : ID} :
    unpackSubnetToL1ConversionMessage p = .ok conversionID ↔
      p = .subnetToL1Conversion conversionID := by
  cases p <;> simp [unpackSubnetToL1ConversionMessage, throw, throwThe, MonadExceptOf.throw,
    pure, Except.pure, eq_comm]

@[simp] theorem unpackL1ValidatorRegistrationMessage_eq_ok {p : Payload ID} {validationID : ID}
    {valid : Bool} :
    unpackL1ValidatorRegistrationMessage p = .ok (validationID, valid) ↔
      p = .l1ValidatorRegistration validationID valid := by
  cases p <;> simp [unpackL1ValidatorRegistrationMessage, throw, throwThe, MonadExceptOf.throw,
    pure, Except.pure, eq_comm]

@[simp] theorem unpackL1ValidatorWeightMessage_eq_ok {p : Payload ID} {validationID : ID}
    {nonce weight : ℕ} :
    unpackL1ValidatorWeightMessage p = .ok (validationID, nonce, weight) ↔
      p = .l1ValidatorWeight validationID nonce weight := by
  cases p <;> simp [unpackL1ValidatorWeightMessage, throw, throwThe, MonadExceptOf.throw,
    pure, Except.pure, eq_comm]

@[simp] theorem unpackValidationUptimeMessage_eq_ok {p : Payload ID} {validationID : ID}
    {uptime : ℕ} :
    unpackValidationUptimeMessage p = .ok (validationID, uptime) ↔
      p = .validationUptime validationID uptime := by
  cases p <;> simp [unpackValidationUptimeMessage, throw, throwThe, MonadExceptOf.throw,
    pure, Except.pure, eq_comm]

end

end ValidatorManager
