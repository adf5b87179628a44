import IcmServices.Lib.Solidity

/-!
# The validator manager's data

The enums and structs of `IACP99Manager.sol`, `ValidatorManager.sol` and `ValidatorMessages.sol`.
Values the contracts pack into bytes keep their width (`Bytes32`, `Address`, `UInt64` and
`UInt32` in calldata); weights, nonces and times in storage are natural numbers whose arithmetic
goes through the checked operations of `Solidity`. Validation and delegation IDs are only hashed
into, compared and used as keys, so their type is a parameter `ID` with a zero.

The P-Chain's ICM messages arrive decoded (`Payload`): `ValidatorMessages.unpack*` either reverts
or returns the fields of the one message type it reads, and a payload of another type reverts
(`InvalidMessageType`).
-/

namespace ValidatorManager

open Solidity

/-- `ValidatorStatus`. -/
inductive ValidatorStatus
  | unknown
  | pendingAdded
  | active
  | pendingRemoved
  | completed
  | invalidated
  deriving DecidableEq, Repr, Inhabited

/-- `InitialValidator`, an entry of the conversion data. -/
structure InitialValidator where
  nodeID : Bytes
  blsPublicKey : Bytes
  weight : UInt64
  deriving DecidableEq, Repr

/-- `ConversionData`, the pre-image of the conversion ID the P-Chain signs. -/
structure ConversionData where
  subnetID : Bytes32
  validatorManagerBlockchainID : Bytes32
  validatorManagerAddress : Address
  initialValidators : List InitialValidator
  deriving DecidableEq, Repr

/-- `PChainOwner`. -/
structure PChainOwner where
  threshold : UInt32
  addresses : List Address
  deriving DecidableEq, Repr

/-- `Validator`, the record of one validation period. -/
structure Validator where
  status : ValidatorStatus
  nodeID : Bytes
  startingWeight : ℕ
  sentNonce : ℕ
  receivedNonce : ℕ
  weight : ℕ
  startTime : ℕ
  endTime : ℕ
  deriving DecidableEq, Repr, Inhabited

/-- `ValidatorChurnPeriod`. -/
structure ValidatorChurnPeriod where
  startTime : ℕ
  initialWeight : ℕ
  totalWeight : ℕ
  churnAmount : ℕ
  deriving DecidableEq, Repr, Inhabited

/-- `ValidatorMessages.ValidationPeriod`, the content of a `RegisterL1ValidatorMessage`. -/
structure ValidationPeriod where
  subnetID : Bytes32
  nodeID : Bytes
  blsPublicKey : Bytes
  registrationExpiry : ℕ
  remainingBalanceOwner : PChainOwner
  disableOwner : PChainOwner
  weight : ℕ
  deriving DecidableEq, Repr

/-- The ICM messages of ACP-77, decoded: what `ValidatorMessages.unpack*` return. -/
inductive Payload (ID : Type)
  | subnetToL1Conversion (conversionID : ID)
  | registerL1Validator (message : Bytes)
  | l1ValidatorRegistration (validationID : ID) (valid : Bool)
  | l1ValidatorWeight (validationID : ID) (nonce weight : ℕ)
  | validationUptime (validationID : ID) (uptime : ℕ)
  deriving DecidableEq, Repr

/-- A verified warp message, as `getVerifiedWarpMessage` returns it. -/
structure WarpMessage (ID : Type) where
  sourceChainID : Bytes32
  originSenderAddress : Address
  payload : Payload ID
  deriving DecidableEq, Repr

end ValidatorManager
