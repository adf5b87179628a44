import IcmServices.Lib.Exec
import IcmServices.Lib.Solidity
import Mathlib.Logic.Function.Basic

/-!
# `ValidatorSetSig`

The contract forwards calls that the validators of `validatorBlockchainID` signed off-chain: a
verified warp message from that chain with the zero origin sender carries a
`ValidatorSetSigMessage`, which names this chain, this contract, a target contract, a nonce, a
value and a payload. The nonce must be the target's next one (`nonces`); it is consumed when the
call to the target succeeds, and the whole call reverts, nonce and all, when it fails. The warp
precompile is not modelled: `executeCall` takes the verified message, its payload decoded, and
whether the precompile found it valid; the outcome of the call to the target is a parameter.

* `executeCall_eq_ok`: what a successful `executeCall` checked and did;
* `delivered_in_nonce_order`: along every run from the constructor, the calls delivered to each
  target carry the nonces `0, 1, …, nonces[target] - 1`, in that order, and a message whose
  nonce was delivered to its target reverts if executed again: no signed message is executed
  twice, and none before those of lower nonce for its target.
-/

namespace ValidatorSetSig

open Solidity Function Contract

/-- `VALIDATORS_SOURCE_ADDRESS`. -/
def validatorsSourceAddress : Address := 0

/-- `ValidatorSetSigMessage`. -/
structure ValidatorSetSigMessage where
  targetBlockchainID : Bytes32
  validatorSetSigAddress : Address
  targetContractAddress : Address
  nonce : ℕ
  value : ℕ
  payload : Bytes
  deriving DecidableEq, Repr

/-- The storage of `ValidatorSetSig`, with its immutables. -/
structure State where
  validatorBlockchainID : Bytes32
  blockchainID : Bytes32
  nonces : Address → ℕ

/-- What a call emits: the call to the target contract, and the event `Delivered`. -/
inductive Log
  | call (targetContractAddress : Address) (value : ℕ) (payload : Bytes)
  | delivered (targetContractAddress : Address) (nonce : ℕ)
  deriving DecidableEq, Repr

/-- A verified warp message as `executeCall` reads it, its payload decoded. -/
structure WarpMessage where
  sourceChainID : Bytes32
  originSenderAddress : Address
  payload : ValidatorSetSigMessage

/-- The constructor, with the blockchain ID the warp precompile reports. -/
def validatorSetSigInit (validatorBlockchainID blockchainID : Bytes32) : State :=
  ⟨validatorBlockchainID, blockchainID, fun _ => 0⟩

/-- `validateMessage` of the contract at `self`. -/
def validateMessage (self : Address) (s : State) (message : ValidatorSetSigMessage) :
    Except String Unit := do
  require (message.targetBlockchainID = s.blockchainID)
    "ValidatorSetSig: invalid targetBlockchainID"
  require (message.validatorSetSigAddress = self)
    "ValidatorSetSig: invalid validatorSetSigAddress"
  require (s.nonces message.targetContractAddress = message.nonce) "ValidatorSetSig: invalid nonce"

/-- `executeCall` of the contract at `self`: `valid` is what the precompile returned with the
message, and `success` the outcome of the call to the target. -/
def executeCall (self : Address) (s : State) (message : WarpMessage) (valid success : Bool) :
    Except String (State × List Log) := do
  require (valid = true) "ValidatorSetSig: invalid warp message"
  require (message.sourceChainID = s.validatorBlockchainID)
    "ValidatorSetSig: invalid sourceChainID"
  require (message.originSenderAddress = validatorsSourceAddress)
    "ValidatorSetSig: non-zero originSenderAddress"
  let validatorSetSigMessage := message.payload
  validateMessage self s validatorSetSigMessage
  let nonce ← checkedAdd 256 validatorSetSigMessage.nonce 1
  let s := { s with
    nonces := update s.nonces validatorSetSigMessage.targetContractAddress nonce }
  -- a failed call reverts, so that the nonce is not consumed
  require (success = true) "ValidatorSetSig: call failed"
  pure (s, [.call validatorSetSigMessage.targetContractAddress validatorSetSigMessage.value
      validatorSetSigMessage.payload,
    .delivered validatorSetSigMessage.targetContractAddress validatorSetSigMessage.nonce])

/-- The one entry point that writes the contract. -/
inductive Call
  | executeCall (message : WarpMessage) (valid success : Bool)

/-- One successful call into the contract at `self`. -/
def step (self : Address) (s : State) : Call → Except String (State × List Log)
  | .executeCall message valid success => executeCall self s message valid success

variable {self : Address} {s s' : State} {l : List Log}

theorem validateMessage_eq_ok {message : ValidatorSetSigMessage} {u : Unit} :
    validateMessage self s message = .ok u ↔ message.targetBlockchainID = s.blockchainID ∧
      message.validatorSetSigAddress = self ∧
      s.nonces message.targetContractAddress = message.nonce := by
  simp [validateMessage, bind_eq_ok]

/-- A successful call checked the message, its signers, its chain, its contract and its nonce,
and raised its target's nonce by one. -/
theorem executeCall_eq_ok {message : WarpMessage} {valid success : Bool}
    (h : executeCall self s message valid success = .ok (s', l)) :
    valid = true ∧ message.sourceChainID = s.validatorBlockchainID ∧
      message.originSenderAddress = validatorsSourceAddress ∧
      message.payload.targetBlockchainID = s.blockchainID ∧
      message.payload.validatorSetSigAddress = self ∧
      s.nonces message.payload.targetContractAddress = message.payload.nonce ∧
      success = true ∧
      s' = { s with
        nonces := update s.nonces message.payload.targetContractAddress
          (message.payload.nonce + 1) } ∧
      l = [.call message.payload.targetContractAddress message.payload.value
          message.payload.payload,
        .delivered message.payload.targetContractAddress message.payload.nonce] := by
  simp only [executeCall, bind_eq_ok, require_eq_ok, checkedAdd_eq_ok] at h
  obtain ⟨_, hvalid, _, hsrc, _, horigin, _, hv, _, ⟨-, rfl⟩, _, hsuccess, h⟩ := h
  obtain ⟨hchain, haddress, hnonce⟩ := validateMessage_eq_ok.mp hv
  obtain ⟨rfl, rfl⟩ := Prod.mk.inj (pure_eq_ok.1 h)
  exact ⟨hvalid, hsrc, horigin, hchain, haddress, hnonce, hsuccess, rfl, rfl⟩

/-! ## The deliveries to each target -/

/-- The nonce of a delivery to `target`. -/
def Log.deliveredTo (target : Address) : Log → Option ℕ
  | .delivered t nonce => if t = target then some nonce else none
  | .call .. => none

/-- The nonces delivered to `target` in a log, in order. -/
def deliveredNonces (target : Address) (events : List Log) : List ℕ :=
  events.filterMap (Log.deliveredTo target)

@[simp] theorem deliveredNonces_append (target : Address) (events events' : List Log) :
    deliveredNonces target (events ++ events') =
      deliveredNonces target events ++ deliveredNonces target events' :=
  List.filterMap_append

theorem deliveredNonces_call (target target' : Address) (value nonce : ℕ) (payload : Bytes) :
    deliveredNonces target [.call target' value payload, .delivered target' nonce] =
      if target' = target then [nonce] else [] := by
  by_cases h : target' = target
  · simp [deliveredNonces, Log.deliveredTo, List.filterMap_cons, h]
  · simp [deliveredNonces, Log.deliveredTo, List.filterMap_cons, h]

/-- Every target's deliveries so far: the nonces below its next one, in order. -/
def InOrder (s : State) (events : List Log) : Prop :=
  ∀ target, deliveredNonces target events = List.range (s.nonces target)

theorem InOrder.init (validatorBlockchainID blockchainID : Bytes32) :
    InOrder (validatorSetSigInit validatorBlockchainID blockchainID) [] :=
  fun _ => rfl

/-- A call delivers its target's next nonce and raises it. -/
theorem InOrder.executeCall {events : List Log} {message : WarpMessage} {valid success : Bool}
    (hi : InOrder s events) (h : ValidatorSetSig.executeCall self s message valid success =
      .ok (s', l)) :
    InOrder s' (events ++ l) := by
  obtain ⟨-, -, -, -, -, hnonce, -, rfl, rfl⟩ := executeCall_eq_ok h
  intro target
  rw [deliveredNonces_append, hi target, deliveredNonces_call]
  dsimp only
  by_cases ht : message.payload.targetContractAddress = target
  · -- the target's next nonce is delivered, and becomes one more
    subst ht
    rw [if_pos rfl, update_self, hnonce, List.range_succ]
  · rw [if_neg ht, update_of_ne (Ne.symm ht), List.append_nil]

theorem exec_inOrder {validatorBlockchainID blockchainID : Bytes32}
    {tr : List (Call × List Log)}
    (h : Exec (step self) (validatorSetSigInit validatorBlockchainID blockchainID) tr s) :
    InOrder s (log tr) := by
  induction h with
  | nil => exact InOrder.init validatorBlockchainID blockchainID
  | snoc _ hc ih =>
    rw [log_snoc]
    cases ‹Call› with
    | executeCall message valid success => exact ih.executeCall hc

theorem executeCall_stale {message : WarpMessage} (hlt : message.payload.nonce <
    s.nonces message.payload.targetContractAddress) (valid success : Bool) :
    ∃ e, executeCall self s message valid success = .error e := by
  cases h : executeCall self s message valid success with
  | error e => exact ⟨e, rfl⟩
  | ok r =>
    obtain ⟨-, -, -, -, -, hnonce, -⟩ := executeCall_eq_ok h
    omega

/-- **Signed calls are delivered once each, in nonce order.** Along every run from the
constructor, the deliveries to each target carry the nonces `0, 1, …` below its next nonce, in
that order, each once; and a message whose nonce was delivered to its target reverts when it is
executed again, whatever the precompile and the target return. -/
theorem delivered_in_nonce_order {validatorBlockchainID blockchainID : Bytes32}
    {tr : List (Call × List Log)}
    (h : Exec (step self) (validatorSetSigInit validatorBlockchainID blockchainID) tr s) :
    (∀ target, deliveredNonces target (log tr) = List.range (s.nonces target)) ∧
      (∀ target, (deliveredNonces target (log tr)).Nodup) ∧
      ∀ message : WarpMessage,
        message.payload.nonce ∈ deliveredNonces message.payload.targetContractAddress (log tr) →
          ∀ valid success, ∃ e, executeCall self s message valid success = .error e := by
  have hi := exec_inOrder h
  refine ⟨hi, fun target => ?_, fun message hm valid success => ?_⟩
  · rw [hi target]
    exact List.nodup_range
  · rw [hi, List.mem_range] at hm
    exact executeCall_stale hm valid success

/-- A message to target `0x7` with nonce `n`, signed by chain `1` for the contract `0xC` on
chain `2`. -/
def sampleMessage (n : ℕ) : WarpMessage := ⟨1, 0, ⟨2, 0xC, 0x7, n, 0, []⟩⟩

/-- Nonces `0` and `1` delivered to `0x7`; nonce `0` again reverts. -/
theorem delivered_in_nonce_order_sample :
    ∃ (tr : List (Call × List Log)) (s : State),
      Exec (step 0xC) (validatorSetSigInit 1 2) tr s ∧ deliveredNonces 0x7 (log tr) = [0, 1] ∧
      ∃ e, executeCall 0xC s (sampleMessage 0) true true = .error e := by
  have hrun := (Exec.single
    (show step 0xC (validatorSetSigInit 1 2) (.executeCall (sampleMessage 0) true true) = _
      from rfl)).snoc
    (show step 0xC _ (.executeCall (sampleMessage 1) true true) = _ from rfl)
  refine ⟨_, _, hrun, rfl, ?_⟩
  exact (delivered_in_nonce_order hrun).2.2 (sampleMessage 0) (by decide) true true

end ValidatorSetSig
