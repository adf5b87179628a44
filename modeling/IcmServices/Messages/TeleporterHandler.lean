import Mathlib.Algebra.Order.BigOperators.Group.List
import Mathlib.Algebra.Order.Group.Nat
import IcmServices.Teleporter.Messenger

/-!
# The Teleporter message handler: whether and how a message is sent

Before it relays a Teleporter message, an application relayer asks the handler
`ShouldSendMessage`: the message's required gas limit must fit in the destination's block gas
limit, one of the destination client's signers must be an allowed relayer of the message, the
destination must not have received it, and the decider must agree (or be unreachable). Only then
are signatures aggregated and `SendMessage` called, which computes the transaction's gas limit
(`CalculateReceiveMessageGasLimit`) and has `SendTx` pick a signer among the message's allowed
relayers. `ProcessMessage` tries all of this up to `maxRetryCount` times.

* `isAllowedRelayer_eq_checkIsAllowedRelayer`: the relayer's check of an allowed relayer is the
  contract's (`Teleporter.checkIsAllowedRelayer`, in `receiveCrossChainMessage`);
* `shouldSendMessage_truncates`: the gas check reads the 256-bit required gas limit through
  `Uint64()`, its low 64 bits. A message whose required gas limit is `2^64` or more and whose low
  64 bits fit in the block passes the check, and then every attempt fails in
  `CalculateReceiveMessageGasLimit` ("required gas limit too high"): `ProcessMessage` returns an
  error, so its height is never staged, where a check of the whole value would have skipped the
  message;
* `shouldSendMessage_overhead`: the check leaves out Teleporter's overhead, which
  `CalculateReceiveMessageGasLimit` adds: a message that fits in the block only without it is
  sent with a gas limit above the block's.
-/

namespace GasUtils

/-- `MarkMessageReceiptGasCost`. -/
def markMessageReceiptGasCost : ℕ := 2500

/-- `DecodeMessageGasCostPerByte`. -/
def decodeMessageGasCostPerByte : ℕ := 35

/-- `TeleporterOverheadGasCost`. -/
def teleporterOverheadGasCost : ℕ := 250000

/-- The warp precompile's gas configuration (`warp.CurrentGasConfig`), which the relayer reads
from the EVM it builds against. -/
structure GasConfig where
  perWarpMessageChunk : ℕ
  perWarpSigner : ℕ
  verifyPredicateBase : ℕ
  getVerifiedWarpMessageBase : ℕ

/-- `math.Add` on `uint64`: the sum, or an error on overflow. -/
def add64 (a b : ℕ) : Except String ℕ :=
  if a + b < 2 ^ 64 then .ok (a + b) else .error "overflow"

/-- The sum of a list of `uint64` amounts with `math.Add`, from the first. -/
def sumAmounts : ℕ → List ℕ → Except String ℕ
  | res, [] => .ok res
  | res, amount :: amounts => do
    let res ← add64 res amount
    sumAmounts res amounts

/-- `CalculateReceiveMessageGasLimit`. The products are `uint64` products, which wrap. -/
def calculateReceiveMessageGasLimit (gasConfig : GasConfig) (numSigners : ℕ)
    (executionRequiredGasLimit : ℕ)
    (numPredicateChunks numTeleporterMessageBytes teleporterReceiptsCount : ℕ) :
    Except String ℕ :=
  if executionRequiredGasLimit < 2 ^ 64 then
    sumAmounts executionRequiredGasLimit
      [numPredicateChunks * gasConfig.perWarpMessageChunk * 2 % 2 ^ 64,
        numTeleporterMessageBytes * decodeMessageGasCostPerByte % 2 ^ 64,
        teleporterReceiptsCount * markMessageReceiptGasCost % 2 ^ 64,
        numSigners * gasConfig.perWarpSigner % 2 ^ 64,
        gasConfig.verifyPredicateBase,
        gasConfig.getVerifiedWarpMessageBase,
        teleporterOverheadGasCost]
  else .error "required gas limit too high"

theorem le_of_sumAmounts_eq_ok : ∀ {res gas : ℕ} {amounts : List ℕ},
    sumAmounts res amounts = .ok gas → res + amounts.sum ≤ gas
  | _, _, [], h => by
    cases h
    simp
  | res, _, amount :: amounts, h => by
    simp only [sumAmounts, add64, Solidity.bind_eq_ok] at h
    obtain ⟨res', hres', h⟩ := h
    split at hres'
    · cases hres'
      have := le_of_sumAmounts_eq_ok h
      simp only [List.sum_cons]
      omega
    · cases hres'

theorem le_of_sumAmounts_of_mem {res gas a : ℕ} {amounts : List ℕ}
    (h : sumAmounts res amounts = .ok gas) (ha : a ∈ amounts) : res + a ≤ gas :=
  le_trans (Nat.add_le_add_left (List.le_sum_of_mem ha) res) (le_of_sumAmounts_eq_ok h)

/-- A gas limit the relayer computes covers the execution's required gas and Teleporter's
overhead. -/
theorem calculateReceiveMessageGasLimit_ge {gasConfig : GasConfig}
    {numSigners executionRequiredGasLimit numPredicateChunks numTeleporterMessageBytes
      teleporterReceiptsCount gas : ℕ}
    (h : calculateReceiveMessageGasLimit gasConfig numSigners executionRequiredGasLimit
      numPredicateChunks numTeleporterMessageBytes teleporterReceiptsCount = .ok gas) :
    executionRequiredGasLimit + teleporterOverheadGasCost ≤ gas := by
  unfold calculateReceiveMessageGasLimit at h
  split at h
  · -- Teleporter's overhead is the last of the amounts added
    exact le_of_sumAmounts_of_mem h (by simp only [List.mem_cons, true_or, or_true])
  · cases h

end GasUtils

namespace TeleporterHandler

open Solidity

/-- `isAllowedRelayer`. -/
def isAllowedRelayer (allowedRelayers : List Address) (eoa : Address) : Bool :=
  if allowedRelayers.length = 0 then true else allowedRelayers.contains eoa

/-- `containsAllowedRelayer`. -/
def containsAllowedRelayer (allowedRelayers eoas : List Address) : Bool :=
  eoas.any (isAllowedRelayer allowedRelayers)

/-- The relayer's check of an address is the contract's. -/
theorem isAllowedRelayer_eq_checkIsAllowedRelayer (allowedRelayers : List Address)
    (eoa : Address) :
    isAllowedRelayer allowedRelayers eoa = Teleporter.checkIsAllowedRelayer eoa allowedRelayers := by
  cases allowedRelayers with
  | nil => rfl
  | cons a as => simp [isAllowedRelayer, Teleporter.checkIsAllowedRelayer]

/-- `ShouldSendMessage`, from the message's required gas limit (a `uint256`) and allowed relayers,
the destination client's block gas limit and sender addresses, and the answers of the
destination's `MessageReceived` and of the decider. -/
def shouldSendMessage (requiredGasLimit blockGasLimit : ℕ)
    (allowedRelayerAddresses senderAddresses : List Address)
    (messageReceived decision : Except String Bool) : Except String Bool :=
  -- `RequiredGasLimit.Uint64()`: the low 64 bits of the value
  let requiredGasLimit := requiredGasLimit % 2 ^ 64
  if requiredGasLimit > blockGasLimit then .ok false
  else if !containsAllowedRelayer allowedRelayerAddresses senderAddresses then .ok false
  else
    match messageReceived with
    | .error e => .error e
    | .ok true => .ok false
    | .ok false =>
      match decision with
      -- an unreachable decider leaves the decision already made
      | .error _ => .ok true
      | .ok decision => .ok decision

/-- The signers `SendTx` may pick: all of them when no deliverer is named, and otherwise those
that are deliverers. -/
def eligibleSigners (deliverers signerAddresses : List Address) : List Address :=
  signerAddresses.filter fun signerAddress =>
    deliverers.length = 0 || deliverers.contains signerAddress

end TeleporterHandler

namespace Relayer

/-- `maxRetryCount`. -/
def maxRetryCount : ℕ := 5

/-- `processMessage` of an application relayer on one handler: `ShouldSendMessage`, then the
signed message (the outcome of the signature aggregation), then `SendMessage`. A message that
should not be sent is done, with no transaction (`none`). -/
def processMessage {σ τ : Type} (shouldSend : Except String Bool)
    (signedMessage : Except String σ) (sendMessage : σ → Except String τ) :
    Except String (Option τ) :=
  match shouldSend with
  | .error e => .error ("failed to check if message should be sent: " ++ e)
  | .ok false => .ok none
  | .ok true =>
    match signedMessage with
    | .error e => .error e
    | .ok signed =>
      match sendMessage signed with
      | .error e => .error ("failed to send warp message: " ++ e)
      | .ok txHash => .ok (some txHash)

/-- The loop of `ProcessMessage` over the outcomes of its attempts: the first that is not an
error, or the last error; `err` is the outcome so far. -/
def retryLoop {α : Type} : List (Except String α) → Except String α → Except String α
  | [], err => err
  | .ok a :: _, _ => .ok a
  | .error e :: attempts, _ => retryLoop attempts (.error e)

/-- `ProcessMessage`: `processMessage` up to `maxRetryCount` times, `attempt i` being the outcome
of the `i`-th try, until one returns no error; `err` starts as `nil`. -/
def processMessageWithRetries {τ : Type} (attempt : ℕ → Except String (Option τ)) :
    Except String (Option τ) :=
  retryLoop ((List.range maxRetryCount).map attempt) (.ok none)

theorem retryLoop_error {α : Type} :
    ∀ {attempts : List (Except String α)} {err : Except String α},
      attempts ≠ [] → (∀ x ∈ attempts, ∃ e, x = .error e) → ∃ e, retryLoop attempts err = .error e
  | [], _, hne, _ => absurd rfl hne
  | x :: attempts, err, _, hall => by
    obtain ⟨e, rfl⟩ := hall x List.mem_cons_self
    rw [retryLoop]
    by_cases hnil : attempts = []
    · subst hnil
      exact ⟨e, rfl⟩
    · exact retryLoop_error hnil fun y hy => hall y (List.mem_cons_of_mem _ hy)

theorem processMessageWithRetries_error {τ : Type} {attempt : ℕ → Except String (Option τ)}
    (hall : ∀ i, ∃ e, attempt i = .error e) : ∃ e, processMessageWithRetries attempt = .error e :=
  retryLoop_error (by simp [maxRetryCount]) fun x hx => by
    obtain ⟨i, -, rfl⟩ := List.mem_map.mp hx
    exact hall i

end Relayer

namespace TeleporterHandler

open Solidity GasUtils

/-- A message whose gas limit, as read, fits in the block, that a signer may relay, that the
destination has not received and that the decider does not refuse is sent. -/
theorem shouldSendMessage_of_fits {requiredGasLimit blockGasLimit : ℕ}
    {allowedRelayerAddresses senderAddresses : List Address} {decision : Except String Bool}
    (hfits : requiredGasLimit % 2 ^ 64 ≤ blockGasLimit)
    (hrelayer : containsAllowedRelayer allowedRelayerAddresses senderAddresses = true)
    (hdecision : decision ≠ .ok false) :
    shouldSendMessage requiredGasLimit blockGasLimit allowedRelayerAddresses senderAddresses
      (.ok false) decision = .ok true := by
  unfold shouldSendMessage
  rw [if_neg (Nat.not_lt.mpr hfits), hrelayer]
  rcases decision with e | _ | _
  · rfl
  · exact absurd rfl hdecision
  · rfl

/-- What `SendMessage` reads of a signed warp message. -/
structure SignedMessage where
  /-- `Signature.NumSigners()` -/
  numSigners : Except String ℕ
  /-- `len(predicate.New(signedMessage.Bytes()))` -/
  numPredicateChunks : ℕ
  /-- `len(signedMessage.Payload)` -/
  payloadLength : ℕ

/-- `SendMessage` of a message with the required gas limit `requiredGasLimit` and
`teleporterReceiptsCount` receipts: the gas limit of the delivery, and then `sendTx`, what
`SendTx` and the check of its receipt give for that gas limit. -/
def sendMessage {τ : Type} (gasConfig : GasConfig) (requiredGasLimit teleporterReceiptsCount : ℕ)
    (sendTx : ℕ → Except String τ) (signedMessage : SignedMessage) : Except String τ := do
  let numSigners ← signedMessage.numSigners
  let gasLimit ← calculateReceiveMessageGasLimit gasConfig numSigners requiredGasLimit
    signedMessage.numPredicateChunks signedMessage.payloadLength teleporterReceiptsCount
  sendTx gasLimit

/-- **The gas check truncates the required gas limit.** A message whose required gas limit is
`2^64` or more, with low 64 bits that fit in the block, passes `ShouldSendMessage` (when a signer
may relay it, it is not delivered, and the decider does not refuse) though its required gas limit
exceeds the block's; `CalculateReceiveMessageGasLimit` then rejects it whatever the signatures,
so each try of `processMessage` fails, whatever the aggregation gives, and `ProcessMessage`
returns an error. -/
theorem shouldSendMessage_truncates {requiredGasLimit blockGasLimit : ℕ}
    {allowedRelayerAddresses senderAddresses : List Address} {decision : Except String Bool}
    (hblock : blockGasLimit < 2 ^ 64) (hbig : 2 ^ 64 ≤ requiredGasLimit)
    (hlow : requiredGasLimit % 2 ^ 64 ≤ blockGasLimit)
    (hrelayer : containsAllowedRelayer allowedRelayerAddresses senderAddresses = true)
    (hdecision : decision ≠ .ok false) :
    shouldSendMessage requiredGasLimit blockGasLimit allowedRelayerAddresses senderAddresses
        (.ok false) decision = .ok true ∧
      blockGasLimit < requiredGasLimit ∧
      ∀ {τ : Type} (gasConfig : GasConfig) (teleporterReceiptsCount : ℕ)
        (sendTx : ℕ → Except String τ) (signedMessage : ℕ → Except String SignedMessage),
        (∀ signed, ∃ e, sendMessage gasConfig requiredGasLimit teleporterReceiptsCount sendTx
          signed = .error e) ∧
        ∃ e, Relayer.processMessageWithRetries (fun i =>
          Relayer.processMessage
            (shouldSendMessage requiredGasLimit blockGasLimit allowedRelayerAddresses
              senderAddresses (.ok false) decision)
            (signedMessage i)
            (sendMessage gasConfig requiredGasLimit teleporterReceiptsCount sendTx)) = .error e := by
  have hshould := shouldSendMessage_of_fits hlow hrelayer hdecision
  -- the gas limit is never computed, whatever the signatures
  have hsend : ∀ {τ : Type} (gasConfig : GasConfig) (teleporterReceiptsCount : ℕ)
      (sendTx : ℕ → Except String τ) (signed : SignedMessage),
      ∃ e, sendMessage gasConfig requiredGasLimit teleporterReceiptsCount sendTx signed =
        .error e := by
    intro τ gasConfig teleporterReceiptsCount sendTx signed
    unfold sendMessage
    cases signed.numSigners with
    | error e => exact ⟨e, rfl⟩
    | ok numSigners =>
      refine ⟨"required gas limit too high", ?_⟩
      simp only [bind, Except.bind, calculateReceiveMessageGasLimit, if_neg (Nat.not_lt.mpr hbig)]
  refine ⟨hshould, Nat.lt_of_lt_of_le hblock hbig, fun gasConfig teleporterReceiptsCount sendTx signedMessage =>
    ⟨hsend gasConfig teleporterReceiptsCount sendTx, ?_⟩⟩
  -- every try gets past the check, signs or not, and then fails to send
  apply Relayer.processMessageWithRetries_error
  intro i
  rw [hshould]
  simp only [Relayer.processMessage]
  cases signedMessage i with
  | error e => exact ⟨e, rfl⟩
  | ok signed =>
    obtain ⟨e, he⟩ := hsend gasConfig teleporterReceiptsCount sendTx signed
    exact ⟨"failed to send warp message: " ++ e, by simp only [he]⟩

/-- A message with the required gas limit `2^64 + 100000`, to a chain with blocks of 15 million
gas, which any signer may deliver. -/
theorem shouldSendMessage_truncates_sample :
    shouldSendMessage (2 ^ 64 + 100000) 15000000 [] [0xA] (.ok false) (.ok true) = .ok true ∧
      15000000 < 2 ^ 64 + 100000 :=
  have h := shouldSendMessage_truncates (show 15000000 < 2 ^ 64 by decide)
    (show 2 ^ 64 ≤ 2 ^ 64 + 100000 by decide)
    (show (2 ^ 64 + 100000) % 2 ^ 64 ≤ 15000000 by decide)
    (show containsAllowedRelayer [] [0xA] = true by decide)
    (show (.ok true : Except String Bool) ≠ .ok false from fun h => by cases h)
  ⟨h.1, h.2.1⟩

/-- The gas check compares the execution's gas alone with the block gas limit: a message whose
required gas limit fits in the block but not with Teleporter's overhead passes it, and every gas
limit `SendMessage` computes for it is above the block gas limit. -/
theorem shouldSendMessage_overhead {requiredGasLimit blockGasLimit : ℕ}
    {allowedRelayerAddresses senderAddresses : List Address} {decision : Except String Bool}
    (hblock : blockGasLimit < 2 ^ 64) (hfits : requiredGasLimit ≤ blockGasLimit)
    (hover : blockGasLimit < requiredGasLimit + teleporterOverheadGasCost)
    (hrelayer : containsAllowedRelayer allowedRelayerAddresses senderAddresses = true)
    (hdecision : decision ≠ .ok false) :
    shouldSendMessage requiredGasLimit blockGasLimit allowedRelayerAddresses senderAddresses
        (.ok false) decision = .ok true ∧
      ∀ gasConfig numSigners numPredicateChunks numTeleporterMessageBytes teleporterReceiptsCount
        gas, calculateReceiveMessageGasLimit gasConfig numSigners requiredGasLimit
          numPredicateChunks numTeleporterMessageBytes teleporterReceiptsCount = .ok gas →
        blockGasLimit < gas := by
  -- the limit is below `2^64`, so `Uint64()` reads all of it
  have hread : requiredGasLimit % 2 ^ 64 ≤ blockGasLimit := by
    rw [Nat.mod_eq_of_lt (Nat.lt_of_le_of_lt hfits hblock)]
    exact hfits
  refine ⟨shouldSendMessage_of_fits hread hrelayer hdecision, fun _ _ _ _ _ gas hgas => ?_⟩
  exact Nat.lt_of_lt_of_le hover (calculateReceiveMessageGasLimit_ge hgas)

/-- A message of 14.9 million gas to a chain with blocks of 15 million: with 100 bytes and no
receipt, its delivery asks for 15153500. -/
theorem shouldSendMessage_overhead_sample :
    shouldSendMessage 14900000 15000000 [] [0xA] (.ok false) (.ok true) = .ok true ∧
      calculateReceiveMessageGasLimit ⟨0, 0, 0, 0⟩ 1 14900000 1 100 0 = .ok 15153500 ∧
      15000000 < 15153500 :=
  have h := shouldSendMessage_overhead (show 15000000 < 2 ^ 64 by decide)
    (show 14900000 ≤ 15000000 by decide)
    (show 15000000 < 14900000 + teleporterOverheadGasCost by decide)
    (show containsAllowedRelayer [] [0xA] = true by decide)
    (show (.ok true : Except String Bool) ≠ .ok false from fun h => by cases h)
  have hg : calculateReceiveMessageGasLimit ⟨0, 0, 0, 0⟩ 1 14900000 1 100 0 = .ok 15153500 := rfl
  ⟨h.1, hg, h.2 _ _ _ _ _ _ hg⟩

end TeleporterHandler
