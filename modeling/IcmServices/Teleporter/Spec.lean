import IcmServices.Teleporter.Messenger
import Mathlib.Data.Nat.Pairing
import Mathlib.Logic.Equiv.List

/-!
# What each entry point of the messenger does

One lemma per function of `Messenger.lean`: from a successful call, the checks that passed, the
calls it made to the other functions (as hypotheses for their own lemmas), the new state as an
update of the old one and the log. The invariant proofs of the later modules use these lemmas
and never unfold an entry point.
-/

namespace Teleporter

open Solidity Function

variable {B : Type} [DecidableEq B] [Zero B] (ctx : Context B)

/-! ## What the messenger assumes of `keccak256` -/

/-- `keccak256` has no collision on message-ID tuples. -/
def IDInjective : Prop :=
  ∀ a src dst n a' src' dst' n',
    ctx.keccak256 (.messageID a src dst n) = ctx.keccak256 (.messageID a' src' dst' n') →
      a = a' ∧ src = src' ∧ dst = dst' ∧ n = n'

/-- No message hashes to `bytes32(0)`, which the messenger reads as "no message". -/
def MessageHashNonzero : Prop := ∀ m, ctx.keccak256 (.message m) ≠ 0

/-- `keccak256` has no collision on messages: a stored hash names one message. -/
def MessageHashInjective : Prop :=
  ∀ m m', ctx.keccak256 (.message m) = ctx.keccak256 (.message m') → m = m'

/-- A message over `ℕ` as a tuple of natural numbers and lists of them, encoded into `ℕ`. -/
def encodeMessage (m : TeleporterMessage ℕ) : ℕ :=
  Encodable.encode (m.messageNonce, m.originSenderAddress.toNat, m.destinationBlockchainID,
    m.destinationAddress.toNat, m.requiredGasLimit, m.allowedRelayerAddresses.map BitVec.toNat,
    m.receipts.map (fun r => (r.receivedMessageNonce, r.relayerRewardAddress.toNat)),
    m.message.map UInt8.toNat)

theorem encodeMessage_injective : Function.Injective encodeMessage := by
  have hr : Function.Injective
      (fun r : TeleporterMessageReceipt => (r.receivedMessageNonce, r.relayerRewardAddress.toNat)) := by
    rintro ⟨n, a⟩ ⟨n', a'⟩ h
    simp only [Prod.mk.injEq] at h
    rw [h.1, BitVec.toNat_injective h.2]
  rintro ⟨n, o, d, a, g, rs, ps, msg⟩ ⟨n', o', d', a', g', rs', ps', msg'⟩ h
  have h := Encodable.encode_injective h
  simp only [Prod.mk.injEq] at h
  obtain ⟨rfl, ho, rfl, ha, rfl, hrs, hps, hmsg⟩ := h
  rw [BitVec.toNat_injective ho, BitVec.toNat_injective ha,
    List.map_injective_iff.2 BitVec.toNat_injective hrs, List.map_injective_iff.2 hr hps,
    List.map_injective_iff.2 (fun _ _ h => UInt8.toNat_inj.1 h) hmsg]

/-- A hash with all three properties: message-ID tuples are paired injectively into `ℕ`, and
messages are encoded injectively and shifted off zero. It shows the assumptions can hold
together. -/
def idealKeccak : Preimage ℕ → ℕ
  | .messageID self src dst nonce => Nat.pair self.toNat (Nat.pair src (Nat.pair dst nonce))
  | .message m => encodeMessage m + 1

/-- A messenger at `self` on chain `chainID`, hashing with `idealKeccak`. -/
def idealContext (self : Address) (chainID : ℕ) : Context ℕ := ⟨idealKeccak, self, chainID⟩

theorem idealContext_idInjective (self : Address) (chainID : ℕ) :
    IDInjective (idealContext self chainID) := by
  intro a src dst n a' src' dst' n' h
  simp only [idealContext, idealKeccak, Nat.pair_eq_pair] at h
  obtain ⟨ha, rfl, rfl, rfl⟩ := h
  exact ⟨BitVec.eq_of_toNat_eq ha, rfl, rfl, rfl⟩

theorem idealContext_messageHashNonzero (self : Address) (chainID : ℕ) :
    MessageHashNonzero (idealContext self chainID) := by
  intro m
  simp [idealContext, idealKeccak]

theorem idealContext_messageHashInjective (self : Address) (chainID : ℕ) :
    MessageHashInjective (idealContext self chainID) := by
  intro m m' h
  simp only [idealContext, idealKeccak, Nat.add_right_cancel_iff] at h
  exact encodeMessage_injective h

/-- A message from the messenger at `1` on chain `7` to chain `9`, paying a fee of `10` in token
`0xF`. -/
def sampleInput : TeleporterMessageInput ℕ := ⟨9, 0xB, ⟨0xF, 10⟩, 0, [], [0x2A]⟩

/-- The first message from chain `9` to chain `7`, carrying the receipt for the message of
`sampleInput`, relayed for `0xC`. -/
def sampleReply : WarpMessage ℕ := ⟨9, 1, ⟨1, 0xE, 7, 0xA, 0, [], [⟨1, 0xC⟩], [0x2A]⟩⟩

omit [DecidableEq B] [Zero B] in
theorem calculateMessageID_inj {ctx : Context B} (hinj : IDInjective ctx) {src dst src' dst' : B}
    {n n' : ℕ} (h : calculateMessageID ctx src dst n = calculateMessageID ctx src' dst' n') :
    src = src' ∧ dst = dst' ∧ n = n' :=
  (hinj _ _ _ _ _ _ _ _ h).2

/-! ## The entry points -/

section
variable {s s' : State B} {l : List (Log B)}

theorem initializeBlockchainID_eq_ok (h : initializeBlockchainID ctx s = .ok (s', l)) :
    s' = { s with blockchainID := s'.blockchainID } ∧ s'.blockchainID ≠ 0 ∧
      (s.blockchainID ≠ 0 → s'.blockchainID = s.blockchainID) ∧
      (s.blockchainID = 0 → s'.blockchainID = ctx.chainID) ∧
      (l = [] ∨ l = [.blockchainIDInitialized s'.blockchainID]) := by
  unfold initializeBlockchainID at h
  split at h
  · rename_i h0
    simp only [bind_eq_ok, require_eq_ok, pure_eq_ok, Prod.mk.injEq] at h
    obtain ⟨_, hc, rfl, rfl⟩ := h
    simp [hc, h0]
  · rename_i h0
    simp only [pure_eq_ok, Prod.mk.injEq] at h
    obtain ⟨rfl, rfl⟩ := h
    simp [h0]

omit [DecidableEq B] [Zero B] in
theorem transferFee_eq_ok {sender : Address} {feeInfo : TeleporterFeeInfo} {received adj : ℕ}
    {l : List (Log B)} (h : transferFee sender feeInfo received = .ok (adj, l)) :
    (feeInfo.amount = 0 ∧ adj = 0 ∧ l = []) ∨
      (0 < feeInfo.amount ∧ feeInfo.feeTokenAddress ≠ 0 ∧ 0 < adj ∧ adj = received ∧
        l = [.transferFrom feeInfo.feeTokenAddress sender adj]) := by
  unfold transferFee at h
  split at h
  · simp only [safeTransferFrom, bind_eq_ok, require_eq_ok, pure_eq_ok, Prod.mk.injEq] at h
    obtain ⟨_, ht, _, ⟨_, hr, rfl⟩, rfl, rfl⟩ := h
    exact .inr ⟨by omega, ht, hr, rfl, rfl⟩
  · simp only [pure_eq_ok, Prod.mk.injEq] at h
    obtain ⟨rfl, rfl⟩ := h
    exact .inl ⟨by omega, rfl, rfl⟩

theorem sendTeleporterMessage_eq_ok {sender : Address} {mi : TeleporterMessageInput B}
    {rs : List TeleporterMessageReceipt} {received : ℕ} {id : B}
    (h : sendTeleporterMessage ctx s sender mi rs received = .ok (id, s', l)) :
    ∃ b adj l₁ l₂,
      initializeBlockchainID ctx s = .ok ({ s with blockchainID := b }, l₁) ∧
      transferFee sender mi.feeInfo received = .ok (adj, l₂) ∧
      s.messageNonce + 1 < 2 ^ 256 ∧
      id = calculateMessageID ctx b mi.destinationBlockchainID (s.messageNonce + 1) ∧
      s' = { s with
        blockchainID := b
        messageNonce := s.messageNonce + 1
        sentMessageInfo := update s.sentMessageInfo id
          ⟨ctx.keccak256 (.message (constructMessage (s.messageNonce + 1) sender mi rs)),
            ⟨mi.feeInfo.feeTokenAddress, adj⟩⟩ } ∧
      l = l₁ ++ l₂ ++
        [.sendCrossChainMessage id mi.destinationBlockchainID
          (constructMessage (s.messageNonce + 1) sender mi rs) ⟨mi.feeInfo.feeTokenAddress, adj⟩,
         .sendWarpMessage (constructMessage (s.messageNonce + 1) sender mi rs)] := by
  simp only [sendTeleporterMessage, bind_eq_ok, checkedAdd_eq_ok] at h
  obtain ⟨⟨s₁, l₁⟩, h1, n, ⟨hn, rfl⟩, ⟨adj, l₂⟩, h2, h3⟩ := h
  simp only [pure_eq_ok, Prod.mk.injEq] at h3
  obtain ⟨rfl, rfl, rfl⟩ := h3
  have hs₁ := (initializeBlockchainID_eq_ok ctx h1).1
  have hn₁ : s₁.messageNonce = s.messageNonce := by rw [hs₁]
  rw [hs₁] at h1
  refine ⟨s₁.blockchainID, adj, l₁, l₂, h1, h2, hn₁ ▸ hn, by rw [hn₁], ?_, by rw [hn₁]⟩
  rw [hs₁]

theorem sendCrossChainMessage_eq_ok {sender : Address} {mi : TeleporterMessageInput B}
    {received : ℕ} (h : sendCrossChainMessage ctx s sender mi received = .ok (s', l)) :
    ∃ receipts queue id,
      ReceiptQueue.getOutstandingReceiptsToSend (s.receiptQueues mi.destinationBlockchainID) =
        .ok (receipts, queue) ∧
      sendTeleporterMessage ctx
        { s with receiptQueues := update s.receiptQueues mi.destinationBlockchainID queue }
        sender mi receipts received = .ok (id, s', l) := by
  simp only [sendCrossChainMessage, bind_eq_ok] at h
  obtain ⟨⟨receipts, queue⟩, h1, ⟨id, s₂, l₂⟩, h2, h3⟩ := h
  simp only [pure_eq_ok, Prod.mk.injEq] at h3
  obtain ⟨rfl, rfl⟩ := h3
  exact ⟨receipts, queue, id, h1, h2⟩

theorem retrySendCrossChainMessage_eq_ok {message : TeleporterMessage B}
    (h : retrySendCrossChainMessage ctx s message = .ok (s', l)) :
    let id := calculateMessageID ctx s.blockchainID message.destinationBlockchainID
      message.messageNonce
    (s.sentMessageInfo id).messageHash ≠ 0 ∧
      ctx.keccak256 (.message message) = (s.sentMessageInfo id).messageHash ∧ s' = s ∧
      l = [.sendCrossChainMessage id message.destinationBlockchainID message
        (s.sentMessageInfo id).feeInfo, .sendWarpMessage message] := by
  simp only [retrySendCrossChainMessage, bind_eq_ok, require_eq_ok, pure_eq_ok,
    Prod.mk.injEq] at h
  obtain ⟨_, h1, _, h2, rfl, rfl⟩ := h
  exact ⟨h1, h2, rfl, rfl⟩

theorem addFeeAmount_eq_ok {sender feeTokenAddress : Address} {messageID : B}
    {additionalFeeAmount received : ℕ}
    (h : addFeeAmount s sender messageID feeTokenAddress additionalFeeAmount received =
      .ok (s', l)) :
    let info := s.sentMessageInfo messageID
    0 < additionalFeeAmount ∧ feeTokenAddress ≠ 0 ∧ info.messageHash ≠ 0 ∧
      info.feeInfo.feeTokenAddress = feeTokenAddress ∧ 0 < received ∧
      info.feeInfo.amount + received < 2 ^ 256 ∧
      s' = { s with
        sentMessageInfo := update s.sentMessageInfo messageID
          ⟨info.messageHash, ⟨feeTokenAddress, info.feeInfo.amount + received⟩⟩ } ∧
      l = [.transferFrom feeTokenAddress sender received,
        .addFeeAmount messageID ⟨feeTokenAddress, info.feeInfo.amount + received⟩] := by
  simp only [addFeeAmount, safeTransferFrom, bind_eq_ok, require_eq_ok, pure_eq_ok,
    checkedAdd_eq_ok, Prod.mk.injEq] at h
  obtain ⟨_, h1, _, h2, _, h3, _, h4, _, ⟨_, h5, rfl⟩, _, ⟨h6, rfl⟩, rfl, rfl⟩ := h
  refine ⟨h1, h2, h3, h4, h5, h6, ?_, ?_⟩ <;> rw [← h4]

omit [Zero B] in
theorem markMessageReceived_eq_ok {messageID : B} {nonce : ℕ}
    (h : markMessageReceived s messageID nonce = .ok s') :
    nonce ≠ 0 ∧
      s' = { s with receivedMessageNonces := update s.receivedMessageNonces messageID nonce } := by
  simp only [markMessageReceived, bind_eq_ok, require_eq_ok, pure_eq_ok] at h
  obtain ⟨_, h1, rfl⟩ := h
  exact ⟨h1, rfl⟩

/-- `_markReceipt` either ignores the receipt or moves the fee to the relayer. -/
theorem markReceipt_eq_ok {src dst : B} {receipt : TeleporterMessageReceipt}
    (h : markReceipt ctx s src dst receipt = .ok (s', l)) :
    let id := calculateMessageID ctx src dst receipt.receivedMessageNonce
    let info := s.sentMessageInfo id
    let r := receipt.relayerRewardAddress
    let t := info.feeInfo.feeTokenAddress
    (info.messageHash = 0 ∧ s' = s ∧ l = []) ∨
      (info.messageHash ≠ 0 ∧ s.relayerRewardAmounts r t + info.feeInfo.amount < 2 ^ 256 ∧
        s' = { s with
          sentMessageInfo := update s.sentMessageInfo id default
          relayerRewardAmounts := update s.relayerRewardAmounts r
            (update (s.relayerRewardAmounts r) t
              (s.relayerRewardAmounts r t + info.feeInfo.amount)) } ∧
        l = [.receiptReceived id dst r info.feeInfo]) := by
  unfold markReceipt at h
  dsimp only at h
  split at h
  · simp only [pure_eq_ok, Prod.mk.injEq] at h
    obtain ⟨rfl, rfl⟩ := h
    exact .inl ⟨by assumption, rfl, rfl⟩
  · simp only [bind_eq_ok, checkedAdd_eq_ok, pure_eq_ok, Prod.mk.injEq] at h
    obtain ⟨_, ⟨h1, rfl⟩, rfl, rfl⟩ := h
    exact .inr ⟨by assumption, h1, rfl, rfl⟩

theorem markReceipts_cons {src dst : B} {receipt : TeleporterMessageReceipt}
    {receipts : List TeleporterMessageReceipt}
    (h : markReceipts ctx src dst (receipt :: receipts) s = .ok (s', l)) :
    ∃ s₁ l₁ l₂, markReceipt ctx s src dst receipt = .ok (s₁, l₁) ∧
      markReceipts ctx src dst receipts s₁ = .ok (s', l₂) ∧ l = l₁ ++ l₂ := by
  simp only [markReceipts, bind_eq_ok] at h
  obtain ⟨⟨s₁, l₁⟩, h1, ⟨s₂, l₂⟩, h2, h3⟩ := h
  simp only [pure_eq_ok, Prod.mk.injEq] at h3
  obtain ⟨rfl, rfl⟩ := h3
  exact ⟨s₁, l₁, l₂, h1, h2, rfl⟩

/-- Induction rule for the receipt loop: a relation between the state and log before and after
that every `_markReceipt` establishes and that composes holds of the whole loop. -/
theorem markReceipts_induction {src dst : B} (R : State B → State B → List (Log B) → Prop)
    (hnil : ∀ s, R s s [])
    (hone : ∀ s s' l receipt, markReceipt ctx s src dst receipt = .ok (s', l) → R s s' l)
    (htrans : ∀ s₁ s₂ s₃ l₁ l₂, R s₁ s₂ l₁ → R s₂ s₃ l₂ → R s₁ s₃ (l₁ ++ l₂)) :
    ∀ (receipts : List TeleporterMessageReceipt) (s s' : State B) (l : List (Log B)),
      markReceipts ctx src dst receipts s = .ok (s', l) → R s s' l
  | [], s, s', l, h => by
    simp only [markReceipts, pure_eq_ok, Prod.mk.injEq] at h
    obtain ⟨rfl, rfl⟩ := h
    exact hnil s
  | receipt :: receipts, s, s', l, h => by
    obtain ⟨s₁, l₁, l₂, h1, h2, rfl⟩ := markReceipts_cons ctx h
    exact htrans _ _ _ _ _ (hone _ _ _ _ h1)
      (markReceipts_induction R hnil hone htrans receipts s₁ s' l₂ h2)

omit [Zero B] in
theorem handleInitialMessageExecution_eq_ok {messageID src : B} {message : TeleporterMessage B}
    {execution : Execution}
    (h : handleInitialMessageExecution ctx s messageID src message execution = .ok (s', l)) :
    execution.gasSufficient = true ∧
      ((execution.hasCode = true ∧ execution.success = true ∧ s' = s ∧
          l = [.messageExecuted messageID src]) ∨
        ((execution.hasCode = false ∨ execution.success = false) ∧
          (s', l) = storeFailedMessageExecution ctx s messageID src message)) := by
  simp only [handleInitialMessageExecution, bind_eq_ok, require_eq_ok] at h
  obtain ⟨_, hg, h⟩ := h
  refine ⟨hg, ?_⟩
  split at h
  · exact .inr ⟨.inl (by assumption), (pure_eq_ok.1 h).symm⟩
  · split at h
    · exact .inr ⟨.inr (by assumption), (pure_eq_ok.1 h).symm⟩
    · simp only [pure_eq_ok, Prod.mk.injEq] at h
      obtain ⟨rfl, rfl⟩ := h
      exact .inl ⟨by simpa using ‹¬execution.hasCode = false›,
        by simpa using ‹¬execution.success = false›, rfl, rfl⟩

theorem enqueue_eq_ok {queue queue' : TeleporterMessageReceiptQueue}
    {receipt : TeleporterMessageReceipt} (h : ReceiptQueue.enqueue queue receipt = .ok queue') :
    queue.last + 1 < 2 ^ 256 ∧
      queue' = { queue with data := update queue.data queue.last receipt, last := queue.last + 1 } := by
  simp only [ReceiptQueue.enqueue, bind_eq_ok, checkedAdd_eq_ok, pure_eq_ok] at h
  obtain ⟨_, ⟨h1, rfl⟩, rfl⟩ := h
  exact ⟨h1, rfl⟩

theorem receiveCrossChainMessage_eq_ok {sender relayerRewardAddress : Address}
    {warpMessage : Option (WarpMessage B)} {execution : Execution}
    (h : receiveCrossChainMessage ctx s sender warpMessage relayerRewardAddress execution =
      .ok (s', l)) :
    ∃ w s₁ l₁ s₂ s₄ l₂ queue,
      let m := w.payload
      let id := calculateMessageID ctx w.sourceChainID s₁.blockchainID m.messageNonce
      let s₃ := if relayerRewardAddress ≠ 0 then
          { s₂ with relayerRewardAddresses :=
              update s₂.relayerRewardAddresses id relayerRewardAddress }
        else s₂
      let s₅ := { s₄ with receiptQueues := update s₄.receiptQueues w.sourceChainID queue }
      let l₃ := [Log.receiveCrossChainMessage id w.sourceChainID sender relayerRewardAddress m]
      warpMessage = some w ∧ w.originSenderAddress = ctx.self ∧
      initializeBlockchainID ctx s = .ok (s₁, l₁) ∧
      m.destinationBlockchainID = s₁.blockchainID ∧
      messageReceived s₁ id = false ∧
      checkIsAllowedRelayer sender m.allowedRelayerAddresses = true ∧
      markMessageReceived s₁ id m.messageNonce = .ok s₂ ∧
      markReceipts ctx s₁.blockchainID w.sourceChainID m.receipts s₃ = .ok (s₄, l₂) ∧
      ReceiptQueue.enqueue (s₄.receiptQueues w.sourceChainID)
        ⟨m.messageNonce, relayerRewardAddress⟩ = .ok queue ∧
      ((m.message.length = 0 ∧ s' = s₅ ∧ l = l₁ ++ l₂ ++ l₃) ∨
        (0 < m.message.length ∧ ∃ l₄,
          handleInitialMessageExecution ctx s₅ id w.sourceChainID m execution = .ok (s', l₄) ∧
          l = l₁ ++ l₂ ++ l₃ ++ l₄)) := by
  cases warpMessage with
  | none => simp [receiveCrossChainMessage, throw, throwThe, MonadExceptOf.throw] at h
  | some w =>
    simp only [receiveCrossChainMessage, bind_eq_ok, require_eq_ok] at h
    obtain ⟨_, h1, ⟨s₁, l₁⟩, h2, _, h3, _, h4, _, h5, s₂, h6, ⟨s₄, l₂⟩, h7, queue, h8, h9⟩ := h
    refine ⟨w, s₁, l₁, s₂, s₄, l₂, queue, rfl, h1, h2, h3, h4, h5, h6, h7, h8, ?_⟩
    split at h9
    · rename_i hlen
      obtain ⟨⟨s₆, l₄⟩, h10, h11⟩ := bind_eq_ok.1 h9
      simp only [pure_eq_ok, Prod.mk.injEq] at h11
      obtain ⟨rfl, rfl⟩ := h11
      exact .inr ⟨hlen, l₄, h10, rfl⟩
    · simp only [pure_eq_ok, Prod.mk.injEq] at h9
      obtain ⟨rfl, rfl⟩ := h9
      exact .inl ⟨by omega, rfl, rfl⟩

theorem retryMessageExecution_eq_ok {src : B} {message : TeleporterMessage B}
    {hasCode success : Bool}
    (h : retryMessageExecution ctx s src message hasCode success = .ok (s', l)) :
    let id := calculateMessageID ctx src s.blockchainID message.messageNonce
    s.receivedFailedMessageHashes id ≠ 0 ∧
      ctx.keccak256 (.message message) = s.receivedFailedMessageHashes id ∧
      hasCode = true ∧ success = true ∧
      s' = { s with receivedFailedMessageHashes := update s.receivedFailedMessageHashes id 0 } ∧
      l = [.messageExecuted id src] := by
  simp only [retryMessageExecution, bind_eq_ok, require_eq_ok, pure_eq_ok, Prod.mk.injEq] at h
  obtain ⟨_, h1, _, h2, _, h3, _, h4, rfl, rfl⟩ := h
  exact ⟨h1, h2, h3, h4, rfl, rfl⟩

omit [Zero B] in
/-- Every receipt `sendSpecifiedReceipts` builds is for a message received from the given
chain, with the reward address recorded at its delivery. -/
theorem specifiedReceipts_eq_ok {src bid : B} :
    ∀ {messageIDs : List B} {receipts : List TeleporterMessageReceipt},
      specifiedReceipts ctx s src bid messageIDs = .ok receipts →
      ∀ r ∈ receipts, ∃ id, r.receivedMessageNonce = s.receivedMessageNonces id ∧
        r.receivedMessageNonce ≠ 0 ∧
        id = calculateMessageID ctx src bid r.receivedMessageNonce ∧
        r.relayerRewardAddress = s.relayerRewardAddresses id
  | [], _, h => by
    simp only [specifiedReceipts, pure_eq_ok] at h
    subst h
    simp
  | id :: messageIDs, _, h => by
    simp only [specifiedReceipts, bind_eq_ok, require_eq_ok, pure_eq_ok] at h
    obtain ⟨_, h1, _, h2, receipts, h3, rfl⟩ := h
    intro r hr
    rcases List.mem_cons.1 hr with rfl | hr
    · exact ⟨id, rfl, h1, h2, rfl⟩
    · exact specifiedReceipts_eq_ok h3 r hr

theorem sendSpecifiedReceipts_eq_ok {sender : Address} {src : B} {messageIDs : List B}
    {feeInfo : TeleporterFeeInfo} {allowed : List Address} {received : ℕ}
    (h : sendSpecifiedReceipts ctx s sender src messageIDs feeInfo allowed received =
      .ok (s', l)) :
    ∃ receipts id, specifiedReceipts ctx s src s.blockchainID messageIDs = .ok receipts ∧
      sendTeleporterMessage ctx s sender
        { destinationBlockchainID := src, destinationAddress := 0, feeInfo := feeInfo,
          requiredGasLimit := 0, allowedRelayerAddresses := allowed, message := [] }
        receipts received = .ok (id, s', l) := by
  simp only [sendSpecifiedReceipts, bind_eq_ok] at h
  obtain ⟨receipts, h1, ⟨id, s₁, l₁⟩, h2, h3⟩ := h
  simp only [pure_eq_ok, Prod.mk.injEq] at h3
  obtain ⟨rfl, rfl⟩ := h3
  exact ⟨receipts, id, h1, h2⟩

omit [DecidableEq B] [Zero B] in
theorem redeemRelayerRewards_eq_ok {sender feeAsset : Address}
    (h : redeemRelayerRewards s sender feeAsset = .ok (s', l)) :
    0 < s.relayerRewardAmounts sender feeAsset ∧
      s' = { s with
        relayerRewardAmounts := update s.relayerRewardAmounts sender
          (update (s.relayerRewardAmounts sender) feeAsset 0) } ∧
      l = [.relayerRewardsRedeemed sender feeAsset (s.relayerRewardAmounts sender feeAsset),
        .transfer feeAsset sender (s.relayerRewardAmounts sender feeAsset)] := by
  simp only [redeemRelayerRewards, bind_eq_ok, require_eq_ok, pure_eq_ok, Prod.mk.injEq] at h
  obtain ⟨_, h1, rfl, rfl⟩ := h
  exact ⟨h1, rfl, rfl⟩

end

end Teleporter
