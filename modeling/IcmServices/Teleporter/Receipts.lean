import IcmServices.Teleporter.Delivery
import IcmServices.Lib.Finsum

/-!
# Receipts settle only what they name

A receive from chain `S` runs `_markReceipt` on each receipt it carries, with the message ID
`calculateMessageID(blockchainID, S, nonce)`. The lemmas below follow the receipt loop and show
that it deletes only the `sentMessageInfo` entries of those IDs and raises only the rewards of the
receipts' relayers, by fees of those entries. With IDs injective, a message sent to another
chain is never settled by a message from `S` (`receipts_settle_only_own_source`).
-/

namespace Teleporter

open Solidity Function

variable {B : Type} [DecidableEq B] [Zero B] {ctx : Context B}

section
variable {s s' : State B} {l : List (Log B)}

/-- One `_markReceipt` changes at most the entry of its message, by deleting it, and raises only
its relayer's reward in the entry's fee token. -/
theorem markReceipt_changes {src dst : B} {receipt : TeleporterMessageReceipt}
    (h : markReceipt ctx s src dst receipt = .ok (s', l)) :
    (∀ k, s'.sentMessageInfo k ≠ s.sentMessageInfo k →
        k = calculateMessageID ctx src dst receipt.receivedMessageNonce ∧
          s'.sentMessageInfo k = default) ∧
      (∀ r T, s.relayerRewardAmounts r T ≤ s'.relayerRewardAmounts r T) ∧
      (∀ r T, s'.relayerRewardAmounts r T ≠ s.relayerRewardAmounts r T →
        r = receipt.relayerRewardAddress ∧
          (s.sentMessageInfo
            (calculateMessageID ctx src dst receipt.receivedMessageNonce)).messageHash ≠ 0 ∧
          (s.sentMessageInfo (calculateMessageID ctx src dst
            receipt.receivedMessageNonce)).feeInfo.feeTokenAddress = T) := by
  rcases markReceipt_eq_ok ctx h with ⟨-, rfl, rfl⟩ | ⟨hl, -, rfl, rfl⟩
  · exact ⟨fun _ hk => absurd rfl hk, fun _ _ => le_rfl, fun _ _ hr => absurd rfl hr⟩
  · refine ⟨fun k hk => ?_, fun r T => Mapping.le_update_add .., fun r T hr => ?_⟩
    · by_cases he : k = calculateMessageID ctx src dst receipt.receivedMessageNonce
      · exact ⟨he, by rw [he]; exact update_self ..⟩
      · exact absurd (update_of_ne he _ _) hk
    · obtain ⟨rfl, rfl⟩ := Mapping.eq_of_update_add_ne hr
      exact ⟨rfl, hl, rfl⟩

/-- The receipt loop deletes only the entries of the receipts' messages, and raises only the
rewards of the receipts' relayers, in the fee tokens of entries it found live. -/
theorem markReceipts_changes {src dst : B} :
    ∀ {receipts : List TeleporterMessageReceipt} {s s' : State B} {l : List (Log B)},
      markReceipts ctx src dst receipts s = .ok (s', l) →
      (∀ k, s'.sentMessageInfo k ≠ s.sentMessageInfo k → s'.sentMessageInfo k = default ∧
        ∃ r ∈ receipts, k = calculateMessageID ctx src dst r.receivedMessageNonce) ∧
      (∀ r T, s.relayerRewardAmounts r T ≤ s'.relayerRewardAmounts r T) ∧
      (∀ r T, s'.relayerRewardAmounts r T ≠ s.relayerRewardAmounts r T →
        ∃ receipt ∈ receipts, receipt.relayerRewardAddress = r ∧
          let id := calculateMessageID ctx src dst receipt.receivedMessageNonce
          (s.sentMessageInfo id).messageHash ≠ 0 ∧
            (s.sentMessageInfo id).feeInfo.feeTokenAddress = T)
  | [], s, s', l, h => by
    simp only [markReceipts, pure_eq_ok, Prod.mk.injEq] at h
    obtain ⟨rfl, rfl⟩ := h
    exact ⟨fun _ hk => absurd rfl hk, fun _ _ => le_rfl, fun _ _ hr => absurd rfl hr⟩
  | receipt :: receipts, s, s', l, h => by
    obtain ⟨s₁, l₁, l₂, h1, h2, -⟩ := markReceipts_cons ctx h
    obtain ⟨c₁, c₂, c₃⟩ := markReceipt_changes h1
    obtain ⟨i₁, i₂, i₃⟩ := markReceipts_changes h2
    -- an entry live after the first receipt is as it was before it
    have hkeep : ∀ k, (s₁.sentMessageInfo k).messageHash ≠ 0 →
        s₁.sentMessageInfo k = s.sentMessageInfo k := fun k hk => by
      by_contra hne
      rw [(c₁ k hne).2] at hk
      exact hk rfl
    refine ⟨fun k hk => ?_, fun r T => (c₂ r T).trans (i₂ r T), fun r T hr => ?_⟩
    · by_cases h₁ : s₁.sentMessageInfo k = s.sentMessageInfo k
      · obtain ⟨hd, r, hr, he⟩ := i₁ k (by rwa [h₁])
        exact ⟨hd, r, List.mem_cons_of_mem _ hr, he⟩
      · obtain ⟨he, hd⟩ := c₁ k h₁
        by_cases h₂ : s'.sentMessageInfo k = s₁.sentMessageInfo k
        · exact ⟨h₂.trans hd, receipt, List.mem_cons_self .., he⟩
        · exact ⟨(i₁ k h₂).1, receipt, List.mem_cons_self .., he⟩
    · by_cases h₁ : s₁.relayerRewardAmounts r T = s.relayerRewardAmounts r T
      · obtain ⟨receipt', hm, hr', hl, ht⟩ := i₃ r T (by rwa [h₁])
        have hk := hkeep _ hl
        rw [hk] at hl ht
        exact ⟨receipt', List.mem_cons_of_mem _ hm, hr', hl, ht⟩
      · obtain ⟨hr', hl, ht⟩ := c₃ r T h₁
        exact ⟨receipt, List.mem_cons_self .., hr'.symm, hl, ht⟩

end

/-! ## What a receive credits -/

/-- The credit a log entry records: the message whose fee is paid, the chain named in the
`ReceiptReceived` event, and the relayer paid. -/
def Log.receiptCredit : Log B → Option (B × B × Address)
  | .receiptReceived id dst relayerRewardAddress _ => some (id, dst, relayerRewardAddress)
  | _ => none

/-- The message a log entry submits to the warp precompile. -/
def Log.warpMessage : Log B → Option (TeleporterMessage B)
  | .sendWarpMessage message => some message
  | _ => none

attribute [simp] Log.receiptCredit Log.warpMessage

theorem markReceipts_log {src dst : B} :
    ∀ {receipts : List TeleporterMessageReceipt} {s s' : State B} {l : List (Log B)},
      markReceipts ctx src dst receipts s = .ok (s', l) → ∀ e ∈ l,
        ∃ r ∈ receipts, ∃ info, e = .receiptReceived
          (calculateMessageID ctx src dst r.receivedMessageNonce) dst r.relayerRewardAddress info
  | [], s, s', l, h => by
    simp only [markReceipts, pure_eq_ok, Prod.mk.injEq] at h
    obtain ⟨rfl, rfl⟩ := h
    simp
  | receipt :: receipts, s, s', l, h => by
    obtain ⟨s₁, l₁, l₂, h1, h2, rfl⟩ := markReceipts_cons ctx h
    intro e he
    rcases List.mem_append.1 he with he | he
    · rcases markReceipt_eq_ok ctx h1 with ⟨-, -, rfl⟩ | ⟨-, -, -, rfl⟩
      · simp at he
      · rw [List.mem_singleton] at he
        exact ⟨receipt, List.mem_cons_self .., _, he⟩
    · obtain ⟨r, hr, info, rfl⟩ := markReceipts_log h2 e he
      exact ⟨r, List.mem_cons_of_mem _ hr, info, rfl⟩

/-- A receive, around its receipt loop: the message was addressed to this chain's (initialized)
blockchain ID, the loop runs on the fee ledgers as the call found them, leaves them as the call
returns them, and the rest of the call logs no credit and no warp message. -/
theorem receiveCrossChainMessage_receipts {s s' : State B} {l : List (Log B)}
    {sender relayerRewardAddress : Address} {w : WarpMessage B} {execution : Execution}
    (h : receiveCrossChainMessage ctx s sender (some w) relayerRewardAddress execution =
      .ok (s', l)) :
    w.payload.destinationBlockchainID = s'.blockchainID ∧ s'.blockchainID ≠ 0 ∧
    ∃ s₃ s₄ l₁ l₂ l₃,
      markReceipts ctx s'.blockchainID w.sourceChainID w.payload.receipts s₃ = .ok (s₄, l₂) ∧
      s₃.sentMessageInfo = s.sentMessageInfo ∧ s₃.relayerRewardAmounts = s.relayerRewardAmounts ∧
      s'.sentMessageInfo = s₄.sentMessageInfo ∧
      s'.relayerRewardAmounts = s₄.relayerRewardAmounts ∧ l = l₁ ++ l₂ ++ l₃ ∧
      ∀ e ∈ l₁ ++ l₃, e.receiptCredit = none ∧ e.warpMessage = none := by
  obtain ⟨w', s₁, l₁, s₂, s₄, l₂, queue, hw, -, h1, hdst, -, -, h2, h3, -, h4⟩ :=
    receiveCrossChainMessage_eq_ok ctx h
  cases hw
  obtain ⟨hs₁, hb₁, -, -, hl₁⟩ := initializeBlockchainID_eq_ok ctx h1
  obtain ⟨-, rfl⟩ := markMessageReceived_eq_ok h2
  -- recording the reward address touches neither ledger
  obtain ⟨s₃, h3, hb₃, hm₃, hr₃⟩ : ∃ s₃,
      markReceipts ctx s₁.blockchainID w.sourceChainID w.payload.receipts s₃ = .ok (s₄, l₂) ∧
      s₃.blockchainID = s₁.blockchainID ∧ s₃.sentMessageInfo = s₁.sentMessageInfo ∧
      s₃.relayerRewardAmounts = s₁.relayerRewardAmounts :=
    ⟨_, h3, by split <;> rfl, by split <;> rfl, by split <;> rfl⟩
  have hb₄ : s₄.blockchainID = s₃.blockchainID := by
    have := (markReceipts_delivery h3).1
    simp only [receiveRecords, Prod.mk.injEq] at this
    exact this.1
  -- after the loop: queue the receipt, then possibly execute
  obtain ⟨l₃, rfl, hb', hm', hr', hl₃⟩ : ∃ l₃, l = l₁ ++ l₂ ++ l₃ ∧
      s'.blockchainID = s₄.blockchainID ∧ s'.sentMessageInfo = s₄.sentMessageInfo ∧
      s'.relayerRewardAmounts = s₄.relayerRewardAmounts ∧
      ∀ e ∈ l₃, e.receiptCredit = none ∧ e.warpMessage = none := by
    rcases h4 with ⟨-, rfl, rfl⟩ | ⟨-, l₄, h5, rfl⟩
    · exact ⟨_, rfl, rfl, rfl, rfl, by simp⟩
    · refine ⟨_, List.append_assoc _ _ _, ?_⟩
      obtain ⟨-, ⟨-, -, rfl, rfl⟩ | ⟨-, he⟩⟩ := handleInitialMessageExecution_eq_ok ctx h5
      · exact ⟨rfl, rfl, rfl, by simp⟩
      · simp only [storeFailedMessageExecution, Prod.mk.injEq] at he
        obtain ⟨rfl, rfl⟩ := he
        exact ⟨rfl, rfl, rfl, by simp⟩
  have hbid : s'.blockchainID = s₁.blockchainID := by rw [hb', hb₄, hb₃]
  refine ⟨by rw [hbid]; exact hdst, by rw [hbid]; exact hb₁, s₃, s₄, l₁, l₂, l₃, by rwa [hbid],
    by rw [hm₃, hs₁], by rw [hr₃, hs₁], hm', hr', rfl, fun e he => ?_⟩
  rcases List.mem_append.1 he with he | he
  · rcases hl₁ with rfl | rfl
    · simp at he
    · rw [List.mem_singleton] at he
      subst he
      simp
  · exact hl₃ e he

/-- A receive from chain `S` deletes only the fee entries of the messages its receipts name, as
sent from this chain to `S`, and raises only the rewards of its receipts' relayers, by fees of
those entries; so a message sent to any other chain keeps its fee entry. -/
theorem receipts_settle_only_own_source (hinj : IDInjective ctx) {s s' : State B}
    {l : List (Log B)} {sender relayerRewardAddress : Address} {w : WarpMessage B}
    {execution : Execution}
    (h : receiveCrossChainMessage ctx s sender (some w) relayerRewardAddress execution =
      .ok (s', l)) :
    (∀ id, s'.sentMessageInfo id ≠ s.sentMessageInfo id → s'.sentMessageInfo id = default ∧
      ∃ r ∈ w.payload.receipts,
        id = calculateMessageID ctx s'.blockchainID w.sourceChainID r.receivedMessageNonce) ∧
    (∀ r T, s'.relayerRewardAmounts r T ≠ s.relayerRewardAmounts r T →
      s.relayerRewardAmounts r T < s'.relayerRewardAmounts r T ∧
      ∃ receipt ∈ w.payload.receipts, receipt.relayerRewardAddress = r ∧
        let id := calculateMessageID ctx s'.blockchainID w.sourceChainID
          receipt.receivedMessageNonce
        (s.sentMessageInfo id).messageHash ≠ 0 ∧
          (s.sentMessageInfo id).feeInfo.feeTokenAddress = T) ∧
    (∀ dst n, dst ≠ w.sourceChainID →
      s'.sentMessageInfo (calculateMessageID ctx s'.blockchainID dst n) =
        s.sentMessageInfo (calculateMessageID ctx s'.blockchainID dst n)) := by
  obtain ⟨-, -, s₃, s₄, -, l₂, -, h3, hm₃, hr₃, hm', hr', -, -⟩ :=
    receiveCrossChainMessage_receipts h
  obtain ⟨c₁, c₂, c₃⟩ := markReceipts_changes h3
  rw [hm', ← hm₃, hr', ← hr₃]
  refine ⟨c₁, fun r T hr => ⟨lt_of_le_of_ne (c₂ r T) (Ne.symm hr), c₃ r T hr⟩,
    fun dst n hdst => ?_⟩
  -- an entry the loop changed is named by a receipt from `S`, so it was sent to `S`
  by_contra hne
  obtain ⟨-, r, -, he⟩ := c₁ _ hne
  exact hdst (calculateMessageID_inj hinj he).2.1

/-- After `sampleInput` is sent with a fee of `15`, receiving `sampleReply` settles that fee for
`0xC`. -/
theorem receipts_settle_only_own_source_ideal :
    ∃ (tr : List (Call ℕ × List (Log ℕ))) (s s' : State ℕ) (l : List (Log ℕ)),
      Contract.Exec (step (idealContext 1 7)) State.init tr s ∧
      receiveCrossChainMessage (idealContext 1 7) s 0xD (some sampleReply) 0xD
        ⟨true, true, true⟩ = .ok (s', l) ∧
      let w := sampleReply
      let id := calculateMessageID (idealContext 1 7) 7 9 1
      (s.sentMessageInfo id).feeInfo = ⟨0xF, 15⟩ ∧ s'.sentMessageInfo id = default ∧
      s'.relayerRewardAmounts 0xC 0xF = 15 ∧
      (∀ id, s'.sentMessageInfo id ≠ s.sentMessageInfo id → s'.sentMessageInfo id = default ∧
        ∃ r ∈ w.payload.receipts, id = calculateMessageID (idealContext 1 7) s'.blockchainID
          w.sourceChainID r.receivedMessageNonce) ∧
      (∀ r T, s'.relayerRewardAmounts r T ≠ s.relayerRewardAmounts r T →
        s.relayerRewardAmounts r T < s'.relayerRewardAmounts r T ∧
        ∃ receipt ∈ w.payload.receipts, receipt.relayerRewardAddress = r ∧
          let id := calculateMessageID (idealContext 1 7) s'.blockchainID w.sourceChainID
            receipt.receivedMessageNonce
          (s.sentMessageInfo id).messageHash ≠ 0 ∧
            (s.sentMessageInfo id).feeInfo.feeTokenAddress = T) ∧
      (∀ dst n, dst ≠ w.sourceChainID →
        s'.sentMessageInfo (calculateMessageID (idealContext 1 7) s'.blockchainID dst n) =
          s.sentMessageInfo (calculateMessageID (idealContext 1 7) s'.blockchainID dst n)) := by
  have h := (Contract.Exec.nil State.init).snoc (show step (idealContext 1 7) _
    .initializeBlockchainID = Except.ok (_, _) from rfl)
  have h := h.snoc (show step (idealContext 1 7) _
    (.sendCrossChainMessage 0xA sampleInput 10) = Except.ok (_, _) from rfl)
  have h := h.snoc (show step (idealContext 1 7) _
    (.addFeeAmount 0xA (calculateMessageID (idealContext 1 7) 7 9 1) 0xF 5 5)
      = Except.ok (_, _) from rfl)
  refine ⟨_, _, _, _, h, rfl, rfl, rfl, rfl, ?_⟩
  exact receipts_settle_only_own_source (idealContext_idInjective 1 7) (by
    exact show receiveCrossChainMessage (idealContext 1 7) _ 0xD (some sampleReply) 0xD
      ⟨true, true, true⟩ = _ from rfl)

end Teleporter
