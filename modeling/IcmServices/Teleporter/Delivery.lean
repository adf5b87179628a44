import IcmServices.Teleporter.Queue

/-!
# Each message is received, acknowledged and executed at most once

The messenger's receive side keeps four records per message ID: `_receivedMessageNonces`,
`_relayerRewardAddresses`, `receivedFailedMessageHashes`, and the receipt it queues for the
source chain. What a log records
of them is `deliveries` (one per `ReceiveCrossChainMessage` event, with the receipt queued),
`executed` (`MessageExecuted`, a successful call of the destination) and `failed`
(`MessageExecutionFailed`).

`DeliveryStep` says once what a call can do to these records: nothing (`frame`, which covers
initializing the blockchain ID and sending receipts off a queue), deliver one fresh message
(`deliver`), or clear a failed execution by a successful retry (`retry`). `DeliveryInv` relates
the records to the log, and every call keeps it:

* the nonce of a message is set once, at its delivery, to the delivered nonce, and stays; so is
  the reward address, to the one in the queued receipt;
* each queue's `History` is the list of receipts of the deliveries from its chain;
* each message is executed successfully at most once, and has a failed hash exactly while its
  execution has failed and no retry has succeeded.

`message_delivered_at_most_once` states these along every run.
-/

namespace Teleporter

open Solidity Function Contract ReceiptQueue

variable {B : Type} [DecidableEq B] [Zero B] (ctx : Context B)

/-! ## What a log records -/

/-- The delivery a log entry records: the message ID, the source chain and the receipt queued. -/
def Log.delivery : Log B → Option (B × B × TeleporterMessageReceipt)
  | .receiveCrossChainMessage id src _ relayerRewardAddress message =>
    some (id, src, ⟨message.messageNonce, relayerRewardAddress⟩)
  | _ => none

/-- The message a log entry records as executed successfully. -/
def Log.executedID : Log B → Option B
  | .messageExecuted id _ => some id
  | _ => none

/-- The message a log entry records as failed in its first execution. -/
def Log.failedID : Log B → Option B
  | .messageExecutionFailed id _ _ => some id
  | _ => none

attribute [simp] Log.delivery Log.executedID Log.failedID

/-- The deliveries of a log, in order. -/
def deliveries (l : List (Log B)) : List (B × B × TeleporterMessageReceipt) :=
  l.filterMap Log.delivery

/-- The messages a log delivers. -/
def received (l : List (Log B)) : List B := (deliveries l).map Prod.fst

/-- The receipts queued for chain `src` over a log: one per message delivered from it. -/
def enqueued (src : B) (l : List (Log B)) : List TeleporterMessageReceipt :=
  ((deliveries l).filter fun d => d.2.1 = src).map fun d => d.2.2

/-- The messages a log records as executed. -/
def executed (l : List (Log B)) : List B := l.filterMap Log.executedID

/-- The messages a log records as failed. -/
def failed (l : List (Log B)) : List B := l.filterMap Log.failedID

/-- A log that records no delivery and no execution. -/
def Quiet (l : List (Log B)) : Prop := deliveries l = [] ∧ executed l = [] ∧ failed l = []

omit [DecidableEq B] [Zero B] in
@[simp] theorem deliveries_append (l₁ l₂ : List (Log B)) :
    deliveries (l₁ ++ l₂) = deliveries l₁ ++ deliveries l₂ := by
  simp [deliveries]

omit [DecidableEq B] [Zero B] in
@[simp] theorem executed_append (l₁ l₂ : List (Log B)) :
    executed (l₁ ++ l₂) = executed l₁ ++ executed l₂ := by
  simp [executed]

omit [DecidableEq B] [Zero B] in
@[simp] theorem failed_append (l₁ l₂ : List (Log B)) :
    failed (l₁ ++ l₂) = failed l₁ ++ failed l₂ := by
  simp [failed]

omit [Zero B] in
theorem enqueued_append (src : B) (l₁ l₂ : List (Log B)) :
    enqueued src (l₁ ++ l₂) = enqueued src l₁ ++ enqueued src l₂ := by
  simp [enqueued]

omit [DecidableEq B] [Zero B] in
theorem Quiet.append {l₁ l₂ : List (Log B)} (h₁ : Quiet l₁) (h₂ : Quiet l₂) : Quiet (l₁ ++ l₂) := by
  simp [Quiet, h₁.1, h₁.2.1, h₁.2.2, h₂.1, h₂.2.1, h₂.2.2]

/-! ## What a call does to the receive records -/

/-- Everything a call can do to the blockchain ID, the received nonces, the failed hashes and the
receipt queues. -/
inductive DeliveryStep : State B → State B → List (Log B) → Prop
  /-- No delivery: the blockchain ID may be initialized, and queues may be drained. -/
  | frame {s s' l} :
      (s'.blockchainID = s.blockchainID ∨ s.blockchainID = 0 ∧ s'.blockchainID = ctx.chainID) →
      s'.receivedMessageNonces = s.receivedMessageNonces →
      s'.relayerRewardAddresses = s.relayerRewardAddresses →
      s'.receivedFailedMessageHashes = s.receivedFailedMessageHashes →
      (∀ src hist, History (s.receiptQueues src) hist → History (s'.receiptQueues src) hist) →
      Quiet l → DeliveryStep s s' l
  /-- The message with `receipt`'s nonce from `src` is delivered, its receipt queued, and its
  execution succeeds, fails (storing a non-zero hash) or is not attempted. -/
  | deliver {s s' l} (src : B) (receipt : TeleporterMessageReceipt)
      (queue : TeleporterMessageReceiptQueue) : s.blockchainID ≠ 0 →
      s.receivedMessageNonces
        (calculateMessageID ctx src s.blockchainID receipt.receivedMessageNonce) = 0 →
      receipt.receivedMessageNonce ≠ 0 → s'.blockchainID = s.blockchainID →
      s'.receivedMessageNonces = update s.receivedMessageNonces
        (calculateMessageID ctx src s.blockchainID receipt.receivedMessageNonce)
        receipt.receivedMessageNonce →
      s'.relayerRewardAddresses = (if receipt.relayerRewardAddress ≠ 0 then
          update s.relayerRewardAddresses
            (calculateMessageID ctx src s.blockchainID receipt.receivedMessageNonce)
            receipt.relayerRewardAddress
        else s.relayerRewardAddresses) →
      enqueue (s.receiptQueues src) receipt = .ok queue →
      s'.receiptQueues = update s.receiptQueues src queue →
      deliveries l =
        [(calculateMessageID ctx src s.blockchainID receipt.receivedMessageNonce, src, receipt)] →
      (s'.receivedFailedMessageHashes = s.receivedFailedMessageHashes ∧ failed l = [] ∧
          (executed l = [] ∨ executed l =
            [calculateMessageID ctx src s.blockchainID receipt.receivedMessageNonce])) ∨
        (∃ h, h ≠ 0 ∧ s'.receivedFailedMessageHashes = update s.receivedFailedMessageHashes
            (calculateMessageID ctx src s.blockchainID receipt.receivedMessageNonce) h ∧
          failed l = [calculateMessageID ctx src s.blockchainID receipt.receivedMessageNonce] ∧
          executed l = []) →
      DeliveryStep s s' l
  /-- A failed execution of `id` is retried successfully. -/
  | retry {s s' l} (id : B) : s.receivedFailedMessageHashes id ≠ 0 →
      s'.blockchainID = s.blockchainID → s'.receivedMessageNonces = s.receivedMessageNonces →
      s'.relayerRewardAddresses = s.relayerRewardAddresses →
      s'.receivedFailedMessageHashes = update s.receivedFailedMessageHashes id 0 →
      s'.receiptQueues = s.receiptQueues → deliveries l = [] → failed l = [] →
      executed l = [id] → DeliveryStep s s' l
  | trans {s₁ s₂ s₃ l₁ l₂} : DeliveryStep s₁ s₂ l₁ → DeliveryStep s₂ s₃ l₂ →
      DeliveryStep s₁ s₃ (l₁ ++ l₂)

variable {ctx}

theorem DeliveryStep.of_eq {s s' : State B} {l : List (Log B)}
    (hb : s'.blockchainID = s.blockchainID) (hn : s'.receivedMessageNonces = s.receivedMessageNonces)
    (ha : s'.relayerRewardAddresses = s.relayerRewardAddresses)
    (hf : s'.receivedFailedMessageHashes = s.receivedFailedMessageHashes)
    (hq : s'.receiptQueues = s.receiptQueues) (hl : Quiet l) : DeliveryStep ctx s s' l :=
  .frame (.inl hb) hn ha hf (fun _ _ h => hq ▸ h) hl

theorem DeliveryStep.nonce_stable {s s' : State B} {l : List (Log B)} (h : DeliveryStep ctx s s' l)
    {m : B} (hm : s.receivedMessageNonces m ≠ 0) :
    s'.receivedMessageNonces m = s.receivedMessageNonces m := by
  induction h with
  | frame _ h2 => rw [h2]
  | deliver _ _ _ _ h0 _ _ h5 =>
    rw [h5, update_of_ne]
    rintro rfl
    exact hm h0
  | retry _ _ _ h3 => rw [h3]
  | trans _ _ ih₁ ih₂ => rw [ih₂ (by rwa [ih₁ hm]), ih₁ hm]

/-! ## The invariant -/

/-- How the receive records of a state stand to the log of the run that reached it. -/
structure DeliveryInv (ctx : Context B) (s : State B) (l : List (Log B)) : Prop where
  blockchainID : s.blockchainID = 0 ∨ s.blockchainID = ctx.chainID
  no_deliveries : s.blockchainID = 0 → deliveries l = []
  delivery_id : ∀ d ∈ deliveries l,
    d.1 = calculateMessageID ctx d.2.1 s.blockchainID d.2.2.receivedMessageNonce
  delivery_nonce : ∀ d ∈ deliveries l,
    s.receivedMessageNonces d.1 = d.2.2.receivedMessageNonce ∧ d.2.2.receivedMessageNonce ≠ 0
  received_nodup : (received l).Nodup
  received_of_nonce : ∀ m, s.receivedMessageNonces m ≠ 0 → m ∈ received l
  executed_nodup : (executed l).Nodup
  executed_received : ∀ m ∈ executed l, m ∈ received l
  failed_nodup : (failed l).Nodup
  failed_received : ∀ m ∈ failed l, m ∈ received l
  failed_hash : ∀ m, s.receivedFailedMessageHashes m ≠ 0 ↔ m ∈ failed l ∧ m ∉ executed l
  queues : ∀ src, History (s.receiptQueues src) (enqueued src l)
  reward_address : ∀ d ∈ deliveries l,
    s.relayerRewardAddresses d.1 = d.2.2.relayerRewardAddress
  reward_address_zero : ∀ m, m ∉ received l → s.relayerRewardAddresses m = 0

theorem deliveryInv_init : DeliveryInv ctx (State.init : State B) [] where
  blockchainID := .inl rfl
  no_deliveries _ := rfl
  delivery_id := by simp [deliveries]
  delivery_nonce := by simp [deliveries]
  received_nodup := by simp [received, deliveries]
  received_of_nonce m h := by simp [State.init] at h
  executed_nodup := by simp [executed]
  executed_received := by simp [executed]
  failed_nodup := by simp [failed]
  failed_received := by simp [failed]
  failed_hash m := by simp [State.init, failed]
  queues _ := History.empty
  reward_address := by simp [deliveries]
  reward_address_zero _ _ := rfl

section
variable {s : State B} {l₀ : List (Log B)}

theorem DeliveryInv.nonce_ne_zero_iff (hi : DeliveryInv ctx s l₀) (m : B) :
    s.receivedMessageNonces m ≠ 0 ↔ m ∈ received l₀ := by
  refine ⟨hi.received_of_nonce m, fun hm => ?_⟩
  obtain ⟨d, hd, rfl⟩ := List.mem_map.1 hm
  rw [(hi.delivery_nonce d hd).1]
  exact (hi.delivery_nonce d hd).2

theorem DeliveryInv.frame {s' : State B} {l : List (Log B)} (hi : DeliveryInv ctx s l₀)
    (hb₀ : s'.blockchainID = s.blockchainID ∨ s.blockchainID = 0 ∧ s'.blockchainID = ctx.chainID)
    (hn : s'.receivedMessageNonces = s.receivedMessageNonces)
    (ha : s'.relayerRewardAddresses = s.relayerRewardAddresses)
    (hf : s'.receivedFailedMessageHashes = s.receivedFailedMessageHashes)
    (hq : ∀ src hist, History (s.receiptQueues src) hist → History (s'.receiptQueues src) hist)
    (hl : Quiet l) : DeliveryInv ctx s' (l₀ ++ l) := by
  obtain ⟨hd, he, hfl⟩ := hl
  have hb : s.blockchainID ≠ 0 → s'.blockchainID = s.blockchainID := fun h0 =>
    hb₀.resolve_right fun h => h0 h.1
  have hr : received (l₀ ++ l) = received l₀ := by simp [received, hd]
  -- with no delivery yet the blockchain ID may change; after one it is fixed
  have hbid : ∀ d ∈ deliveries l₀, s'.blockchainID = s.blockchainID := fun d hd' =>
    hb fun h0 => by simp [hi.no_deliveries h0] at hd'
  refine ⟨?_, fun h0 => ?_, fun d hd' => ?_, fun d hd' => ?_, ?_, fun m hm => ?_, ?_,
    fun m hm => ?_, ?_, fun m hm => ?_, fun m => ?_, fun src => ?_, fun d hd' => ?_,
    fun m hm => ?_⟩
  · rcases hb₀ with hb₀ | ⟨-, hb₀⟩
    · rw [hb₀]; exact hi.blockchainID
    · exact .inr hb₀
  · by_cases hs : s.blockchainID = 0
    · simp [hi.no_deliveries hs, hd]
    · exact absurd ((hb hs).symm.trans h0) hs
  · simp only [deliveries_append, hd, List.append_nil] at hd'
    rw [hbid d hd']
    exact hi.delivery_id d hd'
  · simp only [deliveries_append, hd, List.append_nil] at hd'
    rw [hn]
    exact hi.delivery_nonce d hd'
  · rw [hr]; exact hi.received_nodup
  · rw [hr]; exact hi.received_of_nonce m (by rwa [hn] at hm)
  · simpa [he] using hi.executed_nodup
  · rw [hr]; exact hi.executed_received m (by simpa [he] using hm)
  · simpa [hfl] using hi.failed_nodup
  · rw [hr]; exact hi.failed_received m (by simpa [hfl] using hm)
  · simpa [hf, he, hfl] using hi.failed_hash m
  · have : enqueued src (l₀ ++ l) = enqueued src l₀ := by simp [enqueued, hd]
    rw [this]
    exact hq src _ (hi.queues src)
  · simp only [deliveries_append, hd, List.append_nil] at hd'
    rw [ha]; exact hi.reward_address d hd'
  · rw [hr] at hm
    rw [ha]; exact hi.reward_address_zero m hm

theorem DeliveryInv.retry {s' : State B} {l : List (Log B)} (hi : DeliveryInv ctx s l₀) {id : B}
    (h0 : s.receivedFailedMessageHashes id ≠ 0) (hb : s'.blockchainID = s.blockchainID)
    (hn : s'.receivedMessageNonces = s.receivedMessageNonces)
    (ha : s'.relayerRewardAddresses = s.relayerRewardAddresses)
    (hf : s'.receivedFailedMessageHashes = update s.receivedFailedMessageHashes id 0)
    (hq : s'.receiptQueues = s.receiptQueues) (hd : deliveries l = []) (hfl : failed l = [])
    (he : executed l = [id]) : DeliveryInv ctx s' (l₀ ++ l) := by
  obtain ⟨hfail, hnexec⟩ := (hi.failed_hash id).1 h0
  have hr : received (l₀ ++ l) = received l₀ := by simp [received, hd]
  refine ⟨by rw [hb]; exact hi.blockchainID, fun h => ?_, fun d hd' => ?_, fun d hd' => ?_, ?_,
    fun m hm => ?_, ?_, fun m hm => ?_, ?_, fun m hm => ?_, fun m => ?_, fun src => ?_,
    fun d hd' => ?_, fun m hm => ?_⟩
  · rw [hb] at h; simpa [hd] using hi.no_deliveries h
  · simp only [deliveries_append, hd, List.append_nil] at hd'
    rw [hb]; exact hi.delivery_id d hd'
  · simp only [deliveries_append, hd, List.append_nil] at hd'
    rw [hn]; exact hi.delivery_nonce d hd'
  · rw [hr]; exact hi.received_nodup
  · rw [hr]; exact hi.received_of_nonce m (by rwa [hn] at hm)
  · -- the retried message had not been executed
    rw [executed_append, he]
    exact hi.executed_nodup.append (List.nodup_singleton id) (by simpa using hnexec)
  · rw [hr]
    rw [executed_append, he, List.mem_append, List.mem_singleton] at hm
    rcases hm with hm | rfl
    · exact hi.executed_received m hm
    · exact hi.failed_received _ hfail
  · simpa [hfl] using hi.failed_nodup
  · rw [hr]; exact hi.failed_received m (by simpa [hfl] using hm)
  · rw [hf]
    by_cases hm : m = id
    · subst hm; simp [he]
    · simpa [update_of_ne hm, he, hfl, hm] using hi.failed_hash m
  · rw [hq, enqueued_append]
    simpa [enqueued, hd] using hi.queues src
  · simp only [deliveries_append, hd, List.append_nil] at hd'
    rw [ha]; exact hi.reward_address d hd'
  · rw [hr] at hm
    rw [ha]; exact hi.reward_address_zero m hm

theorem DeliveryInv.deliver {s' : State B} {l : List (Log B)} (hi : DeliveryInv ctx s l₀)
    {src : B} {receipt : TeleporterMessageReceipt} {queue : TeleporterMessageReceiptQueue}
    (hb0 : s.blockchainID ≠ 0)
    (h0 : s.receivedMessageNonces
      (calculateMessageID ctx src s.blockchainID receipt.receivedMessageNonce) = 0)
    (hnz : receipt.receivedMessageNonce ≠ 0) (hb : s'.blockchainID = s.blockchainID)
    (hn : s'.receivedMessageNonces = update s.receivedMessageNonces
      (calculateMessageID ctx src s.blockchainID receipt.receivedMessageNonce)
      receipt.receivedMessageNonce)
    (ha : s'.relayerRewardAddresses = (if receipt.relayerRewardAddress ≠ 0 then
        update s.relayerRewardAddresses
          (calculateMessageID ctx src s.blockchainID receipt.receivedMessageNonce)
          receipt.relayerRewardAddress
      else s.relayerRewardAddresses))
    (henq : enqueue (s.receiptQueues src) receipt = .ok queue)
    (hq : s'.receiptQueues = update s.receiptQueues src queue)
    (hd : deliveries l =
      [(calculateMessageID ctx src s.blockchainID receipt.receivedMessageNonce, src, receipt)])
    (hx : (s'.receivedFailedMessageHashes = s.receivedFailedMessageHashes ∧ failed l = [] ∧
        (executed l = [] ∨ executed l =
          [calculateMessageID ctx src s.blockchainID receipt.receivedMessageNonce])) ∨
      (∃ h, h ≠ 0 ∧ s'.receivedFailedMessageHashes = update s.receivedFailedMessageHashes
          (calculateMessageID ctx src s.blockchainID receipt.receivedMessageNonce) h ∧
        failed l = [calculateMessageID ctx src s.blockchainID receipt.receivedMessageNonce] ∧
        executed l = [])) :
    DeliveryInv ctx s' (l₀ ++ l) := by
  set id := calculateMessageID ctx src s.blockchainID receipt.receivedMessageNonce with hid
  -- the message is new: not delivered, so neither executed nor failed
  have hnew : id ∉ received l₀ := fun hm => (hi.nonce_ne_zero_iff id).2 hm h0
  have hnexec : id ∉ executed l₀ := fun hm => hnew (hi.executed_received id hm)
  have hnfail : id ∉ failed l₀ := fun hm => hnew (hi.failed_received id hm)
  have hr : received (l₀ ++ l) = received l₀ ++ [id] := by simp [received, hd]
  -- the reward address is written at the new message only
  have ha' : ∀ k, k ≠ id → s'.relayerRewardAddresses k = s.relayerRewardAddresses k := by
    intro k hk
    rw [ha]
    split
    · exact update_of_ne hk _ _
    · rfl
  refine ⟨by rw [hb]; exact hi.blockchainID, fun h => absurd (hb ▸ h) hb0, fun d hd' => ?_, fun d hd' => ?_, ?_, fun m hm => ?_,
    ?_, fun m hm => ?_, ?_, fun m hm => ?_, fun m => ?_, fun src' => ?_, fun d hd' => ?_,
    fun m hm => ?_⟩
  · rw [hb]
    simp only [deliveries_append, hd, List.mem_append, List.mem_singleton] at hd'
    rcases hd' with hd' | rfl
    · exact hi.delivery_id d hd'
    · rfl
  · simp only [deliveries_append, hd, List.mem_append, List.mem_singleton] at hd'
    rw [hn]
    rcases hd' with hd' | rfl
    · have hne : d.1 ≠ id := fun he => hnew (he ▸ List.mem_map_of_mem hd')
      rw [update_of_ne hne]
      exact hi.delivery_nonce d hd'
    · exact ⟨update_self .., hnz⟩
  · rw [hr]
    exact hi.received_nodup.append (List.nodup_singleton id) (by simpa using hnew)
  · rw [hr, List.mem_append, List.mem_singleton]
    rw [hn] at hm
    by_cases he : m = id
    · exact .inr he
    · exact .inl (hi.received_of_nonce m (by rwa [update_of_ne he] at hm))
  · rw [executed_append]
    rcases hx with ⟨-, -, he | he⟩ | ⟨_, -, -, -, he⟩ <;> rw [he]
    · simpa using hi.executed_nodup
    · exact hi.executed_nodup.append (List.nodup_singleton id) (by simpa using hnexec)
    · simpa using hi.executed_nodup
  · rw [hr, List.mem_append]
    rw [executed_append, List.mem_append] at hm
    rcases hm with hm | hm
    · exact .inl (hi.executed_received m hm)
    · rcases hx with ⟨-, -, he | he⟩ | ⟨_, -, -, -, he⟩ <;> simp_all
  · rw [failed_append]
    rcases hx with ⟨-, hf, -⟩ | ⟨_, -, -, hf, -⟩ <;> rw [hf]
    · simpa using hi.failed_nodup
    · exact hi.failed_nodup.append (List.nodup_singleton id) (by simpa using hnfail)
  · rw [hr, List.mem_append]
    rw [failed_append, List.mem_append] at hm
    rcases hm with hm | hm
    · exact .inl (hi.failed_received m hm)
    · rcases hx with ⟨-, hf, -⟩ | ⟨_, -, -, hf, -⟩ <;> simp_all
  · -- the new message has a failed hash exactly when its first execution failed
    have hold : s.receivedFailedMessageHashes id = 0 := by
      by_contra h
      exact hnfail ((hi.failed_hash id).1 h).1
    rw [failed_append, executed_append, List.mem_append, List.mem_append]
    rcases hx with ⟨hf, hfl, he⟩ | ⟨h, hh, hf, hfl, he⟩
    · rw [hf, hfl]
      by_cases hm : m = id
      · subst hm
        rcases he with he | he <;> simp [he, hold, hnfail]
      · rcases he with he | he <;> simpa [he, hm] using hi.failed_hash m
    · rw [hf, hfl, he]
      by_cases hm : m = id
      · subst hm
        simp [hh, hnexec]
      · simpa [update_of_ne hm, hm] using hi.failed_hash m
  · rw [hq, enqueued_append]
    by_cases hs : src' = src
    · subst hs
      rw [update_self]
      simpa [enqueued, hd] using (hi.queues src').enqueue henq
    · rw [update_of_ne hs]
      simpa [enqueued, hd, Ne.symm hs] using hi.queues src'
  · simp only [deliveries_append, hd, List.mem_append, List.mem_singleton] at hd'
    rcases hd' with hd' | rfl
    · have hne : d.1 ≠ id := fun he => hnew (he ▸ List.mem_map_of_mem hd')
      rw [ha' _ hne]
      exact hi.reward_address d hd'
    · -- a zero reward address is not written, and was zero already
      rw [ha]
      split
      · exact update_self ..
      · rename_i hz
        rw [hi.reward_address_zero id hnew]
        exact (not_not.1 hz).symm
  · rw [hr, List.mem_append, List.mem_singleton, not_or] at hm
    rw [ha' m hm.2]
    exact hi.reward_address_zero m hm.1

end

theorem DeliveryStep.inv {s s' : State B} {l : List (Log B)} (h : DeliveryStep ctx s s' l) :
    ∀ {l₀}, DeliveryInv ctx s l₀ → DeliveryInv ctx s' (l₀ ++ l) := by
  induction h with
  | frame h1 h2 h3 h4 h5 h6 => exact fun hi => hi.frame h1 h2 h3 h4 h5 h6
  | deliver _ _ _ h1 h2 h3 h4 h5 h6 h7 h8 h9 h10 =>
    exact fun hi => hi.deliver h1 h2 h3 h4 h5 h6 h7 h8 h9 h10
  | retry _ h1 h2 h3 h4 h5 h6 h7 h8 h9 => exact fun hi => hi.retry h1 h2 h3 h4 h5 h6 h7 h8 h9
  | trans _ _ ih₁ ih₂ => exact fun hi => by rw [← List.append_assoc]; exact ih₂ (ih₁ hi)

/-! ## Every entry point is a delivery step -/

section
variable {s s' : State B} {l : List (Log B)}

omit [DecidableEq B] [Zero B] in
theorem quiet_nil : Quiet ([] : List (Log B)) := by simp [Quiet, deliveries, executed, failed]

theorem initializeBlockchainID_deliveryStep (h : initializeBlockchainID ctx s = .ok (s', l)) :
    DeliveryStep ctx s s' l := by
  obtain ⟨hs, -, hkeep, hinit, hl⟩ := initializeBlockchainID_eq_ok ctx h
  have hb : s'.blockchainID = s.blockchainID ∨ s.blockchainID = 0 ∧ s'.blockchainID = ctx.chainID := by
    by_cases h0 : s.blockchainID = 0
    · exact .inr ⟨h0, hinit h0⟩
    · exact .inl (hkeep h0)
  refine .frame hb (by rw [hs]) (by rw [hs]) (by rw [hs]) (fun _ _ hq => by rw [hs]; exact hq) ?_
  rcases hl with rfl | rfl <;> simp [Quiet, deliveries, executed, failed]

theorem sendTeleporterMessage_deliveryStep {sender : Address} {mi : TeleporterMessageInput B}
    {rs : List TeleporterMessageReceipt} {amount : ℕ} {id : B}
    (h : sendTeleporterMessage ctx s sender mi rs amount = .ok (id, s', l)) :
    DeliveryStep ctx s s' l := by
  obtain ⟨b, adj, l₁, l₂, h1, h2, -, -, rfl, rfl⟩ := sendTeleporterMessage_eq_ok ctx h
  obtain ⟨-, -, hkeep, hinit, hl₁⟩ := initializeBlockchainID_eq_ok ctx h1
  have hb : b = s.blockchainID ∨ s.blockchainID = 0 ∧ b = ctx.chainID := by
    by_cases h0 : s.blockchainID = 0
    · exact .inr ⟨h0, hinit h0⟩
    · exact .inl (hkeep h0)
  refine .frame hb rfl rfl rfl (fun _ _ hq => hq) ?_
  rcases transferFee_eq_ok h2 with ⟨-, -, rfl⟩ | ⟨-, -, -, -, rfl⟩ <;>
    rcases hl₁ with rfl | rfl <;> simp [Quiet, deliveries, executed, failed]

theorem sendCrossChainMessage_deliveryStep {sender : Address} {mi : TeleporterMessageInput B}
    {amount : ℕ} (h : sendCrossChainMessage ctx s sender mi amount = .ok (s', l)) :
    DeliveryStep ctx s s' l := by
  obtain ⟨_, queue, _, h1, h2⟩ := sendCrossChainMessage_eq_ok ctx h
  -- taking the outstanding receipts keeps the queue's history
  have hq : DeliveryStep ctx s
      { s with receiptQueues := update s.receiptQueues mi.destinationBlockchainID queue } [] := by
    refine .frame (.inl rfl) rfl rfl rfl (fun src hist hq => ?_) quiet_nil
    by_cases hs : src = mi.destinationBlockchainID
    · subst hs
      simpa using (hq.getOutstanding h1).1
    · simpa [update_of_ne hs] using hq
  simpa using hq.trans (sendTeleporterMessage_deliveryStep h2)

/-- The receive records of a state, as one value. -/
def receiveRecords (s : State B) :=
  (s.blockchainID, s.receiptQueues, s.receivedMessageNonces, s.relayerRewardAddresses,
    s.receivedFailedMessageHashes)

theorem markReceipts_delivery {src dst : B} {receipts : List TeleporterMessageReceipt}
    (h : markReceipts ctx src dst receipts s = .ok (s', l)) :
    receiveRecords s' = receiveRecords s ∧ Quiet l :=
  markReceipts_induction ctx (fun s s' l => receiveRecords s' = receiveRecords s ∧ Quiet l)
    (fun _ => ⟨rfl, quiet_nil⟩)
    (fun _ _ _ _ h => by
      rcases markReceipt_eq_ok ctx h with ⟨-, rfl, rfl⟩ | ⟨-, -, rfl, rfl⟩
      · exact ⟨rfl, quiet_nil⟩
      · exact ⟨rfl, by simp [Quiet, deliveries, executed, failed]⟩)
    (fun _ _ _ _ _ h₁ h₂ => ⟨h₂.1.trans h₁.1, h₁.2.append h₂.2⟩)
    receipts s s' l h

/-- `_handleInitialMessageExecution` either calls the destination successfully, or stores the
message's (non-zero) hash as failed. -/
theorem handleInitialMessageExecution_delivery (hne : MessageHashNonzero ctx) {id src : B}
    {m : TeleporterMessage B} {execution : Execution}
    (h : handleInitialMessageExecution ctx s id src m execution = .ok (s', l)) :
    s'.blockchainID = s.blockchainID ∧ s'.receivedMessageNonces = s.receivedMessageNonces ∧
      s'.relayerRewardAddresses = s.relayerRewardAddresses ∧
      s'.receiptQueues = s.receiptQueues ∧ deliveries l = [] ∧
      ((s'.receivedFailedMessageHashes = s.receivedFailedMessageHashes ∧ failed l = [] ∧
          executed l = [id]) ∨
        (∃ h, h ≠ 0 ∧ s'.receivedFailedMessageHashes = update s.receivedFailedMessageHashes id h ∧
          failed l = [id] ∧ executed l = [])) := by
  obtain ⟨-, ⟨-, -, rfl, rfl⟩ | ⟨-, he⟩⟩ := handleInitialMessageExecution_eq_ok ctx h
  · simp [deliveries, failed, executed]
  · simp only [storeFailedMessageExecution, Prod.mk.injEq] at he
    obtain ⟨rfl, rfl⟩ := he
    exact ⟨rfl, rfl, rfl, rfl, by simp [deliveries],
      .inr ⟨_, hne m, rfl, by simp [failed], by simp [executed]⟩⟩

theorem receiveCrossChainMessage_deliveryStep (hne : MessageHashNonzero ctx)
    {sender relayerRewardAddress : Address} {warpMessage : Option (WarpMessage B)}
    {execution : Execution}
    (h : receiveCrossChainMessage ctx s sender warpMessage relayerRewardAddress execution =
      .ok (s', l)) : DeliveryStep ctx s s' l := by
  obtain ⟨w, s₁, l₁, s₂, s₄, l₂, queue, -, -, h1, -, hrecv, -, h2, h3, h5, h4⟩ :=
    receiveCrossChainMessage_eq_ok ctx h
  obtain ⟨-, hb₁, -, -, -⟩ := initializeBlockchainID_eq_ok ctx h1
  obtain ⟨hnz, rfl⟩ := markMessageReceived_eq_ok h2
  -- recording the reward address and settling the carried receipts touch no receive record
  obtain ⟨s₃, h3, hb₃, hq₃, hn₃, ha₃, hf₃⟩ : ∃ s₃,
      markReceipts ctx s₁.blockchainID w.sourceChainID w.payload.receipts s₃ = .ok (s₄, l₂) ∧
      s₃.blockchainID = s₁.blockchainID ∧ s₃.receiptQueues = s₁.receiptQueues ∧
      s₃.receivedMessageNonces = update s₁.receivedMessageNonces
        (calculateMessageID ctx w.sourceChainID s₁.blockchainID w.payload.messageNonce)
        w.payload.messageNonce ∧
      s₃.relayerRewardAddresses = (if relayerRewardAddress ≠ 0 then
          update s₁.relayerRewardAddresses
            (calculateMessageID ctx w.sourceChainID s₁.blockchainID w.payload.messageNonce)
            relayerRewardAddress
        else s₁.relayerRewardAddresses) ∧
      s₃.receivedFailedMessageHashes = s₁.receivedFailedMessageHashes :=
    ⟨_, h3, by split <;> rfl, by split <;> rfl, by split <;> rfl, by split_ifs <;> rfl,
      by split <;> rfl⟩
  obtain ⟨hr₄, hl₂⟩ := markReceipts_delivery h3
  simp only [receiveRecords, Prod.mk.injEq] at hr₄
  obtain ⟨hb₄, hq₄, hn₄, ha₄, hf₄⟩ := hr₄
  -- after the receipt is queued the message is executed, or not when it is empty
  obtain ⟨l₄, rfl, hb', hn', ha', hq', hd₄, hx⟩ : ∃ l₄,
      l = l₁ ++ l₂ ++ [Log.receiveCrossChainMessage
        (calculateMessageID ctx w.sourceChainID s₁.blockchainID w.payload.messageNonce)
        w.sourceChainID sender relayerRewardAddress w.payload] ++ l₄ ∧
      s'.blockchainID = s₄.blockchainID ∧ s'.receivedMessageNonces = s₄.receivedMessageNonces ∧
      s'.relayerRewardAddresses = s₄.relayerRewardAddresses ∧
      s'.receiptQueues = update s₄.receiptQueues w.sourceChainID queue ∧ deliveries l₄ = [] ∧
      ((s'.receivedFailedMessageHashes = s₄.receivedFailedMessageHashes ∧ failed l₄ = [] ∧
          (executed l₄ = [] ∨ executed l₄ =
            [calculateMessageID ctx w.sourceChainID s₁.blockchainID w.payload.messageNonce])) ∨
        (∃ h, h ≠ 0 ∧ s'.receivedFailedMessageHashes = update s₄.receivedFailedMessageHashes
            (calculateMessageID ctx w.sourceChainID s₁.blockchainID w.payload.messageNonce) h ∧
          failed l₄ = [calculateMessageID ctx w.sourceChainID s₁.blockchainID
            w.payload.messageNonce] ∧ executed l₄ = [])) := by
    rcases h4 with ⟨-, rfl, rfl⟩ | ⟨-, l₄, h6, rfl⟩
    · exact ⟨[], by simp, rfl, rfl, rfl, rfl, rfl, .inl ⟨rfl, rfl, .inl rfl⟩⟩
    · obtain ⟨hb, hn, ha, hq, hd, hx⟩ := handleInitialMessageExecution_delivery hne h6
      refine ⟨l₄, rfl, hb, hn, ha, hq, hd, ?_⟩
      rcases hx with ⟨hf, hfl, he⟩ | hx
      · exact .inl ⟨hf, hfl, .inr he⟩
      · exact .inr hx
  have hf₁ : s₄.receivedFailedMessageHashes = s₁.receivedFailedMessageHashes := hf₄.trans hf₃
  have hd : DeliveryStep ctx s₁ s' (l₂ ++ [Log.receiveCrossChainMessage
      (calculateMessageID ctx w.sourceChainID s₁.blockchainID w.payload.messageNonce)
      w.sourceChainID sender relayerRewardAddress w.payload] ++ l₄) := by
    refine .deliver w.sourceChainID ⟨w.payload.messageNonce, relayerRewardAddress⟩ queue hb₁
      (by simpa [messageReceived] using hrecv) hnz (hb'.trans (hb₄.trans hb₃))
      (hn'.trans (hn₄.trans hn₃)) (ha'.trans (ha₄.trans ha₃)) (by rw [← hq₃, ← hq₄]; exact h5)
      (by rw [hq', hq₄, hq₃]) (by rw [deliveries_append, deliveries_append, hl₂.1, hd₄]; rfl) ?_
    -- the receive event itself records neither an execution nor a failure
    rw [failed_append, failed_append, executed_append, executed_append, hl₂.2.1, hl₂.2.2]
    rcases hx with ⟨hf, hfl, he⟩ | ⟨h, hh, hf, hfl, he⟩
    · refine .inl ⟨hf.trans hf₁, by rw [hfl]; rfl, ?_⟩
      rcases he with he | he <;> rw [he]
      · exact .inl rfl
      · exact .inr rfl
    · exact .inr ⟨h, hh, by rw [hf, hf₁], by rw [hfl]; rfl, by rw [he]; rfl⟩
  simpa only [List.append_assoc] using (initializeBlockchainID_deliveryStep h1).trans hd

theorem step_deliveryStep (hne : MessageHashNonzero ctx) {c : Call B}
    (h : step ctx s c = .ok (s', l)) : DeliveryStep ctx s s' l := by
  cases c with
  | initializeBlockchainID => exact initializeBlockchainID_deliveryStep h
  | sendCrossChainMessage => exact sendCrossChainMessage_deliveryStep h
  | retrySendCrossChainMessage =>
    obtain ⟨-, -, rfl, rfl⟩ := retrySendCrossChainMessage_eq_ok ctx h
    exact .of_eq rfl rfl rfl rfl rfl (by simp [Quiet, deliveries, executed, failed])
  | addFeeAmount =>
    obtain ⟨-, -, -, -, -, -, rfl, rfl⟩ := addFeeAmount_eq_ok h
    exact .of_eq rfl rfl rfl rfl rfl (by simp [Quiet, deliveries, executed, failed])
  | receiveCrossChainMessage => exact receiveCrossChainMessage_deliveryStep hne h
  | retryMessageExecution =>
    obtain ⟨h1, -, -, -, rfl, rfl⟩ := retryMessageExecution_eq_ok ctx h
    exact .retry _ h1 rfl rfl rfl rfl rfl (by simp [deliveries]) (by simp [failed])
      (by simp [executed])
  | sendSpecifiedReceipts =>
    obtain ⟨_, _, -, h2⟩ := sendSpecifiedReceipts_eq_ok ctx h
    exact sendTeleporterMessage_deliveryStep h2
  | redeemRelayerRewards =>
    obtain ⟨-, rfl, rfl⟩ := redeemRelayerRewards_eq_ok h
    exact .of_eq rfl rfl rfl rfl rfl (by simp [Quiet, deliveries, executed, failed])

end

theorem exec_deliveryStep (hne : MessageHashNonzero ctx) {s₀ s : State B}
    {tr : List (Call B × List (Log B))} (h : Exec (step ctx) s₀ tr s) :
    DeliveryStep ctx s₀ s (log tr) := by
  induction h with
  | nil => exact .of_eq rfl rfl rfl rfl rfl quiet_nil
  | snoc _ hc ih =>
    rw [log_snoc]
    exact ih.trans (step_deliveryStep hne hc)

theorem deliveryInv_of_exec (hne : MessageHashNonzero ctx) {s : State B}
    {tr : List (Call B × List (Log B))} (h : Exec (step ctx) State.init tr s) :
    DeliveryInv ctx s (log tr) := by
  simpa using (exec_deliveryStep hne h).inv deliveryInv_init

/-- The receipts queued for `src` with a given nonce are those of the one message with that
nonce from `src`. -/
theorem DeliveryInv.countP_enqueued (hinj : IDInjective ctx) {s : State B} {l : List (Log B)}
    (hi : DeliveryInv ctx s l) (src : B) (nonce : ℕ) :
    (enqueued src l).countP (fun r => r.receivedMessageNonce = nonce) =
      (received l).count (calculateMessageID ctx src s.blockchainID nonce) := by
  simp only [enqueued, received, List.countP_map, List.countP_filter, List.count, List.countP_map]
  refine List.countP_congr fun d hd => ?_
  have hid := hi.delivery_id d hd
  simp only [Function.comp_apply, Bool.and_eq_true, decide_eq_true_eq, beq_iff_eq]
  constructor
  · rintro ⟨rfl, rfl⟩
    exact hid
  · intro he
    obtain ⟨hs, -, hn⟩ := calculateMessageID_inj hinj (hid.symm.trans he)
    exact ⟨hn, hs⟩

/-- Each message is delivered, queued for acknowledgement and executed at most once: along every
run from fresh storage, for the message `m` with nonce `nonce` from `src`,
(a) its received nonce, once set, is `nonce` and never changes, and it is set exactly when `m`
was delivered, at most once;
(b) the queue for `src` holds the receipts of the deliveries from `src`, and exactly one of them
has `nonce` if `m` was received, none otherwise;
(c) the destination is called successfully for `m` at most once, and `m` has a failed hash
exactly when it was received, its execution failed, and no retry succeeded. -/
theorem message_delivered_at_most_once (hinj : IDInjective ctx) (hne : MessageHashNonzero ctx)
    {tr : List (Call B × List (Log B))} {s : State B} (h : Exec (step ctx) State.init tr s)
    (src : B) (nonce : ℕ) :
    let m := calculateMessageID ctx src s.blockchainID nonce
    (s.receivedMessageNonces m ≠ 0 → s.receivedMessageNonces m = nonce ∧
      ∀ tr' s', Exec (step ctx) s tr' s' →
        s'.receivedMessageNonces m = s.receivedMessageNonces m) ∧
    (received (log tr)).count m ≤ 1 ∧
    (s.receivedMessageNonces m ≠ 0 ↔ m ∈ received (log tr)) ∧
    History (s.receiptQueues src) (enqueued src (log tr)) ∧
    (enqueued src (log tr)).countP (fun r => r.receivedMessageNonce = nonce) =
      (if s.receivedMessageNonces m ≠ 0 then 1 else 0) ∧
    (executed (log tr)).count m ≤ 1 ∧
    (s.receivedFailedMessageHashes m ≠ 0 ↔
      s.receivedMessageNonces m ≠ 0 ∧ m ∈ failed (log tr) ∧ m ∉ executed (log tr)) := by
  intro m
  have hi := deliveryInv_of_exec hne h
  have hrec := hi.nonce_ne_zero_iff m
  refine ⟨fun hm => ⟨?_, fun tr' s' h' => (exec_deliveryStep hne h').nonce_stable hm⟩,
    List.nodup_iff_count_le_one.1 hi.received_nodup m, hrec, hi.queues src, ?_,
    List.nodup_iff_count_le_one.1 hi.executed_nodup m, ?_⟩
  · -- the delivery that set the nonce was of this very message
    obtain ⟨d, hd, hdm⟩ := List.mem_map.1 (hrec.1 hm)
    obtain ⟨-, -, hn⟩ := calculateMessageID_inj hinj ((hi.delivery_id d hd).symm.trans hdm)
    rw [← hdm, (hi.delivery_nonce d hd).1, hn]
  · rw [hi.countP_enqueued hinj]
    by_cases hm : s.receivedMessageNonces m ≠ 0
    · rw [if_pos hm, List.count_eq_one_of_mem hi.received_nodup (hrec.1 hm)]
    · rw [if_neg hm, List.count_eq_zero_of_not_mem fun h => hm (hrec.2 h)]
  · rw [hi.failed_hash m]
    exact ⟨fun ⟨hf, he⟩ => ⟨hrec.2 (hi.failed_received m hf), hf, he⟩,
      fun ⟨_, hf, he⟩ => ⟨hf, he⟩⟩

/-- A run that receives `sampleReply`, whose execution fails, and retries it successfully. -/
theorem message_delivered_at_most_once_ideal :
    ∃ (tr : List (Call ℕ × List (Log ℕ))) (s : State ℕ),
      Exec (step (idealContext 1 7)) State.init tr s ∧
      let m := calculateMessageID (idealContext 1 7) 9 s.blockchainID 1
      received (log tr) = [m] ∧ failed (log tr) = [m] ∧ executed (log tr) = [m] ∧
      (s.receivedMessageNonces m ≠ 0 → s.receivedMessageNonces m = 1 ∧
        ∀ tr' s', Exec (step (idealContext 1 7)) s tr' s' →
          s'.receivedMessageNonces m = s.receivedMessageNonces m) ∧
      (received (log tr)).count m ≤ 1 ∧
      (s.receivedMessageNonces m ≠ 0 ↔ m ∈ received (log tr)) ∧
      History (s.receiptQueues 9) (enqueued 9 (log tr)) ∧
      (enqueued 9 (log tr)).countP (fun r => r.receivedMessageNonce = 1) =
        (if s.receivedMessageNonces m ≠ 0 then 1 else 0) ∧
      (executed (log tr)).count m ≤ 1 ∧
      (s.receivedFailedMessageHashes m ≠ 0 ↔
        s.receivedMessageNonces m ≠ 0 ∧ m ∈ failed (log tr) ∧ m ∉ executed (log tr)) := by
  have h := (Contract.Exec.nil State.init).snoc (show step (idealContext 1 7) _
    .initializeBlockchainID = Except.ok (_, _) from rfl)
  have h := h.snoc (show step (idealContext 1 7) _
    (.receiveCrossChainMessage 0xD (some sampleReply) 0xD ⟨true, true, false⟩)
      = Except.ok (_, _) from rfl)
  have h := h.snoc (show step (idealContext 1 7) _
    (.retryMessageExecution 9 sampleReply.payload true true) = Except.ok (_, _) from rfl)
  exact ⟨_, _, h, rfl, rfl, rfl, message_delivered_at_most_once (idealContext_idInjective 1 7)
    (idealContext_messageHashNonzero 1 7) h 9 1⟩

end Teleporter
