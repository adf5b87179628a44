import IcmServices.Teleporter.Spec

/-!
# The receipt queue is a FIFO

`ReceiptQueue` keeps its receipts in storage slots `data[first] … data[last - 1]`.
`contents` reads them as a list, the abstract FIFO the library stands for, and the lemmas below
are the refinement: `enqueue` appends, `dequeue` pops the head, and
`getOutstandingReceiptsToSend` returns the oldest `min 5 size` receipts and leaves the rest.

`History q hist` says more: the queue has seen `hist` enqueued since fresh storage, and holds its
suffix from `first` on. Enqueuing extends the history and draining keeps it; the messenger's
receipt invariants are stated through it.
-/

namespace Teleporter

open Solidity Function

namespace ReceiptQueue

/-- The receipts a queue holds, oldest first. -/
def contents (queue : TeleporterMessageReceiptQueue) : List TeleporterMessageReceipt :=
  (List.range (queue.last - queue.first)).map fun i => queue.data (queue.first + i)

@[simp] theorem length_contents (queue : TeleporterMessageReceiptQueue) :
    (contents queue).length = queue.last - queue.first := by
  simp [contents]

@[simp] theorem contents_empty : contents empty = [] := rfl

theorem contents_enqueue (queue : TeleporterMessageReceiptQueue)
    (receipt : TeleporterMessageReceipt) (h : queue.first ≤ queue.last) :
    contents { queue with data := update queue.data queue.last receipt, last := queue.last + 1 } =
      contents queue ++ [receipt] := by
  simp only [contents, Nat.sub_add_comm h, List.range_succ, List.map_append, List.map_cons,
    List.map_nil]
  congr 1
  · refine List.map_congr_left fun i hi => ?_
    rw [List.mem_range] at hi
    exact update_of_ne (by omega) _ _
  · rw [Nat.add_sub_cancel' h, update_self]

theorem contents_dequeue (queue : TeleporterMessageReceiptQueue) (h : queue.first < queue.last) :
    contents queue = queue.data queue.first ::
      contents { queue with
        data := update queue.data queue.first default
        first := queue.first + 1 } := by
  obtain ⟨k, hk⟩ : ∃ k, queue.last - queue.first = k + 1 := ⟨_, (Nat.succ_pred_eq_of_pos
    (Nat.sub_pos_of_lt h)).symm⟩
  have hk' : queue.last - (queue.first + 1) = k := by omega
  simp only [contents, hk, hk', List.range_succ_eq_map, List.map_cons, List.map_map]
  refine congrArg₂ _ (by simp) (List.map_congr_left fun i _ => ?_)
  simp only [Function.comp_apply]
  rw [update_of_ne (by omega)]
  congr 1
  omega

theorem contents_of_enqueue {queue queue' : TeleporterMessageReceiptQueue}
    {receipt : TeleporterMessageReceipt} (h : enqueue queue receipt = .ok queue')
    (hfl : queue.first ≤ queue.last) :
    queue'.first = queue.first ∧ queue'.last = queue.last + 1 ∧
      contents queue' = contents queue ++ [receipt] := by
  obtain ⟨-, rfl⟩ := enqueue_eq_ok h
  exact ⟨rfl, rfl, contents_enqueue queue receipt hfl⟩

theorem enqueue_isOk_iff (queue : TeleporterMessageReceiptQueue)
    (receipt : TeleporterMessageReceipt) :
    (∃ queue', enqueue queue receipt = .ok queue') ↔ queue.last + 1 < 2 ^ 256 := by
  simp only [enqueue, bind_eq_ok, checkedAdd_eq_ok, pure_eq_ok]
  constructor
  · rintro ⟨_, _, ⟨h, -⟩, -⟩
    exact h
  · intro h
    exact ⟨_, _, ⟨h, rfl⟩, rfl⟩

theorem dequeue_eq_ok {queue queue' : TeleporterMessageReceiptQueue}
    {receipt : TeleporterMessageReceipt} (h : dequeue queue = .ok (receipt, queue'))
    (hfl : queue.first ≤ queue.last) :
    queue.first < queue.last ∧ queue'.first = queue.first + 1 ∧ queue'.last = queue.last ∧
      contents queue = receipt :: contents queue' := by
  simp only [dequeue, bind_eq_ok, require_eq_ok, checkedAdd_eq_ok, pure_eq_ok,
    Prod.mk.injEq] at h
  obtain ⟨_, hne, _, ⟨-, rfl⟩, rfl, rfl⟩ := h
  have hlt : queue.first < queue.last := by omega
  exact ⟨hlt, rfl, rfl, contents_dequeue queue hlt⟩

theorem dequeueLoop_eq_ok : ∀ {n : ℕ} {queue queue' : TeleporterMessageReceiptQueue}
    {receipts : List TeleporterMessageReceipt},
    dequeueLoop n queue = .ok (receipts, queue') → queue.first ≤ queue.last →
      queue'.first = queue.first + n ∧ queue'.last = queue.last ∧ receipts.length = n ∧
        contents queue = receipts ++ contents queue'
  | 0, _, _, _, h, _ => by
    simp only [dequeueLoop, pure_eq_ok, Prod.mk.injEq] at h
    obtain ⟨rfl, rfl⟩ := h
    simp
  | n + 1, queue, queue', receipts, h, hfl => by
    simp only [dequeueLoop, bind_eq_ok] at h
    obtain ⟨⟨receipt, queue₁⟩, h1, ⟨rs, queue₂⟩, h2, h3⟩ := h
    dsimp only at h2
    simp only [pure_eq_ok, Prod.mk.injEq] at h3
    obtain ⟨rfl, rfl⟩ := h3
    obtain ⟨hlt, hf₁, hl₁, hc₁⟩ := dequeue_eq_ok h1 hfl
    obtain ⟨hf₂, hl₂, hlen, hc₂⟩ := dequeueLoop_eq_ok h2 (by omega)
    refine ⟨by omega, by omega, by simp [hlen], ?_⟩
    rw [hc₁, hc₂, List.cons_append]

/-- `getOutstandingReceiptsToSend` returns the oldest `min 5 size` receipts, in order, and keeps
the rest. -/
theorem getOutstandingReceiptsToSend_eq_ok {queue queue' : TeleporterMessageReceiptQueue}
    {receipts : List TeleporterMessageReceipt}
    (h : getOutstandingReceiptsToSend queue = .ok (receipts, queue'))
    (hfl : queue.first ≤ queue.last) :
    queue'.first = queue.first + receipts.length ∧ queue'.last = queue.last ∧
      receipts.length = min maximumReceiptCount (queue.last - queue.first) ∧
      contents queue = receipts ++ contents queue' := by
  simp only [getOutstandingReceiptsToSend, size, bind_eq_ok, checkedSub_eq_ok] at h
  obtain ⟨_, ⟨-, rfl⟩, h⟩ := h
  split at h
  · rename_i h0
    simp only [pure_eq_ok, Prod.mk.injEq] at h
    obtain ⟨rfl, rfl⟩ := h
    simp [h0]
  · obtain ⟨hf, hl, hlen, hc⟩ := dequeueLoop_eq_ok h hfl
    exact ⟨by rw [hf, hlen], hl, hlen, hc⟩

/-! ## The queue's history -/

/-- The queue has had `hist` enqueued since fresh storage, and holds the part not yet sent. -/
structure History (queue : TeleporterMessageReceiptQueue) (hist : List TeleporterMessageReceipt) :
    Prop where
  first_le : queue.first ≤ queue.last
  last_eq : queue.last = hist.length
  contents_eq : contents queue = hist.drop queue.first

theorem History.empty : History empty [] := ⟨le_rfl, rfl, rfl⟩

theorem History.enqueue {queue queue' : TeleporterMessageReceiptQueue}
    {hist : List TeleporterMessageReceipt} {receipt : TeleporterMessageReceipt}
    (hq : History queue hist) (h : ReceiptQueue.enqueue queue receipt = .ok queue') :
    History queue' (hist ++ [receipt]) := by
  have hfl := hq.first_le
  obtain ⟨hf, hl, hc⟩ := contents_of_enqueue h hfl
  refine ⟨by omega, by simp [hl, hq.last_eq], ?_⟩
  rw [hc, hq.contents_eq, hf, List.drop_append_of_le_length (by rw [← hq.last_eq]; exact hfl)]

/-- Sending receipts keeps the history: what is taken is the oldest part of what is held. -/
theorem History.getOutstanding {queue queue' : TeleporterMessageReceiptQueue}
    {hist receipts : List TeleporterMessageReceipt} (hq : History queue hist)
    (h : getOutstandingReceiptsToSend queue = .ok (receipts, queue')) :
    History queue' hist ∧ receipts = (hist.drop queue.first).take receipts.length := by
  have hfl := hq.first_le
  obtain ⟨hf, hl, hlen, hc⟩ := getOutstandingReceiptsToSend_eq_ok h hfl
  have hle : receipts.length ≤ queue.last - queue.first := by
    rw [hlen]; exact min_le_right _ _
  rw [hq.contents_eq] at hc
  refine ⟨⟨by omega, hl.trans hq.last_eq, ?_⟩, by rw [hc, List.take_left]⟩
  rw [hf, ← List.drop_drop, hc, List.drop_left]

/-! ## Reads and the loop's success -/

theorem size_eq_ok {queue : TeleporterMessageReceiptQueue} (hfl : queue.first ≤ queue.last) :
    size queue = .ok (contents queue).length := by
  rw [length_contents]
  exact checkedSub_eq_ok.2 ⟨hfl, rfl⟩

theorem getReceiptAtIndex_eq_ok {queue : TeleporterMessageReceiptQueue}
    (hfl : queue.first ≤ queue.last) {i : ℕ} (hi : i < (contents queue).length) :
    getReceiptAtIndex queue i = .ok (contents queue)[i] := by
  simp only [getReceiptAtIndex, bind_eq_ok, require_eq_ok, pure_eq_ok]
  refine ⟨_, size_eq_ok hfl, (), hi, ?_⟩
  simp [contents]

/-- Below `2 ^ 256`, `dequeue` runs `n` times on a queue holding at least `n` receipts. -/
theorem dequeueLoop_ok : ∀ (n : ℕ) (queue : TeleporterMessageReceiptQueue),
    n ≤ queue.last - queue.first → queue.last < 2 ^ 256 →
      ∃ receipts queue', dequeueLoop n queue = .ok (receipts, queue')
  | 0, queue, _, _ => ⟨[], queue, rfl⟩
  | n + 1, queue, hn, hl => by
    have hd : dequeue queue = .ok (queue.data queue.first,
        { queue with data := update queue.data queue.first default, first := queue.first + 1 }) := by
      simp only [dequeue, bind_eq_ok, require_eq_ok, checkedAdd_eq_ok, pure_eq_ok]
      exact ⟨(), by omega, _, ⟨by omega, rfl⟩, rfl⟩
    obtain ⟨receipts, queue', hq⟩ := dequeueLoop_ok n
      { queue with data := update queue.data queue.first default, first := queue.first + 1 }
      (by dsimp only; omega) hl
    refine ⟨queue.data queue.first :: receipts, queue', ?_⟩
    simp only [dequeueLoop, bind_eq_ok]
    exact ⟨_, hd, _, hq, rfl⟩

/-- `getOutstandingReceiptsToSend` never reverts on a queue whose indices fit in a word. -/
theorem getOutstandingReceiptsToSend_ok {queue : TeleporterMessageReceiptQueue}
    (hfl : queue.first ≤ queue.last) (hl : queue.last < 2 ^ 256) :
    ∃ receipts queue', getOutstandingReceiptsToSend queue = .ok (receipts, queue') := by
  have hs : size queue = .ok (queue.last - queue.first) := checkedSub_eq_ok.2 ⟨hfl, rfl⟩
  by_cases h0 : min maximumReceiptCount (queue.last - queue.first) = 0
  · refine ⟨[], queue, ?_⟩
    simp only [getOutstandingReceiptsToSend, hs, bind_eq_ok]
    exact ⟨_, rfl, by simp [h0]⟩
  · obtain ⟨receipts, queue', hq⟩ := dequeueLoop_ok
      (min maximumReceiptCount (queue.last - queue.first)) queue (min_le_right _ _) hl
    refine ⟨receipts, queue', ?_⟩
    simp only [getOutstandingReceiptsToSend, hs, bind_eq_ok]
    exact ⟨_, rfl, by simp [h0, hq]⟩

/-! ## Runs of one queue -/

/-- A call on one queue: the library's two functions that change it. -/
inductive QueueCall
  | enqueue (receipt : TeleporterMessageReceipt)
  | getOutstandingReceiptsToSend

/-- What a call puts into the queue. -/
def QueueCall.enqueued : QueueCall → List TeleporterMessageReceipt
  | .enqueue receipt => [receipt]
  | .getOutstandingReceiptsToSend => []

/-- One call on a queue; the receipts it returns are what it emits. -/
def queueStep (queue : TeleporterMessageReceiptQueue) :
    QueueCall → Except String (TeleporterMessageReceiptQueue × List TeleporterMessageReceipt)
  | .enqueue receipt => (fun queue' => (queue', [])) <$> enqueue queue receipt
  | .getOutstandingReceiptsToSend => (fun r => (r.2, r.1)) <$> getOutstandingReceiptsToSend queue

/-- The receipts enqueued along a run. -/
def enqueued (tr : List (QueueCall × List TeleporterMessageReceipt)) :
    List TeleporterMessageReceipt :=
  tr.flatMap fun e => e.1.enqueued

@[simp] theorem enqueued_nil : enqueued [] = [] := rfl

@[simp] theorem enqueued_snoc (tr : List (QueueCall × List TeleporterMessageReceipt))
    (c : QueueCall) (out : List TeleporterMessageReceipt) :
    enqueued (tr ++ [(c, out)]) = enqueued tr ++ c.enqueued := by
  simp [enqueued]

/-- A queue that has seen `hist` enqueued and has returned `sent`: the part of the history
before `first`. -/
structure Drained (queue : TeleporterMessageReceiptQueue)
    (hist sent : List TeleporterMessageReceipt) : Prop where
  history : History queue hist
  sent_eq : sent = hist.take queue.first
  last_lt : queue.last < 2 ^ 256

theorem Drained.empty : Drained empty [] [] := ⟨.empty, rfl, by decide⟩

theorem Drained.step {queue queue' : TeleporterMessageReceiptQueue}
    {hist sent out : List TeleporterMessageReceipt} {c : QueueCall}
    (hq : Drained queue hist sent) (h : queueStep queue c = .ok (queue', out)) :
    Drained queue' (hist ++ c.enqueued) (sent ++ out) := by
  have hfl := hq.history.first_le
  cases c with
  | enqueue receipt =>
    obtain ⟨queue₁, h1, h2⟩ := map_eq_ok.1 h
    cases h2
    obtain ⟨hlt, rfl⟩ := enqueue_eq_ok h1
    refine ⟨hq.history.enqueue h1, ?_, hlt⟩
    dsimp only
    rw [List.append_nil, hq.sent_eq, List.take_append_of_le_length]
    rw [← hq.history.last_eq]
    exact hfl
  | getOutstandingReceiptsToSend =>
    obtain ⟨⟨receipts, queue₁⟩, h1, h2⟩ := map_eq_ok.1 h
    cases h2
    obtain ⟨hf, hl, -, -⟩ := getOutstandingReceiptsToSend_eq_ok h1 hfl
    obtain ⟨hhist, hrec⟩ := hq.history.getOutstanding h1
    simp only [QueueCall.enqueued, List.append_nil]
    refine ⟨hhist, ?_, hl ▸ hq.last_lt⟩
    rw [hf, List.take_add, hq.sent_eq, ← hrec]

theorem exec_drained {tr : List (QueueCall × List TeleporterMessageReceipt)}
    {queue : TeleporterMessageReceiptQueue} (h : Contract.Exec queueStep empty tr queue) :
    Drained queue (enqueued tr) (Contract.log tr) := by
  induction h with
  | nil => exact .empty
  | snoc _ hc ih =>
    rw [enqueued_snoc, Contract.log_snoc]
    exact ih.step hc

theorem receipt_queue_is_fifo {tr : List (QueueCall × List TeleporterMessageReceipt)}
    {queue : TeleporterMessageReceiptQueue} (h : Contract.Exec queueStep empty tr queue) :
    queue.first ≤ queue.last ∧ size queue = .ok (contents queue).length ∧
    (∀ i (hi : i < (contents queue).length),
      getReceiptAtIndex queue i = .ok (contents queue)[i]) ∧
    (∀ receipt queue', enqueue queue receipt = .ok queue' →
      contents queue' = contents queue ++ [receipt]) ∧
    (∀ receipt, (∃ queue', enqueue queue receipt = .ok queue') ↔ queue.last + 1 < 2 ^ 256) ∧
    (∃ receipts queue', getOutstandingReceiptsToSend queue = .ok (receipts, queue') ∧
      receipts = (contents queue).take (min maximumReceiptCount (contents queue).length) ∧
      contents queue' = (contents queue).drop (min maximumReceiptCount (contents queue).length)) ∧
    Contract.log tr ++ contents queue = enqueued tr ∧ Contract.log tr <+: enqueued tr := by
  have hd := exec_drained h
  have hfl := hd.history.first_le
  have hlog : Contract.log tr ++ contents queue = enqueued tr := by
    rw [hd.sent_eq, hd.history.contents_eq, List.take_append_drop]
  refine ⟨hfl, size_eq_ok hfl, fun i hi => getReceiptAtIndex_eq_ok hfl hi,
    fun receipt queue' he => (contents_of_enqueue he hfl).2.2, enqueue_isOk_iff queue, ?_, hlog,
    ⟨_, hlog⟩⟩
  obtain ⟨receipts, queue', hg⟩ := getOutstandingReceiptsToSend_ok hfl hd.last_lt
  obtain ⟨-, -, hlen, hc⟩ := getOutstandingReceiptsToSend_eq_ok hg hfl
  rw [← length_contents] at hlen
  refine ⟨receipts, queue', hg, ?_, ?_⟩
  · rw [← hlen, hc, List.take_left]
  · rw [← hlen, hc, List.drop_left]

/-- Two enqueued receipts, then one batch: both come back, oldest first. -/
theorem receipt_queue_is_fifo_two : ∃ (tr : List (QueueCall × List TeleporterMessageReceipt))
    (queue : TeleporterMessageReceiptQueue),
    Contract.Exec queueStep empty tr queue ∧ Contract.log tr = [⟨1, 0⟩, ⟨2, 0⟩] ∧
    (queue.first ≤ queue.last ∧ size queue = .ok (contents queue).length ∧
    (∀ i (hi : i < (contents queue).length),
      getReceiptAtIndex queue i = .ok (contents queue)[i]) ∧
    (∀ receipt queue', enqueue queue receipt = .ok queue' →
      contents queue' = contents queue ++ [receipt]) ∧
    (∀ receipt, (∃ queue', enqueue queue receipt = .ok queue') ↔ queue.last + 1 < 2 ^ 256) ∧
    (∃ receipts queue', getOutstandingReceiptsToSend queue = .ok (receipts, queue') ∧
      receipts = (contents queue).take (min maximumReceiptCount (contents queue).length) ∧
      contents queue' = (contents queue).drop (min maximumReceiptCount (contents queue).length)) ∧
    Contract.log tr ++ contents queue = enqueued tr ∧ Contract.log tr <+: enqueued tr) := by
  have hrun := Contract.Exec.snoc (Contract.Exec.snoc (Contract.Exec.snoc
    (Contract.Exec.nil empty)
    (show queueStep empty (.enqueue ⟨1, 0⟩) = _ from rfl))
    (show queueStep _ (.enqueue ⟨2, 0⟩) = _ from rfl))
    (show queueStep _ .getOutstandingReceiptsToSend = _ from rfl)
  exact ⟨_, _, hrun, rfl, receipt_queue_is_fifo hrun⟩

end ReceiptQueue

end Teleporter
