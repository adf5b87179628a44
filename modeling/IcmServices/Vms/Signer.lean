import Mathlib.Logic.Relation
import Mathlib.Data.List.Basic

/-!
# The concurrent signers of an EVM destination client

Each signer of a destination client (`concurrentSigner`) serves the `SendTx` calls that select
it. Its worker `processIncomingTransactions` takes a slot of the buffered channel
`queuedTxSemaphore`, receives a call's `txData` on the unbuffered `messageChan`, and issues the
transaction with the signer's `currentNonce`. A sent transaction is handed to a `waitForReceipt`
goroutine, which releases the slot once it finds the receipt; a transaction that could not be
signed or sent is reported by the worker, after it releases the slot. `SendTx` waits on the
call's unbuffered `resultChan` under a timer.

The model interleaves these goroutines: `step` is one atomic action of one of them or of the
environment (the outcome of an RPC, a timer), and `none` where the action is blocked. What only
the acting goroutine sees (a log line, the error `issueTransaction` returns, the deferred
`close(resultChan)`) is taken together with the next action another goroutine can see.

* `reachable_accounting`: in every reachable state the occupied slots are the worker's, one for
  each polling waiter and one for each waiter whose receipt lookup timed out, and the nonce has
  grown by one for each transaction sent;
* `waitForReceipt_leaksSlot`: the timed-out lookups keep their slots for good, so after as many
  of them as the semaphore has slots the worker never takes a transaction again;
* `issueTransaction_blocksWorker`: a failed transaction whose `SendTx` timer fired first blocks
  the worker on the result channel for good.
-/

namespace Evm

/-- Where the worker `processIncomingTransactions` is. -/
inductive Worker
  /-- `s.queuedTxSemaphore <- struct{}{}`. -/
  | acquire
  /-- `messageData := <-s.messageChan`, holding a slot. -/
  | receive
  /-- In `issueTransaction` for the `i`-th call, holding a slot. -/
  | issuing (i : ℕ)
  /-- The transaction of the `i`-th call failed and the slot is released:
  `messageData.resultChan <- txResult{err}`. -/
  | reporting (i : ℕ)
  deriving DecidableEq, Repr

/-- Where a `SendTx` call is. -/
inductive Caller
  /-- `reflect.Select(cases)`: offers its `txData` on `messageChan`. -/
  | selecting
  /-- The `select` on its `resultChan` and its timer. -/
  | waiting
  /-- Received a receipt (`true`) or an error. -/
  | returned (receipt : Bool)
  /-- "timed out waiting for transaction result". -/
  | timedOut
  deriving DecidableEq, Repr

/-- Where the `waitForReceipt` goroutine of a sent transaction is. -/
inductive Waiter
  /-- `utils.WithRetriesTimeout` over `TransactionReceipt`. -/
  | polling
  /-- Found the receipt and released the slot: `resultChan <- txResult{receipt}`. -/
  | writingReceipt
  /-- The lookup timed out: `resultChan <- txResult{err}`. -/
  | writingError
  /-- Wrote the receipt and closed the channel. -/
  | returned
  /-- Wrote the error and closed the channel: the early `return`. -/
  | returnedError
  deriving DecidableEq, Repr

/-- One `SendTx` call on the signer: the caller, and the receipt waiter of its transaction once
the transaction is sent. -/
structure Call where
  caller : Caller
  waiter : Option Waiter
  deriving DecidableEq, Repr

/-- `concurrentSigner`, with the goroutines working for it. -/
structure Signer where
  currentNonce : ℕ
  /-- `len(s.queuedTxSemaphore)`: the occupied slots. -/
  queuedTxSemaphore : ℕ
  worker : Worker
  /-- The `SendTx` calls that selected this signer, in the order they came. -/
  calls : List Call
  deriving DecidableEq, Repr

/-- `poolTxsPerAccount`: the capacity of `queuedTxSemaphore`. -/
def poolTxsPerAccount : ℕ := 16

/-- The signer the destination client starts, with the nonce of its account. -/
def newSigner (currentNonce : ℕ) : Signer := ⟨currentNonce, 0, .acquire, []⟩

/-- One atomic action of a goroutine, or the outcome the environment gives it. -/
inductive Action
  /-- A `SendTx` call selects this signer. -/
  | sendTx
  /-- The worker takes a slot. -/
  | acquire
  /-- The worker receives the `txData` of the `i`-th call. -/
  | receive (i : ℕ)
  /-- `SendTransaction` accepted the transaction. -/
  | sent
  /-- Signing or `SendTransaction` failed; the worker releases its slot. -/
  | issueFailed
  /-- The worker writes the error of the failed transaction. -/
  | report
  /-- The `i`-th waiter found the receipt and releases the slot. -/
  | receiptFound (i : ℕ)
  /-- The receipt lookup of the `i`-th waiter timed out. -/
  | receiptTimedOut (i : ℕ)
  /-- The `i`-th caller receives what its waiter writes. -/
  | deliver (i : ℕ)
  /-- The timer of the `i`-th caller fires. -/
  | timerFired (i : ℕ)
  deriving DecidableEq, Repr

/-- One action on a signer whose semaphore has `capacity` slots; `none` where it blocks. -/
def step (capacity : ℕ) (s : Signer) : Action → Option Signer
  | .sendTx => some { s with calls := s.calls ++ [⟨.selecting, none⟩] }
  | .acquire =>
    if s.worker = .acquire ∧ s.queuedTxSemaphore < capacity then
      some { s with queuedTxSemaphore := s.queuedTxSemaphore + 1, worker := .receive }
    else none
  | .receive i =>
    match s.worker, s.calls[i]? with
    | .receive, some c =>
      if c.caller = .selecting then
        some { s with worker := .issuing i, calls := s.calls.set i { c with caller := .waiting } }
      else none
    | _, _ => none
  | .sent =>
    -- `s.currentNonce++`, then `go s.waitForReceipt(...)`: the slot goes with the waiter
    match s.worker with
    | .issuing i =>
      match s.calls[i]? with
      | some c =>
        some { s with
          currentNonce := s.currentNonce + 1
          worker := .acquire
          calls := s.calls.set i { c with waiter := some .polling } }
      | none => none
    | _ => none
  | .issueFailed =>
    match s.worker with
    | .issuing i =>
      if 0 < s.queuedTxSemaphore then
        some { s with queuedTxSemaphore := s.queuedTxSemaphore - 1, worker := .reporting i }
      else none
    | _ => none
  | .report =>
    match s.worker with
    | .reporting i =>
      match s.calls[i]? with
      | some c =>
        if c.caller = .waiting then
          some { s with worker := .acquire, calls := s.calls.set i { c with caller := .returned false } }
        else none
      | none => none
    | _ => none
  | .receiptFound i =>
    match s.calls[i]? with
    | some c =>
      if c.waiter = some .polling ∧ 0 < s.queuedTxSemaphore then
        some { s with
          queuedTxSemaphore := s.queuedTxSemaphore - 1
          calls := s.calls.set i { c with waiter := some .writingReceipt } }
      else none
    | none => none
  | .receiptTimedOut i =>
    -- the error path returns without `<-s.queuedTxSemaphore`
    match s.calls[i]? with
    | some c =>
      if c.waiter = some .polling then
        some { s with calls := s.calls.set i { c with waiter := some .writingError } }
      else none
    | none => none
  | .deliver i =>
    match s.calls[i]? with
    | some ⟨.waiting, some .writingReceipt⟩ =>
      some { s with calls := s.calls.set i ⟨.returned true, some .returned⟩ }
    | some ⟨.waiting, some .writingError⟩ =>
      some { s with calls := s.calls.set i ⟨.returned false, some .returnedError⟩ }
    | _ => none
  | .timerFired i =>
    match s.calls[i]? with
    | some c =>
      if c.caller = .waiting then
        some { s with calls := s.calls.set i { c with caller := .timedOut } }
      else none
    | none => none

/-- Some action leads from `s` to `t`. -/
def Step (capacity : ℕ) (s t : Signer) : Prop := ∃ a, step capacity s a = some t

/-- The states a signer started with `currentNonce` can reach. -/
def Reachable (capacity currentNonce : ℕ) (s : Signer) : Prop :=
  Relation.ReflTransGen (Step capacity) (newSigner currentNonce) s

/-- The actions `acts` one after the other; `none` where one blocks. -/
def run (capacity : ℕ) : Signer → List Action → Option Signer
  | s, [] => some s
  | s, a :: acts => (step capacity s a).bind fun t => run capacity t acts

theorem reflTransGen_of_run {capacity : ℕ} :
    ∀ {s t : Signer} (acts : List Action), run capacity s acts = some t →
      Relation.ReflTransGen (Step capacity) s t
  | s, t, [], h => by
    rw [run, Option.some.injEq] at h
    exact h ▸ .refl
  | s, t, a :: acts, h => by
    obtain ⟨u, hu, ht⟩ := Option.bind_eq_some_iff.mp h
    exact .head ⟨a, hu⟩ (reflTransGen_of_run acts ht)

/-! ## What each action does -/

section
variable {capacity : ℕ} {s t : Signer} {i : ℕ}

theorem step_sendTx (h : step capacity s .sendTx = some t) :
    t = { s with calls := s.calls ++ [⟨.selecting, none⟩] } := by
  rw [step, Option.some.injEq] at h
  exact h.symm

theorem step_acquire (h : step capacity s .acquire = some t) :
    s.worker = .acquire ∧ s.queuedTxSemaphore < capacity ∧
      t = { s with queuedTxSemaphore := s.queuedTxSemaphore + 1, worker := .receive } := by
  simp only [step] at h
  split at h
  · exact ⟨‹_ ∧ _›.1, ‹_ ∧ _›.2, (Option.some.inj h).symm⟩
  · cases h

theorem step_receive (h : step capacity s (.receive i) = some t) :
    s.worker = .receive ∧ ∃ c, s.calls[i]? = some c ∧ c.caller = .selecting ∧
      t = { s with worker := .issuing i, calls := s.calls.set i { c with caller := .waiting } } := by
  simp only [step] at h
  split at h
  · rename_i c hw hc
    split at h
    · exact ⟨hw, c, hc, ‹_›, (Option.some.inj h).symm⟩
    · cases h
  · cases h

theorem step_sent (h : step capacity s .sent = some t) :
    ∃ i c, s.worker = .issuing i ∧ s.calls[i]? = some c ∧
      t = { s with
        currentNonce := s.currentNonce + 1
        worker := .acquire
        calls := s.calls.set i { c with waiter := some .polling } } := by
  simp only [step] at h
  split at h
  · rename_i i hw
    split at h
    · exact ⟨i, _, hw, ‹_›, (Option.some.inj h).symm⟩
    · cases h
  · cases h

theorem step_issueFailed (h : step capacity s .issueFailed = some t) :
    ∃ i, s.worker = .issuing i ∧ 0 < s.queuedTxSemaphore ∧
      t = { s with queuedTxSemaphore := s.queuedTxSemaphore - 1, worker := .reporting i } := by
  simp only [step] at h
  split at h
  · rename_i i hw
    split at h
    · exact ⟨i, hw, ‹_›, (Option.some.inj h).symm⟩
    · cases h
  · cases h

theorem step_report (h : step capacity s .report = some t) :
    ∃ i c, s.worker = .reporting i ∧ s.calls[i]? = some c ∧ c.caller = .waiting ∧
      t = { s with worker := .acquire, calls := s.calls.set i { c with caller := .returned false } } := by
  simp only [step] at h
  split at h
  · rename_i i hw
    split at h
    · split at h
      · exact ⟨i, _, hw, ‹_›, ‹_›, (Option.some.inj h).symm⟩
      · cases h
    · cases h
  · cases h

theorem step_receiptFound (h : step capacity s (.receiptFound i) = some t) :
    ∃ c, s.calls[i]? = some c ∧ c.waiter = some .polling ∧ 0 < s.queuedTxSemaphore ∧
      t = { s with
        queuedTxSemaphore := s.queuedTxSemaphore - 1
        calls := s.calls.set i { c with waiter := some .writingReceipt } } := by
  simp only [step] at h
  split at h
  · split at h
    · exact ⟨_, ‹_›, ‹_ ∧ _›.1, ‹_ ∧ _›.2, (Option.some.inj h).symm⟩
    · cases h
  · cases h

theorem step_receiptTimedOut (h : step capacity s (.receiptTimedOut i) = some t) :
    ∃ c, s.calls[i]? = some c ∧ c.waiter = some .polling ∧
      t = { s with calls := s.calls.set i { c with waiter := some .writingError } } := by
  simp only [step] at h
  split at h
  · split at h
    · exact ⟨_, ‹_›, ‹_›, (Option.some.inj h).symm⟩
    · cases h
  · cases h

theorem step_deliver (h : step capacity s (.deliver i) = some t) :
    ∃ c, s.calls[i]? = some c ∧ c.caller = .waiting ∧
      (c.waiter = some .writingReceipt ∧ t = { s with calls := s.calls.set i ⟨.returned true, some .returned⟩ } ∨
        c.waiter = some .writingError ∧
          t = { s with calls := s.calls.set i ⟨.returned false, some .returnedError⟩ }) := by
  simp only [step] at h
  split at h
  · exact ⟨_, ‹_›, rfl, .inl ⟨rfl, (Option.some.inj h).symm⟩⟩
  · exact ⟨_, ‹_›, rfl, .inr ⟨rfl, (Option.some.inj h).symm⟩⟩
  · cases h

theorem step_timerFired (h : step capacity s (.timerFired i) = some t) :
    ∃ c, s.calls[i]? = some c ∧ c.caller = .waiting ∧
      t = { s with calls := s.calls.set i { c with caller := .timedOut } } := by
  simp only [step] at h
  split at h
  · split at h
    · exact ⟨_, ‹_›, ‹_›, (Option.some.inj h).symm⟩
    · cases h
  · cases h

end

/-! ## Slots and nonces -/

/-- The waiter keeps its slot: it may still release it, or its lookup timed out and it never
will. -/
def Waiter.holdsSlot : Waiter → Bool
  | .polling | .writingError | .returnedError => true
  | .writingReceipt | .returned => false

/-- The call's transaction holds a slot through its waiter. -/
def Call.holdsSlot (c : Call) : Bool := c.waiter.any Waiter.holdsSlot

/-- The call's transaction was sent: `SendTransaction` accepted it. -/
def Call.sent (c : Call) : Bool := c.waiter.isSome

/-- The slot the worker holds between taking it and handing it on or releasing it. -/
def Worker.slots : Worker → ℕ
  | .receive | .issuing _ => 1
  | .acquire | .reporting _ => 0

theorem countP_set_add {α : Type} {p : α → Bool} {l : List α} {i : ℕ} {a b : α}
    (h : l[i]? = some a) :
    (l.set i b).countP p + (if p a then 1 else 0) = l.countP p + (if p b then 1 else 0) := by
  obtain ⟨hi, rfl⟩ := List.getElem?_eq_some_iff.mp h
  -- the old element is counted, if at all, in `l`
  have hle : (if p l[i] then 1 else 0) ≤ l.countP p := by
    split
    · exact List.countP_pos_iff.mpr ⟨_, List.getElem_mem hi, ‹_›⟩
    · exact Nat.zero_le _
  rw [List.countP_set hi]
  omega

theorem countP_set_of_eq {α : Type} {p : α → Bool} {l : List α} {i : ℕ} {a b : α}
    (h : l[i]? = some a) (hp : p b = p a) : (l.set i b).countP p = l.countP p := by
  have := countP_set_add (p := p) (b := b) h
  rw [hp] at this
  omega

/-- The accounting of a signer started with `nonce` (module doc), with the facts about the
worker's call that keep it. -/
structure Accounted (capacity nonce : ℕ) (s : Signer) : Prop where
  slots : s.queuedTxSemaphore = s.worker.slots + s.calls.countP Call.holdsSlot
  bound : s.queuedTxSemaphore ≤ capacity
  nonce : s.currentNonce = nonce + s.calls.countP Call.sent
  unsent : ∀ c ∈ s.calls, c.caller = .selecting → c.waiter = none
  issuing : ∀ i, s.worker = .issuing i → ∃ c, s.calls[i]? = some c ∧ c.caller ≠ .selecting ∧
    c.waiter = none

section
variable {capacity nonce : ℕ} {s : Signer}

theorem accounted_newSigner : Accounted capacity nonce (newSigner nonce) where
  slots := rfl
  bound := Nat.zero_le _
  nonce := rfl
  unsent _ h := absurd h List.not_mem_nil
  issuing _ h := Worker.noConfusion h

theorem getElem?_append_of_getElem? {α : Type} {l l' : List α} {i : ℕ} {a : α}
    (h : l[i]? = some a) : (l ++ l')[i]? = some a := by
  rw [List.getElem?_append_left (List.getElem?_eq_some_iff.mp h).1, h]

/-- A waiter acts on a call the worker is not issuing: that call has no waiter yet. -/
theorem Accounted.issuing_ne (hs : Accounted capacity nonce s) {i j : ℕ} {c : Call}
    (hc : s.calls[i]? = some c) (hw : c.waiter ≠ none) (hj : s.worker = .issuing j) : i ≠ j := by
  rintro rfl
  obtain ⟨c', hc', -, hnone⟩ := hs.issuing i hj
  rw [hc, Option.some.injEq] at hc'
  exact hw (hc' ▸ hnone)

theorem Accounted.not_selecting_of_waiter (hs : Accounted capacity nonce s) {i : ℕ} {c : Call}
    (hc : s.calls[i]? = some c) (hw : c.waiter ≠ none) : c.caller ≠ .selecting :=
  fun hsel => hw (hs.unsent c (List.mem_of_getElem? hc) hsel)

/-- Moving the worker to `w` and setting the `i`-th call to `c'` keeps the accounting where
the worker holds as many slots as before, `c'` holds a slot, and was sent, as the call it
replaces, and the worker's call keeps what it needs. -/
theorem Accounted.update (hs : Accounted capacity nonce s) {i : ℕ} {c c' : Call} {w : Worker}
    (hc : s.calls[i]? = some c) (hw : w.slots = s.worker.slots)
    (hslot : c'.holdsSlot = c.holdsSlot) (hsent : c'.sent = c.sent)
    (hunsent : c'.caller = .selecting → c'.waiter = none)
    (hissuing : ∀ j, w = .issuing j →
      (j = i → c'.caller ≠ .selecting ∧ c'.waiter = none) ∧ (j ≠ i → s.worker = .issuing j)) :
    Accounted capacity nonce { s with worker := w, calls := s.calls.set i c' } where
  slots := by rw [hs.slots, countP_set_of_eq hc hslot, hw]
  bound := hs.bound
  nonce := by rw [hs.nonce, countP_set_of_eq hc hsent]
  unsent d hd := by
    rcases List.mem_or_eq_of_mem_set hd with hd | rfl
    · exact hs.unsent d hd
    · exact hunsent
  issuing j hj := by
    by_cases hji : j = i
    · subst hji
      exact ⟨c', List.getElem?_set_self (List.getElem?_eq_some_iff.mp hc).1, (hissuing j hj).1 rfl⟩
    · rw [List.getElem?_set_ne (Ne.symm hji)]
      exact hs.issuing j ((hissuing j hj).2 hji)

theorem Accounted.setCall (hs : Accounted capacity nonce s) {i : ℕ} {c c' : Call}
    (hc : s.calls[i]? = some c) (hslot : c'.holdsSlot = c.holdsSlot) (hsent : c'.sent = c.sent)
    (hunsent : c'.caller = .selecting → c'.waiter = none)
    (hissuing : s.worker = .issuing i → c'.caller ≠ .selecting ∧ c'.waiter = none) :
    Accounted capacity nonce { s with calls := s.calls.set i c' } :=
  hs.update hc rfl hslot hsent hunsent fun _ hj => ⟨fun hji => hissuing (hji ▸ hj), fun _ => hj⟩

end

section
variable {capacity nonce : ℕ} {s t : Signer}

/-- Every action keeps the accounting. -/
theorem Accounted.step (hs : Accounted capacity nonce s) :
    ∀ {a : Action}, step capacity s a = some t → Accounted capacity nonce t
  | .sendTx, h => by
    rw [step_sendTx h]
    refine ⟨?_, hs.bound, ?_, fun c hc => ?_, fun i hi => ?_⟩
    · simp [hs.slots, Call.holdsSlot]
    · simp [hs.nonce, Call.sent]
    · rcases List.mem_append.mp hc with hc | hc
      · exact hs.unsent c hc
      · rw [List.mem_singleton.mp hc]
        exact fun _ => rfl
    · obtain ⟨c, hc, hsel, hw⟩ := hs.issuing i hi
      exact ⟨c, getElem?_append_of_getElem? hc, hsel, hw⟩
  | .acquire, h => by
    obtain ⟨hw, hlt, rfl⟩ := step_acquire h
    have hslots : s.queuedTxSemaphore = 0 + s.calls.countP Call.holdsSlot := by rw [hs.slots, hw]; rfl
    refine ⟨?_, hlt, hs.nonce, hs.unsent, fun _ hi => Worker.noConfusion hi⟩
    show s.queuedTxSemaphore + 1 = 1 + s.calls.countP Call.holdsSlot
    omega
  | .receive i, h => by
    obtain ⟨hw, c, hc, hsel, rfl⟩ := step_receive h
    have hnone := hs.unsent c (List.mem_of_getElem? hc) hsel
    -- the worker's slot goes with it into `issueTransaction`
    refine hs.update hc (by rw [hw]; rfl) rfl rfl (fun h => Caller.noConfusion h) fun j hj => ?_
    cases hj
    exact ⟨fun _ => ⟨nofun, hnone⟩, fun hji => absurd rfl hji⟩
  | .sent, h => by
    obtain ⟨i, c, hw, hc, rfl⟩ := step_sent h
    obtain ⟨c', hc', hsel, hnone⟩ := hs.issuing i hw
    rw [hc, Option.some.injEq] at hc'
    subst hc'
    -- the worker's slot goes to the new waiter, and the nonce counts its transaction
    have hslot := countP_set_add (p := Call.holdsSlot) (b := { c with waiter := some .polling }) hc
    have hsent := countP_set_add (p := Call.sent) (b := { c with waiter := some .polling }) hc
    have hslots : s.queuedTxSemaphore = 1 + s.calls.countP Call.holdsSlot := by rw [hs.slots, hw]; rfl
    simp [Call.holdsSlot, Call.sent, hnone, Waiter.holdsSlot] at hslot hsent
    refine ⟨?_, hs.bound, ?_, fun d hd => ?_, fun _ hi => Worker.noConfusion hi⟩
    · show s.queuedTxSemaphore = 0 + (s.calls.set i { c with waiter := some .polling }).countP Call.holdsSlot
      omega
    · show s.currentNonce + 1 = nonce + (s.calls.set i { c with waiter := some .polling }).countP Call.sent
      rw [hs.nonce]
      omega
    · rcases List.mem_or_eq_of_mem_set hd with hd | rfl
      · exact hs.unsent d hd
      · exact fun h => absurd h hsel
  | .issueFailed, h => by
    obtain ⟨i, hw, hpos, rfl⟩ := step_issueFailed h
    have hslots : s.queuedTxSemaphore = 1 + s.calls.countP Call.holdsSlot := by rw [hs.slots, hw]; rfl
    refine ⟨?_, Nat.le_trans (Nat.sub_le _ _) hs.bound, hs.nonce, hs.unsent,
      fun _ hi => Worker.noConfusion hi⟩
    show s.queuedTxSemaphore - 1 = 0 + s.calls.countP Call.holdsSlot
    omega
  | .report, h => by
    obtain ⟨i, c, hw, hc, hwait, rfl⟩ := step_report h
    exact hs.update hc (by rw [hw]; rfl) rfl rfl (fun h => Caller.noConfusion h)
      fun _ hj => Worker.noConfusion hj
  | .receiptFound i, h => by
    obtain ⟨c, hc, hpoll, hpos, rfl⟩ := step_receiptFound h
    have hne : c.waiter ≠ none := by rw [hpoll]; exact nofun
    have hnot := hs.not_selecting_of_waiter hc hne
    -- the waiter releases its slot
    have hslot := countP_set_add (p := Call.holdsSlot) (b := { c with waiter := some .writingReceipt }) hc
    have hslots := hs.slots
    simp [Call.holdsSlot, hpoll, Waiter.holdsSlot] at hslot
    refine ⟨?_, Nat.le_trans (Nat.sub_le _ _) hs.bound, ?_, fun d hd => ?_, fun j hj => ?_⟩
    · show s.queuedTxSemaphore - 1 =
        s.worker.slots + (s.calls.set i { c with waiter := some .writingReceipt }).countP Call.holdsSlot
      omega
    · rw [hs.nonce, countP_set_of_eq hc (by simp [Call.sent, hpoll])]
    · rcases List.mem_or_eq_of_mem_set hd with hd | rfl
      · exact hs.unsent d hd
      · exact fun h => absurd h hnot
    · rw [List.getElem?_set_ne (hs.issuing_ne hc hne hj)]
      exact hs.issuing j hj
  | .receiptTimedOut i, h => by
    obtain ⟨c, hc, hpoll, rfl⟩ := step_receiptTimedOut h
    have hne : c.waiter ≠ none := by rw [hpoll]; exact nofun
    have hnot := hs.not_selecting_of_waiter hc hne
    exact hs.setCall hc (by simp [Call.holdsSlot, hpoll, Waiter.holdsSlot])
      (by simp [Call.sent, hpoll]) (fun h => absurd h hnot)
      fun hj => absurd rfl (hs.issuing_ne hc hne hj)
  | .deliver i, h => by
    obtain ⟨c, hc, hwait, ⟨hwr, rfl⟩ | ⟨hwr, rfl⟩⟩ := step_deliver h
    all_goals
      have hne : c.waiter ≠ none := by rw [hwr]; exact nofun
      exact hs.setCall hc (by simp [Call.holdsSlot, hwr, Waiter.holdsSlot])
        (by simp [Call.sent, hwr]) (fun h => Caller.noConfusion h)
        fun hj => absurd rfl (hs.issuing_ne hc hne hj)
  | .timerFired i, h => by
    obtain ⟨c, hc, hwait, rfl⟩ := step_timerFired h
    refine hs.setCall hc rfl rfl (fun h => Caller.noConfusion h) fun hj => ?_
    obtain ⟨c', hc', -, hnone⟩ := hs.issuing i hj
    rw [hc, Option.some.injEq] at hc'
    exact ⟨nofun, hc' ▸ hnone⟩

end

theorem Reachable.accounted {capacity nonce : ℕ} {s : Signer} (h : Reachable capacity nonce s) :
    Accounted capacity nonce s := by
  induction h with
  | refl => exact accounted_newSigner
  | tail _ hst ih =>
    obtain ⟨a, ha⟩ := hst
    exact ih.step ha

/-- In every reachable state of a signer started with `nonce`, the occupied slots are the
worker's, one for each polling waiter and one for each waiter whose lookup timed out; they never
exceed the capacity; and the nonce has grown by one for each transaction sent. -/
theorem reachable_accounting (capacity nonce : ℕ) (s : Signer) (h : Reachable capacity nonce s) :
    s.queuedTxSemaphore = s.worker.slots + s.calls.countP Call.holdsSlot ∧
      s.queuedTxSemaphore ≤ capacity ∧ s.currentNonce = nonce + s.calls.countP Call.sent := by
  have hs := h.accounted
  exact ⟨hs.slots, hs.bound, hs.nonce⟩

/-- Two calls: the second is sent and its lookup times out, the first fails while the worker
reports it; the timed-out waiter keeps its slot. -/
theorem reachable_accounting_timedOut :
    Reachable poolTxsPerAccount 5 ⟨6, 1, .reporting 0, [⟨.waiting, none⟩, ⟨.waiting, some .writingError⟩]⟩ ∧
      1 = Worker.slots (.reporting 0) +
        [(⟨.waiting, none⟩ : Call), ⟨.waiting, some .writingError⟩].countP Call.holdsSlot ∧
      1 ≤ poolTxsPerAccount ∧ 6 = 5 + [(⟨.waiting, none⟩ : Call), ⟨.waiting, some .writingError⟩].countP Call.sent :=
  have h : Reachable poolTxsPerAccount 5
      ⟨6, 1, .reporting 0, [⟨.waiting, none⟩, ⟨.waiting, some .writingError⟩]⟩ :=
    reflTransGen_of_run [.sendTx, .sendTx, .acquire, .receive 1, .sent, .acquire, .receive 0,
      .issueFailed, .receiptTimedOut 1] rfl
  ⟨h, reachable_accounting _ _ _ h⟩

/-! ## Slots lost to receipt timeouts -/

/-- The semaphore is full and no waiter can release a slot. -/
structure Exhausted (capacity : ℕ) (s : Signer) : Prop where
  worker : s.worker = .acquire
  full : capacity ≤ s.queuedTxSemaphore
  noRelease : ∀ c ∈ s.calls, c.waiter ≠ some .polling

section
variable {capacity : ℕ} {s t : Signer}

/-- An exhausted signer stays so, and no call selecting it is taken. -/
theorem Exhausted.step (hs : Exhausted capacity s) :
    ∀ {a : Action}, step capacity s a = some t →
      Exhausted capacity t ∧ ∀ (i : ℕ) (c : Call), s.calls[i]? = some c → c.caller = .selecting → t.calls[i]? = some c
  | .sendTx, h => by
    rw [step_sendTx h]
    refine ⟨⟨hs.worker, hs.full, fun c hc => ?_⟩, fun i c hc _ => getElem?_append_of_getElem? hc⟩
    rcases List.mem_append.mp hc with hc | hc
    · exact hs.noRelease c hc
    · rw [List.mem_singleton.mp hc]
      exact nofun
  | .acquire, h => absurd (step_acquire h).2.1 (Nat.not_lt.mpr hs.full)
  | .receive _, h => Worker.noConfusion ((step_receive h).1.symm.trans hs.worker)
  | .sent, h => by
    obtain ⟨_, _, hw, -⟩ := step_sent h
    exact Worker.noConfusion (hw.symm.trans hs.worker)
  | .issueFailed, h => by
    obtain ⟨_, hw, -⟩ := step_issueFailed h
    exact Worker.noConfusion (hw.symm.trans hs.worker)
  | .report, h => by
    obtain ⟨_, _, hw, -⟩ := step_report h
    exact Worker.noConfusion (hw.symm.trans hs.worker)
  | .receiptFound _, h => by
    obtain ⟨c, hc, hpoll, -⟩ := step_receiptFound h
    exact absurd hpoll (hs.noRelease c (List.mem_of_getElem? hc))
  | .receiptTimedOut _, h => by
    obtain ⟨c, hc, hpoll, -⟩ := step_receiptTimedOut h
    exact absurd hpoll (hs.noRelease c (List.mem_of_getElem? hc))
  | .deliver j, h => by
    -- the delivered call waits for its result, so it is not a selecting one
    obtain ⟨c, hc, hwait, ⟨-, rfl⟩ | ⟨-, rfl⟩⟩ := step_deliver h
    all_goals
      refine ⟨⟨hs.worker, hs.full, fun d hd => ?_⟩, fun i d hd hsel => ?_⟩
      · rcases List.mem_or_eq_of_mem_set hd with hd | rfl
        · exact hs.noRelease d hd
        · exact nofun
      · have hij : j ≠ i := by
          rintro rfl
          rw [hc, Option.some.injEq] at hd
          rw [hd, hsel] at hwait
          exact Caller.noConfusion hwait
        rw [List.getElem?_set_ne hij, hd]
  | .timerFired j, h => by
    obtain ⟨c, hc, hwait, rfl⟩ := step_timerFired h
    refine ⟨⟨hs.worker, hs.full, fun d hd => ?_⟩, fun i d hd hsel => ?_⟩
    · rcases List.mem_or_eq_of_mem_set hd with hd | rfl
      · exact hs.noRelease d hd
      · exact hs.noRelease c (List.mem_of_getElem? hc)
    · have hij : j ≠ i := by
        rintro rfl
        rw [hc, Option.some.injEq] at hd
        rw [hd, hsel] at hwait
        exact Caller.noConfusion hwait
      rw [List.getElem?_set_ne hij, hd]

/-- The run lemma: from an exhausted signer the worker waits at the semaphore for good, and
every call selecting the signer stays in its `select`. -/
theorem Exhausted.reach (hs : Exhausted capacity s) (h : Relation.ReflTransGen (Step capacity) s t) :
    Exhausted capacity t ∧ ∀ (i : ℕ) (c : Call), s.calls[i]? = some c → c.caller = .selecting → t.calls[i]? = some c := by
  induction h with
  | refl => exact ⟨hs, fun _ _ hc _ => hc⟩
  | tail _ hst ih =>
    obtain ⟨a, ha⟩ := hst
    obtain ⟨hu, hkeep⟩ := ih.1.step ha
    exact ⟨hu, fun i c hc hsel => hkeep i c (ih.2 i c hc hsel) hsel⟩

/-- One more transaction whose receipt lookup times out: its caller gets the error, and its
waiter keeps the slot. -/
theorem run_receiptTimedOut (currentNonce k : ℕ) (hk : k < capacity) :
    run capacity ⟨currentNonce + k, k, .acquire, List.replicate k ⟨.returned false, some .returnedError⟩⟩
        [.sendTx, .acquire, .receive k, .sent, .receiptTimedOut k, .deliver k] =
      some ⟨currentNonce + (k + 1), k + 1, .acquire,
        List.replicate (k + 1) ⟨.returned false, some .returnedError⟩⟩ := by
  simp [run, step, hk, List.replicate_succ', Nat.add_assoc]

theorem reachable_receiptTimedOut (currentNonce : ℕ) :
    ∀ k ≤ capacity, Reachable capacity currentNonce
      ⟨currentNonce + k, k, .acquire, List.replicate k ⟨.returned false, some .returnedError⟩⟩
  | 0, _ => .refl
  | k + 1, hk =>
    (reachable_receiptTimedOut currentNonce k (by omega)).trans
      (reflTransGen_of_run _ (run_receiptTimedOut currentNonce k (by omega)))

end

/-- After as many transactions as the semaphore has slots, each sent and each with a receipt
lookup that timed out, every call has returned and no transaction is waiting for its receipt,
yet every slot is taken: from then on the worker waits at the semaphore for good, and every call
that selects the signer stays in its `select`. -/
theorem waitForReceipt_leaksSlot (capacity currentNonce : ℕ) :
    ∃ s, Reachable capacity currentNonce s ∧ s.queuedTxSemaphore = capacity ∧
      (∀ c ∈ s.calls, c.caller = .returned false ∧ c.waiter = some .returnedError) ∧
      ∀ t u, Relation.ReflTransGen (Step capacity) s t → Relation.ReflTransGen (Step capacity) t u →
        u.worker = .acquire ∧
          ∀ (i : ℕ) (c : Call), t.calls[i]? = some c → c.caller = .selecting → u.calls[i]? = some c := by
  refine ⟨_, reachable_receiptTimedOut currentNonce capacity (Nat.le_refl _), rfl, fun c hc => ?_,
    fun t u hst htu => ?_⟩
  · rw [List.eq_of_mem_replicate hc]
    exact ⟨rfl, rfl⟩
  · have hs : Exhausted capacity
        ⟨currentNonce + capacity, capacity, .acquire,
          List.replicate capacity ⟨.returned false, some .returnedError⟩⟩ :=
      ⟨rfl, Nat.le_refl _, fun c hc => by rw [List.eq_of_mem_replicate hc]; exact nofun⟩
    have ht := (hs.reach hst).1
    exact ⟨(ht.reach htu).1.worker, (ht.reach htu).2⟩

/-! ## A failed transaction whose caller gave up -/

section
variable {capacity : ℕ} {s t : Signer} {i : ℕ}

/-- The worker reports the `i`-th call, whose `SendTx` timer has fired: nobody will receive. -/
def Orphaned (i : ℕ) (s : Signer) : Prop :=
  s.worker = .reporting i ∧ (s.calls[i]?).map Call.caller = some .timedOut

/-- An orphaned report stays so: only the caller could take the result, and it is gone. -/
theorem Orphaned.step (hs : Orphaned i s) : ∀ {a : Action}, step capacity s a = some t → Orphaned i t
  | .sendTx, h => by
    obtain ⟨c, hc, hto⟩ := Option.map_eq_some_iff.mp hs.2
    rw [step_sendTx h]
    exact ⟨hs.1, by rw [getElem?_append_of_getElem? hc]; exact congrArg some hto⟩
  | .acquire, h => Worker.noConfusion ((step_acquire h).1.symm.trans hs.1)
  | .receive _, h => Worker.noConfusion ((step_receive h).1.symm.trans hs.1)
  | .sent, h => by
    obtain ⟨_, _, hw, -⟩ := step_sent h
    exact Worker.noConfusion (hw.symm.trans hs.1)
  | .issueFailed, h => by
    obtain ⟨_, hw, -⟩ := step_issueFailed h
    exact Worker.noConfusion (hw.symm.trans hs.1)
  | .report, h => by
    obtain ⟨j, c, hw, hc, hwait, -⟩ := step_report h
    cases hs.1.symm.trans hw
    have hto := hs.2
    rw [hc, Option.map_some, hwait] at hto
    exact Caller.noConfusion (Option.some.inj hto)
  | .receiptFound j, h => by
    obtain ⟨c, hc, -, -, rfl⟩ := step_receiptFound h
    refine ⟨hs.1, ?_⟩
    -- the waiter changes its own state only
    by_cases hji : j = i
    · subst hji
      rw [List.getElem?_set_self (List.getElem?_eq_some_iff.mp hc).1]
      have hto := hs.2
      rw [hc] at hto
      exact hto
    · rw [List.getElem?_set_ne hji]
      exact hs.2
  | .receiptTimedOut j, h => by
    obtain ⟨c, hc, -, rfl⟩ := step_receiptTimedOut h
    refine ⟨hs.1, ?_⟩
    by_cases hji : j = i
    · subst hji
      rw [List.getElem?_set_self (List.getElem?_eq_some_iff.mp hc).1]
      have hto := hs.2
      rw [hc] at hto
      exact hto
    · rw [List.getElem?_set_ne hji]
      exact hs.2
  | .deliver j, h => by
    obtain ⟨c, hc, hwait, hwr⟩ := step_deliver h
    -- a delivery needs a waiting caller, and the `i`-th one is gone
    have hji : j ≠ i := by
      rintro rfl
      have hto := hs.2
      rw [hc, Option.map_some, hwait] at hto
      exact Caller.noConfusion (Option.some.inj hto)
    rcases hwr with ⟨-, rfl⟩ | ⟨-, rfl⟩
    all_goals exact ⟨hs.1, by rw [List.getElem?_set_ne hji]; exact hs.2⟩
  | .timerFired j, h => by
    obtain ⟨c, hc, hwait, rfl⟩ := step_timerFired h
    have hji : j ≠ i := by
      rintro rfl
      have hto := hs.2
      rw [hc, Option.map_some, hwait] at hto
      exact Caller.noConfusion (Option.some.inj hto)
    exact ⟨hs.1, by rw [List.getElem?_set_ne hji]; exact hs.2⟩

theorem Orphaned.reach (hs : Orphaned i s) (h : Relation.ReflTransGen (Step capacity) s t) :
    Orphaned i t := by
  induction h with
  | refl => exact hs
  | tail _ hst ih =>
    obtain ⟨a, ha⟩ := hst
    exact ih.step ha

end

/-- With a slot to take, a transaction that fails after its caller's timer fired leaves the
worker on the result channel, and from there the worker never moves again: no call is served. -/
theorem issueTransaction_blocksWorker (capacity currentNonce : ℕ) (hcap : 0 < capacity) :
    Reachable capacity currentNonce ⟨currentNonce, 0, .reporting 0, [⟨.timedOut, none⟩]⟩ ∧
      ∀ (s t : Signer) (i : ℕ), s.worker = .reporting i →
        (s.calls[i]?).map Call.caller = some .timedOut →
        Relation.ReflTransGen (Step capacity) s t → t.worker = .reporting i := by
  refine ⟨reflTransGen_of_run [.sendTx, .acquire, .receive 0, .timerFired 0, .issueFailed] ?_,
    fun s t i hw hto h => (Orphaned.reach ⟨hw, hto⟩ h).1⟩
  simp [run, step, newSigner, hcap]

theorem issueTransaction_blocksWorker_pool :
    0 < poolTxsPerAccount ∧
      Reachable poolTxsPerAccount 0 ⟨0, 0, .reporting 0, [⟨.timedOut, none⟩]⟩ ∧
      ∀ (s t : Signer) (i : ℕ), s.worker = .reporting i →
        (s.calls[i]?).map Call.caller = some .timedOut →
        Relation.ReflTransGen (Step poolTxsPerAccount) s t → t.worker = .reporting i :=
  have hcap : 0 < poolTxsPerAccount := by decide
  ⟨hcap, issueTransaction_blocksWorker poolTxsPerAccount 0 hcap⟩

end Evm
