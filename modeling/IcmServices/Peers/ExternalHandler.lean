import IcmServices.Lib.Exec
import Mathlib

/-!
# `RelayerExternalHandler`: routing app responses to their requests

The relayer asks validators' nodes for signatures with app requests, and its network handler
routes what comes back to the request that asked for it: each `AppResponse`, and each `AppError`,
which the timeout manager also makes for a node that did not answer in time.
`registerRequestID` opens a request: the nodes it asks, and a channel with room for one response
from each. `registerAppResponse` forwards a response from a node the request asked to the
request's channel, and once as many responses as nodes asked have come, closes the channel and
forgets the request.

The handler's three maps `requestedNodes`, `responsesCount` and `responseChans` are written and
deleted together, so the model keeps one map of open requests. A channel is what was sent on it:
the events `sent` and `closed` of a run.

Over every run (`exec_sent_add_pending`), the messages sent on a request ID's channels and the
responses its open request still waits for add up to the number of nodes its registrations asked:
no send finds the channel's buffer full. A response does not take its node off the request's
list, though (`registerAppResponse_forwards_again`): a node that answers twice, or whose
`AppResponse` comes after its timeout's `AppError`, is forwarded twice. The request counts
deliveries, not nodes (`registerAppResponse_countsDeliveries`): as many responses as nodes asked,
one node twice, close the channel while another node asked has had none.
-/

namespace Peers

open Function Contract

variable {N B : Type} [DecidableEq N]

/-- The operations `HandleInbound` routes to `registerAppResponse`. -/
inductive Op
  | appResponse
  | appError
  deriving DecidableEq, Repr

/-- A routed `message.InboundMessage`: its node, operation, request ID and the app bytes of an
`AppResponse`. -/
structure InboundMessage (N B : Type) where
  nodeID : N
  op : Op
  requestID : ℕ
  appBytes : B
  deriving DecidableEq, Repr

/-- `expectedResponses`. -/
structure ExpectedResponses where
  expected : ℕ
  received : ℕ
  deriving DecidableEq, Repr

/-- An open request: its entry in `requestedNodes` and in `responsesCount`. -/
structure Request (N : Type) where
  requestedNodes : Finset N
  responsesCount : ExpectedResponses

/-- `RelayerExternalHandler`: the open requests by request ID. -/
structure Handler (N : Type) where
  requests : ℕ → Option (Request N)

/-- The handler with no request open, as `NewRelayerExternalHandler` makes it. -/
def Handler.empty : Handler N := ⟨fun _ => none⟩

/-- What the aggregator sees of the handler: a message sent on a request's channel, and the
channel closed. -/
inductive Event (N B : Type)
  | sent (requestID : ℕ) (msg : InboundMessage N B)
  | closed (requestID : ℕ)
  deriving DecidableEq, Repr

/-- The handler's entry points. -/
inductive Call (N B : Type)
  | registerRequestID (requestID : ℕ) (requestedNodes : Finset N)
  | registerAppResponse (msg : InboundMessage N B)

/-- `RegisterRequestID`: a second registration of an open request ID ends the process. -/
def registerRequestID (h : Handler N) (requestID : ℕ) (requestedNodes : Finset N) :
    Except String (Handler N) :=
  match h.requests requestID with
  | some _ => .error "RegisterRequestID called more than once for the same requestID"
  | none =>
    .ok ⟨update h.requests requestID (some ⟨requestedNodes, ⟨requestedNodes.card, 0⟩⟩)⟩

/-- `registerAppResponse`: a response from a node the request asked is sent on its channel; the
last one expected closes the channel and deletes the request. -/
def registerAppResponse (h : Handler N) (msg : InboundMessage N B) :
    Handler N × List (Event N B) :=
  match h.requests msg.requestID with
  | none => (h, [])
  | some r =>
    if msg.nodeID ∈ r.requestedNodes then
      let received := r.responsesCount.received + 1
      if received = r.responsesCount.expected then
        (⟨update h.requests msg.requestID none⟩, [.sent msg.requestID msg, .closed msg.requestID])
      else
        (⟨update h.requests msg.requestID
            (some { r with responsesCount := { r.responsesCount with received } })⟩,
          [.sent msg.requestID msg])
    else (h, [])

/-- The handler as a step function. -/
def step (h : Handler N) : Call N B → Except String (Handler N × List (Event N B))
  | .registerRequestID requestID requestedNodes =>
    (registerRequestID h requestID requestedNodes).map fun h' => (h', [])
  | .registerAppResponse msg => .ok (registerAppResponse h msg)

/-! ## What one call does -/

/-- The messages sent on the channels of `requestID`. -/
def sentOn (requestID : ℕ) (events : List (Event N B)) : List (InboundMessage N B) :=
  events.filterMap fun
    | .sent r msg => if r = requestID then some msg else none
    | .closed _ => none

omit [DecidableEq N] in
@[simp] theorem sentOn_append (requestID : ℕ) (es es' : List (Event N B)) :
    sentOn requestID (es ++ es') = sentOn requestID es ++ sentOn requestID es' := by
  simp [sentOn]

/-- The responses the open request of `requestID` still waits for. -/
def pending (h : Handler N) (requestID : ℕ) : ℕ :=
  match h.requests requestID with
  | some r => r.responsesCount.expected - r.responsesCount.received
  | none => 0

/-- The nodes a call asks for `requestID`: those of its registration. -/
def asked (requestID : ℕ) : Call N B → ℕ
  | .registerRequestID r nodes => if r = requestID then nodes.card else 0
  | .registerAppResponse _ => 0

/-- The nodes the registrations of `requestID` in a run asked, counted once per registration. -/
def capacity (requestID : ℕ) (tr : List (Call N B × List (Event N B))) : ℕ :=
  (tr.map fun p => asked requestID p.1).sum

omit [DecidableEq N] in
@[simp] theorem capacity_snoc (requestID : ℕ) (tr : List (Call N B × List (Event N B)))
    (c : Call N B) (out : List (Event N B)) :
    capacity requestID (tr ++ [(c, out)]) = capacity requestID tr + asked requestID c := by
  simp [capacity]

/-- An open request expects one response per node it asked, and has room for one more unless it
asked none. -/
def Open (h : Handler N) : Prop :=
  ∀ requestID r, h.requests requestID = some r →
    r.responsesCount.expected = r.requestedNodes.card ∧
      (r.responsesCount.received < r.responsesCount.expected ∨ r.responsesCount.expected = 0)

omit [DecidableEq N] in
theorem open_empty : Open (Handler.empty : Handler N) := fun _ _ h => by
  simp [Handler.empty] at h

/-- `registerAppResponse` forwards exactly the responses of the nodes an open request asked, one
at a time, each while the request waits for more. -/
theorem registerAppResponse_spec (h : Handler N) (msg : InboundMessage N B) :
    (registerAppResponse h msg = (h, []) ∧
        ∀ r, h.requests msg.requestID = some r → msg.nodeID ∉ r.requestedNodes) ∨
      ∃ r, h.requests msg.requestID = some r ∧ msg.nodeID ∈ r.requestedNodes ∧
        ((r.responsesCount.received + 1 = r.responsesCount.expected ∧
            registerAppResponse h msg = (⟨update h.requests msg.requestID none⟩,
              [.sent msg.requestID msg, .closed msg.requestID])) ∨
          (r.responsesCount.received + 1 ≠ r.responsesCount.expected ∧
            registerAppResponse h msg = (⟨update h.requests msg.requestID
              (some { r with responsesCount :=
                { r.responsesCount with received := r.responsesCount.received + 1 } })⟩,
              [.sent msg.requestID msg]))) := by
  unfold registerAppResponse
  rcases hr : h.requests msg.requestID with _ | r
  · exact .inl ⟨rfl, fun _ h => nomatch h⟩
  · by_cases hn : msg.nodeID ∈ r.requestedNodes
    · refine .inr ⟨r, rfl, hn, ?_⟩
      by_cases he : r.responsesCount.received + 1 = r.responsesCount.expected
      · exact .inl ⟨he, by simp [hn, he]⟩
      · exact .inr ⟨he, by simp [hn, he]⟩
    · exact .inl ⟨by simp [hn], fun _ h => by cases h; exact hn⟩

/-- A forwarded response leaves its node on the open request's list: the same response, sent
again while the request waits for more, is forwarded again. -/
theorem registerAppResponse_forwards_again {h : Handler N} {msg : InboundMessage N B}
    {r : Request N} (hr : h.requests msg.requestID = some r) (hn : msg.nodeID ∈ r.requestedNodes)
    (hroom : r.responsesCount.received + 2 < r.responsesCount.expected + 1) :
    (registerAppResponse h msg).2 = [.sent msg.requestID msg] ∧
      .sent msg.requestID msg ∈ (registerAppResponse (registerAppResponse h msg).1 msg).2 := by
  have hne : r.responsesCount.received + 1 ≠ r.responsesCount.expected := by omega
  -- the first response is counted, and the request stays open
  have h₁ : registerAppResponse h msg = (⟨update h.requests msg.requestID
      (some { r with responsesCount :=
        { r.responsesCount with received := r.responsesCount.received + 1 } })⟩,
      [.sent msg.requestID msg]) := by
    simp [registerAppResponse, hr, hn, hne]
  refine ⟨by rw [h₁], ?_⟩
  rw [h₁]
  unfold registerAppResponse
  simp only [update_self, hn, if_true]
  split <;> simp

/-! ## Every run -/

theorem step_open {h h' : Handler N} {c : Call N B} {out : List (Event N B)} (hi : Open h)
    (hs : step h c = .ok (h', out)) : Open h' := by
  cases c with
  | registerRequestID requestID nodes =>
    simp only [step, registerRequestID] at hs
    split at hs
    · cases hs
    · simp only [Except.map, Except.ok.injEq, Prod.mk.injEq] at hs
      obtain ⟨rfl, -⟩ := hs
      intro r' q hq
      by_cases he : r' = requestID
      · subst he
        simp only [update_self, Option.some.injEq] at hq
        subst hq
        exact ⟨rfl, by dsimp only; omega⟩
      · exact hi r' q (by simpa [update_of_ne he] using hq)
  | registerAppResponse msg =>
    simp only [step, Except.ok.injEq] at hs
    rcases registerAppResponse_spec h msg with ⟨he, -⟩ | ⟨r, hr, hn, ⟨-, he⟩ | ⟨hne, he⟩⟩ <;>
      rw [he, Prod.mk.injEq] at hs <;> obtain ⟨rfl, -⟩ := hs
    · exact hi
    · -- the last response deletes the request
      intro r' q hq
      by_cases hr' : r' = msg.requestID
      · subst hr'
        simp at hq
      · exact hi r' q (by simpa [update_of_ne hr'] using hq)
    · -- the request asked `msg.nodeID`, so it expected a response and had room for it
      intro r' q hq
      by_cases hr' : r' = msg.requestID
      · subst hr'
        simp only [update_self, Option.some.injEq] at hq
        subst hq
        have hpos : 0 < r.requestedNodes.card := Finset.card_pos.2 ⟨_, hn⟩
        obtain ⟨hc, hroom⟩ := hi _ r hr
        exact ⟨hc, .inl (by dsimp only; omega)⟩
      · exact hi r' q (by simpa [update_of_ne hr'] using hq)

/-- One call moves what it sends from the open requests' waiting count to the sent messages,
and a registration adds the nodes it asks to both. -/
theorem step_sent_add_pending {h h' : Handler N} {c : Call N B} {out : List (Event N B)}
    (hi : Open h) (hs : step h c = .ok (h', out)) (requestID : ℕ) :
    (sentOn requestID out).length + pending h' requestID = pending h requestID +
      asked requestID c := by
  cases c with
  | registerRequestID r₀ nodes =>
    simp only [step, registerRequestID] at hs
    split at hs
    · cases hs
    · rename_i hnone
      simp only [Except.map, Except.ok.injEq, Prod.mk.injEq] at hs
      obtain ⟨rfl, rfl⟩ := hs
      by_cases he : r₀ = requestID
      · subst he
        simp [pending, sentOn, asked, hnone]
      · simp [pending, sentOn, asked, update_of_ne (Ne.symm he), he]
  | registerAppResponse msg =>
    simp only [step, Except.ok.injEq] at hs
    rcases registerAppResponse_spec h msg with ⟨he, -⟩ | ⟨r, hr, hn, ⟨hlast, he⟩ | ⟨hne, he⟩⟩ <;>
      rw [he, Prod.mk.injEq] at hs <;> obtain ⟨rfl, rfl⟩ := hs
    · simp [sentOn, asked]
    all_goals
      by_cases hid : msg.requestID = requestID
      · subst hid
        have hpos : 0 < r.requestedNodes.card := Finset.card_pos.2 ⟨_, hn⟩
        obtain ⟨hc, hroom⟩ := hi _ r hr
        simp only [pending, hr, update_self, sentOn, asked, List.filterMap_cons, if_true,
          List.filterMap_nil]
        simp only [List.length_cons, List.length_nil]
        omega
      · simp [pending, sentOn, asked, update_of_ne (Ne.symm hid), hid]

/-- Over every run from the empty handler, the messages sent on a request ID's channels and the
responses its open request still waits for add up to the nodes its registrations asked: the
channels get at most one message per node asked, and each send finds room in the buffer. -/
theorem exec_sent_add_pending {tr : List (Call N B × List (Event N B))} {h : Handler N}
    (he : Exec step Handler.empty tr h) (requestID : ℕ) :
    Open h ∧ (sentOn requestID (log tr)).length + pending h requestID = capacity requestID tr := by
  induction he with
  | nil => exact ⟨open_empty, by simp [sentOn, pending, Handler.empty, capacity, log]⟩
  | snoc _ hs ih =>
    obtain ⟨hi, hcount⟩ := ih
    refine ⟨step_open hi hs, ?_⟩
    have := step_sent_add_pending hi hs requestID
    simp only [log_snoc, sentOn_append, List.length_append, capacity_snoc]
    omega

/-- Request 2 asks nodes 1, 2 and 3 and node 1 answers: one message sent, two still awaited. -/
theorem exec_sent_add_pending_one_response :
    ∃ h, Exec step Handler.empty
        [(.registerRequestID 2 {1, 2, 3}, []),
          (.registerAppResponse ⟨1, .appResponse, 2, 0⟩, [.sent 2 ⟨1, .appResponse, 2, 0⟩])] h ∧
      Open h ∧ (sentOn 2 (log [(Call.registerRequestID (B := ℕ) 2 {1, 2, 3}, []),
          (.registerAppResponse ⟨1, .appResponse, 2, 0⟩, [.sent 2 ⟨1, .appResponse, 2, 0⟩])])).length +
        pending h 2 = 3 := by
  obtain ⟨h, he⟩ : ∃ h, Exec step (Handler.empty : Handler ℕ)
      [(.registerRequestID 2 {1, 2, 3}, []),
        (.registerAppResponse ⟨1, .appResponse, 2, (0 : ℕ)⟩, [.sent 2 ⟨1, .appResponse, 2, 0⟩])] h :=
    ⟨_, ((Exec.nil _).snoc (show step Handler.empty (.registerRequestID 2 {1, 2, 3}) =
      .ok (_, []) from rfl)).snoc (show step _ (.registerAppResponse ⟨1, .appResponse, 2, 0⟩) =
      .ok (_, [.sent 2 ⟨1, .appResponse, 2, 0⟩]) from rfl)⟩
  obtain ⟨ho, hc⟩ := exec_sent_add_pending he 2
  exact ⟨h, he, ho, hc.trans (by decide)⟩

/-! ## Deliveries, not nodes -/

/-- The handler answering inbound messages in order, with everything it sends. -/
def registerAppResponses (h : Handler N) : List (InboundMessage N B) → Handler N × List (Event N B)
  | [] => (h, [])
  | msg :: msgs =>
    let (h', out) := registerAppResponse h msg
    let (h'', out') := registerAppResponses h' msgs
    (h'', out ++ out')

/-- An open request that has counted `k` responses forwards the next ones, whatever nodes of the
request they come from, and closes its channel at the one that makes the count reach the number
of nodes asked. -/
theorem registerAppResponses_closes {requestID : ℕ} {nodes : Finset N} :
    ∀ {h : Handler N} {k : ℕ} {msgs : List (InboundMessage N B)},
      h.requests requestID = some ⟨nodes, ⟨nodes.card, k⟩⟩ →
      (∀ m ∈ msgs, m.requestID = requestID ∧ m.nodeID ∈ nodes) → msgs ≠ [] →
      k + msgs.length = nodes.card →
      (registerAppResponses h msgs).2 = msgs.map (.sent requestID) ++ [.closed requestID]
  | _, _, [], _, _, hne, _ => absurd rfl hne
  | h, k, msg :: msgs, hr, hmsgs, _, hlen => by
    obtain ⟨hid, hn⟩ := hmsgs msg List.mem_cons_self
    rcases msgs with _ | ⟨msg', msgs⟩
    · -- the last response expected: sent, then the channel is closed
      have hlast : k + 1 = nodes.card := by simpa using hlen
      simp [registerAppResponses, registerAppResponse, hid, hr, hn, hlast]
    · -- more to come: the response is counted and the request stays open
      have hmore : k + 1 ≠ nodes.card := by simp at hlen; omega
      have hstep : registerAppResponse h msg = (⟨update h.requests requestID
          (some ⟨nodes, ⟨nodes.card, k + 1⟩⟩)⟩, [.sent requestID msg]) := by
        simp [registerAppResponse, hid, hr, hn, hmore]
      have ih := registerAppResponses_closes (h := ⟨update h.requests requestID
          (some ⟨nodes, ⟨nodes.card, k + 1⟩⟩)⟩) (k := k + 1)
        (by simp) (fun m hm => hmsgs m (.tail _ hm)) (List.cons_ne_nil msg' msgs)
        (by simp at hlen ⊢; omega)
      simp only [registerAppResponses, hstep] at ih ⊢
      rw [ih]
      simp

theorem exists_not_mem_of_not_nodup {nodes : Finset N} {l : List N}
    (hlen : l.length = nodes.card) (hdup : ¬ l.Nodup) : ∃ x ∈ nodes, x ∉ l := by
  by_contra hall
  push Not at hall
  have hle : nodes.card ≤ l.toFinset.card :=
    Finset.card_le_card fun x hx => List.mem_toFinset.mpr (hall x hx)
  have heq : l.toFinset.card = l.length := le_antisymm (List.toFinset_card_le l) (by omega)
  exact hdup (Multiset.toFinset_card_eq_card_iff_nodup.mp heq)

/-- A request counts deliveries, not nodes: responses from its nodes, as many as it asked and
one node among them twice (its timeout's `AppError` and its late `AppResponse`, or a repeated
response), are all forwarded, two of them from one node, and close the channel while a node it
asked has had none. -/
theorem registerAppResponse_countsDeliveries (h : Handler N) (requestID : ℕ) (nodes : Finset N)
    (msgs : List (InboundMessage N B)) (hfree : h.requests requestID = none)
    (hmsgs : ∀ m ∈ msgs, m.requestID = requestID ∧ m.nodeID ∈ nodes)
    (hlen : msgs.length = nodes.card) (hdup : ¬ (msgs.map InboundMessage.nodeID).Nodup) :
    ∃ h₁, registerRequestID h requestID nodes = .ok h₁ ∧
      (registerAppResponses h₁ msgs).2 = msgs.map (.sent requestID) ++ [.closed requestID] ∧
      ∃ x ∈ nodes, x ∉ msgs.map InboundMessage.nodeID := by
  have hne : msgs ≠ [] := by
    rintro rfl
    exact hdup List.nodup_nil
  refine ⟨⟨update h.requests requestID (some ⟨nodes, ⟨nodes.card, 0⟩⟩)⟩, ?_, ?_, ?_⟩
  · rw [registerRequestID, hfree]
  · exact registerAppResponses_closes (k := 0) (by simp) hmsgs hne (by omega)
  · exact exists_not_mem_of_not_nodup (by rw [List.length_map, hlen]) hdup

/-- Request 2 asks nodes 1 and 2; node 1 times out and then answers: its two messages are
forwarded and close the channel, and node 2 is never heard. -/
theorem registerAppResponse_countsDeliveries_timeout :
    ∃ h₁, registerRequestID (Handler.empty : Handler ℕ) 2 {1, 2} = .ok h₁ ∧
      (registerAppResponses h₁ [⟨1, .appError, 2, (0 : ℕ)⟩, ⟨1, .appResponse, 2, 0⟩]).2 =
        [⟨1, .appError, 2, (0 : ℕ)⟩, ⟨1, .appResponse, 2, 0⟩].map (.sent 2) ++ [.closed 2] ∧
      ∃ x ∈ ({1, 2} : Finset ℕ),
        x ∉ [⟨1, .appError, 2, (0 : ℕ)⟩, ⟨1, .appResponse, 2, 0⟩].map InboundMessage.nodeID :=
  registerAppResponse_countsDeliveries Handler.empty 2 {1, 2} _ rfl (by decide) rfl (by decide)

end Peers
