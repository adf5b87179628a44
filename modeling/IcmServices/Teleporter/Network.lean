import IcmServices.Teleporter.Receipts
import IcmServices.Teleporter.Fees

/-!
# Two messengers and the warp messages between them

Two `TeleporterMessenger` instances at the same address on chains `a` and `b`, hashing with
the same `keccak256`. Each side runs its own calls. A receive on one side may take any warp
message the messenger on the other side submitted with `sendWarpMessage`: the warp precompile
verifies the source chain and the sending contract, and nothing else is assumed, so a message
may be delivered any number of times, in any order, by any relayer with any reward address.

* `SentInv`: every receipt a messenger sends is the one it queued (or recorded) when it
  delivered the message the receipt acknowledges, and every live fee entry hashes a message it
  sent;
* `CreditInv`: every fee a side credits was credited for a message the other side delivered,
  to the reward address the other side recorded;
* `relayer_rewards_follow_deliveries`: along every run of the two chains, a side pays the fee of
  a message only after the other side received it, only to the relayer the other side recorded
  for that delivery, and at most once.
-/

namespace Teleporter

open Solidity Function Contract ReceiptQueue

variable {B : Type} [DecidableEq B] [Zero B]

/-! ## What a log sends and credits -/

/-- The messages a log submits to the warp precompile. -/
def warpMessages (l : List (Log B)) : List (TeleporterMessage B) := l.filterMap Log.warpMessage

/-- The credits a log records, as (message ID, chain named, relayer). -/
def receiptCredits (l : List (Log B)) : List (B × B × Address) := l.filterMap Log.receiptCredit

omit [DecidableEq B] [Zero B] in
@[simp] theorem warpMessages_append (l₁ l₂ : List (Log B)) :
    warpMessages (l₁ ++ l₂) = warpMessages l₁ ++ warpMessages l₂ := by
  simp [warpMessages]

omit [DecidableEq B] [Zero B] in
@[simp] theorem receiptCredits_append (l₁ l₂ : List (Log B)) :
    receiptCredits (l₁ ++ l₂) = receiptCredits l₁ ++ receiptCredits l₂ := by
  simp [receiptCredits]

omit [Zero B] in
theorem mem_enqueued {src : B} {r : TeleporterMessageReceipt} {l : List (Log B)} :
    r ∈ enqueued src l ↔ ∃ d ∈ deliveries l, d.2.1 = src ∧ d.2.2 = r := by
  simp [enqueued]

omit [DecidableEq B] [Zero B] in
theorem mem_deliveries_append_left {d : B × B × TeleporterMessageReceipt} {l₀ : List (Log B)}
    (l : List (Log B)) (hd : d ∈ deliveries l₀) : d ∈ deliveries (l₀ ++ l) := by
  simp [hd]

/-! ## The receipts one messenger sends -/

section
variable (ctx : Context B)

/-- Every receipt in a message sent acknowledges a delivery from the message's destination, with
the receipt queued at that delivery; every live fee entry is the hash of a message sent. -/
structure SentInv (s : State B) (l : List (Log B)) : Prop where
  receipts : ∀ m ∈ warpMessages l, ∀ r ∈ m.receipts,
    ∃ d ∈ deliveries l, d.2.1 = m.destinationBlockchainID ∧ d.2.2 = r
  live_hash : ∀ id, (s.sentMessageInfo id).messageHash ≠ 0 →
    ∃ m ∈ warpMessages l, ctx.keccak256 (.message m) = (s.sentMessageInfo id).messageHash

variable {ctx}

omit [DecidableEq B] in
theorem sentInv_init : SentInv ctx (State.init : State B) [] where
  receipts := by simp [warpMessages]
  live_hash id h := by simp [State.init, default] at h

section
variable {s s' : State B} {l₀ l : List (Log B)}

omit [DecidableEq B] in
theorem SentInv.quiet (hi : SentInv ctx s l₀) (hw : warpMessages l = [])
    (hh : ∀ id, (s'.sentMessageInfo id).messageHash ≠ 0 →
      (s'.sentMessageInfo id).messageHash = (s.sentMessageInfo id).messageHash) :
    SentInv ctx s' (l₀ ++ l) := by
  refine ⟨fun m hm r hr => ?_, fun id hid => ?_⟩
  · rw [warpMessages_append, hw, List.append_nil] at hm
    obtain ⟨d, hd, h1, h2⟩ := hi.receipts m hm r hr
    exact ⟨d, mem_deliveries_append_left l hd, h1, h2⟩
  · obtain ⟨m, hm, he⟩ := hi.live_hash id (by rwa [← hh id hid])
    exact ⟨m, by simp [hm], by rw [he, hh id hid]⟩

/-- A send logs its prelude (initialization and the fee transfer), which neither credits nor
submits anything, and then the message with its warp submission. -/
theorem sendTeleporterMessage_log {s s' : State B} {l : List (Log B)} {sender : Address}
    {mi : TeleporterMessageInput B} {rs : List TeleporterMessageReceipt} {amount : ℕ} {id : B}
    (h : sendTeleporterMessage ctx s sender mi rs amount = .ok (id, s', l)) :
    ∃ l₀ info, (∀ e ∈ l₀, e.warpMessage = none ∧ e.receiptCredit = none) ∧
      l = l₀ ++ [.sendCrossChainMessage id mi.destinationBlockchainID
        (constructMessage (s.messageNonce + 1) sender mi rs) info,
        .sendWarpMessage (constructMessage (s.messageNonce + 1) sender mi rs)] := by
  obtain ⟨b, adj, l₁, l₂, h1, h2, -, -, -, rfl⟩ := sendTeleporterMessage_eq_ok ctx h
  refine ⟨l₁ ++ l₂, _, ?_, rfl⟩
  have hl₁ := (initializeBlockchainID_eq_ok ctx h1).2.2.2.2
  rcases transferFee_eq_ok h2 with ⟨-, -, rfl⟩ | ⟨-, -, -, -, rfl⟩ <;>
    rcases hl₁ with rfl | rfl <;> simp

theorem sendTeleporterMessage_warpMessages {s s' : State B} {l : List (Log B)}
    {sender : Address} {mi : TeleporterMessageInput B} {rs : List TeleporterMessageReceipt}
    {amount : ℕ} {id : B} (h : sendTeleporterMessage ctx s sender mi rs amount = .ok (id, s', l)) :
    warpMessages l = [constructMessage (s.messageNonce + 1) sender mi rs] := by
  obtain ⟨lp, _, hp, rfl⟩ := sendTeleporterMessage_log h
  have hlp : warpMessages lp = [] := List.filterMap_eq_nil_iff.2 fun e he => (hp e he).1
  rw [warpMessages_append, hlp]
  rfl

theorem sendTeleporterMessage_receiptCredits {s s' : State B} {l : List (Log B)}
    {sender : Address} {mi : TeleporterMessageInput B} {rs : List TeleporterMessageReceipt}
    {amount : ℕ} {id : B} (h : sendTeleporterMessage ctx s sender mi rs amount = .ok (id, s', l)) :
    receiptCredits l = [] := by
  obtain ⟨lp, _, hp, rfl⟩ := sendTeleporterMessage_log h
  have hlp : receiptCredits lp = [] := List.filterMap_eq_nil_iff.2 fun e he => (hp e he).2
  rw [receiptCredits_append, hlp]
  rfl

/-- Sending a message whose receipts acknowledge deliveries from its destination keeps
`SentInv`. -/
theorem SentInv.send (hi : SentInv ctx s l₀) {sender : Address}
    {mi : TeleporterMessageInput B} {rs : List TeleporterMessageReceipt} {amount : ℕ} {id : B}
    (h : sendTeleporterMessage ctx s sender mi rs amount = .ok (id, s', l))
    (hrs : ∀ r ∈ rs, ∃ d ∈ deliveries l₀, d.2.1 = mi.destinationBlockchainID ∧ d.2.2 = r) :
    SentInv ctx s' (l₀ ++ l) := by
  obtain ⟨b, adj, l₁, l₂, -, -, -, -, hs', -⟩ := sendTeleporterMessage_eq_ok ctx h
  set m := constructMessage (s.messageNonce + 1) sender mi rs
  -- the one message submitted is the one constructed
  have hw : warpMessages (l₀ ++ l) = warpMessages l₀ ++ [m] := by
    rw [warpMessages_append, sendTeleporterMessage_warpMessages h]
  refine ⟨fun m₁ hm r hr => ?_, fun k hk => ?_⟩
  · rw [hw, List.mem_append, List.mem_singleton] at hm
    rcases hm with hm | rfl
    · obtain ⟨d, hd, h1, h2⟩ := hi.receipts m₁ hm r hr
      exact ⟨d, mem_deliveries_append_left _ hd, h1, h2⟩
    · obtain ⟨d, hd, h1, h2⟩ := hrs r hr
      exact ⟨d, mem_deliveries_append_left _ hd, h1, h2⟩
  · rw [hw]
    rw [hs'] at hk ⊢
    by_cases he : k = id
    · subst he
      exact ⟨m, by simp, by simp⟩
    · simp only [update_of_ne he] at hk ⊢
      obtain ⟨m₁, hm, he'⟩ := hi.live_hash k hk
      exact ⟨m₁, List.mem_append_left _ hm, he'⟩

theorem SentInv.resend (hmsg : MessageHashInjective ctx) (hi : SentInv ctx s l₀)
    {message : TeleporterMessage B} (h : retrySendCrossChainMessage ctx s message = .ok (s', l)) :
    SentInv ctx s' (l₀ ++ l) := by
  obtain ⟨hl, hk, rfl, hl'⟩ := retrySendCrossChainMessage_eq_ok ctx h
  obtain ⟨m, hm, he⟩ := hi.live_hash _ hl
  obtain rfl : message = m := hmsg _ _ (hk.trans he.symm)
  -- the message resubmitted was submitted before
  have hw : ∀ m' ∈ warpMessages (l₀ ++ l), m' ∈ warpMessages l₀ := by
    have : warpMessages l = [message] := by rw [hl']; rfl
    intro m' hm'
    rw [warpMessages_append, this, List.mem_append, List.mem_singleton] at hm'
    rcases hm' with hm' | rfl
    · exact hm'
    · exact hm
  refine ⟨fun m' hm' r hr => ?_, fun k hk' => ?_⟩
  · obtain ⟨d, hd, h1, h2⟩ := hi.receipts m' (hw m' hm') r hr
    exact ⟨d, mem_deliveries_append_left _ hd, h1, h2⟩
  · obtain ⟨m₁, hm₁, he₁⟩ := hi.live_hash k hk'
    exact ⟨m₁, by simp [hm₁], he₁⟩

end

theorem receiveCrossChainMessage_none {s s' : State B} {l : List (Log B)}
    {sender relayerRewardAddress : Address} {execution : Execution} :
    step ctx s (.receiveCrossChainMessage sender none relayerRewardAddress execution) ≠
      .ok (s', l) := by
  intro h
  obtain ⟨w, -, -, -, -, -, -, hw, -⟩ := receiveCrossChainMessage_eq_ok ctx
    (show receiveCrossChainMessage ctx s sender none relayerRewardAddress execution = _ from h)
  cases hw

/-- A receipt `sendSpecifiedReceipts` builds is the one queued at the delivery it names. -/
theorem DeliveryInv.specifiedReceipts (hinj : IDInjective ctx) {s : State B} {l₀ : List (Log B)}
    (hd : DeliveryInv ctx s l₀) {src : B} {ids : List B} {rs : List TeleporterMessageReceipt}
    (h : specifiedReceipts ctx s src s.blockchainID ids = .ok rs) :
    ∀ r ∈ rs, ∃ d ∈ deliveries l₀, d.2.1 = src ∧ d.2.2 = r := by
  rintro ⟨n, a⟩ hr
  obtain ⟨id, hn, hnz, hid, ha⟩ := specifiedReceipts_eq_ok ctx h _ hr
  obtain ⟨⟨k, src', ⟨n', a'⟩⟩, hdm, rfl⟩ :=
    List.mem_map.1 ((hd.nonce_ne_zero_iff id).1 (by rw [← hn]; exact hnz))
  -- the delivery's ID names its source and nonce; the receipt's names `src` and its nonce
  obtain ⟨hsrc, -, hnonce⟩ :=
    calculateMessageID_inj hinj ((hd.delivery_id _ hdm).symm.trans hid)
  have ha' := hd.reward_address _ hdm
  refine ⟨_, hdm, hsrc, ?_⟩
  dsimp only at hnonce ha ha' ⊢
  rw [hnonce, ha, ha']

theorem step_sentInv (hinj : IDInjective ctx) (hmsg : MessageHashInjective ctx) {s s' : State B} {l₀ l : List (Log B)} {c : Call B}
    (hd : DeliveryInv ctx s l₀) (hi : SentInv ctx s l₀) (h : step ctx s c = .ok (s', l)) :
    SentInv ctx s' (l₀ ++ l) := by
  cases c with
  | initializeBlockchainID =>
    obtain ⟨hs, -, -, -, hl⟩ := initializeBlockchainID_eq_ok ctx h
    refine hi.quiet (by rcases hl with rfl | rfl <;> simp [warpMessages]) fun id _ => by rw [hs]
  | sendCrossChainMessage sender mi amount =>
    obtain ⟨rs, queue, _, h1, h2⟩ := sendCrossChainMessage_eq_ok ctx h
    -- the receipts come off the queue for the destination, which only the fee entries matter to
    have hq := ((hd.queues mi.destinationBlockchainID).getOutstanding h1).2
    refine SentInv.send ?_ h2 fun r hr => mem_enqueued.1 ?_
    · exact ⟨hi.receipts, hi.live_hash⟩
    · rw [hq] at hr
      exact List.mem_of_mem_drop (List.mem_of_mem_take hr)
  | retrySendCrossChainMessage => exact hi.resend hmsg h
  | addFeeAmount sender messageID =>
    obtain ⟨-, -, -, -, -, -, rfl, rfl⟩ := addFeeAmount_eq_ok h
    refine hi.quiet (by simp [warpMessages]) fun k hk => ?_
    by_cases he : k = messageID
    · subst he; simp
    · simp [update_of_ne he]
  | receiveCrossChainMessage sender warpMessage rra execution =>
    cases warpMessage with
    | none => exact (receiveCrossChainMessage_none h).elim
    | some w =>
      obtain ⟨-, -, s₃, s₄, l₁, l₂, l₃, h3, hm₃, -, hm', -, rfl, hl⟩ :=
        receiveCrossChainMessage_receipts h
      -- the loop only deletes entries, and nothing in the call is a warp message
      have hw : warpMessages (l₁ ++ l₂ ++ l₃) = [] := by
        simp only [warpMessages, List.filterMap_eq_nil_iff, List.mem_append]
        rintro e (⟨he | he⟩ | he)
        · exact (hl e (List.mem_append_left _ he)).2
        · obtain ⟨r, -, info, rfl⟩ := markReceipts_log h3 e he
          rfl
        · exact (hl e (List.mem_append_right _ he)).2
      refine hi.quiet hw fun k hk => ?_
      rw [hm'] at hk ⊢
      by_cases hc : s₄.sentMessageInfo k = s₃.sentMessageInfo k
      · rw [hc, hm₃]
      · rw [((markReceipts_changes h3).1 k hc).1] at hk
        exact absurd rfl hk
  | retryMessageExecution =>
    obtain ⟨-, -, -, -, rfl, rfl⟩ := retryMessageExecution_eq_ok ctx h
    exact hi.quiet (by simp [warpMessages]) fun _ _ => rfl
  | sendSpecifiedReceipts sender src ids feeInfo allowed amount =>
    obtain ⟨rs, _, h1, h2⟩ := sendSpecifiedReceipts_eq_ok ctx h
    exact SentInv.send hi h2 (hd.specifiedReceipts hinj h1)
  | redeemRelayerRewards =>
    obtain ⟨-, rfl, rfl⟩ := redeemRelayerRewards_eq_ok h
    exact hi.quiet (by simp [warpMessages]) fun _ _ => rfl

/-- Along every run of one messenger, the delivery invariant and `SentInv` hold. -/
theorem sentInv_of_exec (hinj : IDInjective ctx) (hmsg : MessageHashInjective ctx)
    (hne : MessageHashNonzero ctx) {tr : List (Call B × List (Log B))} {s : State B}
    (h : Exec (step ctx) State.init tr s) :
    DeliveryInv ctx s (log tr) ∧ SentInv ctx s (log tr) := by
  induction h with
  | nil => exact ⟨deliveryInv_init, sentInv_init⟩
  | snoc _ hc ih =>
    rw [log_snoc]
    exact ⟨(step_deliveryStep hne hc).inv ih.1, step_sentInv hinj hmsg ih.1 ih.2 hc⟩

/-- What a call credits: only a receive does, for the receipts of its warp message, under the
IDs of messages this chain sent to the message's source. -/
theorem step_receiptCredits {s s' : State B} {l : List (Log B)} {c : Call B}
    (h : step ctx s c = .ok (s', l)) (cr : B × B × Address) (hcr : cr ∈ receiptCredits l) :
    ∃ sender w relayerRewardAddress execution,
      c = .receiveCrossChainMessage sender (some w) relayerRewardAddress execution ∧
      w.payload.destinationBlockchainID = s'.blockchainID ∧ s'.blockchainID ≠ 0 ∧
      ∃ r ∈ w.payload.receipts, cr = (calculateMessageID ctx s'.blockchainID w.sourceChainID
        r.receivedMessageNonce, w.sourceChainID, r.relayerRewardAddress) := by
  cases c with
  | receiveCrossChainMessage sender warpMessage rra execution =>
    cases warpMessage with
    | none => exact (receiveCrossChainMessage_none h).elim
    | some w =>
      obtain ⟨hdst, hb, s₃, s₄, l₁, l₂, l₃, h3, -, -, -, -, rfl, hl⟩ :=
        receiveCrossChainMessage_receipts h
      refine ⟨sender, w, rra, execution, rfl, hdst, hb, ?_⟩
      simp only [receiptCredits, List.mem_filterMap, List.mem_append] at hcr
      obtain ⟨e, (he | he) | he, hce⟩ := hcr
      · rw [(hl e (List.mem_append_left _ he)).1] at hce
        cases hce
      · obtain ⟨r, hr, info, rfl⟩ := markReceipts_log h3 e he
        simp only [Log.receiptCredit, Option.some.injEq] at hce
        exact ⟨r, hr, hce.symm⟩
      · rw [(hl e (List.mem_append_right _ he)).1] at hce
        cases hce
  | initializeBlockchainID =>
    obtain ⟨-, -, -, -, hl⟩ := initializeBlockchainID_eq_ok ctx h
    rcases hl with rfl | rfl <;> simp [receiptCredits] at hcr
  | sendCrossChainMessage =>
    obtain ⟨_, _, _, -, h2⟩ := sendCrossChainMessage_eq_ok ctx h
    rw [sendTeleporterMessage_receiptCredits h2] at hcr
    cases hcr
  | sendSpecifiedReceipts =>
    obtain ⟨_, _, -, h2⟩ := sendSpecifiedReceipts_eq_ok ctx h
    rw [sendTeleporterMessage_receiptCredits h2] at hcr
    cases hcr
  | retrySendCrossChainMessage =>
    obtain ⟨-, -, -, rfl⟩ := retrySendCrossChainMessage_eq_ok ctx h
    simp [receiptCredits] at hcr
  | addFeeAmount =>
    obtain ⟨-, -, -, -, -, -, -, rfl⟩ := addFeeAmount_eq_ok h
    simp [receiptCredits] at hcr
  | retryMessageExecution =>
    obtain ⟨-, -, -, -, -, rfl⟩ := retryMessageExecution_eq_ok ctx h
    simp [receiptCredits] at hcr
  | redeemRelayerRewards =>
    obtain ⟨-, -, rfl⟩ := redeemRelayerRewards_eq_ok h
    simp [receiptCredits] at hcr

end

omit [DecidableEq B] [Zero B] in
theorem map_fst_receiptCredits (l : List (Log B)) :
    (receiptCredits l).map Prod.fst = settled l := by
  rw [receiptCredits, settled, List.map_filterMap]
  refine List.filterMap_congr fun e _ => ?_
  cases e <;> rfl

/-! ## The two chains -/

/-- The two chains of the network. -/
inductive Side
  | a
  | b
  deriving DecidableEq, Repr

/-- The chain across. -/
def Side.other : Side → Side
  | .a => .b
  | .b => .a

@[simp] theorem Side.other_ne (x : Side) : x.other ≠ x := by
  cases x <;> decide

theorem Side.eq_other_of_ne {x y : Side} (h : y ≠ x) : y = x.other := by
  cases x <;> cases y <;> simp_all [Side.other]

@[simp] theorem Side.other_other (x : Side) : x.other.other = x := by
  cases x <;> rfl

/-- What the two messengers share: the hash function and the address (the messenger is deployed
at the same address on every chain), and what each chain's warp precompile reports as its ID. -/
structure Chains (B : Type) where
  keccak256 : Preimage B → B
  self : Address
  chainID : Side → B

/-- The messenger's environment on side `x`. -/
def Chains.ctx (net : Chains B) (x : Side) : Context B := ⟨net.keccak256, net.self, net.chainID x⟩

omit [DecidableEq B] [Zero B] in
/-- Both messengers, with the calls each has run and what they logged. -/
structure Network (B : Type) where
  state : Side → State B
  trace : Side → List (Call B × List (Log B))

/-- Fresh storage on both chains. -/
def Network.init : Network B := ⟨fun _ => State.init, fun _ => []⟩

/-- Side `x` runs call `c`, reaching `s'` and logging `out`; the other side is untouched. -/
def Network.act (N : Network B) (x : Side) (c : Call B) (s' : State B) (out : List (Log B)) :
    Network B :=
  ⟨update N.state x s', update N.trace x (N.trace x ++ [(c, out)])⟩

section
variable (N : Network B) (x : Side) (c : Call B) (s' : State B) (out : List (Log B))

omit [DecidableEq B] [Zero B] in
@[simp] theorem Network.act_state_self : (N.act x c s' out).state x = s' := update_self ..

omit [DecidableEq B] [Zero B] in
@[simp] theorem Network.act_trace_self :
    (N.act x c s' out).trace x = N.trace x ++ [(c, out)] := update_self ..

omit [DecidableEq B] [Zero B] in
@[simp] theorem Network.act_state_other : (N.act x c s' out).state x.other = N.state x.other :=
  update_of_ne (Side.other_ne x) ..

omit [DecidableEq B] [Zero B] in
@[simp] theorem Network.act_trace_other : (N.act x c s' out).trace x.other = N.trace x.other :=
  update_of_ne (Side.other_ne x) ..

end

/-- A warp message side `x` can receive: the precompile attests that the messenger on the other
chain submitted it. -/
def Chains.Authentic (net : Chains B) (N : Network B) (x : Side) (w : WarpMessage B) : Prop :=
  w.sourceChainID = net.chainID x.other ∧ w.originSenderAddress = net.self ∧
    w.payload ∈ warpMessages (log (N.trace x.other))

/-- One call on one side. A receive takes an authentic warp message; whether it was delivered
before, and who relays it, is free. -/
inductive Chains.Step (net : Chains B) : Network B → Network B → Prop
  | call (N : Network B) (x : Side) (c : Call B) (s' : State B) (out : List (Log B))
      (hauth : ∀ sender w relayerRewardAddress execution,
        c = .receiveCrossChainMessage sender (some w) relayerRewardAddress execution →
        net.Authentic N x w)
      (h : step (net.ctx x) (N.state x) c = .ok (s', out)) :
      Chains.Step net N (N.act x c s' out)

/-- The networks reachable from fresh storage. -/
def Chains.Reachable (net : Chains B) (N : Network B) : Prop :=
  Relation.ReflTransGen net.Step Network.init N

variable {net : Chains B}

theorem Chains.Reachable.exec {N : Network B} (h : net.Reachable N) (y : Side) :
    Exec (step (net.ctx y)) State.init (N.trace y) (N.state y) := by
  induction h with
  | refl => exact .nil _
  | tail _ hs ih =>
    cases hs with | call x c s' out _ hc =>
    by_cases hy : y = x
    · subst hy
      rw [Network.act_state_self, Network.act_trace_self]
      exact ih.snoc hc
    · obtain rfl := Side.eq_other_of_ne hy
      rw [Network.act_state_other, Network.act_trace_other]
      exact ih

/-! ## Credits follow deliveries -/

/-- Every fee side `x` credits is for the message with some nonce from `x` to the other side,
which the other side delivered with the relayer credited. -/
def CreditInv (net : Chains B) (N : Network B) : Prop :=
  ∀ x m dst r, (m, dst, r) ∈ receiptCredits (log (N.trace x)) →
    dst = net.chainID x.other ∧ ∃ nonce,
      m = calculateMessageID (net.ctx x) (net.chainID x) (net.chainID x.other) nonce ∧
      (m, net.chainID x, ⟨nonce, r⟩) ∈ deliveries (log (N.trace x.other))

section
variable (hinj : ∀ x, IDInjective (net.ctx x)) (hmsg : ∀ x, MessageHashInjective (net.ctx x))
  (hne : ∀ x, MessageHashNonzero (net.ctx x))
include hinj hmsg hne

theorem Chains.Reachable.blockchainID {N : Network B} (h : net.Reachable N) {y : Side}
    (hd : deliveries (log (N.trace y)) ≠ []) : (N.state y).blockchainID = net.chainID y := by
  have hi := (sentInv_of_exec (hinj y) (hmsg y) (hne y) (h.exec y)).1
  rcases hi.blockchainID with h0 | h0
  · exact absurd (hi.no_deliveries h0) hd
  · exact h0

theorem Chains.Step.creditInv {N N' : Network B} (hN : net.Reachable N) (hs : net.Step N N')
    (hc : CreditInv net N) : CreditInv net N' := by
  have hN' : net.Reachable N' := hN.tail hs
  cases hs with | call x c s' out hauth h =>
  intro y m dst r hcr
  by_cases hy : y = x
  · subst hy
    rw [Network.act_trace_self, log_snoc, receiptCredits_append, List.mem_append] at hcr
    rw [Network.act_trace_other]
    rcases hcr with hcr | hcr
    · exact hc y m dst r hcr
    -- a new credit: a receipt of an authentic message from the other side
    obtain ⟨sender, w, rra, execution, rfl, hdst, hb, receipt, hr, he⟩ :=
      step_receiptCredits h _ hcr
    obtain ⟨hsrc, -, hw⟩ := hauth sender w rra execution rfl
    obtain ⟨⟨k, src, ⟨n, a⟩⟩, hd, hd₁, rfl⟩ :=
      (sentInv_of_exec (hinj _) (hmsg _) (hne _) (hN.exec y.other)).2.receipts _ hw receipt hr
    simp only [Prod.mk.injEq] at he hd₁
    obtain ⟨rfl, rfl, rfl⟩ := he
    -- the receiving side knows its ID, and so does the other side, which has delivered
    have hbs : s'.blockchainID = net.chainID y := by
      have hi := (sentInv_of_exec (hinj y) (hmsg y) (hne y) (hN'.exec y)).1
      rw [Network.act_state_self] at hi
      exact hi.blockchainID.resolve_left hb
    have hbo := hN.blockchainID hinj hmsg hne (List.ne_nil_of_mem hd)
    have hsrc' : src = net.chainID y := by rw [hd₁, hdst, hbs]
    have hk : k = calculateMessageID (net.ctx y) (net.chainID y) (net.chainID y.other) n := by
      have := (sentInv_of_exec (hinj _) (hmsg _) (hne _) (hN.exec y.other)).1.delivery_id _ hd
      dsimp only at this
      rw [this, hbo, hsrc']
      rfl
    refine ⟨hsrc, n, by rw [hbs, hsrc], ?_⟩
    rw [hbs, hsrc, ← hk, ← hsrc']
    exact hd
  · obtain rfl := Side.eq_other_of_ne hy
    rw [Network.act_trace_other] at hcr
    rw [Side.other_other, Network.act_trace_self, log_snoc, deliveries_append]
    obtain ⟨h1, nonce, h2, h3⟩ := hc x.other m dst r hcr
    rw [Side.other_other] at h1 h2 h3
    exact ⟨h1, nonce, h2, List.mem_append_left _ h3⟩

theorem Chains.Reachable.creditInv {N : Network B} (h : net.Reachable N) : CreditInv net N := by
  induction h with
  | refl =>
    intro x m dst r hcr
    simp [Network.init, receiptCredits] at hcr
  | tail hN hs ih => exact hs.creditInv hinj hmsg hne hN ih

theorem relayer_rewards_follow_deliveries {N : Network B} (h : net.Reachable N) (x : Side) :
    (∀ m dst r, (m, dst, r) ∈ receiptCredits (log (N.trace x)) →
      m ∈ sent (log (N.trace x)) ∧ dst = net.chainID x.other ∧ ∃ nonce,
        m = calculateMessageID (net.ctx x) (net.chainID x) (net.chainID x.other) nonce ∧
        (m, net.chainID x, ⟨nonce, r⟩) ∈ deliveries (log (N.trace x.other)) ∧
        (N.state x.other).receivedMessageNonces m = nonce ∧ nonce ≠ 0 ∧
        (N.state x.other).relayerRewardAddresses m = r) ∧
    ((receiptCredits (log (N.trace x))).map Prod.fst).Nodup := by
  have f := exec_feeStep (hne x) (h.exec x)
  have hdo := (sentInv_of_exec (hinj _) (hmsg _) (hne _) (h.exec x.other)).1
  refine ⟨fun m dst r hcr => ?_, ?_⟩
  · obtain ⟨hdst, nonce, hm, hd⟩ := h.creditInv hinj hmsg hne x m dst r hcr
    -- the fee was live when it was settled, and nothing is live in fresh storage
    have hs : m ∈ sent (log (N.trace x)) := by
      have hset : m ∈ settled (log (N.trace x)) := by
        rw [← map_fst_receiptCredits]
        exact List.mem_map_of_mem hcr
      rcases f.settled_sent m hset with hl | hs
      · simp [State.init, default] at hl
      · exact hs
    obtain ⟨hn, hnz⟩ := hdo.delivery_nonce _ hd
    exact ⟨hs, hdst, nonce, hm, hd, hn, hnz, hdo.reward_address _ hd⟩
  · rw [map_fst_receiptCredits]
    exact f.settled_nodup (hinj x) feeInv_init

end

/-- Two chains, `7` and `9`, hashing with `idealKeccak`. -/
def idealChains : Chains ℕ := ⟨idealKeccak, 1, fun | .a => 7 | .b => 9⟩

/-- The reply chain `9` sends: a fee-less message back to chain `7`. -/
def sampleReplyInput : TeleporterMessageInput ℕ := ⟨7, 0xA, ⟨0xF, 0⟩, 0, [], [0x2A]⟩

/-- Chain `7` sends `sampleInput`; chain `9` delivers it for relayer `0xC` and replies, the
reply carrying the receipt; chain `7` delivers the reply, credits `0xC` and pays it out. -/
theorem relayer_rewards_follow_deliveries_ideal :
    ∃ N : Network ℕ, idealChains.Reachable N ∧
    receiptCredits (log (N.trace .a)) = [(calculateMessageID (idealContext 1 7) 7 9 1, 9, 0xC)] ∧
    transferredOut 0xF (log (N.trace .a)) = 10 ∧
    (∀ m dst r, (m, dst, r) ∈ receiptCredits (log (N.trace .a)) →
      m ∈ sent (log (N.trace .a)) ∧ dst = idealChains.chainID Side.a.other ∧ ∃ nonce,
        m = calculateMessageID (idealChains.ctx .a) (idealChains.chainID .a)
          (idealChains.chainID Side.a.other) nonce ∧
        (m, idealChains.chainID .a, ⟨nonce, r⟩) ∈ deliveries (log (N.trace Side.a.other)) ∧
        (N.state Side.a.other).receivedMessageNonces m = nonce ∧ nonce ≠ 0 ∧
        (N.state Side.a.other).relayerRewardAddresses m = r) ∧
    ((receiptCredits (log (N.trace .a))).map Prod.fst).Nodup := by
  have h : idealChains.Reachable _ := .single (.call Network.init .a .initializeBlockchainID _ _
    (fun _ _ _ _ hc => by cases hc) (show _ = Except.ok (_, _) from rfl))
  have h := h.tail (.call _ .a (.sendCrossChainMessage 0xA sampleInput 10) _ _
    (fun _ _ _ _ hc => by cases hc) (show _ = Except.ok (_, _) from rfl))
  -- the warp message chain `7` submitted, delivered on chain `9`
  have h := h.tail (.call _ .b (.receiveCrossChainMessage 0xD
    (some ⟨7, 1, ⟨1, 0xA, 9, 0xB, 0, [], [], [0x2A]⟩⟩) 0xC ⟨true, true, true⟩) _ _
    (fun _ _ _ _ hc => by cases hc; exact ⟨rfl, rfl, by decide⟩)
    (show _ = Except.ok (_, _) from rfl))
  have h := h.tail (.call _ .b (.sendCrossChainMessage 0xE sampleReplyInput 0) _ _
    (fun _ _ _ _ hc => by cases hc) (show _ = Except.ok (_, _) from rfl))
  have h := h.tail (.call _ .a (.receiveCrossChainMessage 0xD (some sampleReply) 0xD
    ⟨true, true, true⟩) _ _ (fun _ _ _ _ hc => by cases hc; exact ⟨rfl, rfl, by decide⟩)
    (show _ = Except.ok (_, _) from rfl))
  have h := h.tail (.call _ .a (.redeemRelayerRewards 0xC 0xF) _ _
    (fun _ _ _ _ hc => by cases hc) (show _ = Except.ok (_, _) from rfl))
  exact ⟨_, h, rfl, rfl, relayer_rewards_follow_deliveries
    (fun x => show IDInjective (idealChains.ctx x) from idealContext_idInjective 1 _)
    (fun x => show MessageHashInjective (idealChains.ctx x) from
      idealContext_messageHashInjective 1 _)
    (fun x => show MessageHashNonzero (idealChains.ctx x) from
      idealContext_messageHashNonzero 1 _) h .a⟩

end Teleporter
