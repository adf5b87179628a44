import IcmServices.Teleporter.Spec
import IcmServices.Lib.Finsum

/-!
# Fee accounting of the messenger

Fee tokens sit in one of two ledgers: `sentMessageInfo`, the fee of each message in flight, and
`_relayerRewardAmounts`, what each relayer may redeem. `FeeStep` says once everything a call can
do to them: nothing (`frame`), send a message with a fee, add to the fee of a live message,
move the fee of a live message to a relayer (`settle`), pay a relayer out (`redeem`), or several
of these in turn. `step_feeStep` proves that every entry point is such a step, and the facts
below are inductions over `FeeStep`:

* `FeeStep.conserve`: credits to the contract enter the ledgers and payouts leave them, token by
  token;
* `FeeStep.settled_*`: the fees a call settles were live or freshly issued, and are gone after;
* `fee_accounting_conserved`: along every run from fresh storage, for every token `T`, the fees
  in flight plus the rewards owed plus what was paid out equal what was credited, each message's
  fee is settled at most once, and a settled message can neither be paid again nor topped up.
-/

namespace Teleporter

open Solidity Function Contract

variable {B : Type} [DecidableEq B] [Zero B] (ctx : Context B)

/-! ## Fee totals -/

/-- The fee of one `sentMessageInfo` entry in token `T`; an entry with no hash holds none. -/
def feeOf (T : Address) (info : SentMessageInfo B) : ℕ :=
  if info.messageHash ≠ 0 ∧ info.feeInfo.feeTokenAddress = T then info.feeInfo.amount else 0

/-- Fees of the messages in flight, in token `T`. -/
noncomputable def totalFees (sentMessageInfo : B → SentMessageInfo B) (T : Address) : ℕ :=
  ∑ᶠ id, feeOf T (sentMessageInfo id)

/-- Rewards owed to all relayers, in token `T`. -/
noncomputable def totalRewards (relayerRewardAmounts : Address → Address → ℕ) (T : Address) : ℕ :=
  ∑ᶠ r, relayerRewardAmounts r T

/-- Tokens `T` a log entry credits to the contract. -/
def Log.credit (T : Address) : Log B → ℕ
  | .transferFrom t _ a => if t = T then a else 0
  | _ => 0

/-- Tokens `T` a log entry pays out of the contract. -/
def Log.debit (T : Address) : Log B → ℕ
  | .transfer t _ a => if t = T then a else 0
  | _ => 0

/-- The message whose fee a log entry settles. -/
def Log.settledID : Log B → Option B
  | .receiptReceived id _ _ _ => some id
  | _ => none

/-- Tokens `T` credited by `SafeERC20TransferFrom` over a log. -/
def transferredIn (T : Address) (l : List (Log B)) : ℕ := (l.map (Log.credit T)).sum

/-- Tokens `T` paid out over a log. -/
def transferredOut (T : Address) (l : List (Log B)) : ℕ := (l.map (Log.debit T)).sum

/-- The message a log entry announces as sent (`SendCrossChainMessage`). -/
def Log.sentID : Log B → Option B
  | .sendCrossChainMessage id _ _ _ => some id
  | _ => none

/-- The messages whose fees a log settles, in order. -/
def settled (l : List (Log B)) : List B := l.filterMap Log.settledID

/-- The messages a log announces as sent. -/
def sent (l : List (Log B)) : List B := l.filterMap Log.sentID

attribute [simp] Log.credit Log.debit Log.settledID Log.sentID

omit [DecidableEq B] [Zero B] in
@[simp] theorem transferredIn_nil (T : Address) : transferredIn T ([] : List (Log B)) = 0 := rfl

omit [DecidableEq B] [Zero B] in
@[simp] theorem transferredIn_cons (T : Address) (e : Log B) (l : List (Log B)) :
    transferredIn T (e :: l) = e.credit T + transferredIn T l := by
  simp [transferredIn]

omit [DecidableEq B] [Zero B] in
@[simp] theorem transferredOut_nil (T : Address) : transferredOut T ([] : List (Log B)) = 0 := rfl

omit [DecidableEq B] [Zero B] in
@[simp] theorem transferredOut_cons (T : Address) (e : Log B) (l : List (Log B)) :
    transferredOut T (e :: l) = e.debit T + transferredOut T l := by
  simp [transferredOut]

omit [DecidableEq B] [Zero B] in
@[simp] theorem sent_append (l₁ l₂ : List (Log B)) : sent (l₁ ++ l₂) = sent l₁ ++ sent l₂ := by
  simp [sent]

omit [DecidableEq B] [Zero B] in
@[simp] theorem transferredIn_append (T : Address) (l₁ l₂ : List (Log B)) :
    transferredIn T (l₁ ++ l₂) = transferredIn T l₁ + transferredIn T l₂ := by
  simp [transferredIn]

omit [DecidableEq B] [Zero B] in
@[simp] theorem transferredOut_append (T : Address) (l₁ l₂ : List (Log B)) :
    transferredOut T (l₁ ++ l₂) = transferredOut T l₁ + transferredOut T l₂ := by
  simp [transferredOut]

omit [DecidableEq B] [Zero B] in
@[simp] theorem settled_append (l₁ l₂ : List (Log B)) :
    settled (l₁ ++ l₂) = settled l₁ ++ settled l₂ := by
  simp [settled]

/-! ## What a call does to the fees -/

/-- The messenger has issued `id`: it is the ID of a nonce already used. -/
def Issued (s : State B) (id : B) : Prop :=
  ∃ src dst n, id = calculateMessageID ctx src dst n ∧ n ≤ s.messageNonce

/-- Everything a call can do to the nonce counter and the two fee ledgers. -/
inductive FeeStep : State B → State B → List (Log B) → Prop
  /-- Nothing of the fees changes; nothing is credited, paid or settled. -/
  | frame {s s' l} : s'.messageNonce = s.messageNonce → s'.sentMessageInfo = s.sentMessageInfo →
      s'.relayerRewardAmounts = s.relayerRewardAmounts → (∀ T, transferredIn T l = 0) →
      (∀ T, transferredOut T l = 0) → settled l = [] → FeeStep s s' l
  /-- A message with hash `h` and fee `adj` in `token` is sent under the next nonce. -/
  | send {s s' l} (src dst h : B) (token : Address) (adj : ℕ) : h ≠ 0 →
      s'.messageNonce = s.messageNonce + 1 →
      s'.sentMessageInfo = update s.sentMessageInfo
        (calculateMessageID ctx src dst (s.messageNonce + 1)) ⟨h, ⟨token, adj⟩⟩ →
      s'.relayerRewardAmounts = s.relayerRewardAmounts →
      (∀ T, transferredIn T l = if token = T then adj else 0) → (∀ T, transferredOut T l = 0) →
      settled l = [] → calculateMessageID ctx src dst (s.messageNonce + 1) ∈ sent l →
      FeeStep s s' l
  /-- `received` tokens are added to the fee of the live message `id`. -/
  | addFee {s s' l} (id : B) (received : ℕ) : (s.sentMessageInfo id).messageHash ≠ 0 →
      s'.messageNonce = s.messageNonce →
      s'.sentMessageInfo = update s.sentMessageInfo id
        ⟨(s.sentMessageInfo id).messageHash, ⟨(s.sentMessageInfo id).feeInfo.feeTokenAddress,
          (s.sentMessageInfo id).feeInfo.amount + received⟩⟩ →
      s'.relayerRewardAmounts = s.relayerRewardAmounts →
      (∀ T, transferredIn T l =
        if (s.sentMessageInfo id).feeInfo.feeTokenAddress = T then received else 0) →
      (∀ T, transferredOut T l = 0) → settled l = [] → FeeStep s s' l
  /-- The fee of the live message `id` goes to relayer `r`. -/
  | settle {s s' l} (id : B) (r : Address) : (s.sentMessageInfo id).messageHash ≠ 0 →
      s'.messageNonce = s.messageNonce → s'.sentMessageInfo = update s.sentMessageInfo id default →
      s'.relayerRewardAmounts = update s.relayerRewardAmounts r
        (update (s.relayerRewardAmounts r) (s.sentMessageInfo id).feeInfo.feeTokenAddress
          (s.relayerRewardAmounts r (s.sentMessageInfo id).feeInfo.feeTokenAddress +
            (s.sentMessageInfo id).feeInfo.amount)) →
      (∀ T, transferredIn T l = 0) → (∀ T, transferredOut T l = 0) → settled l = [id] →
      FeeStep s s' l
  /-- Relayer `r` is paid its whole reward in token `t`. -/
  | redeem {s s' l} (r t : Address) : s'.messageNonce = s.messageNonce →
      s'.sentMessageInfo = s.sentMessageInfo →
      s'.relayerRewardAmounts = update s.relayerRewardAmounts r
        (update (s.relayerRewardAmounts r) t 0) →
      (∀ T, transferredIn T l = 0) →
      (∀ T, transferredOut T l = if t = T then s.relayerRewardAmounts r t else 0) →
      settled l = [] → FeeStep s s' l
  | trans {s₁ s₂ s₃ l₁ l₂} : FeeStep s₁ s₂ l₁ → FeeStep s₂ s₃ l₂ → FeeStep s₁ s₃ (l₁ ++ l₂)

variable {ctx}

/-- `FeeStep` reads nothing of the start state but the nonce and the two ledgers. -/
theorem FeeStep.congr {s₀ s s' : State B} {l : List (Log B)} (h : FeeStep ctx s s' l)
    (hn : s₀.messageNonce = s.messageNonce) (hm : s₀.sentMessageInfo = s.sentMessageInfo)
    (hr : s₀.relayerRewardAmounts = s.relayerRewardAmounts) : FeeStep ctx s₀ s' l := by
  induction h generalizing s₀ with
  | frame h1 h2 h3 h4 h5 h6 =>
    exact .frame (h1.trans hn.symm) (h2.trans hm.symm) (h3.trans hr.symm) h4 h5 h6
  | send src dst h token adj hh h1 h2 h3 h4 h5 h6 h7 =>
    exact .send src dst h token adj hh (by rw [h1, hn]) (by rw [h2, hm, hn]) (h3.trans hr.symm)
      h4 h5 h6 (by rwa [hn])
  | addFee id received hl h1 h2 h3 h4 h5 h6 =>
    exact .addFee id received (by rwa [hm]) (h1.trans hn.symm) (by rw [h2, hm])
      (h3.trans hr.symm) (by simpa [hm] using h4) h5 h6
  | settle id r hl h1 h2 h3 h4 h5 h6 =>
    exact .settle id r (by rwa [hm]) (h1.trans hn.symm) (by rw [h2, hm]) (by rw [h3, hr, hm])
      h4 h5 h6
  | redeem r t h1 h2 h3 h4 h5 h6 =>
    exact .redeem r t (h1.trans hn.symm) (h2.trans hm.symm) (by rw [h3, hr])
      h4 (by simpa [hr] using h5) h6
  | trans _ h₂ ih₁ _ => exact .trans (ih₁ hn hm hr) h₂

theorem FeeStep.messageNonce_le {s s' : State B} {l : List (Log B)} (h : FeeStep ctx s s' l) :
    s.messageNonce ≤ s'.messageNonce := by
  induction h with
  | frame h1 => exact h1.ge
  | send _ _ _ _ _ _ h1 => omega
  | addFee _ _ _ h1 => exact h1.ge
  | settle _ _ _ h1 => exact h1.ge
  | redeem _ _ h1 => exact h1.ge
  | trans _ _ ih₁ ih₂ => exact ih₁.trans ih₂

omit [DecidableEq B] [Zero B] in
theorem Issued.mono {s s' : State B} {id : B} (h : Issued ctx s id)
    (hn : s.messageNonce ≤ s'.messageNonce) : Issued ctx s' id :=
  let ⟨src, dst, n, he, hle⟩ := h
  ⟨src, dst, n, he, hle.trans hn⟩

omit [DecidableEq B] [Zero B] in
theorem not_issued_next (hinj : IDInjective ctx) (s : State B) (src dst : B) :
    ¬ Issued ctx s (calculateMessageID ctx src dst (s.messageNonce + 1)) := by
  rintro ⟨src', dst', n, he, hle⟩
  have := (calculateMessageID_inj hinj he).2.2
  omega

theorem FeeStep.live (hinj : IDInjective ctx) {s s' : State B} {l : List (Log B)}
    (h : FeeStep ctx s s' l) {id : B} (hid : (s'.sentMessageInfo id).messageHash ≠ 0) :
    (s.sentMessageInfo id).messageHash ≠ 0 ∨ ¬ Issued ctx s id := by
  induction h with
  | frame _ h2 => exact .inl (by rwa [h2] at hid)
  | @send s _ _ src dst _ _ _ _ _ h2 =>
    rw [h2] at hid
    by_cases he : id = calculateMessageID ctx src dst (s.messageNonce + 1)
    · exact .inr (he ▸ not_issued_next hinj s src dst)
    · exact .inl (by rwa [update_of_ne he] at hid)
  | addFee id' _ hl _ h2 =>
    rw [h2] at hid
    by_cases he : id = id'
    · exact .inl (he ▸ hl)
    · exact .inl (by rwa [update_of_ne he] at hid)
  | settle id' _ _ _ h2 =>
    rw [h2] at hid
    by_cases he : id = id'
    · subst he; simp [default] at hid
    · exact .inl (by rwa [update_of_ne he] at hid)
  | redeem _ _ _ h2 => exact .inl (by rwa [h2] at hid)
  | trans h₁ _ ih₁ ih₂ =>
    rcases ih₂ hid with h | h
    · exact ih₁ h
    · exact .inr fun hi => h (hi.mono h₁.messageNonce_le)

/-! ## The fee invariant -/

/-- Finitely many messages hold fees and finitely many relayers are owed, and every live message
was issued. -/
structure FeeInv (ctx : Context B) (s : State B) : Prop where
  finite_fees : ∀ T, (support fun id => feeOf T (s.sentMessageInfo id)).Finite
  finite_rewards : ∀ T, (support fun r => s.relayerRewardAmounts r T).Finite
  issued : ∀ id, (s.sentMessageInfo id).messageHash ≠ 0 → Issued ctx s id

theorem feeInv_init : FeeInv ctx (State.init : State B) where
  finite_fees T := by simp [State.init, feeOf, default]
  finite_rewards T := by simp [State.init]
  issued id h := by simp [State.init, default] at h

theorem feeOf_of_hash_eq_zero {T : Address} {info : SentMessageInfo B} (h : info.messageHash = 0) :
    feeOf T info = 0 := by
  simp [feeOf, h]

theorem feeOf_of_hash_ne_zero {T : Address} {info : SentMessageInfo B} (h : info.messageHash ≠ 0) :
    feeOf T info = if info.feeInfo.feeTokenAddress = T then info.feeInfo.amount else 0 := by
  simp [feeOf, h]

theorem feeOf_mk (T : Address) {h : B} (token : Address) (amount : ℕ) (hh : h ≠ 0) :
    feeOf T ⟨h, ⟨token, amount⟩⟩ = if token = T then amount else 0 := by
  simp [feeOf, hh]

theorem feeOf_update (T : Address) (smi : B → SentMessageInfo B) (id : B)
    (info : SentMessageInfo B) :
    (fun k => feeOf T (update smi id info k)) = update (fun k => feeOf T (smi k)) id (feeOf T info) := by
  funext k
  exact apply_update (fun _ x => feeOf T x) smi id info k

theorem finite_fees_update {smi : B → SentMessageInfo B} {T : Address}
    (hf : (support fun id => feeOf T (smi id)).Finite) (id : B) (info : SentMessageInfo B) :
    (support fun k => feeOf T (update smi id info k)).Finite := by
  rw [feeOf_update]
  exact Mapping.Finite.update hf id _

theorem finite_rewards_update {rw : Address → Address → ℕ} {T : Address}
    (hf : (support fun r => rw r T).Finite) (r t : Address) (v : ℕ) :
    (support fun r' => update rw r (update (rw r) t v) r' T).Finite := by
  rw [Mapping.update_column]
  exact Mapping.Finite.update hf r _

theorem FeeStep.inv {s s' : State B} {l : List (Log B)} (h : FeeStep ctx s s' l)
    (hi : FeeInv ctx s) : FeeInv ctx s' := by
  induction h with
  | frame h1 h2 h3 =>
    exact ⟨by simpa [h2] using hi.finite_fees, by simpa [h3] using hi.finite_rewards,
      fun id hid => (hi.issued id (by rwa [h2] at hid)).mono h1.ge⟩
  | @send s _ _ src dst _ _ _ _ h1 h2 h3 =>
    refine ⟨fun T => by rw [h2]; exact finite_fees_update (hi.finite_fees T) _ _,
      by simpa [h3] using hi.finite_rewards, fun id hid => ?_⟩
    rw [h2] at hid
    by_cases he : id = calculateMessageID ctx src dst (s.messageNonce + 1)
    · exact ⟨src, dst, _, he, h1.ge⟩
    · exact (hi.issued id (by rwa [update_of_ne he] at hid)).mono (by omega)
  | addFee id' _ _ h1 h2 h3 =>
    refine ⟨fun T => by rw [h2]; exact finite_fees_update (hi.finite_fees T) _ _,
      by simpa [h3] using hi.finite_rewards, fun id hid => ?_⟩
    rw [h2] at hid
    by_cases he : id = id'
    · subst he; exact (hi.issued id (by simpa using hid)).mono h1.ge
    · exact (hi.issued id (by rwa [update_of_ne he] at hid)).mono h1.ge
  | settle id' _ _ h1 h2 h3 =>
    refine ⟨fun T => by rw [h2]; exact finite_fees_update (hi.finite_fees T) _ _,
      fun T => by rw [h3]; exact finite_rewards_update (hi.finite_rewards T) _ _ _,
      fun id hid => ?_⟩
    rw [h2] at hid
    by_cases he : id = id'
    · subst he; simp [default] at hid
    · exact (hi.issued id (by rwa [update_of_ne he] at hid)).mono h1.ge
  | redeem _ _ h1 h2 h3 =>
    exact ⟨by simpa [h2] using hi.finite_fees,
      fun T => by rw [h3]; exact finite_rewards_update (hi.finite_rewards T) _ _ _,
      fun id hid => (hi.issued id (by rwa [h2] at hid)).mono h1.ge⟩
  | trans _ _ ih₁ ih₂ => exact ih₂ (ih₁ hi)

/-! ## Conservation -/

theorem totalFees_update {smi : B → SentMessageInfo B} {T : Address}
    (hf : (support fun id => feeOf T (smi id)).Finite) (id : B) (info : SentMessageInfo B) :
    totalFees (update smi id info) T + feeOf T (smi id) = totalFees smi T + feeOf T info := by
  unfold totalFees
  rw [feeOf_update]
  exact Mapping.finsum_update_add hf id _

theorem totalRewards_update {rw : Address → Address → ℕ} {T : Address}
    (hf : (support fun r => rw r T).Finite) (r t : Address) (v : ℕ) :
    totalRewards (update rw r (update (rw r) t v)) T + rw r T =
      totalRewards rw T + update (rw r) t v T := by
  unfold totalRewards
  rw [Mapping.update_column]
  exact Mapping.finsum_update_add hf r _

/-- Per token, what a call credits enters the two ledgers and what it pays out leaves them. -/
theorem FeeStep.conserve (hinj : IDInjective ctx) {s s' : State B} {l : List (Log B)}
    (h : FeeStep ctx s s' l) (hi : FeeInv ctx s) (T : Address) :
    totalFees s'.sentMessageInfo T + totalRewards s'.relayerRewardAmounts T + transferredOut T l =
      totalFees s.sentMessageInfo T + totalRewards s.relayerRewardAmounts T +
        transferredIn T l := by
  induction h with
  | frame _ h2 h3 h4 h5 => rw [h2, h3, h4, h5]
  | @send s _ _ src dst hash token adj hh _ h2 h3 h4 h5 =>
    -- the fresh ID held no fee: it was not issued, and every live message was
    have hdead : (s.sentMessageInfo (calculateMessageID ctx src dst (s.messageNonce + 1))).messageHash
        = 0 := by
      by_contra hl
      exact not_issued_next hinj s src dst (hi.issued _ hl)
    have hf := totalFees_update (hi.finite_fees T) (calculateMessageID ctx src dst
      (s.messageNonce + 1)) ⟨hash, ⟨token, adj⟩⟩
    rw [feeOf_of_hash_eq_zero hdead, feeOf_mk T token adj hh] at hf
    rw [h2, h3, h4, h5]
    omega
  | @addFee s _ _ id received hl _ h2 h3 h4 h5 =>
    have hf := totalFees_update (hi.finite_fees T) id ⟨(s.sentMessageInfo id).messageHash,
      ⟨(s.sentMessageInfo id).feeInfo.feeTokenAddress,
        (s.sentMessageInfo id).feeInfo.amount + received⟩⟩
    rw [feeOf_of_hash_ne_zero hl, feeOf_mk T _ _ hl] at hf
    rw [h2, h3, h4, h5]
    split_ifs at hf ⊢ <;> omega
  | @settle s _ _ id r hl _ h2 h3 h4 h5 =>
    have hf := totalFees_update (hi.finite_fees T) id default
    have hr := totalRewards_update (hi.finite_rewards T) r
      (s.sentMessageInfo id).feeInfo.feeTokenAddress
      (s.relayerRewardAmounts r (s.sentMessageInfo id).feeInfo.feeTokenAddress +
        (s.sentMessageInfo id).feeInfo.amount)
    rw [feeOf_of_hash_ne_zero hl, feeOf_of_hash_eq_zero rfl] at hf
    rw [h2, h3, h4, h5]
    -- the reward grows in the fee's token only
    by_cases ht : (s.sentMessageInfo id).feeInfo.feeTokenAddress = T
    · rw [ht] at hr ⊢
      rw [update_self] at hr
      rw [if_pos ht] at hf
      omega
    · rw [update_of_ne (Ne.symm ht)] at hr
      rw [if_neg ht] at hf
      omega
  | @redeem s _ _ r t _ h2 h3 h4 h5 =>
    have hr := totalRewards_update (hi.finite_rewards T) r t 0
    rw [h2, h3, h4, h5]
    by_cases ht : t = T
    · subst ht
      rw [update_self] at hr
      rw [if_pos rfl]
      omega
    · rw [update_of_ne (Ne.symm ht)] at hr
      rw [if_neg ht]
      omega
  | trans h₁ _ ih₁ ih₂ =>
    have e₁ := ih₁ hi
    have e₂ := ih₂ (h₁.inv hi)
    rw [transferredIn_append, transferredOut_append]
    omega

/-! ## Settlement -/

theorem FeeStep.live_sent {s s' : State B} {l : List (Log B)} (h : FeeStep ctx s s' l) {id : B}
    (hid : (s'.sentMessageInfo id).messageHash ≠ 0) :
    (s.sentMessageInfo id).messageHash ≠ 0 ∨ id ∈ sent l := by
  induction h with
  | frame _ h2 => exact .inl (by rwa [h2] at hid)
  | @send s _ _ src dst _ _ _ _ _ h2 _ _ _ _ h7 =>
    rw [h2] at hid
    by_cases he : id = calculateMessageID ctx src dst (s.messageNonce + 1)
    · exact .inr (he ▸ h7)
    · exact .inl (by rwa [update_of_ne he] at hid)
  | addFee id' _ hl _ h2 =>
    rw [h2] at hid
    by_cases he : id = id'
    · exact .inl (he ▸ hl)
    · exact .inl (by rwa [update_of_ne he] at hid)
  | settle id' _ _ _ h2 =>
    rw [h2] at hid
    by_cases he : id = id'
    · subst he; simp [default] at hid
    · exact .inl (by rwa [update_of_ne he] at hid)
  | redeem _ _ _ h2 => exact .inl (by rwa [h2] at hid)
  | trans _ _ ih₁ ih₂ =>
    rw [sent_append]
    rcases ih₂ hid with h | h
    · rcases ih₁ h with h | h
      · exact .inl h
      · exact .inr (List.mem_append_left _ h)
    · exact .inr (List.mem_append_right _ h)

/-- A message whose fee a call settles was not settled before: it was live, or not yet issued. -/
theorem FeeStep.settled_before (hinj : IDInjective ctx) {s s' : State B} {l : List (Log B)}
    (h : FeeStep ctx s s' l) : ∀ id ∈ settled l,
      (s.sentMessageInfo id).messageHash ≠ 0 ∨ ¬ Issued ctx s id := by
  induction h with
  | settle id _ hl _ _ _ _ _ h6 =>
    intro id' hid
    rw [h6, List.mem_singleton] at hid
    exact .inl (hid ▸ hl)
  | trans h₁ _ ih₁ ih₂ =>
    intro id hid
    rw [settled_append, List.mem_append] at hid
    rcases hid with hid | hid
    · exact ih₁ id hid
    · rcases ih₂ id hid with hl | hn
      · exact h₁.live hinj hl
      · exact .inr fun hi => hn (hi.mono h₁.messageNonce_le)
  | frame _ _ _ _ _ h6 | send _ _ _ _ _ _ _ _ _ _ _ h6 | addFee _ _ _ _ _ _ _ _ h6
  | redeem _ _ _ _ _ _ _ h6 => simp [h6]

theorem FeeStep.settled_sent {s s' : State B} {l : List (Log B)} (h : FeeStep ctx s s' l) :
    ∀ id ∈ settled l, (s.sentMessageInfo id).messageHash ≠ 0 ∨ id ∈ sent l := by
  induction h with
  | settle id _ hl _ _ _ _ _ h6 =>
    intro id' hid
    rw [h6, List.mem_singleton] at hid
    exact .inl (hid ▸ hl)
  | trans h₁ _ ih₁ ih₂ =>
    intro id hid
    rw [settled_append, List.mem_append] at hid
    rw [sent_append, List.mem_append]
    rcases hid with hid | hid
    · exact (ih₁ id hid).imp_right .inl
    · rcases ih₂ id hid with hl | hs
      · exact (h₁.live_sent hl).imp_right .inl
      · exact .inr (.inr hs)
  | frame _ _ _ _ _ h6 | send _ _ _ _ _ _ _ _ _ _ _ h6 | addFee _ _ _ _ _ _ _ _ h6
  | redeem _ _ _ _ _ _ _ h6 => simp [h6]

theorem FeeStep.settled_after (hinj : IDInjective ctx) {s s' : State B} {l : List (Log B)}
    (h : FeeStep ctx s s' l) (hi : FeeInv ctx s) : ∀ id ∈ settled l,
      (s'.sentMessageInfo id).messageHash = 0 ∧ Issued ctx s' id := by
  induction h with
  | settle id _ hl h1 h2 _ _ _ h6 =>
    intro id' hid
    rw [h6, List.mem_singleton] at hid
    subst hid
    exact ⟨by rw [h2, update_self]; rfl, (hi.issued id' hl).mono h1.ge⟩
  | trans h₁ h₂ ih₁ ih₂ =>
    intro id hid
    rw [settled_append, List.mem_append] at hid
    rcases hid with hid | hid
    · -- settled by the first part: the second cannot make it live again, it is issued
      obtain ⟨hd, hs⟩ := ih₁ hi id hid
      refine ⟨?_, hs.mono h₂.messageNonce_le⟩
      by_contra hl
      rcases h₂.live hinj hl with hl | hn
      · exact hl hd
      · exact hn hs
    · exact ih₂ (h₁.inv hi) id hid
  | frame _ _ _ _ _ h6 | send _ _ _ _ _ _ _ _ _ _ _ h6 | addFee _ _ _ _ _ _ _ _ h6
  | redeem _ _ _ _ _ _ _ h6 => simp [h6]

theorem FeeStep.settled_nodup (hinj : IDInjective ctx) {s s' : State B} {l : List (Log B)}
    (h : FeeStep ctx s s' l) (hi : FeeInv ctx s) : (settled l).Nodup := by
  induction h with
  | settle _ _ _ _ _ _ _ _ h6 => simp [h6]
  | trans h₁ h₂ ih₁ ih₂ =>
    rw [settled_append, List.nodup_append]
    refine ⟨ih₁ hi, ih₂ (h₁.inv hi), fun a ha b hb hab => ?_⟩
    subst hab
    obtain ⟨hd, hs⟩ := h₁.settled_after hinj hi a ha
    rcases h₂.settled_before hinj a hb with hl | hn
    · exact hl hd
    · exact hn hs
  | frame _ _ _ _ _ h6 | send _ _ _ _ _ _ _ _ _ _ _ h6 | addFee _ _ _ _ _ _ _ _ h6
  | redeem _ _ _ _ _ _ _ h6 => simp [h6]

/-! ## Every entry point is a fee step -/

section
variable {s s' : State B} {l : List (Log B)}

theorem initializeBlockchainID_feeStep (h : initializeBlockchainID ctx s = .ok (s', l)) :
    FeeStep ctx s s' l := by
  obtain ⟨hs, -, -, -, hl⟩ := initializeBlockchainID_eq_ok ctx h
  refine .frame (by rw [hs]) (by rw [hs]) (by rw [hs]) ?_ ?_ ?_ <;>
    rcases hl with rfl | rfl <;> simp [settled]

theorem sendTeleporterMessage_feeStep (hne : MessageHashNonzero ctx) {sender : Address}
    {mi : TeleporterMessageInput B} {rs : List TeleporterMessageReceipt} {received : ℕ} {id : B}
    (h : sendTeleporterMessage ctx s sender mi rs received = .ok (id, s', l)) :
    FeeStep ctx s s' l := by
  obtain ⟨b, adj, l₁, l₂, h1, h2, -, rfl, rfl, rfl⟩ := sendTeleporterMessage_eq_ok ctx h
  have hl₁ := (initializeBlockchainID_eq_ok ctx h1).2.2.2.2
  refine .send b mi.destinationBlockchainID _ mi.feeInfo.feeTokenAddress adj (hne _) rfl rfl rfl
    ?_ ?_ ?_ (by simp [sent])
  all_goals
    rcases transferFee_eq_ok h2 with ⟨-, rfl, rfl⟩ | ⟨-, -, -, -, rfl⟩ <;>
      rcases hl₁ with hl₁ | hl₁ <;> simp [hl₁, settled]

theorem sendCrossChainMessage_feeStep (hne : MessageHashNonzero ctx) {sender : Address}
    {mi : TeleporterMessageInput B} {received : ℕ}
    (h : sendCrossChainMessage ctx s sender mi received = .ok (s', l)) : FeeStep ctx s s' l := by
  obtain ⟨_, _, _, -, h2⟩ := sendCrossChainMessage_eq_ok ctx h
  -- the receipt queue is not part of the fee state
  exact (sendTeleporterMessage_feeStep hne h2).congr rfl rfl rfl

theorem addFeeAmount_feeStep {sender feeTokenAddress : Address} {messageID : B}
    {additionalFeeAmount received : ℕ}
    (h : addFeeAmount s sender messageID feeTokenAddress additionalFeeAmount received =
      .ok (s', l)) : FeeStep ctx s s' l := by
  obtain ⟨-, -, hl, ht, -, -, rfl, rfl⟩ := addFeeAmount_eq_ok h
  refine .addFee messageID received hl rfl (by rw [ht]) rfl (fun T => ?_) (by simp) (by simp [settled])
  simp [ht]

theorem markReceipt_feeStep {src dst : B} {receipt : TeleporterMessageReceipt}
    (h : markReceipt ctx s src dst receipt = .ok (s', l)) : FeeStep ctx s s' l := by
  rcases markReceipt_eq_ok ctx h with ⟨-, rfl, rfl⟩ | ⟨hl, -, rfl, rfl⟩
  · exact .frame rfl rfl rfl (by simp) (by simp) (by simp [settled])
  · exact .settle _ _ hl rfl rfl rfl (by simp) (by simp) (by simp [settled])

theorem markReceipts_feeStep {src dst : B} {receipts : List TeleporterMessageReceipt}
    (h : markReceipts ctx src dst receipts s = .ok (s', l)) : FeeStep ctx s s' l :=
  markReceipts_induction ctx (FeeStep ctx)
    (fun _ => .frame rfl rfl rfl (by simp) (by simp) (by simp [settled]))
    (fun _ _ _ _ h => markReceipt_feeStep h) (fun _ _ _ _ _ h₁ h₂ => h₁.trans h₂) receipts s s' l h

theorem handleInitialMessageExecution_feeStep {id src : B} {m : TeleporterMessage B}
    {execution : Execution}
    (h : handleInitialMessageExecution ctx s id src m execution = .ok (s', l)) :
    FeeStep ctx s s' l := by
  obtain ⟨-, ⟨-, -, rfl, rfl⟩ | ⟨-, he⟩⟩ := handleInitialMessageExecution_eq_ok ctx h
  · exact .frame rfl rfl rfl (by simp) (by simp) (by simp [settled])
  · simp only [storeFailedMessageExecution, Prod.mk.injEq] at he
    obtain ⟨rfl, rfl⟩ := he
    exact .frame rfl rfl rfl (by simp) (by simp) (by simp [settled])

theorem receiveCrossChainMessage_feeStep {sender relayerRewardAddress : Address}
    {warpMessage : Option (WarpMessage B)} {execution : Execution}
    (h : receiveCrossChainMessage ctx s sender warpMessage relayerRewardAddress execution =
      .ok (s', l)) : FeeStep ctx s s' l := by
  obtain ⟨w, s₁, l₁, s₂, s₄, l₂, queue, -, -, h1, -, -, -, h2, h3, -, h4⟩ :=
    receiveCrossChainMessage_eq_ok ctx h
  have hs₂ := (markMessageReceived_eq_ok h2).2
  -- marking the message received and recording the reward address touch no fee
  have f₁₄ : FeeStep ctx s₁ s₄ l₂ :=
    (markReceipts_feeStep h3).congr (by split <;> simp [hs₂]) (by split <;> simp [hs₂])
      (by split <;> simp [hs₂])
  have f₄₅ : FeeStep ctx s₄ { s₄ with receiptQueues := update s₄.receiptQueues w.sourceChainID queue }
      [.receiveCrossChainMessage (calculateMessageID ctx w.sourceChainID s₁.blockchainID
        w.payload.messageNonce) w.sourceChainID sender relayerRewardAddress w.payload] :=
    .frame rfl rfl rfl (by simp) (by simp) (by simp [settled])
  have f := ((initializeBlockchainID_feeStep h1).trans f₁₄).trans f₄₅
  rcases h4 with ⟨-, rfl, rfl⟩ | ⟨-, l₄, h5, rfl⟩
  · exact f
  · exact f.trans (handleInitialMessageExecution_feeStep h5)

theorem retryMessageExecution_feeStep {src : B} {message : TeleporterMessage B}
    {hasCode success : Bool}
    (h : retryMessageExecution ctx s src message hasCode success = .ok (s', l)) :
    FeeStep ctx s s' l := by
  obtain ⟨-, -, -, -, rfl, rfl⟩ := retryMessageExecution_eq_ok ctx h
  exact .frame rfl rfl rfl (by simp) (by simp) (by simp [settled])

theorem redeemRelayerRewards_feeStep {sender feeAsset : Address}
    (h : redeemRelayerRewards s sender feeAsset = .ok (s', l)) : FeeStep ctx s s' l := by
  obtain ⟨-, rfl, rfl⟩ := redeemRelayerRewards_eq_ok h
  exact .redeem sender feeAsset rfl rfl rfl (by simp) (fun T => by simp) (by simp [settled])

/-- Every call of the messenger is a fee step. -/
theorem step_feeStep (hne : MessageHashNonzero ctx) {c : Call B} (h : step ctx s c = .ok (s', l)) :
    FeeStep ctx s s' l := by
  cases c with
  | initializeBlockchainID => exact initializeBlockchainID_feeStep h
  | sendCrossChainMessage => exact sendCrossChainMessage_feeStep hne h
  | retrySendCrossChainMessage =>
    obtain ⟨-, -, rfl, rfl⟩ := retrySendCrossChainMessage_eq_ok ctx h
    exact .frame rfl rfl rfl (by simp) (by simp) (by simp [settled])
  | addFeeAmount => exact addFeeAmount_feeStep h
  | receiveCrossChainMessage => exact receiveCrossChainMessage_feeStep h
  | retryMessageExecution => exact retryMessageExecution_feeStep h
  | sendSpecifiedReceipts =>
    obtain ⟨_, _, -, h2⟩ := sendSpecifiedReceipts_eq_ok ctx h
    exact sendTeleporterMessage_feeStep hne h2
  | redeemRelayerRewards => exact redeemRelayerRewards_feeStep h

end

theorem exec_feeStep (hne : MessageHashNonzero ctx) {s₀ s : State B}
    {tr : List (Call B × List (Log B))} (h : Exec (step ctx) s₀ tr s) :
    FeeStep ctx s₀ s (log tr) := by
  induction h with
  | nil => exact .frame rfl rfl rfl (by simp) (by simp) (by simp [settled])
  | snoc _ hc ih =>
    rw [log_snoc]
    exact ih.trans (step_feeStep hne hc)

/-! ## Along every run -/

/-- Fee accounting along every run from fresh storage: per token, the fees in flight plus the
rewards owed plus what was paid out equal what was credited; no message's fee is settled twice;
and a message that was settled or never sent holds no fee, so a receipt for it changes nothing
and `addFeeAmount` on it reverts. -/
theorem fee_accounting_conserved (hinj : IDInjective ctx) (hne : MessageHashNonzero ctx)
    {tr : List (Call B × List (Log B))} {s : State B} (h : Exec (step ctx) State.init tr s) :
    (∀ T, totalFees s.sentMessageInfo T + totalRewards s.relayerRewardAmounts T +
        transferredOut T (log tr) = transferredIn T (log tr)) ∧
      (settled (log tr)).Nodup ∧
      ∀ id, id ∈ settled (log tr) ∨ id ∉ sent (log tr) →
        (∀ src dst receipt, calculateMessageID ctx src dst receipt.receivedMessageNonce = id →
          markReceipt ctx s src dst receipt = .ok (s, [])) ∧
        ∀ sender token amount received r,
          addFeeAmount s sender id token amount received ≠ .ok r := by
  have f := exec_feeStep hne h
  have hi : FeeInv ctx State.init := feeInv_init
  -- fresh storage holds no fee and owes no reward
  have h0 : ∀ T, totalFees (State.init : State B).sentMessageInfo T = 0 ∧
      totalRewards (State.init : State B).relayerRewardAmounts T = 0 := fun T => by
    simp [totalFees, totalRewards, State.init, feeOf, default]
  refine ⟨fun T => ?_, f.settled_nodup hinj hi, fun id hid => ?_⟩
  · have := f.conserve hinj hi T
    rw [(h0 T).1, (h0 T).2] at this
    omega
  · have hdead : (s.sentMessageInfo id).messageHash = 0 := by
      rcases hid with hid | hid
      · exact (f.settled_after hinj hi id hid).1
      · by_contra hl
        rcases f.live_sent hl with hl | hs
        · exact hl (by simp [State.init, default])
        · exact hid hs
    refine ⟨fun src dst receipt he => ?_, fun sender token amount received r hr => ?_⟩
    · simp [markReceipt, he, hdead]
    · obtain ⟨r₁, r₂⟩ := r
      exact (addFeeAmount_eq_ok hr).2.2.1 hdead

/-- A run that sends `sampleInput`, tops its fee up to `15`, receives `sampleReply` (whose
receipt settles that fee for `0xC`) and pays `0xC` out. -/
theorem fee_accounting_conserved_ideal :
    ∃ (tr : List (Call ℕ × List (Log ℕ))) (s : State ℕ),
      Exec (step (idealContext 1 7)) State.init tr s ∧
      transferredIn 0xF (log tr) = 15 ∧ transferredOut 0xF (log tr) = 15 ∧
      settled (log tr) = [calculateMessageID (idealContext 1 7) 7 9 1] ∧
      (∀ T, totalFees s.sentMessageInfo T + totalRewards s.relayerRewardAmounts T +
          transferredOut T (log tr) = transferredIn T (log tr)) ∧
        (settled (log tr)).Nodup ∧
        ∀ id, id ∈ settled (log tr) ∨ id ∉ sent (log tr) →
          (∀ src dst receipt,
            calculateMessageID (idealContext 1 7) src dst receipt.receivedMessageNonce = id →
            markReceipt (idealContext 1 7) s src dst receipt = .ok (s, [])) ∧
          ∀ sender token amount received r,
            addFeeAmount s sender id token amount received ≠ .ok r := by
  have h := (Contract.Exec.nil State.init).snoc (show step (idealContext 1 7) _
    .initializeBlockchainID = Except.ok (_, _) from rfl)
  have h := h.snoc (show step (idealContext 1 7) _
    (.sendCrossChainMessage 0xA sampleInput 10) = Except.ok (_, _) from rfl)
  have h := h.snoc (show step (idealContext 1 7) _
    (.addFeeAmount 0xA (calculateMessageID (idealContext 1 7) 7 9 1) 0xF 5 5)
      = Except.ok (_, _) from rfl)
  have h := h.snoc (show step (idealContext 1 7) _
    (.receiveCrossChainMessage 0xD (some sampleReply) 0xD ⟨true, true, true⟩)
      = Except.ok (_, _) from rfl)
  have h := h.snoc (show step (idealContext 1 7) _
    (.redeemRelayerRewards 0xC 0xF) = Except.ok (_, _) from rfl)
  exact ⟨_, _, h, rfl, rfl, rfl,
    fee_accounting_conserved (idealContext_idInjective 1 7) (idealContext_messageHashNonzero 1 7) h⟩

end Teleporter
