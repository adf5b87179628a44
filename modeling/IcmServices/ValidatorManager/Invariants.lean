import IcmServices.ValidatorManager.Step
import IcmServices.Lib.Finsum
import Mathlib.Logic.Relation
import Mathlib.Logic.Equiv.List

/-!
# The validator manager's invariants

Two invariants hold in every state reachable from `initialize`:

* `WeightInv`: the tracked total weight `_churnTracker.totalWeight` is the sum of the weights of
  the live validation periods (`PendingAdded`, `Active`, `PendingRemoved`), of which there are
  finitely many, and a period pending removal weighs nothing;
* `RegistryInv`: `_registeredValidators` indexes exactly the live periods by node ID, under
  nonzero IDs, and before the initial set is installed no period has a status.

Both are kept by every `ManagerStep` (`ManagerStep.weightInv`, `ManagerStep.registryInv`) and by
`initializeValidatorSet`, whose loop keeps `LoopInv`. Statuses move along `StatusStep`. The
proofs rest on two properties of SHA-256: no collision (`Sha256Injective`), so the initial
validators get distinct IDs, and no zero output (`Sha256Nonzero`), so the index can tell a
registered node from a free one.
-/

namespace ValidatorManager

open Solidity Function BigEndian Contract

variable {ID : Type} [DecidableEq ID] [Zero ID]

/-- SHA-256 has no collision. -/
def Sha256Injective (ctx : Context ID) : Prop := Injective ctx.sha256

/-- SHA-256 never hashes to `bytes32(0)`. -/
def Sha256Nonzero (ctx : Context ID) : Prop := ∀ b, ctx.sha256 b ≠ 0

@[simp] theorem Validator.view_eq {v : Validator} {a : ValidatorStatus} {b : Bytes} {c : ℕ} :
    v.view = (a, b, c) ↔ v.status = a ∧ v.nodeID = b ∧ v.weight = c := by
  simp [Validator.view]

theorem Validator.view_eq_view {v w : Validator} :
    v.view = w.view ↔ v.status = w.status ∧ v.nodeID = w.nodeID ∧ v.weight = w.weight :=
  Validator.view_eq

/-! ## Weights -/

/-- The weight a validation period counts with: its weight while it is live. -/
def liveWeight (v : Validator) : ℕ := if v.status.isLive then v.weight else 0

/-- `liveWeight` of a view. -/
def viewWeight (w : ValidatorStatus × Bytes × ℕ) : ℕ := if w.1.isLive then w.2.2 else 0

theorem liveWeight_eq_viewWeight (v : Validator) : liveWeight v = viewWeight v.view := rfl

/-- The set of live validation periods. -/
def liveIDs (s : State ID) : Set ID := {id | (s.validationPeriods id).status.isLive}

omit [DecidableEq ID] [Zero ID] in
theorem support_liveWeight_subset (s : State ID) :
    support (fun id => liveWeight (s.validationPeriods id)) ⊆ liveIDs s := by
  intro id hid
  by_contra hl
  have : (s.validationPeriods id).status.isLive = false := by simpa [liveIDs] using hl
  simp [liveWeight, this] at hid

omit [DecidableEq ID] [Zero ID] in
/-- The sum over the live periods, as a sum over all periods of their live weights. -/
theorem finsum_mem_liveIDs (s : State ID) :
    ∑ᶠ id ∈ liveIDs s, (s.validationPeriods id).weight =
      ∑ᶠ id, liveWeight (s.validationPeriods id) := by
  rw [finsum_mem_def]
  congr 1
  funext id
  simp [Set.indicator_apply, liveIDs, liveWeight]

section
variable {s s' : State ID} {id : ID} {w : ValidatorStatus × Bytes × ℕ}

omit [Zero ID] in
theorem Writes.liveWeight_eq (hw : Writes s s' id w) :
    (fun k => liveWeight (s'.validationPeriods k)) =
      update (fun k => liveWeight (s.validationPeriods k)) id (viewWeight w) := by
  funext k
  by_cases hk : k = id
  · subst hk
    rw [update_self, liveWeight_eq_viewWeight, hw.self]
  · rw [update_of_ne hk, liveWeight_eq_viewWeight, hw.others k hk]
    rfl

omit [Zero ID] in
theorem Writes.liveIDs_subset (hw : Writes s s' id w) : liveIDs s' ⊆ insert id (liveIDs s) := by
  intro k hk
  by_cases he : k = id
  · exact .inl he
  · have := hw.others k he
    simp only [Validator.view_eq_view] at this
    exact .inr (by simpa [liveIDs, this.1] using hk)

omit [Zero ID] in
theorem Writes.finsum_liveWeight (hw : Writes s s' id w) (hf : (liveIDs s).Finite) :
    (∑ᶠ k, liveWeight (s'.validationPeriods k)) + liveWeight (s.validationPeriods id) =
      (∑ᶠ k, liveWeight (s.validationPeriods k)) + viewWeight w := by
  rw [hw.liveWeight_eq]
  exact Mapping.finsum_update_add (hf.subset (support_liveWeight_subset s)) id _

end

/-- The tracked total weight is the weight of the live periods; a period pending removal weighs
nothing. -/
structure WeightInv (s : State ID) : Prop where
  live_finite : (liveIDs s).Finite
  total : s.churnTracker.totalWeight = ∑ᶠ id, liveWeight (s.validationPeriods id)
  pendingRemoved : ∀ id, (s.validationPeriods id).status = .pendingRemoved →
    (s.validationPeriods id).weight = 0

omit [DecidableEq ID] [Zero ID] in
theorem liveIDs_eq_empty {s : State ID} (hu : ∀ id, (s.validationPeriods id).status = .unknown) :
    liveIDs s = ∅ := by
  ext id
  simp [liveIDs, hu id, ValidatorStatus.isLive]

omit [DecidableEq ID] [Zero ID] in
theorem finsum_liveWeight_eq_zero {s : State ID}
    (hu : ∀ id, (s.validationPeriods id).status = .unknown) :
    ∑ᶠ id, liveWeight (s.validationPeriods id) = 0 := by
  simp [liveWeight, hu, ValidatorStatus.isLive]

omit [DecidableEq ID] [Zero ID] in
theorem WeightInv.of_unknown {s : State ID} (hu : ∀ id, (s.validationPeriods id).status = .unknown)
    (ht : s.churnTracker.totalWeight = 0) : WeightInv s :=
  ⟨liveIDs_eq_empty hu ▸ Set.finite_empty, ht.trans (finsum_liveWeight_eq_zero hu).symm,
    fun id h => by simp [hu id] at h⟩

section
variable {s s' : State ID}

omit [Zero ID] in
/-- One period written, with the total moved by the change of its live weight. -/
theorem WeightInv.write (hi : WeightInv s) {id : ID} {w : ValidatorStatus × Bytes × ℕ}
    (hw : Writes s s' id w)
    (ht : s'.churnTracker.totalWeight + liveWeight (s.validationPeriods id) =
      s.churnTracker.totalWeight + viewWeight w)
    (hpr : w.1 = .pendingRemoved → w.2.2 = 0) : WeightInv s' := by
  have hsum := hw.finsum_liveWeight hi.live_finite
  refine ⟨(hi.live_finite.insert id).subset hw.liveIDs_subset, ?_, fun k hk => ?_⟩
  · have := hi.total
    omega
  · by_cases he : k = id
    · subst he
      have := hw.self
      obtain ⟨w₁, w₂, w₃⟩ := w
      simp only [Validator.view_eq] at this
      rw [this.1] at hk
      rw [this.2.2]
      exact hpr hk
    · have := hw.others k he
      simp only [Validator.view_eq_view] at this
      rw [this.2.2]
      exact hi.pendingRemoved k (this.1 ▸ hk)

omit [DecidableEq ID] [Zero ID] in
theorem WeightInv.frame (hi : WeightInv s)
    (hv : ∀ id, (s'.validationPeriods id).view = (s.validationPeriods id).view)
    (ht : s'.churnTracker.totalWeight = s.churnTracker.totalWeight) : WeightInv s' := by
  have hk : ∀ id, (s'.validationPeriods id).status = (s.validationPeriods id).status ∧
      (s'.validationPeriods id).weight = (s.validationPeriods id).weight := fun id =>
    have := Validator.view_eq_view.1 (hv id)
    ⟨this.1, this.2.2⟩
  have hl : liveIDs s' = liveIDs s := by
    ext id
    simp [liveIDs, (hk id).1]
  refine ⟨hl ▸ hi.live_finite, ?_, fun id h => ?_⟩
  · rw [ht, hi.total]
    congr 1
    funext id
    simp [liveWeight, (hk id).1, (hk id).2]
  · rw [(hk id).2]
    exact hi.pendingRemoved id ((hk id).1 ▸ h)

/-- Every call but `initializeValidatorSet` keeps `WeightInv`. -/
theorem ManagerStep.weightInv (h : ManagerStep s s') (hi : WeightInv s) : WeightInv s' := by
  cases h with
  | frame hv _ ht _ => exact hi.frame hv ht
  | register id _ weight _ _ hst _ hw _ ht =>
    refine hi.write hw ?_ (by simp)
    simp [liveWeight, viewWeight, hst, ValidatorStatus.isLive, ht]
  | activate id hst hw _ ht =>
    refine hi.write hw ?_ (by simp)
    simp [liveWeight, viewWeight, hst, ValidatorStatus.isLive, ht]
  | reweigh id weight hst hw _ ht =>
    refine hi.write hw ?_ (by simp)
    simpa [liveWeight, viewWeight, hst, ValidatorStatus.isLive] using ht
  | beginRemoval id hst hw _ ht =>
    refine hi.write hw ?_ (by simp)
    simpa [liveWeight, viewWeight, hst, ValidatorStatus.isLive] using ht
  | complete id hst hw _ ht =>
    -- the period was pending removal, so it weighed nothing
    refine hi.write hw ?_ (by simp)
    simp [liveWeight, viewWeight, hst, ValidatorStatus.isLive, ht, hi.pendingRemoved id hst]
  | invalidate id hst hw _ ht =>
    refine hi.write hw ?_ (by simp)
    simpa [liveWeight, viewWeight, hst, ValidatorStatus.isLive] using ht

end

/-! ## The node ID index -/

/-- `_registeredValidators` indexes the live periods by node ID. -/
structure Indexed (s : State ID) : Prop where
  index : ∀ n, s.registeredValidators n ≠ 0 →
    (s.validationPeriods (s.registeredValidators n)).nodeID = n ∧
      (s.validationPeriods (s.registeredValidators n)).status.isLive
  live : ∀ id, (s.validationPeriods id).status.isLive →
    id ≠ 0 ∧ s.registeredValidators (s.validationPeriods id).nodeID = id

/-- The index, and no period before the initial set. -/
structure RegistryInv (s : State ID) : Prop extends Indexed s where
  fresh : s.initializedValidatorSet = false → ∀ id, (s.validationPeriods id).status = .unknown

omit [DecidableEq ID] in
theorem RegistryInv.of_unknown {s : State ID} (hu : ∀ id, (s.validationPeriods id).status = .unknown)
    (hr : ∀ n, s.registeredValidators n = 0) : RegistryInv s :=
  ⟨⟨fun n h => absurd (hr n) h, fun id h => by simp [hu id, ValidatorStatus.isLive] at h⟩,
    fun _ => hu⟩

section
variable {s s' : State ID} {id : ID}

theorem Indexed.write_fresh (hi : Indexed s) {st : ValidatorStatus} {n : Bytes} {w : ℕ}
    (hw : Writes s s' id (st, n, w)) (hst : (s.validationPeriods id).status = .unknown)
    (hid : id ≠ 0) (hn : s.registeredValidators n = 0) (hlive : st.isLive = true)
    (hr : s'.registeredValidators = update s.registeredValidators n id) : Indexed s' := by
  have hself := Validator.view_eq.1 hw.self
  refine ⟨fun n' hn' => ?_, fun k hk => ?_⟩
  · by_cases he : n' = n
    · subst he
      rw [hr, update_self]
      exact ⟨hself.2.1, hself.1 ▸ hlive⟩
    · rw [hr, update_of_ne he] at hn' ⊢
      obtain ⟨h1, h2⟩ := hi.index n' hn'
      -- the period indexed under `n'` is live, so it is not the fresh one
      have hne : s.registeredValidators n' ≠ id := by
        rintro heq
        rw [heq, hst] at h2
        exact absurd h2 (by decide)
      have := Validator.view_eq_view.1 (hw.others _ hne)
      exact ⟨this.2.1 ▸ h1, this.1 ▸ h2⟩
  · by_cases he : k = id
    · subst he
      refine ⟨hid, ?_⟩
      rw [hself.2.1, hr, update_self]
    · have := Validator.view_eq_view.1 (hw.others k he)
      obtain ⟨h1, h2⟩ := hi.live k (this.1 ▸ hk)
      have hne : (s.validationPeriods k).nodeID ≠ n := by
        rintro heq
        rw [heq, hn] at h2
        exact h1 h2.symm
      refine ⟨h1, ?_⟩
      rw [this.2.1, hr, update_of_ne hne, h2]

theorem Indexed.write_keep (hi : Indexed s) {st : ValidatorStatus} {w : ℕ}
    (hw : Writes s s' id (st, (s.validationPeriods id).nodeID, w))
    (hold : (s.validationPeriods id).status.isLive = true) (hlive : st.isLive = true)
    (hr : s'.registeredValidators = s.registeredValidators) : Indexed s' := by
  have hself := Validator.view_eq.1 hw.self
  refine ⟨fun n hn => ?_, fun k hk => ?_⟩
  · rw [hr] at hn ⊢
    obtain ⟨h1, h2⟩ := hi.index n hn
    by_cases he : s.registeredValidators n = id
    · rw [he] at h1 ⊢
      exact ⟨hself.2.1.trans h1, hself.1 ▸ hlive⟩
    · have := Validator.view_eq_view.1 (hw.others _ he)
      exact ⟨this.2.1 ▸ h1, this.1 ▸ h2⟩
  · rw [hr]
    by_cases he : k = id
    · subst he
      rw [hself.2.1]
      exact hi.live k hold
    · have := Validator.view_eq_view.1 (hw.others k he)
      rw [this.2.1]
      exact hi.live k (this.1 ▸ hk)

theorem Indexed.write_finish (hi : Indexed s) {st : ValidatorStatus} {w : ℕ}
    (hw : Writes s s' id (st, (s.validationPeriods id).nodeID, w))
    (hold : (s.validationPeriods id).status.isLive = true) (hlive : st.isLive = false)
    (hr : s'.registeredValidators =
      update s.registeredValidators (s.validationPeriods id).nodeID 0) : Indexed s' := by
  have hself := Validator.view_eq.1 hw.self
  obtain ⟨hid, hreg⟩ := hi.live id hold
  refine ⟨fun n hn => ?_, fun k hk => ?_⟩
  · by_cases he : n = (s.validationPeriods id).nodeID
    · rw [hr, he, update_self] at hn
      exact absurd rfl hn
    · rw [hr, update_of_ne he] at hn ⊢
      obtain ⟨h1, h2⟩ := hi.index n hn
      -- the period indexed under `n` is another node's, so not the one ending
      have hne : s.registeredValidators n ≠ id := by
        rintro heq
        rw [heq] at h1
        exact he h1.symm
      have := Validator.view_eq_view.1 (hw.others _ hne)
      exact ⟨this.2.1 ▸ h1, this.1 ▸ h2⟩
  · by_cases he : k = id
    · subst he
      rw [hself.1, hlive] at hk
      exact absurd hk (by decide)
    · have := Validator.view_eq_view.1 (hw.others k he)
      obtain ⟨h1, h2⟩ := hi.live k (this.1 ▸ hk)
      have hne : (s.validationPeriods k).nodeID ≠ (s.validationPeriods id).nodeID := by
        rintro heq
        rw [heq, hreg] at h2
        exact he h2.symm
      refine ⟨h1, ?_⟩
      rw [this.2.1, hr, update_of_ne hne, h2]

omit [DecidableEq ID] in
theorem RegistryInv.initialized_of_status (hi : RegistryInv s)
    (hst : (s.validationPeriods id).status ≠ .unknown) : s.initializedValidatorSet = true := by
  by_contra h
  exact hst (hi.fresh (by simpa using h) id)

omit [DecidableEq ID] in
theorem RegistryInv.fresh_of_writes {w : ValidatorStatus × Bytes × ℕ} (hi : RegistryInv s)
    (hw : Writes s s' id w) (hst : (s.validationPeriods id).status ≠ .unknown) :
    s'.initializedValidatorSet = false → ∀ k, (s'.validationPeriods k).status = .unknown := by
  intro h
  rw [hw.initialized, hi.initialized_of_status hst] at h
  exact absurd h (by decide)

/-- Every call but `initializeValidatorSet` keeps `RegistryInv`. -/
theorem ManagerStep.registryInv (h : ManagerStep s s') (hi : RegistryInv s) :
    RegistryInv s' := by
  cases h with
  | frame hv hr _ hinit =>
    have hk := fun id => Validator.view_eq_view.1 (hv id)
    refine ⟨⟨fun n hn => ?_, fun id hl => ?_⟩, fun h id => ?_⟩
    · rw [hr] at hn ⊢
      obtain ⟨h1, h2⟩ := hi.index n hn
      exact ⟨(hk _).2.1 ▸ h1, (hk _).1 ▸ h2⟩
    · rw [hr, (hk id).2.1]
      exact hi.live id ((hk id).1 ▸ hl)
    · rw [(hk id).1]
      exact hi.fresh (hinit ▸ h) id
  | register id nodeID weight hid hinit hst hn hw hr _ =>
    refine ⟨hi.write_fresh hw hst hid hn rfl hr, fun h => ?_⟩
    rw [hw.initialized, hinit] at h
    exact absurd h (by decide)
  | activate id hst hw hr _ =>
    refine ⟨hi.write_keep hw (by simp [hst, ValidatorStatus.isLive]) rfl hr,
      hi.fresh_of_writes hw (by simp [hst])⟩
  | reweigh id weight hst hw hr _ =>
    refine ⟨hi.write_keep hw (by simp [hst, ValidatorStatus.isLive]) rfl hr,
      hi.fresh_of_writes hw (by simp [hst])⟩
  | beginRemoval id hst hw hr _ =>
    refine ⟨hi.write_keep hw (by simp [hst, ValidatorStatus.isLive]) rfl hr,
      hi.fresh_of_writes hw (by simp [hst])⟩
  | complete id hst hw hr _ =>
    refine ⟨hi.write_finish hw (by simp [hst, ValidatorStatus.isLive]) rfl hr,
      hi.fresh_of_writes hw (by simp [hst])⟩
  | invalidate id hst hw hr _ =>
    refine ⟨hi.write_finish hw (by simp [hst, ValidatorStatus.isLive]) rfl hr,
      hi.fresh_of_writes hw (by simp [hst])⟩

end

/-! ## Statuses -/

/-- The moves of a validation period's status. -/
inductive StatusStep : ValidatorStatus → ValidatorStatus → Prop
  | register : StatusStep .unknown .pendingAdded
  | activate : StatusStep .pendingAdded .active
  | initiateRemoval : StatusStep .active .pendingRemoved
  | complete : StatusStep .pendingRemoved .completed
  | invalidate : StatusStep .pendingAdded .invalidated
  /-- Only for the initial validators. -/
  | initial : StatusStep .unknown .active

theorem StatusStep.not_completed {a : ValidatorStatus} : ¬ StatusStep .completed a := nofun

theorem StatusStep.not_invalidated {a : ValidatorStatus} : ¬ StatusStep .invalidated a := nofun

theorem StatusStep.rtc_final {a b : ValidatorStatus} (h : Relation.ReflTransGen StatusStep a b)
    (ha : a = .completed ∨ a = .invalidated) : b = a := by
  induction h with
  | refl => rfl
  | tail _ hs ih =>
    subst ih
    rcases ha with rfl | rfl
    · exact absurd hs StatusStep.not_completed
    · exact absurd hs StatusStep.not_invalidated

/-- A status kept, or moved along a `StatusStep` other than `initial`: what a call other than
`initializeValidatorSet` may do to it. -/
def StatusMove (a b : ValidatorStatus) : Prop :=
  b = a ∨ StatusStep a b ∧ ¬ (a = .unknown ∧ b = .active)

theorem StatusMove.rtc {a b : ValidatorStatus} (h : StatusMove a b) :
    Relation.ReflTransGen StatusStep a b := by
  rcases h with rfl | ⟨hs, -⟩
  · exact .refl
  · exact .single hs

section
variable {s s' : State ID}

omit [Zero ID] in
theorem Writes.statusMove {k : ID} {st st' : ValidatorStatus} {n : Bytes} {w : ℕ}
    (hw : Writes s s' k (st', n, w)) (hst : (s.validationPeriods k).status = st)
    (hm : StatusMove st st') (id : ID) :
    StatusMove (s.validationPeriods id).status (s'.validationPeriods id).status := by
  by_cases he : id = k
  · subst he
    rw [(Validator.view_eq.1 hw.self).1, hst]
    exact hm
  · exact .inl (Validator.view_eq_view.1 (hw.others id he)).1

theorem ManagerStep.status (h : ManagerStep s s') (id : ID) :
    StatusMove (s.validationPeriods id).status (s'.validationPeriods id).status := by
  cases h with
  | frame hv _ _ _ => exact .inl (Validator.view_eq_view.1 (hv id)).1
  | register k _ _ _ _ hst _ hw _ _ => exact hw.statusMove hst (.inr ⟨.register, by simp⟩) id
  | activate k hst hw _ _ => exact hw.statusMove hst (.inr ⟨.activate, by simp⟩) id
  | reweigh k _ hst hw _ _ => exact hw.statusMove hst (.inl rfl) id
  | beginRemoval k hst hw _ _ =>
    exact hw.statusMove hst (.inr ⟨.initiateRemoval, by simp⟩) id
  | complete k hst hw _ _ => exact hw.statusMove hst (.inr ⟨.complete, by simp⟩) id
  | invalidate k hst hw _ _ => exact hw.statusMove hst (.inr ⟨.invalidate, by simp⟩) id

end

/-! ## What a call keeps of a known period -/

/-- What a call keeps of a validation period that has a status: it keeps one and its starting
weight, its sent nonce does not go down, and a completed or invalidated period stays as it is. -/
structure PeriodMono (p p' : Validator) : Prop where
  known : p'.status ≠ .unknown
  startingWeight : p'.startingWeight = p.startingWeight
  sentNonce : p.sentNonce ≤ p'.sentNonce
  final : p.status = .completed ∨ p.status = .invalidated → p'.status = p.status

/-- `m'` keeps `PeriodMono` of every period that has a status in `m`. -/
def PeriodsMono (m m' : State ID) : Prop :=
  ∀ v, (m.validationPeriods v).status ≠ .unknown →
    PeriodMono (m.validationPeriods v) (m'.validationPeriods v)

theorem PeriodMono.refl {p : Validator} (h : p.status ≠ .unknown) : PeriodMono p p :=
  ⟨h, rfl, le_rfl, fun _ => rfl⟩

/-- A known period live after a call was live before it: an ended one stays ended. -/
theorem PeriodMono.isLive {p p' : Validator} (h : PeriodMono p p') (hp : p.status ≠ .unknown)
    (hl : p'.status.isLive = true) : p.status.isLive = true := by
  cases hs : p.status with
  | unknown => exact absurd hs hp
  | completed | invalidated =>
    rw [h.final (by simp [hs]), hs] at hl
    cases hl
  | pendingAdded | active | pendingRemoved => rfl

omit [Zero ID] in
theorem periodMono_update {m : ID → Validator} {k v : ID} {p : Validator}
    (hk : (m k).status ≠ .unknown → PeriodMono (m k) p) (hv : (m v).status ≠ .unknown) :
    PeriodMono (m v) (update m k p v) := by
  by_cases he : v = k
  · subst he
    rw [update_self]
    exact hk hv
  · rw [update_of_ne he]
    exact .refl hv

/-- Every call keeps the known periods as `PeriodMono` says, when a known period means the
initial set is installed. -/
theorem step_periodsMono {ctx : Context ID} {s s' : State ID} {c : Call ID} {l : List (Log ID)}
    (h : step ctx s c = .ok (s', l))
    (hinit : ∀ v, (s.validationPeriods v).status ≠ .unknown → s.initializedValidatorSet = true) :
    PeriodsMono s s' := by
  intro v hv
  cases c with
  | initializeValidatorSet =>
    have h1 := hinit v hv
    rw [(initializeValidatorSet_eq_ok h).1] at h1
    cases h1
  | initiateValidatorRegistration =>
    obtain ⟨⟨_, _, _⟩, h1, h2⟩ := map_eq_ok.1 h
    cases h2
    obtain ⟨_, _, -, -, -, -, hst, -, rfl⟩ := initiateValidatorRegistration_eq_ok h1
    exact periodMono_update (fun hk => absurd hst hk) hv
  | resendRegisterValidatorMessage =>
    rw [resendRegisterValidatorMessage_eq_ok h]
    exact .refl hv
  | completeValidatorRegistration =>
    obtain ⟨⟨_, _, _⟩, h1, h2⟩ := map_eq_ok.1 h
    cases h2
    obtain ⟨hst, rfl⟩ := completeValidatorRegistration_eq_ok h1
    exact periodMono_update (fun _ => ⟨by simp, rfl, le_rfl, by simp [hst]⟩) hv
  | initiateValidatorRemoval =>
    obtain ⟨_, hst, -, rfl⟩ := initiateValidatorRemoval_eq_ok h
    exact periodMono_update (fun _ => ⟨by simp, rfl, Nat.le_succ _, by simp [hst]⟩) hv
  | resendValidatorRemovalMessage =>
    rw [resendValidatorRemovalMessage_eq_ok h]
    exact .refl hv
  | completeValidatorRemoval =>
    obtain ⟨⟨_, _, _⟩, h1, h2⟩ := map_eq_ok.1 h
    cases h2
    rcases completeValidatorRemoval_eq_ok h1 with ⟨hst, rfl⟩ | ⟨hst, -, rfl⟩
    · exact periodMono_update (fun _ => ⟨by simp, rfl, le_rfl, by simp [hst]⟩) hv
    · exact periodMono_update (fun _ => ⟨by simp, rfl, le_rfl, by simp [hst]⟩) hv
  | initiateValidatorWeightUpdate =>
    obtain ⟨⟨_, _, _⟩, h1, h2⟩ := map_eq_ok.1 h
    cases h2
    obtain ⟨_, hst, -, rfl, rfl, -⟩ := initiateValidatorWeightUpdate_eq_ok h1
    exact periodMono_update (fun _ => ⟨by simp [hst], rfl, Nat.le_succ _, by simp [hst]⟩) hv
  | completeValidatorWeightUpdate =>
    obtain ⟨⟨_, _, _⟩, h1, h2⟩ := map_eq_ok.1 h
    cases h2
    obtain ⟨-, rfl⟩ := completeValidatorWeightUpdate_eq_ok h1
    exact periodMono_update (fun hk => ⟨hk, rfl, le_rfl, fun _ => rfl⟩) hv

/-! ## The initial validator set -/

/-- `sha256(abi.encodePacked(subnetID, i))`, the validation ID of the `i`-th initial validator. -/
def initialValidationID (ctx : Context ID) (subnetID : Bytes32) (i : ℕ) : ID :=
  ctx.sha256 (toBytes 32 subnetID.toNat ++ toBytes 4 i)

omit [DecidableEq ID] [Zero ID] in
theorem initialValidationID_inj {ctx : Context ID} (hinj : Sha256Injective ctx)
    {subnetID : Bytes32} {i j : ℕ} (hi : i < 2 ^ 32) (hj : j < 2 ^ 32)
    (h : initialValidationID ctx subnetID i = initialValidationID ctx subnetID j) : i = j :=
  toBytes_inj (by simpa using hi) (by simpa using hj) (List.append_cancel_left (hinj h))

/-- After `i` iterations of the loop from a state without periods: the periods written are the
active ones at the IDs of the indices before `i`, their weights add up to `total` and the index
is consistent. -/
structure LoopInv (ctx : Context ID) (subnetID : Bytes32) (i : ℕ) (s : State ID) (total : ℕ) :
    Prop where
  written : ∀ id, (s.validationPeriods id).status ≠ .unknown →
    (s.validationPeriods id).status = .active ∧ ∃ j < i, id = initialValidationID ctx subnetID j
  live_finite : (liveIDs s).Finite
  total : total = ∑ᶠ id, liveWeight (s.validationPeriods id)
  indexed : Indexed s

section
variable {ctx : Context ID} {subnetID : Bytes32} {timestamp : ℕ}

/-- One iteration: the `i`-th ID is fresh, so the new active period adds its weight. -/
theorem LoopInv.iteration (hinj : Sha256Injective ctx) (hnz : Sha256Nonzero ctx)
    {i total w : ℕ} {s s' : State ID} {n : Bytes} (hl : LoopInv ctx subnetID i s total)
    (hi : i < 2 ^ 32) (hw : Writes s s' (initialValidationID ctx subnetID i) (.active, n, w))
    (hn : s.registeredValidators n = 0)
    (hr : s'.registeredValidators =
      update s.registeredValidators n (initialValidationID ctx subnetID i)) :
    LoopInv ctx subnetID (i + 1) s' (total + w) := by
  set id := initialValidationID ctx subnetID i
  have hst : (s.validationPeriods id).status = .unknown := by
    by_contra hne
    obtain ⟨-, j, hj, he⟩ := hl.written id hne
    have := initialValidationID_inj hinj hi (by omega) he
    omega
  have hself := Validator.view_eq.1 hw.self
  refine ⟨fun k hk => ?_, (hl.live_finite.insert id).subset hw.liveIDs_subset, ?_,
    hl.indexed.write_fresh hw hst (hnz _) hn rfl hr⟩
  · by_cases he : k = id
    · subst he
      exact ⟨hself.1, i, by omega, rfl⟩
    · have := Validator.view_eq_view.1 (hw.others k he)
      obtain ⟨h1, j, hj, hk'⟩ := hl.written k (this.1 ▸ hk)
      exact ⟨this.1 ▸ h1, j, by omega, hk'⟩
  · have hsum := hw.finsum_liveWeight hl.live_finite
    have h0 : liveWeight (s.validationPeriods id) = 0 := by
      simp [liveWeight, hst, ValidatorStatus.isLive]
    have h1 : viewWeight (ValidatorStatus.active, n, w) = w := rfl
    rw [h0, h1, ← hl.total] at hsum
    omega

/-- The loop of `initializeValidatorSet` keeps `LoopInv`, one index per validator. -/
theorem initialValidatorsLoop_inv (hinj : Sha256Injective ctx) (hnz : Sha256Nonzero ctx) :
    ∀ {vs : List InitialValidator} {i total total' : ℕ} {s s' : State ID} {l : List (Log ID)},
      initialValidatorsLoop ctx timestamp subnetID i vs s total = .ok (s', total', l) →
      LoopInv ctx subnetID i s total → LoopInv ctx subnetID (i + vs.length) s' total'
  | [], i, total, total', s, s', l, h, hl => by
    simp only [initialValidatorsLoop, pure_eq_ok, Prod.mk.injEq] at h
    obtain ⟨rfl, rfl, -⟩ := h
    simpa using hl
  | v :: vs, i, total, total', s, s', l, h, hl => by
    simp only [initialValidatorsLoop, bind_eq_ok, require_eq_ok, checkedAdd_eq_ok,
      pure_eq_ok, Prod.mk.injEq] at h
    obtain ⟨_, hreg, _, -, t, ⟨-, rfl⟩, i', ⟨hi, rfl⟩, ⟨s₂, t₂, l₂⟩, hrest, rfl, rfl, -⟩ := h
    have := initialValidatorsLoop_inv hinj hnz hrest
      (hl.iteration hinj hnz (by omega) (writes_update rfl rfl rfl) hreg rfl)
    rwa [List.length_cons, ← Nat.add_assoc, Nat.add_right_comm]

omit [DecidableEq ID] in
theorem LoopInv.start {s : State ID} (hr : RegistryInv s) (hinit : s.initializedValidatorSet = false) :
    LoopInv ctx subnetID 0 s 0 := by
  have hu := hr.fresh hinit
  exact ⟨fun id h => absurd (hu id) h, liveIDs_eq_empty hu ▸ Set.finite_empty,
    (finsum_liveWeight_eq_zero hu).symm, hr.toIndexed⟩

/-- `initializeValidatorSet` establishes both invariants, and moves statuses from `unknown` to
`active` only. -/
theorem initializeValidatorSet_inv (hinj : Sha256Injective ctx) (hnz : Sha256Nonzero ctx)
    {s s' : State ID} {l : List (Log ID)} {conversionData : ConversionData}
    {message : Option (WarpMessage ID)} (hr : RegistryInv s)
    (h : initializeValidatorSet ctx s timestamp conversionData message = .ok (s', l)) :
    WeightInv s' ∧ RegistryInv s' ∧ ∀ id, (s.validationPeriods id).status = .unknown ∧
      ((s'.validationPeriods id).status = .unknown ∨ (s'.validationPeriods id).status = .active) := by
  simp only [initializeValidatorSet, bind_eq_ok, require_eq_ok, checkedMul_eq_ok, pure_eq_ok,
    Prod.mk.injEq] at h
  obtain ⟨_, hinit, _, -, _, -, _, -, _, -, _, -, ⟨s₁, t, l₁⟩, hloop, _, -, _, -, rfl, -⟩ := h
  have hL := initialValidatorsLoop_inv hinj hnz hloop (LoopInv.start hr hinit)
  have hact : ∀ id, (s₁.validationPeriods id).status = .unknown ∨
      (s₁.validationPeriods id).status = .active := fun id => by
    by_cases hu : (s₁.validationPeriods id).status = .unknown
    · exact .inl hu
    · exact .inr (hL.written id hu).1
  refine ⟨⟨hL.live_finite, hL.total, fun id h => ?_⟩, ⟨⟨hL.indexed.index, hL.indexed.live⟩, fun h => absurd h (by simp)⟩,
    fun id => ⟨hr.fresh hinit id, hact id⟩⟩
  rcases hact id with h' | h' <;> simp [h'] at h

end

/-! ## Along every run -/

section
variable {ctx : Context ID}

omit [DecidableEq ID] in
theorem validatorManagerInit_inv {settings : ValidatorManagerSettings} {s₀ : State ID}
    (h : validatorManagerInit settings = .ok s₀) : WeightInv s₀ ∧ RegistryInv s₀ := by
  simp only [validatorManagerInit, bind_eq_ok, require_eq_ok, pure_eq_ok] at h
  obtain ⟨_, -, _, -, _, -, rfl⟩ := h
  exact ⟨WeightInv.of_unknown (fun _ => rfl) rfl, RegistryInv.of_unknown (fun _ => rfl) (fun _ => rfl)⟩

theorem step_inv (hinj : Sha256Injective ctx) (hnz : Sha256Nonzero ctx) {s s' : State ID}
    {c : Call ID} {l : List (Log ID)} (hi : WeightInv s ∧ RegistryInv s)
    (h : step ctx s c = .ok (s', l)) : WeightInv s' ∧ RegistryInv s' := by
  by_cases hc : ∃ t cd m, c = .initializeValidatorSet t cd m
  · obtain ⟨t, cd, m, rfl⟩ := hc
    obtain ⟨h1, h2, -⟩ := initializeValidatorSet_inv hinj hnz hi.2 h
    exact ⟨h1, h2⟩
  · have hs := step_managerStep hnz (fun t cd m he => hc ⟨t, cd, m, he⟩) h
    exact ⟨hs.weightInv hi.1, hs.registryInv hi.2⟩

/-- What every call does to a status: it keeps it or moves it along a `StatusStep`, and only
`initializeValidatorSet` moves it from `unknown` to `active`. -/
theorem step_status (hinj : Sha256Injective ctx) (hnz : Sha256Nonzero ctx) {s s' : State ID}
    {c : Call ID} {l : List (Log ID)} (hi : RegistryInv s) (h : step ctx s c = .ok (s', l))
    (id : ID) :
    StatusMove (s.validationPeriods id).status (s'.validationPeriods id).status ∨
      (∃ t cd m, c = .initializeValidatorSet t cd m) ∧
        (s.validationPeriods id).status = .unknown ∧ (s'.validationPeriods id).status = .active := by
  by_cases hc : ∃ t cd m, c = .initializeValidatorSet t cd m
  · obtain ⟨t, cd, m, rfl⟩ := hc
    obtain ⟨-, -, hst⟩ := initializeValidatorSet_inv hinj hnz hi h
    obtain ⟨h1, h2 | h2⟩ := hst id
    · exact .inl (.inl (h2.trans h1.symm))
    · exact .inr ⟨⟨t, cd, m, rfl⟩, h1, h2⟩
  · exact .inl ((step_managerStep hnz (fun t cd m he => hc ⟨t, cd, m, he⟩) h).status id)

/-- Along a run from a state with both invariants, every status moves along `StatusStep`s. -/
theorem exec_status (hinj : Sha256Injective ctx) (hnz : Sha256Nonzero ctx) {s s' : State ID}
    {tr : List (Call ID × List (Log ID))} (h : Exec (step ctx) s tr s')
    (hi : WeightInv s ∧ RegistryInv s) :
    ∀ id, Relation.ReflTransGen StatusStep (s.validationPeriods id).status
      (s'.validationPeriods id).status := by
  have hstep : ∀ t c u out, WeightInv t ∧ RegistryInv t → step ctx t c = .ok (u, out) →
      ∀ id, Relation.ReflTransGen StatusStep (t.validationPeriods id).status
        (u.validationPeriods id).status := by
    intro t c u out ht hs id
    rcases step_status hinj hnz ht.2 hs id with hm | ⟨-, h1, h2⟩
    · exact hm.rtc
    · rw [h1, h2]
      exact .single .initial
  exact h.rel (fun t c u out ht hs => step_inv hinj hnz ht hs) hstep (fun _ _ => .refl)
    (fun _ _ _ h₁ h₂ id => (h₁ id).trans (h₂ id)) hi

omit [DecidableEq ID] in
theorem validatorManagerInit_status {settings : ValidatorManagerSettings} {s₀ : State ID}
    (h : validatorManagerInit settings = .ok s₀) (id : ID) :
    (s₀.validationPeriods id).status = .unknown := by
  simp only [validatorManagerInit, bind_eq_ok, require_eq_ok, pure_eq_ok] at h
  obtain ⟨_, -, _, -, _, -, rfl⟩ := h
  rfl

theorem reachable_inv (hinj : Sha256Injective ctx) (hnz : Sha256Nonzero ctx)
    {settings : ValidatorManagerSettings} {s₀ s : State ID} {tr : List (Call ID × List (Log ID))}
    (h0 : validatorManagerInit settings = .ok s₀) (h : Exec (step ctx) s₀ tr s) :
    WeightInv s ∧ RegistryInv s :=
  h.inv (fun _ _ _ _ ht hs => step_inv hinj hnz ht hs) (validatorManagerInit_inv h0)

end

section
variable {s : State ID} {n : Bytes} {id : ID}

omit [DecidableEq ID] in
theorem Indexed.registered_iff (hi : Indexed s) :
    s.registeredValidators n = id ∧ id ≠ 0 ↔
      (s.validationPeriods id).nodeID = n ∧ (s.validationPeriods id).status.isLive := by
  constructor
  · rintro ⟨rfl, hid⟩
    exact hi.index n hid
  · rintro ⟨rfl, hl⟩
    obtain ⟨hid, hr⟩ := hi.live id hl
    exact ⟨hr, hid⟩

omit [DecidableEq ID] in
theorem Indexed.live_unique (hi : Indexed s) {id₁ id₂ : ID}
    (h₁ : (s.validationPeriods id₁).status.isLive) (h₂ : (s.validationPeriods id₂).status.isLive)
    (hn : (s.validationPeriods id₁).nodeID = (s.validationPeriods id₂).nodeID) : id₁ = id₂ := by
  have e₁ := (hi.live id₁ h₁).2
  have e₂ := (hi.live id₂ h₂).2
  rw [← e₁, ← e₂, hn]

end

/-! ## The validator set over every run -/

/-- A SHA-256 with both properties: the bytes behind a leading `1`, read as a number. It shows
the assumptions can hold together, and is cheap to evaluate. -/
def idealSha256 (b : Bytes) : ℕ := ofBytes (1 :: b)

/-- A validator manager owned by `1`, hashing with `idealSha256`. -/
def idealContext : Context ℕ := ⟨idealSha256, 0, 0, ownedBy 1⟩

theorem idealContext_sha256Injective : Sha256Injective idealContext :=
  ofBytes_one_cons_injective

theorem idealContext_sha256Nonzero : Sha256Nonzero idealContext := by
  intro b
  change ofBytes (1 :: b) ≠ 0
  rw [ofBytes_one_cons]
  exact (Nat.add_pos_left (Nat.pow_pos (by norm_num)) _).ne'

/-- Settings that `initialize` accepts. -/
def idealSettings : ValidatorManagerSettings := ⟨0, 3600, 20⟩

/-- Three initial validators, of weights 10, 100 and 100. -/
def sampleConversion : ConversionData :=
  ⟨0, 0, 0, [⟨List.replicate 20 1, List.replicate 48 0, 10⟩,
    ⟨List.replicate 20 2, List.replicate 48 0, 100⟩, ⟨List.replicate 20 3, List.replicate 48 0, 100⟩]⟩

set_option maxRecDepth 20000 in
/-- A run from `initialize` that installs `sampleConversion`, registers a fourth validator of
weight 20, removes the first initial validator and raises the second to 105, all within one
churn period. -/
theorem sampleRun_exec : ∃ (s₀ s : State ℕ) (tr : List (Call ℕ × List (Log ℕ))),
    validatorManagerInit idealSettings = .ok s₀ ∧ Exec (step idealContext) s₀ tr s ∧
    s.churnTracker.totalWeight = 225 ∧
    (s.validationPeriods (initialValidationID idealContext 0 0)).status = .completed ∧
    (s.validationPeriods (initialValidationID idealContext 0 1)).weight = 105 ∧
    (s.validationPeriods (s.registeredValidators (List.replicate 20 4))).status = .pendingAdded :=
  ⟨_, _, _, rfl, .snoc (.snoc (.snoc (.snoc (.snoc (.snoc (.nil _)
    (show step idealContext _ (.initializeValidatorSet 0 sampleConversion (some ⟨0, 0,
      .subnetToL1Conversion (idealSha256 (packConversionData sampleConversion))⟩)) =
        .ok (_, _) from rfl))
    (show step idealContext _ (.initiateValidatorRegistration 1 10 (List.replicate 20 4)
      (List.replicate 48 0) ⟨0, []⟩ ⟨0, []⟩ 20) = .ok (_, _) from rfl))
    (show step idealContext _
      (.initiateValidatorRemoval 1 20 (initialValidationID idealContext 0 0)) =
        .ok (_, _) from rfl))
    (show step idealContext _ (.completeValidatorRemoval 1
      (some ⟨0, 0, .l1ValidatorRegistration (initialValidationID idealContext 0 0) false⟩)) =
        .ok (_, _) from rfl))
    (show step idealContext _
      (.initiateValidatorWeightUpdate 1 30 (initialValidationID idealContext 0 1) 105) =
        .ok (_, _) from rfl))
    (show step idealContext _ (.completeValidatorWeightUpdate 1
      (some ⟨0, 0, .l1ValidatorWeight (initialValidationID idealContext 0 1) 1 105⟩)) =
        .ok (_, _) from rfl),
    rfl, rfl, rfl, rfl⟩

section
variable {ctx : Context ID}

theorem total_weight_is_live_weight (hinj : Sha256Injective ctx) (hnz : Sha256Nonzero ctx)
    {settings : ValidatorManagerSettings} {s₀ s : State ID} {tr : List (Call ID × List (Log ID))}
    (h0 : validatorManagerInit settings = .ok s₀) (h : Exec (step ctx) s₀ tr s) :
    (liveIDs s).Finite ∧
      s.churnTracker.totalWeight = ∑ᶠ id ∈ liveIDs s, (s.validationPeriods id).weight ∧
      ∀ id, (s.validationPeriods id).status = .pendingRemoved →
        (s.validationPeriods id).weight = 0 := by
  have hi := (reachable_inv hinj hnz h0 h).1
  exact ⟨hi.live_finite, by rw [hi.total, finsum_mem_liveIDs], hi.pendingRemoved⟩

end

theorem total_weight_is_live_weight_churned : ∃ (s₀ s : State ℕ)
    (tr : List (Call ℕ × List (Log ℕ))),
    validatorManagerInit idealSettings = .ok s₀ ∧ Exec (step idealContext) s₀ tr s ∧
    s.churnTracker.totalWeight = 225 ∧
    (s.validationPeriods (initialValidationID idealContext 0 0)).status = .completed ∧
    (liveIDs s).Finite ∧
      s.churnTracker.totalWeight = ∑ᶠ id ∈ liveIDs s, (s.validationPeriods id).weight ∧
      ∀ id, (s.validationPeriods id).status = .pendingRemoved →
        (s.validationPeriods id).weight = 0 := by
  obtain ⟨s₀, s, tr, h0, h, ht, hA, -⟩ := sampleRun_exec
  exact ⟨s₀, s, tr, h0, h, ht, hA, total_weight_is_live_weight idealContext_sha256Injective
    idealContext_sha256Nonzero h0 h⟩

section
variable {ctx : Context ID}

theorem one_live_validation_per_node (hinj : Sha256Injective ctx) (hnz : Sha256Nonzero ctx)
    {settings : ValidatorManagerSettings} {s₀ s : State ID} {tr : List (Call ID × List (Log ID))}
    (h0 : validatorManagerInit settings = .ok s₀) (h : Exec (step ctx) s₀ tr s) :
    (∀ nodeID id, s.registeredValidators nodeID = id ∧ id ≠ 0 ↔
      (s.validationPeriods id).nodeID = nodeID ∧ (s.validationPeriods id).status.isLive) ∧
    (∀ id₁ id₂, (s.validationPeriods id₁).status.isLive →
      (s.validationPeriods id₂).status.isLive →
      (s.validationPeriods id₁).nodeID = (s.validationPeriods id₂).nodeID → id₁ = id₂) ∧
    (∀ id, Relation.ReflTransGen StatusStep .unknown (s.validationPeriods id).status) ∧
    (∀ c s' l, step ctx s c = .ok (s', l) → ∀ id,
      StatusMove (s.validationPeriods id).status (s'.validationPeriods id).status ∨
        (∃ t cd m, c = .initializeValidatorSet t cd m) ∧
          (s.validationPeriods id).status = .unknown ∧
          (s'.validationPeriods id).status = .active) ∧
    (∀ tr' s', Exec (step ctx) s tr' s' → ∀ id,
      (s.validationPeriods id).status = .completed ∨
        (s.validationPeriods id).status = .invalidated →
      (s'.validationPeriods id).status = (s.validationPeriods id).status) := by
  have hi := reachable_inv hinj hnz h0 h
  refine ⟨fun n id => hi.2.registered_iff, fun id₁ id₂ => hi.2.live_unique, fun id => ?_,
    fun c s' l hs id => step_status hinj hnz hi.2 hs id,
    fun tr' s' h' id hf => StatusStep.rtc_final (exec_status hinj hnz h' hi id) hf⟩
  have := exec_status hinj hnz h (validatorManagerInit_inv h0) id
  rwa [validatorManagerInit_status h0] at this

end

theorem one_live_validation_per_node_churned : ∃ (s₀ s : State ℕ)
    (tr : List (Call ℕ × List (Log ℕ))),
    validatorManagerInit idealSettings = .ok s₀ ∧ Exec (step idealContext) s₀ tr s ∧
    (s.validationPeriods (initialValidationID idealContext 0 0)).status = .completed ∧
    (s.validationPeriods (s.registeredValidators (List.replicate 20 4))).status = .pendingAdded ∧
    (∀ nodeID id, s.registeredValidators nodeID = id ∧ id ≠ 0 ↔
      (s.validationPeriods id).nodeID = nodeID ∧ (s.validationPeriods id).status.isLive) ∧
    (∀ id₁ id₂, (s.validationPeriods id₁).status.isLive →
      (s.validationPeriods id₂).status.isLive →
      (s.validationPeriods id₁).nodeID = (s.validationPeriods id₂).nodeID → id₁ = id₂) ∧
    (∀ id, Relation.ReflTransGen StatusStep .unknown (s.validationPeriods id).status) ∧
    (∀ c s' l, step idealContext s c = .ok (s', l) → ∀ id,
      StatusMove (s.validationPeriods id).status (s'.validationPeriods id).status ∨
        (∃ t cd m, c = .initializeValidatorSet t cd m) ∧
          (s.validationPeriods id).status = .unknown ∧
          (s'.validationPeriods id).status = .active) ∧
    (∀ tr' s', Exec (step idealContext) s tr' s' → ∀ id,
      (s.validationPeriods id).status = .completed ∨
        (s.validationPeriods id).status = .invalidated →
      (s'.validationPeriods id).status = (s.validationPeriods id).status) := by
  obtain ⟨s₀, s, tr, h0, h, -, hA, -, hD⟩ := sampleRun_exec
  exact ⟨s₀, s, tr, h0, h, hA, hD, one_live_validation_per_node idealContext_sha256Injective
    idealContext_sha256Nonzero h0 h⟩

end ValidatorManager
