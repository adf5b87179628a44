import IcmServices.ValidatorManager.Invariants

/-!
# The conversion data the P-Chain signs

`initializeValidatorSet` installs the initial validators of `conversionData` once
`sha256(packConversionData(conversionData))` is the conversion ID of a P-Chain
`SubnetToL1ConversionMessage` (`conversionMessage`). Its loop checks that every node ID has
20 bytes and is not registered yet; nothing checks the BLS keys.

* `initialValidatorsLoop_ok`, `initializeValidatorSet_ok`: the call succeeds on conversion data
  with distinct 20-byte node IDs, fewer than `2 ^ 32` validators and a total weight the churn
  check accepts, and `initialValidatorsLoop_installs` says what the loop writes: the `j`-th
  validator, active, at the `j`-th initial validation ID, and nothing else.
* `packConversionData_inj`: with 48-byte BLS keys the packed bytes determine the conversion data.
* Without that check they do not. `committedConversion` has two validators with 48-byte keys, the
  second key starting with a weight, a length 20 and a node ID; `shiftedConversion` reads the
  same bytes with the boundary moved into that key (`packConversionData_shift`). Both pass
  `initializeValidatorSet` with the one P-Chain message, and they install different validator
  sets with different total weights.
-/

namespace ValidatorManager

open Solidity Function BigEndian Contract

variable {ID : Type} [DecidableEq ID] [Zero ID]

/-- The P-Chain's `SubnetToL1ConversionMessage` for `conversionData`, as the warp precompile
returns it. -/
def conversionMessage (ctx : Context ID) (conversionData : ConversionData) : WarpMessage ID :=
  ⟨pChainBlockchainID, 0, .subnetToL1Conversion (ctx.sha256 (packConversionData conversionData))⟩

/-- The total weight of a list of initial validators. -/
def initialWeight (vs : List InitialValidator) : ℕ := (vs.map fun v => v.weight.toNat).sum

@[simp] theorem initialWeight_nil : initialWeight [] = 0 := rfl

@[simp] theorem initialWeight_cons (v : InitialValidator) (vs : List InitialValidator) :
    initialWeight (v :: vs) = v.weight.toNat + initialWeight vs := rfl

/-- The storage writes of one iteration of `initialValidatorsLoop`. -/
def writeInitialValidator (timestamp : ℕ) (validationID : ID) (v : InitialValidator)
    (s : State ID) : State ID :=
  { s with
    registeredValidators := update s.registeredValidators v.nodeID validationID
    validationPeriods := update s.validationPeriods validationID
      { s.validationPeriods validationID with
        status := .active
        nodeID := v.nodeID
        startingWeight := v.weight.toNat
        sentNonce := 0
        weight := v.weight.toNat
        startTime := timestamp % 2 ^ 64
        endTime := 0 } }

section
variable {ctx : Context ID} {timestamp : ℕ} {subnetID : Bytes32}

/-- One iteration of the loop: the checks, the writes and the rest of the loop. -/
theorem initialValidatorsLoop_cons_eq_ok {i total : ℕ} {v : InitialValidator}
    {vs : List InitialValidator} {s : State ID} {r : State ID × ℕ × List (Log ID)} :
    initialValidatorsLoop ctx timestamp subnetID i (v :: vs) s total = .ok r ↔
      s.registeredValidators v.nodeID = 0 ∧ v.nodeID.length = nodeIDLength ∧
      total + v.weight.toNat < 2 ^ 64 ∧ i + 1 < 2 ^ 32 ∧
      ∃ r', initialValidatorsLoop ctx timestamp subnetID (i + 1) vs
          (writeInitialValidator timestamp (initialValidationID ctx subnetID i) v s)
          (total + v.weight.toNat) = .ok r' ∧
        r = (r'.1, r'.2.1, .registeredInitialValidator (initialValidationID ctx subnetID i)
          (fixedNodeID v.nodeID) subnetID v.weight.toNat :: r'.2.2) := by
  simp only [initialValidatorsLoop, bind_eq_ok, require_eq_ok, checkedAdd_eq_ok, pure_eq_ok]
  constructor
  · rintro ⟨_, h1, _, h2, t, ⟨h3, rfl⟩, j, ⟨h4, rfl⟩, ⟨s', t', l'⟩, h5, rfl⟩
    exact ⟨h1, h2, h3, h4, (s', t', l'), h5, rfl⟩
  · rintro ⟨h1, h2, h3, h4, ⟨s', t', l'⟩, h5, rfl⟩
    exact ⟨(), h1, (), h2, _, ⟨h3, rfl⟩, _, ⟨h4, rfl⟩, (s', t', l'), h5, rfl⟩

/-- The loop succeeds on distinct, unregistered 20-byte node IDs whose weights fit a `uint64`,
and returns the total weight. -/
theorem initialValidatorsLoop_ok :
    ∀ {vs : List InitialValidator} {i total : ℕ} {s : State ID},
      (∀ v ∈ vs, v.nodeID.length = nodeIDLength) → (vs.map InitialValidator.nodeID).Nodup →
      (∀ v ∈ vs, s.registeredValidators v.nodeID = 0) → i + vs.length < 2 ^ 32 →
      total + initialWeight vs < 2 ^ 64 →
      ∃ s' l, initialValidatorsLoop ctx timestamp subnetID i vs s total =
        .ok (s', total + initialWeight vs, l)
  | [], i, total, s, _, _, _, _, _ => ⟨s, [], by simp [initialValidatorsLoop]⟩
  | v :: vs, i, total, s, hlen, hnd, hreg, hi, ht => by
    obtain ⟨hnv, hnd'⟩ := List.nodup_cons.1 hnd
    simp only [List.length_cons, initialWeight_cons] at hi ht
    -- the node IDs still to come differ from `v`'s, so the write leaves them unregistered
    have hreg' : ∀ w ∈ vs, (writeInitialValidator timestamp (initialValidationID ctx subnetID i)
        v s).registeredValidators w.nodeID = 0 := by
      intro w hw
      have hne : w.nodeID ≠ v.nodeID := fun he => hnv (he ▸ List.mem_map_of_mem hw)
      simp only [writeInitialValidator, update_of_ne hne]
      exact hreg w (.tail _ hw)
    obtain ⟨s', l, h⟩ : ∃ s' l, initialValidatorsLoop ctx timestamp subnetID (i + 1) vs
        (writeInitialValidator timestamp (initialValidationID ctx subnetID i) v s)
        (total + v.weight.toNat) = .ok (s', total + v.weight.toNat + initialWeight vs, l) :=
      initialValidatorsLoop_ok (fun w hw => hlen w (.tail _ hw)) hnd' hreg' (by omega) (by omega)
    refine ⟨s', .registeredInitialValidator (initialValidationID ctx subnetID i)
      (fixedNodeID v.nodeID) subnetID v.weight.toNat :: l, initialValidatorsLoop_cons_eq_ok.2
      ⟨hreg v List.mem_cons_self, hlen v List.mem_cons_self, by omega, by omega, _, h, ?_⟩⟩
    simp [Nat.add_assoc]

/-- The loop writes the node ID index and the validation periods, and nothing else. -/
theorem initialValidatorsLoop_frame :
    ∀ {vs : List InitialValidator} {i total total' : ℕ} {s s' : State ID} {l : List (Log ID)},
      initialValidatorsLoop ctx timestamp subnetID i vs s total = .ok (s', total', l) →
      ∃ registered periods,
        s' = { s with registeredValidators := registered, validationPeriods := periods }
  | [], i, total, total', s, s', l, h => by
    simp only [initialValidatorsLoop, pure_eq_ok, Prod.mk.injEq] at h
    obtain ⟨rfl, -, -⟩ := h
    exact ⟨_, _, rfl⟩
  | v :: vs, i, total, total', s, s', l, h => by
    obtain ⟨-, -, -, -, ⟨s₁, t₁, l₁⟩, hrest, he⟩ := initialValidatorsLoop_cons_eq_ok.1 h
    simp only [Prod.mk.injEq] at he
    obtain ⟨rfl, -, -⟩ := he
    obtain ⟨registered, periods, rfl⟩ := initialValidatorsLoop_frame hrest
    exact ⟨registered, periods, rfl⟩

theorem initialValidatorsLoop_maximumChurnPercentage {vs : List InitialValidator}
    {i total total' : ℕ} {s s' : State ID} {l : List (Log ID)}
    (h : initialValidatorsLoop ctx timestamp subnetID i vs s total = .ok (s', total', l)) :
    s'.maximumChurnPercentage = s.maximumChurnPercentage := by
  obtain ⟨_, _, rfl⟩ := initialValidatorsLoop_frame h
  rfl

/-- What the loop writes: from index `i`, the `j`-th validator, active with its node ID and
weight, at the `(i + j)`-th initial validation ID, and no other period. -/
theorem initialValidatorsLoop_installs (hinj : Sha256Injective ctx) :
    ∀ {vs : List InitialValidator} {i total total' : ℕ} {s s' : State ID} {l : List (Log ID)},
      initialValidatorsLoop ctx timestamp subnetID i vs s total = .ok (s', total', l) →
      i + vs.length < 2 ^ 32 →
      (∀ j (hj : j < vs.length),
        (s'.validationPeriods (initialValidationID ctx subnetID (i + j))).view =
          (.active, vs[j].nodeID, vs[j].weight.toNat)) ∧
      ∀ id, (∀ j < vs.length, id ≠ initialValidationID ctx subnetID (i + j)) →
        s'.validationPeriods id = s.validationPeriods id
  | [], i, total, total', s, s', l, h, _ => by
    simp only [initialValidatorsLoop, pure_eq_ok, Prod.mk.injEq] at h
    obtain ⟨rfl, -, -⟩ := h
    exact ⟨fun j hj => absurd hj (Nat.not_lt_zero j), fun _ _ => rfl⟩
  | v :: vs, i, total, total', s, s', l, h, hi => by
    obtain ⟨-, -, -, -, ⟨s₁, t₁, l₁⟩, hrest, he⟩ := initialValidatorsLoop_cons_eq_ok.1 h
    simp only [Prod.mk.injEq] at he
    obtain ⟨rfl, -, -⟩ := he
    simp only [List.length_cons] at hi
    obtain ⟨ih₁, ih₂⟩ := initialValidatorsLoop_installs hinj hrest (by omega)
    -- the `i`-th ID is none of the later ones
    have hfresh : ∀ j < vs.length,
        initialValidationID ctx subnetID i ≠ initialValidationID ctx subnetID (i + 1 + j) :=
      fun j _ he => by
        have := initialValidationID_inj hinj (by omega) (by omega) he
        omega
    refine ⟨fun j hj => ?_, fun id hid => ?_⟩
    · cases j with
      | zero =>
        rw [Nat.add_zero, ih₂ _ (hfresh · ·)]
        simp [writeInitialValidator, Validator.view]
      | succ j =>
        have := ih₁ j (by simpa using hj)
        rwa [show i + 1 + j = i + (j + 1) by omega] at this
    · have hne : id ≠ initialValidationID ctx subnetID i := by
        simpa using hid 0 (by simp)
      rw [ih₂ id fun j hj => by simpa [Nat.add_assoc, Nat.add_comm 1] using hid (j + 1) (by simp; omega)]
      simp [writeInitialValidator, update_of_ne hne]

end

/-- `initializeValidatorSet` succeeds on the conversion data of its P-Chain message when the node
IDs are distinct 20-byte IDs not registered yet, there are fewer than `2 ^ 32` validators and the
churn check accepts the total weight; the total weight becomes theirs. -/
theorem initializeValidatorSet_ok (ctx : Context ID) (timestamp : ℕ) {s : State ID}
    (conversionData : ConversionData) (hinit : s.initializedValidatorSet = false)
    (hchain : conversionData.validatorManagerBlockchainID = ctx.blockchainID)
    (hself : conversionData.validatorManagerAddress = ctx.self)
    (hlen : ∀ v ∈ conversionData.initialValidators, v.nodeID.length = nodeIDLength)
    (hnd : (conversionData.initialValidators.map InitialValidator.nodeID).Nodup)
    (hreg : ∀ n, s.registeredValidators n = 0)
    (hn : conversionData.initialValidators.length < 2 ^ 32)
    (hw : initialWeight conversionData.initialValidators * s.maximumChurnPercentage < 2 ^ 64)
    (hmin : 100 ≤ initialWeight conversionData.initialValidators * s.maximumChurnPercentage) :
    ∃ s' l, initializeValidatorSet ctx s timestamp conversionData
        (some (conversionMessage ctx conversionData)) = .ok (s', l) ∧
      s'.churnTracker.totalWeight = initialWeight conversionData.initialValidators := by
  set W := initialWeight conversionData.initialValidators
  -- the percentage is positive, so the total weight fits a `uint64`
  have hW : W < 2 ^ 64 := by
    have hpos : 0 < s.maximumChurnPercentage := by
      rcases Nat.eq_zero_or_pos s.maximumChurnPercentage with h0 | h0
      · rw [h0, Nat.mul_zero] at hmin
        omega
      · exact h0
    exact lt_of_le_of_lt (Nat.le_mul_of_pos_right W hpos) hw
  obtain ⟨s₁, l₁, hloop⟩ : ∃ s₁ l₁, initialValidatorsLoop ctx timestamp conversionData.subnetID 0
      conversionData.initialValidators s 0 = .ok (s₁, 0 + W, l₁) :=
    initialValidatorsLoop_ok hlen hnd (fun v _ => hreg _) (by omega) (by omega)
  refine ⟨{ s₁ with
      churnTracker := { s₁.churnTracker with totalWeight := W }
      initializedValidatorSet := true }, l₁, ?_, rfl⟩
  rw [Nat.zero_add] at hloop
  have hmax := initialValidatorsLoop_maximumChurnPercentage hloop
  simp only [initializeValidatorSet, bind_eq_ok, require_eq_ok, checkedMul_eq_ok, pure_eq_ok]
  refine ⟨(), hinit, (), hchain, (), hself, conversionMessage ctx conversionData,
    rfl, _, rfl, (), rfl, _, hloop, _, ⟨by rwa [hmax], rfl⟩, (), by dsimp only; rw [hmax]; omega,
    rfl⟩

omit [DecidableEq ID] in
theorem validatorManagerInit_fresh {settings : ValidatorManagerSettings} {s₀ : State ID}
    (h : validatorManagerInit settings = .ok s₀) :
    s₀.initializedValidatorSet = false ∧ (∀ n, s₀.registeredValidators n = 0) ∧
      s₀.maximumChurnPercentage = settings.maximumChurnPercentage := by
  simp only [validatorManagerInit, bind_eq_ok, require_eq_ok, pure_eq_ok] at h
  obtain ⟨_, -, _, -, _, -, rfl⟩ := h
  exact ⟨rfl, fun _ => rfl, rfl⟩

/-! ## The failing input -/

/-- The node IDs of the failing input. -/
def nodeA : Bytes := List.replicate 20 1

def nodeB : Bytes := List.replicate 20 2

def nodeC : Bytes := List.replicate 20 3

/-- Two well-formed validators; the second BLS key starts with the bytes of a weight (200), of the
length 20 and of a node ID (`nodeC`). -/
def committedValidators : List InitialValidator :=
  [⟨nodeA, List.replicate 48 4, 100⟩,
    ⟨nodeB, toBytes 8 (200 : UInt64).toNat ++ toBytes 4 nodeC.length ++ nodeC ++
      List.replicate 16 5, 300⟩]

/-- The same bytes with the first key running over the rest of its record and the start of the
next: `nodeA` weighs 200, and `nodeC` replaces `nodeB`. -/
def shiftedValidators : List InitialValidator :=
  [⟨nodeA, List.replicate 48 4 ++ toBytes 8 (100 : UInt64).toNat ++ toBytes 4 nodeB.length ++
      nodeB, 200⟩,
    ⟨nodeC, List.replicate 16 5, 300⟩]

/-- The conversion the P-Chain signs, for a manager at `self` on `blockchainID`. -/
def committedConversion (blockchainID : Bytes32) (self : Address) : ConversionData :=
  ⟨0, blockchainID, self, committedValidators⟩

/-- Its shifted reading. -/
def shiftedConversion (blockchainID : Bytes32) (self : Address) : ConversionData :=
  ⟨0, blockchainID, self, shiftedValidators⟩

/-! ## The packed bytes determine well-formed conversion data -/

/-- A 20-byte node ID and a 48-byte BLS key, the widths of `packConversionData`'s table. -/
def InitialValidator.WellFormed (v : InitialValidator) : Prop :=
  v.nodeID.length = nodeIDLength ∧ v.blsPublicKey.length = blsPublicKeyLength

instance : DecidablePred InitialValidator.WellFormed := fun v =>
  inferInstanceAs
    (Decidable (v.nodeID.length = nodeIDLength ∧ v.blsPublicKey.length = blsPublicKeyLength))

theorem length_initialValidatorBytes (v : InitialValidator) :
    (initialValidatorBytes v).length = 4 + v.nodeID.length + v.blsPublicKey.length + 8 := by
  simp [initialValidatorBytes, packInitialValidator]
  omega

theorem initialValidatorBytes_inj {v w : InitialValidator} (hv : v.WellFormed)
    (hw : w.WellFormed) (h : initialValidatorBytes v = initialValidatorBytes w) : v = w := by
  obtain ⟨n, k, x⟩ := v
  obtain ⟨n', k', x'⟩ := w
  obtain ⟨hn, hk⟩ := hv
  obtain ⟨hn', hk'⟩ := hw
  simp only [initialValidatorBytes, packInitialValidator, List.nil_append] at h
  -- split the record from its end: weight, key, node ID
  obtain ⟨h₁, hx⟩ := List.append_inj' h (by simp)
  obtain ⟨h₂, hk₁⟩ := List.append_inj' h₁ (by rw [hk, hk'])
  obtain ⟨-, hn₁⟩ := List.append_inj' h₂ (by rw [hn, hn'])
  have hx₁ : x.toNat = x'.toNat :=
    toBytes_inj (lt_of_lt_of_le x.toNat_lt (by norm_num))
      (lt_of_lt_of_le x'.toNat_lt (by norm_num)) hx
  rw [hn₁, hk₁, UInt64.toNat_inj.1 hx₁]

theorem packConversionData_inj {c c' : ConversionData}
    (hc : ∀ v ∈ c.initialValidators, v.WellFormed) (hc' : ∀ v ∈ c'.initialValidators, v.WellFormed)
    (h : packConversionData c = packConversionData c') : c = c' := by
  rw [packConversionData_eq, packConversionData_eq] at h
  obtain ⟨hhead, hbody⟩ := List.append_inj h (by simp)
  -- the header's fields from its end: length, address, its length, chain ID, subnet ID
  obtain ⟨h₁, -⟩ := List.append_inj' hhead (by simp)
  obtain ⟨h₂, haddr⟩ := List.append_inj' h₁ (by simp)
  obtain ⟨h₃, -⟩ := List.append_inj' h₂ (by simp)
  obtain ⟨h₄, hchain⟩ := List.append_inj' h₃ (by simp)
  obtain ⟨-, hsubnet⟩ := List.append_inj' h₄ (by simp)
  have hlen : ∀ v : InitialValidator, v.WellFormed → (initialValidatorBytes v).length = 80 :=
    fun v hv => by rw [length_initialValidatorBytes, hv.1, hv.2]; rfl
  have hvs := flatMap_inj (by norm_num) (fun v hv => hlen v (hc v hv)) (fun v hv => hlen v (hc' v hv))
    (fun v hv w hw => initialValidatorBytes_inj (hc v hv) (hc' w hw)) hbody
  obtain ⟨subnetID, chainID, address, vs⟩ := c
  obtain ⟨subnetID', chainID', address', vs'⟩ := c'
  dsimp only at hvs hsubnet hchain haddr
  rw [toBytes_toNat_inj (by norm_num) hsubnet, toBytes_toNat_inj (by norm_num) hchain,
    toBytes_toNat_inj (by norm_num) haddr, hvs]

theorem packConversionData_inj_committed :
    (∀ v ∈ (committedConversion 0 0).initialValidators, v.WellFormed) ∧
      committedConversion 0 0 = committedConversion 0 0 :=
  have hc : ∀ v ∈ (committedConversion 0 0).initialValidators, v.WellFormed := by decide
  ⟨hc, packConversionData_inj hc hc rfl⟩

/-! ## Without the key check: two validator sets for one conversion ID -/

theorem shifted_conversion_installed (ctx : Context ID) (timestamp : ℕ) :
    (∀ v ∈ (committedConversion ctx.blockchainID ctx.self).initialValidators, v.WellFormed) ∧
    shiftedConversion ctx.blockchainID ctx.self ≠ committedConversion ctx.blockchainID ctx.self ∧
    packConversionData (shiftedConversion ctx.blockchainID ctx.self) =
      packConversionData (committedConversion ctx.blockchainID ctx.self) ∧
    ∃ s₀ : State ID, validatorManagerInit idealSettings = .ok s₀ ∧
      ∃ s₁ l₁ s₂ l₂,
        initializeValidatorSet ctx s₀ timestamp (committedConversion ctx.blockchainID ctx.self)
          (some (conversionMessage ctx (committedConversion ctx.blockchainID ctx.self))) =
            .ok (s₁, l₁) ∧
        initializeValidatorSet ctx s₀ timestamp (shiftedConversion ctx.blockchainID ctx.self)
          (some (conversionMessage ctx (committedConversion ctx.blockchainID ctx.self))) =
            .ok (s₂, l₂) ∧
        s₁.churnTracker.totalWeight = 400 ∧ s₂.churnTracker.totalWeight = 500 := by
  set c := committedConversion ctx.blockchainID ctx.self
  set c' := shiftedConversion ctx.blockchainID ctx.self
  have hpack : packConversionData c' = packConversionData c :=
    (packConversionData_shift c [] [] nodeA (List.replicate 48 4) nodeB nodeC
      (List.replicate 16 5) 100 200 300).symm
  have hmsg : conversionMessage ctx c' = conversionMessage ctx c := by
    rw [conversionMessage, conversionMessage, hpack]
  obtain ⟨s₀, h0⟩ : ∃ s₀ : State ID, validatorManagerInit idealSettings = .ok s₀ := ⟨_, rfl⟩
  obtain ⟨hinit, hreg, hmax⟩ := validatorManagerInit_fresh h0
  -- both lists pass the loop's checks, and the churn check at 20 percent
  have hw : initialWeight committedValidators = 400 := by decide
  have hw' : initialWeight shiftedValidators = 500 := by decide
  obtain ⟨s₁, l₁, h₁, ht₁⟩ := initializeValidatorSet_ok ctx timestamp c hinit rfl rfl
    (by decide : ∀ v ∈ committedValidators, v.nodeID.length = nodeIDLength)
    (by decide : (committedValidators.map InitialValidator.nodeID).Nodup) hreg
    (by decide : committedValidators.length < 2 ^ 32)
    (by rw [hmax]; exact hw ▸ (by decide : 400 * 20 < 2 ^ 64))
    (by rw [hmax]; exact hw ▸ (by decide : 100 ≤ 400 * 20))
  obtain ⟨s₂, l₂, h₂, ht₂⟩ := initializeValidatorSet_ok ctx timestamp c' hinit rfl rfl
    (by decide : ∀ v ∈ shiftedValidators, v.nodeID.length = nodeIDLength)
    (by decide : (shiftedValidators.map InitialValidator.nodeID).Nodup) hreg
    (by decide : shiftedValidators.length < 2 ^ 32)
    (by rw [hmax]; exact hw' ▸ (by decide : 500 * 20 < 2 ^ 64))
    (by rw [hmax]; exact hw' ▸ (by decide : 100 ≤ 500 * 20))
  refine ⟨(by decide : ∀ v ∈ committedValidators, v.WellFormed),
    fun h => (by decide : shiftedValidators ≠ committedValidators)
      (congrArg ConversionData.initialValidators h),
    hpack, s₀, h0, s₁, l₁, s₂, l₂, h₁, hmsg ▸ h₂, ht₁.trans hw, ht₂.trans hw'⟩

/-! ## Installing a signed conversion -/

section
variable {ctx : Context ID}

theorem initializeValidatorSet_installs_conversion (hinj : Sha256Injective ctx)
    (hnz : Sha256Nonzero ctx) {settings : ValidatorManagerSettings} {s₀ s : State ID}
    {tr : List (Call ID × List (Log ID))} (h0 : validatorManagerInit settings = .ok s₀)
    (h : Exec (step ctx) s₀ tr s) (hinit : s.initializedValidatorSet = false) (timestamp : ℕ)
    (conversionData : ConversionData)
    (hchain : conversionData.validatorManagerBlockchainID = ctx.blockchainID)
    (hself : conversionData.validatorManagerAddress = ctx.self)
    (hlen : ∀ v ∈ conversionData.initialValidators, v.nodeID.length = nodeIDLength)
    (hnd : (conversionData.initialValidators.map InitialValidator.nodeID).Nodup)
    (hn : conversionData.initialValidators.length < 2 ^ 32)
    (hw : initialWeight conversionData.initialValidators * s.maximumChurnPercentage < 2 ^ 64)
    (hmin : 100 ≤ initialWeight conversionData.initialValidators * s.maximumChurnPercentage) :
    ∃ s' l, initializeValidatorSet ctx s timestamp conversionData
        (some (conversionMessage ctx conversionData)) = .ok (s', l) ∧
      s'.churnTracker.totalWeight = initialWeight conversionData.initialValidators ∧
      (∀ j (hj : j < conversionData.initialValidators.length),
        (s'.validationPeriods (initialValidationID ctx conversionData.subnetID j)).view =
          (.active, conversionData.initialValidators[j].nodeID,
            conversionData.initialValidators[j].weight.toNat) ∧
        s'.registeredValidators conversionData.initialValidators[j].nodeID =
          initialValidationID ctx conversionData.subnetID j) ∧
      ∀ id, (∀ j < conversionData.initialValidators.length,
          id ≠ initialValidationID ctx conversionData.subnetID j) →
        (s'.validationPeriods id).status = .unknown := by
  have hi := (reachable_inv hinj hnz h0 h).2
  have hu := hi.fresh hinit
  -- no period is live, so no node ID is registered
  have hreg : ∀ n, s.registeredValidators n = 0 := fun n => by
    by_contra hne
    have := (hi.index n hne).2
    simp [hu, ValidatorStatus.isLive] at this
  obtain ⟨s', l, h', ht⟩ := initializeValidatorSet_ok ctx timestamp conversionData hinit hchain
    hself hlen hnd hreg hn hw hmin
  have hr' := (initializeValidatorSet_inv hinj hnz hi h').2.1
  refine ⟨s', l, h', ht, ?_⟩
  simp only [initializeValidatorSet, bind_eq_ok, require_eq_ok, checkedMul_eq_ok, pure_eq_ok,
    Prod.mk.injEq] at h'
  obtain ⟨_, -, _, -, _, -, _, -, _, -, _, -, ⟨s₁, t, l₁⟩, hloop, _, -, _, -, rfl, -⟩ := h'
  obtain ⟨hin, hout⟩ := initialValidatorsLoop_installs hinj hloop (by omega)
  refine ⟨fun j hj => ?_, fun id hid => ?_⟩
  · have hv := hin j hj
    rw [Nat.zero_add] at hv
    have hl : (s₁.validationPeriods (initialValidationID ctx conversionData.subnetID j)).status.isLive :=
      by simp [(Validator.view_eq.1 hv).1, ValidatorStatus.isLive]
    refine ⟨hv, ?_⟩
    have := (hr'.live _ hl).2
    rwa [(Validator.view_eq.1 hv).2.1] at this
  · rw [show s₁.validationPeriods id = s.validationPeriods id from
      hout id fun j hj => by simpa using hid j hj]
    exact hu id

end

theorem initializeValidatorSet_installs_committed : ∃ s₀ : State ℕ,
    validatorManagerInit idealSettings = .ok s₀ ∧ ∃ s' l,
      initializeValidatorSet idealContext s₀ 0 (committedConversion 0 0)
        (some (conversionMessage idealContext (committedConversion 0 0))) = .ok (s', l) ∧
      s'.churnTracker.totalWeight = initialWeight committedValidators := by
  obtain ⟨s₀, h0⟩ : ∃ s₀ : State ℕ, validatorManagerInit idealSettings = .ok s₀ := ⟨_, rfl⟩
  obtain ⟨hinit, -, hmax⟩ := validatorManagerInit_fresh h0
  obtain ⟨s', l, h', ht, -⟩ := initializeValidatorSet_installs_conversion
    idealContext_sha256Injective idealContext_sha256Nonzero h0 (Exec.nil _) hinit 0
    (committedConversion 0 0) rfl rfl (by decide) (by decide) (by decide)
    (by rw [hmax]; decide) (by rw [hmax]; decide)
  exact ⟨s₀, h0, s', l, h', ht⟩

end ValidatorManager
