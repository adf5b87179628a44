import IcmServices.Ethereum.BLST
import Mathlib.Data.Nat.Bitwise

/-!
# `ValidatorSets`: which validators signed

A signature over a message carries a bitmap of its signers: validator `i` of the set signed when
bit `7 - i % 8` of byte `i / 8` is set (`signed`), the bits of each byte read from the most
significant one. `filterValidators` walks the validators and the bitmap together and returns the
aggregate BLS public key and the weight of the signers; `verifyValidatorSetSignature` accepts a
signature whose signers hold `67 / 100` of the total weight and whose aggregate key verifies it.
Keys are added with `BLST.addG1` and signatures checked with `BLST.verifySignature`, over the
precompiles; an addition can revert, on a key that is not 128 bytes or in the precompile.

The loop is stated at the bit position it stands at (`Reading`): its byte loaded and its mask on
the position's bit. One round adds the validator when its bit is set (`checkBit`) and moves the
mask on (`shiftBit`), loading the next byte after the last bit of one.

* `filterLoop_eq_ok`, `filterLoop_ok`: the loop accumulates exactly the selected validators
  (`selectedFrom`), and it succeeds when their keys add up, no weight overflows and the bitmap
  has the byte of the position after the last validator.
* That byte is read even when no bit of it is needed: a set of `8 k` validators with a bitmap of
  `k` bytes is rejected (`filterValidators_reverts_at_byte_boundary`).
* `filterValidators_selects`: with a byte beyond the whole bytes of the set, the filter returns
  the aggregate key and the weight of exactly the signers when their keys add up, and fails
  otherwise.
-/

namespace ValidatorSets

open Solidity

/-- `Validator`. -/
structure Validator where
  blsPublicKey : Bytes
  weight : ℕ
  deriving DecidableEq, Repr

/-- The fields of `ValidatorSet` that a signature check reads. -/
structure ValidatorSet where
  validators : List Validator
  totalWeight : ℕ
  deriving DecidableEq, Repr

/-- `ValidatorSetSignature`. -/
structure ValidatorSetSignature where
  signers : Bytes
  signature : Bytes
  deriving DecidableEq, Repr

/-- `QUORUM_NUM`. -/
def quorumNum : ℕ := 67

/-- `QUORUM_DEN`. -/
def quorumDen : ℕ := 100

/-- The locals the loop of `filterValidators` carries. -/
structure FilterState where
  aggregatePublicKey : Bytes
  aggregateWeight : ℕ
  byteIndex : ℕ
  bitMask : ℕ
  currentByte : ℕ

/-- The key and the weight accumulated so far. -/
def FilterState.acc (st : FilterState) : Bytes × ℕ := (st.aggregatePublicKey, st.aggregateWeight)

section
variable (pc : BLST.Precompiles) (signers : Bytes)

/-- The aggregate key after a signer's key: added to the aggregate once some weight is in,
the signer's key alone before. -/
def addKey (aggregatePublicKey : Bytes) (aggregateWeight : ℕ) (blsPublicKey : Bytes) :
    Except String Bytes :=
  if aggregateWeight > 0 then BLST.addG1 pc aggregatePublicKey blsPublicKey else pure blsPublicKey

/-- The first half of a round: add `validator` when the mask's bit of the current byte is set. -/
def checkBit (validator : Validator) (st : FilterState) : Except String FilterState :=
  if st.currentByte &&& st.bitMask = st.bitMask then do
    let aggregatePublicKey ←
      addKey pc st.aggregatePublicKey st.aggregateWeight validator.blsPublicKey
    let aggregateWeight ← checkedAdd 64 st.aggregateWeight validator.weight
    pure { st with aggregatePublicKey, aggregateWeight }
  else pure st

/-- The second half: shift the mask one bit to the right, and after the last bit of a byte load
the next one. -/
def shiftBit (st : FilterState) : Except String FilterState := do
  let st := { st with bitMask := st.bitMask >>> 1 }
  if st.bitMask = 0 then do
    let byteIndex := st.byteIndex + 1
    let currentByte ← byteAt signers byteIndex
    pure { st with byteIndex, currentByte := currentByte.toNat, bitMask := 1 <<< 7 }
  else pure st

/-- The loop of `filterValidators` over the validators left. -/
def filterLoop : List Validator → FilterState → Except String FilterState
  | [], st => pure st
  | validator :: validators, st => do
    let st ← checkBit pc validator st
    let st ← shiftBit signers st
    filterLoop validators st

/-- `filterValidators`. -/
def filterValidators (validators : List Validator) : Except String (Bytes × ℕ) := do
  require (validators.length ≠ 0) "Cannot validate against an empty list of validators"
  let currentByte ← byteAt signers 0
  let st ← filterLoop pc signers validators ⟨[], 0, 0, 1 <<< 7, currentByte.toNat⟩
  pure (st.aggregatePublicKey, st.aggregateWeight)

end

/-- `verifyWeight`. -/
def verifyWeight (signatureWeight totalWeight : ℕ) : Bool :=
  let scaledTotalWeight := quorumNum * totalWeight
  let scaledSignatureWeight := quorumDen * signatureWeight
  decide (scaledTotalWeight ≤ scaledSignatureWeight)

/-- `verifyValidatorSetSignature`. -/
def verifyValidatorSetSignature (pc : BLST.Precompiles) (signature : ValidatorSetSignature)
    (message : Bytes) (validatorSet : ValidatorSet) : Except String Bool := do
  let (aggregateKey, aggregateWeight) ←
    filterValidators pc signature.signers validatorSet.validators
  if !verifyWeight aggregateWeight validatorSet.totalWeight then pure false
  else BLST.verifySignature pc aggregateKey signature.signature message

/-! ## The signers a bitmap selects -/

/-- Validator `i` signed: bit `7 - i % 8` of byte `i / 8` of the bitmap is set. -/
def signed (signers : Bytes) (i : ℕ) : Bool :=
  (signers.getD (i / 8) 0).toNat.testBit (7 - i % 8)

/-- The validators from position `i` on that the bitmap selects, in order. -/
def selectedFrom (signers : Bytes) : ℕ → List Validator → List Validator
  | _, [] => []
  | i, v :: vs =>
    if signed signers i then v :: selectedFrom signers (i + 1) vs
    else selectedFrom signers (i + 1) vs

/-- What the loop adds to the key and weight so far for a selected validator: the first key
with weight replaces the key, later ones are added to it. -/
def addSigner (pc : BLST.Precompiles) (acc : Bytes × ℕ) (v : Validator) :
    Except String (Bytes × ℕ) := do
  let key ← addKey pc acc.1 acc.2 v.blsPublicKey
  pure (key, acc.2 + v.weight)

/-- The aggregate of the keys of a list of validators, added in order. -/
def aggregateKey (pc : BLST.Precompiles) : List Validator → Except String Bytes
  | [] => pure []
  | v :: vs => vs.foldlM (fun key u => BLST.addG1 pc key u.blsPublicKey) v.blsPublicKey

/-! ## Bits of a byte -/

theorem and_two_pow_eq_self_iff (n k : ℕ) : n &&& 2 ^ k = 2 ^ k ↔ n.testBit k = true := by
  rw [Nat.and_two_pow]
  cases n.testBit k <;> simp [(Nat.two_pow_pos k).ne]

/-- One right shift moves the mask to the next lower bit, and past bit `0` to nothing. -/
theorem two_pow_shiftRight_one (k : ℕ) :
    2 ^ k >>> 1 = if k = 0 then 0 else 2 ^ (k - 1) := by
  rw [Nat.shiftRight_eq_div_pow, Nat.pow_one]
  cases k with
  | zero => rfl
  | succ k => rw [if_neg (Nat.succ_ne_zero k), Nat.pow_succ, Nat.mul_div_cancel _ (by decide),
      Nat.add_sub_cancel]

/-! ## One round of the loop -/

/-- The loop stands at bit position `i`: the byte of `i` loaded and the mask on its bit. -/
structure Reading (signers : Bytes) (i : ℕ) (st : FilterState) : Prop where
  inBounds : i / 8 < signers.length
  byteIndex : st.byteIndex = i / 8
  bitMask : st.bitMask = 2 ^ (7 - i % 8)
  currentByte : st.currentByte = (signers.getD (i / 8) 0).toNat

section
variable {pc : BLST.Precompiles} {signers : Bytes} {i : ℕ} {validator : Validator}
  {st st' : FilterState}

theorem Reading.bit_set_iff (hr : Reading signers i st) :
    st.currentByte &&& st.bitMask = st.bitMask ↔ signed signers i = true := by
  rw [hr.bitMask, hr.currentByte, and_two_pow_eq_self_iff]
  rfl

theorem addSigner_eq_ok {acc r : Bytes × ℕ} :
    addSigner pc acc validator = .ok r ↔
      addKey pc acc.1 acc.2 validator.blsPublicKey = .ok r.1 ∧ r.2 = acc.2 + validator.weight := by
  simp only [addSigner, bind_eq_ok, pure_eq_ok]
  constructor
  · rintro ⟨key, hkey, rfl⟩
    exact ⟨hkey, rfl⟩
  · rintro ⟨hkey, hw⟩
    exact ⟨r.1, hkey, Prod.ext rfl hw.symm⟩

/-- The first half of a round adds the validator exactly when it signed, and keeps the position. -/
theorem checkBit_eq_ok (hr : Reading signers i st) (h : checkBit pc validator st = .ok st') :
    Reading signers i st' ∧
      (signed signers i = true → st.aggregateWeight + validator.weight < 2 ^ 64) ∧
      (if signed signers i then addSigner pc st.acc validator else pure st.acc) = .ok st'.acc := by
  unfold checkBit at h
  split at h
  · rename_i hb
    have hs := hr.bit_set_iff.1 hb
    simp only [bind_eq_ok, checkedAdd_eq_ok, pure_eq_ok] at h
    obtain ⟨key, hkey, _, ⟨hw, rfl⟩, rfl⟩ := h
    refine ⟨⟨hr.inBounds, hr.byteIndex, hr.bitMask, hr.currentByte⟩, fun _ => hw, ?_⟩
    rw [if_pos hs, addSigner_eq_ok]
    exact ⟨hkey, rfl⟩
  · rename_i hb
    have hs : signed signers i = false := by
      simpa using mt hr.bit_set_iff.2 hb
    obtain rfl := pure_eq_ok.1 h
    exact ⟨hr, fun h => absurd h (by simp [hs]), by rw [if_neg (by simp [hs])]; rfl⟩

theorem checkBit_ok (hr : Reading signers i st)
    (hw : signed signers i = true → st.aggregateWeight + validator.weight < 2 ^ 64)
    (hadd : signed signers i = true → ∃ r, addSigner pc st.acc validator = .ok r) :
    ∃ st', checkBit pc validator st = .ok st' := by
  unfold checkBit
  split
  · rename_i hb
    have hs := hr.bit_set_iff.1 hb
    obtain ⟨r, hr'⟩ := hadd hs
    obtain ⟨hkey, -⟩ := addSigner_eq_ok.1 hr'
    exact ⟨_, by simp only [bind_eq_ok, checkedAdd_eq_ok, pure_eq_ok]; exact
      ⟨r.1, hkey, _, ⟨hw hs, rfl⟩, rfl⟩⟩
  · exact ⟨_, rfl⟩

theorem shiftBit_eq_ok (hr : Reading signers i st) (h : shiftBit signers st = .ok st') :
    Reading signers (i + 1) st' ∧ st'.aggregatePublicKey = st.aggregatePublicKey ∧
      st'.aggregateWeight = st.aggregateWeight := by
  dsimp only [shiftBit] at h
  have hm := two_pow_shiftRight_one (7 - i % 8)
  rw [← hr.bitMask] at hm
  split at h
  · -- past the last bit of the byte: `i % 8 = 7`, and the next byte is read
    rename_i h0
    have hi : i % 8 = 7 := by
      by_contra hne
      rw [if_neg (by omega)] at hm
      exact absurd (hm.symm.trans h0) (Nat.two_pow_pos _).ne'
    simp only [bind_eq_ok, byteAt_eq_ok, pure_eq_ok] at h
    obtain ⟨b, hb, rfl⟩ := h
    have hnext : (i + 1) / 8 = i / 8 + 1 := by omega
    rw [hr.byteIndex, ← hnext] at hb
    refine ⟨⟨(List.getElem?_eq_some_iff.1 hb).1, by rw [hr.byteIndex, hnext], ?_, ?_⟩, rfl, rfl⟩
    · rw [show (i + 1) % 8 = 0 by omega]
      rfl
    · simp [List.getD_eq_getElem?_getD, hb]
  · rename_i h0
    obtain rfl := pure_eq_ok.1 h
    have hi : i % 8 < 7 := by
      by_contra hge
      rw [if_pos (by omega)] at hm
      exact h0 hm
    have hsame : (i + 1) / 8 = i / 8 := by omega
    rw [if_neg (by omega)] at hm
    refine ⟨⟨by rw [hsame]; exact hr.inBounds, by rw [hsame]; exact hr.byteIndex, ?_,
      by rw [hsame]; exact hr.currentByte⟩, rfl, rfl⟩
    rw [show 7 - (i + 1) % 8 = 7 - i % 8 - 1 by omega]
    exact hm

theorem shiftBit_ok (hr : Reading signers i st) (hb : (i + 1) / 8 < signers.length) :
    ∃ st', shiftBit signers st = .ok st' := by
  dsimp only [shiftBit]
  split
  · rename_i h0
    have hi : i % 8 = 7 := by
      have hm := two_pow_shiftRight_one (7 - i % 8)
      rw [← hr.bitMask] at hm
      by_contra hne
      rw [if_neg (by omega)] at hm
      exact absurd (hm.symm.trans h0) (Nat.two_pow_pos _).ne'
    have hnext : st.byteIndex + 1 = (i + 1) / 8 := by
      rw [hr.byteIndex]
      omega
    simp only [bind_eq_ok, byteAt_eq_ok, pure_eq_ok, hnext]
    exact ⟨_, _, List.getElem?_eq_getElem hb, rfl⟩
  · exact ⟨_, rfl⟩

end

/-! ## The loop -/

section
variable {pc : BLST.Precompiles} {signers : Bytes}

@[simp] theorem selectedFrom_nil (i : ℕ) : selectedFrom signers i [] = [] := rfl

theorem selectedFrom_cons (i : ℕ) (v : Validator) (vs : List Validator) :
    selectedFrom signers i (v :: vs) =
      if signed signers i then v :: selectedFrom signers (i + 1) vs
      else selectedFrom signers (i + 1) vs := rfl

theorem foldlM_addSigner_snd : ∀ (vs : List Validator) {acc r : Bytes × ℕ},
    vs.foldlM (addSigner pc) acc = .ok r → r.2 = acc.2 + (vs.map Validator.weight).sum
  | [], acc, r, h => by
    obtain rfl := pure_eq_ok.1 h
    simp
  | v :: vs, acc, r, h => by
    rw [List.foldlM_cons, bind_eq_ok] at h
    obtain ⟨acc₁, h₁, h₂⟩ := h
    rw [foldlM_addSigner_snd vs h₂, (addSigner_eq_ok.1 h₁).2, List.map_cons, List.sum_cons]
    omega

theorem foldlM_addSigner_fst : ∀ (vs : List Validator) {acc r : Bytes × ℕ}, 0 < acc.2 →
    (vs.foldlM (addSigner pc) acc = .ok r ↔
      vs.foldlM (fun key u => BLST.addG1 pc key u.blsPublicKey) acc.1 = .ok r.1 ∧
        r.2 = acc.2 + (vs.map Validator.weight).sum)
  | [], acc, r, _ => by
    simp only [List.foldlM_nil, pure_eq_ok, List.map_nil, List.sum_nil, Nat.add_zero]
    constructor
    · rintro rfl
      exact ⟨rfl, rfl⟩
    · rintro ⟨h₁, h₂⟩
      exact Prod.ext h₁ h₂.symm
  | v :: vs, acc, r, hpos => by
    simp only [List.foldlM_cons, bind_eq_ok, addSigner_eq_ok, addKey, if_pos hpos]
    constructor
    · rintro ⟨acc₁, ⟨hkey, hw⟩, h⟩
      obtain ⟨hrest, hr⟩ := (foldlM_addSigner_fst vs (by omega)).1 h
      refine ⟨⟨acc₁.1, hkey, hrest⟩, ?_⟩
      rw [hr, hw, List.map_cons, List.sum_cons]
      omega
    · rintro ⟨⟨key, hkey, hrest⟩, hr⟩
      refine ⟨(key, acc.2 + v.weight), ⟨hkey, rfl⟩, ?_⟩
      refine (foldlM_addSigner_fst vs (by dsimp only; omega)).2 ⟨hrest, ?_⟩
      rw [hr, List.map_cons, List.sum_cons]
      dsimp only
      omega

/-- A round that accumulated `acc'` is the first step of the fold over the selected validators. -/
theorem foldlM_selectedFrom_cons {i : ℕ} {v : Validator} {vs : List Validator}
    {acc acc' r : Bytes × ℕ}
    (hacc : (if signed signers i then addSigner pc acc v else pure acc) = .ok acc') :
    (selectedFrom signers i (v :: vs)).foldlM (addSigner pc) acc = .ok r ↔
      (selectedFrom signers (i + 1) vs).foldlM (addSigner pc) acc' = .ok r := by
  rw [selectedFrom_cons]
  split at hacc
  · rw [if_pos ‹_›, List.foldlM_cons, hacc, ok_bind]
  · rw [if_neg ‹_›, pure_eq_ok.1 hacc]

theorem sum_selectedFrom_cons {i : ℕ} {v : Validator} {vs : List Validator}
    {acc acc' : Bytes × ℕ}
    (hacc : (if signed signers i then addSigner pc acc v else pure acc) = .ok acc') :
    acc.2 + ((selectedFrom signers i (v :: vs)).map Validator.weight).sum =
      acc'.2 + ((selectedFrom signers (i + 1) vs).map Validator.weight).sum := by
  rw [selectedFrom_cons]
  split at hacc
  · rw [if_pos ‹_›, List.map_cons, List.sum_cons, (addSigner_eq_ok.1 hacc).2]
    omega
  · rw [if_neg ‹_›, pure_eq_ok.1 hacc]

/-- With positive weights, the loop's fold from nothing succeeds exactly when the keys add up,
with the aggregate key and the total weight. -/
theorem foldlM_addSigner_eq_ok {vs : List Validator} (hpos : ∀ v ∈ vs, 0 < v.weight)
    {r : Bytes × ℕ} :
    vs.foldlM (addSigner pc) ([], 0) = .ok r ↔
      ∃ key, aggregateKey pc vs = .ok key ∧ r = (key, (vs.map Validator.weight).sum) := by
  cases vs with
  | nil =>
    simp only [List.foldlM_nil, pure_eq_ok, aggregateKey, List.map_nil, List.sum_nil]
    constructor
    · intro h
      exact ⟨[], rfl, h.symm⟩
    · rintro ⟨_, rfl, rfl⟩
      rfl
  | cons v vs =>
    have hv : 0 < v.weight := hpos v List.mem_cons_self
    -- the first signer's key replaces the empty key
    have h₀ : addSigner pc ([], 0) v = .ok (v.blsPublicKey, v.weight) :=
      addSigner_eq_ok.2 ⟨rfl, (Nat.zero_add _).symm⟩
    rw [List.foldlM_cons, h₀, ok_bind, foldlM_addSigner_fst vs hv]
    simp only [aggregateKey, List.map_cons, List.sum_cons]
    constructor
    · rintro ⟨hk, hw⟩
      exact ⟨r.1, hk, Prod.ext rfl hw⟩
    · rintro ⟨key, hk, rfl⟩
      exact ⟨hk, rfl⟩

/-- A successful loop from position `i` stands after the last validator and has added exactly
the selected ones. -/
theorem filterLoop_eq_ok : ∀ {vs : List Validator} {i : ℕ} {st st' : FilterState},
    Reading signers i st → filterLoop pc signers vs st = .ok st' →
    Reading signers (i + vs.length) st' ∧
      (selectedFrom signers i vs).foldlM (addSigner pc) st.acc = .ok st'.acc
  | [], i, st, st', hr, h => by
    obtain rfl := pure_eq_ok.1 h
    exact ⟨hr, rfl⟩
  | v :: vs, i, st, st', hr, h => by
    simp only [filterLoop, bind_eq_ok] at h
    obtain ⟨st₁, h₁, st₂, h₂, h₃⟩ := h
    obtain ⟨hr₁, -, hacc₁⟩ := checkBit_eq_ok hr h₁
    obtain ⟨hr₂, hkey₂, hw₂⟩ := shiftBit_eq_ok hr₁ h₂
    obtain ⟨hr', hacc'⟩ := filterLoop_eq_ok hr₂ h₃
    have hacc₂ : st₂.acc = st₁.acc := by rw [FilterState.acc, FilterState.acc, hkey₂, hw₂]
    refine ⟨by simpa [Nat.add_assoc, Nat.add_comm 1] using hr', ?_⟩
    rw [hacc₂] at hacc'
    exact (foldlM_selectedFrom_cons hacc₁).2 hacc'

/-- The loop from position `i` succeeds when the selected keys add up, no weight overflows and
the bitmap has the byte of the position after the last validator. -/
theorem filterLoop_ok : ∀ {vs : List Validator} {i : ℕ} {st : FilterState},
    Reading signers i st → (i + vs.length) / 8 < signers.length →
    st.aggregateWeight + ((selectedFrom signers i vs).map Validator.weight).sum < 2 ^ 64 →
    (∃ r, (selectedFrom signers i vs).foldlM (addSigner pc) st.acc = .ok r) →
    ∃ st', filterLoop pc signers vs st = .ok st'
  | [], _, _, _, _, _, _ => ⟨_, rfl⟩
  | v :: vs, i, st, hr, hb, hw, ⟨r, hf⟩ => by
    -- the validator's own weight is part of the selected weight
    have hv : signed signers i = true → st.aggregateWeight + v.weight < 2 ^ 64 := by
      intro hs
      rw [selectedFrom_cons, if_pos hs, List.map_cons, List.sum_cons] at hw
      omega
    -- and its key is the first addition of the fold
    have hadd : signed signers i = true → ∃ r, addSigner pc st.acc v = .ok r := by
      intro hs
      rw [selectedFrom_cons, if_pos hs, List.foldlM_cons, bind_eq_ok] at hf
      obtain ⟨r₁, h₁, -⟩ := hf
      exact ⟨r₁, h₁⟩
    obtain ⟨st₁, h₁⟩ := checkBit_ok hr hv hadd
    obtain ⟨hr₁, -, hacc₁⟩ := checkBit_eq_ok hr h₁
    have hb₁ : (i + 1) / 8 < signers.length :=
      lt_of_le_of_lt (Nat.div_le_div_right (by simp)) hb
    obtain ⟨st₂, h₂⟩ := shiftBit_ok hr₁ hb₁
    obtain ⟨hr₂, hkey₂, hw₂⟩ := shiftBit_eq_ok hr₁ h₂
    have hacc₂ : st₂.acc = st₁.acc := by rw [FilterState.acc, FilterState.acc, hkey₂, hw₂]
    -- the rest of the fold goes on from what the round accumulated
    have hf₂ : (selectedFrom signers (i + 1) vs).foldlM (addSigner pc) st₂.acc = .ok r := by
      rw [hacc₂]
      exact (foldlM_selectedFrom_cons hacc₁).1 hf
    have hw₂' : st₂.aggregateWeight +
        ((selectedFrom signers (i + 1) vs).map Validator.weight).sum < 2 ^ 64 :=
      calc st₂.aggregateWeight + ((selectedFrom signers (i + 1) vs).map Validator.weight).sum
          = st.acc.2 + ((selectedFrom signers i (v :: vs)).map Validator.weight).sum := by
            rw [hw₂, sum_selectedFrom_cons hacc₁]
            rfl
        _ < 2 ^ 64 := hw
    obtain ⟨st', h₃⟩ := filterLoop_ok hr₂ (by simpa [Nat.add_assoc, Nat.add_comm 1] using hb)
      hw₂' ⟨r, hf₂⟩
    exact ⟨st', by simp only [filterLoop, bind_eq_ok]; exact ⟨st₁, h₁, st₂, h₂, h₃⟩⟩

theorem mem_of_mem_selectedFrom : ∀ {vs : List Validator} {i : ℕ} {v : Validator},
    v ∈ selectedFrom signers i vs → v ∈ vs
  | [], _, _, h => by simp at h
  | u :: vs, i, v, h => by
    rw [selectedFrom_cons] at h
    split at h
    · rcases List.mem_cons.1 h with rfl | h
      · exact List.mem_cons_self
      · exact List.mem_cons_of_mem _ (mem_of_mem_selectedFrom h)
    · exact List.mem_cons_of_mem _ (mem_of_mem_selectedFrom h)

/-! ## `filterValidators` -/

theorem reading_zero {b : UInt8} (hb : signers[0]? = some b) :
    Reading signers 0 ⟨[], 0, 0, 1 <<< 7, b.toNat⟩ :=
  ⟨(List.getElem?_eq_some_iff.1 hb).1, rfl, rfl, by simp [List.getD_eq_getElem?_getD, hb]⟩

/-- A successful filter had validators, a bitmap with the byte after the last validator, and
returns what the selected validators add up to. -/
theorem filterValidators_eq_ok {validators : List Validator} {r : Bytes × ℕ}
    (h : filterValidators pc signers validators = .ok r) :
    validators ≠ [] ∧ validators.length / 8 < signers.length ∧
      (selectedFrom signers 0 validators).foldlM (addSigner pc) ([], 0) = .ok r := by
  simp only [filterValidators, bind_eq_ok, require_eq_ok, byteAt_eq_ok, pure_eq_ok] at h
  obtain ⟨_, hn, b, hb, st', hl, rfl⟩ := h
  obtain ⟨hr', hacc⟩ := filterLoop_eq_ok (reading_zero hb) hl
  exact ⟨List.ne_nil_of_length_pos (Nat.pos_of_ne_zero hn), by simpa using hr'.inBounds, hacc⟩

theorem filterValidators_ok {validators : List Validator} (hn : validators ≠ [])
    (hb : validators.length / 8 < signers.length)
    (hw : ((selectedFrom signers 0 validators).map Validator.weight).sum < 2 ^ 64) {r : Bytes × ℕ}
    (hf : (selectedFrom signers 0 validators).foldlM (addSigner pc) ([], 0) = .ok r) :
    filterValidators pc signers validators = .ok r := by
  obtain ⟨b, hb0⟩ : ∃ b, signers[0]? = some b :=
    ⟨_, List.getElem?_eq_getElem (lt_of_le_of_lt (Nat.zero_le _) hb)⟩
  obtain ⟨st', hl⟩ : ∃ st', filterLoop pc signers validators
      ⟨[], 0, 0, 1 <<< 7, b.toNat⟩ = .ok st' :=
    filterLoop_ok (reading_zero hb0) (by simpa using hb) (by simpa using hw) ⟨r, hf⟩
  have h : filterValidators pc signers validators = .ok st'.acc := by
    simp only [filterValidators, bind_eq_ok, require_eq_ok, byteAt_eq_ok, pure_eq_ok]
    exact ⟨(), by simpa using hn, b, hb0, st', hl, rfl⟩
  have hr : st'.acc = r := by
    have h' := (filterValidators_eq_ok h).2.2
    rw [hf] at h'
    exact (Except.ok.inj h').symm
  rw [h, hr]

/-- A set of `8 k` validators with a bitmap of `⌈8 k / 8⌉ = k` bytes is rejected: the loop loads
the byte after the last validator's. -/
theorem filterValidators_reverts_at_byte_boundary (pc : BLST.Precompiles)
    (signers : Bytes) (validators : List Validator) (r : Bytes × ℕ)
    (hn : validators.length % 8 = 0) (hs : signers.length = (validators.length + 7) / 8) :
    filterValidators pc signers validators ≠ .ok r := by
  intro h
  have hb := (filterValidators_eq_ok h).2.1
  omega

theorem filterValidators_reverts_at_byte_boundary_eight :
    (List.replicate 8 (⟨List.replicate 128 1, 1⟩ : Validator)).length % 8 = 0 ∧
      ([255] : Bytes).length =
        ((List.replicate 8 (⟨List.replicate 128 1, 1⟩ : Validator)).length + 7) / 8 ∧
      filterValidators BLST.samplePrecompiles [255] (List.replicate 8 ⟨List.replicate 128 1, 1⟩) ≠
        .ok (List.replicate 128 8, 8) :=
  ⟨by decide +kernel, by decide +kernel,
    filterValidators_reverts_at_byte_boundary _ _ _ _ (by decide +kernel) (by decide +kernel)⟩

/-- One more byte and the same signers are accepted. -/
example : filterValidators BLST.samplePrecompiles [255, 0]
    (List.replicate 8 ⟨List.replicate 128 1, 1⟩) = .ok (List.replicate 128 8, 8) := by
  decide +kernel

/-! ## Verifying a signature -/

/-- With positive weights, a bitmap with a byte beyond the whole bytes of the set, and no
overflow, the filter returns the aggregate key and the weight of exactly the signers, and fails
when their keys do not add up; a signature is accepted exactly when the keys add up, the signers
hold the quorum and the BLS check passes on their aggregate key. -/
theorem filterValidators_selects (pc : BLST.Precompiles) {signature : ValidatorSetSignature}
    {validatorSet : ValidatorSet} (message : Bytes) (hn : validatorSet.validators ≠ [])
    (hb : validatorSet.validators.length / 8 < signature.signers.length)
    (hpos : ∀ v ∈ validatorSet.validators, 0 < v.weight)
    (hw : ((selectedFrom signature.signers 0 validatorSet.validators).map
      Validator.weight).sum < 2 ^ 64) :
    let selected := selectedFrom signature.signers 0 validatorSet.validators
    (∀ r, filterValidators pc signature.signers validatorSet.validators = .ok r ↔
        ∃ key, aggregateKey pc selected = .ok key ∧
          r = (key, (selected.map Validator.weight).sum)) ∧
      (verifyValidatorSetSignature pc signature message validatorSet = .ok true ↔
        ∃ key, aggregateKey pc selected = .ok key ∧
          quorumNum * validatorSet.totalWeight ≤ quorumDen * (selected.map Validator.weight).sum ∧
          BLST.verifySignature pc key signature.signature message = .ok true) := by
  intro selected
  have hsel : ∀ v ∈ selected, 0 < v.weight := fun v hv => hpos v (mem_of_mem_selectedFrom hv)
  have hf : ∀ r, filterValidators pc signature.signers validatorSet.validators = .ok r ↔
      ∃ key, aggregateKey pc selected = .ok key ∧
        r = (key, (selected.map Validator.weight).sum) := fun r => by
    rw [← foldlM_addSigner_eq_ok hsel]
    exact ⟨fun h => (filterValidators_eq_ok h).2.2, filterValidators_ok hn hb hw⟩
  refine ⟨hf, ?_⟩
  -- past the filter, the weight check and then the BLS check
  simp only [verifyValidatorSetSignature, bind_eq_ok, verifyWeight]
  constructor
  · rintro ⟨⟨key, weight⟩, hfv, hv⟩
    obtain ⟨key', hk, hr⟩ := (hf _).1 hfv
    obtain ⟨rfl, rfl⟩ := Prod.mk.inj hr
    by_cases hq : quorumNum * validatorSet.totalWeight ≤
        quorumDen * (selected.map Validator.weight).sum
    · simp only [hq, decide_true, Bool.not_true, Bool.false_eq_true, if_false] at hv
      exact ⟨key, hk, hq, hv⟩
    · simp [hq] at hv
  · rintro ⟨key, hk, hq, hv⟩
    refine ⟨(key, (selected.map Validator.weight).sum), (hf _).2 ⟨key, hk, rfl⟩, ?_⟩
    simp only [hq, decide_true, Bool.not_true, Bool.false_eq_true, if_false]
    exact hv

/-- Validators `0` and `2` of three sign, and all three sign with the quorum. -/
theorem filterValidators_selects_three :
    filterValidators BLST.samplePrecompiles [0xA0]
        [⟨List.replicate 128 1, 1⟩, ⟨List.replicate 128 2, 2⟩, ⟨List.replicate 128 3, 3⟩] =
      .ok (List.replicate 128 4, 4) ∧
    verifyValidatorSetSignature BLST.samplePrecompiles ⟨[0xE0], List.replicate 192 0⟩ [7]
        ⟨[⟨List.replicate 128 1, 1⟩, ⟨List.replicate 128 2, 2⟩, ⟨List.replicate 128 3, 3⟩], 6⟩ =
      .ok true :=
  ⟨((@filterValidators_selects BLST.samplePrecompiles ⟨[0xA0], []⟩
      ⟨[⟨List.replicate 128 1, 1⟩, ⟨List.replicate 128 2, 2⟩, ⟨List.replicate 128 3, 3⟩], 6⟩ []
      (by decide +kernel) (by decide +kernel) (by decide +kernel) (by decide +kernel)).1 _).2
      ⟨List.replicate 128 4, by decide +kernel, rfl⟩,
    (@filterValidators_selects BLST.samplePrecompiles ⟨[0xE0], List.replicate 192 0⟩
      ⟨[⟨List.replicate 128 1, 1⟩, ⟨List.replicate 128 2, 2⟩, ⟨List.replicate 128 3, 3⟩], 6⟩ [7]
      (by decide +kernel) (by decide +kernel) (by decide +kernel) (by decide +kernel)).2.2
      ⟨List.replicate 128 6, by decide +kernel, by decide +kernel,
        BLST.samplePrecompiles_verifySignature _ (List.length_replicate ..)
          (List.length_replicate ..)⟩⟩

/-- The repository's test: of twenty validators of weights `1` to `20`, the bitmap
`0x486080` selects validators `1, 4, 9, 10, 16`. -/
example : filterValidators BLST.samplePrecompiles [0x48, 0x60, 0x80]
    ((List.range 20).map fun i => ⟨List.replicate 128 i.toUInt8, i + 1⟩) =
      .ok (List.replicate 128 40, 45) := by
  decide +kernel

end

end ValidatorSets
