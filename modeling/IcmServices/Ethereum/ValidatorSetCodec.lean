import IcmServices.Ethereum.ValidatorSets
import IcmServices.Lib.Memory
import IcmServices.Lib.Decode

/-!
# `ValidatorSets`: the serialized validator set

A validator set travels as codec ID 0, the number of validators in 4 bytes, and per validator its
96-byte uncompressed BLS key and its weight in 8 bytes (`serializedValidators`). The contract keeps
each key in the 128-byte form of the BLS precompiles, each 48-byte coordinate after 16 zero bytes
(`paddedKey`). `serializeValidators` and the padding functions move the bytes with `mstore` and
`mload` (`Memory`); `parseValidators` cuts the calldata with slices and requires the keys to
increase, as `comparePublicKeys` compares them, starting above the zero key.

* `padUncompressedBLSPublicKey_eq`, `unPadUncompressedBlsPublicKey_eq`: the overlapping stores
  build `paddedKey` and `unpaddedKey`;
* `comparePublicKeys_eq`: the three-word loop compares the keys as numbers;
* `serializeValidators_eq`: the stores of the loop build `serializedValidators`;
* `parseLoop_eq_ok`, `parseLoop_serialized`: what an accepted input holds, and that a serialized
  set parses back;
* a set whose first key is zero, or with `2 ^ 32` validators, does not parse back
  (`parseValidators_rejects_zero_key`);
* `parseValidatorSetMetadata_serialize`, `parseValidatorSetSignature_serialize`: the metadata of
  a registration and a signature with its bitmap parse back from their serialized forms.
-/

namespace ValidatorSets

open Solidity BigEndian Memory Decode

/-- `VALIDATOR_BYTES`: a 96-byte key and an 8-byte weight. -/
def validatorBytes : ℕ := 96 + 8

/-! ## The keys -/

/-- `BLST.padUncompressedBLSPublicKey`. -/
def padUncompressedBLSPublicKey (publicKey : Bytes) : Except String Bytes := do
  require (publicKey.length = 96) "Invalid input public key length"
  let res := List.replicate 128 0
  let res := mstoreWord res 16 (mloadWord publicKey 0)
  let res := mstoreWord res 32 (mloadWord publicKey 16)
  let res := mstoreWord res 80 (mloadWord publicKey 48)
  let res := mstoreWord res 96 (mloadWord publicKey 64)
  pure res

/-- `BLST.unPadUncompressedBlsPublicKey`. -/
def unPadUncompressedBlsPublicKey (publicKey : Bytes) : Except String Bytes := do
  require (publicKey.length = 128) "Invalid input public key length"
  let res := List.replicate 96 0
  let res := mstoreWord res 0 (mloadWord publicKey 16)
  let res := mstoreWord res 16 (mloadWord publicKey 32)
  let res := mstoreWord res 48 (mloadWord publicKey 80)
  let res := mstoreWord res 64 (mloadWord publicKey 96)
  pure res

/-- One round of the loop of `comparePublicKeys`, on the words at `32 * i` (`mload(add(key,
mul(0x20, i + 1)))`): while the keys are equal so far (`compare = 1`), a greater word of `key1`
sets 2 and a smaller one 0. -/
def compareRound (key1 key2 : Bytes) (compare i : ℕ) : ℕ :=
  if compare = 1 then
    let compare :=
      if ofBytes (mloadWord key1 (32 * i)) > ofBytes (mloadWord key2 (32 * i)) then 2 else compare
    if ofBytes (mloadWord key1 (32 * i)) < ofBytes (mloadWord key2 (32 * i)) then 0 else compare
  else compare

/-- `BLST.comparePublicKeys`: 1, 0 or -1 as `key1` is greater than, equal to or less than `key2`.
It reverts unless both keys have 96 bytes. -/
def comparePublicKeys (key1 key2 : Bytes) : Except String ℤ := do
  require (key1.length = 96 ∧ key2.length = 96) "Uncompressed public keys should by 96 bytes"
  let compare := (List.range 3).foldl (compareRound key1 key2) 1
  pure (compare - 1)

/-- The 128-byte form of a 96-byte key: each 48-byte coordinate after 16 zero bytes. -/
def paddedKey (key : Bytes) : Bytes :=
  List.replicate 16 0 ++ key.take 48 ++ List.replicate 16 0 ++ key.drop 48

/-- The 96 bytes of a 128-byte key without its pads. -/
def unpaddedKey (key : Bytes) : Bytes := (key.drop 16).take 48 ++ key.drop 80

/-- A 128-byte key whose pads are zero: the form `padUncompressedBLSPublicKey` returns. -/
def IsPaddedKey (key : Bytes) : Prop := key.length = 128 ∧ paddedKey (unpaddedKey key) = key

/-- The key of a validator without its pads, as a number: the order `comparePublicKeys` sorts by. -/
def keyValue (validator : Validator) : ℕ := ofBytes (unpaddedKey validator.blsPublicKey)

theorem length_unpaddedKey {key : Bytes} (h : key.length = 128) : (unpaddedKey key).length = 96 := by
  simp [unpaddedKey, h]

theorem unpaddedKey_paddedKey {key : Bytes} (h : key.length = 96) :
    unpaddedKey (paddedKey key) = key := by
  simp only [unpaddedKey, paddedKey, List.append_assoc]
  rw [List.drop_left' (by simp), List.take_left' (by simp; omega),
    show 80 = 16 + (48 + 16) by rfl, ← List.drop_drop, List.drop_left' (by simp),
    ← List.drop_drop, List.drop_left' (by simp; omega), List.drop_left' (by simp),
    List.take_append_drop]

theorem isPaddedKey_paddedKey {key : Bytes} (h : key.length = 96) : IsPaddedKey (paddedKey key) :=
  ⟨by simp [paddedKey, h], by rw [unpaddedKey_paddedKey h]⟩

theorem getElem?_paddedKey {key : Bytes} (h : key.length = 96) (j : ℕ) :
    (paddedKey key)[j]? =
      if j < 16 then some 0 else if j < 64 then key[j - 16]? else if j < 80 then some 0
      else key[j - 32]? := by
  simp only [paddedKey, List.append_assoc, List.getElem?_append, List.length_replicate,
    List.length_take, h, List.getElem?_replicate, List.getElem?_take, List.getElem?_drop]
  split_ifs <;> first | rfl | (congr 1; omega)

theorem getElem?_unpaddedKey {key : Bytes} (h : key.length = 128) (j : ℕ) :
    (unpaddedKey key)[j]? = if j < 48 then key[j + 16]? else key[j + 32]? := by
  simp only [unpaddedKey, List.getElem?_append, List.length_take, List.length_drop, h,
    List.getElem?_take, List.getElem?_drop]
  split_ifs <;> first | rfl | (congr 1; omega)

/-- The four overlapping stores put each coordinate after its 16 zero bytes. -/
theorem padUncompressedBLSPublicKey_eq {publicKey : Bytes} (h : publicKey.length = 96) :
    padUncompressedBLSPublicKey publicKey = .ok (paddedKey publicKey) := by
  have hw₀ := length_mloadWord (show 0 + 32 ≤ publicKey.length by omega)
  have hw₁₆ := length_mloadWord (show 16 + 32 ≤ publicKey.length by omega)
  have hw₄₈ := length_mloadWord (show 48 + 32 ≤ publicKey.length by omega)
  have hw₆₄ := length_mloadWord (show 64 + 32 ≤ publicKey.length by omega)
  have hres : mstoreWord (mstoreWord (mstoreWord (mstoreWord (List.replicate 128 0) 16
      (mloadWord publicKey 0)) 32 (mloadWord publicKey 16)) 80 (mloadWord publicKey 48)) 96
      (mloadWord publicKey 64) = paddedKey publicKey := by
    apply List.ext_getElem?
    intro j
    rw [getElem?_paddedKey h, getElem?_mstoreWord hw₆₄, getElem?_mstoreWord hw₄₈,
      getElem?_mstoreWord hw₁₆, getElem?_mstoreWord hw₀]
    simp only [length_mstoreWord hw₀, length_mstoreWord hw₁₆, length_mstoreWord hw₄₈,
      List.length_replicate, getElem?_mloadWord, List.getElem?_replicate]
    -- the byte at `j` comes from the last store that covers it, or there is none past the end
    split_ifs <;> first | rfl | (congr 1; omega) | rw [List.getElem?_eq_none (by omega)]
  simp only [padUncompressedBLSPublicKey, require, if_pos h, ok_bind, hres]
  rfl

/-- The four overlapping stores leave out the two pads. -/
theorem unPadUncompressedBlsPublicKey_eq {publicKey : Bytes} (h : publicKey.length = 128) :
    unPadUncompressedBlsPublicKey publicKey = .ok (unpaddedKey publicKey) := by
  have hw₁₆ := length_mloadWord (show 16 + 32 ≤ publicKey.length by omega)
  have hw₃₂ := length_mloadWord (show 32 + 32 ≤ publicKey.length by omega)
  have hw₈₀ := length_mloadWord (show 80 + 32 ≤ publicKey.length by omega)
  have hw₉₆ := length_mloadWord (show 96 + 32 ≤ publicKey.length by omega)
  have hres : mstoreWord (mstoreWord (mstoreWord (mstoreWord (List.replicate 96 0) 0
      (mloadWord publicKey 16)) 16 (mloadWord publicKey 32)) 48 (mloadWord publicKey 80)) 64
      (mloadWord publicKey 96) = unpaddedKey publicKey := by
    apply List.ext_getElem?
    intro j
    rw [getElem?_unpaddedKey h, getElem?_mstoreWord hw₉₆, getElem?_mstoreWord hw₈₀,
      getElem?_mstoreWord hw₃₂, getElem?_mstoreWord hw₁₆]
    simp only [length_mstoreWord hw₁₆, length_mstoreWord hw₃₂, length_mstoreWord hw₈₀,
      List.length_replicate, getElem?_mloadWord, List.getElem?_replicate]
    split_ifs <;> first | rfl | (congr 1; omega) | rw [List.getElem?_eq_none (by omega)]
  simp only [unPadUncompressedBlsPublicKey, require, if_pos h, ok_bind, hres]
  rfl

theorem eq_mloadWord_append {key : Bytes} (h : key.length = 96) :
    key = mloadWord key 0 ++ mloadWord key 32 ++ mloadWord key 64 := by
  apply List.ext_getElem?
  intro j
  simp only [List.append_assoc, List.getElem?_append, length_mloadWord (show 0 + 32 ≤ key.length by
    omega), length_mloadWord (show 32 + 32 ≤ key.length by omega), getElem?_mloadWord]
  split_ifs <;> first | rfl | (congr 1; omega) | rw [List.getElem?_eq_none (by omega)]

theorem ofBytes_mloadWord_lt (key : Bytes) (k : ℕ) : ofBytes (mloadWord key k) < 256 ^ 32 := by
  have hlt := ofBytes_lt (mloadWord key k)
  have hlen : (mloadWord key k).length ≤ 32 := by simp [mloadWord]
  exact lt_of_lt_of_le hlt (Nat.pow_le_pow_right (by norm_num) hlen)

/-- A 96-byte key as a number: its three words, as digits in base `256 ^ 32`. -/
theorem ofBytes_eq_words {key : Bytes} (h : key.length = 96) :
    ofBytes key = (ofBytes (mloadWord key 0) * 256 ^ 32 + ofBytes (mloadWord key 32)) * 256 ^ 32 +
      ofBytes (mloadWord key 64) := by
  conv_lhs => rw [eq_mloadWord_append h]
  rw [ofBytes_append, ofBytes_append, length_mloadWord (show 64 + 32 ≤ key.length by omega),
    length_mloadWord (show 32 + 32 ≤ key.length by omega)]

/-- The values of `compare` in `comparePublicKeys`: 0, 1 or 2 as `a` is less than, equal to or
greater than `b`. -/
def cmp (a b : ℕ) : ℕ := if a < b then 0 else if b < a then 2 else 1

theorem compareRound_eq (key1 key2 : Bytes) (compare i : ℕ) :
    compareRound key1 key2 compare i =
      if compare = 1 then cmp (ofBytes (mloadWord key1 (32 * i))) (ofBytes (mloadWord key2 (32 * i)))
      else compare := by
  unfold compareRound cmp
  dsimp only
  split_ifs <;> omega

/-- Comparing two numbers of one more digit: the high parts decide, and the last digits break a
tie. -/
theorem cmp_mul_add {x y a b : ℕ} (ha : a < 256 ^ 32) (hb : b < 256 ^ 32) :
    cmp (x * 256 ^ 32 + a) (y * 256 ^ 32 + b) = if cmp x y = 1 then cmp a b else cmp x y := by
  unfold cmp
  split_ifs <;> omega

/-- The loop compares the words in turn, so the keys compare as the numbers they spell. -/
theorem comparePublicKeys_eq {key1 key2 : Bytes} (h₁ : key1.length = 96) (h₂ : key2.length = 96) :
    comparePublicKeys key1 key2 = .ok ((cmp (ofBytes key1) (ofBytes key2) : ℤ) - 1) := by
  simp only [comparePublicKeys, require, if_pos (And.intro h₁ h₂), ok_bind,
    show List.range 3 = [0, 1, 2] from rfl, List.foldl_cons, List.foldl_nil, compareRound_eq]
  rw [ofBytes_eq_words h₁, ofBytes_eq_words h₂, cmp_mul_add (ofBytes_mloadWord_lt _ _)
    (ofBytes_mloadWord_lt _ _), cmp_mul_add (ofBytes_mloadWord_lt _ _) (ofBytes_mloadWord_lt _ _)]
  rfl

theorem comparePublicKeys_pos {key1 key2 : Bytes} (h₁ : key1.length = 96) (h₂ : key2.length = 96)
    {c : ℤ} (h : comparePublicKeys key1 key2 = .ok c) : 0 < c ↔ ofBytes key2 < ofBytes key1 := by
  rw [comparePublicKeys_eq h₁ h₂] at h
  cases h
  unfold cmp
  split_ifs <;> omega

/-! ## Serialization -/

/-- One iteration of the loop of `serializeValidators`: the key without its pads in three words
at `offset`, then the weight in the top 8 bytes of a word after it (`shl(192, weight)`). -/
def serializeValidator (acc : Bytes × ℕ) (validator : Validator) : Except String (Bytes × ℕ) := do
  let (serialized, offset) := acc
  let uncompressedBlsPublicKey ← unPadUncompressedBlsPublicKey validator.blsPublicKey
  let serialized := mstoreWord serialized offset (mloadWord uncompressedBlsPublicKey 0)
  let serialized := mstoreWord serialized (offset + 32) (mloadWord uncompressedBlsPublicKey 32)
  let serialized := mstoreWord serialized (offset + 64) (mloadWord uncompressedBlsPublicKey 64)
  let offset := offset + 96
  let serialized := mstoreWord serialized offset (toBytes 32 (validator.weight <<< 192))
  pure (serialized, offset + 8)

/-- `ValidatorSets.serializeValidators`: zeros of the length of the result, the number of
validators in the top 4 bytes of a word at offset 2 (`shl(224, length)`), then the validators. -/
def serializeValidators (validators : List Validator) : Except String Bytes := do
  let serialized := List.replicate (2 + 4 + validators.length * validatorBytes) 0
  let serialized := mstoreWord serialized 2 (toBytes 32 (validators.length <<< 224))
  let (serialized, _) ← validators.foldlM serializeValidator (serialized, 6)
  pure serialized

/-- The bytes of one validator: its key without the pads, then its weight. -/
def validatorRecord (validator : Validator) : Bytes :=
  unpaddedKey validator.blsPublicKey ++ toBytes 8 validator.weight

/-- The serialized form of a validator set: codec ID 0, the count and the validators. -/
def serializedValidators (validators : List Validator) : Bytes :=
  [0, 0] ++ toBytes 4 validators.length ++ validators.flatMap validatorRecord

theorem serializeValidator_at (pre : Bytes) (validator : Validator) (m : ℕ)
    (hk : validator.blsPublicKey.length = 128) :
    serializeValidator (pre ++ List.replicate (validatorBytes + m) 0, pre.length) validator =
      .ok (pre ++ validatorRecord validator ++ List.replicate m 0,
        pre.length + validatorBytes) := by
  have hweight : toBytes 32 (validator.weight <<< 192) =
      toBytes 8 validator.weight ++ List.replicate (32 - (toBytes 8 validator.weight).length) 0 :=
    toBytes_shiftLeft 8 24 _
  simp only [serializeValidator, unPadUncompressedBlsPublicKey_eq hk, ok_bind, validatorRecord,
    hweight]
  have hkey := length_unpaddedKey hk
  generalize unpaddedKey validator.blsPublicKey = key at hkey ⊢
  have h₀ := length_mloadWord (show 0 + 32 ≤ key.length by omega)
  have h₃₂ := length_mloadWord (show 32 + 32 ≤ key.length by omega)
  have h₆₄ := length_mloadWord (show 64 + 32 ≤ key.length by omega)
  unfold validatorBytes
  -- the three words of the key, then the weight and its 24 zero bytes
  have s₁ : mstoreWord (pre ++ List.replicate (96 + 8 + m) 0) pre.length (mloadWord key 0) =
      pre ++ mloadWord key 0 ++ List.replicate (72 + m) 0 := by
    rw [mstoreWord_append_word _ _ _ h₀ (by omega), show 96 + 8 + m - 32 = 72 + m by omega]
  have s₂ : mstoreWord (pre ++ mloadWord key 0 ++ List.replicate (72 + m) 0) (pre.length + 32)
      (mloadWord key 32) = pre ++ mloadWord key 0 ++ mloadWord key 32 ++
        List.replicate (40 + m) 0 := by
    have e : (pre ++ mloadWord key 0).length = pre.length + 32 := by simp [h₀]
    rw [← e, mstoreWord_append_word _ _ _ h₃₂ (by omega), show 72 + m - 32 = 40 + m by omega]
  have s₃ : mstoreWord (pre ++ mloadWord key 0 ++ mloadWord key 32 ++ List.replicate (40 + m) 0)
      (pre.length + 64) (mloadWord key 64) = pre ++ mloadWord key 0 ++ mloadWord key 32 ++
        mloadWord key 64 ++ List.replicate (8 + m) 0 := by
    have e : (pre ++ mloadWord key 0 ++ mloadWord key 32).length = pre.length + 64 := by
      simp [h₀, h₃₂]
    rw [← e, mstoreWord_append_word _ _ _ h₆₄ (by omega), show 40 + m - 32 = 8 + m by omega]
  have s₄ : mstoreWord (pre ++ mloadWord key 0 ++ mloadWord key 32 ++ mloadWord key 64 ++
      List.replicate (8 + m) 0) (pre.length + 96)
      (toBytes 8 validator.weight ++ List.replicate (32 - (toBytes 8 validator.weight).length) 0) =
        pre ++ key ++ toBytes 8 validator.weight ++ List.replicate m 0 := by
    have e : (pre ++ mloadWord key 0 ++ mloadWord key 32 ++ mloadWord key 64).length =
        pre.length + 96 := by
      simp [h₀, h₃₂, h₆₄]
    rw [← e, mstoreWord_append_replicate _ _ _ (by simp) (by simp), length_toBytes,
      show 8 + m - 8 = m by omega]
    conv_rhs => rw [eq_mloadWord_append hkey]
    simp only [List.append_assoc]
  rw [s₁, s₂, s₃, s₄, List.append_assoc pre]
  rfl

theorem length_validatorRecord {validator : Validator} (hk : validator.blsPublicKey.length = 128) :
    (validatorRecord validator).length = validatorBytes := by
  simp [validatorRecord, length_unpaddedKey hk, validatorBytes]

/-- The loop writes the validators one after the other over the zeros left for them. -/
theorem foldlM_serializeValidator :
    ∀ (validators : List Validator) (pre : Bytes),
      (∀ v ∈ validators, v.blsPublicKey.length = 128) →
      validators.foldlM serializeValidator
          (pre ++ List.replicate (validators.length * validatorBytes) 0, pre.length) =
        .ok (pre ++ validators.flatMap validatorRecord,
          pre.length + validators.length * validatorBytes)
  | [], pre, _ => by simp [pure, Except.pure]
  | v :: vs, pre, hk => by
    have hv := hk v List.mem_cons_self
    have hlen : (v :: vs).length * validatorBytes = validatorBytes + vs.length * validatorBytes := by
      rw [List.length_cons, Nat.succ_mul, Nat.add_comm]
    have ih := foldlM_serializeValidator vs (pre ++ validatorRecord v)
      (fun w hw => hk w (List.mem_cons_of_mem _ hw))
    rw [List.length_append, length_validatorRecord hv] at ih
    rw [List.foldlM_cons, hlen, serializeValidator_at pre v _ hv, ok_bind, ih, List.flatMap_cons,
      List.append_assoc, Nat.add_assoc]

theorem serializeValidators_eq {validators : List Validator}
    (hk : ∀ v ∈ validators, v.blsPublicKey.length = 128) :
    serializeValidators validators = .ok (serializedValidators validators) := by
  -- the count: its 4 bytes and 28 zero bytes written after the codec ID
  have hcount : mstoreWord (List.replicate (2 + 4 + validators.length * validatorBytes) 0) 2
      (toBytes 32 (validators.length <<< 224)) =
        [0, 0] ++ toBytes 4 validators.length ++
          List.replicate (validators.length * validatorBytes) 0 := by
    have h := mstoreWord_append_replicate [0, 0] (toBytes 4 validators.length)
      (4 + validators.length * validatorBytes) (by simp) (by simp)
    rw [length_toBytes, Nat.add_sub_cancel_left, ← toBytes_shiftLeft 4 28] at h
    rw [Nat.add_assoc, List.replicate_add]
    exact h
  have hloop := foldlM_serializeValidator validators ([0, 0] ++ toBytes 4 validators.length) hk
  rw [show ([0, 0] ++ toBytes 4 validators.length : Bytes).length = 6 by simp] at hloop
  simp only [serializeValidators, hcount, hloop, ok_bind]
  rfl

/-! ## Parsing -/

/-- The locals of the loop of `parseValidators`. -/
structure ParseState where
  validators : List Validator
  totalWeight : ℕ
  currentPosition : ℕ
  previousPublicKey : Bytes

/-- One iteration of the loop of `parseValidators`. -/
def parseValidator (data : Bytes) (st : ParseState) : Except String ParseState := do
  let unformattedPublicKey ← calldataSlice data st.currentPosition (st.currentPosition + 96)
  let compare ← comparePublicKeys unformattedPublicKey st.previousPublicKey
  require (compare > 0) "BLS public key must be greater than the latest public key"
  let weightBytes ←
    calldataSlice data (st.currentPosition + 96) (st.currentPosition + validatorBytes)
  let weight := ofBytes weightBytes
  require (weight > 0) "Validator weight must be greater than 0"
  let blsPublicKey ← padUncompressedBLSPublicKey unformattedPublicKey
  let totalWeight ← checkedAdd 64 st.totalWeight weight
  pure ⟨st.validators ++ [⟨blsPublicKey, weight⟩], totalWeight,
    st.currentPosition + validatorBytes, unformattedPublicKey⟩

/-- The loop of `parseValidators`, run `numValidators` times. -/
def parseLoop (data : Bytes) : ℕ → ParseState → Except String ParseState
  | 0, st => pure st
  | k + 1, st => do
    let st ← parseValidator data st
    parseLoop data k st

/-- `data[0] == 0 && data[1] == 0`, where `data[1]` is read only when `data[0]` is zero. -/
def codecIDIsZero (data : Bytes) : Except String Bool := do
  let b₀ ← byteAt data 0
  if b₀ = 0 then do
    let b₁ ← byteAt data 1
    pure (b₁ = 0)
  else pure false

/-- `ValidatorSets.parseValidators`: the validators and their total weight. The keys must
increase from the zero key on; bytes after the last validator are not read. -/
def parseValidators (data : Bytes) : Except String (List Validator × ℕ) := do
  let codecIDValid ← codecIDIsZero data
  require (codecIDValid = true) "Invalid codec ID"
  let numValidators ← calldataSlice data 2 6
  let st ← parseLoop data (ofBytes numValidators) ⟨[], 0, 6, List.replicate 96 0⟩
  pure (st.validators, st.totalWeight)

/-- An iteration at a serialized validator whose key is above the previous one reads it. -/
theorem parseValidator_at {data rest : Bytes} {st : ParseState} {validator : Validator}
    (h : data.drop st.currentPosition = validatorRecord validator ++ rest)
    (hprev : st.previousPublicKey.length = 96) (hkey : IsPaddedKey validator.blsPublicKey)
    (hlt : ofBytes st.previousPublicKey < keyValue validator) (hw : 0 < validator.weight)
    (htotal : st.totalWeight + validator.weight < 2 ^ 64) :
    parseValidator data st = .ok ⟨st.validators ++ [validator], st.totalWeight + validator.weight,
      st.currentPosition + validatorBytes, unpaddedKey validator.blsPublicKey⟩ := by
  have hlen := length_unpaddedKey hkey.1
  rw [validatorRecord, List.append_assoc] at h
  have h₉₆ : data.drop (st.currentPosition + 96) = toBytes 8 validator.weight ++ rest :=
    drop_add_of_drop_eq h (by rw [hlen])
  have hkeySlice := calldataSlice_at h (List.ne_nil_of_length_pos (by omega)) (by rw [hlen])
  have hweightSlice := calldataSlice_at h₉₆ (List.ne_nil_of_length_pos (by simp))
    (show _ = st.currentPosition + validatorBytes by simp [validatorBytes, Nat.add_assoc])
  have hcompare := comparePublicKeys_eq hlen hprev
  have hweight : ofBytes (toBytes 8 validator.weight) = validator.weight := by
    rw [ofBytes_toBytes, Nat.mod_eq_of_lt (by simpa using (show validator.weight < 2 ^ 64 by omega))]
  have hpos : (cmp (ofBytes (unpaddedKey validator.blsPublicKey))
      (ofBytes st.previousPublicKey) : ℤ) - 1 > 0 := by
    unfold keyValue at hlt
    unfold cmp
    split_ifs <;> omega
  simp only [parseValidator, hkeySlice, hcompare, ok_bind, require, if_pos hpos, hweightSlice,
    hweight, if_pos hw, padUncompressedBLSPublicKey_eq hlen, hkey.2, checkedAdd, if_pos htotal]
  rfl

/-- The loop reads back a serialized list of validators whose keys increase from the previous
key on, while the total weight stays in `uint64`. -/
theorem parseLoop_serialized {data : Bytes} :
    ∀ (validators : List Validator) (st : ParseState) (rest : Bytes),
      data.drop st.currentPosition = validators.flatMap validatorRecord ++ rest →
      st.previousPublicKey.length = 96 →
      (∀ v ∈ validators, IsPaddedKey v.blsPublicKey ∧ 0 < v.weight) →
      List.IsChain (· < ·) (ofBytes st.previousPublicKey :: validators.map keyValue) →
      st.totalWeight + (validators.map Validator.weight).sum < 2 ^ 64 →
      ∃ st', parseLoop data validators.length st = .ok st' ∧
        st'.validators = st.validators ++ validators ∧
        st'.totalWeight = st.totalWeight + (validators.map Validator.weight).sum
  | [], st, _, _, _, _, _, _ => ⟨st, rfl, by simp, by simp⟩
  | v :: vs, st, rest, h, hprev, hvs, hchain, htotal => by
    obtain ⟨hkey, hw⟩ := hvs v List.mem_cons_self
    rw [List.map_cons, List.isChain_cons_cons] at hchain
    rw [List.map_cons, List.sum_cons] at htotal
    rw [List.flatMap_cons, List.append_assoc] at h
    have hstep := parseValidator_at h hprev hkey hchain.1 hw (by omega)
    obtain ⟨st', hloop, hvalidators, htotal'⟩ := parseLoop_serialized vs
      ⟨st.validators ++ [v], st.totalWeight + v.weight, st.currentPosition + validatorBytes,
        unpaddedKey v.blsPublicKey⟩ rest
      (drop_add_of_drop_eq h (by rw [length_validatorRecord hkey.1]))
      (length_unpaddedKey hkey.1) (fun w hw => hvs w (List.mem_cons_of_mem _ hw)) hchain.2
      (show st.totalWeight + v.weight + _ < _ by omega)
    refine ⟨st', ?_, ?_, ?_⟩
    · rw [List.length_cons, parseLoop, hstep, ok_bind, hloop]
    · rw [hvalidators, List.append_assoc, List.singleton_append]
    · rw [htotal', List.map_cons, List.sum_cons, Nat.add_assoc]

/-- What an iteration accepts: a padded key above the previous key, and a positive weight. -/
theorem parseValidator_eq_ok {data : Bytes} {st st' : ParseState}
    (h : parseValidator data st = .ok st') (hprev : st.previousPublicKey.length = 96) :
    ∃ v : Validator, st'.validators = st.validators ++ [v] ∧
      (IsPaddedKey v.blsPublicKey ∧ 0 < v.weight) ∧ ofBytes st.previousPublicKey < keyValue v ∧
      st'.totalWeight = st.totalWeight + v.weight ∧ st'.previousPublicKey.length = 96 ∧
      ofBytes st'.previousPublicKey = keyValue v := by
  simp only [parseValidator, bind_eq_ok, require_eq_ok, checkedAdd_eq_ok, pure_eq_ok] at h
  obtain ⟨key, hkey, c, hc, _, hcpos, weightBytes, -, _, hwpos, padded, hpad, _, ⟨-, rfl⟩, rfl⟩ :=
    h
  have hlen : key.length = 96 := by
    rw [(drop_eq_of_calldataSlice hkey).1]
    omega
  rw [padUncompressedBLSPublicKey_eq hlen] at hpad
  cases hpad
  have hkv : keyValue ⟨paddedKey key, ofBytes weightBytes⟩ = ofBytes key := by
    simp only [keyValue, unpaddedKey_paddedKey hlen]
  refine ⟨⟨paddedKey key, ofBytes weightBytes⟩, rfl, ⟨isPaddedKey_paddedKey hlen, hwpos⟩, ?_, rfl,
    hlen, hkv.symm⟩
  rw [hkv]
  exact (comparePublicKeys_pos hlen hprev hc).mp hcpos

/-- What the loop accepts: padded keys increasing from the previous key, positive weights, and
their total added up. -/
theorem parseLoop_eq_ok {data : Bytes} : ∀ {k : ℕ} {st st' : ParseState},
    parseLoop data k st = .ok st' → st.previousPublicKey.length = 96 →
    ∃ validators : List Validator, st'.validators = st.validators ++ validators ∧
      (∀ v ∈ validators, IsPaddedKey v.blsPublicKey ∧ 0 < v.weight) ∧
      List.IsChain (· < ·) (ofBytes st.previousPublicKey :: validators.map keyValue) ∧
      st'.totalWeight = st.totalWeight + (validators.map Validator.weight).sum
  | 0, st, st', h, _ => by
    rw [parseLoop, pure_eq_ok] at h
    subst h
    exact ⟨[], by simp, by simp, List.IsChain.singleton _, by simp⟩
  | k + 1, st, st', h, hprev => by
    rw [parseLoop, bind_eq_ok] at h
    obtain ⟨st₁, h₁, hloop⟩ := h
    obtain ⟨v, hv₁, hv, hlt, htotal₁, hprev₁, hkv⟩ := parseValidator_eq_ok h₁ hprev
    obtain ⟨vs, hvs, hall, hchain, htotal⟩ := parseLoop_eq_ok hloop hprev₁
    refine ⟨v :: vs, ?_, ?_, ?_, ?_⟩
    · rw [hvs, hv₁, List.append_assoc, List.singleton_append]
    · intro w hw
      rcases List.mem_cons.mp hw with rfl | hw
      · exact hv
      · exact hall w hw
    · rw [List.map_cons, List.isChain_cons_cons, ← hkv]
      exact ⟨hkv ▸ hlt, hchain⟩
    · rw [htotal, htotal₁, List.map_cons, List.sum_cons, Nat.add_assoc]

/-! ## The round trip -/

/-- The validator sets whose serialization parses back: 128-byte keys with zero pads, positive
weights, keys that increase strictly from the zero key on (so they are pairwise distinct), a total
weight in `uint64` and a count in `uint32`. -/
structure Serializable (validators : List Validator) : Prop where
  keys : ∀ v ∈ validators, IsPaddedKey v.blsPublicKey ∧ 0 < v.weight
  increasing : List.IsChain (· < ·) (0 :: validators.map keyValue)
  totalWeight : (validators.map Validator.weight).sum < 2 ^ 64
  count : validators.length < 2 ^ 32

theorem codecIDIsZero_serialized (validators : List Validator) :
    codecIDIsZero (serializedValidators validators) = .ok true := rfl

theorem parseValidators_serialized {validators : List Validator} (h : Serializable validators) :
    parseValidators (serializedValidators validators) =
      .ok (validators, (validators.map Validator.weight).sum) := by
  obtain ⟨hkeys, hchain, htotal, hcount⟩ := h
  have h₂ : (serializedValidators validators).drop 2 =
      toBytes 4 validators.length ++ validators.flatMap validatorRecord := by
    simp [serializedValidators]
  have h₆ : (serializedValidators validators).drop 6 = validators.flatMap validatorRecord ++ [] := by
    rw [List.append_nil]
    exact drop_add_of_drop_eq h₂ (by simp)
  have hslice : calldataSlice (serializedValidators validators) 2 6 =
      .ok (toBytes 4 validators.length) :=
    calldataSlice_at h₂ (List.ne_nil_of_length_pos (by simp)) (by simp)
  obtain ⟨st, hloop, hvalidators, htotalWeight⟩ := parseLoop_serialized validators
    ⟨[], 0, 6, List.replicate 96 0⟩ [] h₆ (List.length_replicate ..)
    hkeys (by rw [ofBytes_replicate_zero]; exact hchain) (by rw [Nat.zero_add]; exact htotal)
  simp only [parseValidators, codecIDIsZero_serialized, ok_bind, require, hslice,
    ofBytes_toBytes, Nat.mod_eq_of_lt (show validators.length < 256 ^ 4 by simpa using hcount),
    hloop, hvalidators, htotalWeight, List.nil_append, Nat.zero_add]
  rfl

theorem parseValidators_eq_ok {data : Bytes} {validators : List Validator} {totalWeight : ℕ}
    (h : parseValidators data = .ok (validators, totalWeight)) :
    (∀ v ∈ validators, IsPaddedKey v.blsPublicKey ∧ 0 < v.weight) ∧
      List.IsChain (· < ·) (0 :: validators.map keyValue) ∧
      totalWeight = (validators.map Validator.weight).sum := by
  simp only [parseValidators, bind_eq_ok, require_eq_ok, pure_eq_ok, Prod.mk.injEq] at h
  obtain ⟨_, -, _, -, _, -, st, hloop, rfl, rfl⟩ := h
  obtain ⟨vs, hvs, hall, hchain, htotal⟩ := parseLoop_eq_ok hloop (by simp)
  simp only [List.nil_append] at hvs
  simp only [ofBytes_replicate_zero] at hchain
  subst hvs
  exact ⟨hall, hchain, by simpa using htotal⟩

/-- Serialization and parsing of validator sets are inverse on the sets the format carries: such
a set serializes and parses back with the sum of its weights, and every list `parseValidators`
accepts has padded keys that increase strictly from the zero key on, positive weights, and the
sum of the weights as its total. -/
theorem validatorSet_roundTrip :
    (∀ validators : List Validator, Serializable validators →
      ∃ data, serializeValidators validators = .ok data ∧
        parseValidators data = .ok (validators, (validators.map Validator.weight).sum)) ∧
    ∀ data validators totalWeight, parseValidators data = .ok (validators, totalWeight) →
      (∀ v ∈ validators, IsPaddedKey v.blsPublicKey ∧ 0 < v.weight) ∧
        List.IsChain (· < ·) (0 :: validators.map keyValue) ∧
        totalWeight = (validators.map Validator.weight).sum := by
  refine ⟨fun validators h => ⟨_, serializeValidators_eq fun v hv => (h.keys v hv).1.1,
    parseValidators_serialized h⟩, fun _ _ _ h => parseValidators_eq_ok h⟩

/-- Two validators with increasing keys: the parser's loop runs twice, the second time checking
the order of the keys. -/
theorem validatorSet_roundTrip_two :
    Serializable [⟨paddedKey (List.replicate 95 0 ++ [1]), 1⟩,
      ⟨paddedKey (List.replicate 95 0 ++ [2]), 2⟩] ∧
      ∃ data, serializeValidators [⟨paddedKey (List.replicate 95 0 ++ [1]), 1⟩,
          ⟨paddedKey (List.replicate 95 0 ++ [2]), 2⟩] = .ok data ∧
        parseValidators data = .ok ([⟨paddedKey (List.replicate 95 0 ++ [1]), 1⟩,
          ⟨paddedKey (List.replicate 95 0 ++ [2]), 2⟩], 3) := by
  have hlen (b : UInt8) : (List.replicate 95 (0 : UInt8) ++ [b]).length = 96 := by simp
  -- a key of 95 zero bytes and `b` sorts as `b`
  have hkey (b : UInt8) (w : ℕ) :
      keyValue ⟨paddedKey (List.replicate 95 0 ++ [b]), w⟩ = b.toNat := by
    rw [keyValue, unpaddedKey_paddedKey (hlen b), ofBytes_append_singleton, ofBytes_replicate_zero,
      zero_mul, zero_add]
  have h : Serializable [⟨paddedKey (List.replicate 95 0 ++ [1]), 1⟩,
      ⟨paddedKey (List.replicate 95 0 ++ [2]), 2⟩] := by
    refine ⟨?_, ?_, by decide, by decide⟩
    · simp only [List.mem_cons, List.not_mem_nil, or_false]
      rintro v (rfl | rfl)
      · exact ⟨isPaddedKey_paddedKey (hlen 1), by decide⟩
      · exact ⟨isPaddedKey_paddedKey (hlen 2), by decide⟩
    · rw [List.map_cons, List.map_cons, List.map_nil, hkey, hkey]
      decide
  exact ⟨h, validatorSet_roundTrip.1 _ h⟩

/-- One validator with the zero key meets the rest of the format (zero pads, a positive weight,
a single and so increasing key), but its serialization does not parse back: the loop starts from
the zero key and requires each key to be greater. -/
theorem parseValidators_rejects_zero_key :
    IsPaddedKey (List.replicate 128 0) ∧
      serializeValidators [⟨List.replicate 128 0, 1⟩] =
        .ok (serializedValidators [⟨List.replicate 128 0, 1⟩]) ∧
      parseValidators (serializedValidators [⟨List.replicate 128 0, 1⟩]) =
        .error "BLS public key must be greater than the latest public key" := by
  refine ⟨⟨by simp, by decide⟩, serializeValidators_eq (by simp), by decide⟩

/-! ## Metadata and signatures -/

/-- `PAYLOAD_TYPE_ID_LENGTH`, which is also the payload type the metadata must have. -/
def payloadTypeIDLength : ℕ := 4

/-- `ValidatorSetMetadata`. -/
structure ValidatorSetMetadata where
  avalancheBlockchainID : Bytes32
  pChainHeight : ℕ
  pChainTimestamp : ℕ
  shardHashes : List Bytes32
  deriving DecidableEq, Repr

/-- `ValidatorSets.parseValidatorSetMetadata`: the codec ID, the payload type, the chain, the
P-Chain height and timestamp in 8 bytes each, and the ABI-encoded shard hashes after them. -/
def parseValidatorSetMetadata (data : Bytes) : Except String ValidatorSetMetadata := do
  let codecIDValid ← codecIDIsZero data
  require (codecIDValid = true) "Invalid codec ID"
  let payloadTypeID := ofBytes (← calldataSlice data 2 (2 + payloadTypeIDLength))
  require (payloadTypeID = payloadTypeIDLength) "Invalid ValidatorSetState payload type ID"
  let avalancheBlockchainID ← calldataSlice data (2 + payloadTypeIDLength) 38
  let pChainHeight ← calldataSlice data 38 46
  let pChainTimestamp ← calldataSlice data 46 54
  let shardHashes ← decodeBytes32Array (← calldataSlice data 54 data.length)
  pure ⟨BitVec.ofNat 256 (ofBytes avalancheBlockchainID), ofBytes pChainHeight,
    ofBytes pChainTimestamp, shardHashes⟩

/-- `ValidatorSets.serializeValidatorSetMetadata`. -/
def serializeValidatorSetMetadata (payload : ValidatorSetMetadata) : Bytes :=
  toBytes 2 0 ++ toBytes 4 4 ++ toBytes 32 payload.avalancheBlockchainID.toNat ++
    toBytes 8 payload.pChainHeight ++ toBytes 8 payload.pChainTimestamp ++
    encodeBytes32Array payload.shardHashes

/-- `ValidatorSets.parseValidatorSetSignature`: the signature is the last 192 bytes, the bitmap
of the signers the bytes before it. -/
def parseValidatorSetSignature (signatureBytes : Bytes) :
    Except String ValidatorSetSignature := do
  let signersLength ← checkedSub signatureBytes.length BLST.blsSignatureLength
  let signers ← calldataSlice signatureBytes 0 signersLength
  let signature ← calldataSlice signatureBytes signersLength signatureBytes.length
  pure ⟨signers, signature⟩

/-- `ValidatorSets.serializeValidatorSetSignature`. -/
def serializeValidatorSetSignature (signature : ValidatorSetSignature) : Bytes :=
  signature.signers ++ signature.signature

theorem codecIDIsZero_zero_zero (rest : Bytes) : codecIDIsZero (0 :: 0 :: rest) = .ok true := rfl

/-- Metadata whose numbers fit their fields parses back. -/
theorem parseValidatorSetMetadata_serialize {payload : ValidatorSetMetadata}
    (hh : payload.pChainHeight < 2 ^ 64) (ht : payload.pChainTimestamp < 2 ^ 64)
    (hn : payload.shardHashes.length < 256 ^ 32) :
    parseValidatorSetMetadata (serializeValidatorSetMetadata payload) = .ok payload := by
  set data := serializeValidatorSetMetadata payload
  have hdata : data = 0 :: 0 :: (toBytes 4 4 ++ (toBytes 32 payload.avalancheBlockchainID.toNat ++
      (toBytes 8 payload.pChainHeight ++
        (toBytes 8 payload.pChainTimestamp ++ encodeBytes32Array payload.shardHashes)))) := by
    simp only [data, serializeValidatorSetMetadata, List.append_assoc]
    rfl
  have h₂ : data.drop 2 = toBytes 4 4 ++ (toBytes 32 payload.avalancheBlockchainID.toNat ++
      (toBytes 8 payload.pChainHeight ++
        (toBytes 8 payload.pChainTimestamp ++ encodeBytes32Array payload.shardHashes))) := by
    rw [hdata]
    rfl
  have h₆ := drop_add_of_drop_eq h₂ (by simp : 2 + (toBytes 4 4).length = 6)
  have h₃₈ := drop_add_of_drop_eq h₆
    (by simp : 6 + (toBytes 32 payload.avalancheBlockchainID.toNat).length = 38)
  have h₄₆ := drop_add_of_drop_eq h₃₈ (by simp : 38 + (toBytes 8 payload.pChainHeight).length = 46)
  have h₅₄ := drop_add_of_drop_eq h₄₆
    (by simp : 46 + (toBytes 8 payload.pChainTimestamp).length = 54)
  have hlen : 54 ≤ data.length := by
    have := congrArg List.length h₅₄
    simp only [List.length_drop] at this
    have htail : 32 ≤ (encodeBytes32Array payload.shardHashes).length := by
      simp [encodeBytes32Array]
    omega
  have hval (w n : ℕ) (h : n < 256 ^ w) : ofBytes (toBytes w n) = n := by
    rw [ofBytes_toBytes, Nat.mod_eq_of_lt h]
  simp only [parseValidatorSetMetadata, payloadTypeIDLength, hdata.symm ▸ codecIDIsZero_zero_zero _,
    ok_bind, require, if_true,
    calldataSlice_at h₂ (toBytes_ne_nil 3 _) (by simp : 2 + (toBytes 4 4).length = 2 + 4),
    calldataSlice_at h₆ (toBytes_ne_nil 31 _)
      (by simp : 6 + (toBytes 32 payload.avalancheBlockchainID.toNat).length = 38),
    calldataSlice_at h₃₈ (toBytes_ne_nil 7 _)
      (by simp : 38 + (toBytes 8 payload.pChainHeight).length = 46),
    calldataSlice_at h₄₆ (toBytes_ne_nil 7 _)
      (by simp : 46 + (toBytes 8 payload.pChainTimestamp).length = 54),
    calldataSlice_length_eq_ok.2 ⟨hlen, h₅₄.symm⟩, decodeBytes32Array_encode hn,
    hval 4 4 (by decide), hval 8 _ (by simpa using hh), hval 8 _ (by simpa using ht),
    ofNat_ofBytes_toBytes (show 2 ^ 256 = 256 ^ 32 by decide)]
  rfl

/-- A bitmap and a 192-byte signature parse back. -/
theorem parseValidatorSetSignature_serialize {signature : ValidatorSetSignature}
    (h : signature.signature.length = 192) :
    parseValidatorSetSignature (serializeValidatorSetSignature signature) = .ok signature := by
  have hlen : (serializeValidatorSetSignature signature).length =
      signature.signers.length + 192 := by
    simp [serializeValidatorSetSignature, h]
  have hsub : checkedSub (serializeValidatorSetSignature signature).length
      BLST.blsSignatureLength = .ok signature.signers.length :=
    checkedSub_eq_ok.2 ⟨by simp [BLST.blsSignatureLength, hlen], by
      simp [BLST.blsSignatureLength, hlen]⟩
  have hsigners : calldataSlice (serializeValidatorSetSignature signature) 0
      signature.signers.length = .ok signature.signers :=
    calldataSlice_eq_ok.2 ⟨Nat.zero_le _, by omega, by simp [serializeValidatorSetSignature]⟩
  have hsig : calldataSlice (serializeValidatorSetSignature signature) signature.signers.length
      (serializeValidatorSetSignature signature).length = .ok signature.signature :=
    calldataSlice_length_eq_ok.2 ⟨by omega, by simp [serializeValidatorSetSignature]⟩
  simp only [parseValidatorSetSignature, hsub, ok_bind, hsigners, hsig]
  rfl

end ValidatorSets
