import IcmServices.Lib.Solidity
import IcmServices.Lib.Bytes

/-!
# Reading fields out of `bytes`

The decoders of a packed message read each field with a loop over its bytes at an index into the
input: a `w`-byte number as `x |= uint(uint8(input[i + index])) << 8 * (w - 1 - i)` (`readUint`),
a byte string by copying `out[i] = input[i + index]` (`readBytes`), every access bounds-checked.
A decoder of `bytes calldata` cuts it with slices `data[start:stop]` instead (`calldataSlice`).

* `readUint_eq_ok`, `readBytes_eq_ok`: a read succeeds exactly when the field lies inside the
  input, and returns the bytes at `index` (as the number `ofBytes` they spell);
* `readUint_at`, `readBytes_at`: a field packed at `index` reads back;
* `calldataSlice_at`, `drop_eq_of_calldataSlice`: the same for a slice, and
  `calldataSlice_length_eq_ok` for the slice `data[start:]` to the end;
* `drop_eq_of_readUint`, `drop_eq_of_readBytes`: a successful read cuts the input at `index`
  into the encoding of what it returned and the rest, so that an input a decoder accepts is the
  concatenation of the encodings of what it read;
* `decodeBytes32Array_encode`: `abi.decode` of a `bytes32[]` inverts `abi.encode`.
-/

namespace Decode

open Solidity BigEndian

/-- One round of the loop of `readUint`: the byte at `i + index` is or-ed in at its place. -/
def readUintStep (input : Bytes) (index w x i : ℕ) : Except String ℕ := do
  let b ← byteAt input (i + index)
  pure (x ||| b.toNat <<< (8 * (w - 1 - i)))

/-- The loop that reads the big-endian `w`-byte number at `index`. -/
def readUint (input : Bytes) (index w : ℕ) : Except String ℕ :=
  (List.range w).foldlM (readUintStep input index w) 0

/-- The loop `out[i] = input[i + index]` for `i < n`. -/
def readBytes (input : Bytes) (index n : ℕ) : Except String Bytes :=
  (List.range n).mapM fun i => byteAt input (i + index)

/-- `data[start:stop]` of `bytes calldata`, reverting when the range leaves the data. -/
def calldataSlice (data : Bytes) (start stop : ℕ) : Except String Bytes :=
  if start ≤ stop ∧ stop ≤ data.length then .ok ((data.drop start).take (stop - start))
  else .error ""

/-- The or of a round of `readUint` is an addition: the byte lands below the bytes read so far. -/
theorem or_shiftLeft_byte (m : ℕ) {b : ℕ} (hb : b < 2 ^ 8) (j : ℕ) :
    m * 256 ^ (j + 1) ||| b <<< (8 * j) = (m * 256 + b) * 256 ^ j := by
  have h256 : 256 ^ j = 2 ^ (8 * j) := by rw [pow_mul]; rfl
  have hm : m * 256 ^ (j + 1) = (2 ^ 8 * m) <<< (8 * j) := by
    rw [Nat.shiftLeft_eq, ← h256, pow_succ]
    ring
  rw [hm, ← Nat.shiftLeft_or_distrib, ← Nat.two_pow_add_eq_or_of_lt hb, Nat.shiftLeft_eq, ← h256]
  ring

theorem getElem?_add_index (input : Bytes) (index i : ℕ) :
    input[i + index]? = (input.drop index)[i]? := by
  rw [List.getElem?_drop, Nat.add_comm]

/-- After `k` rounds, the `k` bytes at `index` are read, shifted to the top of the `w` bytes. -/
theorem foldlM_readUintStep {input : Bytes} {index w : ℕ} :
    ∀ {k x : ℕ}, k ≤ w → ((List.range k).foldlM (readUintStep input index w) 0 = .ok x ↔
      k ≤ (input.drop index).length ∧
        x = ofBytes ((input.drop index).take k) * 256 ^ (w - k))
  | 0, x, _ => by
    simp only [List.range_zero, List.foldlM_nil, pure_eq_ok]
    simp [ofBytes, eq_comm]
  | k + 1, x, hk => by
    have ih := @foldlM_readUintStep input index w k
    rw [List.range_succ, List.foldlM_append, bind_eq_ok]
    simp only [List.foldlM_cons, List.foldlM_nil, readUintStep, bind_eq_ok, byteAt_eq_ok,
      pure_eq_ok, getElem?_add_index, ih (by omega)]
    -- the round puts the `k`-th byte below the `k` bytes read, and the rest is `w - 1 - k` bytes
    have hw : w - k = (w - 1 - k) + 1 := by omega
    have hw' : w - (k + 1) = w - 1 - k := by omega
    constructor
    · rintro ⟨acc, ⟨-, rfl⟩, x', ⟨b, hb, rfl⟩, rfl⟩
      refine ⟨(List.getElem?_eq_some_iff.mp hb).1, ?_⟩
      rw [List.take_add_one, hb, Option.toList_some, ofBytes_append_singleton, hw,
        or_shiftLeft_byte _ b.toNat_lt, hw']
    · rintro ⟨hlt, rfl⟩
      have hb := List.getElem?_eq_getElem hlt
      refine ⟨_, ⟨by omega, rfl⟩, _, ⟨_, hb, rfl⟩, ?_⟩
      rw [List.take_add_one, hb, Option.toList_some, ofBytes_append_singleton, hw,
        or_shiftLeft_byte _ (UInt8.toNat_lt _), hw']

theorem readUint_eq_ok {input : Bytes} {index w x : ℕ} :
    readUint input index w = .ok x ↔
      w ≤ (input.drop index).length ∧ x = ofBytes ((input.drop index).take w) := by
  rw [readUint, foldlM_readUintStep le_rfl, Nat.sub_self, pow_zero, Nat.mul_one]

theorem readBytes_eq_ok {input : Bytes} {index : ℕ} :
    ∀ {n : ℕ} {bs : Bytes}, readBytes input index n = .ok bs ↔
      n ≤ (input.drop index).length ∧ bs = (input.drop index).take n
  | 0, bs => by
    simp only [readBytes, List.range_zero, List.mapM_nil, pure_eq_ok]
    simp [eq_comm]
  | n + 1, bs => by
    have ih := @readBytes_eq_ok input index n
    simp only [readBytes] at ih ⊢
    simp only [List.range_succ, List.mapM_append, List.mapM_cons, List.mapM_nil, bind_eq_ok,
      byteAt_eq_ok, pure_eq_ok, getElem?_add_index, ih]
    constructor
    · rintro ⟨_, ⟨-, rfl⟩, _, ⟨b, hb, _, rfl, rfl⟩, rfl⟩
      exact ⟨(List.getElem?_eq_some_iff.mp hb).1, by rw [List.take_add_one, hb, Option.toList_some]⟩
    · rintro ⟨hlt, rfl⟩
      have hb := List.getElem?_eq_getElem hlt
      exact ⟨_, ⟨by omega, rfl⟩, _, ⟨_, hb, _, rfl, rfl⟩,
        by rw [List.take_add_one, hb, Option.toList_some]⟩

theorem readUint_lt {input : Bytes} {index w x : ℕ} (h : readUint input index w = .ok x) :
    x < 256 ^ w := by
  obtain ⟨hw, rfl⟩ := readUint_eq_ok.mp h
  have := ofBytes_lt ((input.drop index).take w)
  rwa [List.length_take_of_le hw] at this

/-- A number packed at `index` reads back, cut to its width. -/
theorem readUint_at {input rest : Bytes} {index w n : ℕ}
    (h : input.drop index = toBytes w n ++ rest) :
    readUint input index w = .ok (n % 256 ^ w) := by
  rw [readUint_eq_ok, h, List.take_left' (length_toBytes w n), ofBytes_toBytes]
  simp

theorem readBytes_at {input bs rest : Bytes} {index : ℕ} (h : input.drop index = bs ++ rest) :
    readBytes input index bs.length = .ok bs := by
  rw [readBytes_eq_ok, h, List.take_left' rfl]
  simp

/-- A successful read cuts the input into the encoding of the number and what follows it. -/
theorem drop_eq_of_readUint {input : Bytes} {index w x index' : ℕ}
    (h : readUint input index w = .ok x) (hi : index + w = index') :
    input.drop index = toBytes w x ++ input.drop index' := by
  obtain ⟨hw, rfl⟩ := readUint_eq_ok.mp h
  have hbytes : toBytes w (ofBytes ((input.drop index).take w)) = (input.drop index).take w := by
    have := toBytes_ofBytes ((input.drop index).take w)
    rwa [List.length_take_of_le hw] at this
  rw [hbytes, ← hi, ← List.drop_drop, List.take_append_drop]

theorem drop_eq_of_readBytes {input bs : Bytes} {index n index' : ℕ}
    (h : readBytes input index n = .ok bs) (hi : index + n = index') :
    bs.length = n ∧ input.drop index = bs ++ input.drop index' := by
  obtain ⟨hn, rfl⟩ := readBytes_eq_ok.mp h
  refine ⟨List.length_take_of_le hn, ?_⟩
  rw [← hi, ← List.drop_drop, List.take_append_drop]

theorem calldataSlice_eq_ok {data bs : Bytes} {start stop : ℕ} :
    calldataSlice data start stop = .ok bs ↔
      start ≤ stop ∧ stop ≤ data.length ∧ bs = (data.drop start).take (stop - start) := by
  unfold calldataSlice
  split <;> simp_all [eq_comm]

/-- A field packed at `start`, which may be empty where `start` still lies within the data. -/
theorem calldataSlice_at_of_le {data seg rest : Bytes} {start stop : ℕ}
    (h : data.drop start = seg ++ rest) (hstart : start ≤ data.length)
    (hs : start + seg.length = stop) : calldataSlice data start stop = .ok seg := by
  have hlen : seg.length ≤ (data.drop start).length := by simp [h]
  subst hs
  rw [calldataSlice_eq_ok, h, Nat.add_sub_cancel_left, List.take_left' rfl]
  simp only [List.length_drop] at hlen
  exact ⟨by omega, by omega, rfl⟩

theorem calldataSlice_at {data seg rest : Bytes} {start stop : ℕ}
    (h : data.drop start = seg ++ rest) (hseg : seg ≠ []) (hs : start + seg.length = stop) :
    calldataSlice data start stop = .ok seg := by
  have hpos : 0 < (data.drop start).length := by simp [h, List.length_pos_iff.mpr hseg]
  exact calldataSlice_at_of_le h (by simp at hpos; omega) hs

/-- `data[start:]`: the rest of the data, reverting only when `start` is past its end. -/
theorem calldataSlice_length_eq_ok {data bs : Bytes} {start : ℕ} :
    calldataSlice data start data.length = .ok bs ↔ start ≤ data.length ∧ bs = data.drop start := by
  rw [calldataSlice_eq_ok, List.take_of_length_le (by simp)]
  simp

theorem drop_eq_of_calldataSlice {data bs : Bytes} {start stop : ℕ}
    (h : calldataSlice data start stop = .ok bs) :
    bs.length = stop - start ∧ data.drop start = bs ++ data.drop stop := by
  obtain ⟨hs, hl, rfl⟩ := calldataSlice_eq_ok.mp h
  refine ⟨by simp; omega, ?_⟩
  have hstop : data.drop stop = (data.drop start).drop (stop - start) := by
    rw [List.drop_drop, Nat.add_sub_cancel' hs]
  rw [hstop, List.take_append_drop]

theorem drop_add_of_drop_eq {input seg rest : Bytes} {index index' : ℕ}
    (h : input.drop index = seg ++ rest) (hi : index + seg.length = index') :
    input.drop index' = rest := by
  rw [← hi, ← List.drop_drop, h, List.drop_left]

/-! ## A `bytes32[]` in the ABI encoding -/

/-- `abi.encode` of a `bytes32[]`: the offset of the array, its length, then its words. -/
def encodeBytes32Array (words : List Bytes32) : Bytes :=
  toBytes 32 32 ++ toBytes 32 words.length ++ words.flatMap fun w => toBytes 32 w.toNat

/-- `abi.decode(data, (bytes32[]))`: the array's offset in the first word and its length in the
word there; the decoder checks that the words lie inside the data, then reads them. -/
def decodeBytes32Array (data : Bytes) : Except String (List Bytes32) := do
  let offset := ofBytes (← calldataSlice data 0 32)
  let length := ofBytes (← calldataSlice data offset (offset + 32))
  require (offset + 32 + 32 * length ≤ data.length) ""
  (List.range length).mapM fun i => do
    let word ← calldataSlice data (offset + 32 + 32 * i) (offset + 64 + 32 * i)
    pure (BitVec.ofNat 256 (ofBytes word))

/-- Reads at the positions from `s` on that each return their element return the list. -/
theorem mapM_range'_eq_ok {α : Type} {f : ℕ → Except String α} :
    ∀ (xs : List α) (s : ℕ), (∀ i (hi : i < xs.length), f (s + i) = .ok xs[i]) →
      (List.range' s xs.length).mapM f = .ok xs
  | [], _, _ => rfl
  | x :: xs, s, h => by
    have hx : f s = .ok x := h 0 (by simp)
    have hxs := mapM_range'_eq_ok xs (s + 1) fun i hi => by
      rw [Nat.add_assoc, Nat.add_comm 1 i]
      exact h (i + 1) (by simpa using hi)
    rw [List.length_cons, List.range'_succ, List.mapM_cons, hx, ok_bind, hxs, ok_bind]
    rfl

theorem decodeBytes32Array_encode {words : List Bytes32} (hn : words.length < 256 ^ 32) :
    decodeBytes32Array (encodeBytes32Array words) = .ok words := by
  have hw (w : Bytes32) : (toBytes 32 w.toNat).length = 32 := length_toBytes 32 _
  have hlen : (encodeBytes32Array words).length = 32 + 32 + 32 * words.length := by
    simp [encodeBytes32Array, List.length_flatMap, Nat.mul_comm]
    omega
  -- the offset word, the length word, and the words after them
  have h₀ : calldataSlice (encodeBytes32Array words) 0 32 = .ok (toBytes 32 32) :=
    calldataSlice_at (by simp [encodeBytes32Array] : (encodeBytes32Array words).drop 0 =
      toBytes 32 32 ++ (toBytes 32 words.length ++ words.flatMap fun w => toBytes 32 w.toNat))
      (toBytes_ne_nil 31 _) (by simp)
  have h₁ : calldataSlice (encodeBytes32Array words) 32 (32 + 32) =
      .ok (toBytes 32 words.length) :=
    calldataSlice_at (by simp [encodeBytes32Array] : (encodeBytes32Array words).drop 32 =
      toBytes 32 words.length ++ words.flatMap fun w => toBytes 32 w.toNat)
      (toBytes_ne_nil 31 _) (by simp)
  have hword (i : ℕ) (hi : i < words.length) :
      calldataSlice (encodeBytes32Array words) (32 + 32 + 32 * i) (32 + 64 + 32 * i) =
        .ok (toBytes 32 words[i].toNat) := by
    have hdrop : (encodeBytes32Array words).drop (32 + 32 + 32 * i) =
        toBytes 32 words[i].toNat ++ (words.drop (i + 1)).flatMap fun w => toBytes 32 w.toNat := by
      rw [show 32 + 32 + 32 * i = 32 + (32 + 32 * i) by omega, ← List.drop_drop,
        encodeBytes32Array, List.append_assoc,
        List.drop_left' (length_toBytes 32 32), ← List.drop_drop,
        List.drop_left' (length_toBytes 32 _), drop_flatMap hw, List.drop_eq_getElem_cons hi,
        List.flatMap_cons]
    exact calldataSlice_at hdrop (toBytes_ne_nil 31 _) (by simp; omega)
  have h32 : ofBytes (toBytes 32 32) = 32 := by
    rw [ofBytes_toBytes, Nat.mod_eq_of_lt (by decide)]
  have hn' : ofBytes (toBytes 32 words.length) = words.length := by
    rw [ofBytes_toBytes, Nat.mod_eq_of_lt hn]
  simp only [decodeBytes32Array, h₀, ok_bind, h32, h₁, hn', require, hlen, le_refl, if_true]
  rw [List.range_eq_range']
  refine mapM_range'_eq_ok words 0 fun i hi => ?_
  rw [Nat.zero_add, hword i hi, ok_bind, ofNat_ofBytes_toBytes (by decide)]
  rfl

end Decode
