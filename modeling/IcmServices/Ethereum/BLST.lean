import IcmServices.Lib.Solidity
import IcmServices.Lib.Bytes
import IcmServices.Lib.Memory

/-!
# `BLST`: the BLS12-381 wrappers

`BLST` reaches the curve through the EIP-2537 precompiles and hashes with SHA-256; these calls
are the parameters (`Precompiles`), a failed call being `none`. The library around them is
translated: `addG1` and `addG2` require points of 128 and 256 bytes and revert when the
precompile fails; `hashToG2` expands the message with SHA-256 (`expandMsgXmd`), reduces it to two
points of Fp2 (`modfield`, the modexp precompile with exponent 1) and maps both to G2;
`verifySignature` requires a 128-byte key and a 192-byte signature, and runs the pairing check
on the key, the message's point, the negated generator and the padded signature.

* `addPoints_eq_ok`: an addition succeeds exactly on two points of the width, when the
  precompile does;
* `expandMsgXmd_ok`, `hashToG2_ok`: hashing to G2 succeeds when the map and the addition do;
* `padUncompressedBLSTSignature_eq`: the eight overlapping stores reorder the coordinates of a
  signature and pad each (`paddedSignature`);
* `verifySignature_eq_ok`: what `verifySignature` returns, in terms of the precompiles.
-/

namespace BLST

open Solidity BigEndian Memory

/-- The precompiles `BLST` calls, and SHA-256; a call that fails is `none`. -/
structure Precompiles where
  sha256 : Bytes → Bytes32
  /-- `BLS12381_G1_ADD_PRECOMPILE`. -/
  g1Add : Bytes → Option Bytes
  /-- `BLS12381_G2_ADD_PRECOMPILE`. -/
  g2Add : Bytes → Option Bytes
  /-- `BLS12381_MAP_FP2_G2_PRECOMPILE`. -/
  mapFp2ToG2 : Bytes → Option Bytes
  /-- `BLS12381_PAIRING_CHECK_PRECOMPILE`. -/
  pairingCheck : Bytes → Option Bytes

/-- `BLS_SIGNATURE_LENGTH`. -/
def blsSignatureLength : ℕ := 192

/-- `BLS_G1_NEG_GENERATOR`. -/
def blsG1NegGenerator : Bytes :=
  toBytes 128 0x0000000000000000000000000000000017f1d3a73197d7942695638c4fa9ac0fc3688c4f9774b905a14e3a3f171bac586c55e83ff97a1aeffb3af00adb22c6bb00000000000000000000000000000000114d1d6855d545a8aa7d76c8cf2e21f267816aef1db507c96655b9d5caac42364e6f38ba0ecb751bad54dcd6b939c2ca

/-- `BLS12381G2_SIG_DST`, in ASCII. -/
def bls12381G2SigDst : Bytes :=
  "BLS_SIG_BLS12381G2_XMD:SHA-256_SSWU_RO_POP_".toList.map fun c => c.toNat.toUInt8

/-- A `staticcall` to a precompile, and the `require(success, message)` after it. -/
def staticcall (precompile : Bytes → Option Bytes) (input : Bytes) (message : String) :
    Except String Bytes :=
  match precompile input with
  | some output => .ok output
  | none => .error message

section
variable (pc : Precompiles)

/-- `addG1` and `addG2`: two points of `width` bytes, added by the precompile. -/
def addPoints (precompile : Bytes → Option Bytes) (width : ℕ) (lengthError failure : String)
    (p0 p1 : Bytes) : Except String Bytes := do
  require (p0.length = width ∧ p1.length = width) lengthError
  staticcall precompile (p0 ++ p1) failure

/-- `addG1`. -/
def addG1 : Bytes → Bytes → Except String Bytes :=
  addPoints pc.g1Add 128 "Invalid G1 point length" "Failed to add G1 points"

/-- `addG2`. -/
def addG2 : Bytes → Bytes → Except String Bytes :=
  addPoints pc.g2Add 256 "Invalid G2 point length" "Failed to add G2 points"

/-- Round `i` of the loop of `_expandMsgXmd`:
`b_i = H(strxor(b_0, b_(i - 1)) || I2OSP(i, 1) || DST_prime)`, then the checked `i++` of the
`uint8` counter. -/
def expandRound (b0 : Bytes32) (dstPrime : Bytes) (b : List Bytes32) (i : ℕ) :
    Except String (List Bytes32) := do
  let previous ← arrayAt b (i - 2)
  let b ← arraySet b (i - 1)
    (pc.sha256 (toBytes 32 (b0 ^^^ previous).toNat ++ [i.toUInt8] ++ dstPrime))
  let _ ← checkedAdd 8 i 1
  pure b

/-- `_expandMsgXmd` (RFC 9380, 5.3) with SHA-256: `ell` words, the first hashed from `b_0` and
each next one from `b_0` xor the one before. -/
def expandMsgXmd (message dst : Bytes) (lenInBytes : ℕ) : Except String (List Bytes32) := do
  let ell := (← checkedSub lenInBytes 1) / 32 + 1
  require (ell ≤ 255) "len_in_bytes too large for sha256"
  require (dst.length ≤ 255) "dst too long"
  let dstPrime := dst ++ [dst.length.toUInt8]
  let msgPrime := List.replicate 64 0 ++ message ++ toBytes 2 lenInBytes ++ [0] ++ dstPrime
  let b0 := pc.sha256 msgPrime
  let b ← arraySet (List.replicate ell 0) 0 (pc.sha256 (toBytes 32 b0.toNat ++ [1] ++ dstPrime))
  (List.range' 2 (ell - 1)).foldlM (expandRound pc b0 dstPrime) b

/-- The field modulus of BLS12-381. -/
def fieldModulus : ℕ :=
  0x1a0111ea397fe69a4b1ba7b6434bacd764774b84f38512bf6730d2a0f6b0f6241eabfffeb153ffffb9feffffffffaaab

/-- `_modfield`: the modexp precompile with exponent 1 reduces the 64 bytes `_b1 ‖ _b2` modulo
the field modulus, into the two words of a 64-byte result. -/
def modfield (b1 b2 : Bytes32) : Bytes32 × Bytes32 :=
  let r := (b1.toNat * 2 ^ 256 + b2.toNat) % fieldModulus
  (BitVec.ofNat 256 (r / 2 ^ 256), BitVec.ofNat 256 r)

/-- `FieldPoint2`. -/
structure FieldPoint2 where
  u : Bytes32 × Bytes32
  uI : Bytes32 × Bytes32

/-- `hashToFieldFp2`: the 256 bytes of `expandMsgXmd`, eight words, as two points of Fp2. -/
def hashToFieldFp2 (message dst : Bytes) : Except String (FieldPoint2 × FieldPoint2) := do
  let pseudoRandomBytes ← expandMsgXmd pc message dst 256
  match pseudoRandomBytes with
  | e₀ :: e₁ :: e₂ :: e₃ :: e₄ :: e₅ :: e₆ :: e₇ :: _ =>
    pure (⟨modfield e₀ e₁, modfield e₂ e₃⟩, ⟨modfield e₄ e₅, modfield e₆ e₇⟩)
  | _ => .error indexPanic

/-- `_mapFpToG2`. -/
def mapFpToG2 (fp2 : FieldPoint2) : Except String Bytes :=
  staticcall pc.mapFp2ToG2 (toBytes 32 fp2.u.1.toNat ++ toBytes 32 fp2.u.2.toNat ++
    toBytes 32 fp2.uI.1.toNat ++ toBytes 32 fp2.uI.2.toNat) "Failed to map Fp2 to G2"

/-- `hashToG2`. -/
def hashToG2 (message dst : Bytes) : Except String Bytes := do
  let (u₀, u₁) ← hashToFieldFp2 pc message dst
  let q0 ← mapFpToG2 pc u₀
  let q1 ← mapFpToG2 pc u₁
  addG2 pc q0 q1

end

/-- `padUncompressedBLSTSignature`: the coordinates moved by eight overlapping stores. -/
def padUncompressedBLSTSignature (signature : Bytes) : Except String Bytes := do
  require (signature.length = blsSignatureLength) "Invalid input signature length"
  let res := List.replicate 256 0
  let res := mstoreWord res 16 (mloadWord signature 48)
  let res := mstoreWord res 32 (mloadWord signature 64)
  let res := mstoreWord res 80 (mloadWord signature 0)
  let res := mstoreWord res 96 (mloadWord signature 16)
  let res := mstoreWord res 144 (mloadWord signature 144)
  let res := mstoreWord res 160 (mloadWord signature 160)
  let res := mstoreWord res 208 (mloadWord signature 96)
  let res := mstoreWord res 224 (mloadWord signature 112)
  pure res

/-- Coordinate `k` of a signature, its 48 bytes after 16 zero bytes. -/
def paddedCoordinate (signature : Bytes) (k : ℕ) : Bytes :=
  List.replicate 16 0 ++ (signature.drop (48 * k)).take 48

/-- The 256-byte form of a signature `[x.c1, x.c0, y.c1, y.c0]`: `[x.c0, x.c1, y.c0, y.c1]`, each
coordinate after 16 zero bytes. -/
def paddedSignature (signature : Bytes) : Bytes :=
  paddedCoordinate signature 1 ++ paddedCoordinate signature 0 ++ paddedCoordinate signature 3 ++
    paddedCoordinate signature 2

/-- `_verifySignature`: the pairing check of the key and the message's point against the
negated generator and the signature. -/
def verifySignatureWithDst (pc : Precompiles) (publicKey signature message dst : Bytes) :
    Except String Bool := do
  require (publicKey.length = 128) "Invalid public key length"
  require (signature.length = blsSignatureLength) "Invalid signature length"
  let messageG2 ← hashToG2 pc message dst
  let paddedSignature ← padUncompressedBLSTSignature signature
  let output ← staticcall pc.pairingCheck
    (publicKey ++ messageG2 ++ blsG1NegGenerator ++ paddedSignature)
    "Failed to perform pairing check"
  require (output.length = 32) "Invalid pairing check output length"
  pure (ofBytes output = 1)

/-- `verifySignature`. -/
def verifySignature (pc : Precompiles) (publicKey signature message : Bytes) :
    Except String Bool :=
  verifySignatureWithDst pc publicKey signature message bls12381G2SigDst

/-! ## The calls -/

@[simp] theorem staticcall_eq_ok {precompile : Bytes → Option Bytes} {input : Bytes}
    {message : String} {output : Bytes} :
    staticcall precompile input message = .ok output ↔ precompile input = some output := by
  unfold staticcall
  split <;> simp_all

/-- An addition succeeds exactly on two points of the width, with what the precompile returns. -/
theorem addPoints_eq_ok {precompile : Bytes → Option Bytes} {width : ℕ}
    {lengthError failure : String} {p0 p1 r : Bytes} :
    addPoints precompile width lengthError failure p0 p1 = .ok r ↔
      p0.length = width ∧ p1.length = width ∧ precompile (p0 ++ p1) = some r := by
  simp only [addPoints, bind_eq_ok, require_eq_ok, staticcall_eq_ok]
  constructor
  · rintro ⟨_, ⟨h₀, h₁⟩, h⟩
    exact ⟨h₀, h₁, h⟩
  · rintro ⟨h₀, h₁, h⟩
    exact ⟨(), ⟨h₀, h₁⟩, h⟩

/-! ## Hashing to G2 -/

section
variable {pc : Precompiles}

/-- The loop of `expandMsgXmd` from round `i` keeps the words, and runs while the rounds read and
write inside them and the counter stays below `256`. -/
theorem foldlM_expandRound_ok {b0 : Bytes32} {dstPrime : Bytes} :
    ∀ (k i : ℕ) (b : List Bytes32), 2 ≤ i → i + k ≤ b.length + 1 → i + k ≤ 255 →
      ∃ b', (List.range' i k).foldlM (expandRound pc b0 dstPrime) b = .ok b' ∧
        b'.length = b.length
  | 0, _, b, _, _, _ => ⟨b, rfl, rfl⟩
  | k + 1, i, b, hi, hlen, hc => by
    -- round `i` reads word `i - 2` and writes word `i - 1`
    set w := pc.sha256 (toBytes 32 (b0 ^^^ b[i - 2]).toNat ++ [i.toUInt8] ++ dstPrime)
    have hround : expandRound pc b0 dstPrime b i = .ok (b.set (i - 1) w) := by
      simp only [expandRound, bind_eq_ok, arrayAt_eq_ok, arraySet_eq_ok, checkedAdd_eq_ok,
        pure_eq_ok]
      exact ⟨_, List.getElem?_eq_getElem (by omega), _, ⟨by omega, rfl⟩, _, ⟨by omega, rfl⟩, rfl⟩
    obtain ⟨b', hb', hlen'⟩ := foldlM_expandRound_ok k (i + 1) (b.set (i - 1) w) (by omega)
      (by rw [List.length_set]; omega) (by omega)
    refine ⟨b', ?_, by rw [hlen', List.length_set]⟩
    rw [List.range'_succ, List.foldlM_cons, hround, ok_bind]
    exact hb'

/-- `expandMsgXmd` returns its `ell` words for every message, when `ell` is below `255` and the
tag has at most 255 bytes. -/
theorem expandMsgXmd_ok (message : Bytes) {dst : Bytes} {lenInBytes : ℕ} (hpos : 0 < lenInBytes)
    (hell : (lenInBytes - 1) / 32 + 1 < 255) (hdst : dst.length ≤ 255) :
    ∃ b, expandMsgXmd pc message dst lenInBytes = .ok b ∧ b.length = (lenInBytes - 1) / 32 + 1 := by
  set dstPrime := dst ++ [dst.length.toUInt8]
  set b0 := pc.sha256 (List.replicate 64 0 ++ message ++ toBytes 2 lenInBytes ++ [0] ++ dstPrime)
  set b := (List.replicate ((lenInBytes - 1) / 32 + 1) 0).set 0
    (pc.sha256 (toBytes 32 b0.toNat ++ [1] ++ dstPrime))
  have hb : b.length = (lenInBytes - 1) / 32 + 1 := by
    rw [List.length_set, List.length_replicate]
  obtain ⟨b', hb', hlen⟩ : ∃ b', (List.range' 2 ((lenInBytes - 1) / 32)).foldlM
      (expandRound pc b0 dstPrime) b = .ok b' ∧ b'.length = b.length :=
    foldlM_expandRound_ok _ 2 b le_rfl (by omega) (by omega)
  refine ⟨b', ?_, by rw [hlen, hb]⟩
  have hsub : checkedSub lenInBytes 1 = .ok (lenInBytes - 1) := checkedSub_eq_ok.mpr ⟨hpos, rfl⟩
  have hset : arraySet (List.replicate ((lenInBytes - 1) / 32 + 1) (0 : Bytes32)) 0
      (pc.sha256 (toBytes 32 b0.toNat ++ [1] ++ dstPrime)) = .ok b :=
    arraySet_eq_ok.mpr ⟨by rw [List.length_replicate]; omega, rfl⟩
  rw [expandMsgXmd, hsub, ok_bind]
  simp only [require, if_pos (show (lenInBytes - 1) / 32 + 1 ≤ 255 by omega), if_pos hdst, ok_bind]
  rw [hset, ok_bind, Nat.add_sub_cancel]
  exact hb'

theorem hashToFieldFp2_ok (message : Bytes) {dst : Bytes} (hdst : dst.length ≤ 255) :
    ∃ u, hashToFieldFp2 pc message dst = .ok u := by
  obtain ⟨b, hb, hlen⟩ : ∃ b, expandMsgXmd pc message dst 256 = .ok b ∧ b.length = 8 :=
    expandMsgXmd_ok message (by decide) (by decide) hdst
  match b, hlen with
  | [e₀, e₁, e₂, e₃, e₄, e₅, e₆, e₇], _ =>
    exact ⟨_, by simp only [hashToFieldFp2, hb, ok_bind]; rfl⟩

/-- Hashing to G2 succeeds when the map gives points of 256 bytes and the addition adds them. -/
theorem hashToG2_ok (message : Bytes) {dst : Bytes} (hdst : dst.length ≤ 255)
    (hmap : ∀ input, ∃ q, pc.mapFp2ToG2 input = some q ∧ q.length = 256)
    (hadd : ∀ q0 q1 : Bytes, q0.length = 256 → q1.length = 256 → (pc.g2Add (q0 ++ q1)).isSome) :
    ∃ q, hashToG2 pc message dst = .ok q := by
  obtain ⟨⟨u₀, u₁⟩, hu⟩ : ∃ u, hashToFieldFp2 pc message dst = .ok u :=
    hashToFieldFp2_ok message hdst
  obtain ⟨q0, hq0, hl0⟩ := hmap (toBytes 32 u₀.u.1.toNat ++ toBytes 32 u₀.u.2.toNat ++
    toBytes 32 u₀.uI.1.toNat ++ toBytes 32 u₀.uI.2.toNat)
  obtain ⟨q1, hq1, hl1⟩ := hmap (toBytes 32 u₁.u.1.toNat ++ toBytes 32 u₁.u.2.toNat ++
    toBytes 32 u₁.uI.1.toNat ++ toBytes 32 u₁.uI.2.toNat)
  obtain ⟨q, hq⟩ := Option.isSome_iff_exists.mp (hadd q0 q1 hl0 hl1)
  refine ⟨q, ?_⟩
  simp only [hashToG2, hu, ok_bind, bind_eq_ok, mapFpToG2, staticcall_eq_ok, addG2,
    addPoints_eq_ok]
  exact ⟨q0, hq0, q1, hq1, hl0, hl1, hq⟩

end

/-! ## Verifying a signature -/

theorem length_paddedCoordinate {signature : Bytes} {k : ℕ}
    (h : 48 * k + 48 ≤ signature.length) : (paddedCoordinate signature k).length = 64 := by
  simp only [paddedCoordinate, List.length_append, List.length_replicate, List.length_take,
    List.length_drop]
  omega

theorem getElem?_paddedCoordinate (signature : Bytes) (k j : ℕ) :
    (paddedCoordinate signature k)[j]? =
      if j < 16 then some 0 else if j < 64 then signature[48 * k + (j - 16)]? else none := by
  simp only [paddedCoordinate, List.getElem?_append, List.length_replicate,
    List.getElem?_replicate, List.getElem?_take, List.getElem?_drop]
  split_ifs <;> first | rfl | omega

set_option maxRecDepth 4000 in
theorem getElem?_paddedSignature {signature : Bytes} (h : signature.length = 192) (j : ℕ) :
    (paddedSignature signature)[j]? =
      if j < 16 then some 0 else if j < 64 then signature[j + 32]? else if j < 80 then some 0
      else if j < 128 then signature[j - 80]? else if j < 144 then some 0
      else if j < 192 then signature[j]? else if j < 208 then some 0
      else if j < 256 then signature[j - 112]? else none := by
  have hc (k : ℕ) (hk : k < 4) : 48 * k + 48 ≤ signature.length := by omega
  rw [paddedSignature, List.getElem?_append, List.getElem?_append, List.getElem?_append]
  simp only [List.length_append, length_paddedCoordinate (hc 0 (by decide)),
    length_paddedCoordinate (hc 1 (by decide)), length_paddedCoordinate (hc 3 (by decide)),
    getElem?_paddedCoordinate]
  obtain h | h | h | h | h | h | h | h | h : j < 16 ∨ (16 ≤ j ∧ j < 64) ∨ (64 ≤ j ∧ j < 80) ∨
      (80 ≤ j ∧ j < 128) ∨ (128 ≤ j ∧ j < 144) ∨ (144 ≤ j ∧ j < 192) ∨ (192 ≤ j ∧ j < 208) ∨
      (208 ≤ j ∧ j < 256) ∨ 256 ≤ j := by omega
  all_goals simp (disch := omega) only [if_pos, if_neg]
  all_goals first | rfl | (congr 1; omega)

set_option maxRecDepth 4000 in
/-- The eight overlapping stores put each coordinate after its 16 zero bytes, in the order of
the precompiles. -/
theorem padUncompressedBLSTSignature_eq {signature : Bytes} (h : signature.length = 192) :
    padUncompressedBLSTSignature signature = .ok (paddedSignature signature) := by
  have hw (k : ℕ) (hk : k + 32 ≤ 192) : (mloadWord signature k).length = 32 :=
    length_mloadWord (by omega)
  have hres : mstoreWord (mstoreWord (mstoreWord (mstoreWord (mstoreWord (mstoreWord (mstoreWord
      (mstoreWord (List.replicate 256 0) 16 (mloadWord signature 48)) 32 (mloadWord signature 64))
      80 (mloadWord signature 0)) 96 (mloadWord signature 16)) 144 (mloadWord signature 144)) 160
      (mloadWord signature 160)) 208 (mloadWord signature 96)) 224 (mloadWord signature 112) =
      paddedSignature signature := by
    apply List.ext_getElem?
    intro j
    -- each pair of stores copies one coordinate
    rw [getElem?_paddedSignature h, getElem?_mstoreWord_pair rfl rfl (by omega),
      getElem?_mstoreWord_pair rfl rfl (by omega), getElem?_mstoreWord_pair rfl rfl (by omega),
      getElem?_mstoreWord_pair rfl rfl (by omega)]
    simp only [length_mstoreWord (hw 48 (by decide)), length_mstoreWord (hw 64 (by decide)),
      length_mstoreWord (hw 0 (by decide)), length_mstoreWord (hw 16 (by decide)),
      length_mstoreWord (hw 144 (by decide)), length_mstoreWord (hw 160 (by decide)),
      List.length_replicate, List.getElem?_replicate, Nat.reduceAdd, Nat.zero_add]
    -- the nine stretches of the result, against the four copies
    obtain h | h | h | h | h | h | h | h | h : j < 16 ∨ (16 ≤ j ∧ j < 64) ∨ (64 ≤ j ∧ j < 80) ∨
        (80 ≤ j ∧ j < 128) ∨ (128 ≤ j ∧ j < 144) ∨ (144 ≤ j ∧ j < 192) ∨
        (192 ≤ j ∧ j < 208) ∨ (208 ≤ j ∧ j < 256) ∨ 256 ≤ j := by omega
    all_goals simp (disch := omega) only [if_pos, if_neg]
    all_goals first | rfl | (congr 1; omega)
  have hreq : require (signature.length = blsSignatureLength) "Invalid input signature length" =
      .ok () := require_eq_ok.mpr h
  rw [padUncompressedBLSTSignature, hreq, ok_bind]
  exact congrArg Except.ok hres

/-- What `verifySignature` returns: with a 128-byte key and a 192-byte signature, whether the
pairing check of the key, the message hashed to G2, the negated generator and the padded
signature returns the word `1`. -/
theorem verifySignature_eq_ok {pc : Precompiles} {publicKey signature message : Bytes}
    {b : Bool} :
    verifySignature pc publicKey signature message = .ok b ↔
      publicKey.length = 128 ∧ signature.length = 192 ∧
        ∃ messageG2 output, hashToG2 pc message bls12381G2SigDst = .ok messageG2 ∧
          pc.pairingCheck (publicKey ++ messageG2 ++ blsG1NegGenerator ++
            paddedSignature signature) = some output ∧
          output.length = 32 ∧ b = decide (ofBytes output = 1) := by
  by_cases hs : signature.length = 192
  · have hreq : require (signature.length = blsSignatureLength) "Invalid signature length" =
        .ok () := require_eq_ok.mpr hs
    simp only [verifySignature, verifySignatureWithDst, bind_eq_ok, hreq, ok_bind,
      padUncompressedBLSTSignature_eq hs, require_eq_ok, staticcall_eq_ok, pure_eq_ok]
    constructor
    · rintro ⟨_, hk, messageG2, hm, output, ho, _, hl, rfl⟩
      exact ⟨hk, hs, messageG2, output, hm, ho, hl, rfl⟩
    · rintro ⟨hk, -, messageG2, output, hm, ho, hl, rfl⟩
      exact ⟨(), hk, messageG2, hm, output, ho, (), hl, rfl⟩
  · simp [verifySignature, verifySignatureWithDst, bind_eq_ok, require_eq_ok, blsSignatureLength,
      hs]

/-! ## A sample -/

/-- Precompiles that succeed on every input, enough to run the wrappers: SHA-256 is the number
the bytes spell, cut to a word; points add bytewise; a field point maps to the zero point of G2;
the pairing check passes. -/
def samplePrecompiles : Precompiles where
  sha256 bs := BitVec.ofNat 256 (ofBytes bs)
  g1Add input := some (List.zipWith (· + ·) (input.take 128) (input.drop 128))
  g2Add input := some (List.zipWith (· + ·) (input.take 256) (input.drop 256))
  mapFp2ToG2 _ := some (List.replicate 256 0)
  pairingCheck _ := some (toBytes 32 1)

theorem samplePrecompiles_verifySignature {publicKey signature : Bytes} (message : Bytes)
    (hk : publicKey.length = 128) (hs : signature.length = 192) :
    verifySignature samplePrecompiles publicKey signature message = .ok true := by
  obtain ⟨q, hq⟩ : ∃ q, hashToG2 samplePrecompiles message bls12381G2SigDst = .ok q :=
    hashToG2_ok message (by decide) (fun _ => ⟨_, rfl, List.length_replicate ..⟩)
      (fun _ _ _ _ => rfl)
  exact verifySignature_eq_ok.mpr ⟨hk, hs, q, _, hq, rfl, length_toBytes 32 1, by decide⟩

end BLST
