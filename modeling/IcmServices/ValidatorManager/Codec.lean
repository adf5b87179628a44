import IcmServices.ValidatorManager.Messages
import IcmServices.Lib.Decode

/-!
# `ValidatorMessages`: the messages as bytes

The unpackers of `ValidatorMessages` on the bytes of a message, each field read by its loop at an
index (`Decode.readUint`, `Decode.readBytes`). The four fixed-size messages check their length
first and read their fields at fixed offsets; `unpackRegisterL1ValidatorMessage` walks a `uint32`
index, with checked additions, through the node ID and the addresses of two owners, each address
loaded from its 20 bytes with `mload`, and checks the length only once it knows it.

* `unpackRegisterL1ValidatorMessage_bytes`: a validation period with a 48-byte key, `uint64`
  fields and an encoding shorter than `2 ^ 32` reads back from its encoding
  (`registerL1ValidatorMessageBytes`, the layout `packRegisterL1ValidatorMessage` builds);
* `eq_registerL1ValidatorMessageBytes`: an input the unpacker accepts is that encoding of what it
  returns;
* the fixed-size messages read back from their encodings, and three of them accept only
  encodings; `unpackL1ValidatorRegistrationMessage` reads its flag as `input[38] != 0` and so
  accepts the 254 other bytes there as well.
-/

namespace ValidatorMessages

open Solidity BigEndian Decode ValidatorManager

/-- `SUBNET_TO_L1_CONVERSION_MESSAGE_TYPE_ID`. -/
def subnetToL1ConversionMessageTypeID : ℕ := 0

/-- `L1_VALIDATOR_REGISTRATION_MESSAGE_TYPE_ID`. -/
def l1ValidatorRegistrationMessageTypeID : ℕ := 2

/-- `L1_VALIDATOR_WEIGHT_MESSAGE_TYPE_ID`. -/
def l1ValidatorWeightMessageTypeID : ℕ := 3

/-- `VALIDATION_UPTIME_MESSAGE_TYPE_ID`. -/
def validationUptimeMessageTypeID : ℕ := 0

/-! ## The blocks of the unpackers -/

/-- The codec ID at offset 0 and the type ID at offset 2 that every message starts with. -/
def unpackHeader (input : Bytes) (messageTypeID : ℕ) : Except String Unit := do
  let codec ← readUint input 0 2
  require (codec = codecID) "InvalidCodecID"
  let typeID ← readUint input 2 4
  require (typeID = messageTypeID) "InvalidMessageType"

/-- A block that reads the `w`-byte number at `index` and moves the `uint32` index past it. -/
def unpackUint (input : Bytes) (index w : ℕ) : Except String (ℕ × ℕ) := do
  let x ← readUint input index w
  let index ← checkedAdd 32 index w
  pure (x, index)

/-- A block that copies the `n` bytes at `index` and moves the `uint32` index past them. -/
def unpackBytes (input : Bytes) (index n : ℕ) : Except String (Bytes × ℕ) := do
  let bs ← readBytes input index n
  let index ← checkedAdd 32 index n
  pure (bs, index)

/-- `addr := mload(add(addrBytes, 20))`: the word 20 bytes into the memory of `addrBytes` is the
last 12 bytes of its length word followed by its first 20 bytes, and the `address` keeps the low
160 bits of it when it is stored. -/
def mloadAddress (addrBytes : Bytes) : Address :=
  BitVec.ofNat 160 (ofBytes ((toBytes 32 addrBytes.length).drop 20 ++ addrBytes.take 20))

/-- The loop over the addresses of an owner: 20 bytes copied from `index`, the address loaded
from them, and `index += 20`. -/
def unpackAddresses (input : Bytes) : ℕ → ℕ → Except String (List Address × ℕ)
  | 0, index => pure ([], index)
  | n + 1, index => do
    let addrBytes ← readBytes input index 20
    let addr := mloadAddress addrBytes
    let index ← checkedAdd 32 index 20
    let (addrs, index) ← unpackAddresses input n index
    pure (addr :: addrs, index)

/-- The block of `unpackRegisterL1ValidatorMessage` that reads an owner at `index`, which it has
twice: the threshold, the number of addresses and the addresses. It returns the owner, the number
of its addresses and the index past it. -/
def unpackPChainOwner (input : Bytes) (index : ℕ) : Except String (PChainOwner × ℕ × ℕ) := do
  let (threshold, index) ← unpackUint input index 4
  let (addressesLength, index) ← unpackUint input index 4
  let (addresses, index) ← unpackAddresses input addressesLength index
  pure (⟨UInt32.ofNat threshold, addresses⟩, addressesLength, index)

/-- `unpackRegisterL1ValidatorMessage`. The index is 6 after the header: the checked additions
`0 + 2` and `2 + 4` of the source cannot overflow. -/
def unpackRegisterL1ValidatorMessage (input : Bytes) : Except String ValidationPeriod := do
  unpackHeader input registerL1ValidatorMessageTypeID
  let (subnetID, index) ← unpackUint input 6 32
  let (nodeIDLength, index) ← unpackUint input index 4
  let (nodeID, index) ← unpackBytes input index nodeIDLength
  let (blsPublicKey, index) ← unpackBytes input index 48
  let (expiry, index) ← unpackUint input index 8
  let (remainingBalanceOwner, remainingBalanceOwnerAddressesLength, index) ←
    unpackPChainOwner input index
  let (disableOwner, disableOwnerAddressesLength, index) ← unpackPChainOwner input index
  -- `122 + nodeIDLength + (remaining + disable) * 20`, all in `uint32`
  let base ← checkedAdd 32 122 nodeIDLength
  let addressesLength ← checkedAdd 32 remainingBalanceOwnerAddressesLength
    disableOwnerAddressesLength
  let addressBytes ← checkedMul 32 addressesLength 20
  let expectedLength ← checkedAdd 32 base addressBytes
  require (input.length = expectedLength) "InvalidMessageLength"
  let weight ← readUint input index 8
  pure ⟨BitVec.ofNat 256 subnetID, nodeID, blsPublicKey, expiry, remainingBalanceOwner,
    disableOwner, weight⟩

/-! ## The layout of a `RegisterL1ValidatorMessage` -/

/-- The bytes of an owner: its threshold, the number of its addresses and the addresses. -/
def pChainOwnerBytes (o : PChainOwner) : Bytes :=
  toBytes 4 o.threshold.toNat ++ toBytes 4 o.addresses.length ++
    o.addresses.flatMap fun a => toBytes 20 a.toNat

/-- The message `packRegisterL1ValidatorMessage` builds, field after field. -/
def registerL1ValidatorMessageBytes (v : ValidationPeriod) : Bytes :=
  toBytes 2 codecID ++ toBytes 4 registerL1ValidatorMessageTypeID ++
    toBytes 32 v.subnetID.toNat ++ toBytes 4 v.nodeID.length ++ v.nodeID ++ v.blsPublicKey ++
    toBytes 8 v.registrationExpiry ++ pChainOwnerBytes v.remainingBalanceOwner ++
    pChainOwnerBytes v.disableOwner ++ toBytes 8 v.weight

theorem foldl_append_addresses (addrs : List Address) (res : Bytes) :
    addrs.foldl (fun res a => res ++ toBytes 20 a.toNat) res =
      res ++ addrs.flatMap fun a => toBytes 20 a.toNat := by
  induction addrs generalizing res with
  | nil => simp
  | cons a addrs ih => simp [ih, List.append_assoc]

theorem packRegisterL1ValidatorMessage_eq {ID : Type} (sha256 : Bytes → ID) {v : ValidationPeriod}
    (h : v.blsPublicKey.length = 48) :
    packRegisterL1ValidatorMessage sha256 v =
      .ok (sha256 (registerL1ValidatorMessageBytes v), registerL1ValidatorMessageBytes v) := by
  simp only [packRegisterL1ValidatorMessage, require, if_pos h, foldl_append_addresses,
    registerL1ValidatorMessageBytes, pChainOwnerBytes, List.append_assoc]
  rfl

/-! ## Each block reads its field -/

theorem unpackHeader_at (messageTypeID : ℕ) (rest : Bytes) (ht : messageTypeID < 256 ^ 4) :
    unpackHeader (toBytes 2 codecID ++ toBytes 4 messageTypeID ++ rest) messageTypeID = .ok () := by
  have h₀ : (toBytes 2 codecID ++ toBytes 4 messageTypeID ++ rest).drop 0 =
      toBytes 2 codecID ++ (toBytes 4 messageTypeID ++ rest) := by simp
  have h₂ : (toBytes 2 codecID ++ toBytes 4 messageTypeID ++ rest).drop 2 =
      toBytes 4 messageTypeID ++ rest := drop_add_of_drop_eq h₀ rfl
  simp only [unpackHeader, readUint_at h₀, readUint_at h₂, Nat.mod_eq_of_lt ht, ok_bind]
  rfl

theorem unpackHeader_of_take {input : Bytes} {messageTypeID : ℕ}
    (h : input.take 6 = toBytes 2 codecID ++ toBytes 4 messageTypeID)
    (ht : messageTypeID < 256 ^ 4) :
    unpackHeader input messageTypeID = .ok () := by
  rw [← List.take_append_drop 6 input, h]
  exact unpackHeader_at _ _ ht

theorem unpackHeader_eq_ok {input : Bytes} {messageTypeID : ℕ}
    (h : unpackHeader input messageTypeID = .ok ()) :
    input = toBytes 2 codecID ++ toBytes 4 messageTypeID ++ input.drop 6 := by
  simp only [unpackHeader, bind_eq_ok, require_eq_ok] at h
  obtain ⟨codec, hc, -, rfl, typeID, ht, -, rfl⟩ := h
  rw [List.append_assoc, ← drop_eq_of_readUint ht rfl, ← drop_eq_of_readUint hc rfl,
    List.drop_zero]

theorem unpackUint_at {input rest : Bytes} {index w n : ℕ}
    (h : input.drop index = toBytes w n ++ rest) (hn : n < 256 ^ w) (hi : index + w < 2 ^ 32) :
    unpackUint input index w = .ok (n, index + w) := by
  simp only [unpackUint, readUint_at h, Nat.mod_eq_of_lt hn, checkedAdd, if_pos hi, ok_bind]
  rfl

theorem unpackUint_eq_ok {input : Bytes} {index w x index' : ℕ}
    (h : unpackUint input index w = .ok (x, index')) :
    x < 256 ^ w ∧ index' = index + w ∧ input.drop index = toBytes w x ++ input.drop index' := by
  simp only [unpackUint, bind_eq_ok, checkedAdd_eq_ok, pure_eq_ok, Prod.mk.injEq] at h
  obtain ⟨x, hx, _, ⟨-, rfl⟩, rfl, rfl⟩ := h
  exact ⟨readUint_lt hx, rfl, drop_eq_of_readUint hx rfl⟩

theorem unpackBytes_at {input bs rest : Bytes} {index n : ℕ} (h : input.drop index = bs ++ rest)
    (hn : bs.length = n) (hi : index + n < 2 ^ 32) :
    unpackBytes input index n = .ok (bs, index + n) := by
  subst hn
  simp only [unpackBytes, readBytes_at h, checkedAdd, if_pos hi, ok_bind]
  rfl

theorem unpackBytes_eq_ok {input bs : Bytes} {index n index' : ℕ}
    (h : unpackBytes input index n = .ok (bs, index')) :
    bs.length = n ∧ index' = index + n ∧ input.drop index = bs ++ input.drop index' := by
  simp only [unpackBytes, bind_eq_ok, checkedAdd_eq_ok, pure_eq_ok, Prod.mk.injEq] at h
  obtain ⟨bs, hbs, _, ⟨-, rfl⟩, rfl, rfl⟩ := h
  obtain ⟨hlen, hdrop⟩ := drop_eq_of_readBytes hbs rfl
  exact ⟨hlen, rfl, hdrop⟩

/-- The 12 bytes of the length word ahead of the data do not reach the low 160 bits. -/
theorem mloadAddress_eq {addrBytes : Bytes} (h : addrBytes.length = 20) :
    mloadAddress addrBytes = BitVec.ofNat 160 (ofBytes addrBytes) := by
  rw [mloadAddress, List.take_of_length_le (by omega), ofBytes_append, h]
  apply BitVec.eq_of_toNat_eq
  simp only [BitVec.toNat_ofNat]
  rw [show (256 : ℕ) ^ 20 = 2 ^ 160 by norm_num, Nat.mul_add_mod_self_right]

theorem mloadAddress_toBytes (a : Address) : mloadAddress (toBytes 20 a.toNat) = a := by
  rw [mloadAddress_eq (length_toBytes 20 _), ofBytes_toBytes,
    Nat.mod_eq_of_lt (by simpa using a.isLt)]
  simp

theorem toBytes_mloadAddress {addrBytes : Bytes} (h : addrBytes.length = 20) :
    toBytes 20 (mloadAddress addrBytes).toNat = addrBytes := by
  have hlt : ofBytes addrBytes < 2 ^ 160 := by simpa [h] using ofBytes_lt addrBytes
  rw [mloadAddress_eq h, BitVec.toNat_ofNat, Nat.mod_eq_of_lt hlt, ← h, toBytes_ofBytes]

theorem unpackAddresses_at {input rest : Bytes} : ∀ {addrs : List Address} {index : ℕ},
    input.drop index = (addrs.flatMap fun a => toBytes 20 a.toNat) ++ rest →
    index + 20 * addrs.length < 2 ^ 32 →
    unpackAddresses input addrs.length index = .ok (addrs, index + 20 * addrs.length)
  | [], index, _, _ => by simp [unpackAddresses, pure, Except.pure]
  | a :: addrs, index, h, hi => by
    rw [List.flatMap_cons, List.append_assoc] at h
    have hb : readBytes input index 20 = .ok (toBytes 20 a.toNat) := by
      simpa using readBytes_at h
    have hi' : index + 20 < 2 ^ 32 := by simp at hi; omega
    have ih : unpackAddresses input addrs.length (index + 20) =
        .ok (addrs, index + 20 + 20 * addrs.length) :=
      unpackAddresses_at (drop_add_of_drop_eq h (by simp)) (by simp at hi; omega)
    simp only [unpackAddresses, List.length_cons, hb, mloadAddress_toBytes, checkedAdd,
      if_pos hi', ih, ok_bind]
    rw [show index + 20 + 20 * addrs.length = index + 20 * (addrs.length + 1) by ring]
    rfl

theorem unpackAddresses_eq_ok {input : Bytes} :
    ∀ {n index : ℕ} {addrs : List Address} {index' : ℕ},
      unpackAddresses input n index = .ok (addrs, index') →
      addrs.length = n ∧ index' = index + 20 * n ∧
        input.drop index = (addrs.flatMap fun a => toBytes 20 a.toNat) ++ input.drop index'
  | 0, index, addrs, index', h => by
    simp only [unpackAddresses, pure_eq_ok, Prod.mk.injEq] at h
    obtain ⟨rfl, rfl⟩ := h
    simp
  | n + 1, index, addrs, index', h => by
    simp only [unpackAddresses, bind_eq_ok, checkedAdd_eq_ok, Prod.exists, pure_eq_ok,
      Prod.mk.injEq] at h
    obtain ⟨addrBytes, hb, _, ⟨-, rfl⟩, addrs, index', hrest, rfl, rfl⟩ := h
    obtain ⟨hlen, hdrop⟩ := drop_eq_of_readBytes hb rfl
    obtain ⟨ih₁, ih₂, ih₃⟩ := unpackAddresses_eq_ok hrest
    refine ⟨by simp [ih₁], by omega, ?_⟩
    rw [hdrop, ih₃, List.flatMap_cons, toBytes_mloadAddress hlen, List.append_assoc]

@[simp] theorem length_pChainOwnerBytes (o : PChainOwner) :
    (pChainOwnerBytes o).length = 8 + 20 * o.addresses.length := by
  simp [pChainOwnerBytes, Nat.mul_comm]
  omega

theorem unpackPChainOwner_at {input rest : Bytes} {index : ℕ} {o : PChainOwner}
    (h : input.drop index = pChainOwnerBytes o ++ rest)
    (hi : index + (8 + 20 * o.addresses.length) < 2 ^ 32) :
    unpackPChainOwner input index =
      .ok (o, o.addresses.length, index + 4 + 4 + 20 * o.addresses.length) := by
  simp only [pChainOwnerBytes, List.append_assoc] at h
  have h₄ : input.drop (index + 4) = _ := drop_add_of_drop_eq h (by simp)
  have h₈ : input.drop (index + 4 + 4) = _ := drop_add_of_drop_eq h₄ (by simp)
  have e₁ : unpackUint input index 4 = .ok (o.threshold.toNat, index + 4) :=
    unpackUint_at h o.threshold.toNat_lt (by omega)
  have e₂ : unpackUint input (index + 4) 4 = .ok (o.addresses.length, index + 4 + 4) :=
    unpackUint_at h₄ (by norm_num; omega) (by omega)
  have e₃ := unpackAddresses_at h₈ (by omega)
  simp only [unpackPChainOwner, e₁, e₂, e₃, ok_bind, UInt32.ofNat_toNat]
  rfl

theorem unpackPChainOwner_eq_ok {input : Bytes} {index n index' : ℕ} {o : PChainOwner}
    (h : unpackPChainOwner input index = .ok (o, n, index')) :
    n = o.addresses.length ∧ index' = index + 4 + 4 + 20 * n ∧
      input.drop index = pChainOwnerBytes o ++ input.drop index' := by
  simp only [unpackPChainOwner, bind_eq_ok, Prod.exists, pure_eq_ok, Prod.mk.injEq] at h
  obtain ⟨t, i₁, ht, n, i₂, hn, addrs, i₃, ha, rfl, rfl, rfl⟩ := h
  obtain ⟨htlt, rfl, hdt⟩ := unpackUint_eq_ok ht
  obtain ⟨-, rfl, hdn⟩ := unpackUint_eq_ok hn
  obtain ⟨rfl, rfl, hda⟩ := unpackAddresses_eq_ok ha
  refine ⟨rfl, rfl, ?_⟩
  have hthreshold : (UInt32.ofNat t).toNat = t :=
    UInt32.toNat_ofNat_of_lt' (by simpa using htlt)
  rw [hdt, hdn, hda, pChainOwnerBytes, hthreshold, List.append_assoc, List.append_assoc]

/-! ## The round trips of `RegisterL1ValidatorMessage` -/

theorem length_registerL1ValidatorMessageBytes (v : ValidationPeriod) :
    (registerL1ValidatorMessageBytes v).length = 74 + v.nodeID.length + v.blsPublicKey.length +
      20 * (v.remainingBalanceOwner.addresses.length + v.disableOwner.addresses.length) := by
  simp only [registerL1ValidatorMessageBytes, List.length_append, length_toBytes,
    length_pChainOwnerBytes]
  ring

/-- The validation periods a `RegisterL1ValidatorMessage` carries: a 48-byte BLS key, an expiry
and a weight in `uint64`, and a message shorter than `2 ^ 32` bytes, so that the `uint32` index
and lengths of the unpacker do not overflow. -/
structure Packable (v : ValidationPeriod) : Prop where
  blsPublicKey : v.blsPublicKey.length = 48
  registrationExpiry : v.registrationExpiry < 2 ^ 64
  weight : v.weight < 2 ^ 64
  length : (registerL1ValidatorMessageBytes v).length < 2 ^ 32

theorem unpackPChainOwner_at' {input rest : Bytes} {index : ℕ} {o : PChainOwner}
    (h : input.drop index = pChainOwnerBytes o ++ rest)
    (hi : index + (pChainOwnerBytes o).length < 2 ^ 32) :
    unpackPChainOwner input index =
      .ok (o, o.addresses.length, index + (pChainOwnerBytes o).length) := by
  rw [length_pChainOwnerBytes] at hi ⊢
  rw [unpackPChainOwner_at h hi]
  congr 3
  omega

theorem unpackRegisterL1ValidatorMessage_bytes {v : ValidationPeriod} (hv : Packable v) :
    unpackRegisterL1ValidatorMessage (registerL1ValidatorMessageBytes v) = .ok v := by
  obtain ⟨hbls, hexp, hweight, hfit⟩ := hv
  have hlen := length_registerL1ValidatorMessageBytes v
  have ho₁ := length_pChainOwnerBytes v.remainingBalanceOwner
  have ho₂ := length_pChainOwnerBytes v.disableOwner
  rw [hbls] at hlen
  set x := registerL1ValidatorMessageBytes v with hx
  -- the header, and the fields from offset 6 on
  have hsplit : x = toBytes 2 codecID ++ toBytes 4 registerL1ValidatorMessageTypeID ++
      (toBytes 32 v.subnetID.toNat ++ (toBytes 4 v.nodeID.length ++ (v.nodeID ++
        (v.blsPublicKey ++ (toBytes 8 v.registrationExpiry ++
          (pChainOwnerBytes v.remainingBalanceOwner ++
            (pChainOwnerBytes v.disableOwner ++ toBytes 8 v.weight))))))) := by
    simp only [hx, registerL1ValidatorMessageBytes, List.append_assoc]
  have h₀ : x.drop 6 = _ := (congrArg (List.drop 6) hsplit).trans (List.drop_left' (by simp))
  have h₁ : x.drop (6 + 32) = _ := drop_add_of_drop_eq h₀ (by simp)
  have h₂ : x.drop (6 + 32 + 4) = _ := drop_add_of_drop_eq h₁ (by simp)
  have h₃ : x.drop (6 + 32 + 4 + v.nodeID.length) = _ := drop_add_of_drop_eq h₂ rfl
  have h₄ : x.drop (6 + 32 + 4 + v.nodeID.length + 48) = _ := drop_add_of_drop_eq h₃ (by rw [hbls])
  have h₅ : x.drop (6 + 32 + 4 + v.nodeID.length + 48 + 8) = _ := drop_add_of_drop_eq h₄ (by simp)
  have h₆ := drop_add_of_drop_eq h₅ rfl
  have h₇ := drop_add_of_drop_eq h₆ rfl
  have e₀ : unpackHeader x registerL1ValidatorMessageTypeID = .ok () := by
    rw [hsplit]
    exact unpackHeader_at _ _ (by decide)
  have e₁ := unpackUint_at h₀ (by simpa using v.subnetID.isLt) (by omega)
  have e₂ := unpackUint_at h₁ (n := v.nodeID.length) (by norm_num; omega) (by omega)
  have e₃ := unpackBytes_at h₂ rfl (by omega)
  have e₄ := unpackBytes_at h₃ hbls (by omega)
  have e₅ := unpackUint_at h₄ (by simpa using hexp) (by omega)
  have e₆ := unpackPChainOwner_at' h₅ (by omega)
  have e₇ := unpackPChainOwner_at' h₆ (by omega)
  have e₈ := readUint_at (h₇.trans (List.append_nil _).symm)
  rw [Nat.mod_eq_of_lt (by simpa using hweight)] at e₈
  -- the length it checks is the length of the message
  have hexpected : x.length = 122 + v.nodeID.length +
      (v.remainingBalanceOwner.addresses.length + v.disableOwner.addresses.length) * 20 := by
    omega
  have c₁ : 122 + v.nodeID.length < 2 ^ 32 := by omega
  have c₂ : v.remainingBalanceOwner.addresses.length + v.disableOwner.addresses.length < 2 ^ 32 := by
    omega
  have c₃ : (v.remainingBalanceOwner.addresses.length + v.disableOwner.addresses.length) * 20 <
      2 ^ 32 := by omega
  have c₄ : 122 + v.nodeID.length +
      (v.remainingBalanceOwner.addresses.length + v.disableOwner.addresses.length) * 20 < 2 ^ 32 := by
    omega
  simp only [unpackRegisterL1ValidatorMessage, e₀, e₁, e₂, e₃, e₄, e₅, e₆, e₇, e₈, ok_bind,
    checkedAdd, checkedMul, require, c₁, c₂, c₃, c₄, hexpected, if_true, BitVec.ofNat_toNat,
    BitVec.setWidth_eq]
  rfl

theorem eq_registerL1ValidatorMessageBytes {input : Bytes} {v : ValidationPeriod}
    (h : unpackRegisterL1ValidatorMessage input = .ok v) :
    Packable v ∧ input = registerL1ValidatorMessageBytes v := by
  simp only [unpackRegisterL1ValidatorMessage, bind_eq_ok, Prod.exists, checkedAdd_eq_ok,
    checkedMul_eq_ok, require_eq_ok, pure_eq_ok] at h
  obtain ⟨_, hh, s, i₁, hs, n, i₂, hn, nodeID, i₃, hnode, bls, i₄, hbls, e, i₅, he, o₁, a, i₆, ho₁,
    o₂, b, i₇, ho₂, _, ⟨-, rfl⟩, _, ⟨-, rfl⟩, _, ⟨-, rfl⟩, _, ⟨hfit, rfl⟩, _, hlen, w, hw, rfl⟩ := h
  obtain ⟨hslt, rfl, hds⟩ := unpackUint_eq_ok hs
  obtain ⟨-, rfl, hdn⟩ := unpackUint_eq_ok hn
  obtain ⟨rfl, rfl, hdnode⟩ := unpackBytes_eq_ok hnode
  obtain ⟨hblslen, rfl, hdbls⟩ := unpackBytes_eq_ok hbls
  obtain ⟨helt, rfl, hde⟩ := unpackUint_eq_ok he
  obtain ⟨rfl, rfl, hdo₁⟩ := unpackPChainOwner_eq_ok ho₁
  obtain ⟨rfl, rfl, hdo₂⟩ := unpackPChainOwner_eq_ok ho₂
  have hdw := drop_eq_of_readUint hw rfl
  have hend : input.drop (6 + 32 + 4 + nodeID.length + 48 + 8 + 4 + 4 +
      20 * o₁.addresses.length + 4 + 4 + 20 * o₂.addresses.length + 8) = [] :=
    List.drop_eq_nil_of_le (by omega)
  have hsubnet : (BitVec.ofNat 256 s).toNat = s := by
    rw [BitVec.toNat_ofNat, Nat.mod_eq_of_lt (by simpa using hslt)]
  have hinput : input = registerL1ValidatorMessageBytes
      ⟨BitVec.ofNat 256 s, nodeID, bls, e, o₁, o₂, w⟩ := by
    rw [unpackHeader_eq_ok hh, hds, hdn, hdnode, hdbls, hde, hdo₁, hdo₂, hdw, hend]
    simp only [registerL1ValidatorMessageBytes, hsubnet, List.append_assoc, List.append_nil]
  refine ⟨⟨hblslen, by simpa using helt, by simpa using readUint_lt hw, ?_⟩, hinput⟩
  rw [← hinput, hlen]
  exact hfit

/-- The decoder accepts exactly the encodings of the validation periods the message carries. -/
theorem unpackRegisterL1ValidatorMessage_eq_ok {input : Bytes} {v : ValidationPeriod} :
    unpackRegisterL1ValidatorMessage input = .ok v ↔
      Packable v ∧ input = registerL1ValidatorMessageBytes v := by
  constructor
  · exact eq_registerL1ValidatorMessageBytes
  · rintro ⟨hv, rfl⟩
    exact unpackRegisterL1ValidatorMessage_bytes hv

/-- Packing and unpacking a `RegisterL1ValidatorMessage` are inverse: a validation period the
message carries reads back from what `packRegisterL1ValidatorMessage` returns, and every input the
unpacker accepts is what `packRegisterL1ValidatorMessage` returns for the decoded period, so the
validation ID of the decoded period is the hash of the input. -/
theorem registerL1ValidatorMessage_roundTrip {ID : Type} (sha256 : Bytes → ID) :
    (∀ v : ValidationPeriod, Packable v → ∀ validationID message,
        packRegisterL1ValidatorMessage sha256 v = .ok (validationID, message) →
        unpackRegisterL1ValidatorMessage message = .ok v) ∧
      ∀ input v, unpackRegisterL1ValidatorMessage input = .ok v →
        packRegisterL1ValidatorMessage sha256 v = .ok (sha256 input, input) := by
  constructor
  · intro v hv validationID message hpack
    rw [packRegisterL1ValidatorMessage_eq sha256 hv.blsPublicKey] at hpack
    cases hpack
    exact unpackRegisterL1ValidatorMessage_bytes hv
  · intro input v h
    obtain ⟨hv, rfl⟩ := unpackRegisterL1ValidatorMessage_eq_ok.mp h
    exact packRegisterL1ValidatorMessage_eq sha256 hv.blsPublicKey

theorem registerL1ValidatorMessage_roundTrip_sample :
    Packable ⟨0, [1, 2], List.replicate 48 7, 100, ⟨1, [5]⟩, ⟨1, [6]⟩, 10⟩ ∧
      unpackRegisterL1ValidatorMessage
        (registerL1ValidatorMessageBytes ⟨0, [1, 2], List.replicate 48 7, 100, ⟨1, [5]⟩, ⟨1, [6]⟩, 10⟩) =
        .ok ⟨0, [1, 2], List.replicate 48 7, 100, ⟨1, [5]⟩, ⟨1, [6]⟩, 10⟩ := by
  have hv : Packable ⟨0, [1, 2], List.replicate 48 7, 100, ⟨1, [5]⟩, ⟨1, [6]⟩, 10⟩ :=
    ⟨rfl, by decide, by decide, by simp [length_registerL1ValidatorMessageBytes]⟩
  exact ⟨hv, (registerL1ValidatorMessage_roundTrip fun _ => ()).1 _ hv () _
    (packRegisterL1ValidatorMessage_eq _ hv.blsPublicKey)⟩

/-! ## The fixed-size messages -/

/-- `packSubnetToL1ConversionMessage`. -/
def packSubnetToL1ConversionMessage (conversionID : Bytes32) : Bytes :=
  toBytes 2 codecID ++ toBytes 4 subnetToL1ConversionMessageTypeID ++ toBytes 32 conversionID.toNat

/-- `unpackSubnetToL1ConversionMessage`. -/
def unpackSubnetToL1ConversionMessage (input : Bytes) : Except String Bytes32 := do
  require (input.length = 38) "InvalidMessageLength"
  unpackHeader input subnetToL1ConversionMessageTypeID
  let conversionID ← readUint input 6 32
  pure (BitVec.ofNat 256 conversionID)

/-- `packL1ValidatorRegistrationMessage`: `abi.encodePacked` writes a `bool` as one byte. -/
def packL1ValidatorRegistrationMessage (validationID : Bytes32) (registered : Bool) : Bytes :=
  toBytes 2 codecID ++ toBytes 4 l1ValidatorRegistrationMessageTypeID ++
    toBytes 32 validationID.toNat ++ [if registered then 1 else 0]

/-- `unpackL1ValidatorRegistrationMessage`: the flag is `input[38] != 0`. -/
def unpackL1ValidatorRegistrationMessage (input : Bytes) : Except String (Bytes32 × Bool) := do
  require (input.length = 39) "InvalidMessageLength"
  unpackHeader input l1ValidatorRegistrationMessageTypeID
  let validationID ← readUint input 6 32
  let flag ← byteAt input 38
  pure (BitVec.ofNat 256 validationID, flag != 0)

/-- `packL1ValidatorWeightMessage`. -/
def packL1ValidatorWeightMessage (validationID : Bytes32) (nonce weight : ℕ) : Bytes :=
  toBytes 2 codecID ++ toBytes 4 l1ValidatorWeightMessageTypeID ++
    toBytes 32 validationID.toNat ++ toBytes 8 nonce ++ toBytes 8 weight

/-- `unpackL1ValidatorWeightMessage`. -/
def unpackL1ValidatorWeightMessage (input : Bytes) : Except String (Bytes32 × ℕ × ℕ) := do
  require (input.length = 54) "InvalidMessageLength"
  unpackHeader input l1ValidatorWeightMessageTypeID
  let validationID ← readUint input 6 32
  let nonce ← readUint input 38 8
  let weight ← readUint input 46 8
  pure (BitVec.ofNat 256 validationID, nonce, weight)

/-- `packValidationUptimeMessage`. -/
def packValidationUptimeMessage (validationID : Bytes32) (uptime : ℕ) : Bytes :=
  toBytes 2 codecID ++ toBytes 4 validationUptimeMessageTypeID ++
    toBytes 32 validationID.toNat ++ toBytes 8 uptime

/-- `unpackValidationUptimeMessage`. -/
def unpackValidationUptimeMessage (input : Bytes) : Except String (Bytes32 × ℕ) := do
  require (input.length = 46) "InvalidMessageLength"
  unpackHeader input validationUptimeMessageTypeID
  let validationID ← readUint input 6 32
  let uptime ← readUint input 38 8
  pure (BitVec.ofNat 256 validationID, uptime)

theorem toNat_ofNat_readUint {input : Bytes} {index x : ℕ} (h : readUint input index 32 = .ok x) :
    (BitVec.ofNat 256 x).toNat = x := by
  rw [BitVec.toNat_ofNat, Nat.mod_eq_of_lt (by simpa using readUint_lt h)]

theorem toNat_lt_bytes32 (x : Bytes32) : x.toNat < 256 ^ 32 := by
  simpa using x.isLt

theorem unpackSubnetToL1ConversionMessage_eq_ok {input : Bytes} {conversionID : Bytes32} :
    unpackSubnetToL1ConversionMessage input = .ok conversionID ↔
      input = packSubnetToL1ConversionMessage conversionID := by
  constructor
  · intro h
    simp only [unpackSubnetToL1ConversionMessage, bind_eq_ok, require_eq_ok, pure_eq_ok] at h
    obtain ⟨_, hlen, _, hh, c, hc, rfl⟩ := h
    rw [unpackHeader_eq_ok hh, drop_eq_of_readUint hc rfl, List.drop_eq_nil_of_le (by omega),
      packSubnetToL1ConversionMessage, toNat_ofNat_readUint hc, List.append_nil]
  · rintro rfl
    set x := packSubnetToL1ConversionMessage conversionID with hx
    have hlen : x.length = 38 := by simp [hx, packSubnetToL1ConversionMessage]
    have h₀ : x.take 6 = toBytes 2 codecID ++ toBytes 4 subnetToL1ConversionMessageTypeID := by
      simp [hx, packSubnetToL1ConversionMessage, List.take_append, List.take_of_length_le]
    have h₆ : x.drop 6 = toBytes 32 conversionID.toNat ++ [] := by
      simp [hx, packSubnetToL1ConversionMessage, List.drop_append, List.drop_eq_nil_of_le]
    simp only [unpackSubnetToL1ConversionMessage, require, hlen, if_true,
      unpackHeader_of_take h₀ (by decide), readUint_at h₆,
      Nat.mod_eq_of_lt (toNat_lt_bytes32 conversionID), BitVec.ofNat_toNat, BitVec.setWidth_eq,
      ok_bind]
    rfl

theorem unpackL1ValidatorWeightMessage_eq_ok {input : Bytes} {validationID : Bytes32}
    {nonce weight : ℕ} :
    unpackL1ValidatorWeightMessage input = .ok (validationID, nonce, weight) ↔
      nonce < 2 ^ 64 ∧ weight < 2 ^ 64 ∧
        input = packL1ValidatorWeightMessage validationID nonce weight := by
  constructor
  · intro h
    simp only [unpackL1ValidatorWeightMessage, bind_eq_ok, require_eq_ok, pure_eq_ok,
      Prod.mk.injEq] at h
    obtain ⟨_, hlen, _, hh, i, hi, n, hn, w, hw, rfl, rfl, rfl⟩ := h
    refine ⟨by simpa using readUint_lt hn, by simpa using readUint_lt hw, ?_⟩
    rw [unpackHeader_eq_ok hh, drop_eq_of_readUint hi rfl, drop_eq_of_readUint hn rfl,
      drop_eq_of_readUint hw rfl, List.drop_eq_nil_of_le (by omega),
      packL1ValidatorWeightMessage, toNat_ofNat_readUint hi]
    simp only [List.append_assoc, List.append_nil]
  · rintro ⟨hn, hw, rfl⟩
    set x := packL1ValidatorWeightMessage validationID nonce weight with hx
    have hlen : x.length = 54 := by simp [hx, packL1ValidatorWeightMessage]
    have h₀ : x.take 6 = toBytes 2 codecID ++ toBytes 4 l1ValidatorWeightMessageTypeID := by
      simp [hx, packL1ValidatorWeightMessage, List.take_append, List.take_of_length_le]
    have h₆ : x.drop 6 = toBytes 32 validationID.toNat ++ (toBytes 8 nonce ++ toBytes 8 weight) := by
      simp [hx, packL1ValidatorWeightMessage, List.drop_append, List.drop_eq_nil_of_le]
    have h₃₈ : x.drop 38 = toBytes 8 nonce ++ toBytes 8 weight := by
      simp [hx, packL1ValidatorWeightMessage, List.drop_append, List.drop_eq_nil_of_le]
    have h₄₆ : x.drop 46 = toBytes 8 weight ++ [] := by
      simp [hx, packL1ValidatorWeightMessage, List.drop_append, List.drop_eq_nil_of_le]
    simp only [unpackL1ValidatorWeightMessage, require, hlen, if_true,
      unpackHeader_of_take h₀ (by decide), readUint_at h₆, readUint_at h₃₈, readUint_at h₄₆,
      Nat.mod_eq_of_lt (toNat_lt_bytes32 validationID), Nat.mod_eq_of_lt (show nonce < 256 ^ 8 by simpa using hn),
      Nat.mod_eq_of_lt (show weight < 256 ^ 8 by simpa using hw), BitVec.ofNat_toNat, BitVec.setWidth_eq, ok_bind]
    rfl

theorem unpackValidationUptimeMessage_eq_ok {input : Bytes} {validationID : Bytes32}
    {uptime : ℕ} :
    unpackValidationUptimeMessage input = .ok (validationID, uptime) ↔
      uptime < 2 ^ 64 ∧ input = packValidationUptimeMessage validationID uptime := by
  constructor
  · intro h
    simp only [unpackValidationUptimeMessage, bind_eq_ok, require_eq_ok, pure_eq_ok,
      Prod.mk.injEq] at h
    obtain ⟨_, hlen, _, hh, i, hi, u, hu, rfl, rfl⟩ := h
    refine ⟨by simpa using readUint_lt hu, ?_⟩
    rw [unpackHeader_eq_ok hh, drop_eq_of_readUint hi rfl, drop_eq_of_readUint hu rfl,
      List.drop_eq_nil_of_le (by omega), packValidationUptimeMessage, toNat_ofNat_readUint hi]
    simp only [List.append_assoc, List.append_nil]
  · rintro ⟨hu, rfl⟩
    set x := packValidationUptimeMessage validationID uptime with hx
    have hlen : x.length = 46 := by simp [hx, packValidationUptimeMessage]
    have h₀ : x.take 6 = toBytes 2 codecID ++ toBytes 4 validationUptimeMessageTypeID := by
      simp [hx, packValidationUptimeMessage, List.take_append, List.take_of_length_le]
    have h₆ : x.drop 6 = toBytes 32 validationID.toNat ++ toBytes 8 uptime := by
      simp [hx, packValidationUptimeMessage, List.drop_append, List.drop_eq_nil_of_le]
    have h₃₈ : x.drop 38 = toBytes 8 uptime ++ [] := by
      simp [hx, packValidationUptimeMessage, List.drop_append, List.drop_eq_nil_of_le]
    simp only [unpackValidationUptimeMessage, require, hlen, if_true,
      unpackHeader_of_take h₀ (by decide), readUint_at h₆, readUint_at h₃₈,
      Nat.mod_eq_of_lt (toNat_lt_bytes32 validationID), Nat.mod_eq_of_lt (show uptime < 256 ^ 8 by simpa using hu),
      BitVec.ofNat_toNat, BitVec.setWidth_eq, ok_bind]
    rfl

/-- The registration message with the byte `flag` where the flag stands. -/
def l1ValidatorRegistrationBytes (validationID : Bytes32) (flag : UInt8) : Bytes :=
  toBytes 2 codecID ++ toBytes 4 l1ValidatorRegistrationMessageTypeID ++
    toBytes 32 validationID.toNat ++ [flag]

theorem packL1ValidatorRegistrationMessage_eq (validationID : Bytes32) (registered : Bool) :
    packL1ValidatorRegistrationMessage validationID registered =
      l1ValidatorRegistrationBytes validationID (if registered then 1 else 0) := rfl

/-- The registration decoder accepts every byte as the flag: the flag is set by any byte but 0. -/
theorem unpackL1ValidatorRegistrationMessage_eq_ok {input : Bytes} {validationID : Bytes32}
    {registered : Bool} :
    unpackL1ValidatorRegistrationMessage input = .ok (validationID, registered) ↔
      ∃ flag : UInt8, registered = (flag != 0) ∧
        input = l1ValidatorRegistrationBytes validationID flag := by
  constructor
  · intro h
    simp only [unpackL1ValidatorRegistrationMessage, bind_eq_ok, require_eq_ok, pure_eq_ok,
      byteAt_eq_ok, Prod.mk.injEq] at h
    obtain ⟨_, hlen, _, hh, i, hi, flag, hflag, rfl, rfl⟩ := h
    refine ⟨flag, rfl, ?_⟩
    have hlast : input.drop 38 = [flag] := by
      rw [List.drop_eq_getElem_cons (by omega), List.drop_eq_nil_of_le (by omega)]
      simp only [List.getElem?_eq_some_iff] at hflag
      obtain ⟨_, rfl⟩ := hflag
      rfl
    rw [unpackHeader_eq_ok hh, drop_eq_of_readUint hi rfl, hlast, l1ValidatorRegistrationBytes,
      toNat_ofNat_readUint hi]
    simp only [List.append_assoc]
  · rintro ⟨flag, rfl, rfl⟩
    set x := l1ValidatorRegistrationBytes validationID flag with hx
    have hlen : x.length = 39 := by simp [hx, l1ValidatorRegistrationBytes]
    have h₀ : x.take 6 = toBytes 2 codecID ++ toBytes 4 l1ValidatorRegistrationMessageTypeID := by
      simp [hx, l1ValidatorRegistrationBytes, List.take_append, List.take_of_length_le]
    have h₆ : x.drop 6 = toBytes 32 validationID.toNat ++ [flag] := by
      simp [hx, l1ValidatorRegistrationBytes, List.drop_append, List.drop_eq_nil_of_le]
    have h₃₈ : x[38]? = some flag := by
      simp [hx, l1ValidatorRegistrationBytes]
    simp only [unpackL1ValidatorRegistrationMessage, require, hlen, if_true,
      unpackHeader_of_take h₀ (by decide), readUint_at h₆, byteAt, h₃₈,
      Nat.mod_eq_of_lt (toNat_lt_bytes32 validationID), BitVec.ofNat_toNat, BitVec.setWidth_eq,
      ok_bind]
    rfl

/-- The registration decoder reads any byte but 0 as a set flag: an input with a byte from 2 to
255 as its flag decodes to a registered validation, whose message packs to another input. -/
theorem unpackL1ValidatorRegistrationMessage_lenient (validationID : Bytes32) (flag : UInt8)
    (hflag : 1 < flag.toNat) :
    unpackL1ValidatorRegistrationMessage (l1ValidatorRegistrationBytes validationID flag) =
        .ok (validationID, true) ∧
      packL1ValidatorRegistrationMessage validationID true ≠
        l1ValidatorRegistrationBytes validationID flag := by
  have hne : flag ≠ 0 := by
    rintro rfl
    simp at hflag
  refine ⟨unpackL1ValidatorRegistrationMessage_eq_ok.mpr ⟨flag, by simp [hne], rfl⟩, ?_⟩
  rw [packL1ValidatorRegistrationMessage_eq, if_pos rfl]
  intro h
  -- the two inputs differ in their last byte only
  have hlast : [(1 : UInt8)] = [flag] := List.append_cancel_left h
  simp only [List.cons.injEq, and_true] at hlast
  subst hlast
  simp at hflag

theorem unpackL1ValidatorRegistrationMessage_lenient_two :
    1 < (2 : UInt8).toNat ∧
      (unpackL1ValidatorRegistrationMessage (l1ValidatorRegistrationBytes 0 2) = .ok (0, true) ∧
        packL1ValidatorRegistrationMessage 0 true ≠ l1ValidatorRegistrationBytes 0 2) :=
  ⟨by decide, unpackL1ValidatorRegistrationMessage_lenient 0 2 (by decide)⟩

/-- The fixed-size messages read back from their encodings, and the conversion, weight and uptime
decoders accept nothing but encodings. -/
theorem fixedSizeMessages_roundTrip :
    (∀ conversionID, unpackSubnetToL1ConversionMessage
        (packSubnetToL1ConversionMessage conversionID) = .ok conversionID) ∧
    (∀ validationID registered, unpackL1ValidatorRegistrationMessage
        (packL1ValidatorRegistrationMessage validationID registered) =
          .ok (validationID, registered)) ∧
    (∀ validationID nonce weight, nonce < 2 ^ 64 → weight < 2 ^ 64 →
      unpackL1ValidatorWeightMessage (packL1ValidatorWeightMessage validationID nonce weight) =
        .ok (validationID, nonce, weight)) ∧
    (∀ validationID uptime, uptime < 2 ^ 64 →
      unpackValidationUptimeMessage (packValidationUptimeMessage validationID uptime) =
        .ok (validationID, uptime)) ∧
    (∀ input conversionID, unpackSubnetToL1ConversionMessage input = .ok conversionID →
      packSubnetToL1ConversionMessage conversionID = input) ∧
    (∀ input validationID nonce weight,
      unpackL1ValidatorWeightMessage input = .ok (validationID, nonce, weight) →
        packL1ValidatorWeightMessage validationID nonce weight = input) ∧
    (∀ input validationID uptime,
      unpackValidationUptimeMessage input = .ok (validationID, uptime) →
        packValidationUptimeMessage validationID uptime = input) := by
  refine ⟨fun _ => unpackSubnetToL1ConversionMessage_eq_ok.mpr rfl, fun validationID registered =>
    unpackL1ValidatorRegistrationMessage_eq_ok.mpr ⟨_, ?_, rfl⟩,
    fun _ _ _ hn hw => unpackL1ValidatorWeightMessage_eq_ok.mpr ⟨hn, hw, rfl⟩,
    fun _ _ hu => unpackValidationUptimeMessage_eq_ok.mpr ⟨hu, rfl⟩,
    fun _ _ h => (unpackSubnetToL1ConversionMessage_eq_ok.mp h).symm,
    fun _ _ _ _ h => (unpackL1ValidatorWeightMessage_eq_ok.mp h).2.2.symm,
    fun _ _ _ h => (unpackValidationUptimeMessage_eq_ok.mp h).2.symm⟩
  -- `abi.encodePacked` writes the flag as 1 or 0
  cases registered <;> rfl

theorem fixedSizeMessages_roundTrip_weight :
    (1 : ℕ) < 2 ^ 64 ∧ (2 : ℕ) < 2 ^ 64 ∧
      unpackL1ValidatorWeightMessage (packL1ValidatorWeightMessage 0 1 2) = .ok (0, 1, 2) :=
  ⟨by decide, by decide, fixedSizeMessages_roundTrip.2.2.1 0 1 2 (by decide) (by decide)⟩

end ValidatorMessages
