import IcmServices.Teleporter.Types
import IcmServices.Lib.Decode
import IcmServices.Lib.Memory

/-!
# TeleporterV2 messages inside ICM messages

`ICM.sol` packs an ICM message as `uint32(len(rawMessage)) ‖ rawMessage ‖ sourceNetworkID ‖
sourceBlockchainID ‖ attestation`, and `TeleporterMessageV2.sol` packs a TeleporterV2 message
as its raw message: six fixed fields, a `uint32` count and the relayer addresses, a `uint32`
count and the receipts, and the inner message to the end. The parsers cut the bytes with
calldata slices; the serializers copy the two arrays with inline assembly, a 32-byte word per
element that the next store partly overwrites.

* `serializeAddresses_eq`, `serializeTeleporterReceipts_eq`: the assembly loops lay out
  20 bytes per address and 52 per receipt; the word a load takes past an address and the zeros
  a store writes past a field are overwritten or fall past the end of the value;
* `parseICMMessage_eq_ok`, `parseTeleporterMessageV2_eq_ok`: a parser accepts exactly the
  serializations of the values it returns;
* `parseTeleporterMessageV2_serialize`, `parseICMMessage_serializeICMMessage`: each layer reads
  back a value whose counts fit their `uint32` prefixes.

The `uint256` fields the message carries are words of 32 bytes; the receipts are the shared
`TeleporterMessageReceipt`, whose nonce is a natural number.
-/

namespace ICM

open Solidity BigEndian Decode

/-- `ICMMessage`. -/
structure ICMMessage where
  rawMessage : Bytes
  sourceNetworkID : UInt32
  sourceBlockchainID : Bytes32
  attestation : Bytes
  deriving DecidableEq, Repr

/-- `ICM.MESSAGE_LENGTH_BYTES`, the width of the length of the raw message. -/
def messageLengthBytes : ℕ := 4

/-- `ICM.extractICMRawMessage`. -/
def extractICMRawMessage (data : Bytes) : Except String Bytes := do
  let messageLength ← calldataSlice data 0 messageLengthBytes
  calldataSlice data messageLengthBytes (messageLengthBytes + ofBytes messageLength)

/-- `ICM.parseICMMessage`. -/
def parseICMMessage (data : Bytes) : Except String ICMMessage := do
  let message ← extractICMRawMessage data
  -- the position in `data` after the raw message bytes
  let messageOffset := message.length + messageLengthBytes
  let sourceNetworkID ← calldataSlice data messageOffset (messageOffset + 4)
  let sourceBlockchainID ← calldataSlice data (messageOffset + 4) (messageOffset + 36)
  let attestation ← calldataSlice data (messageOffset + 36) data.length
  pure ⟨message, UInt32.ofNat (ofBytes sourceNetworkID),
    BitVec.ofNat 256 (ofBytes sourceBlockchainID), attestation⟩

/-- `ICM.serializeICMMessage`. `toBytes 4` keeps the length modulo `2 ^ 32`, as
`uint32(message.rawMessage.length)` does. -/
def serializeICMMessage (message : ICMMessage) : Bytes :=
  toBytes 4 message.rawMessage.length ++ message.rawMessage ++
    toBytes 4 message.sourceNetworkID.toNat ++ toBytes 32 message.sourceBlockchainID.toNat ++
    message.attestation

theorem ofNat_ofBytes_toBytes_uint32 (x : UInt32) : UInt32.ofNat (ofBytes (toBytes 4 x.toNat)) = x := by
  rw [ofBytes_toBytes, Nat.mod_eq_of_lt (lt_of_lt_of_eq x.toNat_lt (by norm_num)),
    UInt32.ofNat_toNat]

theorem toBytes_uint32_ofNat_ofBytes {bs : Bytes} (h : bs.length = 4) :
    toBytes 4 (UInt32.ofNat (ofBytes bs)).toNat = bs := by
  have hlt : ofBytes bs < 2 ^ 32 := lt_of_lt_of_eq (ofBytes_lt bs) (by rw [h]; norm_num)
  rw [UInt32.toNat_ofNat_of_lt' hlt, ← h, toBytes_ofBytes]

/-- An ICM message whose raw message fits its `uint32` length reads back. -/
theorem parseICMMessage_serializeICMMessage (message : ICMMessage)
    (h : message.rawMessage.length < 2 ^ 32) :
    parseICMMessage (serializeICMMessage message) = .ok message := by
  set data := serializeICMMessage message with hdata
  have hsplit : data = toBytes 4 message.rawMessage.length ++ (message.rawMessage ++
      (toBytes 4 message.sourceNetworkID.toNat ++ (toBytes 32 message.sourceBlockchainID.toNat ++
        message.attestation))) := by
    simp only [hdata, serializeICMMessage, List.append_assoc]
  have hlen : data.length = message.rawMessage.length + 40 + message.attestation.length := by
    simp only [hsplit, List.length_append, length_toBytes]
    omega
  have h₀ : data.drop 0 = _ := hsplit
  have h₁ : data.drop 4 = _ := drop_add_of_drop_eq h₀ (by simp)
  have h₂ : data.drop (message.rawMessage.length + 4) = _ :=
    drop_add_of_drop_eq h₁ (Nat.add_comm _ _)
  have h₃ : data.drop (message.rawMessage.length + 4 + 4) = _ := drop_add_of_drop_eq h₂ (by simp)
  have h₄ : data.drop (message.rawMessage.length + 4 + 36) = _ := drop_add_of_drop_eq h₃ (by simp)
  have hraw : ofBytes (toBytes 4 message.rawMessage.length) = message.rawMessage.length := by
    rw [ofBytes_toBytes, Nat.mod_eq_of_lt (lt_of_lt_of_eq h (by norm_num))]
  have e₀ : calldataSlice data 0 4 = _ :=
    calldataSlice_at h₀ (List.ne_nil_of_length_pos (by simp)) (by simp)
  have e₁ : calldataSlice data 4 (4 + message.rawMessage.length) = _ :=
    calldataSlice_at_of_le h₁ (by omega) rfl
  have e₂ : calldataSlice data (message.rawMessage.length + 4)
      (message.rawMessage.length + 4 + 4) = _ :=
    calldataSlice_at h₂ (List.ne_nil_of_length_pos (by simp)) (by simp)
  have e₃ : calldataSlice data (message.rawMessage.length + 4 + 4)
      (message.rawMessage.length + 4 + 36) = _ :=
    calldataSlice_at h₃ (List.ne_nil_of_length_pos (by simp)) (by simp)
  have e₄ : calldataSlice data (message.rawMessage.length + 4 + 36) data.length =
      .ok message.attestation := calldataSlice_length_eq_ok.mpr ⟨by omega, h₄.symm⟩
  simp only [parseICMMessage, extractICMRawMessage, messageLengthBytes, e₀, ok_bind, hraw, e₁,
    e₂, e₃, e₄]
  rw [ofNat_ofBytes_toBytes_uint32, ofNat_ofBytes_toBytes (by norm_num)]
  rfl

/-- An accepted ICM message is the serialization of what the parser returns, and its raw message
fits its `uint32` length. -/
theorem serializeICMMessage_of_parse {data : Bytes} {message : ICMMessage}
    (h : parseICMMessage data = .ok message) :
    message.rawMessage.length < 2 ^ 32 ∧ serializeICMMessage message = data := by
  simp only [parseICMMessage, extractICMRawMessage, messageLengthBytes, bind_eq_ok,
    pure_eq_ok] at h
  obtain ⟨raw, ⟨lengthBytes, hl, hr⟩, net, hn, chain, hc, att, ha, rfl⟩ := h
  obtain ⟨hl₁, hd₁⟩ := drop_eq_of_calldataSlice hl
  obtain ⟨hr₁, hd₂⟩ := drop_eq_of_calldataSlice hr
  obtain ⟨hn₁, hd₃⟩ := drop_eq_of_calldataSlice hn
  obtain ⟨hc₁, hd₄⟩ := drop_eq_of_calldataSlice hc
  obtain ⟨-, rfl⟩ := calldataSlice_length_eq_ok.mp ha
  -- the raw message is as long as the prefix says
  have hraw : raw.length = ofBytes lengthBytes := by omega
  have hlt : raw.length < 2 ^ 32 := by
    have := ofBytes_lt lengthBytes
    rw [hl₁] at this
    omega
  have hprefix : toBytes 4 (ofBytes lengthBytes) = lengthBytes := by
    have := toBytes_ofBytes lengthBytes
    rwa [show lengthBytes.length = 4 by omega] at this
  refine ⟨hlt, (?_ : _ = data.drop 0).trans List.drop_zero⟩
  rw [serializeICMMessage, hraw, hprefix, toBytes_uint32_ofNat_ofBytes (by omega),
    toBytes_ofNat_ofBytes (by omega) (by norm_num), hd₁, hd₂, ← hraw, Nat.add_comm 4 raw.length,
    hd₃, hd₄]
  simp only [List.append_assoc]

/-- `parseICMMessage` accepts exactly the serializations of the messages whose raw message fits
its `uint32` length, and returns the message serialized. -/
theorem parseICMMessage_eq_ok {data : Bytes} {message : ICMMessage} :
    parseICMMessage data = .ok message ↔
      message.rawMessage.length < 2 ^ 32 ∧ data = serializeICMMessage message := by
  constructor
  · intro h
    obtain ⟨hlt, rfl⟩ := serializeICMMessage_of_parse h
    exact ⟨hlt, rfl⟩
  · rintro ⟨hlt, rfl⟩
    exact parseICMMessage_serializeICMMessage message hlt

end ICM

namespace TeleporterV2

open Solidity BigEndian Decode Memory Teleporter ICM

/-- `TeleporterMessageV2`. -/
structure TeleporterMessageV2 where
  messageNonce : BitVec 256
  originSenderAddress : Address
  originTeleporterAddress : Address
  destinationBlockchainID : Bytes32
  destinationAddress : Address
  requiredGasLimit : BitVec 256
  allowedRelayerAddresses : List Address
  receipts : List TeleporterMessageReceipt
  message : Bytes
  deriving DecidableEq

/-- `TeleporterICMMessage`: a TeleporterV2 message with the fields of the ICM message around it. -/
structure TeleporterICMMessage where
  message : TeleporterMessageV2
  sourceNetworkID : UInt32
  sourceBlockchainID : Bytes32
  attestation : Bytes
  deriving DecidableEq

/-! ## Parsing -/

/-- The loop of `parseTeleporterMessageV2` over the relayer addresses: `count` more addresses
from `offsetAddresses`. -/
def parseAddresses (data : Bytes) : ℕ → ℕ → Except String (List Address)
  | 0, _ => pure []
  | count + 1, offsetAddresses => do
    let addressBytes ← calldataSlice data offsetAddresses (offsetAddresses + 20)
    let rest ← parseAddresses data count (offsetAddresses + 20)
    pure (BitVec.ofNat 160 (ofBytes addressBytes) :: rest)

/-- The loop of `parseTeleporterMessageV2` over the receipts: `count` more receipts from
`offsetReceipts`. -/
def parseReceipts (data : Bytes) : ℕ → ℕ → Except String (List TeleporterMessageReceipt)
  | 0, _ => pure []
  | count + 1, offsetReceipts => do
    let receivedMessageNonce ← calldataSlice data offsetReceipts (offsetReceipts + 32)
    let relayerRewardAddress ← calldataSlice data (offsetReceipts + 32) (offsetReceipts + 52)
    let rest ← parseReceipts data count (offsetReceipts + 52)
    pure (⟨ofBytes receivedMessageNonce, BitVec.ofNat 160 (ofBytes relayerRewardAddress)⟩ :: rest)

/-- `TeleporterMessageV2Parsing.parseTeleporterMessageV2`. -/
def parseTeleporterMessageV2 (data : Bytes) : Except String TeleporterMessageV2 := do
  let messageNonce ← calldataSlice data 0 32
  let originSenderAddress ← calldataSlice data 32 52
  let originTeleporterAddress ← calldataSlice data 52 72
  let destinationBlockchainID ← calldataSlice data 72 104
  let destinationAddress ← calldataSlice data 104 124
  let requiredGasLimit ← calldataSlice data 124 156
  let numRelayerAddresses ← calldataSlice data 156 160
  let allowedRelayerAddresses ← parseAddresses data (ofBytes numRelayerAddresses) 160
  let offsetReceipts := 160 + 20 * allowedRelayerAddresses.length
  let numReceipts ← calldataSlice data offsetReceipts (offsetReceipts + 4)
  let receipts ← parseReceipts data (ofBytes numReceipts) (offsetReceipts + 4)
  -- the start of the inner message, computed again from the two counts
  let offset := 164 + 52 * receipts.length + 20 * allowedRelayerAddresses.length
  let message ← calldataSlice data offset data.length
  pure ⟨BitVec.ofNat 256 (ofBytes messageNonce), BitVec.ofNat 160 (ofBytes originSenderAddress),
    BitVec.ofNat 160 (ofBytes originTeleporterAddress),
    BitVec.ofNat 256 (ofBytes destinationBlockchainID),
    BitVec.ofNat 160 (ofBytes destinationAddress), BitVec.ofNat 256 (ofBytes requiredGasLimit),
    allowedRelayerAddresses, receipts, message⟩

/-! ## Serializing -/

/-- The memory of an `address[]` from its pointer: the length word, then a word per element with
the address in its low 20 bytes. Memory past the array is not modelled: the one load that reaches
past it reads bytes that the store puts past the end of `serialized`. -/
def addressArrayMemory (allowedRelayerAddresses : List Address) : Bytes :=
  toBytes 32 allowedRelayerAddresses.length ++
    allowedRelayerAddresses.flatMap fun a => toBytes 32 a.toNat

/-- One round of the loop of `serializeAddresses`: `mstore(s, mload(r))`, then `s` moves on by an
address and `r` by a word. -/
def serializeAddressesStep (memory : Bytes) (acc : Bytes × ℕ × ℕ) (_ : ℕ) : Bytes × ℕ × ℕ :=
  let (serialized, s, r) := acc
  (mstoreWord serialized s (mloadWord memory r), s + 20, r + 32)

/-- `TeleporterMessageV2Parsing.serializeAddresses`. Offsets are into the data of `serialized`
and into the array's memory; `r` starts at 44, 12 bytes into the first element's word, where its
address starts. -/
def serializeAddresses (allowedRelayerAddresses : List Address) : Bytes :=
  let memory := addressArrayMemory allowedRelayerAddresses
  let l := ofBytes (mloadWord memory 0)
  ((List.range l).foldl (serializeAddressesStep memory)
    (List.replicate (allowedRelayerAddresses.length * 20) 0, 0, 44)).1

/-- One round of the loop of `serializeTeleporterReceipts`, on the receipt the pointer at `r`
points to: its nonce word, then its address word shifted left 12 bytes. -/
def serializeTeleporterReceiptsStep (acc : Bytes × ℕ) (value : TeleporterMessageReceipt) :
    Bytes × ℕ :=
  let (serialized, s) := acc
  let serialized := mstoreWord serialized s (toBytes 32 value.receivedMessageNonce)
  let s := s + 32
  let serialized :=
    mstoreWord serialized s (toBytes 32 (value.relayerRewardAddress.toNat <<< 96))
  (serialized, s + 20)

/-- `TeleporterMessageV2Parsing.serializeTeleporterReceipts`. -/
def serializeTeleporterReceipts (receipts : List TeleporterMessageReceipt) : Bytes :=
  (receipts.foldl serializeTeleporterReceiptsStep
    (List.replicate (receipts.length * 52) 0, 0)).1

/-- `TeleporterMessageV2Parsing.serializeTeleporterMessageV2`. -/
def serializeTeleporterMessageV2 (message : TeleporterMessageV2) : Bytes :=
  toBytes 32 message.messageNonce.toNat ++ toBytes 20 message.originSenderAddress.toNat ++
    toBytes 20 message.originTeleporterAddress.toNat ++
    toBytes 32 message.destinationBlockchainID.toNat ++
    toBytes 20 message.destinationAddress.toNat ++ toBytes 32 message.requiredGasLimit.toNat ++
    toBytes 4 message.allowedRelayerAddresses.length ++
    serializeAddresses message.allowedRelayerAddresses ++
    toBytes 4 message.receipts.length ++ serializeTeleporterReceipts message.receipts ++
    message.message

/-- `TeleporterICMMessageParsing.parseTeleporterICMMessage`. -/
def parseTeleporterICMMessage (message : Bytes) : Except String TeleporterICMMessage := do
  let icmMessage ← parseICMMessage message
  let teleporterMessage ← parseTeleporterMessageV2 icmMessage.rawMessage
  pure ⟨teleporterMessage, icmMessage.sourceNetworkID, icmMessage.sourceBlockchainID,
    icmMessage.attestation⟩

/-- `TeleporterICMMessageParsing.serializeTeleporterICMMessage`. -/
def serializeTeleporterICMMessage (message : TeleporterICMMessage) : Bytes :=
  serializeICMMessage ⟨serializeTeleporterMessageV2 message.message, message.sourceNetworkID,
    message.sourceBlockchainID, message.attestation⟩

/-! ## The layout of the arrays -/

/-- The 20 bytes of an address. -/
def addressBytes (a : Address) : Bytes := toBytes 20 a.toNat

/-- The 52 bytes of a receipt: its nonce and its relayer's address. -/
def receiptBytes (receipt : TeleporterMessageReceipt) : Bytes :=
  toBytes 32 receipt.receivedMessageNonce ++ addressBytes receipt.relayerRewardAddress

@[simp] theorem length_addressBytes (a : Address) : (addressBytes a).length = 20 := by
  simp [addressBytes]

@[simp] theorem length_receiptBytes (receipt : TeleporterMessageReceipt) :
    (receiptBytes receipt).length = 52 := by
  simp [receiptBytes]

theorem ofNat_ofBytes_addressBytes (a : Address) : BitVec.ofNat 160 (ofBytes (addressBytes a)) = a :=
  ofNat_ofBytes_toBytes (by norm_num) a

theorem addressBytes_ofNat_ofBytes {bs : Bytes} (h : bs.length = 20) :
    addressBytes (BitVec.ofNat 160 (ofBytes bs)) = bs :=
  toBytes_ofNat_ofBytes h (by norm_num)

/-- The word of an element of an `address[]`: 12 zero bytes, then the address. -/
theorem toBytes_address (a : Address) : toBytes 32 a.toNat = List.replicate 12 0 ++ addressBytes a :=
  toBytes_add_of_lt 12 20 (lt_of_lt_of_eq a.isLt (by norm_num))

/-- The first 12 bytes of the words of addresses: zeros, unless there are no words. -/
theorem take_flatMap_address (addrs : List Address) :
    (addrs.flatMap fun a => toBytes 32 a.toNat).take 12 =
      List.replicate (if addrs = [] then 0 else 12) 0 := by
  cases addrs with
  | nil => rfl
  | cons a addrs =>
    rw [List.flatMap_cons, toBytes_address, List.append_assoc,
      List.take_left' (List.length_replicate ..)]
    rfl

/-- The word a load takes at element `i`, 44 bytes past the array's pointer and 32 more per
element: the address, then the top 12 bytes of the next element's word, or nothing past the last
element. -/
theorem mloadWord_addressArrayMemory (addrs : List Address) {i : ℕ} (hi : i < addrs.length) :
    mloadWord (addressArrayMemory addrs) (44 + 32 * i) =
      addressBytes addrs[i] ++
        List.replicate (if addrs.drop (i + 1) = [] then 0 else 12) 0 := by
  have hwords := drop_flatMap (fun a : Address => length_toBytes 32 a.toNat) addrs i
  rw [mloadWord, addressArrayMemory, show 44 + 32 * i = 32 + 32 * i + 12 by omega,
    ← List.drop_drop, ← List.drop_drop, List.drop_left' (length_toBytes 32 _), hwords,
    List.drop_eq_getElem_cons hi, List.flatMap_cons, toBytes_address, List.append_assoc,
    List.drop_left' (List.length_replicate ..), List.take_append, List.take_of_length_le (by simp),
    length_addressBytes, take_flatMap_address]

/-- `i` rounds of the loop of `serializeAddresses` have laid out the first `i` addresses over the
zeros of `serialized`. -/
theorem foldl_serializeAddressesStep (addrs : List Address) :
    ∀ i ≤ addrs.length,
      (List.range i).foldl (serializeAddressesStep (addressArrayMemory addrs))
          (List.replicate (addrs.length * 20) 0, 0, 44) =
        ((addrs.take i).flatMap addressBytes ++ List.replicate (20 * (addrs.length - i)) 0,
          20 * i, 44 + 32 * i)
  | 0, _ => by simp [Nat.mul_comm]
  | i + 1, hi => by
    have hpre : ((addrs.take i).flatMap addressBytes).length = 20 * i := by
      simp [List.length_flatMap, Nat.mul_comm]
      omega
    rw [List.range_succ, List.foldl_append, foldl_serializeAddressesStep addrs i (by omega),
      List.foldl_cons, List.foldl_nil]
    simp only [serializeAddressesStep]
    -- the address of round `i` lands after those before it; the zeros past it are overwritten by
    -- the next round, or fall past the end of `serialized` after the last
    rw [mloadWord_addressArrayMemory addrs (by omega), ← hpre, mstoreWord_append_zeros _ _ _ _
      (by simp; omega) (by split <;> simp) (by split <;> simp_all; omega), hpre,
      List.take_add_one, List.getElem?_eq_getElem (by omega), Option.toList_some,
      List.flatMap_append, List.flatMap_singleton, length_addressBytes]
    rw [show 20 * (addrs.length - i) - 20 = 20 * (addrs.length - (i + 1)) by omega,
      show 20 * i + 20 = 20 * (i + 1) by ring, show 44 + 32 * i + 32 = 44 + 32 * (i + 1) by ring]

/-- The addresses are serialized as their 20 bytes each. -/
theorem serializeAddresses_eq (addrs : List Address) (h : addrs.length < 2 ^ 256) :
    serializeAddresses addrs = addrs.flatMap addressBytes := by
  have hl : ofBytes (mloadWord (addressArrayMemory addrs) 0) = addrs.length := by
    rw [mloadWord, List.drop_zero, addressArrayMemory, List.take_left' (length_toBytes 32 _),
      ofBytes_toBytes, Nat.mod_eq_of_lt (lt_of_lt_of_eq h (by norm_num))]
  simp only [serializeAddresses, hl]
  rw [foldl_serializeAddressesStep addrs _ le_rfl, List.take_length, Nat.sub_self,
    Nat.mul_zero, List.replicate_zero, List.append_nil]

/-- A round of the loop of `serializeTeleporterReceipts` lays out a receipt over zeros. -/
theorem serializeTeleporterReceiptsStep_append (pre : Bytes) (m : ℕ)
    (receipt : TeleporterMessageReceipt) :
    serializeTeleporterReceiptsStep (pre ++ List.replicate (m + 52) 0, pre.length) receipt =
      (pre ++ receiptBytes receipt ++ List.replicate m 0, pre.length + 52) := by
  -- `shl(96, ...)` puts the address in the top 20 bytes of its word
  have hshift : toBytes 32 (receipt.relayerRewardAddress.toNat <<< 96) =
      addressBytes receipt.relayerRewardAddress ++ List.replicate 12 0 :=
    toBytes_shiftLeft 20 12 _
  have hnonce : pre.length + 32 = (pre ++ toBytes 32 receipt.receivedMessageNonce).length := by
    simp
  simp only [serializeTeleporterReceiptsStep]
  rw [mstoreWord_append_word _ _ _ (length_toBytes 32 _) (by omega), hnonce, hshift,
    mstoreWord_append_zeros _ _ _ _ (by simp) (by simp) (.inl (by simp)), length_addressBytes,
    receiptBytes, ← hnonce, List.append_assoc pre]
  simp

theorem foldl_serializeTeleporterReceiptsStep :
    ∀ (receipts : List TeleporterMessageReceipt) (pre : Bytes),
      receipts.foldl serializeTeleporterReceiptsStep
          (pre ++ List.replicate (receipts.length * 52) 0, pre.length) =
        (pre ++ receipts.flatMap receiptBytes, pre.length + 52 * receipts.length)
  | [], pre => by simp
  | receipt :: receipts, pre => by
    rw [List.foldl_cons, List.length_cons, Nat.succ_mul, serializeTeleporterReceiptsStep_append,
      show pre.length + 52 = (pre ++ receiptBytes receipt).length by simp,
      foldl_serializeTeleporterReceiptsStep receipts, List.flatMap_cons]
    simp only [List.append_assoc, List.length_append, length_receiptBytes]
    congr 1
    omega

/-- The receipts are serialized as their 52 bytes each. -/
theorem serializeTeleporterReceipts_eq (receipts : List TeleporterMessageReceipt) :
    serializeTeleporterReceipts receipts = receipts.flatMap receiptBytes := by
  have h := foldl_serializeTeleporterReceiptsStep receipts []
  rw [List.nil_append, List.length_nil] at h
  rw [serializeTeleporterReceipts, h, List.nil_append]

/-! ## Reading the arrays back -/

theorem parseAddresses_at {data rest : Bytes} : ∀ {addrs : List Address} {offset : ℕ},
    data.drop offset = addrs.flatMap addressBytes ++ rest →
      parseAddresses data addrs.length offset = .ok addrs
  | [], _, _ => rfl
  | a :: addrs, offset, h => by
    rw [List.flatMap_cons, List.append_assoc] at h
    have e₁ : calldataSlice data offset (offset + 20) = .ok (addressBytes a) :=
      calldataSlice_at h (List.ne_nil_of_length_pos (by simp)) (by simp)
    have e₂ : parseAddresses data addrs.length (offset + 20) = .ok addrs :=
      parseAddresses_at (drop_add_of_drop_eq h (by simp))
    simp only [List.length_cons, parseAddresses, e₁, e₂, ok_bind, ofNat_ofBytes_addressBytes]
    rfl

/-- An accepted run of the address loop cuts the data into the addresses it returned. -/
theorem parseAddresses_eq_ok {data : Bytes} : ∀ {count offset : ℕ} {addrs : List Address},
    parseAddresses data count offset = .ok addrs →
      addrs.length = count ∧
        data.drop offset = addrs.flatMap addressBytes ++ data.drop (offset + 20 * count)
  | 0, offset, addrs, h => by
    obtain rfl := pure_eq_ok.mp h
    simp
  | count + 1, offset, addrs, h => by
    simp only [parseAddresses, bind_eq_ok, pure_eq_ok] at h
    obtain ⟨bs, hb, rest, hrest, rfl⟩ := h
    obtain ⟨hlen, hdrop⟩ := drop_eq_of_calldataSlice hb
    obtain ⟨ih₁, ih₂⟩ := parseAddresses_eq_ok hrest
    refine ⟨by simp [ih₁], ?_⟩
    rw [hdrop, ih₂, List.flatMap_cons, addressBytes_ofNat_ofBytes (by omega), List.append_assoc,
      show offset + 20 + 20 * count = offset + 20 * (count + 1) by ring]

theorem parseReceipts_at {data rest : Bytes} :
    ∀ {receipts : List TeleporterMessageReceipt} {offset : ℕ},
      (∀ r ∈ receipts, r.receivedMessageNonce < 2 ^ 256) →
      data.drop offset = receipts.flatMap receiptBytes ++ rest →
      parseReceipts data receipts.length offset = .ok receipts
  | [], _, _, _ => rfl
  | r :: receipts, offset, hr, h => by
    rw [List.flatMap_cons, receiptBytes, List.append_assoc, List.append_assoc] at h
    have h' : data.drop (offset + 32) = _ := drop_add_of_drop_eq h (by simp)
    have e₁ : calldataSlice data offset (offset + 32) = .ok (toBytes 32 r.receivedMessageNonce) :=
      calldataSlice_at h (List.ne_nil_of_length_pos (by simp)) (by simp)
    have e₂ : calldataSlice data (offset + 32) (offset + 52) =
        .ok (addressBytes r.relayerRewardAddress) :=
      calldataSlice_at h' (List.ne_nil_of_length_pos (by simp)) (by simp)
    have e₃ : parseReceipts data receipts.length (offset + 52) = .ok receipts :=
      parseReceipts_at (fun x hx => hr x (.tail _ hx)) (drop_add_of_drop_eq h' (by simp))
    -- the nonce is a `uint256`, so its word reads back as itself
    have hnonce : ofBytes (toBytes 32 r.receivedMessageNonce) = r.receivedMessageNonce := by
      rw [ofBytes_toBytes, Nat.mod_eq_of_lt (lt_of_lt_of_eq (hr r (.head _)) (by norm_num))]
    simp only [List.length_cons, parseReceipts, e₁, e₂, e₃, ok_bind, hnonce,
      ofNat_ofBytes_addressBytes]
    rfl

/-- An accepted run of the receipt loop cuts the data into the receipts it returned, whose nonces
are `uint256` words. -/
theorem parseReceipts_eq_ok {data : Bytes} :
    ∀ {count offset : ℕ} {receipts : List TeleporterMessageReceipt},
      parseReceipts data count offset = .ok receipts →
        receipts.length = count ∧ (∀ r ∈ receipts, r.receivedMessageNonce < 2 ^ 256) ∧
          data.drop offset = receipts.flatMap receiptBytes ++ data.drop (offset + 52 * count)
  | 0, offset, receipts, h => by
    obtain rfl := pure_eq_ok.mp h
    simp
  | count + 1, offset, receipts, h => by
    simp only [parseReceipts, bind_eq_ok, pure_eq_ok] at h
    obtain ⟨nonce, hn, relayer, hr, rest, hrest, rfl⟩ := h
    obtain ⟨hn₁, hd₁⟩ := drop_eq_of_calldataSlice hn
    obtain ⟨hr₁, hd₂⟩ := drop_eq_of_calldataSlice hr
    obtain ⟨ih₁, ih₂, ih₃⟩ := parseReceipts_eq_ok hrest
    have hnonce : toBytes 32 (ofBytes nonce) = nonce := by
      have := toBytes_ofBytes nonce
      rwa [show nonce.length = 32 by omega] at this
    refine ⟨by simp [ih₁], ?_, ?_⟩
    · rintro x (_ | ⟨_, hx⟩)
      · exact lt_of_lt_of_eq (ofBytes_lt nonce) (by rw [show nonce.length = 32 by omega]; norm_num)
      · exact ih₂ x hx
    · rw [hd₁, hd₂, ih₃, List.flatMap_cons, receiptBytes, hnonce,
        addressBytes_ofNat_ofBytes (by omega), show offset + 52 + 52 * count =
          offset + 52 * (count + 1) by ring]
      simp only [List.append_assoc]

/-! ## The round trip of a TeleporterV2 message -/

theorem serializeTeleporterMessageV2_eq (message : TeleporterMessageV2)
    (h : message.allowedRelayerAddresses.length < 2 ^ 256) :
    serializeTeleporterMessageV2 message =
      toBytes 32 message.messageNonce.toNat ++ (addressBytes message.originSenderAddress ++
      (addressBytes message.originTeleporterAddress ++
      (toBytes 32 message.destinationBlockchainID.toNat ++
      (addressBytes message.destinationAddress ++ (toBytes 32 message.requiredGasLimit.toNat ++
      (toBytes 4 message.allowedRelayerAddresses.length ++
      (message.allowedRelayerAddresses.flatMap addressBytes ++
      (toBytes 4 message.receipts.length ++
      (message.receipts.flatMap receiptBytes ++ message.message))))))))) := by
  rw [serializeTeleporterMessageV2, serializeAddresses_eq _ h, serializeTeleporterReceipts_eq]
  simp only [addressBytes, List.append_assoc]

/-- A TeleporterV2 message whose arrays fit their `uint32` counts reads back. -/
theorem parseTeleporterMessageV2_serialize (message : TeleporterMessageV2)
    (hn : message.allowedRelayerAddresses.length < 2 ^ 32) (hk : message.receipts.length < 2 ^ 32)
    (hr : ∀ r ∈ message.receipts, r.receivedMessageNonce < 2 ^ 256) :
    parseTeleporterMessageV2 (serializeTeleporterMessageV2 message) = .ok message := by
  set data := serializeTeleporterMessageV2 message with hdata
  have h₀ : data.drop 0 = _ := serializeTeleporterMessageV2_eq message (by omega)
  have hlen : data.length = 164 + 52 * message.receipts.length +
      20 * message.allowedRelayerAddresses.length + message.message.length := by
    have h := congrArg List.length h₀
    rw [List.drop_zero] at h
    simp [h, List.length_flatMap, Nat.mul_comm]
    omega
  have h₁ : data.drop 32 = _ := drop_add_of_drop_eq h₀ (by simp)
  have h₂ : data.drop 52 = _ := drop_add_of_drop_eq h₁ (by simp)
  have h₃ : data.drop 72 = _ := drop_add_of_drop_eq h₂ (by simp)
  have h₄ : data.drop 104 = _ := drop_add_of_drop_eq h₃ (by simp)
  have h₅ : data.drop 124 = _ := drop_add_of_drop_eq h₄ (by simp)
  have h₆ : data.drop 156 = _ := drop_add_of_drop_eq h₅ (by simp)
  have h₇ : data.drop 160 = _ := drop_add_of_drop_eq h₆ (by simp)
  have h₈ : data.drop (160 + 20 * message.allowedRelayerAddresses.length) = _ :=
    drop_add_of_drop_eq h₇ (by simp [List.length_flatMap, Nat.mul_comm])
  have h₉ : data.drop (160 + 20 * message.allowedRelayerAddresses.length + 4) = _ :=
    drop_add_of_drop_eq h₈ (by simp)
  have h₁₀ : data.drop (164 + 52 * message.receipts.length +
      20 * message.allowedRelayerAddresses.length) = message.message :=
    drop_add_of_drop_eq h₉ (by simp [List.length_flatMap, Nat.mul_comm]; omega)
  have e₀ : calldataSlice data 0 32 = _ := calldataSlice_at h₀ (toBytes_ne_nil _ _) (by simp)
  have e₁ : calldataSlice data 32 52 = _ := calldataSlice_at h₁ (toBytes_ne_nil _ _) (by simp)
  have e₂ : calldataSlice data 52 72 = _ := calldataSlice_at h₂ (toBytes_ne_nil _ _) (by simp)
  have e₃ : calldataSlice data 72 104 = _ := calldataSlice_at h₃ (toBytes_ne_nil _ _) (by simp)
  have e₄ : calldataSlice data 104 124 = _ := calldataSlice_at h₄ (toBytes_ne_nil _ _) (by simp)
  have e₅ : calldataSlice data 124 156 = _ := calldataSlice_at h₅ (toBytes_ne_nil _ _) (by simp)
  have e₆ : calldataSlice data 156 160 = _ := calldataSlice_at h₆ (toBytes_ne_nil _ _) (by simp)
  have e₇ := parseAddresses_at h₇
  have e₈ : calldataSlice data (160 + 20 * message.allowedRelayerAddresses.length)
      (160 + 20 * message.allowedRelayerAddresses.length + 4) = _ :=
    calldataSlice_at h₈ (toBytes_ne_nil _ _) (by simp)
  have e₉ := parseReceipts_at hr h₉
  have e₁₀ : calldataSlice data (164 + 52 * message.receipts.length +
      20 * message.allowedRelayerAddresses.length) data.length = .ok message.message :=
    calldataSlice_length_eq_ok.mpr ⟨by omega, h₁₀.symm⟩
  -- the two counts are below `2 ^ 32`, so their prefixes read back as themselves
  have c₁ : ofBytes (toBytes 4 message.allowedRelayerAddresses.length) =
      message.allowedRelayerAddresses.length := by
    rw [ofBytes_toBytes, Nat.mod_eq_of_lt (lt_of_lt_of_eq hn (by norm_num))]
  have c₂ : ofBytes (toBytes 4 message.receipts.length) = message.receipts.length := by
    rw [ofBytes_toBytes, Nat.mod_eq_of_lt (lt_of_lt_of_eq hk (by norm_num))]
  simp only [parseTeleporterMessageV2, e₀, e₁, e₂, e₃, e₄, e₅, e₆, ok_bind, c₁, e₇, e₈, c₂, e₉,
    e₁₀, ofNat_ofBytes_addressBytes]
  rw [ofNat_ofBytes_toBytes (by norm_num), ofNat_ofBytes_toBytes (by norm_num),
    ofNat_ofBytes_toBytes (by norm_num)]
  rfl

/-- An accepted TeleporterV2 message is the serialization of what the parser returns: its counts
fit their `uint32` prefixes and its receipt nonces are `uint256` words. -/
theorem serializeTeleporterMessageV2_of_parse {data : Bytes} {message : TeleporterMessageV2}
    (h : parseTeleporterMessageV2 data = .ok message) :
    message.allowedRelayerAddresses.length < 2 ^ 32 ∧ message.receipts.length < 2 ^ 32 ∧
      (∀ r ∈ message.receipts, r.receivedMessageNonce < 2 ^ 256) ∧
      serializeTeleporterMessageV2 message = data := by
  simp only [parseTeleporterMessageV2, bind_eq_ok, pure_eq_ok] at h
  obtain ⟨nonce, s₀, sender, s₁, teleporter, s₂, chain, s₃, dest, s₄, gas, s₅, count, s₆, addrs, s₇,
    countR, s₈, receipts, s₉, msg, s₁₀, rfl⟩ := h
  obtain ⟨l₀, d₀⟩ := drop_eq_of_calldataSlice s₀
  obtain ⟨l₁, d₁⟩ := drop_eq_of_calldataSlice s₁
  obtain ⟨l₂, d₂⟩ := drop_eq_of_calldataSlice s₂
  obtain ⟨l₃, d₃⟩ := drop_eq_of_calldataSlice s₃
  obtain ⟨l₄, d₄⟩ := drop_eq_of_calldataSlice s₄
  obtain ⟨l₅, d₅⟩ := drop_eq_of_calldataSlice s₅
  obtain ⟨l₆, d₆⟩ := drop_eq_of_calldataSlice s₆
  obtain ⟨a₁, d₇⟩ := parseAddresses_eq_ok s₇
  obtain ⟨l₈, d₈⟩ := drop_eq_of_calldataSlice s₈
  obtain ⟨r₁, r₂, d₉⟩ := parseReceipts_eq_ok s₉
  obtain ⟨-, rfl⟩ := calldataSlice_length_eq_ok.mp s₁₀
  have hcount : count.length = 4 := by omega
  have hcountR : countR.length = 4 := by omega
  have hn : addrs.length < 2 ^ 32 := a₁ ▸ lt_of_lt_of_eq (ofBytes_lt count) (by rw [hcount]; rfl)
  have hk : receipts.length < 2 ^ 32 :=
    r₁ ▸ lt_of_lt_of_eq (ofBytes_lt countR) (by rw [hcountR]; rfl)
  have c₁ : toBytes 4 addrs.length = count := by rw [a₁, ← hcount, toBytes_ofBytes]
  have c₂ : toBytes 4 receipts.length = countR := by rw [r₁, ← hcountR, toBytes_ofBytes]
  rw [← a₁] at d₇
  rw [← r₁] at d₉
  refine ⟨hn, hk, r₂, (?_ : _ = data.drop 0).trans List.drop_zero⟩
  rw [serializeTeleporterMessageV2_eq _ (lt_trans hn (by decide)), c₁, c₂,
    toBytes_ofNat_ofBytes (by omega) (by norm_num), addressBytes_ofNat_ofBytes (by omega),
    addressBytes_ofNat_ofBytes (by omega), toBytes_ofNat_ofBytes (by omega) (by norm_num),
    addressBytes_ofNat_ofBytes (by omega), toBytes_ofNat_ofBytes (by omega) (by norm_num)]
  -- the cuts the parser made, in order; the inner message starts where the receipts end
  rw [d₀, d₁, d₂, d₃, d₄, d₅, d₆, d₇, d₈, d₉,
    show 160 + 20 * addrs.length + 4 + 52 * receipts.length =
      164 + 52 * receipts.length + 20 * addrs.length by omega]

/-- `parseTeleporterMessageV2` accepts exactly the serializations of the messages whose arrays
fit their `uint32` counts (and whose receipt nonces are `uint256` words), and returns the
message serialized. -/
theorem parseTeleporterMessageV2_eq_ok {data : Bytes} {message : TeleporterMessageV2} :
    parseTeleporterMessageV2 data = .ok message ↔
      message.allowedRelayerAddresses.length < 2 ^ 32 ∧ message.receipts.length < 2 ^ 32 ∧
        (∀ r ∈ message.receipts, r.receivedMessageNonce < 2 ^ 256) ∧
        data = serializeTeleporterMessageV2 message := by
  constructor
  · intro h
    obtain ⟨hn, hk, hr, rfl⟩ := serializeTeleporterMessageV2_of_parse h
    exact ⟨hn, hk, hr, rfl⟩
  · rintro ⟨hn, hk, hr, hdata⟩
    rw [hdata]
    exact parseTeleporterMessageV2_serialize message hn hk hr

/-! ## The round trip of a TeleporterICMMessage -/

/-- What a `TeleporterICMMessage` needs to read back: arrays and a raw message that fit their
`uint32` prefixes, and receipt nonces in the range of their Solidity type `uint256`, which the
receipt type shared with the messenger does not carry. -/
structure Serializable (message : TeleporterICMMessage) : Prop where
  allowedRelayerAddresses : message.message.allowedRelayerAddresses.length < 2 ^ 32
  receipts : message.message.receipts.length < 2 ^ 32
  rawMessage : (serializeTeleporterMessageV2 message.message).length < 2 ^ 32
  receivedMessageNonce : ∀ r ∈ message.message.receipts, r.receivedMessageNonce < 2 ^ 256

theorem teleporterICMMessage_roundTrip :
    (∀ message : TeleporterICMMessage, Serializable message →
      parseTeleporterICMMessage (serializeTeleporterICMMessage message) = .ok message) ∧
    ∀ (data : Bytes) (message : TeleporterICMMessage),
      parseTeleporterICMMessage data = .ok message → serializeTeleporterICMMessage message = data := by
  refine ⟨fun message hm => ?_, fun data message h => ?_⟩
  · -- the ICM layer hands back the raw message, which the inner parser reads back
    rw [parseTeleporterICMMessage, serializeTeleporterICMMessage,
      parseICMMessage_serializeICMMessage ⟨serializeTeleporterMessageV2 message.message,
        message.sourceNetworkID, message.sourceBlockchainID, message.attestation⟩ hm.rawMessage,
      ok_bind,
      parseTeleporterMessageV2_serialize _ hm.allowedRelayerAddresses hm.receipts
        hm.receivedMessageNonce, ok_bind]
    rfl
  · simp only [parseTeleporterICMMessage, bind_eq_ok, pure_eq_ok] at h
    obtain ⟨icmMessage, hicm, teleporterMessage, hteleporter, hmessage⟩ := h
    rw [← hmessage, serializeTeleporterICMMessage,
      (serializeTeleporterMessageV2_of_parse hteleporter).2.2.2]
    exact (serializeICMMessage_of_parse hicm).2

/-- A message with one relayer and one receipt. -/
def sampleTeleporterICMMessage : TeleporterICMMessage :=
  ⟨⟨1, 2, 3, 4, 5, 6, [7], [⟨8, 9⟩], [10]⟩, 11, 12, [13]⟩

theorem teleporterICMMessage_roundTrip_sample :
    Serializable sampleTeleporterICMMessage ∧
      parseTeleporterICMMessage (serializeTeleporterICMMessage sampleTeleporterICMMessage) =
        .ok sampleTeleporterICMMessage :=
  have h : Serializable sampleTeleporterICMMessage :=
    ⟨by decide, by decide, by simp [sampleTeleporterICMMessage, serializeTeleporterMessageV2,
      serializeAddresses_eq, serializeTeleporterReceipts_eq], by decide⟩
  ⟨h, teleporterICMMessage_roundTrip.1 _ h⟩

end TeleporterV2
