import Mathlib.Data.List.Basic
import Mathlib.Order.Basic

/-!
# Words of memory in a byte string

Inline assembly moves `bytes` around a word at a time: `mload(add(b, 0x20 + k))` is the 32 bytes
of the data of `b` from offset `k`, and `mstore(add(b, 0x20 + k), w)` overwrites 32 bytes from
there. `mloadWord` and `mstoreWord` are these on the data of one `bytes` value; what a store
writes past the end of the data lands in memory after it, which is not part of the value.

* `length_mstoreWord`: a store keeps the length of the value;
* `getElem?_mloadWord`, `getElem?_mstoreWord`: the byte at `j` after a store is the word's where the store covers `j`,
  and the old byte elsewhere, so that overlapping stores are followed byte by byte;
* `mstoreWord_append_zeros`, `mstoreWord_append_replicate`: a word that is a field and zeros,
  stored over zeros right after the bytes written so far, appends the field; the zeros it writes
  past the field are overwritten by the next store or fall past the end of the value.
-/

namespace Memory

variable {α : Type}

/-- `mload` of the word at `offset` of the data. Every load of the model lies inside it. -/
def mloadWord (data : List α) (offset : ℕ) : List α := (data.drop offset).take 32

/-- `mstore` of `word` at `offset` of the data: the bytes it covers inside the data are replaced,
and those past the end fall outside the value. -/
def mstoreWord (data : List α) (offset : ℕ) (word : List α) : List α :=
  data.take offset ++ word.take (data.length - offset) ++ data.drop (offset + 32)

theorem getElem?_mloadWord (data : List α) (offset i : ℕ) :
    (mloadWord data offset)[i]? = if i < 32 then data[offset + i]? else none := by
  unfold mloadWord
  split
  · rw [List.getElem?_take_of_lt ‹_›, List.getElem?_drop]
  · rw [List.getElem?_take_eq_none (by omega)]

theorem length_mloadWord {data : List α} {offset : ℕ} (h : offset + 32 ≤ data.length) :
    (mloadWord data offset).length = 32 := by
  simp [mloadWord]
  omega

@[simp] theorem length_mstoreWord {data word : List α} {offset : ℕ} (hw : word.length = 32) :
    (mstoreWord data offset word).length = data.length := by
  simp [mstoreWord, hw]
  omega

theorem getElem?_mstoreWord {data word : List α} {offset : ℕ} (hw : word.length = 32) (j : ℕ) :
    (mstoreWord data offset word)[j]? =
      if offset ≤ j ∧ j < offset + 32 ∧ j < data.length then word[j - offset]? else data[j]? := by
  by_cases h₀ : j < data.length
  swap
  · rw [if_neg (by omega), List.getElem?_eq_none (by simp [hw]; omega),
      List.getElem?_eq_none (by omega)]
  unfold mstoreWord
  -- the three parts: before the word, the word cut at the end of the data, after the word
  have hlen : (data.take offset).length = min offset data.length := List.length_take
  by_cases h₁ : j < offset
  · rw [if_neg (by omega), List.append_assoc, List.getElem?_append_left (by omega),
      List.getElem?_take_of_lt h₁]
  by_cases h₂ : j < offset + 32
  · rw [if_pos (by omega), List.append_assoc, List.getElem?_append_right (by omega), hlen,
      List.getElem?_append_left (by simp [hw]; omega), List.getElem?_take_of_lt (by omega),
      show j - min offset data.length = j - offset by omega]
  · have hlen' : (data.take offset ++ word.take (data.length - offset)).length = offset + 32 := by
      simp [hw]
      omega
    rw [if_neg (by omega), List.getElem?_append_right (by omega), hlen', List.getElem?_drop,
      show offset + 32 + (j - (offset + 32)) = j by omega]

/-- Two stores 16 bytes apart copy a 48-byte field word by word, the second word overlapping the
first. -/
theorem getElem?_mstoreWord_pair {data src : List α} {o₁ o₂ s₁ s₂ : ℕ} (ho : o₂ = o₁ + 16)
    (hs : s₂ = s₁ + 16) (hsrc : s₁ + 48 ≤ src.length) (j : ℕ) :
    (mstoreWord (mstoreWord data o₁ (mloadWord src s₁)) o₂ (mloadWord src s₂))[j]? =
      if o₁ ≤ j ∧ j < o₁ + 48 ∧ j < data.length then src[s₁ + (j - o₁)]? else data[j]? := by
  subst ho hs
  have hw₁ : (mloadWord src s₁).length = 32 := length_mloadWord (by omega)
  have hw₂ : (mloadWord src (s₁ + 16)).length = 32 := length_mloadWord (by omega)
  rw [getElem?_mstoreWord hw₂, getElem?_mstoreWord hw₁, length_mstoreWord hw₁, getElem?_mloadWord,
    getElem?_mloadWord]
  split_ifs <;> first | rfl | omega | (congr 1; omega)

/-- A store right after the bytes written so far replaces what follows, cut at the end. -/
theorem mstoreWord_append (pre rest word : List α) :
    mstoreWord (pre ++ rest) pre.length word = pre ++ word.take rest.length ++ rest.drop 32 := by
  unfold mstoreWord
  rw [List.take_left' rfl, List.length_append, Nat.add_sub_cancel_left, List.drop_append,
    List.drop_eq_nil_of_le (by omega), List.nil_append, Nat.add_sub_cancel_left]

/-- A store of a field followed by `k` zeros, over zeros that follow what is written so far: the
field is appended if its zeros fill the word or the value ends within the word. -/
theorem mstoreWord_append_zeros [Zero α] (pre field : List α) (k m : ℕ)
    (hm : field.length ≤ m) (hk : field.length + k ≤ 32)
    (hend : field.length + k = 32 ∨ m ≤ field.length + k) :
    mstoreWord (pre ++ List.replicate m 0) pre.length (field ++ List.replicate k 0) =
      pre ++ field ++ List.replicate (m - field.length) 0 := by
  rw [mstoreWord_append, List.length_replicate, List.take_append, List.take_of_length_le hm,
    List.take_replicate, List.drop_replicate, List.append_assoc, List.append_assoc,
    List.replicate_append_replicate]
  -- the zeros of the word and the zeros it leaves make up the zeros after the field
  rw [show min (m - field.length) k + (m - 32) = m - field.length by omega, List.append_assoc]

/-- A store of a field padded with zeros, over zeros that follow what is written so far. -/
theorem mstoreWord_append_replicate [Zero α] (pre field : List α) (m : ℕ)
    (hf : field.length ≤ 32) (hm : field.length ≤ m) :
    mstoreWord (pre ++ List.replicate m 0) pre.length
        (field ++ List.replicate (32 - field.length) 0) =
      pre ++ field ++ List.replicate (m - field.length) 0 :=
  mstoreWord_append_zeros pre field _ m hm (by omega) (.inl (by omega))

/-- A whole word stored over zeros right after the bytes written so far is appended. -/
theorem mstoreWord_append_word [Zero α] (pre word : List α) (m : ℕ) (hw : word.length = 32)
    (hm : 32 ≤ m) :
    mstoreWord (pre ++ List.replicate m 0) pre.length word =
      pre ++ word ++ List.replicate (m - 32) 0 := by
  have h := mstoreWord_append_replicate pre word m (by omega) (by omega)
  rwa [hw, Nat.sub_self, List.replicate_zero, List.append_nil] at h

end Memory
