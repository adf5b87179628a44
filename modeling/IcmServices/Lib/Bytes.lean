import Mathlib.Data.List.Basic
import Mathlib.Data.List.Induction
import Mathlib.Algebra.Order.Group.Nat
import Mathlib.Tactic.Ring

/-!
# Big-endian byte strings

A fixed-width unsigned integer is packed as its bytes, most significant first. `toBytes w n` is
the `w`-byte encoding of `n`, taken modulo `256 ^ w` as a cast to the type takes it, and
`ofBytes` reads a byte string back as a number.

* `ofBytes_toBytes`: the round trip, so values below `256 ^ w` have distinct encodings
  (`toBytes_inj`);
* `length_toBytes`: every encoding has its width, which is what lets a concatenation of
  fixed-width fields be split again (`List.append_inj`);
* `flatMap_inj`: records of one fixed length, each determined by its bytes, concatenate
  injectively;
* `ofBytes_append`, `ofBytes_lt`, `toBytes_ofBytes`: reading concatenations, and a byte string
  as the encoding of what it spells; `toBytes_shiftLeft`, `toBytes_add_of_lt`: the zero bytes
  of a word that holds a shorter value at its top or at its bottom;
* `ofNat_ofBytes_toBytes`, `toBytes_ofNat_ofBytes`: the same round trips for a bit vector
  exactly as wide as its bytes.
-/

namespace BigEndian

/-- `n` as `w` bytes, most significant first. -/
def toBytes : ℕ → ℕ → List UInt8
  | 0, _ => []
  | w + 1, n => toBytes w (n / 256) ++ [UInt8.ofNat (n % 256)]

/-- The number a byte string spells, most significant byte first. -/
def ofBytes (bs : List UInt8) : ℕ := bs.foldl (fun acc b => acc * 256 + b.toNat) 0

@[simp] theorem length_toBytes (w n : ℕ) : (toBytes w n).length = w := by
  induction w generalizing n with
  | zero => rfl
  | succ w ih => simp [toBytes, ih]

theorem toBytes_ne_nil (w n : ℕ) : toBytes (w + 1) n ≠ [] :=
  List.ne_nil_of_length_pos (by simp)

theorem ofBytes_append_singleton (bs : List UInt8) (b : UInt8) :
    ofBytes (bs ++ [b]) = ofBytes bs * 256 + b.toNat := by
  simp [ofBytes, List.foldl_append]

/-- Reading on from a number already read: the bytes so far move up by the bytes that follow. -/
theorem foldl_ofBytes (acc : ℕ) (bs : List UInt8) :
    bs.foldl (fun acc b => acc * 256 + b.toNat) acc = acc * 256 ^ bs.length + ofBytes bs := by
  induction bs generalizing acc with
  | nil => simp [ofBytes]
  | cons b bs ih =>
    -- `ofBytes (b :: bs)` is the fold started from the first byte
    have hb : ofBytes (b :: bs) = (0 * 256 + b.toNat) * 256 ^ bs.length + ofBytes bs := ih _
    rw [List.foldl_cons, ih, hb, List.length_cons, pow_succ]
    ring

theorem ofBytes_append (as bs : List UInt8) :
    ofBytes (as ++ bs) = ofBytes as * 256 ^ bs.length + ofBytes bs := by
  rw [ofBytes, List.foldl_append, foldl_ofBytes]
  rfl

@[simp] theorem ofBytes_replicate_zero (n : ℕ) : ofBytes (List.replicate n 0) = 0 := by
  induction n with
  | zero => rfl
  | succ n ih =>
    rw [List.replicate_succ', ofBytes_append_singleton, ih]
    rfl

theorem ofBytes_lt (bs : List UInt8) : ofBytes bs < 256 ^ bs.length := by
  induction bs using List.reverseRecOn with
  | nil => simp [ofBytes]
  | append_singleton bs b ih =>
    have hb := b.toNat_lt
    rw [ofBytes_append_singleton, List.length_append, List.length_singleton, pow_succ]
    change ofBytes bs * 256 + b.toNat < 256 ^ bs.length * 256
    omega

/-- A byte string is the encoding, at its own length, of the number it spells. -/
theorem toBytes_ofBytes (bs : List UInt8) : toBytes bs.length (ofBytes bs) = bs := by
  induction bs using List.reverseRecOn with
  | nil => rfl
  | append_singleton bs b ih =>
    have hb := b.toNat_lt
    have hdiv : (ofBytes bs * 256 + b.toNat) / 256 = ofBytes bs := by omega
    have hmod : UInt8.ofNat ((ofBytes bs * 256 + b.toNat) % 256) = b := by
      rw [Nat.mul_add_mod_self_right, Nat.mod_eq_of_lt hb]
      exact UInt8.ofNat_toNat
    rw [List.length_append, List.length_singleton, ofBytes_append_singleton, toBytes, hdiv, hmod,
      ih]

theorem ofBytes_one_cons (bs : List UInt8) : ofBytes (1 :: bs) = 256 ^ bs.length + ofBytes bs := by
  have h1 : ofBytes [1] = 1 := rfl
  rw [← List.singleton_append, ofBytes_append, h1, one_mul]

/-- A leading `1` byte makes the number a byte string spells determine the string, its length
included. -/
theorem ofBytes_one_cons_injective :
    Function.Injective fun bs : List UInt8 => ofBytes (1 :: bs) := by
  -- a shorter string spells less than `256 ^ (length + 1)`, a longer one at least that
  have hlt {a b : List UInt8} (hl : a.length < b.length) :
      ofBytes (1 :: a) < ofBytes (1 :: b) := by
    have hp : 256 ^ a.length * 256 ≤ 256 ^ b.length := by
      rw [← pow_succ]
      exact Nat.pow_le_pow_right (by norm_num) hl
    have := ofBytes_lt a
    rw [ofBytes_one_cons, ofBytes_one_cons]
    omega
  intro a b h
  have hlen : a.length = b.length := by
    rcases Nat.lt_trichotomy a.length b.length with hl | hl | hl
    · exact absurd h (hlt hl).ne
    · exact hl
    · exact absurd h (hlt hl).ne'
  have hval : ofBytes a = ofBytes b := by
    have h' : ofBytes (1 :: a) = ofBytes (1 :: b) := h
    rw [ofBytes_one_cons, ofBytes_one_cons, hlen] at h'
    omega
  rw [← toBytes_ofBytes a, ← toBytes_ofBytes b, hlen, hval]

theorem ofBytes_toBytes (w n : ℕ) : ofBytes (toBytes w n) = n % 256 ^ w := by
  induction w generalizing n with
  | zero => simp [toBytes, ofBytes, Nat.mod_one]
  | succ w ih =>
    have byte : (UInt8.ofNat (n % 256)).toNat = n % 256 := by simp
    rw [toBytes, ofBytes_append_singleton, ih, byte]
    -- the high part of `n` above its low byte
    rw [Nat.pow_succ, Nat.mul_comm (256 ^ w) 256, Nat.mod_mul]
    omega

/-- A number shifted up by `b` bytes is its `a` low bytes followed by `b` zero bytes: the top
bytes of a word that `shl` filled. -/
theorem toBytes_shiftLeft (a b n : ℕ) :
    toBytes (a + b) (n <<< (8 * b)) = toBytes a n ++ List.replicate b 0 := by
  induction b with
  | zero => simp
  | succ b ih =>
    have hshift : n <<< (8 * (b + 1)) = n <<< (8 * b) * 256 := by
      rw [Nat.shiftLeft_eq, Nat.shiftLeft_eq, Nat.mul_add, pow_add, Nat.mul_assoc]
      rfl
    rw [← Nat.add_assoc, toBytes, hshift, Nat.mul_div_cancel _ (by norm_num), Nat.mul_mod_left, ih,
      List.replicate_succ', List.append_assoc]
    rfl

theorem toBytes_inj {w m n : ℕ} (hm : m < 256 ^ w) (hn : n < 256 ^ w)
    (h : toBytes w m = toBytes w n) : m = n := by
  have := congrArg ofBytes h
  rwa [ofBytes_toBytes, ofBytes_toBytes, Nat.mod_eq_of_lt hm, Nat.mod_eq_of_lt hn] at this

theorem toBytes_toNat_inj {n w : ℕ} (hw : 2 ^ n ≤ 256 ^ w) {x y : BitVec n}
    (h : toBytes w x.toNat = toBytes w y.toNat) : x = y :=
  BitVec.eq_of_toNat_eq (toBytes_inj (lt_of_lt_of_le x.isLt hw) (lt_of_lt_of_le y.isLt hw) h)

/-- Dropping the first `i` of records of one length `k` from their concatenation. -/
theorem drop_flatMap {α β : Type} {f : α → List β} {k : ℕ} (hk : ∀ x, (f x).length = k) :
    ∀ (xs : List α) (i : ℕ), (xs.flatMap f).drop (k * i) = (xs.drop i).flatMap f
  | [], i => by simp
  | x :: xs, 0 => by simp
  | x :: xs, i + 1 => by
    rw [List.flatMap_cons, Nat.mul_succ, Nat.add_comm, ← List.drop_drop,
      List.drop_left' (hk x), drop_flatMap hk xs i, List.drop_succ_cons]

/-- Records of one length `k > 0` concatenate injectively if each is determined by its bytes. -/
theorem flatMap_inj {α β : Type} {f : α → List β} {k : ℕ} (hk : 0 < k) :
    ∀ {xs ys : List α}, (∀ x ∈ xs, (f x).length = k) → (∀ y ∈ ys, (f y).length = k) →
      (∀ x ∈ xs, ∀ y ∈ ys, f x = f y → x = y) → xs.flatMap f = ys.flatMap f → xs = ys
  | [], [], _, _, _, _ => rfl
  | [], y :: ys, _, hy, _, h => by
    have := congrArg List.length h
    simp only [List.flatMap_nil, List.flatMap_cons, List.length_append, List.length_nil,
      hy y List.mem_cons_self] at this
    omega
  | x :: xs, [], hx, _, _, h => by
    have := congrArg List.length h
    simp only [List.flatMap_nil, List.flatMap_cons, List.length_append, List.length_nil,
      hx x List.mem_cons_self] at this
    omega
  | x :: xs, y :: ys, hx, hy, hf, h => by
    simp only [List.flatMap_cons] at h
    have hl : (f x).length = (f y).length := by
      rw [hx x List.mem_cons_self, hy y List.mem_cons_self]
    obtain ⟨h₁, h₂⟩ := List.append_inj h hl
    have hxy := hf x List.mem_cons_self y List.mem_cons_self h₁
    have hrest := flatMap_inj hk (fun x' h' => hx x' (.tail _ h')) (fun y' h' => hy y' (.tail _ h'))
      (fun x' hx' y' hy' => hf x' (.tail _ hx') y' (.tail _ hy')) h₂
    rw [hxy, hrest]

/-- A number below `256 ^ b` packed into `a + b` bytes: `a` zero bytes, then its `b` bytes, as an
address sits in the low bytes of a word. -/
theorem toBytes_add_of_lt (a b : ℕ) {n : ℕ} (h : n < 256 ^ b) :
    toBytes (a + b) n = List.replicate a 0 ++ toBytes b n := by
  have hval : ofBytes (List.replicate a 0 ++ toBytes b n) = n := by
    rw [ofBytes_append, ofBytes_replicate_zero, Nat.zero_mul, Nat.zero_add, ofBytes_toBytes,
      Nat.mod_eq_of_lt h]
  have hlen : (List.replicate a 0 ++ toBytes b n).length = a + b := by simp
  rw [← toBytes_ofBytes (List.replicate a 0 ++ toBytes b n), hval, hlen]

/-- A bit vector of exactly `w` bytes reads back from its encoding. -/
theorem ofNat_ofBytes_toBytes {n w : ℕ} (hw : 2 ^ n = 256 ^ w) (x : BitVec n) :
    BitVec.ofNat n (ofBytes (toBytes w x.toNat)) = x := by
  rw [ofBytes_toBytes, ← hw, Nat.mod_eq_of_lt x.isLt]
  simp

/-- `w` bytes read as a bit vector of exactly `w` bytes encode back to themselves. -/
theorem toBytes_ofNat_ofBytes {n w : ℕ} {bs : List UInt8} (hl : bs.length = w)
    (hw : 2 ^ n = 256 ^ w) : toBytes w (BitVec.ofNat n (ofBytes bs)).toNat = bs := by
  subst hl
  rw [BitVec.toNat_ofNat, Nat.mod_eq_of_lt (hw ▸ ofBytes_lt bs), toBytes_ofBytes]

end BigEndian
