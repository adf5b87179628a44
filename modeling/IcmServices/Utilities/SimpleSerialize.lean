import IcmServices.Lib.Solidity
import IcmServices.Lib.Bytes
import IcmServices.Lib.Merkle
import Mathlib.Data.Nat.Pairing

/-!
# `SSZ`: merkleization and Merkle proofs

`SSZ.merkleize` computes the root of `2 ^ d` leaves without recursion: it keeps a stack with a
slot per height, and each leaf is merged up with the pending left siblings while the count of
leaves seen is even, as a binary counter carries. `SSZ.restoreMerkleRoot` climbs from a leaf to
the root along a generalized index, the leaf at position `i` of `2 ^ d` having index `2 ^ d + i`,
taking its siblings from a proof, bottom up.

* `Pending`: the stack after `n` leaves holds, at each height whose digit of `n` is set, the node
  of the complete subtree waiting for its right sibling; `mergeUp_pending` and `pending_set` show
  one leaf keeps it, `foldlM_merkleizeStep` that the loop does;
* `merkleize_eq`: on `2 ^ d` leaves, `merkleize` returns `Merkle.root` of the hash of two nodes;
* `restoreLoop_path`: climbing with the siblings of `Merkle.path` reaches the same root.
-/

namespace SSZ

open Solidity BigEndian

/-- `sha256(bytes.concat(left, right))`, the parent of two nodes. -/
def hashNodes (sha256 : Bytes → Bytes32) (left right : Bytes32) : Bytes32 :=
  sha256 (toBytes 32 left.toNat ++ toBytes 32 right.toNat)

/-- The merge-up loop of `merkleize`: while `size` is even the node is a right child, hashed with
the left child waiting at `stack[level]`. `size` starts at `i + 1`; at 0 the loop would not end. -/
def mergeUp (sha256 : Bytes → Bytes32) (stack : List Bytes32) (node : Bytes32) (level size : ℕ) :
    Except String (Bytes32 × ℕ) :=
  if size % 2 = 0 then
    if h : size = 0 then .error outOfGas
    else do
      let left ← arrayAt stack level
      mergeUp sha256 stack (hashNodes sha256 left node) (level + 1) (size / 2)
  else pure (node, level)
termination_by size
decreasing_by omega

/-- One round of the loop of `merkleize` over the leaves. -/
def merkleizeStep (sha256 : Bytes → Bytes32) (leaves stack : List Bytes32) (i : ℕ) :
    Except String (List Bytes32) := do
  let node ← arrayAt leaves i
  let (node, level) ← mergeUp sha256 stack node 0 (i + 1)
  -- store the pending node, waiting for its right sibling
  arraySet stack level node

/-- `SSZ.merkleize`. -/
def merkleize (sha256 : Bytes → Bytes32) (leaves : List Bytes32) : Except String Bytes32 := do
  let count := leaves.length
  require (count > 0) "Leaves must be non-empty"
  require (count &&& (count - 1) = 0) "Leaves must be power of 2"
  -- `Math.log2(count, Math.Rounding.Floor)`
  let depth := Nat.log2 count
  let stack ← (List.range count).foldlM (merkleizeStep sha256 leaves) (List.replicate (depth + 1) 0)
  arrayAt stack depth

/-- The loop of `restoreMerkleRoot`: until the index reaches the root, the value is hashed with
`proof[i]` on the side the index's parity gives; `proof[i]` past the end reverts. -/
def restoreLoop (sha256 : Bytes → Bytes32) (proof : List Bytes32) (value : Bytes32) (index i : ℕ) :
    Except String Bytes32 :=
  if index ≠ 1 then
    if h : i < proof.length then
      -- an odd index is a right child, with its sibling on the left
      let value := if index % 2 = 1 then hashNodes sha256 proof[i] value
        else hashNodes sha256 value proof[i]
      restoreLoop sha256 proof value (index / 2) (i + 1)
    else .error indexPanic
  else pure value
termination_by proof.length - i

/-- `SSZ.restoreMerkleRoot`. -/
def restoreMerkleRoot (sha256 : Bytes → Bytes32) (leaf : Bytes32) (index : ℕ)
    (proof : List Bytes32) : Except String Bytes32 :=
  restoreLoop sha256 proof leaf index 0

/-- `SSZ.isValidMerkleProof`. -/
def isValidMerkleProof (sha256 : Bytes → Bytes32) (leaf : Bytes32) (index : ℕ)
    (proof : List Bytes32) (root : Bytes32) : Except String Bool := do
  let restored ← restoreMerkleRoot sha256 leaf index proof
  pure (restored == root)

/-! ## `merkleize` builds the balanced tree -/

section Merkleize

variable {sha256 : Bytes → Bytes32} {leaves : List Bytes32} {d : ℕ}

/-- The stack after the first `n` leaves: at every height `ℓ` whose digit of `n` is set, the root
of the complete subtree of `2 ^ ℓ` leaves that waits for its right sibling. -/
structure Pending (sha256 : Bytes → Bytes32) (leaves : List Bytes32) (d n : ℕ)
    (stack : List Bytes32) : Prop where
  length : stack.length = d + 1
  pending : ∀ ℓ ≤ d, n / 2 ^ ℓ % 2 = 1 →
    stack[ℓ]? = some (Merkle.node (hashNodes sha256) ℓ (n / 2 ^ ℓ - 1) leaves)

theorem pending_zero : Pending sha256 leaves d 0 (List.replicate (d + 1) 0) where
  length := List.length_replicate ..
  pending ℓ _ h := by simp at h

/-- The merge-up loop of the leaf after the first `n`, at height `level` with `n + 1 =
2 ^ level * q`: it hashes the node with the pending left siblings up to the lowest set digit of
`n + 1`, and returns the node there. -/
theorem mergeUp_pending {n : ℕ} {stack : List Bytes32} (hP : Pending sha256 leaves d n stack)
    (hn : n < 2 ^ d) : ∀ (q level : ℕ), n + 1 = 2 ^ level * q → 0 < q →
      ∃ level' q', n + 1 = 2 ^ level' * q' ∧ q' % 2 = 1 ∧
        mergeUp sha256 stack (Merkle.node (hashNodes sha256) level (q - 1) leaves) level q =
          .ok (Merkle.node (hashNodes sha256) level' (q' - 1) leaves, level') := by
  intro q
  induction q using Nat.strong_induction_on with
  | _ q ih =>
    intro level hq hq0
    rw [mergeUp]
    by_cases heven : q % 2 = 0
    swap
    · exact ⟨level, q, hq, by omega, by rw [if_neg heven]; rfl⟩
    rw [if_pos heven, dif_neg (by omega)]
    -- the node is a right child: its left sibling waits at `level`, below the top
    have hlevel : level < d := by
      have h2 : 2 ^ (level + 1) ≤ 2 ^ d := by
        rw [Nat.pow_succ]
        have : 2 ^ level * 2 ≤ 2 ^ level * q := Nat.mul_le_mul_left _ (by omega)
        omega
      exact (Nat.pow_le_pow_iff_right (by norm_num)).mp h2
    have hdigit := Merkle.div_two_pow_of_succ_eq hq hq0
    have hleft := hP.pending level hlevel.le (by omega)
    rw [hdigit] at hleft
    have hparent : hashNodes sha256 (Merkle.node (hashNodes sha256) level (q - 1 - 1) leaves)
        (Merkle.node (hashNodes sha256) level (q - 1) leaves) =
        Merkle.node (hashNodes sha256) (level + 1) (q / 2 - 1) leaves := by
      rw [Merkle.node_succ, show 2 * (q / 2 - 1) = q - 1 - 1 by omega,
        show q - 1 - 1 + 1 = q - 1 by omega]
    rw [arrayAt_eq_ok.mpr hleft, ok_bind, hparent]
    exact ih (q / 2) (by omega) (level + 1)
      (by rw [hq, Nat.pow_succ, Nat.mul_assoc, Nat.mul_div_cancel' (Nat.dvd_of_mod_eq_zero heven)])
      (by omega)

/-- Storing the merged node at the lowest set digit of `n + 1` gives the stack of `n + 1`
leaves: below it the digits of `n + 1` are zero, above it they are those of `n`. -/
theorem pending_set {n level q : ℕ} {stack : List Bytes32} (hP : Pending sha256 leaves d n stack)
    (hq : n + 1 = 2 ^ level * q) (hodd : q % 2 = 1) (hlevel : level ≤ d) :
    Pending sha256 leaves d (n + 1)
      (stack.set level (Merkle.node (hashNodes sha256) level (q - 1) leaves)) where
  length := by rw [List.length_set, hP.length]
  pending ℓ hℓ hdigit := by
    rcases lt_trichotomy ℓ level with hlt | rfl | hgt
    · rw [Merkle.succ_div_two_pow_mod_two_of_lt hq hlt] at hdigit
      omega
    · rw [List.getElem?_set_self (by rw [hP.length]; omega), hq,
        Nat.mul_div_cancel_left _ (Nat.two_pow_pos ℓ)]
    · rw [List.getElem?_set_ne (by omega), Merkle.succ_div_two_pow_of_lt hq hodd hgt]
      rw [Merkle.succ_div_two_pow_of_lt hq hodd hgt] at hdigit
      exact hP.pending ℓ hℓ hdigit

theorem merkleizeStep_pending (hlen : leaves.length = 2 ^ d) {n : ℕ} {stack : List Bytes32}
    (hP : Pending sha256 leaves d n stack) (hn : n < 2 ^ d) :
    ∃ stack', merkleizeStep sha256 leaves stack n = .ok stack' ∧
      Pending sha256 leaves d (n + 1) stack' := by
  have hleaf : arrayAt leaves n = .ok (Merkle.node (hashNodes sha256) 0 (n + 1 - 1) leaves) := by
    rw [Nat.add_sub_cancel, Merkle.node_zero _ (by omega), arrayAt_eq_ok]
    exact List.getElem?_eq_getElem (by omega)
  obtain ⟨level, q, hq, hodd, hm⟩ :=
    mergeUp_pending hP hn (n + 1) 0 (by rw [pow_zero, Nat.one_mul]) (by omega)
  -- the node lands at a height of the stack
  have hlevel : level ≤ d := by
    have : 2 ^ level ≤ 2 ^ d := by
      have : 2 ^ level * 1 ≤ 2 ^ level * q := Nat.mul_le_mul_left _ (by omega)
      omega
    exact (Nat.pow_le_pow_iff_right (by norm_num)).mp this
  refine ⟨_, ?_, pending_set hP hq hodd hlevel⟩
  simp only [merkleizeStep, hleaf, ok_bind, hm]
  exact arraySet_eq_ok.mpr ⟨by rw [hP.length]; omega, rfl⟩

/-- The first `n` rounds of the loop leave a pending stack. -/
theorem foldlM_merkleizeStep (hlen : leaves.length = 2 ^ d) :
    ∀ n ≤ 2 ^ d, ∃ stack, (List.range n).foldlM (merkleizeStep sha256 leaves)
      (List.replicate (d + 1) 0) = .ok stack ∧ Pending sha256 leaves d n stack
  | 0, _ => ⟨_, rfl, pending_zero⟩
  | n + 1, hn => by
    obtain ⟨stack, hrun, hP⟩ := foldlM_merkleizeStep hlen n (by omega)
    obtain ⟨stack', hstep, hP'⟩ := merkleizeStep_pending hlen hP (by omega)
    refine ⟨stack', ?_, hP'⟩
    rw [List.range_succ, List.foldlM_append, hrun, ok_bind, List.foldlM_cons, hstep, ok_bind]
    rfl

/-- On `2 ^ d` leaves, `merkleize` returns the root of the balanced tree. -/
theorem merkleize_eq (hlen : leaves.length = 2 ^ d) :
    merkleize sha256 leaves = .ok (Merkle.root (hashNodes sha256) d leaves) := by
  obtain ⟨stack, hrun, hP⟩ := @foldlM_merkleizeStep sha256 leaves d hlen _ le_rfl
  have hpow : 2 ^ d &&& (2 ^ d - 1) = 0 := by
    rw [Nat.and_two_pow_sub_one_eq_mod, Nat.mod_self]
  -- after `2 ^ d` leaves only the top digit is set, and the top of the stack is the root
  have htop := hP.pending d le_rfl (by rw [Nat.div_self (Nat.two_pow_pos d)])
  rw [Nat.div_self (Nat.two_pow_pos d), Nat.sub_self, Merkle.node_zero_left] at htop
  simp only [merkleize, hlen, require, if_pos (Nat.two_pow_pos d), if_pos hpow, Nat.log2_two_pow,
    ok_bind, hrun]
  exact arrayAt_eq_ok.mpr htop

end Merkleize

/-! ## `restoreMerkleRoot` climbs to the same root -/

section Restore

variable {sha256 : Bytes → Bytes32} {leaves : List Bytes32} {d : ℕ}

/-- After `ℓ` steps from leaf `i` the value is the node above it at height `ℓ`, and the index is
that node's generalized index `2 ^ k + i / 2 ^ ℓ`, `k` steps below the root. -/
theorem restoreLoop_path {i : ℕ} (hi : i < 2 ^ d) :
    ∀ k ℓ, ℓ + k = d →
      restoreLoop sha256 (Merkle.path (hashNodes sha256) d leaves i)
          (Merkle.node (hashNodes sha256) ℓ (i / 2 ^ ℓ) leaves) (2 ^ k + i / 2 ^ ℓ) ℓ =
        .ok (Merkle.root (hashNodes sha256) d leaves)
  | 0, ℓ, hk => by
    -- at the root: the index is 1
    have hℓ : ℓ = d := by omega
    subst hℓ
    rw [restoreLoop, Nat.div_eq_of_lt hi, Merkle.node_zero_left]
    rfl
  | k + 1, ℓ, hk => by
    have hlt : ℓ < (Merkle.path (hashNodes sha256) d leaves i).length := by
      rw [Merkle.length_path]; omega
    have hsib : ∀ h : ℓ < (Merkle.path (hashNodes sha256) d leaves i).length,
        (Merkle.path (hashNodes sha256) d leaves i)[ℓ] =
          Merkle.sibling (hashNodes sha256) ℓ (i / 2 ^ ℓ) leaves := by
      simp [Merkle.path]
    have ih := restoreLoop_path hi k (ℓ + 1) (by omega)
    rw [Nat.pow_succ, ← Nat.div_div_eq_div_mul] at ih
    rw [restoreLoop, dif_pos hlt, hsib]
    -- one step up from the node at position `j`: the index is odd exactly for a right child
    generalize i / 2 ^ ℓ = j at ih ⊢
    have hpow : 2 ^ (k + 1) = 2 * 2 ^ k := Nat.pow_succ'
    have hpos : 0 < 2 ^ k := Nat.two_pow_pos k
    rw [if_pos (show 2 ^ (k + 1) + j ≠ 1 by omega), show (2 ^ (k + 1) + j) % 2 = j % 2 by omega,
      Merkle.node_parent, show (2 ^ (k + 1) + j) / 2 = 2 ^ k + j / 2 by omega]
    exact ih

theorem restoreMerkleRoot_path (hlen : leaves.length = 2 ^ d) {i : ℕ} (hi : i < 2 ^ d) :
    restoreMerkleRoot sha256 leaves[i] (2 ^ d + i) (Merkle.path (hashNodes sha256) d leaves i) =
      .ok (Merkle.root (hashNodes sha256) d leaves) := by
  have h := @restoreLoop_path sha256 leaves d i hi d 0 (Nat.zero_add d)
  rwa [pow_zero, Nat.div_one, Merkle.node_zero _ (by omega)] at h

end Restore

/-! ## Merkleization and proofs agree with the balanced tree -/

/-- On `2 ^ d` leaves, `merkleize` returns the root of the balanced tree (a leaf is its own root,
and two halves hash their roots), and the proof of
each leaf, its siblings from the leaf level up, restores that root and is accepted. -/
theorem merkleize_restoreMerkleRoot (sha256 : Bytes → Bytes32) (d : ℕ) (leaves : List Bytes32)
    (hlen : leaves.length = 2 ^ d) :
    merkleize sha256 leaves = .ok (Merkle.root (hashNodes sha256) d leaves) ∧
      ∀ (i : ℕ) (hi : i < 2 ^ d),
        restoreMerkleRoot sha256 leaves[i] (2 ^ d + i) (Merkle.path (hashNodes sha256) d leaves i) =
            merkleize sha256 leaves ∧
          isValidMerkleProof sha256 leaves[i] (2 ^ d + i)
            (Merkle.path (hashNodes sha256) d leaves i) (Merkle.root (hashNodes sha256) d leaves) =
            .ok true := by
  refine ⟨merkleize_eq hlen, fun i hi => ?_⟩
  have hroot := @restoreMerkleRoot_path sha256 leaves d hlen i hi
  refine ⟨by rw [hroot, merkleize_eq hlen], ?_⟩
  rw [isValidMerkleProof, hroot, ok_bind, beq_self_eq_true]
  rfl

/-- A hash for the samples: the two 32-byte halves of its input paired by `Nat.pair`, which
keeps distinct pairs of nodes below `2 ^ 127` apart. -/
def pairSha256 (b : Bytes) : Bytes32 :=
  BitVec.ofNat 256 (Nat.pair (ofBytes (b.take 32)) (ofBytes (b.drop 32)))

set_option maxRecDepth 20000 in
/-- Four leaves, two levels: the inner nodes are `Nat.pair 1 2 = 5` and `Nat.pair 3 4 = 19`, the
root `Nat.pair 5 19 = 366`, and the proof of the first leaf is its sibling `2` and the right
inner node `19`. -/
theorem merkleize_restoreMerkleRoot_four :
    ([1, 2, 3, 4] : List Bytes32).length = 2 ^ 2 ∧
      Merkle.root (hashNodes pairSha256) 2 [1, 2, 3, 4] = 366 ∧
      Merkle.path (hashNodes pairSha256) 2 [1, 2, 3, 4] 0 = [2, 19] ∧
      merkleize pairSha256 [1, 2, 3, 4] = .ok (Merkle.root (hashNodes pairSha256) 2 [1, 2, 3, 4]) ∧
      ∀ (i : ℕ) (hi : i < 2 ^ 2),
        restoreMerkleRoot pairSha256 ([1, 2, 3, 4] : List Bytes32)[i] (2 ^ 2 + i)
            (Merkle.path (hashNodes pairSha256) 2 [1, 2, 3, 4] i) =
            merkleize pairSha256 [1, 2, 3, 4] ∧
          isValidMerkleProof pairSha256 ([1, 2, 3, 4] : List Bytes32)[i] (2 ^ 2 + i)
            (Merkle.path (hashNodes pairSha256) 2 [1, 2, 3, 4] i)
            (Merkle.root (hashNodes pairSha256) 2 [1, 2, 3, 4]) = .ok true :=
  ⟨rfl, rfl, rfl, merkleize_restoreMerkleRoot pairSha256 2 [1, 2, 3, 4] rfl⟩

end SSZ
