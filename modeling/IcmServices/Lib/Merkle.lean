import Mathlib.Data.List.Basic
import Mathlib.Algebra.Order.Group.Nat
import Mathlib.Tactic.Ring
import Mathlib.Tactic.NormNum

/-!
# Balanced Merkle trees

The root of `2 ^ d` leaves under a hash of two nodes: a single leaf is its own root, and the
root of `2 ^ (d + 1)` leaves hashes the roots of the two halves. `node d j` is
the root of the `j`-th block of `2 ^ d` leaves, the node at height `d` and position `j`; a
node is the hash of its two children (`node_succ`), and of a node and its `sibling` in their
order (`node_parent`). `path d leaves i` is the list of siblings from leaf `i` up, which is what
a proof of the leaf carries.

An algorithm that builds the root leaf by leaf keeps a pending node at every height whose bit of
the count of leaves seen is set, as a binary counter keeps its digits. The carry arithmetic it
rests on, for a count `n + 1 = 2 ^ level * q` with `q` odd: below `level` the digits of `n + 1`
are zero (`succ_div_two_pow_mod_two_of_lt`), above it they are those of `n`
(`succ_div_two_pow_of_lt`), and `n / 2 ^ level = q - 1` (`div_two_pow_of_succ_eq`).
-/

namespace Merkle

variable {α : Type} [Inhabited α] (hash : α → α → α)

/-- The root of the balanced tree over the first `2 ^ d` leaves. -/
def root : ℕ → List α → α
  | 0, leaves => leaves.headD default
  | d + 1, leaves => hash (root d (leaves.take (2 ^ d))) (root d (leaves.drop (2 ^ d)))

/-- The node at height `d` and position `j`: the root of the `j`-th block of `2 ^ d` leaves. -/
def node (d j : ℕ) (leaves : List α) : α :=
  root hash d ((leaves.drop (j * 2 ^ d)).take (2 ^ d))

/-- The other child of the parent of node `j` at height `d`. -/
def sibling (d j : ℕ) (leaves : List α) : α :=
  node hash d (if j % 2 = 0 then j + 1 else j - 1) leaves

/-- The siblings on the way from leaf `i` to the root of `2 ^ d` leaves, from the leaf level up. -/
def path (d : ℕ) (leaves : List α) (i : ℕ) : List α :=
  (List.range d).map fun ℓ => sibling hash ℓ (i / 2 ^ ℓ) leaves

@[simp] theorem length_path (d : ℕ) (leaves : List α) (i : ℕ) :
    (path hash d leaves i).length = d := by
  simp [path]

/-- The halves of the first `2 ^ (d + 1)` leaves are the first two blocks of `2 ^ d`. -/
theorem root_succ_take (d : ℕ) (leaves : List α) :
    root hash (d + 1) (leaves.take (2 ^ (d + 1))) =
      hash (root hash d (leaves.take (2 ^ d))) (root hash d ((leaves.drop (2 ^ d)).take (2 ^ d))) := by
  have hle : 2 ^ d ≤ 2 ^ (d + 1) := Nat.pow_le_pow_right (by norm_num) (Nat.le_succ d)
  have hsub : 2 ^ (d + 1) - 2 ^ d = 2 ^ d := by rw [Nat.pow_succ]; omega
  rw [root, List.take_take, Nat.min_eq_left hle, List.drop_take, hsub]

theorem root_take : ∀ (d : ℕ) (leaves : List α), root hash d (leaves.take (2 ^ d)) = root hash d leaves
  | 0, leaves => by cases leaves <;> rfl
  | d + 1, leaves => by
    rw [root_succ_take, root, root_take d (leaves.drop (2 ^ d))]

theorem node_zero_left (d : ℕ) (leaves : List α) : node hash d 0 leaves = root hash d leaves := by
  rw [node, Nat.zero_mul, List.drop_zero, root_take]

theorem node_zero {j : ℕ} {leaves : List α} (h : j < leaves.length) :
    node hash 0 j leaves = leaves[j] := by
  rw [node, pow_zero, Nat.mul_one, List.drop_eq_getElem_cons h]
  rfl

/-- A node hashes its two children. -/
theorem node_succ (d j : ℕ) (leaves : List α) :
    node hash (d + 1) j leaves = hash (node hash d (2 * j) leaves) (node hash d (2 * j + 1) leaves) := by
  rw [node, root_succ_take, List.drop_drop, node, node]
  -- the two halves of block `j` are blocks `2 * j` and `2 * j + 1` one level down
  rw [show j * 2 ^ (d + 1) = 2 * j * 2 ^ d by rw [Nat.pow_succ]; ring,
    show 2 * j * 2 ^ d + 2 ^ d = (2 * j + 1) * 2 ^ d by ring]

/-- One step up a path: node `j` and its sibling, in their order, hash to their parent. -/
theorem node_parent (d j : ℕ) (leaves : List α) :
    (if j % 2 = 1 then hash (sibling hash d j leaves) (node hash d j leaves)
      else hash (node hash d j leaves) (sibling hash d j leaves)) =
      node hash (d + 1) (j / 2) leaves := by
  rw [node_succ, sibling]
  by_cases hj : j % 2 = 1
  · rw [if_pos hj, if_neg (by omega), show 2 * (j / 2) = j - 1 by omega,
      show j - 1 + 1 = j by omega]
  · rw [if_neg hj, if_pos (by omega), show 2 * (j / 2) = j by omega]

/-! ## Carries of a binary counter -/

/-- Below the lowest set digit of `n + 1`, `n` has ones: `n / 2 ^ level` is `q - 1`. -/
theorem div_two_pow_of_succ_eq {n level q : ℕ} (h : n + 1 = 2 ^ level * q) (hq : 0 < q) :
    n / 2 ^ level = q - 1 := by
  have hpos : 0 < 2 ^ level := Nat.two_pow_pos level
  have hsplit : 2 ^ level * q = 2 ^ level * (q - 1) + 2 ^ level := by
    rw [← Nat.mul_succ, Nat.succ_eq_add_one, Nat.sub_add_cancel hq]
  apply Nat.div_eq_of_lt_le
  · rw [Nat.mul_comm]; omega
  · rw [Nat.sub_add_cancel hq, Nat.mul_comm]; omega

/-- The digits of `n + 1 = 2 ^ level * q` below `level` are zero. -/
theorem succ_div_two_pow_mod_two_of_lt {n level q ℓ : ℕ} (h : n + 1 = 2 ^ level * q)
    (hℓ : ℓ < level) : (n + 1) / 2 ^ ℓ % 2 = 0 := by
  have hsplit : 2 ^ level = 2 ^ ℓ * (2 * 2 ^ (level - ℓ - 1)) := by
    rw [← Nat.pow_succ', ← Nat.pow_add]
    congr 1
    omega
  rw [h, hsplit, Nat.mul_assoc, Nat.mul_div_cancel_left _ (Nat.two_pow_pos ℓ), Nat.mul_assoc,
    Nat.mul_mod_right]

/-- Above the lowest set digit of `n + 1`, the digits of `n + 1` are those of `n`. -/
theorem succ_div_two_pow_of_lt {n level q ℓ : ℕ} (h : n + 1 = 2 ^ level * q) (hq : q % 2 = 1)
    (hℓ : level < ℓ) : (n + 1) / 2 ^ ℓ = n / 2 ^ ℓ := by
  rw [Nat.succ_div, if_neg, Nat.add_zero]
  -- `2 ^ ℓ` would leave an even factor in the odd `q`
  rintro ⟨c, hc⟩
  have hsplit : 2 ^ ℓ = 2 ^ level * (2 * 2 ^ (ℓ - level - 1)) := by
    rw [← Nat.pow_succ', ← Nat.pow_add]
    congr 1
    omega
  rw [h, hsplit, Nat.mul_assoc, Nat.mul_assoc] at hc
  have := Nat.eq_of_mul_eq_mul_left (Nat.two_pow_pos level) hc
  omega

end Merkle
