import IcmServices.SignatureAggregator.Aggregator
import Mathlib.Algebra.BigOperators.Group.Finset.Basic

/-!
# The connected weight of a canonical validator set

`buildCanonicalValidators` maps each node to the index of its validator and sums, with
`calculateConnectedWeight`, the weight of the validators with a connected node. The loop walks the
connected nodes in the set's order and counts a validator the first time one of its nodes comes,
telling validators apart by the hex encoding of their BLS key; the encoding is one to one, so the
model keeps the keys themselves. The sum is a `uint64`, so it wraps at `2 ^ 64`.

`calculateConnectedWeight_eq`: when the validators' keys are distinct and their nodes disjoint,
as in the canonical set the P-Chain gives, the result is the weight of the validators with a
connected node, in any order of the nodes.
-/

namespace Peers

open SignatureAggregator

variable {N K : Type} [DecidableEq N] [DecidableEq K]

/-- The loop of `calculateConnectedWeight` over the connected nodes, with the keys counted so far
and the weight; `none` where `validatorSet[nodeValidatorIndexMap[node]]` is out of range. -/
def connectedWeightLoop (validatorSet : List (Warp N K)) (nodeValidatorIndexMap : N → ℕ) :
    List N → Finset K → ℕ → Option ℕ
  | [], _, connectedWeight => some connectedWeight
  | node :: nodes, connectedBLSPubKeys, connectedWeight =>
    match validatorSet[nodeValidatorIndexMap node]? with
    | none => none
    | some vdr =>
      if vdr.publicKeyBytes ∈ connectedBLSPubKeys then
        connectedWeightLoop validatorSet nodeValidatorIndexMap nodes connectedBLSPubKeys
          connectedWeight
      else
        connectedWeightLoop validatorSet nodeValidatorIndexMap nodes
          (insert vdr.publicKeyBytes connectedBLSPubKeys) ((connectedWeight + vdr.weight) % 2 ^ 64)

/-- `calculateConnectedWeight`, walking the connected nodes in the order `connectedNodes`. -/
def calculateConnectedWeight (validatorSet : List (Warp N K)) (nodeValidatorIndexMap : N → ℕ)
    (connectedNodes : List N) : Option ℕ :=
  connectedWeightLoop validatorSet nodeValidatorIndexMap connectedNodes ∅ 0

/-! ## Each validator is counted once -/

/-- The validators with a node among `nodes` whose key is not among `counted`: what the loop has
still to add. -/
def pendingValidators (validators : List (Warp N K)) (nodes : List N) (counted : Finset K) :
    Finset (Warp N K) :=
  validators.toFinset.filter fun v => (∃ n ∈ nodes, n ∈ v.nodeIDs) ∧ v.publicKeyBytes ∉ counted

section
variable {validators : List (Warp N K)}
  (hkeys : validators.Pairwise fun a b => a.publicKeyBytes ≠ b.publicKeyBytes)
  (hnodes : validators.Pairwise fun a b => a.nodeIDs.Disjoint b.nodeIDs)

section
include hnodes

omit [DecidableEq K] in
theorem getElem?_nodeIndexLoop {v : Warp N K} {n : N} (hv : v ∈ validators) (hn : n ∈ v.nodeIDs) :
    validators[nodeIndexLoop validators 0 (fun _ => 0) n]? = some v := by
  obtain ⟨j, hj⟩ := List.mem_iff_getElem?.mp hv
  rw [nodeIndexLoop_of_mem hnodes hj hn, Nat.zero_add, hj]

omit [DecidableEq K] in
theorem eq_of_mem_nodeIDs {u v : Warp N K} {n : N} (hu : u ∈ validators) (hv : v ∈ validators)
    (hnu : n ∈ u.nodeIDs) (hnv : n ∈ v.nodeIDs) : u = v := by
  have h := (getElem?_nodeIndexLoop hnodes hu hnu).symm.trans (getElem?_nodeIndexLoop hnodes hv hnv)
  exact Option.some.inj h

theorem pendingValidators_cons_of_mem {v : Warp N K} {n : N} {nodes : List N} {counted : Finset K}
    (hv : v ∈ validators) (hn : n ∈ v.nodeIDs) (hkey : v.publicKeyBytes ∈ counted) :
    pendingValidators validators (n :: nodes) counted = pendingValidators validators nodes counted := by
  refine Finset.filter_congr fun u hu => ⟨fun ⟨⟨m, hm, hmu⟩, hku⟩ => ⟨⟨m, ?_, hmu⟩, hku⟩,
    fun ⟨⟨m, hm, hmu⟩, hku⟩ => ⟨⟨m, List.mem_cons_of_mem _ hm, hmu⟩, hku⟩⟩
  rcases List.mem_cons.mp hm with rfl | hm
  · -- the node is `v`'s, and `v`'s key is counted
    rw [eq_of_mem_nodeIDs hnodes (List.mem_toFinset.mp hu) hv hmu hn] at hku
    exact absurd hkey hku
  · exact hm

end

include hkeys hnodes

theorem pendingValidators_cons_of_notMem {v : Warp N K} {n : N} {nodes : List N}
    {counted : Finset K} (hv : v ∈ validators) (hn : n ∈ v.nodeIDs)
    (hkey : v.publicKeyBytes ∉ counted) :
    pendingValidators validators (n :: nodes) counted =
      insert v (pendingValidators validators nodes (insert v.publicKeyBytes counted)) := by
  ext u
  simp only [pendingValidators, Finset.mem_insert, Finset.mem_filter, List.mem_toFinset,
    List.mem_cons]
  by_cases huv : u = v
  · subst huv
    simp [hv, hkey]
    exact .inl hn
  · -- another validator has another key, and not the node `n`
    have hne : u ∈ validators → u.publicKeyBytes ≠ v.publicKeyBytes := fun hu he =>
      huv (List.inj_on_of_nodup_map (List.pairwise_map.mpr hkeys) hu hv he)
    have hnu : u ∈ validators → n ∉ u.nodeIDs := fun hu hnu =>
      huv (eq_of_mem_nodeIDs hnodes hu hv hnu hn)
    constructor
    · rintro ⟨hu, ⟨m, rfl | hm, hmu⟩, hku⟩
      · exact absurd hmu (hnu hu)
      · exact .inr ⟨hu, ⟨m, hm, hmu⟩, by simp [hne hu, hku]⟩
    · rintro (rfl | ⟨hu, ⟨m, hm, hmu⟩, hku⟩)
      · exact absurd rfl huv
      · exact ⟨hu, ⟨m, .inr hm, hmu⟩, fun h => hku (.inr h)⟩

omit hkeys hnodes in
theorem notMem_pendingValidators_insert {v : Warp N K} {nodes : List N} {counted : Finset K} :
    v ∉ pendingValidators validators nodes (insert v.publicKeyBytes counted) := by
  simp [pendingValidators]

/-- The loop lemma: from the weight `w` and the keys `counted`, the loop adds the weight of the
validators with a node to come whose key is not counted yet. -/
theorem connectedWeightLoop_eq :
    ∀ (nodes : List N) (counted : Finset K) (w : ℕ), (∀ n ∈ nodes, ∃ v ∈ validators, n ∈ v.nodeIDs) →
      connectedWeightLoop validators (nodeIndexLoop validators 0 fun _ => 0) nodes counted (w % 2 ^ 64) =
        some ((w + (pendingValidators validators nodes counted).sum Warp.weight) % 2 ^ 64)
  | [], counted, w, _ => by simp [connectedWeightLoop, pendingValidators]
  | n :: nodes, counted, w, hdom => by
    obtain ⟨v, hv, hn⟩ := hdom n List.mem_cons_self
    have hrest : ∀ m ∈ nodes, ∃ v ∈ validators, m ∈ v.nodeIDs :=
      fun m hm => hdom m (List.mem_cons_of_mem _ hm)
    rw [connectedWeightLoop, getElem?_nodeIndexLoop hnodes hv hn]
    dsimp only
    by_cases hkey : v.publicKeyBytes ∈ counted
    · rw [if_pos hkey, pendingValidators_cons_of_mem hnodes hv hn hkey]
      exact connectedWeightLoop_eq nodes counted w hrest
    · rw [if_neg hkey, pendingValidators_cons_of_notMem hkeys hnodes hv hn hkey,
        Finset.sum_insert notMem_pendingValidators_insert, Nat.mod_add_mod,
        connectedWeightLoop_eq nodes _ (w + v.weight) hrest, Nat.add_assoc]

end

/-- With distinct keys and disjoint nodes, `calculateConnectedWeight` over the map that
`buildCanonicalValidators` builds returns the weight of the validators with a connected node,
modulo `2 ^ 64`, whatever the order of the connected nodes and however many of a validator's
nodes are among them. -/
theorem calculateConnectedWeight_eq (validators : List (Warp N K)) (totalWeight : ℕ)
    (peers : Finset N) (hkeys : validators.Pairwise fun a b => a.publicKeyBytes ≠ b.publicKeyBytes)
    (hnodes : validators.Pairwise fun a b => a.nodeIDs.Disjoint b.nodeIDs) (connectedNodes : List N)
    (hdom : ∀ n ∈ connectedNodes, ∃ v ∈ validators, n ∈ v.nodeIDs) :
    calculateConnectedWeight validators
        (buildCanonicalValidators validators totalWeight peers).nodeValidatorIndexMap connectedNodes =
      some ((validators.toFinset.filter fun v => ∃ n ∈ connectedNodes, n ∈ v.nodeIDs).sum Warp.weight %
        2 ^ 64) := by
  have h := connectedWeightLoop_eq hkeys hnodes connectedNodes ∅ 0 hdom
  rw [Nat.zero_mod, Nat.zero_add] at h
  rw [calculateConnectedWeight]
  -- the map of `buildCanonicalValidators` is `nodeIndexLoop` from index 0
  change connectedWeightLoop validators (nodeIndexLoop validators 0 fun _ => 0) connectedNodes ∅ 0 = _
  rw [h]
  simp [pendingValidators]

/-- Validator 1 has nodes 0 and 1 and validator 2 node 2; all three connected, in the order 1, 0,
2: the weight is 5 + 7. -/
theorem calculateConnectedWeight_eq_allConnected :
    [(⟨1, 5, [0, 1]⟩ : Warp ℕ ℕ), ⟨2, 7, [2]⟩].Pairwise
        (fun a b => a.publicKeyBytes ≠ b.publicKeyBytes) ∧
      [(⟨1, 5, [0, 1]⟩ : Warp ℕ ℕ), ⟨2, 7, [2]⟩].Pairwise (fun a b => a.nodeIDs.Disjoint b.nodeIDs) ∧
      (∀ n ∈ [(1 : ℕ), 0, 2], ∃ v ∈ [(⟨1, 5, [0, 1]⟩ : Warp ℕ ℕ), ⟨2, 7, [2]⟩], n ∈ v.nodeIDs) ∧
      calculateConnectedWeight [⟨1, 5, [0, 1]⟩, ⟨2, 7, [2]⟩]
          (buildCanonicalValidators [(⟨1, 5, [0, 1]⟩ : Warp ℕ ℕ), ⟨2, 7, [2]⟩] 12
            {0, 1, 2}).nodeValidatorIndexMap [1, 0, 2] =
        some (([(⟨1, 5, [0, 1]⟩ : Warp ℕ ℕ), ⟨2, 7, [2]⟩].toFinset.filter
          fun v => ∃ n ∈ [(1 : ℕ), 0, 2], n ∈ v.nodeIDs).sum Warp.weight % 2 ^ 64) :=
  have hkeys : [(⟨1, 5, [0, 1]⟩ : Warp ℕ ℕ), ⟨2, 7, [2]⟩].Pairwise
      (fun a b => a.publicKeyBytes ≠ b.publicKeyBytes) := by decide
  have hnodes : [(⟨1, 5, [0, 1]⟩ : Warp ℕ ℕ), ⟨2, 7, [2]⟩].Pairwise
      (fun a b => a.nodeIDs.Disjoint b.nodeIDs) := by simp [List.Disjoint]
  have hdom : ∀ n ∈ [(1 : ℕ), 0, 2], ∃ v ∈ [(⟨1, 5, [0, 1]⟩ : Warp ℕ ℕ), ⟨2, 7, [2]⟩],
      n ∈ v.nodeIDs := by decide
  ⟨hkeys, hnodes, hdom, calculateConnectedWeight_eq _ 12 {0, 1, 2} hkeys hnodes _ hdom⟩

end Peers
