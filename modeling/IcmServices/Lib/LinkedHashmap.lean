import Mathlib.Data.List.Basic

/-!
# Insertion-ordered maps

avalanchego's `linked.Hashmap`, outside the repository, keeps a map's entries in the order of their
last `Put`, oldest first. Its operations are a parameter (`Ops`), with the keys of a map from oldest
to newest as its abstract state, and `Ops.Laws` states what its users rely on: the keys are
distinct, `Put` moves its key to the newest end, `Delete` removes its key, `Oldest` is the entry at
the front and `Len` counts the keys.

From the laws follow which keys a `put` or a `delete` leaves, how the length changes, and that the
oldest entry is one of the map's. `ListMap` is a map kept as its list of entries, which meets the
laws (`listOps_laws`).
-/

namespace LinkedHashmap

/-- The operations of `linked.Hashmap[K, V]` on maps of type `M`, and the keys of a map from
oldest to newest. -/
structure Ops (K V M : Type) where
  /-- `NewHashmap`. -/
  empty : M
  /-- `Put`. -/
  put : M → K → V → M
  /-- `Delete`. -/
  delete : M → K → M
  /-- `Oldest`. -/
  oldest : M → Option (K × V)
  /-- `Len`. -/
  len : M → ℕ
  keys : M → List K

variable {K V M : Type} [DecidableEq K]

/-- What `linked.Hashmap` does to the keys. -/
structure Ops.Laws (o : Ops K V M) : Prop where
  nodup_keys : ∀ m, (o.keys m).Nodup
  keys_empty : o.keys o.empty = []
  keys_put : ∀ m k v, o.keys (o.put m k v) = (o.keys m).erase k ++ [k]
  keys_delete : ∀ m k, o.keys (o.delete m k) = (o.keys m).erase k
  oldest_key : ∀ m, (o.oldest m).map Prod.fst = (o.keys m).head?
  len_eq : ∀ m, o.len m = (o.keys m).length

namespace Ops.Laws

variable {o : Ops K V M} (ho : o.Laws) {m : M} {k k' : K}
include ho

theorem mem_keys_put (v : V) : k' ∈ o.keys (o.put m k v) ↔ k' = k ∨ k' ∈ o.keys m := by
  rw [ho.keys_put, List.mem_append, (ho.nodup_keys m).mem_erase_iff, List.mem_singleton]
  by_cases hk : k' = k <;> simp [hk]

theorem mem_keys_delete : k' ∈ o.keys (o.delete m k) ↔ k' ∈ o.keys m ∧ k' ≠ k := by
  rw [ho.keys_delete, (ho.nodup_keys m).mem_erase_iff, and_comm]

theorem len_delete_of_mem (hk : k ∈ o.keys m) : o.len (o.delete m k) + 1 = o.len m := by
  rw [ho.len_eq, ho.len_eq, ho.keys_delete, List.length_erase_of_mem hk]
  have := List.length_pos_of_mem hk
  omega

/-- A `put` of a new key lengthens the map by one; of a key it holds, keeps its length. -/
theorem len_put (v : V) :
    o.len (o.put m k v) = if k ∈ o.keys m then o.len m else o.len m + 1 := by
  rw [ho.len_eq, ho.len_eq, ho.keys_put, List.length_append, List.length_singleton]
  split
  · rename_i hk
    rw [List.length_erase_of_mem hk]
    have := List.length_pos_of_mem hk
    omega
  · rename_i hk
    rw [List.erase_of_not_mem hk]

theorem oldest_mem {v : V} (h : o.oldest m = some (k, v)) : k ∈ o.keys m := by
  have hk := ho.oldest_key m
  rw [h, Option.map_some] at hk
  exact List.mem_of_mem_head? hk.symm

theorem oldest_isSome (h : 0 < o.len m) : (o.oldest m).isSome := by
  rw [ho.len_eq] at h
  have hk := ho.oldest_key m
  cases hm : o.oldest m with
  | some e => rfl
  | none =>
    rw [hm, Option.map_none] at hk
    exact absurd (List.head?_eq_none_iff.mp hk.symm) (List.ne_nil_of_length_pos h)

end Ops.Laws

/-! ## A map kept as its list of entries -/

/-- A map with its entries from oldest to newest, no key twice. -/
structure ListMap (K V : Type) where
  entries : List (K × V)
  nodup : (entries.map Prod.fst).Nodup

namespace ListMap

theorem nodup_keys_filter (m : ListMap K V) (k : K) :
    ((m.entries.filter fun e => e.1 ≠ k).map Prod.fst).Nodup :=
  (List.filter_sublist.map Prod.fst).nodup m.nodup

/-- `Delete`. -/
def delete (m : ListMap K V) (k : K) : ListMap K V :=
  ⟨m.entries.filter fun e => e.1 ≠ k, nodup_keys_filter m k⟩

/-- `Put`: the key goes to the newest end, with its value. -/
def put (m : ListMap K V) (k : K) (v : V) : ListMap K V :=
  ⟨(m.entries.filter fun e => e.1 ≠ k) ++ [(k, v)], by
    rw [List.map_append, List.nodup_append]
    refine ⟨nodup_keys_filter m k, by simp, ?_⟩
    intro a ha b hb
    obtain ⟨e, he, rfl⟩ := List.mem_map.mp ha
    rw [List.map_singleton, List.mem_singleton] at hb
    subst hb
    simpa using (List.mem_filter.mp he).2⟩

theorem map_fst_filter_ne (m : ListMap K V) (k : K) :
    (m.entries.filter fun e => e.1 ≠ k).map Prod.fst = (m.entries.map Prod.fst).erase k := by
  rw [m.nodup.erase_eq_filter, List.filter_map]
  congr 1
  refine List.filter_congr fun e _ => ?_
  by_cases hk : e.1 = k <;> simp [hk]

end ListMap

/-- The list map as `linked.Hashmap`. -/
def listOps : Ops K V (ListMap K V) where
  empty := ⟨[], List.nodup_nil⟩
  put := ListMap.put
  delete := ListMap.delete
  oldest m := m.entries.head?
  len m := m.entries.length
  keys m := m.entries.map Prod.fst

theorem listOps_laws : (listOps : Ops K V (ListMap K V)).Laws where
  nodup_keys m := m.nodup
  keys_empty := rfl
  keys_put m k v := by
    simp only [listOps, ListMap.put, List.map_append, List.map_singleton]
    rw [ListMap.map_fst_filter_ne]
  keys_delete m k := ListMap.map_fst_filter_ne m k
  oldest_key m := by
    simp only [listOps]
    cases m.entries <;> rfl
  len_eq m := (List.length_map _).symm

end LinkedHashmap
