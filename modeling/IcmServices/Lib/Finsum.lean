import Mathlib.Algebra.BigOperators.Finprod

/-!
# Totals of finitely supported mappings

A storage mapping is a total function that is nonzero at finitely many keys, and its total is
`∑ᶠ k, f k`. A contract writes one key at a time, so the total moves by a difference at that
key:

* `finsum_update_add`: writing `b` at `a` turns `total + f a` into `total' + b`
  (`finsum_update_add_cancel` for an increment);
* `Finite.update`: a write keeps the support finite, so every reachable state of a contract
  has finitely supported mappings when its initial state has;
* `update_column`: a write to a nested mapping `g a b` seen from one column `fun r ↦ g r c`;
  `le_update_add` and `eq_of_update_add_ne`: an increment of one nested entry.
-/

namespace Mapping

open Function

variable {α β M : Type*} [DecidableEq α]

section
variable [AddCommMonoid M]

theorem support_update_subset (f : α → M) (a : α) (b : M) :
    support (update f a b) ⊆ insert a (support f) := by
  intro x hx
  by_cases h : x = a
  · exact .inl h
  · exact .inr (by simpa [update_of_ne h] using hx)

theorem Finite.update {f : α → M} (hf : (support f).Finite) (a : α) (b : M) :
    (support (Function.update f a b)).Finite :=
  (hf.insert a).subset (support_update_subset f a b)

/-- Writing `b` at `a` replaces `f a` by `b` in the total. -/
theorem finsum_update_add {f : α → M} (hf : (support f).Finite) (a : α) (b : M) :
    (∑ᶠ x, update f a b x) + f a = (∑ᶠ x, f x) + b := by
  classical
  set s := insert a hf.toFinset
  have ha : a ∈ s := Finset.mem_insert_self a _
  have h1 : support f ⊆ s := fun x hx => Finset.mem_insert_of_mem (by simpa using hx)
  have h2 : support (update f a b) ⊆ s := fun x hx => by
    rcases support_update_subset f a b hx with rfl | hx
    · exact ha
    · exact h1 hx
  rw [finsum_eq_sum_of_support_subset _ h1, finsum_eq_sum_of_support_subset _ h2,
    Finset.sum_update_of_mem ha, ← Finset.add_sum_erase s f ha, Finset.sdiff_singleton_eq_erase]
  ac_rfl

end

section
variable [AddCancelCommMonoid M]

/-- Adding `v` at one key adds `v` to the total. -/
theorem finsum_update_add_cancel {f : α → M} (hf : (support f).Finite) (a : α) (v : M) :
    ∑ᶠ x, update f a (f a + v) x = (∑ᶠ x, f x) + v := by
  have h := finsum_update_add hf a (f a + v)
  rw [← add_assoc, add_right_comm] at h
  exact add_right_cancel h

end

/-- A write to the nested mapping `g`, seen from the column `c`. -/
theorem update_column (g : α → β → M) (a : α) (h : β → M) (c : β) :
    (fun r => update g a h r c) = update (fun r => g r c) a (h c) := by
  funext r
  exact apply_update (fun _ x => x c) g a h r

/-! ## Increments of a nested mapping -/

section
variable {β : Type*} [DecidableEq β]

/-- Adding to one entry of a nested mapping raises no entry. -/
theorem le_update_add (g : α → β → ℕ) (a : α) (b : β) (v : ℕ) (r : α) (c : β) :
    g r c ≤ update g a (update (g a) b (g a b + v)) r c := by
  by_cases hr : r = a
  · subst hr
    by_cases hc : c = b
    · subst hc; simp
    · simp [update_of_ne hc]
  · simp [update_of_ne hr]

/-- Adding to one entry of a nested mapping changes no other entry. -/
theorem eq_of_update_add_ne {g : α → β → ℕ} {a : α} {b : β} {v : ℕ} {r : α} {c : β}
    (h : update g a (update (g a) b (g a b + v)) r c ≠ g r c) : r = a ∧ c = b := by
  by_cases hr : r = a
  · subst hr
    by_cases hc : c = b
    · exact ⟨rfl, hc⟩
    · simp [update_of_ne hc] at h
  · simp [update_of_ne hr] at h

end

end Mapping
