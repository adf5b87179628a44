import Mathlib.Data.List.Basic

/-!
# Looking a key up in a list of pairs

`List.lookup` returns the value of the first pair with the key. A list of pairs models a map
built by assignments, read newest first; these are the facts its proofs use: a key that no pair
has, a pair of another key in front, and one more pair at the end.
-/

namespace Lookup

variable {K V : Type} [DecidableEq K]

theorem eq_none_iff_not_mem {l : List (K × V)} {k : K} :
    l.lookup k = none ↔ k ∉ l.map Prod.fst := by
  rw [List.lookup_eq_none_iff]
  simp only [bne_iff_ne, ne_eq, List.mem_map, not_exists, not_and]
  exact ⟨fun h p hp hk => h p hp hk.symm, fun h p hp hk => h p hp hk.symm⟩

theorem isSome_iff_mem {l : List (K × V)} {k : K} :
    (l.lookup k).isSome ↔ k ∈ l.map Prod.fst := by
  rw [← not_iff_not, Option.not_isSome_iff_eq_none, eq_none_iff_not_mem]

theorem cons_of_ne {l : List (K × V)} {k key : K} {val : V} (hk : k ≠ key) :
    ((key, val) :: l).lookup k = l.lookup k := by
  have hbeq : (k == key) = false := by simpa using hk
  rw [List.lookup_cons, hbeq]

/-- Looking up in a list with one more pair, of a key the list does not have. -/
theorem snoc {l : List (K × V)} {k key : K} {val : V} (hkey : key ∉ l.map Prod.fst) :
    (l ++ [(key, val)]).lookup k = if k = key then some val else l.lookup k := by
  rw [List.lookup_append]
  by_cases hk : k = key
  · subst hk
    rw [eq_none_iff_not_mem.mpr hkey, if_pos rfl]
    simp
  · rw [if_neg hk]
    cases l.lookup k <;> simp [hk]

end Lookup
