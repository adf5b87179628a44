import Mathlib.Data.List.Basic

/-!
# Periods of a sequence of events

Events come one after another, and some of them open a new period (`opens`); the others fall into
the period open at the time. `IsPeriod opens os r window` says that `r :: window` is a period of
`os` or the start of one: `r` opens it, and no event of `window` opens another. `IsCurrent` is
the period at the end of `os`, the one a tracker still counts.

A tracker that checks every event against the current period bounds every period of the sequence:
`isPeriod_snoc` splits the periods of `os ++ [x]` into those of `os` and the current one, and
`isCurrent_snoc` says what the current period becomes. `IsCurrent.unique`: there is one.
-/

namespace Periods

variable {α : Type} (opens : α → Bool)

/-- `r :: window` is a period of `os`, or the start of one. -/
def IsPeriod (os : List α) (r : α) (window : List α) : Prop :=
  opens r = true ∧ (∀ x ∈ window, opens x = false) ∧ ∃ pre post, os = pre ++ r :: window ++ post

/-- `r :: window` is the period at the end of `os`. -/
def IsCurrent (os : List α) (r : α) (window : List α) : Prop :=
  opens r = true ∧ (∀ x ∈ window, opens x = false) ∧ ∃ pre, os = pre ++ r :: window

variable {opens} {os : List α} {r x : α} {window : List α}

theorem IsCurrent.isPeriod (h : IsCurrent opens os r window) : IsPeriod opens os r window := by
  obtain ⟨hr, hw, pre, rfl⟩ := h
  exact ⟨hr, hw, pre, [], by simp⟩

/-- The current period is the one the last opening event started. -/
theorem IsCurrent.unique {r' : α} {window' : List α} (h : IsCurrent opens os r window)
    (h' : IsCurrent opens os r' window') : r = r' ∧ window = window' := by
  obtain ⟨hr, hw, pre, rfl⟩ := h
  obtain ⟨hr', hw', pre', he⟩ := h'
  rcases List.append_eq_append_iff.1 he with ⟨as, -, has⟩ | ⟨bs, -, hbs⟩
  · -- `r'` comes at or after `r`; strictly after, it would be an opening event of `window`
    cases as with
    | nil => simpa using has
    | cons a as =>
      obtain ⟨-, rfl⟩ := List.cons.inj has
      have := hw r' (by simp)
      simp [hr'] at this
  · cases bs with
    | nil => simpa [eq_comm] using hbs
    | cons b bs =>
      obtain ⟨-, rfl⟩ := List.cons.inj hbs
      have := hw' r (by simp)
      simp [hr] at this

theorem isCurrent_snoc_of_opens (hx : opens x = true) : IsCurrent opens (os ++ [x]) x [] :=
  ⟨hx, by simp, os, rfl⟩

/-- An event that opens nothing joins the current period. -/
theorem IsCurrent.snoc (h : IsCurrent opens os r window) (hx : opens x = false) :
    IsCurrent opens (os ++ [x]) r (window ++ [x]) := by
  obtain ⟨hr, hw, pre, rfl⟩ := h
  refine ⟨hr, fun y hy => ?_, pre, by simp⟩
  rcases List.mem_append.1 hy with hy | hy
  · exact hw y hy
  · rw [List.mem_singleton.1 hy]
    exact hx

theorem isCurrent_snoc {r' : α} {window' : List α} :
    IsCurrent opens (os ++ [x]) r' window' ↔
      (opens x = true ∧ r' = x ∧ window' = []) ∨
        (opens x = false ∧ ∃ w, window' = w ++ [x] ∧ IsCurrent opens os r' w) := by
  constructor
  · rintro ⟨hr', hw', pre, he⟩
    -- the last event of the period is `x`: either it is the opening one, or it ends the window
    rcases List.eq_nil_or_concat' window' with rfl | ⟨w, y, rfl⟩
    · have he' : os ++ [x] = pre ++ [r'] := by simpa using he
      obtain ⟨-, hx⟩ := List.append_inj' he' rfl
      obtain rfl := List.singleton_inj.1 hx
      exact .inl ⟨hr', rfl, rfl⟩
    · have he' : os ++ [x] = (pre ++ r' :: w) ++ [y] := by simpa using he
      obtain ⟨rfl, hx⟩ := List.append_inj' he' rfl
      obtain rfl := List.singleton_inj.1 hx
      exact .inr ⟨hw' x (by simp), w, rfl, hr', fun z hz => hw' z (by simp [hz]), pre, rfl⟩
  · rintro (⟨hx, rfl, rfl⟩ | ⟨hx, w, rfl, h⟩)
    · exact isCurrent_snoc_of_opens hx
    · exact h.snoc hx

theorem IsPeriod.snoc (h : IsPeriod opens os r window) (x : α) :
    IsPeriod opens (os ++ [x]) r window := by
  obtain ⟨hr, hw, pre, post, rfl⟩ := h
  exact ⟨hr, hw, pre, post ++ [x], by simp⟩

/-- A period of `os ++ [x]` is one of `os`, or the current one. -/
theorem isPeriod_snoc :
    IsPeriod opens (os ++ [x]) r window ↔
      IsPeriod opens os r window ∨ IsCurrent opens (os ++ [x]) r window := by
  constructor
  · rintro ⟨hr, hw, pre, post, he⟩
    rcases List.eq_nil_or_concat' post with rfl | ⟨p, y, rfl⟩
    · exact .inr ⟨hr, hw, pre, by simpa using he⟩
    · have he' : os ++ [x] = (pre ++ r :: window ++ p) ++ [y] := by simpa using he
      obtain ⟨rfl, -⟩ := List.append_inj' he' rfl
      exact .inl ⟨hr, hw, pre, p, rfl⟩
  · rintro (h | h)
    · exact h.snoc x
    · exact h.isPeriod

end Periods
