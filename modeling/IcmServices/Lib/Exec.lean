import Mathlib.Data.List.Basic

/-!
# Runs of a contract

A contract is a step function `step : σ → ι → Except ε (σ × List ω)`: a call `c` in state `s`
reverts, or gives the new state and what the call emitted (its events and external calls). A
reverted call changes nothing, so a run keeps its successful calls only:
`Exec step s tr t` says that from `s` the calls of `tr` succeed one after the other, with the
logs recorded in `tr`, and end in `t`.

* `Exec.inv`: a property kept by every successful call holds along every run (the induction rule
  for state invariants); `Exec.rel` is its form for a relation between the first and the last
  state.
* `log tr`: everything the run emitted, in order; `log_snoc` is its step equation, used by the
  invariants that relate a state to what was emitted so far.
* `Observed step obs s tr os t`: the run with what an observer sees of each call, `obs t c` from
  the state `t` the call `c` is made in; for what the code does inside a call and does not emit.
  `Observed.inv` is its induction rule.
-/

namespace Contract

variable {σ ι ω ε ν : Type} (step : σ → ι → Except ε (σ × List ω))

/-- The successful runs of `step` (see the module doc). -/
inductive Exec : σ → List (ι × List ω) → σ → Prop
  | nil (s : σ) : Exec s [] s
  | snoc {s t u : σ} {tr : List (ι × List ω)} {c : ι} {out : List ω} :
      Exec s tr t → step t c = .ok (u, out) → Exec s (tr ++ [(c, out)]) u

/-- A run together with what `obs` sees of each of its calls. -/
inductive Observed (obs : σ → ι → List ν) : σ → List (ι × List ω) → List ν → σ → Prop
  | nil (s : σ) : Observed obs s [] [] s
  | snoc {s t u : σ} {tr : List (ι × List ω)} {os : List ν} {c : ι} {out : List ω} :
      Observed obs s tr os t → step t c = .ok (u, out) →
      Observed obs s (tr ++ [(c, out)]) (os ++ obs t c) u

/-- `s` can be reached from `s₀`. -/
def Reachable (s₀ s : σ) : Prop := ∃ tr, Exec step s₀ tr s

/-- Everything a run emitted, in order. -/
def log (tr : List (ι × List ω)) : List ω := tr.flatMap Prod.snd

@[simp] theorem log_nil : log ([] : List (ι × List ω)) = [] := rfl

@[simp] theorem log_snoc (tr : List (ι × List ω)) (c : ι) (out : List ω) :
    log (tr ++ [(c, out)]) = log tr ++ out := by
  simp [log]

variable {step}

/-- The induction rule for state invariants. -/
theorem Exec.inv {P : σ → Prop} (hstep : ∀ t c u out, P t → step t c = .ok (u, out) → P u)
    {s t : σ} {tr : List (ι × List ω)} (h : Exec step s tr t) (hs : P s) : P t := by
  induction h with
  | nil => exact hs
  | snoc _ hc ih => exact hstep _ _ _ _ ih hc

/-- The induction rule for what a run does from its first state to its last: a reflexive and
transitive relation that every successful call from a state with the invariant `P` satisfies. -/
theorem Exec.rel {P : σ → Prop} {R : σ → σ → Prop}
    (hinv : ∀ t c u out, P t → step t c = .ok (u, out) → P u)
    (hstep : ∀ t c u out, P t → step t c = .ok (u, out) → R t u)
    (hrefl : ∀ s, R s s) (htrans : ∀ a b c, R a b → R b c → R a c)
    {s t : σ} {tr : List (ι × List ω)} (h : Exec step s tr t) (hs : P s) : R s t := by
  induction h with
  | nil => exact hrefl _
  | snoc he hc ih => exact htrans _ _ _ ih (hstep _ _ _ _ (he.inv hinv hs) hc)

/-- The induction rule for an invariant of a state and what was observed up to it. -/
theorem Observed.inv {obs : σ → ι → List ν} {P : σ → List ν → Prop}
    (hstep : ∀ t c u out os, P t os → step t c = .ok (u, out) → P u (os ++ obs t c))
    {s t : σ} {tr : List (ι × List ω)} {os : List ν} (h : Observed step obs s tr os t)
    (hs : P s []) : P t os := by
  induction h with
  | nil => exact hs
  | snoc _ hc ih => exact hstep _ _ _ _ _ ih hc

theorem Exec.single {s u : σ} {c : ι} {out : List ω} (h : step s c = .ok (u, out)) :
    Exec step s [(c, out)] u := by
  simpa using Exec.snoc (Exec.nil s) h

/-- A call followed by a run is a run; the form in which a run on known calls is built, each call's
result fixing the state the next starts from. -/
theorem Exec.cons {s t u : σ} {c : ι} {out : List ω} {tr : List (ι × List ω)}
    (hc : step s c = .ok (t, out)) (h : Exec step t tr u) : Exec step s ((c, out) :: tr) u := by
  induction h with
  | nil => exact Exec.single hc
  | snoc _ hc' ih => exact ih.snoc hc'

theorem Reachable.refl (s : σ) : Reachable step s s := ⟨[], .nil s⟩

theorem Reachable.snoc {s₀ t u : σ} {c : ι} {out : List ω} (h : Reachable step s₀ t)
    (hc : step t c = .ok (u, out)) : Reachable step s₀ u :=
  let ⟨_, he⟩ := h
  ⟨_, he.snoc hc⟩

end Contract
