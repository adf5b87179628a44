import Mathlib.Data.Int.GCD
import IcmServices.Cache.FifoCache

/-!
# The validator manager's synced P-Chain height

`ValidatorManager.GetAllValidatorSets` answers from the FIFO cache of validator sets by P-Chain
height and, on a miss, fetches from the P-Chain, refusing heights more than `maxPChainLookback`
below `latestSyncedPChainHeight`. After a successful call it raises `latestSyncedPChainHeight` to
the height with a compare-and-swap loop, since calls run on many goroutines. A prefetching
goroutine (`cacheMostRecentValidatorSets`) walks the heights from the synced one up to the
P-Chain's latest; on its first round it sets the synced height, when it reads zero, to one below
the latest with a plain `Store`.

* The goroutines' updates of the synced height (`SyncedHeight`): each goroutine is at one atomic
  operation, and any of them may run next. Once the synced height is nonzero, no update is lost:
  it never decreases, every goroutine that has left its loop sees its height at most the synced
  one, and the synced height is the starting one or the height of such a goroutine
  (`syncedHeight_no_lost_update`). The first round's `Store` is the one step that can lower it,
  when a compare-and-swap of another goroutine lands between its `Load` and its `Store`
  (`syncedHeight_lowered_only_by_store`). One goroutine alone raises it to the maximum
  (`run_load_alone`), which is what the sequential model below does.
* One prefetch round (`cacheMostRecentValidatorSets`) against a P-Chain that answers every
  height fetches the heights above the synced one, in order, as the FIFO cache's `Get` does on
  its insertion log, and ends synced at the P-Chain's latest height
  (`cacheMostRecentValidatorSets_fetches_in_order`).
-/

namespace Peers

open Function Cache

/-- `latestPChainHeight - 1` on `uint64`. -/
def pred64 (n : ℕ) : ℕ := (n + (2 ^ 64 - 1)) % 2 ^ 64

/-! ## The goroutines' updates of the synced height -/

/-- Where a goroutine is in its updates of `latestSyncedPChainHeight`: in the loop of
`GetAllValidatorSets` for a height it fetched, about to `Load`, or about to `CompareAndSwap`
from the `current` it loaded; or in the first lines of `cacheMostRecentValidatorSets`, about to
`Load` and then, having loaded zero, to `Store`. -/
inductive Goroutine
  | load (pchainHeight : ℕ)
  | compareAndSwap (pchainHeight current : ℕ)
  | synced (pchainHeight : ℕ)
  | initLoad (latestPChainHeight : ℕ)
  | initStore (latestPChainHeight : ℕ)
  | initialized
  deriving DecidableEq, Repr

/-- The next atomic operation of a goroutine, on the synced height `latest`: its next place and
the synced height after it; `none` for a goroutine that is done. -/
def Goroutine.run (latest : ℕ) : Goroutine → Option (Goroutine × ℕ)
  | .load pchainHeight =>
    some (if pchainHeight ≤ latest then .synced pchainHeight
      else .compareAndSwap pchainHeight latest, latest)
  | .compareAndSwap pchainHeight current =>
    -- a failed compare-and-swap goes back to the `Load`
    some (if latest = current then (.synced pchainHeight, pchainHeight)
      else (.load pchainHeight, latest))
  | .initLoad latestPChainHeight =>
    some (if latest = 0 then .initStore latestPChainHeight else .initialized, latest)
  | .initStore latestPChainHeight => some (.initialized, pred64 latestPChainHeight)
  | .synced _ | .initialized => none

/-- `latestSyncedPChainHeight` and the goroutines that update it, by goroutine ID. -/
structure SyncedHeight where
  latestSyncedPChainHeight : ℕ
  goroutines : ℕ → Option Goroutine

/-- What happens next: the cache `Get` of a call of `GetAllValidatorSets` on a new goroutine
succeeds for a height, a prefetch round begins on a new goroutine with the P-Chain's latest
height, or a goroutine runs its next atomic operation. -/
inductive SyncedHeight.Event
  | fetched (g pchainHeight : ℕ)
  | cacheMostRecentValidatorSets (g latestPChainHeight : ℕ)
  | run (g : ℕ)

/-- One step of the goroutines. -/
def SyncedHeight.step (s : SyncedHeight) : SyncedHeight.Event → Option SyncedHeight
  | .fetched g pchainHeight =>
    if s.goroutines g = none then
      some { s with goroutines := update s.goroutines g (some (.load pchainHeight)) }
    else none
  | .cacheMostRecentValidatorSets g latestPChainHeight =>
    if s.goroutines g = none then
      some { s with goroutines := update s.goroutines g (some (.initLoad latestPChainHeight)) }
    else none
  | .run g =>
    match s.goroutines g with
    | none => none
    | some p => (p.run s.latestSyncedPChainHeight).map fun (p', latest) =>
      ⟨latest, update s.goroutines g (some p')⟩

/-- The states the goroutines reach from `s₀`, in any interleaving. -/
inductive SyncedHeight.Reachable (s₀ : SyncedHeight) : SyncedHeight → Prop
  | init : Reachable s₀ s₀
  | step {s s' : SyncedHeight} {e : SyncedHeight.Event} :
      Reachable s₀ s → s.step e = some s' → Reachable s₀ s'

namespace SyncedHeight

variable {s₀ s s' : SyncedHeight} {e : Event}

theorem Reachable.trans {s'' : SyncedHeight} (h₁ : Reachable s₀ s) (h₂ : Reachable s s'') :
    Reachable s₀ s'' := by
  induction h₂ with
  | init => exact h₁
  | step _ hs ih => exact ih.step hs

/-- What one step can do: start a goroutine in a free slot, or move one goroutine by its next
atomic operation, which alone may change the synced height. -/
theorem step_cases (h : s.step e = some s') :
    (∃ g p, s.goroutines g = none ∧ s'.latestSyncedPChainHeight = s.latestSyncedPChainHeight ∧
      s'.goroutines = update s.goroutines g (some p) ∧
      ((∃ l, p = .initLoad l) ∨ ∃ h, p = .load h)) ∨
    (∃ g p p', e = .run g ∧ s.goroutines g = some p ∧
      p.run s.latestSyncedPChainHeight = some (p', s'.latestSyncedPChainHeight) ∧
      s'.goroutines = update s.goroutines g (some p')) := by
  cases e with
  | fetched g pchainHeight =>
    simp only [step] at h
    split at h
    · obtain rfl := Option.some.inj h
      exact .inl ⟨g, _, ‹_›, rfl, rfl, .inr ⟨pchainHeight, rfl⟩⟩
    · cases h
  | cacheMostRecentValidatorSets g latestPChainHeight =>
    simp only [step] at h
    split at h
    · obtain rfl := Option.some.inj h
      exact .inl ⟨g, _, ‹_›, rfl, rfl, .inl ⟨latestPChainHeight, rfl⟩⟩
    · cases h
  | run g =>
    simp only [step] at h
    split at h
    · cases h
    · rename_i p hp
      obtain ⟨⟨p', latest⟩, hrun, rfl⟩ := Option.map_eq_some_iff.mp h
      exact .inr ⟨g, p, p', rfl, hp, hrun, rfl⟩

/-! ### The compare-and-swap loops -/

/-- A goroutine about to compare and swap loaded a height below its own. -/
def CasBelow (s : SyncedHeight) : Prop :=
  ∀ g h current, s.goroutines g = some (.compareAndSwap h current) → current < h

/-- Only a `Load` that finds a lower synced height moves on to the compare-and-swap, with the
height it found. -/
theorem run_eq_compareAndSwap {p : Goroutine} {latest latest' h current : ℕ}
    (hrun : p.run latest = some (.compareAndSwap h current, latest')) :
    current = latest ∧ latest < h := by
  cases p with
  | load pchainHeight =>
    simp only [Goroutine.run, Option.some.injEq, Prod.mk.injEq] at hrun
    obtain ⟨hq, -⟩ := hrun
    split at hq
    · cases hq
    · rename_i hlt
      cases hq
      exact ⟨rfl, by omega⟩
  | compareAndSwap pchainHeight cur =>
    simp only [Goroutine.run, Option.some.injEq] at hrun
    split at hrun <;> cases hrun
  | initLoad l =>
    simp only [Goroutine.run, Option.some.injEq, Prod.mk.injEq] at hrun
    obtain ⟨hq, -⟩ := hrun
    split at hq <;> cases hq
  | initStore _ | synced _ | initialized => cases hrun

/-- Only the first round's `Load`, on a zero synced height, moves on to the `Store`. -/
theorem run_eq_initStore {p : Goroutine} {latest latest' l : ℕ}
    (hrun : p.run latest = some (.initStore l, latest')) : latest = 0 := by
  cases p with
  | load pchainHeight =>
    simp only [Goroutine.run, Option.some.injEq, Prod.mk.injEq] at hrun
    obtain ⟨hq, -⟩ := hrun
    split at hq <;> cases hq
  | compareAndSwap pchainHeight current =>
    simp only [Goroutine.run, Option.some.injEq] at hrun
    split at hrun <;> cases hrun
  | initLoad l' =>
    simp only [Goroutine.run, Option.some.injEq, Prod.mk.injEq] at hrun
    obtain ⟨hq, -⟩ := hrun
    split at hq
    · assumption
    · cases hq
  | initStore _ | synced _ | initialized => cases hrun

/-- A goroutine leaves its loop with its height at most the synced height after its step. -/
theorem run_eq_synced {p : Goroutine} {latest latest' h : ℕ}
    (hrun : p.run latest = some (.synced h, latest')) : h ≤ latest' := by
  cases p with
  | load pchainHeight =>
    simp only [Goroutine.run, Option.some.injEq, Prod.mk.injEq] at hrun
    obtain ⟨hq, rfl⟩ := hrun
    split at hq
    · cases hq
      assumption
    · cases hq
  | compareAndSwap pchainHeight current =>
    simp only [Goroutine.run, Option.some.injEq] at hrun
    split at hrun
    · obtain ⟨hq, rfl⟩ := Prod.mk.inj hrun
      cases hq
      exact le_rfl
    · cases hrun
  | initLoad l =>
    simp only [Goroutine.run, Option.some.injEq, Prod.mk.injEq] at hrun
    obtain ⟨hq, -⟩ := hrun
    split at hq <;> cases hq
  | initStore _ | synced _ | initialized => cases hrun

theorem casBelow_step (hi : CasBelow s) (h : s.step e = some s') : CasBelow s' := by
  intro g' h' cur hg'
  rcases step_cases h with ⟨g, p, -, -, hgs, hp⟩ | ⟨g, p, p', -, hp, hrun, hgs⟩
  · rw [hgs] at hg'
    rcases eq_or_ne g' g with rfl | hne
    · rw [update_self] at hg'
      obtain rfl := Option.some.inj hg'
      rcases hp with ⟨_, hp⟩ | ⟨_, hp⟩ <;> cases hp
    · rw [update_of_ne hne] at hg'
      exact hi g' h' cur hg'
  · rw [hgs] at hg'
    rcases eq_or_ne g' g with rfl | hne
    · rw [update_self] at hg'
      obtain rfl := Option.some.inj hg'
      obtain ⟨hcur, hlt⟩ := run_eq_compareAndSwap hrun
      rw [hcur]
      exact hlt
    · rw [update_of_ne hne] at hg'
      exact hi g' h' cur hg'

/-- The synced height moves only by a successful compare-and-swap, to the goroutine's height,
or by the first round's `Store`. -/
theorem run_latest {p p' : Goroutine} {latest latest' : ℕ} (h : p.run latest = some (p', latest')) :
    latest' = latest ∨
      (∃ h current, p = .compareAndSwap h current ∧ latest = current ∧ p' = .synced h ∧
        latest' = h) ∨
      ∃ l, p = .initStore l ∧ latest' = pred64 l := by
  cases p with
  | load pchainHeight =>
    simp only [Goroutine.run, Option.some.injEq, Prod.mk.injEq] at h
    exact .inl h.2.symm
  | compareAndSwap pchainHeight current =>
    simp only [Goroutine.run, Option.some.injEq] at h
    split at h
    · rename_i heq
      obtain ⟨rfl, rfl⟩ := Prod.mk.inj h
      exact .inr (.inl ⟨_, _, rfl, heq, rfl, rfl⟩)
    · obtain ⟨-, rfl⟩ := Prod.mk.inj h
      exact .inl rfl
  | initLoad l =>
    simp only [Goroutine.run, Option.some.injEq, Prod.mk.injEq] at h
    exact .inl h.2.symm
  | initStore l =>
    simp only [Goroutine.run, Option.some.injEq, Prod.mk.injEq] at h
    exact .inr (.inr ⟨l, rfl, h.2.symm⟩)
  | synced _ => cases h
  | initialized => cases h

/-- Once the synced height is nonzero: no `Store` is pending, every goroutine that left its loop
has a height at most the synced one, which is the starting one or such a goroutine's. -/
structure Inv (s₀ s : SyncedHeight) : Prop where
  casBelow : CasBelow s
  pos : 0 < s.latestSyncedPChainHeight
  no_store : ∀ g l, s.goroutines g ≠ some (.initStore l)
  synced_le : ∀ g h, s.goroutines g = some (.synced h) → h ≤ s.latestSyncedPChainHeight
  start_le : s₀.latestSyncedPChainHeight ≤ s.latestSyncedPChainHeight
  latest_of : s.latestSyncedPChainHeight = s₀.latestSyncedPChainHeight ∨
    ∃ g, s.goroutines g = some (.synced s.latestSyncedPChainHeight)

theorem Inv.init (hpos : 0 < s₀.latestSyncedPChainHeight) (hidle : ∀ g, s₀.goroutines g = none) :
    Inv s₀ s₀ where
  casBelow _ _ _ h := by rw [hidle] at h; cases h
  pos := hpos
  no_store g _ h := by rw [hidle] at h; cases h
  synced_le _ _ h := by rw [hidle] at h; cases h
  start_le := le_rfl
  latest_of := .inl rfl

theorem Inv.latest_le (hi : Inv s₀ s) (h : s.step e = some s') :
    s.latestSyncedPChainHeight ≤ s'.latestSyncedPChainHeight := by
  rcases step_cases h with ⟨-, -, -, hlat, -, -⟩ | ⟨g, p, p', -, hp, hrun, -⟩
  · exact hlat.ge
  · rcases run_latest hrun with heq | ⟨h', cur, rfl, hcur, -, heq⟩ | ⟨l, rfl, -⟩
    · exact heq.ge
    · rw [heq, hcur]
      exact (hi.casBelow g h' cur hp).le
    · exact absurd hp (hi.no_store g l)

theorem Inv.step (hi : Inv s₀ s) (h : s.step e = some s') : Inv s₀ s' := by
  have hle := hi.latest_le h
  have hcb := casBelow_step hi.casBelow h
  rcases step_cases h with ⟨g, p, hfree, hlat, hgs, hp⟩ | ⟨g, p, p', -, hp, hrun, hgs⟩
  · -- a new goroutine starts at its first operation
    have hold : ∀ g' q, s'.goroutines g' = some q → q ≠ p → s.goroutines g' = some q := by
      intro g' q hq hne
      rw [hgs] at hq
      rcases eq_or_ne g' g with rfl | hg
      · rw [update_self] at hq
        exact absurd (Option.some.inj hq).symm hne
      · rwa [update_of_ne hg] at hq
    have hstore : ∀ l, p ≠ .initStore l := by
      rintro l rfl
      rcases hp with ⟨_, hp⟩ | ⟨_, hp⟩ <;> cases hp
    have hsynced : ∀ h, p ≠ .synced h := by
      rintro h rfl
      rcases hp with ⟨_, hp⟩ | ⟨_, hp⟩ <;> cases hp
    refine ⟨hcb, hlat ▸ hi.pos, fun g' l hg' => hi.no_store g' l (hold g' _ hg' (hstore l).symm),
      fun g' h' hg' => hlat ▸ hi.synced_le g' h' (hold g' _ hg' (hsynced h').symm),
      hlat ▸ hi.start_le, ?_⟩
    rcases hi.latest_of with h0 | ⟨g', hg'⟩
    · exact .inl (hlat.trans h0)
    · refine .inr ⟨g', ?_⟩
      rw [hlat, hgs, update_of_ne]
      · exact hg'
      · rintro rfl
        rw [hfree] at hg'
        cases hg'
  · -- the goroutine `g` runs; the others keep their places
    have hother : ∀ g', g' ≠ g → s'.goroutines g' = s.goroutines g' := fun g' hne => by
      rw [hgs, update_of_ne hne]
    refine ⟨hcb, hi.pos.trans_le hle, fun g' l hg' => ?_, fun g' h' hg' => ?_,
      hi.start_le.trans hle, ?_⟩
    · rcases eq_or_ne g' g with rfl | hne
      · rw [hgs, update_self] at hg'
        obtain rfl := Option.some.inj hg'
        exact hi.pos.ne' (run_eq_initStore hrun)
      · rw [hother g' hne] at hg'
        exact hi.no_store g' l hg'
    · rcases eq_or_ne g' g with rfl | hne
      · rw [hgs, update_self] at hg'
        obtain rfl := Option.some.inj hg'
        exact run_eq_synced hrun
      · rw [hother g' hne] at hg'
        exact (hi.synced_le g' h' hg').trans hle
    · rcases run_latest hrun with heq | ⟨h', cur, rfl, -, rfl, heq⟩ | ⟨l, rfl, -⟩
      · rcases hi.latest_of with h0 | ⟨g', hg'⟩
        · exact .inl (heq.trans h0)
        · -- the witness goroutine is done, so it is not the one that ran
          have hne : g' ≠ g := by
            rintro rfl
            rw [hg'] at hp
            obtain rfl := Option.some.inj hp
            cases hrun
          exact .inr ⟨g', by rw [hother g' hne, heq]; exact hg'⟩
      · exact .inr ⟨g, by rw [hgs, update_self, heq]⟩
      · exact absurd hp (hi.no_store g l)

theorem Reachable.casBelow (hidle : ∀ g, s₀.goroutines g = none) (h : Reachable s₀ s) :
    CasBelow s := by
  induction h with
  | init => intro g _ _ hg; rw [hidle] at hg; cases hg
  | step _ hs ih => exact casBelow_step ih hs

theorem Reachable.inv (hpos : 0 < s₀.latestSyncedPChainHeight)
    (hidle : ∀ g, s₀.goroutines g = none) (h : Reachable s₀ s) : Inv s₀ s := by
  induction h with
  | init => exact Inv.init hpos hidle
  | step _ hs ih => exact ih.step hs

/-- Once the synced height is nonzero, no update of it is lost, in any interleaving of the
goroutines: it never decreases; every goroutine that has left its loop finds its height at most
the synced one; and the synced height is the starting one or the height of such a goroutine. So
when every goroutine has left its loop, the synced height is the greatest of the starting one and
their heights. -/
theorem syncedHeight_no_lost_update (hpos : 0 < s₀.latestSyncedPChainHeight)
    (hidle : ∀ g, s₀.goroutines g = none) (h : Reachable s₀ s) :
    (∀ s', Reachable s s' → s.latestSyncedPChainHeight ≤ s'.latestSyncedPChainHeight) ∧
    (∀ g pchainHeight, s.goroutines g = some (.synced pchainHeight) →
      pchainHeight ≤ s.latestSyncedPChainHeight) ∧
    (s.latestSyncedPChainHeight = s₀.latestSyncedPChainHeight ∨
      ∃ g, s.goroutines g = some (.synced s.latestSyncedPChainHeight)) := by
  have hi := h.inv hpos hidle
  refine ⟨fun s' hs' => ?_, hi.synced_le, hi.latest_of⟩
  -- the later states are reachable from `s₀` too, and each step keeps the invariant
  induction hs' with
  | init => exact le_rfl
  | step hr hs ih => exact ih.trans ((h.trans hr).inv hpos hidle |>.latest_le hs)

theorem syncedHeight_no_lost_update_sample :
    ∃ s, Reachable ⟨5, fun _ => none⟩ s ∧ s.latestSyncedPChainHeight = 9 ∧
      s.goroutines 0 = some (.synced 9) ∧ s.goroutines 1 = some (.synced 7) ∧
      7 ≤ s.latestSyncedPChainHeight := by
  -- goroutines 0 and 1 fetch heights 9 and 7; 0 swaps first, so 1 loads 9 and stops
  obtain ⟨s, hr, hlat, h0, h1⟩ : ∃ s, Reachable ⟨5, fun _ => none⟩ s ∧
      s.latestSyncedPChainHeight = 9 ∧ s.goroutines 0 = some (.synced 9) ∧
      s.goroutines 1 = some (.synced 7) :=
    ⟨_, ((((Reachable.init.step (e := .fetched 0 9) rfl).step (e := .fetched 1 7) rfl).step
      (e := .run 0) rfl).step (e := .run 0) rfl).step (e := .run 1) rfl, rfl, rfl, rfl⟩
  obtain ⟨-, hsynced, -⟩ := syncedHeight_no_lost_update (by decide) (fun _ => rfl) hr
  exact ⟨s, hr, hlat, h0, h1, hsynced 1 7 h1⟩

/-- From start-up, in any interleaving, the one step that lowers the synced height is the first
prefetch round's `Store` of one below the P-Chain's latest height. -/
theorem syncedHeight_lowered_only_by_store (hidle : ∀ g, s₀.goroutines g = none)
    (h : Reachable s₀ s) (hs : s.step e = some s')
    (hlt : s'.latestSyncedPChainHeight < s.latestSyncedPChainHeight) :
    ∃ g latestPChainHeight, e = .run g ∧ s.goroutines g = some (.initStore latestPChainHeight) ∧
      s'.latestSyncedPChainHeight = pred64 latestPChainHeight := by
  have hcb := h.casBelow hidle
  rcases step_cases hs with ⟨-, -, -, hlat, -, -⟩ | ⟨g, p, p', rfl, hp, hrun, -⟩
  · omega
  · rcases run_latest hrun with heq | ⟨h', cur, rfl, hcur, -, heq⟩ | ⟨l, rfl, heq⟩
    · omega
    · have := hcb g h' cur hp
      omega
    · exact ⟨g, l, rfl, hp, heq⟩

/-- The race at start-up: goroutine 0 begins a prefetch round with the P-Chain at height 10 and
loads zero; goroutine 1 then raises the synced height to 20 and leaves its loop; goroutine 0's
`Store` lowers the synced height to 9, below goroutine 1's height. -/
theorem syncedHeight_lowered_only_by_store_race :
    ∃ s s', Reachable ⟨0, fun _ => none⟩ s ∧ s.step (.run 0) = some s' ∧
      s.goroutines 1 = some (.synced 20) ∧ s.latestSyncedPChainHeight = 20 ∧
      s'.latestSyncedPChainHeight = 9 ∧
      ∃ g latestPChainHeight, Event.run 0 = .run g ∧
        s.goroutines g = some (.initStore latestPChainHeight) ∧
        s'.latestSyncedPChainHeight = pred64 latestPChainHeight := by
  obtain ⟨s, s', hr, hs, h1, hlat, hlat'⟩ : ∃ s s', Reachable ⟨0, fun _ => none⟩ s ∧
      s.step (.run 0) = some s' ∧ s.goroutines 1 = some (.synced 20) ∧
      s.latestSyncedPChainHeight = 20 ∧ s'.latestSyncedPChainHeight = 9 :=
    ⟨_, _, (((Reachable.init.step (e := .cacheMostRecentValidatorSets 0 10) rfl).step
      (e := .run 0) rfl).step (e := .fetched 1 20) rfl).step (e := .run 1) rfl |>.step
      (e := .run 1) rfl, rfl, rfl, rfl, rfl⟩
  exact ⟨s, s', hr, hs, h1, hlat, hlat',
    syncedHeight_lowered_only_by_store (fun _ => rfl) hr hs (by rw [hlat, hlat']; decide)⟩

/-- A goroutine that runs alone from its `Load` leaves its loop after at most two operations,
with the synced height raised to its height where that is greater: the sequential `max`. -/
theorem run_load_alone (latest pchainHeight : ℕ) :
    (Goroutine.load pchainHeight).run latest = some (.synced pchainHeight, max latest pchainHeight) ∨
    ((Goroutine.load pchainHeight).run latest = some (.compareAndSwap pchainHeight latest, latest) ∧
      (Goroutine.compareAndSwap pchainHeight latest).run latest =
        some (.synced pchainHeight, max latest pchainHeight)) := by
  by_cases hle : pchainHeight ≤ latest
  · exact .inl (by simp [Goroutine.run, hle])
  · exact .inr ⟨by simp [Goroutine.run, hle],
      by simp [Goroutine.run, max_eq_right (Nat.le_of_not_le hle)]⟩

end SyncedHeight

/-! ## `GetAllValidatorSets` and the prefetch round, one call at a time -/

/-- `pchainapi.ProposedHeight`: `math.MaxUint64`. -/
def proposedHeight : ℕ := 2 ^ 64 - 1

/-- `int64(x)` of a 64-bit value: its two's-complement reading. -/
def int64 (x : ℤ) : ℤ := x.bmod (2 ^ 64)

/-- `ValidatorManager`, what `GetAllValidatorSets` and `cacheMostRecentValidatorSets` use: the
synced height, the lookback and the FIFO cache of validator sets by height. -/
structure ValidatorManager (S : Type) where
  latestSyncedPChainHeight : ℕ
  maxPChainLookback : ℤ
  epochedValidatorSetCache : FIFOCache ℕ S

/-- The error of a height beyond the lookback. -/
def errBeyondLookback (height : ℕ) (maxPChainLookback : ℤ) (latestSyncedHeight : ℕ) : String :=
  "requested P-Chain height " ++ toString height ++ " is beyond the max lookback of " ++
    toString maxPChainLookback ++ " from latest height " ++ toString latestSyncedHeight

namespace ValidatorManager

variable {S : Type} [Inhabited S]

/-- `fetchVdrsFunc` of `GetAllValidatorSets`: the lookback check, then the P-Chain's
`GetAllValidatorSets`. -/
def fetchVdrsFunc (v : ValidatorManager S) (getAllValidatorSets : ℕ → Except String S) :
    FetchFunc ℕ S String := fun height =>
  let latestSyncedHeight := v.latestSyncedPChainHeight
  if v.maxPChainLookback ≥ 0 ∧
      int64 height < int64 (int64 latestSyncedHeight - v.maxPChainLookback) then
    (default, some (errBeyondLookback height v.maxPChainLookback latestSyncedHeight))
  else
    match getAllValidatorSets height with
    | .ok validatorSet => (validatorSet, none)
    | .error err => (default, some err)

/-- `GetAllValidatorSets`; `none` where the cache panics. -/
def getAllValidatorSets (v : ValidatorManager S) (pchainGetAllValidatorSets : ℕ → Except String S)
    (pchainHeight : ℕ) : Option (Except String S × ValidatorManager S) :=
  if pchainHeight = proposedHeight then some (pchainGetAllValidatorSets pchainHeight, v)
  else
    (v.epochedValidatorSetCache.get pchainHeight (v.fetchVdrsFunc pchainGetAllValidatorSets)).map
      fun ((validatorSets, err), c) =>
        match err with
        | some err => (.error err, { v with epochedValidatorSetCache := c })
        -- the compare-and-swap loop, run alone (`SyncedHeight.run_load_alone`)
        | none => (.ok validatorSets, { v with
            epochedValidatorSetCache := c
            latestSyncedPChainHeight := max v.latestSyncedPChainHeight pchainHeight })

/-- The loop of `cacheMostRecentValidatorSets` from `currentSyncedHeight` up to
`latestPChainHeight`; a failed height is logged and skipped. -/
def syncTo (pchainGetAllValidatorSets : ℕ → Except String S) (latestPChainHeight : ℕ)
    (v : ValidatorManager S) (currentSyncedHeight : ℕ) : Option (ValidatorManager S) :=
  if currentSyncedHeight < latestPChainHeight then
    match v.getAllValidatorSets pchainGetAllValidatorSets (currentSyncedHeight + 1) with
    | none => none
    | some (_, v) => syncTo pchainGetAllValidatorSets latestPChainHeight v (currentSyncedHeight + 1)
  else some v
termination_by latestPChainHeight - currentSyncedHeight

/-- `cacheMostRecentValidatorSets`, with the P-Chain's answer to `GetLatestHeight`. -/
def cacheMostRecentValidatorSets (v : ValidatorManager S) (getLatestHeight : Except String ℕ)
    (pchainGetAllValidatorSets : ℕ → Except String S) : Option (ValidatorManager S) :=
  match getLatestHeight with
  | .error _ => some v
  | .ok latestPChainHeight =>
    let currentSyncedHeight := v.latestSyncedPChainHeight
    if currentSyncedHeight = 0 then
      let currentSyncedHeight := pred64 latestPChainHeight
      syncTo pchainGetAllValidatorSets latestPChainHeight
        { v with latestSyncedPChainHeight := currentSyncedHeight } currentSyncedHeight
    else syncTo pchainGetAllValidatorSets latestPChainHeight v currentSyncedHeight

/-! ### A prefetch round against a P-Chain that answers -/

theorem int64_of_lt {x : ℤ} (h0 : -2 ^ 63 ≤ x) (h : x < 2 ^ 63) : int64 x = x := by
  unfold int64
  have hm : ((2 ^ 64 : ℕ) : ℤ) = 18446744073709551616 := rfl
  apply Int.bmod_eq_of_le <;> rw [hm] <;> omega

/-- The lookback check passes for every height above the synced one, below `2 ^ 63`. -/
theorem fetchVdrsFunc_above {v : ValidatorManager S} {sets : ℕ → S} {height : ℕ}
    (hlook : v.maxPChainLookback < 2 ^ 63) (habove : v.latestSyncedPChainHeight < height)
    (h63 : height < 2 ^ 63) :
    v.fetchVdrsFunc (fun h => .ok (sets h)) height = (sets height, none) := by
  have hh : int64 height = height := int64_of_lt (by omega) (by exact_mod_cast h63)
  have hl : int64 v.latestSyncedPChainHeight = v.latestSyncedPChainHeight :=
    int64_of_lt (by omega) (by have := habove.trans h63; exact_mod_cast this)
  unfold fetchVdrsFunc
  rw [if_neg]
  rintro ⟨hpos, hlt⟩
  rw [hh, hl, int64_of_lt (by omega) (by omega)] at hlt
  omega

theorem get_congr {K V ε : Type} [DecidableEq K] {c : FIFOCache K V} {key : K}
    {f g : FetchFunc K V ε} (h : f key = g key) : c.get key f = c.get key g := by
  unfold FIFOCache.get
  rw [h]

/-- The heights a prefetch round fetches, each answered by the P-Chain. -/
def prefetchCalls (sets : ℕ → S) (currentSyncedHeight latestPChainHeight : ℕ) :
    List (ℕ × FetchFunc ℕ S String) :=
  (List.range' (currentSyncedHeight + 1) (latestPChainHeight - currentSyncedHeight)).map
    fun height => (height, fun h => (sets h, none))

/-- The run lemma of the loop: from the synced height, each height above it is fetched in turn,
as `Get` on the cache's insertion log, and the loop ends synced at the P-Chain's latest height. -/
theorem syncTo_spec (sets : ℕ → S) (latestPChainHeight : ℕ) (h63 : latestPChainHeight < 2 ^ 63) :
    ∀ (v : ValidatorManager S) (currentSyncedHeight : ℕ) (log : List (ℕ × S)),
      v.maxPChainLookback < 2 ^ 63 → v.latestSyncedPChainHeight = currentSyncedHeight →
      Holds v.epochedValidatorSetCache log →
      ∃ v', syncTo (fun h => .ok (sets h)) latestPChainHeight v currentSyncedHeight = some v' ∧
        v'.latestSyncedPChainHeight = max currentSyncedHeight latestPChainHeight ∧
        v'.maxPChainLookback = v.maxPChainLookback ∧
        v'.epochedValidatorSetCache.capacity = v.epochedValidatorSetCache.capacity ∧
        Holds v'.epochedValidatorSetCache
          (logGetAll v.epochedValidatorSetCache.capacity log
            (prefetchCalls sets currentSyncedHeight latestPChainHeight)).2 := by
  intro v currentSyncedHeight
  induction v, currentSyncedHeight using
    syncTo.induct (fun h => .ok (sets h)) latestPChainHeight with
  | case1 v current hlt hnone =>
    intro log hlook hcur hc
    exfalso
    -- the cache never panics on a window of its log
    obtain ⟨c', hget, -, -⟩ := hc.get (current + 1) fun h => (sets h, none)
    have hne : current + 1 ≠ proposedHeight := by unfold proposedHeight; omega
    have hfetch : v.fetchVdrsFunc (fun h => .ok (sets h)) (current + 1) =
        (sets (current + 1), none) := fetchVdrsFunc_above hlook (by omega) (by omega)
    rw [getAllValidatorSets, if_neg hne, get_congr (g := fun h => (sets h, none)) hfetch, hget] at hnone
    cases hnone
  | case2 v current hlt r v₁ hstep ih =>
    intro log hlook hcur hc
    obtain ⟨c₁, hget, hcap, hc₁⟩ := hc.get (current + 1) fun h => (sets h, none)
    have hne : current + 1 ≠ proposedHeight := by unfold proposedHeight; omega
    have hfetch : v.fetchVdrsFunc (fun h => .ok (sets h)) (current + 1) =
        (sets (current + 1), none) := fetchVdrsFunc_above hlook (by omega) (by omega)
    -- a cached or fetched height is answered, and the synced height moves up to it
    have hres : (logGet v.epochedValidatorSetCache.capacity log (current + 1)
        fun h => (sets h, (none : Option String))).1.2 = none := by
      unfold logGet
      split <;> rfl
    have hv₁ : v₁ = ⟨max v.latestSyncedPChainHeight (current + 1), v.maxPChainLookback, c₁⟩ := by
      rw [getAllValidatorSets, if_neg hne, get_congr (g := fun h => (sets h, none)) hfetch,
        hget] at hstep
      simp only [Option.map_some, hres, Option.some.injEq, Prod.mk.injEq] at hstep
      exact hstep.2.symm
    subst hv₁
    obtain ⟨v', hrun, hlat, hlook', hcap', hc₁'⟩ := ih _ hlook
      (by show max v.latestSyncedPChainHeight (current + 1) = current + 1; omega) hc₁
    refine ⟨v', ?_, ?_, hlook', hcap'.trans hcap, ?_⟩
    · rw [syncTo, if_pos hlt, hstep]
      exact hrun
    · rw [hlat]
      omega
    · have hcalls : prefetchCalls sets current latestPChainHeight =
          (current + 1, fun h => (sets h, none)) ::
            prefetchCalls sets (current + 1) latestPChainHeight := by
        unfold prefetchCalls
        rw [show latestPChainHeight - current = (latestPChainHeight - (current + 1)) + 1 by omega,
          List.range'_succ, List.map_cons]
        rfl
      rw [hcalls]
      rw [show c₁.capacity = v.epochedValidatorSetCache.capacity from hcap] at hc₁'
      exact hc₁'
  | case3 v current hge =>
    intro log hlook hcur hc
    refine ⟨v, by rw [syncTo, if_neg hge], by omega, rfl, rfl, ?_⟩
    have hnil : prefetchCalls sets current latestPChainHeight = [] := by
      simp [prefetchCalls, show latestPChainHeight - current = 0 by omega]
    rw [hnil]
    exact hc

/-- One prefetch round against a P-Chain that answers every height, with its latest height
below `2 ^ 63`, and a cache that is the window of its insertions: from the synced height (one
below the P-Chain's latest on the first round, when it reads zero) each height above it is
fetched in turn, as `Get` on the insertion log, none refused by the lookback, and the round ends
synced at the P-Chain's latest height. -/
theorem cacheMostRecentValidatorSets_fetches_in_order (sets : ℕ → S) {v : ValidatorManager S}
    {log : List (ℕ × S)} {latestPChainHeight : ℕ} (hpos : 0 < latestPChainHeight)
    (h63 : latestPChainHeight < 2 ^ 63) (hlook : v.maxPChainLookback < 2 ^ 63)
    (hc : Holds v.epochedValidatorSetCache log) :
    ∃ v', v.cacheMostRecentValidatorSets (.ok latestPChainHeight) (fun h => .ok (sets h)) =
        some v' ∧
      v'.latestSyncedPChainHeight = max (if v.latestSyncedPChainHeight = 0 then
        latestPChainHeight - 1 else v.latestSyncedPChainHeight) latestPChainHeight ∧
      Holds v'.epochedValidatorSetCache
        (logGetAll v.epochedValidatorSetCache.capacity log (prefetchCalls sets
          (if v.latestSyncedPChainHeight = 0 then latestPChainHeight - 1
            else v.latestSyncedPChainHeight) latestPChainHeight)).2 := by
  unfold cacheMostRecentValidatorSets
  dsimp only
  split
  · rename_i h0
    -- the first round starts one below the P-Chain's latest height
    have hpred : pred64 latestPChainHeight = latestPChainHeight - 1 := by
      unfold pred64
      rw [show latestPChainHeight + (2 ^ 64 - 1) = latestPChainHeight - 1 + 2 ^ 64 by omega,
        Nat.add_mod_right, Nat.mod_eq_of_lt (by omega)]
    obtain ⟨v', hrun, hlat, -, -, hc'⟩ := syncTo_spec sets latestPChainHeight h63
      { v with latestSyncedPChainHeight := pred64 latestPChainHeight }
      (pred64 latestPChainHeight) log hlook rfl hc
    rw [hpred] at hrun hlat hc'
    rw [hpred]
    exact ⟨v', hrun, hlat, hc'⟩
  · obtain ⟨v', hrun, hlat, -, -, hc'⟩ := syncTo_spec sets latestPChainHeight h63 v _ log hlook
      rfl hc
    exact ⟨v', hrun, hlat, hc'⟩

theorem cacheMostRecentValidatorSets_fetches_in_order_sample :
    ∃ v', (⟨5, 100, newFIFOCache 3⟩ : ValidatorManager ℕ).cacheMostRecentValidatorSets (.ok 8)
        (fun h => .ok h) = some v' ∧ v'.latestSyncedPChainHeight = 8 ∧
      Holds v'.epochedValidatorSetCache [(6, 6), (7, 7), (8, 8)] := by
  obtain ⟨v', hrun, hlat, hc⟩ := cacheMostRecentValidatorSets_fetches_in_order (fun h => h)
    (v := ⟨5, 100, newFIFOCache 3⟩) (show 0 < 8 by decide) (by decide) (by decide)
    (holds_newFIFOCache (by decide))
  exact ⟨v', hrun, hlat, hc⟩

end ValidatorManager

end Peers
