import IcmServices.Lib.LinkedHashmap
import IcmServices.Lib.Solidity
import Mathlib.Data.Finset.Card

/-!
# The subnets an `AppRequestNetwork` tracks

`trackedSubnets` is the set of subnets the network tracks, and `lruSubnets` holds the same
subnets from the least recently tracked on. `NewNetwork` starts from the configured subnets
without the primary network, and refuses more than `maxNumSubnets` of them; `trackSubnet` tracks
one more, and when `maxNumSubnets` are tracked already, first stops tracking the least recently
tracked one. The code states the agreement of the two as an invariant, and panics in
`trackSubnet` where the oldest subnet of the LRU is missing from the set. The LRU is avalanchego's
`linked.Hashmap`, a parameter here with the laws of `LinkedHashmap.Ops.Laws`.

* `trackSubnets_inv`: for any lawful LRU, along every sequence of `TrackSubnet` calls from
  `NewNetwork`, the set and the LRU hold the same subnets, at most `maxNumSubnets` of them;
  `trackSubnet` never panics, and the subnet of the last call is tracked.
-/

namespace Peers

/-- `maxNumSubnets`. -/
def maxNumSubnets : ℕ := 16

/-- The subnet-tracking state of an `AppRequestNetwork`, with its LRU a map of type `M`. -/
structure TrackedSubnets (S M : Type) where
  trackedSubnets : Finset S
  lruSubnets : M

variable {S M : Type} [DecidableEq S]

/-- `errTrackingTooManySubnets`. -/
def errTrackingTooManySubnets : String := "cannot track more than 16 subnets"

/-- The panic of `trackSubnet`, before the subnet ID it names. -/
def lruPanic : String := "SubnetID present in LRU but not in trackedSubnets: "

section Calls

-- avalanchego's `linked.Hashmap[ids.ID, struct{}]`
variable (lru : LinkedHashmap.Ops S Unit M)

/-- What `NewNetwork` sets up from the configured subnets, in the order of
`trackedSubnets.List()`: the primary network is left out, and more than `maxNumSubnets` others
is an error. -/
def newTrackedSubnets (primaryNetworkID : S) (configured : List S) :
    Except String (TrackedSubnets S M) :=
  let subnets := configured.filter (· ≠ primaryNetworkID)
  if subnets.length > maxNumSubnets then .error errTrackingTooManySubnets
  else .ok ⟨subnets.toFinset, subnets.foldl (fun m subnetID => lru.put m subnetID ()) lru.empty⟩

/-- The eviction in `trackSubnet` when `maxNumSubnets` subnets are tracked: the oldest subnet of
the LRU leaves the LRU and the set, and the set's lack of it is a panic. -/
def TrackedSubnets.evictOldest [Inhabited S] (n : TrackedSubnets S M) :
    Except String (TrackedSubnets S M) :=
  -- `Oldest` gives the zero ID on an empty map
  let oldestSubnetID := ((lru.oldest n.lruSubnets).map Prod.fst).getD default
  if oldestSubnetID ∉ n.trackedSubnets then .error lruPanic
  else .ok ⟨n.trackedSubnets.erase oldestSubnetID, lru.delete n.lruSubnets oldestSubnetID⟩

/-- `trackSubnet`: the subnets after it, and whether the subnet was tracked already; its panic is
an error. -/
def trackSubnet [Inhabited S] (n : TrackedSubnets S M) (subnetID : S) :
    Except String (TrackedSubnets S M × Bool) :=
  if subnetID ∈ n.trackedSubnets then
    -- the put moves the subnet to the newest end of the LRU
    .ok ({ n with lruSubnets := lru.put n.lruSubnets subnetID () }, true)
  else do
    let n ← if lru.len n.lruSubnets ≥ maxNumSubnets then n.evictOldest lru else .ok n
    pure (⟨insert subnetID n.trackedSubnets, lru.put n.lruSubnets subnetID ()⟩, false)

/-- A sequence of `TrackSubnet` calls, which take the network's lock one at a time. -/
def trackSubnets [Inhabited S] (n : TrackedSubnets S M) :
    List S → Except String (TrackedSubnets S M)
  | [] => .ok n
  | subnetID :: subnetIDs => do
    let (n, _) ← trackSubnet lru n subnetID
    trackSubnets n subnetIDs

/-- The invariant the code states: the set and the LRU hold the same subnets, at most
`maxNumSubnets` of them. -/
structure TrackedSubnets.Inv (n : TrackedSubnets S M) : Prop where
  agree : ∀ s, s ∈ n.trackedSubnets ↔ s ∈ lru.keys n.lruSubnets
  bounded : lru.len n.lruSubnets ≤ maxNumSubnets

end Calls

section Laws

variable {lru : LinkedHashmap.Ops S Unit M} (hl : lru.Laws)
include hl

theorem TrackedSubnets.Inv.card_le {n : TrackedSubnets S M} (hi : n.Inv lru) :
    n.trackedSubnets.card ≤ maxNumSubnets := by
  have hsub : n.trackedSubnets ⊆ (lru.keys n.lruSubnets).toFinset := fun s hs =>
    List.mem_toFinset.mpr ((hi.agree s).mp hs)
  calc n.trackedSubnets.card ≤ (lru.keys n.lruSubnets).toFinset.card := Finset.card_le_card hsub
    _ ≤ (lru.keys n.lruSubnets).length := List.toFinset_card_le _
    _ = lru.len n.lruSubnets := (hl.len_eq _).symm
    _ ≤ maxNumSubnets := hi.bounded

theorem foldl_put {l : List S} (hnodup : l.Nodup) :
    ∀ m : M, (∀ s ∈ l, s ∉ lru.keys m) →
      let m' := l.foldl (fun m subnetID => lru.put m subnetID ()) m
      (∀ s, s ∈ lru.keys m' ↔ s ∈ lru.keys m ∨ s ∈ l) ∧ lru.len m' = lru.len m + l.length := by
  induction l with
  | nil => simp
  | cons s l ih =>
    intro m hfresh
    rw [List.nodup_cons] at hnodup
    have hs : s ∉ lru.keys m := hfresh s List.mem_cons_self
    obtain ⟨hkeys, hlen⟩ := ih hnodup.2 (lru.put m s ()) fun s' hs' => by
      rw [hl.mem_keys_put]
      rintro (rfl | hm)
      · exact hnodup.1 hs'
      · exact hfresh s' (List.mem_cons_of_mem _ hs') hm
    refine ⟨fun s' => ?_, ?_⟩
    · rw [List.foldl_cons, hkeys, hl.mem_keys_put, List.mem_cons]
      tauto
    · rw [List.foldl_cons, hlen, hl.len_put, if_neg hs, List.length_cons]
      omega

theorem newTrackedSubnets_inv {primaryNetworkID : S} {configured : List S}
    (hnodup : configured.Nodup) {n : TrackedSubnets S M}
    (h : newTrackedSubnets lru primaryNetworkID configured = .ok n) : n.Inv lru := by
  unfold newTrackedSubnets at h
  dsimp only at h
  split at h
  · cases h
  · rename_i hlen
    cases h
    obtain ⟨hkeys, hlen'⟩ := foldl_put hl (hnodup.filter _) lru.empty fun _ _ h => by
      rw [hl.keys_empty] at h
      cases h
    refine ⟨fun s => ?_, ?_⟩
    · rw [List.mem_toFinset, hkeys, hl.keys_empty]
      simp
    · rw [hlen', hl.len_eq lru.empty, hl.keys_empty, List.length_nil, Nat.zero_add]
      omega

/-- The oldest subnet of a non-empty LRU within the invariant is tracked: the eviction does not
panic, and leaves one subnet fewer, in the set as in the LRU. -/
theorem TrackedSubnets.Inv.evictOldest [Inhabited S] {n : TrackedSubnets S M} (hi : n.Inv lru)
    (hpos : 0 < lru.len n.lruSubnets) :
    ∃ n₁, n.evictOldest lru = .ok n₁ ∧
      (∀ s, s ∈ n₁.trackedSubnets ↔ s ∈ lru.keys n₁.lruSubnets) ∧
      lru.len n₁.lruSubnets + 1 = lru.len n.lruSubnets ∧
      ∀ s ∈ lru.keys n₁.lruSubnets, s ∈ lru.keys n.lruSubnets := by
  obtain ⟨⟨oldest, u⟩, holdest⟩ := Option.isSome_iff_exists.mp (hl.oldest_isSome hpos)
  have hkey : oldest ∈ lru.keys n.lruSubnets := hl.oldest_mem holdest
  have hmem : oldest ∈ n.trackedSubnets := (hi.agree oldest).mpr hkey
  refine ⟨⟨n.trackedSubnets.erase oldest, lru.delete n.lruSubnets oldest⟩, ?_, fun s => ?_,
    hl.len_delete_of_mem hkey, fun s hs => ?_⟩
  · simp only [TrackedSubnets.evictOldest, holdest, Option.map_some, Option.getD_some, hmem,
      not_true_eq_false, if_false]
  · rw [Finset.mem_erase, hl.mem_keys_delete, hi.agree s, and_comm]
  · exact (hl.mem_keys_delete.mp hs).1

theorem TrackedSubnets.Inv.insert {n : TrackedSubnets S M} {subnetID : S}
    (hagree : ∀ s, s ∈ n.trackedSubnets ↔ s ∈ lru.keys n.lruSubnets)
    (hroom : lru.len n.lruSubnets < maxNumSubnets) (hnew : subnetID ∉ lru.keys n.lruSubnets) :
    TrackedSubnets.Inv lru ⟨insert subnetID n.trackedSubnets, lru.put n.lruSubnets subnetID ()⟩ where
  agree s := by rw [Finset.mem_insert, hl.mem_keys_put, hagree]
  bounded := by
    rw [hl.len_put, if_neg hnew]
    omega

theorem TrackedSubnets.Inv.touch {n : TrackedSubnets S M} (hi : n.Inv lru) {subnetID : S}
    (htracked : subnetID ∈ n.trackedSubnets) :
    TrackedSubnets.Inv lru { n with lruSubnets := lru.put n.lruSubnets subnetID () } where
  agree s := by
    show s ∈ n.trackedSubnets ↔ _
    rw [hl.mem_keys_put, ← hi.agree]
    constructor
    · exact Or.inr
    · rintro (rfl | hs)
      · exact htracked
      · exact hs
  bounded := by
    rw [hl.len_put, if_pos ((hi.agree subnetID).mp htracked)]
    exact hi.bounded

/-- **One call keeps the invariant.** Within it, `trackSubnet` does not panic (the oldest subnet
of a full LRU is one of the set's) and leaves its subnet tracked. -/
theorem trackSubnet_inv [Inhabited S] {n : TrackedSubnets S M} (hi : n.Inv lru) (subnetID : S) :
    ∃ n' wasTracked, trackSubnet lru n subnetID = .ok (n', wasTracked) ∧ n'.Inv lru ∧
      subnetID ∈ n'.trackedSubnets := by
  unfold trackSubnet
  by_cases htracked : subnetID ∈ n.trackedSubnets
  · -- already tracked: only its place in the LRU moves
    rw [if_pos htracked]
    exact ⟨_, _, rfl, hi.touch hl htracked, htracked⟩
  · rw [if_neg htracked]
    have hnew : subnetID ∉ lru.keys n.lruSubnets := fun h => htracked ((hi.agree subnetID).mpr h)
    split
    · -- full: the oldest subnet goes first
      rename_i hfull
      obtain ⟨n₁, hevict, hagree, hlen, hkeys⟩ :=
        hi.evictOldest hl (by unfold maxNumSubnets at hfull; omega)
      have hroom : lru.len n₁.lruSubnets < maxNumSubnets := by
        have := hi.bounded
        omega
      rw [hevict, Solidity.ok_bind]
      exact ⟨_, _, rfl, TrackedSubnets.Inv.insert hl hagree hroom fun h => hnew (hkeys _ h),
        Finset.mem_insert_self _ _⟩
    · rename_i hroom
      rw [Solidity.ok_bind]
      exact ⟨_, _, rfl, TrackedSubnets.Inv.insert hl hi.agree (by omega) hnew,
        Finset.mem_insert_self _ _⟩

/-- From any state within the invariant, a sequence of calls does not panic, keeps the
invariant and tracks the subnet of its last call. -/
theorem trackSubnets_run [Inhabited S] : ∀ (calls : List S) {n : TrackedSubnets S M}, n.Inv lru →
    ∃ n', trackSubnets lru n calls = .ok n' ∧ n'.Inv lru ∧
      ∀ s ∈ calls.getLast?, s ∈ n'.trackedSubnets
  | [], _, hi => ⟨_, rfl, hi, by simp⟩
  | s :: calls, _, hi => by
    obtain ⟨n₁, wasTracked, hstep, hi₁, hs⟩ := trackSubnet_inv hl hi s
    obtain ⟨n', hrest, hi', hlast⟩ := trackSubnets_run calls hi₁
    refine ⟨n', by simp only [trackSubnets, hstep, Solidity.ok_bind, hrest], hi', ?_⟩
    -- the last call is this one, or one of the rest
    cases calls with
    | nil =>
      simp only [trackSubnets, Except.ok.injEq] at hrest
      subst hrest
      simpa using hs
    | cons c cs => simpa using hlast

/-- **The tracked subnets stay within bounds.** For every LRU map meeting the laws of
`linked.Hashmap`, along every sequence of `TrackSubnet` calls from what `NewNetwork` set up (from
configured subnets given once each), `trackSubnet` never panics; the set of tracked subnets and
the LRU always hold the same subnets, at most `maxNumSubnets` of them; and the subnet of the last
call is tracked. -/
theorem trackSubnets_inv [Inhabited S] {primaryNetworkID : S} {configured : List S}
    (hnodup : configured.Nodup) {n₀ : TrackedSubnets S M}
    (h₀ : newTrackedSubnets lru primaryNetworkID configured = .ok n₀) (calls : List S) :
    ∃ n, trackSubnets lru n₀ calls = .ok n ∧
      (∀ s, s ∈ n.trackedSubnets ↔ s ∈ lru.keys n.lruSubnets) ∧
      n.trackedSubnets.card ≤ maxNumSubnets ∧ ∀ s ∈ calls.getLast?, s ∈ n.trackedSubnets := by
  obtain ⟨n, hcalls, hi, hlast⟩ := trackSubnets_run hl calls (newTrackedSubnets_inv hl hnodup h₀)
  exact ⟨n, hcalls, hi.agree, hi.card_le hl, hlast⟩

end Laws

/-- Subnets `1` and `2` configured beside the primary network `0`, and twenty more tracked one
after another, in the list map: the oldest make room. -/
theorem trackSubnets_inv_sample :
    (LinkedHashmap.listOps : LinkedHashmap.Ops ℕ Unit _).Laws ∧
      ∃ n₀ n : TrackedSubnets ℕ (LinkedHashmap.ListMap ℕ Unit),
      newTrackedSubnets LinkedHashmap.listOps 0 [1, 2, 0] = .ok n₀ ∧
      trackSubnets LinkedHashmap.listOps n₀ (List.range' 3 20) = .ok n ∧
      n.trackedSubnets.card ≤ maxNumSubnets ∧ 22 ∈ n.trackedSubnets :=
  have hnodup : ([1, 2, 0] : List ℕ).Nodup := by decide
  have h₀ : newTrackedSubnets LinkedHashmap.listOps 0 [1, 2, 0] = .ok _ := rfl
  let ⟨n, hn, _, hcard, hlast⟩ :=
    trackSubnets_inv LinkedHashmap.listOps_laws hnodup h₀ (List.range' 3 20)
  ⟨LinkedHashmap.listOps_laws, _, n, h₀, hn, hcard, hlast 22 rfl⟩

end Peers
