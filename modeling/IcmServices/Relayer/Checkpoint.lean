import Mathlib.Data.List.Sort
import Mathlib.Data.List.Nodup

/-!
# The relayer's checkpoint

`CheckpointManager` keeps the height up to which every block has been processed, the
`committedHeight`, and writes it to the database. Blocks finish out of order, so
`StageCommittedHeight` puts a finished height on a min-heap of pending heights and commits from
the top of the heap while it holds the next height.

The heap is `utils.UInt64Heap` under `container/heap`; the model keeps its heights sorted, which
is what the heap property gives `Peek` and `heap.Pop`: the smallest height.

* `stageAll_tracks`: if no height is staged again while a copy of it is pending, after every call
  the committed height is the end of the run of staged heights from the starting height, and the
  heap holds the staged heights above it;
* `stageAll_committed_staged`: with repeats too, every height the committed height passes was
  staged (`Staged`, which `Relayer.Coordinator` uses for the heights whose messages were all
  processed);
* `stageCommittedHeight_stalls`: a height staged twice while pending leaves a copy on the heap
  once it is committed, below the next height, and the committed height never moves again
  (`stageAll_of_stale`).
-/

namespace Checkpoint

/-- `utils.UInt64Heap` under `container/heap`: its heights, smallest first. -/
structure UInt64Heap where
  elems : List ℕ
  sorted : elems.Pairwise (· ≤ ·)

namespace UInt64Heap

def empty : UInt64Heap := ⟨[], .nil⟩

/-- `heap.Push`. -/
def push (h : UInt64Heap) (x : ℕ) : UInt64Heap :=
  ⟨h.elems.orderedInsert (· ≤ ·) x, h.sorted.orderedInsert x _⟩

@[simp] theorem mem_push {h : UInt64Heap} {x y : ℕ} : y ∈ (h.push x).elems ↔ y = x ∨ y ∈ h.elems :=
  List.mem_orderedInsert _

end UInt64Heap

/-- The loop of `StageCommittedHeight` on the pending heights, smallest first: while the top is
the next height, `heap.Pop` it and commit it, until the heap is empty. -/
def commitLoop (committedHeight : ℕ) (dirty : Bool) : List ℕ → ℕ × Bool × List ℕ
  | [] => (committedHeight, dirty, [])
  | top :: rest =>
    if top = committedHeight + 1 then
      if rest.length = 0 then (top, true, rest) else commitLoop top true rest
    else (committedHeight, dirty, top :: rest)

theorem commitLoop_suffix (committedHeight : ℕ) (dirty : Bool) :
    ∀ pending : List ℕ, (commitLoop committedHeight dirty pending).2.2 <:+ pending
  | [] => List.suffix_refl _
  | top :: rest => by
    unfold commitLoop
    split
    · split
      · exact List.suffix_cons _ _
      · exact (commitLoop_suffix top true rest).trans (List.suffix_cons _ _)
    · exact List.suffix_refl _

/-- `CheckpointManager`: the fields `StageCommittedHeight` reads and writes. -/
structure CheckpointManager where
  committedHeight : ℕ
  pendingCommits : UInt64Heap
  dirty : Bool

/-- `NewCheckpointManager`, from the height stored in the database and the starting height. -/
def newCheckpointManager (storedHeight startingHeight : ℕ) : CheckpointManager :=
  ⟨max storedHeight startingHeight, .empty, true⟩

/-- The commit loop on the manager's heap. -/
def commitPending (cm : CheckpointManager) : CheckpointManager :=
  let result := commitLoop cm.committedHeight cm.dirty cm.pendingCommits.elems
  ⟨result.1, ⟨result.2.2, cm.pendingCommits.sorted.sublist
    (commitLoop_suffix cm.committedHeight cm.dirty cm.pendingCommits.elems).sublist⟩, result.2.1⟩

/-- `CheckpointManager.StageCommittedHeight`. -/
def stageCommittedHeight (cm : CheckpointManager) (height : ℕ) : CheckpointManager :=
  if height ≤ cm.committedHeight then cm
  else commitPending { cm with pendingCommits := cm.pendingCommits.push height }

/-- The manager after staging `heights` in order. -/
def stageAll (cm : CheckpointManager) (heights : List ℕ) : CheckpointManager :=
  heights.foldl stageCommittedHeight cm

/-- `writeToDatabase`, from what the database held for the relayer: the committed height is
written when it is not `0` and has changed since the last write, and the manager is then clean. -/
def writeToDatabase (stored : Option ℕ) (cm : CheckpointManager) : Option ℕ × CheckpointManager :=
  if cm.committedHeight = 0 ∨ cm.dirty = false then (stored, cm)
  else (some cm.committedHeight, { cm with dirty := false })

theorem writeToDatabase_spec (stored : Option ℕ) (cm : CheckpointManager) :
    ((writeToDatabase stored cm).1 = stored ∨
        (writeToDatabase stored cm).1 = some cm.committedHeight) ∧
      (writeToDatabase stored cm).2.committedHeight = cm.committedHeight ∧
      (writeToDatabase stored cm).2.pendingCommits = cm.pendingCommits := by
  unfold writeToDatabase
  split
  · exact ⟨.inl rfl, rfl, rfl⟩
  · exact ⟨.inr rfl, rfl, rfl⟩

/-! ## Without repeats while pending, the checkpoint follows the staged heights -/

/-- The committed height and the pending heights after staging `staged` from `c₀`: every height
from `c₀` up to the committed one was staged, and the heap holds, once each, the staged heights
above it. The commit loop keeps this; when it stops, the next height is not staged (`Tracks`). -/
structure Tracking (c₀ : ℕ) (staged : List ℕ) (committedHeight : ℕ) (heap : List ℕ) : Prop where
  start : c₀ ≤ committedHeight
  committed : ∀ x, c₀ < x → x ≤ committedHeight → x ∈ staged
  pending : ∀ x, x ∈ heap ↔ x ∈ staged ∧ committedHeight < x
  nodup : heap.Nodup

/-- A manager whose committed height is the end of the run of staged heights from `c₀`. -/
structure Tracks (c₀ : ℕ) (staged : List ℕ) (cm : CheckpointManager) : Prop where
  tracking : Tracking c₀ staged cm.committedHeight cm.pendingCommits.elems
  next : cm.committedHeight + 1 ∉ staged

theorem Tracking.pop {c₀ c top : ℕ} {staged rest : List ℕ} (ht : Tracking c₀ staged c (top :: rest))
    (hs : (top :: rest).Pairwise (· ≤ ·)) (htop : top = c + 1) : Tracking c₀ staged top rest where
  start := by have := ht.start; omega
  committed x hx hle := by
    rcases Nat.lt_or_ge c x with hlt | hle'
    · exact ((ht.pending x).mp (by rw [show x = top by omega]; exact List.mem_cons_self)).1
    · exact ht.committed x hx hle'
  pending x := by
    have hnd := ht.nodup
    rw [List.nodup_cons] at hnd
    constructor
    · intro hx
      have hle := List.rel_of_pairwise_cons hs hx
      have hne : x ≠ top := fun h => hnd.1 (h ▸ hx)
      exact ⟨((ht.pending x).mp (List.mem_cons_of_mem _ hx)).1, by omega⟩
    · rintro ⟨hx, hlt⟩
      rcases List.mem_cons.mp ((ht.pending x).mpr ⟨hx, by omega⟩) with rfl | hmem
      · omega
      · exact hmem
  nodup := (List.nodup_cons.mp ht.nodup).2

/-- The commit loop commits the run of next heights on top of the heap, and stops at a height
that is not the next one, or at an empty heap. -/
theorem commitLoop_tracking {c₀ : ℕ} {staged : List ℕ} : ∀ {c : ℕ} {d : Bool} {heap : List ℕ},
    heap.Pairwise (· ≤ ·) → Tracking c₀ staged c heap →
      Tracking c₀ staged (commitLoop c d heap).1 (commitLoop c d heap).2.2 ∧
        (commitLoop c d heap).1 + 1 ∉ staged
  | c, d, [], _, ht => ⟨ht, fun h => by simpa using (ht.pending (c + 1)).mpr ⟨h, by omega⟩⟩
  | c, d, top :: rest, hs, ht => by
    unfold commitLoop
    by_cases htop : top = c + 1
    · have ht' := ht.pop hs htop
      rw [if_pos htop]
      split
      · -- the heap is empty: the loop breaks
        rename_i hnil
        rw [List.length_eq_zero_iff] at hnil
        subst hnil
        exact ⟨ht', fun h => by simpa using (ht'.pending (top + 1)).mpr ⟨h, by omega⟩⟩
      · exact commitLoop_tracking hs.of_cons ht'
    · -- the top is above the next height, and so is every pending height
      rw [if_neg htop]
      refine ⟨ht, fun h => ?_⟩
      have hmem := (ht.pending (c + 1)).mpr ⟨h, by omega⟩
      have htop' : c < top := ((ht.pending top).mp List.mem_cons_self).2
      rcases List.mem_cons.mp hmem with heq | hrest
      · omega
      · have := List.rel_of_pairwise_cons hs hrest
        omega

theorem stageCommittedHeight_tracks {c₀ height : ℕ} {staged : List ℕ} {cm : CheckpointManager}
    (ht : Tracks c₀ staged cm) (hfresh : height ∉ cm.pendingCommits.elems) :
    Tracks c₀ (staged ++ [height]) (stageCommittedHeight cm height) := by
  have hsub : ∀ x, x ∈ staged → x ∈ staged ++ [height] := fun x hx => List.mem_append_left _ hx
  unfold stageCommittedHeight
  split
  · -- at or below the committed height: skipped
    rename_i hle
    refine ⟨⟨ht.tracking.start, fun x hx hle' => hsub x (ht.tracking.committed x hx hle'),
      fun x => ?_, ht.tracking.nodup⟩, ?_⟩
    · rw [ht.tracking.pending x, List.mem_append, List.mem_singleton]
      constructor
      · exact fun h => ⟨.inl h.1, h.2⟩
      · rintro ⟨hx | rfl, hlt⟩
        · exact ⟨hx, hlt⟩
        · omega
    · rw [List.mem_append, List.mem_singleton, not_or]
      exact ⟨ht.next, by omega⟩
  · -- pushed, then the loop commits what it can
    rename_i hgt
    have hpushed : Tracking c₀ (staged ++ [height]) cm.committedHeight
        (cm.pendingCommits.push height).elems := by
      refine ⟨ht.tracking.start, fun x hx hle => hsub x (ht.tracking.committed x hx hle),
        fun x => ?_, ?_⟩
      · rw [UInt64Heap.mem_push, ht.tracking.pending x, List.mem_append, List.mem_singleton]
        constructor
        · rintro (rfl | ⟨hx, hlt⟩)
          · exact ⟨.inr rfl, by omega⟩
          · exact ⟨.inl hx, hlt⟩
        · rintro ⟨hx | rfl, hlt⟩
          · exact .inr ⟨hx, hlt⟩
          · exact .inl rfl
      · exact (List.perm_orderedInsert _ _ _).nodup_iff.mpr
          (List.nodup_cons.mpr ⟨hfresh, ht.tracking.nodup⟩)
    obtain ⟨htr, hnext⟩ := commitLoop_tracking (d := cm.dirty) (cm.pendingCommits.push height).sorted
      hpushed
    exact ⟨htr, hnext⟩

/-- No height is staged while a copy of it is pending. -/
def NoRepeatPending : CheckpointManager → List ℕ → Prop
  | _, [] => True
  | cm, height :: heights =>
    height ∉ cm.pendingCommits.elems ∧ NoRepeatPending (stageCommittedHeight cm height) heights

instance decNoRepeatPending : ∀ cm heights, Decidable (NoRepeatPending cm heights)
  | _, [] => isTrue trivial
  | cm, height :: heights =>
    have := decNoRepeatPending (stageCommittedHeight cm height) heights
    inferInstanceAs (Decidable (_ ∧ _))

theorem stageAll_tracking {c₀ : ℕ} : ∀ {staged : List ℕ} {cm : CheckpointManager} (heights : List ℕ),
    Tracks c₀ staged cm → NoRepeatPending cm heights → Tracks c₀ (staged ++ heights) (stageAll cm heights)
  | staged, cm, [], ht, _ => by simpa [stageAll] using ht
  | staged, cm, height :: heights, ht, ⟨hfresh, hrest⟩ => by
    have := stageAll_tracking heights (stageCommittedHeight_tracks ht hfresh) hrest
    simpa [stageAll] using this

theorem tracks_new (storedHeight startingHeight : ℕ) :
    Tracks (max storedHeight startingHeight) [] (newCheckpointManager storedHeight startingHeight) where
  tracking := ⟨le_rfl, fun x hx hle => absurd hle (by simp [newCheckpointManager]; omega),
    fun x => by simp [newCheckpointManager, UInt64Heap.empty], List.nodup_nil⟩
  next := List.not_mem_nil

/-- If no height is staged again while a copy of it is pending, then after any heights are
staged the committed height is the largest `h ≥ c₀` such that every height in `(c₀, h]` was
staged, and the heap holds exactly the staged heights above it. -/
theorem stageAll_tracks (storedHeight startingHeight : ℕ) (heights : List ℕ)
    (h : NoRepeatPending (newCheckpointManager storedHeight startingHeight) heights) :
    max storedHeight startingHeight ≤
        (stageAll (newCheckpointManager storedHeight startingHeight) heights).committedHeight ∧
      (∀ x, max storedHeight startingHeight < x →
        x ≤ (stageAll (newCheckpointManager storedHeight startingHeight) heights).committedHeight →
          x ∈ heights) ∧
      (stageAll (newCheckpointManager storedHeight startingHeight) heights).committedHeight + 1 ∉
        heights ∧
      ∀ x, x ∈ (stageAll (newCheckpointManager storedHeight startingHeight) heights).pendingCommits.elems ↔
        x ∈ heights ∧
          (stageAll (newCheckpointManager storedHeight startingHeight) heights).committedHeight < x := by
  have ht := stageAll_tracking heights (tracks_new storedHeight startingHeight) h
  rw [List.nil_append] at ht
  exact ⟨ht.tracking.start, ht.tracking.committed, ht.next, ht.tracking.pending⟩

/-- Heights 11, 12 and 13 staged out of order from 10 are all committed. -/
theorem stageAll_tracks_outOfOrder :
    NoRepeatPending (newCheckpointManager 0 10) [12, 11, 13] ∧
      max 0 10 ≤ (stageAll (newCheckpointManager 0 10) [12, 11, 13]).committedHeight ∧
      (∀ x, max 0 10 < x → x ≤ (stageAll (newCheckpointManager 0 10) [12, 11, 13]).committedHeight →
        x ∈ [12, 11, 13]) ∧
      (stageAll (newCheckpointManager 0 10) [12, 11, 13]).committedHeight + 1 ∉ [12, 11, 13] ∧
      ∀ x, x ∈ (stageAll (newCheckpointManager 0 10) [12, 11, 13]).pendingCommits.elems ↔
        x ∈ [12, 11, 13] ∧ (stageAll (newCheckpointManager 0 10) [12, 11, 13]).committedHeight < x :=
  have h : NoRepeatPending (newCheckpointManager 0 10) [12, 11, 13] := by decide
  ⟨h, stageAll_tracks 0 10 [12, 11, 13] h⟩

/-! ## The committed height passes only staged heights -/

/-- With repeats or without: every height from `c₀` up to the committed one, and every pending
height, has `P`, a property that each staged height has. -/
structure Staged (P : ℕ → Prop) (c₀ committedHeight : ℕ) (heap : List ℕ) : Prop where
  start : c₀ ≤ committedHeight
  committed : ∀ x, c₀ < x → x ≤ committedHeight → P x
  pending : ∀ x ∈ heap, P x

theorem Staged.mono {P Q : ℕ → Prop} {c₀ c : ℕ} {heap : List ℕ} (hPQ : ∀ x, P x → Q x)
    (h : Staged P c₀ c heap) : Staged Q c₀ c heap :=
  ⟨h.start, fun x hx hle => hPQ x (h.committed x hx hle), fun x hx => hPQ x (h.pending x hx)⟩

theorem Staged.pop {P : ℕ → Prop} {c₀ c top : ℕ} {rest : List ℕ} (h : Staged P c₀ c (top :: rest))
    (htop : top = c + 1) : Staged P c₀ top rest where
  start := by have := h.start; omega
  committed x hx hle := by
    rcases Nat.lt_or_ge c x with hlt | hle'
    · rw [show x = top by omega]
      exact h.pending top List.mem_cons_self
    · exact h.committed x hx hle'
  pending x hx := h.pending x (List.mem_cons_of_mem _ hx)

theorem commitLoop_staged {P : ℕ → Prop} {c₀ : ℕ} : ∀ {c : ℕ} {d : Bool} {heap : List ℕ},
    Staged P c₀ c heap → Staged P c₀ (commitLoop c d heap).1 (commitLoop c d heap).2.2
  | _, _, [], h => h
  | c, d, top :: rest, h => by
    unfold commitLoop
    by_cases htop : top = c + 1
    · rw [if_pos htop]
      split
      · exact h.pop htop
      · exact commitLoop_staged (h.pop htop)
    · rw [if_neg htop]
      exact h

theorem stageCommittedHeight_staged {P : ℕ → Prop} {c₀ height : ℕ} {cm : CheckpointManager}
    (h : Staged P c₀ cm.committedHeight cm.pendingCommits.elems) (hp : P height) :
    Staged P c₀ (stageCommittedHeight cm height).committedHeight
      (stageCommittedHeight cm height).pendingCommits.elems := by
  unfold stageCommittedHeight
  split
  · exact h
  · have hpushed : Staged P c₀ cm.committedHeight (cm.pendingCommits.push height).elems :=
      ⟨h.start, h.committed, fun x hx => (UInt64Heap.mem_push.mp hx).elim (· ▸ hp) (h.pending x)⟩
    exact commitLoop_staged hpushed

theorem stageAll_staged {P : ℕ → Prop} {c₀ : ℕ} : ∀ {cm : CheckpointManager} (heights : List ℕ),
    (∀ x ∈ heights, P x) → Staged P c₀ cm.committedHeight cm.pendingCommits.elems →
      Staged P c₀ (stageAll cm heights).committedHeight (stageAll cm heights).pendingCommits.elems
  | _, [], _, h => h
  | cm, height :: heights, hp, h => by
    have hs := stageCommittedHeight_staged h (hp height List.mem_cons_self)
    exact stageAll_staged heights (fun x hx => hp x (List.mem_cons_of_mem _ hx)) hs

theorem staged_new (P : ℕ → Prop) (storedHeight startingHeight : ℕ) :
    Staged P (max storedHeight startingHeight)
      (newCheckpointManager storedHeight startingHeight).committedHeight
      (newCheckpointManager storedHeight startingHeight).pendingCommits.elems :=
  ⟨le_rfl, fun x hx hle => absurd hle (by simp [newCheckpointManager]; omega),
    fun x hx => by simp [newCheckpointManager, UInt64Heap.empty] at hx⟩

/-- Whatever heights are staged, repeats and all, every height the checkpoint passes above the
starting one was staged. -/
theorem stageAll_committed_staged (storedHeight startingHeight : ℕ) (heights : List ℕ) (x : ℕ)
    (hlo : max storedHeight startingHeight < x)
    (hhi : x ≤ (stageAll (newCheckpointManager storedHeight startingHeight) heights).committedHeight) :
    x ∈ heights := by
  have h₀ := staged_new (· ∈ heights) storedHeight startingHeight
  exact (stageAll_staged heights (fun _ hx => hx) h₀).committed x hlo hhi

/-! ## A height staged twice while pending stops the checkpoint -/

/-- A pending height at or below the committed height. -/
def Stale (cm : CheckpointManager) : Prop := ∃ x ∈ cm.pendingCommits.elems, x ≤ cm.committedHeight

/-- Under a stale height the top of the heap is never the next height: the loop does nothing. -/
theorem commitLoop_of_stale {c : ℕ} {d : Bool} {heap : List ℕ} (hs : heap.Pairwise (· ≤ ·))
    (hx : ∃ x ∈ heap, x ≤ c) : commitLoop c d heap = (c, d, heap) := by
  obtain ⟨x, hx, hle⟩ := hx
  cases heap with
  | nil => cases hx
  | cons top rest =>
    -- the top is the smallest pending height
    have htop : top ≤ x := by
      rcases List.mem_cons.mp hx with rfl | hrest
      · exact le_rfl
      · exact List.rel_of_pairwise_cons hs hrest
    rw [commitLoop, if_neg (by omega)]

theorem commitPending_of_stale {cm : CheckpointManager} (h : Stale cm) : commitPending cm = cm := by
  obtain ⟨c, ⟨heap, hs⟩, d⟩ := cm
  simp only [commitPending, commitLoop_of_stale hs h]

theorem stageCommittedHeight_of_stale {cm : CheckpointManager} (h : Stale cm) (height : ℕ) :
    (stageCommittedHeight cm height).committedHeight = cm.committedHeight ∧
      Stale (stageCommittedHeight cm height) := by
  unfold stageCommittedHeight
  by_cases hle : height ≤ cm.committedHeight
  · rw [if_pos hle]
    exact ⟨rfl, h⟩
  · -- the pushed height leaves the stale one where it was
    obtain ⟨x, hx, hle'⟩ := h
    have hstale : Stale { cm with pendingCommits := cm.pendingCommits.push height } :=
      ⟨x, UInt64Heap.mem_push.mpr (.inr hx), hle'⟩
    rw [if_neg hle, commitPending_of_stale hstale]
    exact ⟨rfl, hstale⟩

/-- Once a height is stale, no staging moves the committed height. -/
theorem stageAll_of_stale : ∀ {cm : CheckpointManager} (heights : List ℕ), Stale cm →
    (stageAll cm heights).committedHeight = cm.committedHeight
  | _, [], _ => rfl
  | cm, height :: heights, h => by
    obtain ⟨hc, hs⟩ := stageCommittedHeight_of_stale h height
    rw [stageAll, List.foldl_cons, ← stageAll, stageAll_of_stale heights hs, hc]

/-- From the committed height `c`, staging `c + 2` twice and then `c + 1` commits both, and
leaves a copy of `c + 2` on the heap: after it, whatever heights are staged, `c + 3` among them,
the committed height stays `c + 2`. -/
theorem stageCommittedHeight_stalls (storedHeight startingHeight : ℕ) (heights : List ℕ) :
    (stageAll (newCheckpointManager storedHeight startingHeight)
        [max storedHeight startingHeight + 2, max storedHeight startingHeight + 2,
          max storedHeight startingHeight + 1]).committedHeight =
        max storedHeight startingHeight + 2 ∧
      max storedHeight startingHeight + 2 ∈ (stageAll (newCheckpointManager storedHeight startingHeight)
        [max storedHeight startingHeight + 2, max storedHeight startingHeight + 2,
          max storedHeight startingHeight + 1]).pendingCommits.elems ∧
      (stageAll (stageAll (newCheckpointManager storedHeight startingHeight)
        [max storedHeight startingHeight + 2, max storedHeight startingHeight + 2,
          max storedHeight startingHeight + 1]) heights).committedHeight =
        max storedHeight startingHeight + 2 := by
  generalize hc : max storedHeight startingHeight = c
  -- the three calls: two pushes of `c + 2`, then `c + 1` commits `c + 1` and one copy of `c + 2`
  have hrun : stageAll (newCheckpointManager storedHeight startingHeight) [c + 2, c + 2, c + 1] =
      ⟨c + 2, ⟨[c + 2], List.pairwise_singleton _ _⟩, true⟩ := by
    simp [stageAll, stageCommittedHeight, newCheckpointManager, hc, commitPending, commitLoop,
      UInt64Heap.push, UInt64Heap.empty, show ¬c + 2 ≤ c by omega, show ¬c + 1 ≤ c by omega]
  rw [hrun]
  exact ⟨rfl, List.mem_singleton_self _, stageAll_of_stale heights ⟨c + 2, List.mem_singleton_self _, le_rfl⟩⟩

end Checkpoint
