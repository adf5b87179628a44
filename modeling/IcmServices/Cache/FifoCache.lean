import Mathlib.Data.List.Nodup
import Mathlib.Logic.Function.Basic
import IcmServices.Lib.Lookup

/-!
# The FIFO cache

`FIFOCache` keeps at most `capacity` entries: a map, and the queue of its keys in the order they
were inserted. `Get` returns the cached value of a present key; otherwise it fetches the value and,
if the fetch succeeded, inserts it, evicting the oldest key when the queue is full.

The calls here are sequential: the single-flight map and the locks only matter between
concurrent calls, and `set` runs under the write lock, so each `set` is one step.

What the cache is for, `window`: after the insertions `log` it holds the last `capacity` of them.
`Holds c log` says that the cache `c` is that window; `Holds.get` is the step lemma, `Holds.getAll`
the run lemma, and `fifoCache_consistent` reads the queue discipline off them.
-/

namespace Cache

variable {K V ε : Type} [DecidableEq K]

/-- `FIFOCache`, without the single-flight map and the locks. -/
structure FIFOCache (K V : Type) where
  cache : K → Option V
  queue : List K
  capacity : ℕ

/-- `FetchFunc`: the fetched value and the error, `none` for a nil error. -/
def FetchFunc (K V ε : Type) : Type := K → V × Option ε

/-- `NewFIFOCache`. -/
def newFIFOCache (capacity : ℕ) : FIFOCache K V := ⟨fun _ => none, [], capacity⟩

/-- `set`; `none` where `c.queue[0]` is out of range, which a capacity of zero reaches. -/
def FIFOCache.set (c : FIFOCache K V) (key : K) (val : V) : Option (FIFOCache K V) :=
  if (c.cache key).isSome then
    -- a present key keeps its place in the queue
    some { c with cache := Function.update c.cache key (some val) }
  else if c.capacity ≤ c.queue.length then
    match c.queue with
    | oldest :: rest =>
      some { c with
        cache := Function.update (Function.update c.cache oldest none) key (some val)
        queue := rest ++ [key] }
    | [] => none
  else
    some { c with cache := Function.update c.cache key (some val), queue := c.queue ++ [key] }

/-- `Get`, with its result `(val, err)` and the cache after it. -/
def FIFOCache.get (c : FIFOCache K V) (key : K) (fetchFunc : FetchFunc K V ε) :
    Option ((V × Option ε) × FIFOCache K V) :=
  match c.cache key with
  | some val => some ((val, none), c)
  | none =>
    match fetchFunc key with
    | (val, none) => (c.set key val).map fun c' => ((val, none), c')
    | (val, some err) => some ((val, some err), c)

/-- The calls one after the other: their results and the final cache. -/
def getAll (c : FIFOCache K V) :
    List (K × FetchFunc K V ε) → Option (List (V × Option ε) × FIFOCache K V)
  | [] => some ([], c)
  | (key, fetchFunc) :: calls =>
    match c.get key fetchFunc with
    | some (r, c') => (getAll c' calls).map fun (rs, c'') => (r :: rs, c'')
    | none => none

/-! ## What a FIFO cache is for -/

/-- The entries a FIFO cache of `capacity` holds after the insertions `log`: the last
`capacity` of them. -/
def window (capacity : ℕ) (log : List (K × V)) : List (K × V) := log.drop (log.length - capacity)

/-- `Get` on the insertion log: a key in the window gives its value; any other is fetched, and a
successful fetch is inserted. -/
def logGet (capacity : ℕ) (log : List (K × V)) (key : K) (fetchFunc : FetchFunc K V ε) :
    (V × Option ε) × List (K × V) :=
  match (window capacity log).lookup key with
  | some val => ((val, none), log)
  | none =>
    match fetchFunc key with
    | (val, none) => ((val, none), log ++ [(key, val)])
    | (val, some err) => ((val, some err), log)

/-- The calls one after the other on the insertion log. -/
def logGetAll (capacity : ℕ) (log : List (K × V)) :
    List (K × FetchFunc K V ε) → List (V × Option ε) × List (K × V)
  | [] => ([], log)
  | (key, fetchFunc) :: calls =>
    match logGet capacity log key fetchFunc with
    | (r, log') =>
      match logGetAll capacity log' calls with
      | (rs, log'') => (r :: rs, log'')

omit [DecidableEq K] in
@[simp] theorem window_nil (capacity : ℕ) : window capacity ([] : List (K × V)) = [] := by
  simp [window]

omit [DecidableEq K] in
theorem length_window (capacity : ℕ) (log : List (K × V)) :
    (window capacity log).length = min log.length capacity := by
  rw [window, List.length_drop]
  omega

omit [DecidableEq K] in
theorem window_snoc {capacity : ℕ} (hcap : 0 < capacity) (log : List (K × V)) (x : K × V) :
    window capacity (log ++ [x]) =
      (if capacity ≤ (window capacity log).length then (window capacity log).tail
        else window capacity log) ++ [x] := by
  rw [length_window]
  by_cases hfull : capacity ≤ log.length
  · rw [if_pos (by omega), window, window, List.length_append, List.length_singleton,
      List.drop_append_of_le_length (by omega), List.tail_drop]
    congr 2
    omega
  · rw [if_neg (by omega), window, window, List.length_append, List.length_singleton,
      Nat.sub_eq_zero_of_le (by omega), Nat.sub_eq_zero_of_le (by omega), List.drop_zero,
      List.drop_zero]

/-! ## The cache holds the window of its insertions -/

/-- The cache `c` is the window of the insertions `log`: its queue holds the window's keys,
oldest first, its map the window's entries, and no key is twice in the window. -/
structure Holds (c : FIFOCache K V) (log : List (K × V)) : Prop where
  capacity : 0 < c.capacity
  queue : c.queue = (window c.capacity log).map Prod.fst
  cache : ∀ k, c.cache k = (window c.capacity log).lookup k
  nodup : ((window c.capacity log).map Prod.fst).Nodup

section
variable {c : FIFOCache K V} {log : List (K × V)}

theorem holds_newFIFOCache {capacity : ℕ} (hcap : 0 < capacity) :
    Holds (newFIFOCache capacity : FIFOCache K V) [] :=
  ⟨hcap, by rw [window_nil]; rfl, fun _ => by rw [window_nil]; rfl,
    by rw [window_nil]; exact List.nodup_nil⟩

theorem Holds.isSome_cache_iff (h : Holds c log) (k : K) : (c.cache k).isSome ↔ k ∈ c.queue := by
  rw [h.cache, h.queue, Lookup.isSome_iff_mem]

theorem Holds.cache_eq_none (h : Holds c log) {k : K} (hk : k ∉ c.queue) : c.cache k = none :=
  Option.not_isSome_iff_eq_none.mp fun hs => hk ((h.isSome_cache_iff k).mp hs)

theorem Holds.nodup_queue (h : Holds c log) : c.queue.Nodup := h.queue ▸ h.nodup

theorem Holds.length_queue (h : Holds c log) : c.queue.length ≤ c.capacity := by
  rw [h.queue, List.length_map, length_window]
  exact Nat.min_le_right _ _

end

/-! ## One `Get` -/

section
variable {c : FIFOCache K V} {key : K} {val : V}

theorem set_of_full {oldest : K} {rest : List K} (hkey : c.cache key = none)
    (hq : c.queue = oldest :: rest) (hfull : c.capacity ≤ c.queue.length) :
    c.set key val = some { c with
      cache := Function.update (Function.update c.cache oldest none) key (some val)
      queue := rest ++ [key] } := by
  rw [FIFOCache.set, if_neg (by simp [hkey]), if_pos hfull]
  simp only [hq]

theorem set_of_not_full (hkey : c.cache key = none) (hfull : c.queue.length < c.capacity) :
    c.set key val = some { c with
      cache := Function.update c.cache key (some val)
      queue := c.queue ++ [key] } := by
  rw [FIFOCache.set, if_neg (by simp [hkey]), if_neg (by omega)]

variable {log : List (K × V)}

/-- Inserting a key the cache does not hold keeps it the window of its insertions, with the new
entry at the end of the log. -/
theorem Holds.set (h : Holds c log) (hkey : c.cache key = none) :
    ∃ c', c.set key val = some c' ∧ c'.capacity = c.capacity ∧ Holds c' (log ++ [(key, val)]) := by
  have hnot : key ∉ (window c.capacity log).map Prod.fst :=
    Lookup.eq_none_iff_not_mem.mp (h.cache key ▸ hkey)
  have hw := window_snoc h.capacity log (key, val)
  by_cases hfull : c.capacity ≤ (window c.capacity log).length
  · -- the window is full, so not empty: its oldest entry is evicted
    obtain ⟨⟨oldest, v₀⟩, rest, hwin⟩ : ∃ x rest, window c.capacity log = x :: rest := by
      refine List.exists_cons_of_ne_nil fun he => ?_
      rw [he, List.length_nil] at hfull
      exact absurd h.capacity (by omega)
    have hqfull : c.capacity ≤ c.queue.length := by rw [h.queue, List.length_map]; exact hfull
    rw [if_pos hfull, hwin, List.tail_cons] at hw
    have hq : c.queue = oldest :: rest.map Prod.fst := by rw [h.queue, hwin, List.map_cons]
    have hnd := h.nodup
    rw [hwin, List.map_cons, List.nodup_cons] at hnd
    rw [hwin, List.map_cons, List.mem_cons, not_or] at hnot
    refine ⟨_, set_of_full hkey hq hqfull, rfl, ⟨h.capacity, ?_, fun k => ?_, ?_⟩⟩
    · show rest.map Prod.fst ++ [key] = (window c.capacity (log ++ [(key, val)])).map Prod.fst
      rw [hw, List.map_append, List.map_singleton]
    · show Function.update (Function.update c.cache oldest none) key (some val) k =
        (window c.capacity (log ++ [(key, val)])).lookup k
      rw [hw, Lookup.snoc hnot.2, Function.update_apply, Function.update_apply, h.cache, hwin]
      by_cases hk : k = key
      · rw [if_pos hk, if_pos hk]
      · rw [if_neg hk, if_neg hk]
        by_cases hk₀ : k = oldest
        · rw [if_pos hk₀, hk₀, Lookup.eq_none_iff_not_mem.mpr hnd.1]
        · rw [if_neg hk₀, Lookup.cons_of_ne hk₀]
    · show (window c.capacity (log ++ [(key, val)])).map Prod.fst |>.Nodup
      rw [hw, List.map_append, List.map_singleton, ← List.concat_eq_append]
      exact List.Nodup.concat hnot.2 hnd.2
  · -- room in the queue: the entry is appended
    rw [if_neg hfull] at hw
    have hlen : c.queue.length < c.capacity := by
      rw [h.queue, List.length_map]
      omega
    refine ⟨_, set_of_not_full hkey hlen, rfl, ⟨h.capacity, ?_, fun k => ?_, ?_⟩⟩
    · show c.queue ++ [key] = (window c.capacity (log ++ [(key, val)])).map Prod.fst
      rw [hw, List.map_append, List.map_singleton, h.queue]
    · show Function.update c.cache key (some val) k = (window c.capacity (log ++ [(key, val)])).lookup k
      rw [hw, Lookup.snoc hnot, Function.update_apply, h.cache]
    · show (window c.capacity (log ++ [(key, val)])).map Prod.fst |>.Nodup
      rw [hw, List.map_append, List.map_singleton, ← List.concat_eq_append]
      exact List.Nodup.concat hnot h.nodup

/-- One `Get` refines `Get` on the insertion log: the same result, and the cache after it is the
window of the log after it. -/
theorem Holds.get (h : Holds c log) (key : K) (fetchFunc : FetchFunc K V ε) :
    ∃ c', c.get key fetchFunc = some ((logGet c.capacity log key fetchFunc).1, c') ∧
      c'.capacity = c.capacity ∧ Holds c' (logGet c.capacity log key fetchFunc).2 := by
  unfold FIFOCache.get logGet
  rw [← h.cache key]
  cases hkey : c.cache key with
  | some v => exact ⟨c, rfl, rfl, h⟩
  | none =>
    rcases fetchFunc key with ⟨val, _ | err⟩
    · -- a successful fetch is inserted
      obtain ⟨c', hset, hcap, hc'⟩ : ∃ c', c.set key val = some c' ∧ _ := h.set hkey
      refine ⟨c', ?_, hcap, hc'⟩
      show Option.map (fun c' => ((val, none), c')) (c.set key val) = some ((val, none), c')
      rw [hset, Option.map_some]
    · exact ⟨c, rfl, rfl, h⟩

end

/-- The run lemma: a sequence of calls from a cache that is the window of `log` gives the results
of the calls on the log, and ends in the window of the log they leave. -/
theorem Holds.getAll {c : FIFOCache K V} {log : List (K × V)} (h : Holds c log) :
    ∀ calls : List (K × FetchFunc K V ε), ∃ c', getAll c calls = some ((logGetAll c.capacity log calls).1, c') ∧
      c'.capacity = c.capacity ∧ Holds c' (logGetAll c.capacity log calls).2
  | [] => ⟨c, rfl, rfl, h⟩
  | (key, fetchFunc) :: calls => by
    obtain ⟨c', hget, hcap, hc'⟩ := h.get key fetchFunc
    obtain ⟨c'', hrun, hcap', hc''⟩ := hc'.getAll calls
    rw [hcap] at hrun hc''
    refine ⟨c'', ?_, hcap'.trans hcap, hc''⟩
    rw [Cache.getAll, hget]
    simp only [hrun, Option.map_some]
    rfl

/-! ## The queue discipline -/

/-- What one `Get` does to the cache: a present key gives its value and changes nothing; any
other gives the fetched value and error, and only a successful fetch is cached: its key goes to
the back of the queue, which loses its oldest key when it is full, and no other entry changes. -/
def GetBehaves (c : FIFOCache K V) (key : K) (fetchFunc : FetchFunc K V ε) (r : V × Option ε)
    (c' : FIFOCache K V) : Prop :=
  match c.cache key with
  | some val => r = (val, none) ∧ c' = c
  | none =>
    r = fetchFunc key ∧
      match r.2 with
      | some _ => c' = c
      | none =>
        c'.capacity = c.capacity ∧ c'.cache key = some r.1 ∧
          c'.queue = (if c.capacity ≤ c.queue.length then c.queue.tail else c.queue) ++ [key] ∧
          ∀ k, k ≠ key → c'.cache k = if k ∈ c'.queue then c.cache k else none

section
variable {c : FIFOCache K V} {log : List (K × V)}

omit [DecidableEq K] in
theorem mem_snoc_of_ne {q : List K} {k key : K} (hk : k ≠ key) : k ∈ q ++ [key] ↔ k ∈ q := by
  rw [List.mem_append, List.mem_singleton, or_iff_left hk]

/-- Every `Get` on a cache that is the window of its insertions behaves as `GetBehaves` says. -/
theorem Holds.getBehaves (h : Holds c log) (key : K) (fetchFunc : FetchFunc K V ε) :
    ∃ r c', c.get key fetchFunc = some (r, c') ∧ GetBehaves c key fetchFunc r c' := by
  unfold FIFOCache.get GetBehaves
  cases hkey : c.cache key with
  | some v => exact ⟨_, _, rfl, rfl, rfl⟩
  | none =>
    rcases hf : fetchFunc key with ⟨val, _ | err⟩
    · -- a successful fetch goes to the back of the queue
      by_cases hfull : c.capacity ≤ c.queue.length
      · obtain ⟨oldest, rest, hq⟩ : ∃ oldest rest, c.queue = oldest :: rest :=
          List.exists_cons_of_ne_nil fun he => by
            rw [he, List.length_nil] at hfull
            exact absurd h.capacity (by omega)
        have hnd := h.nodup_queue
        rw [hq, List.nodup_cons] at hnd
        refine ⟨(val, none), { c with
            cache := Function.update (Function.update c.cache oldest none) key (some val)
            queue := rest ++ [key] }, ?_, rfl, rfl, Function.update_self _ _ _,
          by rw [if_pos hfull, hq, List.tail_cons], fun k hk => ?_⟩
        · show Option.map (fun c' => ((val, none), c')) (c.set key val) = _
          rw [set_of_full hkey hq hfull, Option.map_some]
        show Function.update (Function.update c.cache oldest none) key (some val) k =
          if k ∈ rest ++ [key] then c.cache k else none
        rw [Function.update_of_ne hk, Function.update_apply]
        by_cases hk₀ : k = oldest
        · rw [if_pos hk₀, if_neg fun hin => hnd.1 (hk₀ ▸ (mem_snoc_of_ne hk).mp hin)]
        · rw [if_neg hk₀]
          by_cases hin : k ∈ rest
          · rw [if_pos ((mem_snoc_of_ne hk).mpr hin)]
          · rw [if_neg fun hin' => hin ((mem_snoc_of_ne hk).mp hin')]
            exact h.cache_eq_none (by rw [hq, List.mem_cons, not_or]; exact ⟨hk₀, hin⟩)
      · refine ⟨(val, none), { c with
            cache := Function.update c.cache key (some val)
            queue := c.queue ++ [key] }, ?_, rfl, rfl, Function.update_self _ _ _,
          by rw [if_neg hfull], fun k hk => ?_⟩
        · show Option.map (fun c' => ((val, none), c')) (c.set key val) = _
          rw [set_of_not_full hkey (by omega), Option.map_some]
        show Function.update c.cache key (some val) k =
          if k ∈ c.queue ++ [key] then c.cache k else none
        rw [Function.update_of_ne hk]
        by_cases hin : k ∈ c.queue
        · rw [if_pos ((mem_snoc_of_ne hk).mpr hin)]
        · rw [if_neg fun hin' => hin ((mem_snoc_of_ne hk).mp hin')]
          exact h.cache_eq_none hin
    · exact ⟨_, _, rfl, rfl, rfl⟩

end

/-- From an empty cache with room for at least one entry, every sequence of `Get` calls runs
without a panic and gives the results of `Get` on the insertion log. After it the cached keys
are those of the queue, the queue has no repeated key and at most `capacity` keys, and it holds
the keys of the last insertions, oldest first; and the next `Get` behaves as `GetBehaves` says. -/
theorem fifoCache_consistent (capacity : ℕ) (hcap : 1 ≤ capacity) (calls : List (K × FetchFunc K V ε)) :
    ∃ c, getAll (newFIFOCache capacity) calls = some ((logGetAll capacity [] calls).1, c) ∧
      (∀ k, (c.cache k).isSome ↔ k ∈ c.queue) ∧ c.queue.Nodup ∧ c.queue.length ≤ capacity ∧
      c.queue = (window capacity (logGetAll capacity [] calls).2).map Prod.fst ∧
      ∀ (key : K) (fetchFunc : FetchFunc K V ε), ∃ r c', c.get key fetchFunc = some (r, c') ∧
        GetBehaves c key fetchFunc r c' := by
  obtain ⟨c, hrun, hcap', hc⟩ := (holds_newFIFOCache (K := K) (V := V) hcap).getAll calls
  -- the run keeps the capacity it started with
  have hc' : c.capacity = capacity := hcap'
  refine ⟨c, hrun, hc.isSome_cache_iff, hc.nodup_queue, hc' ▸ hc.length_queue, ?_,
    hc.getBehaves⟩
  rw [hc.queue, hc']
  rfl

/-- Keys 1, 2 and 3 fetched into a cache of two, then a failing fetch of 4: 1 is evicted. -/
def sampleCalls : List (ℕ × FetchFunc ℕ ℕ String) :=
  [(1, fun k => (k, none)), (2, fun k => (k, none)), (3, fun k => (k, none)),
    (4, fun _ => (0, some "unavailable"))]

theorem fifoCache_consistent_sample :
    1 ≤ 2 ∧ ∃ c, getAll (newFIFOCache 2) sampleCalls = some ((logGetAll 2 [] sampleCalls).1, c) ∧
      (∀ k, (c.cache k).isSome ↔ k ∈ c.queue) ∧ c.queue.Nodup ∧ c.queue.length ≤ 2 ∧
      c.queue = (window 2 (logGetAll 2 [] sampleCalls).2).map Prod.fst ∧
      ∀ (key : ℕ) (fetchFunc : FetchFunc ℕ ℕ String), ∃ r c', c.get key fetchFunc = some (r, c') ∧
        GetBehaves c key fetchFunc r c' :=
  have hcap : 1 ≤ 2 := by decide
  ⟨hcap, fifoCache_consistent 2 hcap sampleCalls⟩

-- the third insertion evicts key 1, and the failed fetch of 4 leaves the queue as it is
example : (getAll (newFIFOCache 2) sampleCalls).map (fun p => p.2.queue) = some [2, 3] := by decide

end Cache
