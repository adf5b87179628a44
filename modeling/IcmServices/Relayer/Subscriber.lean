import IcmServices.Relayer.Coordinator

/-!
# The blocks of a listener: live blocks, catch-up and reconnects

A listener reads the blocks of its source chain from the subscriber's `ICMBlocks` channel, which
two kinds of goroutines write to. `blocksInfoFromHeaders` turns each header of the node's
new-heads subscription into a `WarpBlockInfo` (`newWarpBlockInfo`), asking the node for the
block's warp logs when the header's bloom filter may hold one. `ProcessFromHeight` catches up on
a range of heights in requests of at most `MaxBlocksPerRequest` blocks (`processBlockRange`),
groups the logs of each request by block (`logsToBlocks`) and sends one block for every height of
the range, with messages or without. `processLogs` starts a catch-up from the height after the
last live block it saw up to the height before the first live block after each (re)subscription,
and passes every block it reads to `ProcessBlock`.

The node is a parameter: `filterLogs fromBlock toBlock` is its answer, after the retries, to a
request of the warp logs of the blocks from `fromBlock` to `toBlock`, and `unpackWarpMessage` is
the parser of a log's data. An error on the listener's error channel ends `processLogs`; a run of
the model stops there.

* `processFromHeight_agrees`: from a node that answers each request with the chain's warp logs
  in the blocks requested, and logs that parse, `ProcessFromHeight` sends exactly one block per
  height of its range, in order, each with the warp messages of the chain at that height, and no
  error; a live block of the same height carries the same messages;
* `processLogs_covers`: along every run of `processLogs` from a positive starting height, with
  reconnects and catch-ups interleaved with live blocks in any order, when the node's new heads
  come in sequence while it is subscribed, every height from the starting height to the last
  live block seen has been passed to `ProcessBlock` with the chain's messages, or is queued in a
  running catch-up.

Heights are `ℕ`: the `uint64` wrap of `startingHeight - 1` at `0` and of the loop's counter near
`2 ^ 64` is left out.
-/

namespace Relayer

open Solidity Function

variable {Msg : Type}

/-- What the relayer reads of a `types.Log`: its topics, its data and the number of its block
(its transaction hash only goes to the logs). -/
structure Log where
  topics : List Bytes32
  data : Bytes
  blockNumber : ℕ
  deriving DecidableEq, Repr

/-- `WarpBlockInfo`. -/
structure WarpBlockInfo (Msg : Type) where
  blockNumber : ℕ
  messages : List (WarpMessageInfo Msg)
  isCatchup : Bool

/-- `ErrInvalidLog`. -/
def errInvalidLog : String := "invalid warp message log"

section Parse

-- the ID of the `SendWarpMessage` event (`WarpPrecompileLogFilter`), and `UnpackWarpMessage`:
-- the unsigned message in a log's data, with its source chain
variable (warpPrecompileLogFilter : Bytes32)
  (unpackWarpMessage : Bytes → Except String (Bytes32 × Msg))

/-- `NewWarpMessageInfo`. -/
def newWarpMessageInfo (log : Log) : Except String (WarpMessageInfo Msg) :=
  if log.topics.length ≠ 3 then .error errInvalidLog
  else if log.topics[0]? ≠ some warpPrecompileLogFilter then .error errInvalidLog
  else do
    let (sourceChainID, unsignedMsg) ← unpackWarpMessage log.data
    -- `common.BytesToAddress` keeps the low 20 bytes of the topic
    pure ⟨sourceChainID, (log.topics.getD 1 0).setWidth 160, unsignedMsg⟩

/-- The loop of `LogsToBlocks`, with the blocks built so far by height. -/
def logsToBlocksLoop : List Log → (ℕ → Option (WarpBlockInfo Msg)) →
    Except String (ℕ → Option (WarpBlockInfo Msg))
  | [], blocks => .ok blocks
  | log :: logs, blocks => do
    let warpMessageInfo ← newWarpMessageInfo warpPrecompileLogFilter unpackWarpMessage log
    match blocks log.blockNumber with
    | some block =>
      logsToBlocksLoop logs (update blocks log.blockNumber
        (some { block with messages := block.messages ++ [warpMessageInfo] }))
    | none =>
      logsToBlocksLoop logs (update blocks log.blockNumber
        (some ⟨log.blockNumber, [warpMessageInfo], true⟩))

/-- `LogsToBlocks`. -/
def logsToBlocks (logs : List Log) : Except String (ℕ → Option (WarpBlockInfo Msg)) :=
  logsToBlocksLoop warpPrecompileLogFilter unpackWarpMessage logs fun _ => none

/-- `NewWarpBlockInfo` of the header of block `number`, whose bloom filter may hold the event when
`bloom`; `filterLogs` is the node's answer to the request of the block's warp logs. -/
def newWarpBlockInfo (number : ℕ) (bloom : Bool) (filterLogs : Except String (List Log)) :
    Except String (WarpBlockInfo Msg) := do
  let logs ←
    if bloom then
      match filterLogs with
      | .error e => .error ("failed to get logs for block: " ++ e)
      | .ok logs => .ok logs
    else .ok []
  let messages ← logs.mapM (newWarpMessageInfo warpPrecompileLogFilter unpackWarpMessage)
  pure ⟨number, messages, false⟩

/-! ## What a chain holds -/

/-- The warp logs of a chain in the blocks from `fromBlock` to `toBlock`, in the chain's order:
what an honest node answers to a request of them. -/
def logsIn (chainLogs : List Log) (fromBlock toBlock : ℕ) : List Log :=
  chainLogs.filter fun log => fromBlock ≤ log.blockNumber ∧ log.blockNumber ≤ toBlock

/-- The warp messages of a chain at a height, in the order of its logs. -/
def messagesAt (chainLogs : List Log) (height : ℕ) : List (WarpMessageInfo Msg) :=
  (chainLogs.filter (·.blockNumber = height)).filterMap fun log =>
    (newWarpMessageInfo warpPrecompileLogFilter unpackWarpMessage log).toOption

/-- The block of a chain at a height, as a catch-up or a live block. -/
def chainBlock (chainLogs : List Log) (isCatchup : Bool) (height : ℕ) : WarpBlockInfo Msg :=
  ⟨height, messagesAt warpPrecompileLogFilter unpackWarpMessage chainLogs height, isCatchup⟩

@[simp] theorem chainBlock_blockNumber (chainLogs : List Log) (isCatchup : Bool) (height : ℕ) :
    (chainBlock warpPrecompileLogFilter unpackWarpMessage chainLogs isCatchup height).blockNumber =
      height := rfl

@[simp] theorem chainBlock_isCatchup (chainLogs : List Log) (isCatchup : Bool) (height : ℕ) :
    (chainBlock warpPrecompileLogFilter unpackWarpMessage chainLogs isCatchup height).isCatchup =
      isCatchup := rfl

/-- The messages a map of blocks holds at a height. -/
def blockMessages (blocks : ℕ → Option (WarpBlockInfo Msg)) (height : ℕ) :
    List (WarpMessageInfo Msg) :=
  ((blocks height).map WarpBlockInfo.messages).getD []

/-- A map of blocks as `LogsToBlocks` builds it: each block under its own number, as a catch-up
block. -/
def WellNumbered (blocks : ℕ → Option (WarpBlockInfo Msg)) : Prop :=
  ∀ n b, blocks n = some b → b.blockNumber = n ∧ b.isCatchup = true

/-- Every log of the list parses. -/
def Parses (logs : List Log) : Prop :=
  ∀ log ∈ logs, ∃ m, newWarpMessageInfo warpPrecompileLogFilter unpackWarpMessage log = .ok m

variable {warpPrecompileLogFilter unpackWarpMessage}

theorem Parses.logsIn {chainLogs : List Log}
    (hparse : Parses warpPrecompileLogFilter unpackWarpMessage chainLogs) (fromBlock toBlock : ℕ) :
    Parses warpPrecompileLogFilter unpackWarpMessage (logsIn chainLogs fromBlock toBlock) :=
  fun log hlog => hparse log (List.mem_of_mem_filter hlog)

theorem messagesAt_cons_of_eq {log : Log} {logs : List Log} {m : WarpMessageInfo Msg}
    (hm : newWarpMessageInfo warpPrecompileLogFilter unpackWarpMessage log = .ok m) (height : ℕ) :
    messagesAt warpPrecompileLogFilter unpackWarpMessage (log :: logs) height =
      if log.blockNumber = height then
        m :: messagesAt warpPrecompileLogFilter unpackWarpMessage logs height
      else messagesAt warpPrecompileLogFilter unpackWarpMessage logs height := by
  by_cases h : log.blockNumber = height
  · simp [messagesAt, h, hm, Except.toOption]
  · simp [messagesAt, h]

/-- A chain's messages in a range, at a height of the range, are its messages at that height. -/
theorem messagesAt_logsIn {chainLogs : List Log} {fromBlock toBlock height : ℕ}
    (hlo : fromBlock ≤ height) (hhi : height ≤ toBlock) :
    messagesAt warpPrecompileLogFilter unpackWarpMessage (logsIn chainLogs fromBlock toBlock)
        height =
      messagesAt warpPrecompileLogFilter unpackWarpMessage chainLogs height := by
  unfold messagesAt logsIn
  rw [List.filter_filter]
  congr 1
  apply List.filter_congr
  intro log _
  by_cases h : log.blockNumber = height
  · simp only [h, decide_true, Bool.true_and, decide_eq_true_eq]
    exact ⟨hlo, hhi⟩
  · simp [h]

/-- `mapM` of a parse that succeeds on every log keeps every message, in order. -/
theorem mapM_newWarpMessageInfo {logs : List Log}
    (hparse : Parses warpPrecompileLogFilter unpackWarpMessage logs) :
    logs.mapM (newWarpMessageInfo warpPrecompileLogFilter unpackWarpMessage) =
      .ok (logs.filterMap fun log =>
        (newWarpMessageInfo warpPrecompileLogFilter unpackWarpMessage log).toOption) := by
  induction logs with
  | nil => rfl
  | cons log logs ih =>
    obtain ⟨m, hm⟩ := hparse log List.mem_cons_self
    rw [List.mapM_cons, hm, ih fun l hl => hparse l (List.mem_cons_of_mem _ hl)]
    simp [hm, Except.toOption]
    rfl

theorem WellNumbered.update {blocks : ℕ → Option (WarpBlockInfo Msg)} (hw : WellNumbered blocks)
    {n : ℕ} {block : WarpBlockInfo Msg} (hn : block.blockNumber = n) (hc : block.isCatchup = true) :
    WellNumbered (update blocks n (some block)) := by
  intro n' b hb
  by_cases hnb : n' = n
  · subst hnb
    rw [update_self, Option.some.injEq] at hb
    subst hb
    exact ⟨hn, hc⟩
  · rw [update_of_ne hnb] at hb
    exact hw n' b hb

/-- One log of `LogsToBlocks` that parses: both branches store a catch-up block under the log's
number, with the log's message appended to those held there. -/
theorem logsToBlocksLoop_cons (logs : List Log) {log : Log} {m : WarpMessageInfo Msg}
    {blocks : ℕ → Option (WarpBlockInfo Msg)} (hw : WellNumbered blocks)
    (hm : newWarpMessageInfo warpPrecompileLogFilter unpackWarpMessage log = .ok m) :
    ∃ block : WarpBlockInfo Msg,
      logsToBlocksLoop warpPrecompileLogFilter unpackWarpMessage (log :: logs) blocks =
        logsToBlocksLoop warpPrecompileLogFilter unpackWarpMessage logs
          (update blocks log.blockNumber (some block)) ∧
      block.blockNumber = log.blockNumber ∧ block.isCatchup = true ∧
      block.messages = blockMessages blocks log.blockNumber ++ [m] := by
  cases hb : blocks log.blockNumber with
  | none =>
    refine ⟨⟨log.blockNumber, [m], true⟩, ?_, rfl, rfl, ?_⟩
    · simp only [logsToBlocksLoop, hm, bind, Except.bind, hb]
    · simp [blockMessages, hb]
  | some block =>
    obtain ⟨hn, hc⟩ := hw _ _ hb
    refine ⟨{ block with messages := block.messages ++ [m] }, ?_, hn, hc, ?_⟩
    · simp only [logsToBlocksLoop, hm, bind, Except.bind, hb]
    · simp [blockMessages, hb]

/-- Whatever the logs, the map `LogsToBlocks` builds keeps each block under its own number. -/
theorem logsToBlocksLoop_wellNumbered : ∀ {logs : List Log}
    {blocks blocks' : ℕ → Option (WarpBlockInfo Msg)}, WellNumbered blocks →
    logsToBlocksLoop warpPrecompileLogFilter unpackWarpMessage logs blocks = .ok blocks' →
    WellNumbered blocks'
  | [], _, _, hw, h => by
    cases h
    exact hw
  | log :: logs, blocks, _, hw, h => by
    cases hm : newWarpMessageInfo warpPrecompileLogFilter unpackWarpMessage log with
    | error e => simp [logsToBlocksLoop, hm, bind, Except.bind] at h
    | ok m =>
      obtain ⟨block, heq, hn, hc, -⟩ := logsToBlocksLoop_cons logs hw hm
      rw [heq] at h
      exact logsToBlocksLoop_wellNumbered (hw.update hn hc) h

/-- **The loop of `LogsToBlocks`.** On logs that parse, it succeeds, keeps each block under its
own number, and appends to each height's messages those of the logs at that height, in order. -/
theorem logsToBlocksLoop_spec : ∀ {logs : List Log} {blocks : ℕ → Option (WarpBlockInfo Msg)},
    Parses warpPrecompileLogFilter unpackWarpMessage logs →
    WellNumbered blocks →
    ∃ blocks', logsToBlocksLoop warpPrecompileLogFilter unpackWarpMessage logs blocks =
        .ok blocks' ∧ WellNumbered blocks' ∧
      ∀ n, blockMessages blocks' n =
        blockMessages blocks n ++ messagesAt warpPrecompileLogFilter unpackWarpMessage logs n
  | [], blocks, _, hw => ⟨blocks, rfl, hw, fun n => by simp [messagesAt]⟩
  | log :: logs, blocks, hparse, hw => by
    obtain ⟨m, hm⟩ := hparse log List.mem_cons_self
    obtain ⟨block, heq, hn, hc, hmsgs⟩ := logsToBlocksLoop_cons logs hw hm
    obtain ⟨blocks', hloop, hw', hspec⟩ :=
      logsToBlocksLoop_spec (fun l hl => hparse l (List.mem_cons_of_mem _ hl)) (hw.update hn hc)
    refine ⟨blocks', heq.trans hloop, hw', fun n => ?_⟩
    rw [hspec n, messagesAt_cons_of_eq hm]
    by_cases hnb : log.blockNumber = n
    · subst hnb
      simp [blockMessages, hmsgs]
    · rw [if_neg hnb]
      simp [blockMessages, update_of_ne (Ne.symm hnb)]

/-- On logs that parse, `LogsToBlocks` holds at each height the messages of the logs at that
height, in order. -/
theorem logsToBlocks_spec {logs : List Log}
    (hparse : Parses warpPrecompileLogFilter unpackWarpMessage logs) :
    ∃ blocks, logsToBlocks warpPrecompileLogFilter unpackWarpMessage logs = .ok blocks ∧
      WellNumbered blocks ∧
      ∀ n, blockMessages blocks n = messagesAt warpPrecompileLogFilter unpackWarpMessage logs n := by
  have hnone : WellNumbered (fun _ => none : ℕ → Option (WarpBlockInfo Msg)) :=
    fun _ _ h => by cases h
  obtain ⟨blocks, h, hw, hspec⟩ := logsToBlocksLoop_spec hparse hnone
  exact ⟨blocks, h, hw, fun n => by simpa [blockMessages] using hspec n⟩

/-- A block the map holds, or the empty catch-up block in its place, is the catch-up block of its
height with the map's messages. -/
theorem getD_of_wellNumbered {blocks : ℕ → Option (WarpBlockInfo Msg)} (hw : WellNumbered blocks)
    (n : ℕ) : (blocks n).getD ⟨n, [], true⟩ = ⟨n, blockMessages blocks n, true⟩ := by
  cases hb : blocks n with
  | none => simp [blockMessages, hb]
  | some b =>
    obtain ⟨hn, hc⟩ := hw n b hb
    cases b
    simp_all [blockMessages]

end Parse

end Relayer

namespace Evm

open Solidity Relayer

variable {Msg : Type}

/-- `MaxBlocksPerRequest`. -/
def maxBlocksPerRequest : ℕ := 200

/-- The requests of `ProcessFromHeight` tile its range: the first one's heights and those from
the next request's start on are all the heights from `fromBlock` to `endingHeight`. -/
theorem range'_chunk {fromBlock endingHeight : ℕ} (hle : fromBlock ≤ endingHeight) :
    List.range' fromBlock (min (fromBlock + maxBlocksPerRequest - 1) endingHeight + 1 - fromBlock) ++
        List.range' (fromBlock + maxBlocksPerRequest)
          (endingHeight + 1 - (fromBlock + maxBlocksPerRequest)) =
      List.range' fromBlock (endingHeight + 1 - fromBlock) := by
  unfold maxBlocksPerRequest
  by_cases hlast : endingHeight < fromBlock + 200
  · -- the last request: it reaches `endingHeight`
    have hrest : endingHeight + 1 - (fromBlock + 200) = 0 := by omega
    rw [min_eq_right (by omega), hrest, List.range'_zero, List.append_nil]
  · have hfirst : min (fromBlock + 200 - 1) endingHeight + 1 - fromBlock = 200 := by omega
    have hall : 200 + (endingHeight + 1 - (fromBlock + 200)) = endingHeight + 1 - fromBlock := by
      omega
    rw [hfirst, List.range'_append_1, hall]

section Subscriber

-- the node's answer, after the retries, to a request of the warp logs of the blocks from
-- `fromBlock` to `toBlock`
variable (warpPrecompileLogFilter : Bytes32)
  (unpackWarpMessage : Bytes → Except String (Bytes32 × Msg))
  (filterLogs : ℕ → ℕ → Except String (List Log))

/-- `processBlockRange`. -/
def processBlockRange (fromBlock toBlock : ℕ) : Except String (List (WarpBlockInfo Msg)) := do
  let logs ←
    match filterLogs fromBlock toBlock with
    | .error e => .error ("failed to get header by number after max attempts: " ++
        "failed to get filter logs by block range: " ++ e)
    | .ok logs => .ok logs
  let blocksWithICMMessages ← logsToBlocks warpPrecompileLogFilter unpackWarpMessage logs
  -- a block with no message is sent as well, as an empty catch-up block
  pure ((List.range' fromBlock (toBlock + 1 - fromBlock)).map fun i =>
    (blocksWithICMMessages i).getD ⟨i, [], true⟩)

/-- `ProcessFromHeight`, its loop from `fromBlock` on: the blocks it sends on `ICMBlocks`, and the
error it sends on the error channel when a range fails. -/
def processFromHeight (fromBlock endingHeight : ℕ) : List (WarpBlockInfo Msg) × Option String :=
  if fromBlock ≤ endingHeight then
    let toBlock := min (fromBlock + maxBlocksPerRequest - 1) endingHeight
    match processBlockRange warpPrecompileLogFilter unpackWarpMessage filterLogs fromBlock
        toBlock with
    | .error err => ([], some ("failed to process block range: " ++ err))
    | .ok blocks =>
      let rest := processFromHeight (fromBlock + maxBlocksPerRequest) endingHeight
      (blocks ++ rest.1, rest.2)
  else ([], none)
termination_by endingHeight + 1 - fromBlock
decreasing_by
  unfold maxBlocksPerRequest
  omega

variable {warpPrecompileLogFilter unpackWarpMessage filterLogs}

/-- From a node that answers with the chain's logs in each range, a range gives the chain's block
at each of its heights. -/
theorem processBlockRange_of_node {chainLogs : List Log}
    (hnode : ∀ fromBlock toBlock, filterLogs fromBlock toBlock =
      .ok (logsIn chainLogs fromBlock toBlock))
    (hparse : Parses warpPrecompileLogFilter unpackWarpMessage chainLogs) (fromBlock toBlock : ℕ) :
    processBlockRange warpPrecompileLogFilter unpackWarpMessage filterLogs fromBlock toBlock =
      .ok ((List.range' fromBlock (toBlock + 1 - fromBlock)).map
        (chainBlock warpPrecompileLogFilter unpackWarpMessage chainLogs true)) := by
  obtain ⟨blocks, hblocks, hw, hmsgs⟩ := logsToBlocks_spec (hparse.logsIn fromBlock toBlock)
  simp only [processBlockRange, hnode, hblocks, bind, Except.bind, pure, Except.pure]
  congr 1
  apply List.map_congr_left
  intro i hi
  rw [List.mem_range'_1] at hi
  rw [getD_of_wellNumbered hw, hmsgs, messagesAt_logsIn (by omega) (by omega)]
  rfl

/-- From a node that answers with the chain's logs, `ProcessFromHeight` sends the chain's block at
each height of its range, in order, and no error. -/
theorem processFromHeight_of_node {chainLogs : List Log}
    (hnode : ∀ fromBlock toBlock, filterLogs fromBlock toBlock =
      .ok (logsIn chainLogs fromBlock toBlock))
    (hparse : Parses warpPrecompileLogFilter unpackWarpMessage chainLogs)
    (fromBlock endingHeight : ℕ) :
    processFromHeight warpPrecompileLogFilter unpackWarpMessage filterLogs fromBlock endingHeight =
      ((List.range' fromBlock (endingHeight + 1 - fromBlock)).map
        (chainBlock warpPrecompileLogFilter unpackWarpMessage chainLogs true), none) := by
  fun_induction processFromHeight warpPrecompileLogFilter unpackWarpMessage filterLogs fromBlock
    endingHeight with
  | case1 fromBlock hle toBlock err herr =>
    rw [processBlockRange_of_node hnode hparse] at herr
    cases herr
  | case2 fromBlock hle toBlock blocks hblocks rest ih =>
    rw [processBlockRange_of_node hnode hparse] at hblocks
    cases hblocks
    simp only [rest, ih]
    rw [← List.map_append, range'_chunk hle]
  | case3 fromBlock hgt =>
    rw [Nat.sub_eq_zero_of_le (by omega), List.range'_zero, List.map_nil]

/-- Whatever the node answers, a range that succeeds sends one block per height, in order. -/
theorem processBlockRange_blockNumbers {fromBlock toBlock : ℕ}
    {blocks : List (WarpBlockInfo Msg)}
    (h : processBlockRange warpPrecompileLogFilter unpackWarpMessage filterLogs fromBlock toBlock =
      .ok blocks) :
    blocks.map WarpBlockInfo.blockNumber = List.range' fromBlock (toBlock + 1 - fromBlock) := by
  unfold processBlockRange at h
  cases hf : filterLogs fromBlock toBlock with
  | error e => simp [hf, bind, Except.bind] at h
  | ok logs =>
    simp only [hf, bind_eq_ok, pure_eq_ok, Except.ok.injEq] at h
    obtain ⟨_, rfl, blocksWithICMMessages, hmap, rfl⟩ := h
    have hw : WellNumbered blocksWithICMMessages :=
      logsToBlocksLoop_wellNumbered (fun _ _ h => by cases h) hmap
    rw [List.map_map]
    conv => rhs; rw [← List.map_id (List.range' fromBlock (toBlock + 1 - fromBlock))]
    apply List.map_congr_left
    intro i _
    simp [getD_of_wellNumbered hw i]

end Subscriber

end Evm

namespace Relayer

open Solidity Evm

variable {Msg : Type} {warpPrecompileLogFilter : Bytes32}
  {unpackWarpMessage : Bytes → Except String (Bytes32 × Msg)}
  {filterLogs : ℕ → ℕ → Except String (List Log)}

/-- From a node that answers with the chain's logs, a live block carries the chain's messages at
its height, when its header's bloom filter has no false negative. -/
theorem newWarpBlockInfo_of_node {chainLogs : List Log}
    (hnode : ∀ fromBlock toBlock, filterLogs fromBlock toBlock =
      .ok (logsIn chainLogs fromBlock toBlock))
    (hparse : Parses warpPrecompileLogFilter unpackWarpMessage chainLogs) {height : ℕ}
    {bloom : Bool} (hbloom : bloom = false → ∀ log ∈ chainLogs, log.blockNumber ≠ height) :
    newWarpBlockInfo warpPrecompileLogFilter unpackWarpMessage height bloom
        (filterLogs height height) =
      .ok (chainBlock warpPrecompileLogFilter unpackWarpMessage chainLogs false height) := by
  cases bloom with
  | true =>
    have hall : (logsIn chainLogs height height).filter (·.blockNumber = height) =
        logsIn chainLogs height height := by
      apply List.filter_eq_self.mpr
      intro log hlog
      have hin := (List.mem_filter.mp hlog).2
      simp only [decide_eq_true_eq] at hin ⊢
      omega
    have hmsgs : messagesAt warpPrecompileLogFilter unpackWarpMessage chainLogs height =
        (logsIn chainLogs height height).filterMap fun log =>
          (newWarpMessageInfo warpPrecompileLogFilter unpackWarpMessage log).toOption := by
      rw [← messagesAt_logsIn le_rfl le_rfl, messagesAt, hall]
    simp only [newWarpBlockInfo, hnode, if_true, bind, Except.bind,
      mapM_newWarpMessageInfo (hparse.logsIn height height),
      pure, Except.pure, chainBlock, hmsgs]
  | false =>
    -- no warp log at this height
    have hnone : messagesAt warpPrecompileLogFilter unpackWarpMessage chainLogs height = [] := by
      rw [messagesAt, List.filter_eq_nil_iff.mpr fun log hlog => by simpa using hbloom rfl log hlog]
      rfl
    simp [newWarpBlockInfo, chainBlock, hnone, pure, Except.pure, bind, Except.bind]

/-- **A height's messages do not depend on how it is read.** From a node that answers each
request with the chain's warp logs in the blocks requested, and logs that parse,
`ProcessFromHeight` sends exactly one block per height of its range, in increasing order, each
with the chain's warp messages at that height in the order of its logs, and reports no error;
and the live block of any height, whose header's bloom filter has no false negative, carries the
same messages. -/
theorem processFromHeight_agrees {chainLogs : List Log}
    (hnode : ∀ fromBlock toBlock, filterLogs fromBlock toBlock =
      .ok (logsIn chainLogs fromBlock toBlock))
    (hparse : Parses warpPrecompileLogFilter unpackWarpMessage chainLogs)
    (startingHeight endingHeight : ℕ) :
    processFromHeight warpPrecompileLogFilter unpackWarpMessage filterLogs startingHeight
        endingHeight =
      ((List.range' startingHeight (endingHeight + 1 - startingHeight)).map fun height =>
        ⟨height, messagesAt warpPrecompileLogFilter unpackWarpMessage chainLogs height, true⟩,
        none) ∧
      ∀ height bloom, (bloom = false → ∀ log ∈ chainLogs, log.blockNumber ≠ height) →
        newWarpBlockInfo warpPrecompileLogFilter unpackWarpMessage height bloom
            (filterLogs height height) =
          .ok ⟨height, messagesAt warpPrecompileLogFilter unpackWarpMessage chainLogs height,
            false⟩ :=
  ⟨processFromHeight_of_node hnode hparse startingHeight endingHeight,
    fun _ _ hbloom => newWarpBlockInfo_of_node hnode hparse hbloom⟩

/-- A chain with one warp log, at height `2`, from the contract `0xA`, under the event ID `1`;
its data parses to a message of chain `5`. -/
def sampleLogs : List Log := [⟨[1, 0xA, 0], [7], 2⟩]

def sampleUnpack (data : Bytes) : Except String (Bytes32 × ℕ) := .ok (5, data.length)

/-- The node that answers with the sample chain's logs. -/
def sampleNode (fromBlock toBlock : ℕ) : Except String (List Log) :=
  .ok (logsIn sampleLogs fromBlock toBlock)

theorem sampleLogs_parses : Parses 1 sampleUnpack sampleLogs := by
  intro log hlog
  rw [sampleLogs, List.mem_singleton] at hlog
  subst hlog
  exact ⟨_, rfl⟩

theorem processFromHeight_agrees_sample :
    (∀ fromBlock toBlock, sampleNode fromBlock toBlock =
      .ok (logsIn sampleLogs fromBlock toBlock)) ∧ Parses 1 sampleUnpack sampleLogs ∧
    processFromHeight 1 sampleUnpack sampleNode 1 3 =
      ((List.range' 1 3).map fun height =>
        ⟨height, messagesAt 1 sampleUnpack sampleLogs height, true⟩, none) :=
  ⟨fun _ _ => rfl, sampleLogs_parses,
    (processFromHeight_agrees (fun _ _ => rfl) sampleLogs_parses 1 3).1⟩

/-! ## `processLogs` -/

/-- The state of `processLogs`: `needsCatchup`, the listener's `lastSubscriberBlockProcessed`,
the blocks each catch-up started has yet to send, and, as a record the code does not keep, the
blocks passed to `ProcessBlock`, in order. -/
structure ProcessLogs (Msg : Type) where
  needsCatchup : Bool
  lastSubscriberBlockProcessed : ℕ
  catchups : List (List (WarpBlockInfo Msg))
  processed : List (WarpBlockInfo Msg)

/-- `newListener`: a catch-up is needed, and the last block seen is the one below the starting
height. -/
def ProcessLogs.init (startingHeight : ℕ) : ProcessLogs Msg :=
  ⟨true, startingHeight - 1, [], []⟩

/-- What comes next to `processLogs`. -/
inductive ProcessLogs.Event
  /-- the subscription delivers the header of block `number`, whose bloom filter may hold the
  event when `bloom`, and `blocksInfoFromHeaders` sends its block -/
  | header (number : ℕ) (bloom : Bool)
  /-- the `i`-th catch-up started sends its next block -/
  | catchup (i : ℕ)
  /-- the subscription fails and `reconnectToSubscriber` subscribes again -/
  | subscribeErr

section Loop

variable (warpPrecompileLogFilter unpackWarpMessage filterLogs)

/-- The case of `processLogs` for a block read from `ICMBlocks()`: the first live block after a
(re)subscription starts a catch-up from the height after the last live block seen to the one
before it, a live block above the last one seen becomes the last, and the block goes to
`ProcessBlock`. A catch-up that fails sends its error after its blocks, which ends
`processLogs`. -/
def ProcessLogs.receive (w : ProcessLogs Msg) (icmBlockInfo : WarpBlockInfo Msg) :
    ProcessLogs Msg :=
  let w₁ :=
    if w.needsCatchup = true ∧ icmBlockInfo.isCatchup = false then
      { w with
        needsCatchup := false
        catchups := w.catchups ++ [(processFromHeight warpPrecompileLogFilter unpackWarpMessage
          filterLogs (w.lastSubscriberBlockProcessed + 1) (icmBlockInfo.blockNumber - 1)).1] }
    else w
  let w₂ :=
    if icmBlockInfo.isCatchup = false ∧
        icmBlockInfo.blockNumber > w₁.lastSubscriberBlockProcessed then
      { w₁ with lastSubscriberBlockProcessed := icmBlockInfo.blockNumber }
    else w₁
  { w₂ with processed := w₂.processed ++ [icmBlockInfo] }

/-- One event of `processLogs`; `none` where it cannot happen, or where an error ends it. -/
def ProcessLogs.step (w : ProcessLogs Msg) : ProcessLogs.Event → Option (ProcessLogs Msg)
  | .header number bloom =>
    match newWarpBlockInfo warpPrecompileLogFilter unpackWarpMessage number bloom
        (filterLogs number number) with
    | .ok icmBlockInfo =>
      some (w.receive warpPrecompileLogFilter unpackWarpMessage filterLogs icmBlockInfo)
    -- `blocksInfoFromHeaders` sends the error and stops
    | .error _ => none
  | .catchup i =>
    match w.catchups[i]? with
    | some (icmBlockInfo :: rest) =>
      some ({ w with catchups := w.catchups.set i rest }.receive warpPrecompileLogFilter
        unpackWarpMessage filterLogs icmBlockInfo)
    | _ => none
  | .subscribeErr => some { w with needsCatchup := true }

/-- The states of `processLogs` from a starting height, along events that `env` lets happen. -/
inductive ProcessLogs.Reachable (env : ProcessLogs Msg → ProcessLogs.Event → Prop)
    (startingHeight : ℕ) : ProcessLogs Msg → Prop
  | init : ProcessLogs.Reachable env startingHeight (.init startingHeight)
  | step {w w' : ProcessLogs Msg} {e : ProcessLogs.Event} :
    ProcessLogs.Reachable env startingHeight w → env w e →
      w.step warpPrecompileLogFilter unpackWarpMessage filterLogs e = some w' →
      ProcessLogs.Reachable env startingHeight w'

/-- The node behaves: while it is subscribed, a new head is at most one above the last the
listener saw, and a header's bloom filter has no false negative for the chain's warp logs. -/
def NodeBehaves (chainLogs : List Log) (w : ProcessLogs Msg) : ProcessLogs.Event → Prop
  | .header number bloom =>
    (w.needsCatchup = false → number ≤ w.lastSubscriberBlockProcessed + 1) ∧
      (bloom = false → ∀ log ∈ chainLogs, log.blockNumber ≠ number)
  | _ => True

/-- A height is passed to `ProcessBlock`, or queued in a catch-up. -/
def ProcessLogs.Covered (w : ProcessLogs Msg) (height : ℕ) : Prop :=
  (∃ b ∈ w.processed, b.blockNumber = height) ∨ ∃ q ∈ w.catchups, ∃ b ∈ q, b.blockNumber = height

/-- What every event keeps: the blocks passed on and those queued carry the chain's messages, the
queued ones are catch-up blocks, and each height from the start to the last live block is passed
on or queued. -/
structure ProcessLogs.Inv (chainLogs : List Log) (startingHeight : ℕ) (w : ProcessLogs Msg) :
    Prop where
  processed : ∀ b ∈ w.processed,
    b.messages = messagesAt warpPrecompileLogFilter unpackWarpMessage chainLogs b.blockNumber
  queued : ∀ q ∈ w.catchups, ∀ b ∈ q,
    b = chainBlock warpPrecompileLogFilter unpackWarpMessage chainLogs true b.blockNumber
  covered : ∀ height, startingHeight ≤ height → height ≤ w.lastSubscriberBlockProcessed →
    w.Covered height

variable {warpPrecompileLogFilter unpackWarpMessage filterLogs}

@[simp] theorem ProcessLogs.receive_processed (w : ProcessLogs Msg) (b : WarpBlockInfo Msg) :
    (w.receive warpPrecompileLogFilter unpackWarpMessage filterLogs b).processed =
      w.processed ++ [b] := by
  unfold ProcessLogs.receive
  dsimp only
  split_ifs <;> rfl

theorem ProcessLogs.receive_lastSubscriberBlockProcessed (w : ProcessLogs Msg)
    (b : WarpBlockInfo Msg) :
    (w.receive warpPrecompileLogFilter unpackWarpMessage filterLogs b).lastSubscriberBlockProcessed =
      if b.isCatchup = false ∧ b.blockNumber > w.lastSubscriberBlockProcessed then b.blockNumber
      else w.lastSubscriberBlockProcessed := by
  unfold ProcessLogs.receive
  dsimp only
  split_ifs <;> simp_all

theorem ProcessLogs.receive_catchups (w : ProcessLogs Msg) (b : WarpBlockInfo Msg) :
    (w.receive warpPrecompileLogFilter unpackWarpMessage filterLogs b).catchups =
      w.catchups ++ if w.needsCatchup = true ∧ b.isCatchup = false then
        [(processFromHeight warpPrecompileLogFilter unpackWarpMessage filterLogs
          (w.lastSubscriberBlockProcessed + 1) (b.blockNumber - 1)).1]
      else [] := by
  unfold ProcessLogs.receive
  dsimp only
  split_ifs <;> simp_all

/-- A catch-up sends its next block: every block queued before is that one or is still queued. -/
theorem mem_set_of_mem {α : Type} {l : List (List α)} {i : ℕ} {x : α} {rest : List α}
    (hi : l[i]? = some (x :: rest)) {q : List α} (hq : q ∈ l) {y : α} (hy : y ∈ q) :
    y = x ∨ ∃ q' ∈ l.set i rest, y ∈ q' := by
  obtain ⟨hil, hl⟩ := List.getElem?_eq_some_iff.mp hi
  obtain ⟨j, hj, rfl⟩ := List.mem_iff_getElem.mp hq
  by_cases hji : j = i
  · subst hji
    rw [hl, List.mem_cons] at hy
    rcases hy with rfl | hy
    · exact .inl rfl
    · exact .inr ⟨rest, List.mem_set hil rest, hy⟩
  · refine .inr ⟨l[j], List.mem_iff_getElem.mpr ⟨j, by simpa using hj, ?_⟩, hy⟩
    exact List.getElem_set_ne (Ne.symm hji) _

theorem ProcessLogs.Covered.mono {w w' : ProcessLogs Msg} {height : ℕ} (h : w.Covered height)
    (hp : ∀ b ∈ w.processed, b ∈ w'.processed)
    (hq : ∀ q ∈ w.catchups, ∀ b ∈ q, b ∈ w'.processed ∨ ∃ q' ∈ w'.catchups, b ∈ q') :
    w'.Covered height := by
  rcases h with ⟨b, hb, hn⟩ | ⟨q, hq', b, hb, hn⟩
  · exact .inl ⟨b, hp b hb, hn⟩
  · rcases hq q hq' b hb with hb' | ⟨q', hq'', hb'⟩
    · exact .inl ⟨b, hb', hn⟩
    · exact .inr ⟨q', hq'', b, hb', hn⟩

section Node

variable {chainLogs : List Log}
  (hnode : ∀ fromBlock toBlock, filterLogs fromBlock toBlock =
    .ok (logsIn chainLogs fromBlock toBlock))
  (hparse : Parses warpPrecompileLogFilter unpackWarpMessage chainLogs)
include hnode hparse

/-- A live block keeps the invariant when it is at most one above the last one seen, or when it
starts a catch-up: the heights between the last block seen and it are then queued. -/
theorem ProcessLogs.Inv.header {startingHeight number : ℕ} {w : ProcessLogs Msg}
    (hi : w.Inv warpPrecompileLogFilter unpackWarpMessage chainLogs startingHeight)
    (hseq : w.needsCatchup = false → number ≤ w.lastSubscriberBlockProcessed + 1) :
    (w.receive warpPrecompileLogFilter unpackWarpMessage filterLogs
      (chainBlock warpPrecompileLogFilter unpackWarpMessage chainLogs false number)).Inv
        warpPrecompileLogFilter unpackWarpMessage chainLogs startingHeight := by
  have hold : ∀ q ∈ w.catchups, q ∈ (w.receive warpPrecompileLogFilter unpackWarpMessage
      filterLogs (chainBlock warpPrecompileLogFilter unpackWarpMessage chainLogs false
        number)).catchups := by
    intro q hq
    rw [ProcessLogs.receive_catchups]
    exact List.mem_append_left _ hq
  refine ⟨?_, ?_, ?_⟩
  · intro b hb
    rw [ProcessLogs.receive_processed, List.mem_append, List.mem_singleton] at hb
    rcases hb with hb | rfl
    · exact hi.processed b hb
    · rfl
  · intro q hq b hb
    rw [ProcessLogs.receive_catchups, List.mem_append] at hq
    rcases hq with hq | hq
    · exact hi.queued q hq b hb
    · -- the catch-up the block starts sends the chain's blocks
      split_ifs at hq
      · rw [List.mem_singleton] at hq
        subst hq
        rw [processFromHeight_of_node hnode hparse] at hb
        obtain ⟨height, -, rfl⟩ := List.mem_map.mp hb
        rfl
      · cases hq
  · intro height hlo hhi
    rw [ProcessLogs.receive_lastSubscriberBlockProcessed] at hhi
    by_cases hle : height ≤ w.lastSubscriberBlockProcessed
    · exact (hi.covered height hlo hle).mono (fun b hb => by simp [hb])
        fun q hq b hb => .inr ⟨q, hold q hq, hb⟩
    · -- above the last block seen: the new block's height, or queued by the catch-up it starts
      simp only [chainBlock_blockNumber, chainBlock_isCatchup, true_and] at hhi
      have habove : w.lastSubscriberBlockProcessed < number ∧ height ≤ number := by
        split_ifs at hhi <;> omega
      by_cases hn : height = number
      · exact .inl ⟨chainBlock warpPrecompileLogFilter unpackWarpMessage chainLogs false number,
          by simp, hn.symm⟩
      · cases hneeds : w.needsCatchup with
        | false => have := hseq hneeds; omega
        | true =>
          refine .inr ⟨(processFromHeight warpPrecompileLogFilter unpackWarpMessage filterLogs
            (w.lastSubscriberBlockProcessed + 1) (number - 1)).1, ?_,
            chainBlock warpPrecompileLogFilter unpackWarpMessage chainLogs true height, ?_, rfl⟩
          · rw [ProcessLogs.receive_catchups, if_pos ⟨hneeds, rfl⟩]
            exact List.mem_append_right _ (List.mem_singleton_self _)
          · rw [processFromHeight_of_node hnode hparse]
            exact List.mem_map_of_mem (List.mem_range'_1.mpr (by omega))

end Node

/-- A catch-up block keeps the invariant: it moves from its queue to `ProcessBlock`. -/
theorem ProcessLogs.Inv.catchup {chainLogs : List Log} {startingHeight i : ℕ}
    {w : ProcessLogs Msg} {b : WarpBlockInfo Msg} {rest : List (WarpBlockInfo Msg)}
    (hi : w.Inv warpPrecompileLogFilter unpackWarpMessage chainLogs startingHeight)
    (hget : w.catchups[i]? = some (b :: rest)) :
    ({ w with catchups := w.catchups.set i rest }.receive warpPrecompileLogFilter
      unpackWarpMessage filterLogs b).Inv warpPrecompileLogFilter unpackWarpMessage chainLogs
        startingHeight := by
  have hb := hi.queued _ (List.mem_of_getElem? hget) b List.mem_cons_self
  have hcatchup : b.isCatchup = true := by rw [hb]; rfl
  have hcatchups : ({ w with catchups := w.catchups.set i rest }.receive warpPrecompileLogFilter
      unpackWarpMessage filterLogs b).catchups = w.catchups.set i rest := by
    rw [ProcessLogs.receive_catchups, hcatchup]
    simp
  have hlast : ({ w with catchups := w.catchups.set i rest }.receive warpPrecompileLogFilter
      unpackWarpMessage filterLogs b).lastSubscriberBlockProcessed =
        w.lastSubscriberBlockProcessed := by
    rw [ProcessLogs.receive_lastSubscriberBlockProcessed, hcatchup]
    simp
  refine ⟨?_, ?_, ?_⟩
  · intro b' hb'
    rw [ProcessLogs.receive_processed, List.mem_append, List.mem_singleton] at hb'
    rcases hb' with hb' | rfl
    · exact hi.processed b' hb'
    · rw [hb]
      rfl
  · intro q hq b' hb'
    rw [hcatchups] at hq
    rcases List.mem_or_eq_of_mem_set hq with hq | rfl
    · exact hi.queued q hq b' hb'
    · exact hi.queued _ (List.mem_of_getElem? hget) b' (List.mem_cons_of_mem _ hb')
  · intro height hlo hhi
    rw [hlast] at hhi
    refine (hi.covered height hlo hhi).mono (fun b' hb' => by simp [hb']) fun q hq b' hb' => ?_
    rw [hcatchups]
    rcases mem_set_of_mem hget hq hb' with rfl | hmem
    · exact .inl (by simp)
    · exact .inr hmem

theorem ProcessLogs.init_inv {chainLogs : List Log} {startingHeight : ℕ}
    (hstart : 0 < startingHeight) :
    (ProcessLogs.init startingHeight : ProcessLogs Msg).Inv warpPrecompileLogFilter
      unpackWarpMessage chainLogs startingHeight where
  processed _ hb := absurd hb List.not_mem_nil
  queued _ hq := absurd hq List.not_mem_nil
  covered height hlo hhi := by
    simp only [ProcessLogs.init] at hhi
    omega

section Node

variable {chainLogs : List Log}
  (hnode : ∀ fromBlock toBlock, filterLogs fromBlock toBlock =
    .ok (logsIn chainLogs fromBlock toBlock))
  (hparse : Parses warpPrecompileLogFilter unpackWarpMessage chainLogs)
include hnode hparse

theorem ProcessLogs.step_inv {startingHeight : ℕ} {w w' : ProcessLogs Msg}
    {e : ProcessLogs.Event}
    (hi : w.Inv warpPrecompileLogFilter unpackWarpMessage chainLogs startingHeight)
    (henv : NodeBehaves chainLogs w e)
    (h : w.step warpPrecompileLogFilter unpackWarpMessage filterLogs e = some w') :
    w'.Inv warpPrecompileLogFilter unpackWarpMessage chainLogs startingHeight := by
  cases e with
  | header number bloom =>
    obtain ⟨hseq, hbloom⟩ := henv
    simp only [ProcessLogs.step, newWarpBlockInfo_of_node hnode hparse hbloom,
      Option.some.injEq] at h
    subst h
    exact hi.header hnode hparse hseq
  | catchup i =>
    simp only [ProcessLogs.step] at h
    split at h
    · rename_i b rest hget
      cases h
      exact hi.catchup hget
    · cases h
  | subscribeErr =>
    cases h
    exact ⟨hi.processed, hi.queued, hi.covered⟩

theorem ProcessLogs.reachable_inv {startingHeight : ℕ} (hstart : 0 < startingHeight)
    {w : ProcessLogs Msg}
    (hr : ProcessLogs.Reachable warpPrecompileLogFilter unpackWarpMessage filterLogs
      (NodeBehaves chainLogs) startingHeight w) :
    w.Inv warpPrecompileLogFilter unpackWarpMessage chainLogs startingHeight := by
  induction hr with
  | init => exact ProcessLogs.init_inv hstart
  | step _ henv hs ih => exact ProcessLogs.step_inv hnode hparse ih henv hs

end Node

/-- **No height is skipped.** Along every run of `processLogs` from a positive starting height,
with subscription failures and reconnects at any time and the blocks of the catch-ups
interleaved with the live blocks in any order: when the node answers each request with the
chain's warp logs in the blocks requested, the logs parse, and, while subscribed, the node's new
heads come in sequence (each at most one above the last one the listener saw) with bloom filters
that have no false negative, then every block passed to `ProcessBlock` carries the chain's warp
messages at its height, and every height from the starting height to the last live block seen
has been passed to `ProcessBlock` or is queued in a running catch-up. -/
theorem processLogs_covers {chainLogs : List Log} {startingHeight : ℕ}
    (hstart : 0 < startingHeight)
    (hnode : ∀ fromBlock toBlock, filterLogs fromBlock toBlock =
      .ok (logsIn chainLogs fromBlock toBlock))
    (hparse : Parses warpPrecompileLogFilter unpackWarpMessage chainLogs) {w : ProcessLogs Msg}
    (hr : ProcessLogs.Reachable warpPrecompileLogFilter unpackWarpMessage filterLogs
      (NodeBehaves chainLogs) startingHeight w) :
    (∀ b ∈ w.processed,
      b.messages = messagesAt warpPrecompileLogFilter unpackWarpMessage chainLogs b.blockNumber) ∧
      ∀ height, startingHeight ≤ height → height ≤ w.lastSubscriberBlockProcessed →
        (∃ b ∈ w.processed, b.blockNumber = height) ∨
          ∃ q ∈ w.catchups, ∃ b ∈ q, b.blockNumber = height := by
  have hi := ProcessLogs.reachable_inv hnode hparse hstart hr
  exact ⟨hi.processed, hi.covered⟩

/-- The listener of the sample chain from height `1`: its first live block, at height `3`,
starts a catch-up of heights `1` and `2`. -/
theorem processLogs_covers_sample :
    ∃ w : ProcessLogs ℕ, ProcessLogs.Reachable 1 sampleUnpack sampleNode (NodeBehaves sampleLogs)
        1 w ∧ w.lastSubscriberBlockProcessed = 3 ∧
      ∀ height, 1 ≤ height → height ≤ w.lastSubscriberBlockProcessed →
        (∃ b ∈ w.processed, b.blockNumber = height) ∨
          ∃ q ∈ w.catchups, ∃ b ∈ q, b.blockNumber = height :=
  have henv : NodeBehaves sampleLogs (.init 1 : ProcessLogs ℕ) (.header 3 true) := by
    refine ⟨?_, ?_⟩
    · intro h
      cases h
    · intro h
      cases h
  have hr := ProcessLogs.Reachable.step .init henv rfl
  ⟨_, hr, rfl, (processLogs_covers (by decide) (fun _ _ => rfl) sampleLogs_parses hr).2⟩

end Loop

end Relayer
