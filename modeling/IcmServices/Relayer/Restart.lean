import IcmServices.Relayer.Coordinator

/-!
# The relayer across restarts

The checkpoint of each application relayer is written to the database from time to time
(`writeToDatabase`), and a restarted relayer starts each application relayer from what the
database holds: `CalculateStartingBlockHeight` takes the larger of the stored height and the
source chain's `process-historical-blocks-from-height`, and `NewCheckpointManager` commits the
larger of the stored height and that. Nothing of a run but the database survives a restart.

* `calculateStartingBlockHeight_of_pos`: with a configured historical height, the starting
  height is the larger of it and the stored height;
* `relayed_below_stored`: when missed blocks are processed and a historical height is
  configured, then across any number of runs, restarts and writes, every message that an
  application relayer is handed at a height above the historical height and at or below the
  height its database holds was processed without error in one of the runs.

With no historical height configured, a relayer with no stored height starts from the chain head
it sees at start-up, so no such bound holds from a fixed height.
-/

namespace Database

/-- `CalculateStartingBlockHeight`, from what `GetLatestProcessedBlockHeight` found (`none` when
the key is not found). -/
def calculateStartingBlockHeight (latestProcessedBlock : Option ℕ)
    (processHistoricalBlocksFromHeight currentHeight : ℕ) : ℕ :=
  match latestProcessedBlock with
  | none =>
    if processHistoricalBlocksFromHeight = 0 then currentHeight
    else processHistoricalBlocksFromHeight
  | some latestProcessedBlock =>
    if latestProcessedBlock > processHistoricalBlocksFromHeight then latestProcessedBlock
    else processHistoricalBlocksFromHeight

/-- With a configured historical height, the relayer starts from the larger of it and the stored
height. -/
theorem calculateStartingBlockHeight_of_pos {processHistoricalBlocksFromHeight : ℕ}
    (hpos : 0 < processHistoricalBlocksFromHeight) (latestProcessedBlock : Option ℕ)
    (currentHeight : ℕ) :
    calculateStartingBlockHeight latestProcessedBlock processHistoricalBlocksFromHeight
        currentHeight =
      max (latestProcessedBlock.getD 0) processHistoricalBlocksFromHeight := by
  cases latestProcessedBlock with
  | none =>
    simp only [calculateStartingBlockHeight, Option.getD_none]
    rw [if_neg (by omega)]
    omega
  | some latestProcessedBlock =>
    simp only [calculateStartingBlockHeight, Option.getD_some]
    split <;> omega

end Database

namespace Relayer

open Solidity Function Database Checkpoint

/-- The height an application relayer starts from (`createApplicationRelayersForSourceChain`):
the block after the chain head when missed blocks are not processed, and
`CalculateStartingBlockHeight` otherwise. -/
def startingHeight (processMissedBlocks : Bool) (latestProcessedBlock : Option ℕ)
    (processHistoricalBlocksFromHeight currentHeight : ℕ) : ℕ :=
  if processMissedBlocks then
    calculateStartingBlockHeight latestProcessedBlock processHistoricalBlocksFromHeight
      currentHeight
  else currentHeight + 1

variable {Msg Handler : Type}

/-- A start of the relayer: each application relayer's checkpoint from its stored height and its
starting height (`NewCheckpointManager`), and no call in flight; what was relayed before stays
on record. -/
def Listener.start (processMissedBlocks : Bool) (processHistoricalBlocksFromHeight currentHeight : ℕ)
    (database : RelayerID → Option ℕ) (relayed : List (RelayerID × ℕ × Handler)) :
    Listener Handler where
  checkpoints r := newCheckpointManager ((database r).getD 0)
    (startingHeight processMissedBlocks (database r) processHistoricalBlocksFromHeight currentHeight)
  inFlight := []
  relayed := relayed

/-- The relayer across restarts: what its database holds for each application relayer (`none`
for no key), and the listener of the current run. -/
structure Deployment (Handler : Type) where
  database : RelayerID → Option ℕ
  listener : Listener Handler

/-- What happens next to the relayer. -/
inductive Deployment.Event (Handler : Type)
  /-- an event of the current run -/
  | listener (e : Relayer.Event Handler)
  /-- the ticker has an application relayer's checkpoint written -/
  | writeToDatabase (r : RelayerID)
  /-- the relayer stops and starts again, and sees the chain head at `currentHeight` -/
  | restart (currentHeight : ℕ)

section Run

variable (processMissedBlocks : Bool) (processHistoricalBlocksFromHeight : ℕ)
  (mc : MessageCoordinator Msg Handler) (blockchainID : Bytes32)
  (blocks : ℕ → List (WarpMessageInfo Msg))

/-- What every event keeps: the current run keeps the listener's invariant from the historical
height, and every height above it and at or below a stored height is relayed. -/
structure Deployment.Inv (d : Deployment Handler) : Prop where
  listener : d.listener.Inv mc blocks fun _ => processHistoricalBlocksFromHeight
  database : ∀ r h, processHistoricalBlocksFromHeight < h → h ≤ (d.database r).getD 0 →
    d.listener.Relayed mc blocks r h

variable {processMissedBlocks processHistoricalBlocksFromHeight mc blockchainID blocks}

/-- A start from a database that keeps `Deployment.Inv`'s second field commits the larger of the
stored and the historical height, and so passes only relayed heights. -/
theorem Listener.start_inv (hpos : 0 < processHistoricalBlocksFromHeight)
    (hmissed : processMissedBlocks = true) (currentHeight : ℕ)
    {database : RelayerID → Option ℕ} {relayed : List (RelayerID × ℕ × Handler)}
    (hdb : ∀ r h, processHistoricalBlocksFromHeight < h → h ≤ (database r).getD 0 →
      ∀ handler ∈ mc.registerHandlers (blocks h) r, (r, h, handler) ∈ relayed) :
    (Listener.start processMissedBlocks processHistoricalBlocksFromHeight currentHeight database
      relayed).Inv mc blocks fun _ => processHistoricalBlocksFromHeight where
  inFlight _ hcall := absurd hcall List.not_mem_nil
  staged r := by
    -- the new checkpoint is the larger of the stored and the historical height
    have hc : (newCheckpointManager ((database r).getD 0) (startingHeight processMissedBlocks
        (database r) processHistoricalBlocksFromHeight currentHeight)).committedHeight =
        max ((database r).getD 0) processHistoricalBlocksFromHeight := by
      simp only [newCheckpointManager, startingHeight, hmissed, if_true,
        calculateStartingBlockHeight_of_pos hpos]
      omega
    refine ⟨?_, fun h hlo hhi => ?_, fun h hh => ?_⟩
    · simp only [Listener.start, hc]
      omega
    · simp only [Listener.start, hc] at hhi
      exact hdb r h hlo (by omega)
    · simp [Listener.start, newCheckpointManager, UInt64Heap.empty] at hh

variable [DecidableEq Handler]
  (processMissedBlocks processHistoricalBlocksFromHeight mc blockchainID blocks)

/-- One event of the relayer of chain `blockchainID`, configured with `processMissedBlocks` and
`processHistoricalBlocksFromHeight`. -/
def Deployment.step (d : Deployment Handler) : Deployment.Event Handler → Option (Deployment Handler)
  | .listener e => (d.listener.step mc blockchainID blocks e).map fun w => { d with listener := w }
  | .writeToDatabase r =>
    let written := writeToDatabase (d.database r) (d.listener.checkpoints r)
    some ⟨update d.database r written.1,
      { d.listener with checkpoints := update d.listener.checkpoints r written.2 }⟩
  | .restart currentHeight =>
    -- a new run from the database; the record of what was relayed is kept
    some { d with
      listener := Listener.start processMissedBlocks processHistoricalBlocksFromHeight
        currentHeight d.database d.listener.relayed }

/-- The relayer after a list of events, `none` if one of them cannot happen. -/
def Deployment.run (d : Deployment Handler) :
    List (Deployment.Event Handler) → Option (Deployment Handler)
  | [] => some d
  | e :: es =>
    (d.step processMissedBlocks processHistoricalBlocksFromHeight mc blockchainID blocks e).bind
      fun d' => d'.run es

/-- The states of the relayer from a first start on the database `database₀`. -/
inductive Deployment.Reachable (database₀ : RelayerID → Option ℕ) :
    Deployment Handler → Prop
  | init (currentHeight : ℕ) : Deployment.Reachable database₀
      ⟨database₀, Listener.start processMissedBlocks processHistoricalBlocksFromHeight currentHeight
        database₀ []⟩
  | step {d d' : Deployment Handler} {e : Deployment.Event Handler} :
    Deployment.Reachable database₀ d →
      d.step processMissedBlocks processHistoricalBlocksFromHeight mc blockchainID blocks e =
        some d' →
      Deployment.Reachable database₀ d'

variable {processMissedBlocks processHistoricalBlocksFromHeight mc blockchainID blocks}

theorem Deployment.step_inv (hpos : 0 < processHistoricalBlocksFromHeight)
    (hmissed : processMissedBlocks = true) {d d' : Deployment Handler}
    {e : Deployment.Event Handler}
    (hi : d.Inv processHistoricalBlocksFromHeight mc blocks)
    (h : d.step processMissedBlocks processHistoricalBlocksFromHeight mc blockchainID blocks e =
      some d') :
    d'.Inv processHistoricalBlocksFromHeight mc blocks := by
  cases e with
  | listener e =>
    obtain ⟨w, hw, rfl⟩ := Option.map_eq_some_iff.mp h
    exact ⟨Listener.step_inv hi.listener hw, fun r h hlo hhi =>
      Listener.Relayed.mono (Listener.step_relayed hw) (hi.database r h hlo hhi)⟩
  | writeToDatabase r =>
    cases h
    obtain ⟨hstored, hc, hp⟩ := writeToDatabase_spec (d.database r) (d.listener.checkpoints r)
    refine ⟨⟨hi.listener.inFlight, fun r' => ?_⟩, fun r' h hlo hhi => ?_⟩
    · -- the write moves no height
      by_cases hr : r' = r
      · subst hr
        simp only [update_self, hc, hp]
        exact hi.listener.staged r'
      · simp only [update_of_ne hr]
        exact hi.listener.staged r'
    · -- the stored height is the committed one, or what was stored
      by_cases hr : r' = r
      · subst hr
        simp only [update_self] at hhi
        rcases hstored with hs | hs
        · rw [hs] at hhi
          exact hi.database r' h hlo hhi
        · rw [hs, Option.getD_some] at hhi
          exact (hi.listener.staged r').committed h hlo hhi
      · simp only [update_of_ne hr] at hhi
        exact hi.database r' h hlo hhi
  | restart currentHeight =>
    cases h
    exact ⟨Listener.start_inv hpos hmissed currentHeight hi.database, hi.database⟩

theorem Deployment.reachable_inv (hpos : 0 < processHistoricalBlocksFromHeight)
    (hmissed : processMissedBlocks = true) {database₀ : RelayerID → Option ℕ}
    (h₀ : ∀ r, (database₀ r).getD 0 ≤ processHistoricalBlocksFromHeight) {d : Deployment Handler}
    (hr : d.Reachable processMissedBlocks processHistoricalBlocksFromHeight mc blockchainID blocks
      database₀) :
    d.Inv processHistoricalBlocksFromHeight mc blocks := by
  induction hr with
  | init currentHeight =>
    -- no stored height is above the historical one yet
    have hdb : ∀ r h, processHistoricalBlocksFromHeight < h → h ≤ (database₀ r).getD 0 →
        ∀ handler ∈ mc.registerHandlers (blocks h) r,
          (r, h, handler) ∈ ([] : List (RelayerID × ℕ × Handler)) := by
      intro r h hlo hhi
      have := h₀ r
      omega
    exact ⟨Listener.start_inv hpos hmissed currentHeight hdb, hdb⟩
  | step _ hs ih => exact Deployment.step_inv hpos hmissed ih hs

theorem Deployment.Reachable.run {database₀ : RelayerID → Option ℕ} :
    ∀ {d d' : Deployment Handler} (es : List (Deployment.Event Handler)),
      d.Reachable processMissedBlocks processHistoricalBlocksFromHeight mc blockchainID blocks
          database₀ →
        d.run processMissedBlocks processHistoricalBlocksFromHeight mc blockchainID blocks es =
          some d' →
          d'.Reachable processMissedBlocks processHistoricalBlocksFromHeight mc blockchainID blocks
            database₀
  | _, _, [], hr, h => by
    cases h
    exact hr
  | _, _, _ :: es, hr, h => by
    obtain ⟨d₁, h₁, h⟩ := Option.bind_eq_some_iff.mp h
    exact Deployment.Reachable.run es (hr.step h₁) h

/-- **No message is skipped below a stored checkpoint, across restarts.** When missed blocks are
processed and a historical height is configured, and the database holds no height above it at
the first start, then across any runs, restarts and writes, each message that an application
relayer is handed at a height above the historical height and at or below the height its
database holds was processed without error. -/
theorem relayed_below_stored (hpos : 0 < processHistoricalBlocksFromHeight)
    (hmissed : processMissedBlocks = true) {database₀ : RelayerID → Option ℕ}
    (h₀ : ∀ r, (database₀ r).getD 0 ≤ processHistoricalBlocksFromHeight) {d : Deployment Handler}
    (hr : d.Reachable processMissedBlocks processHistoricalBlocksFromHeight mc blockchainID blocks
      database₀)
    {r : RelayerID} {height : ℕ} (hlo : processHistoricalBlocksFromHeight < height)
    (hhi : height ≤ (d.database r).getD 0) {m : WarpMessageInfo Msg} (hm : m ∈ blocks height)
    {handler : Handler} (hroute : mc.getAppRelayerMessageHandler m = .ok (some (r, handler))) :
    (r, height, handler) ∈ d.listener.relayed :=
  (Deployment.reachable_inv hpos hmissed h₀ hr).database r height hlo hhi handler
    (mem_registerHandlers (.inr ⟨m, hm, hroute⟩))

/-- Chain `1`, with one message at height `2`. -/
def sampleRestartBlocks (height : ℕ) : List (WarpMessageInfo ℕ) :=
  if height = 2 then [sampleMessage] else []

/-- From an empty database and the historical height `1`: the block at height `2` relayed and
committed, the checkpoint written, and a restart. -/
def sampleDeploymentEvents : List (Deployment.Event ℕ) :=
  [.listener (.processBlock 2), .listener (.processHeight (sampleRelayer, 2, [7]) fun _ => true),
    .writeToDatabase sampleRelayer, .restart 50]

def sampleDeployment : Deployment ℕ :=
  ((⟨fun _ => none, Listener.start true 1 50 (fun _ => none) []⟩ : Deployment ℕ).run true 1
    sampleCoordinator 1 sampleRestartBlocks sampleDeploymentEvents).getD
    ⟨fun _ => none, Listener.start true 1 50 (fun _ => none) []⟩

theorem relayed_below_stored_sample :
    0 < 1 ∧ (∀ r : RelayerID, ((fun _ => none : RelayerID → Option ℕ) r).getD 0 ≤ 1) ∧
      sampleDeployment.Reachable true 1 sampleCoordinator 1 sampleRestartBlocks (fun _ => none) ∧
      1 < 2 ∧ 2 ≤ (sampleDeployment.database sampleRelayer).getD 0 ∧
      sampleMessage ∈ sampleRestartBlocks 2 ∧
      sampleCoordinator.getAppRelayerMessageHandler sampleMessage =
        .ok (some (sampleRelayer, 7)) ∧
      (sampleRelayer, 2, 7) ∈ sampleDeployment.listener.relayed :=
  have h₀ : ∀ r : RelayerID, ((fun _ => none : RelayerID → Option ℕ) r).getD 0 ≤ 1 :=
    fun _ => Nat.zero_le 1
  have hr : sampleDeployment.Reachable true 1 sampleCoordinator 1 sampleRestartBlocks
      (fun _ => none) :=
    Deployment.Reachable.run sampleDeploymentEvents (.init 50) rfl
  have hhi : 2 ≤ (sampleDeployment.database sampleRelayer).getD 0 := by decide
  have hm : sampleMessage ∈ sampleRestartBlocks 2 := List.mem_singleton_self _
  have hroute : sampleCoordinator.getAppRelayerMessageHandler sampleMessage =
      .ok (some (sampleRelayer, 7)) := rfl
  ⟨Nat.one_pos, h₀, hr, Nat.one_lt_two, hhi, hm, hroute,
    relayed_below_stored Nat.one_pos rfl h₀ hr Nat.one_lt_two hhi hm hroute⟩

end Run

end Relayer
