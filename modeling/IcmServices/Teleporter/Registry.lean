import IcmServices.Lib.Exec
import IcmServices.Lib.Solidity
import Mathlib.Logic.Function.Basic
import Mathlib.Order.Bounds.Basic

/-!
# `TeleporterRegistry`

The registry maps protocol versions to Teleporter addresses (`_versionToAddress`) and back
(`_addressToVersion`), and tracks the latest version. Entries come from the constructor's list
and from warp messages of the chain's validators (`addProtocolVersion`); both go through
`_addToRegistry`. The warp precompile is not modelled: `addProtocolVersion` takes the verified
message, its payload decoded, and whether the precompile found it.

The index stays consistent along every run (`registry_consistent`):

* `Indexed`: no version `0` and no address `0` are ever registered; `latestVersion` is the
  greatest registered version, `0` if there is none; and `_addressToVersion[a]` is the greatest
  version registered at `a`. Each field is kept by `_addToRegistry` (`Indexed.add`).
* The log of events accounts for the writes (`Consistent`): every version is written once, with
  the address it has, and `latestVersion` is the greatest version added so far, each version at
  most `MAX_VERSION_INCREMENT` above the greatest before it.
* `Extends`: a registered version keeps its address and `latestVersion` never decreases.
-/

namespace Teleporter

namespace TeleporterRegistry

open Solidity Function Contract

/-- `VALIDATORS_SOURCE_ADDRESS`. -/
def validatorsSourceAddress : Address := 0

/-- `MAX_VERSION_INCREMENT`. -/
def maxVersionIncrement : ℕ := 500

/-- `ProtocolRegistryEntry`. -/
structure ProtocolRegistryEntry where
  version : ℕ
  protocolAddress : Address
  deriving DecidableEq, Repr

/-- The storage of `TeleporterRegistry`, with its immutable `blockchainID`. -/
structure State where
  blockchainID : Bytes32
  latestVersion : ℕ
  versionToAddress : ℕ → Address
  addressToVersion : Address → ℕ

/-- The events of the registry. -/
inductive Log
  | addProtocolVersion (version : ℕ) (protocolAddress : Address)
  | latestVersionUpdated (oldVersion newVersion : ℕ)
  deriving DecidableEq, Repr

/-- `_addToRegistry`. -/
def addToRegistry (s : State) (entry : ProtocolRegistryEntry) :
    Except String (State × List Log) := do
  require (entry.version ≠ 0) "TeleporterRegistry: zero version"
  require (s.versionToAddress entry.version = 0) "TeleporterRegistry: version already exists"
  require (entry.protocolAddress ≠ 0) "TeleporterRegistry: zero protocol address"
  let latestVersion_ := s.latestVersion
  let maxVersion ← checkedAdd 256 latestVersion_ maxVersionIncrement
  require (entry.version ≤ maxVersion) "TeleporterRegistry: version increment too high"
  let s := { s with
    versionToAddress := update s.versionToAddress entry.version entry.protocolAddress }
  -- an address registered again keeps its greatest version
  let s := if entry.version > s.addressToVersion entry.protocolAddress then
      { s with addressToVersion := update s.addressToVersion entry.protocolAddress entry.version }
    else s
  let e := Log.addProtocolVersion entry.version entry.protocolAddress
  if entry.version > latestVersion_ then
    pure ({ s with latestVersion := entry.version },
      [e, .latestVersionUpdated latestVersion_ entry.version])
  else pure (s, [e])

/-- The constructor's loop over its initial entries. -/
def addInitialEntries : State → List ProtocolRegistryEntry → Except String (State × List Log)
  | s, [] => pure (s, [])
  | s, entry :: entries => do
    let (s, l₁) ← addToRegistry s entry
    let (s, l₂) ← addInitialEntries s entries
    pure (s, l₁ ++ l₂)

/-- The constructor, with the blockchain ID the warp precompile reports. -/
def teleporterRegistryInit (blockchainID : Bytes32) (initialEntries : List ProtocolRegistryEntry) :
    Except String (State × List Log) :=
  addInitialEntries ⟨blockchainID, 0, fun _ => 0, fun _ => 0⟩ initialEntries

/-- A verified warp message as `addProtocolVersion` reads it, its payload decoded into the entry
and the destination address. -/
structure WarpMessage where
  sourceChainID : Bytes32
  originSenderAddress : Address
  entry : ProtocolRegistryEntry
  destinationAddress : Address

/-- `addProtocolVersion` of the registry at `self`; `success` is what the precompile returned
with the message. -/
def addProtocolVersion (self : Address) (s : State) (message : WarpMessage) (success : Bool) :
    Except String (State × List Log) := do
  require (success = true) "TeleporterRegistry: invalid warp message"
  require (message.sourceChainID = s.blockchainID) "TeleporterRegistry: invalid source chain ID"
  require (message.originSenderAddress = validatorsSourceAddress)
    "TeleporterRegistry: invalid origin sender address"
  require (message.destinationAddress = self) "TeleporterRegistry: invalid destination address"
  addToRegistry s message.entry

/-- `getAddressFromVersion`. -/
def getAddressFromVersion (s : State) (version : ℕ) : Except String Address := do
  require (version ≠ 0) "TeleporterRegistry: zero version"
  let protocolAddress := s.versionToAddress version
  require (protocolAddress ≠ 0) "TeleporterRegistry: version not found"
  pure protocolAddress

/-- `getVersionFromAddress`. -/
def getVersionFromAddress (s : State) (protocolAddress : Address) : Except String ℕ := do
  require (protocolAddress ≠ 0) "TeleporterRegistry: zero protocol address"
  let version := s.addressToVersion protocolAddress
  require (version ≠ 0) "TeleporterRegistry: protocol address not found"
  pure version

/-- `getLatestTeleporter`, as the address of the latest version. -/
def getLatestTeleporter (s : State) : Except String Address :=
  getAddressFromVersion s s.latestVersion

/-- The one entry point that writes the registry. -/
inductive Call
  | addProtocolVersion (message : WarpMessage) (success : Bool)

/-- One successful call into the registry at `self`. -/
def step (self : Address) (s : State) : Call → Except String (State × List Log)
  | .addProtocolVersion message success => addProtocolVersion self s message success

variable {s s' : State} {l : List Log}

/-! ## One registration -/

/-- The address's version after a registration: raised to the new version where that is
greater. -/
theorem raise_addressToVersion (t : State) (a : Address) (v : ℕ) :
    (if v > t.addressToVersion a then { t with addressToVersion := update t.addressToVersion a v }
      else t).addressToVersion = update t.addressToVersion a (max (t.addressToVersion a) v) := by
  split
  · rename_i hv
    rw [max_eq_right (Nat.le_of_lt hv)]
  · rename_i hv
    rw [max_eq_left (Nat.le_of_not_lt hv), update_eq_self]

/-- A registration writes the address of a fresh, nonzero version at most `500` above the latest,
raises the address's version and the latest version to it where it is greater, and logs it. -/
theorem addToRegistry_eq_ok {entry : ProtocolRegistryEntry}
    (h : addToRegistry s entry = .ok (s', l)) :
    entry.version ≠ 0 ∧ s.versionToAddress entry.version = 0 ∧ entry.protocolAddress ≠ 0 ∧
      entry.version ≤ s.latestVersion + maxVersionIncrement ∧
      s'.versionToAddress = update s.versionToAddress entry.version entry.protocolAddress ∧
      s'.addressToVersion = update s.addressToVersion entry.protocolAddress
        (max (s.addressToVersion entry.protocolAddress) entry.version) ∧
      s'.latestVersion = max s.latestVersion entry.version ∧
      l = .addProtocolVersion entry.version entry.protocolAddress ::
        if s.latestVersion < entry.version then
          [.latestVersionUpdated s.latestVersion entry.version]
        else [] := by
  simp only [addToRegistry, bind_eq_ok, require_eq_ok, checkedAdd_eq_ok] at h
  obtain ⟨_, h1, _, h2, _, h3, _, ⟨-, rfl⟩, _, h4, h⟩ := h
  refine ⟨h1, h2, h3, h4, ?_⟩
  have hatv := raise_addressToVersion
    { s with versionToAddress := update s.versionToAddress entry.version entry.protocolAddress }
    entry.protocolAddress entry.version
  -- a greater version becomes the latest
  split at h
  · rename_i hv
    obtain ⟨rfl, rfl⟩ := Prod.mk.inj (pure_eq_ok.1 h)
    exact ⟨by split <;> rfl, hatv, (max_eq_right (Nat.le_of_lt hv)).symm, by rw [if_pos hv]⟩
  · rename_i hv
    obtain ⟨rfl, rfl⟩ := Prod.mk.inj (pure_eq_ok.1 h)
    refine ⟨by split <;> rfl, hatv, ?_, by rw [if_neg hv]⟩
    split <;> exact (max_eq_left (Nat.le_of_not_lt hv)).symm

theorem addProtocolVersion_eq_ok {self : Address} {message : WarpMessage} {success : Bool}
    (h : addProtocolVersion self s message success = .ok (s', l)) :
    success = true ∧ message.sourceChainID = s.blockchainID ∧
      message.originSenderAddress = validatorsSourceAddress ∧
      message.destinationAddress = self ∧ addToRegistry s message.entry = .ok (s', l) := by
  simp only [addProtocolVersion, bind_eq_ok, require_eq_ok] at h
  obtain ⟨_, h1, _, h2, _, h3, _, h4, h⟩ := h
  exact ⟨h1, h2, h3, h4, h⟩

theorem step_addToRegistry {self : Address} {c : Call} (h : step self s c = .ok (s', l)) :
    ∃ entry, addToRegistry s entry = .ok (s', l) := by
  cases c with
  | addProtocolVersion message success => exact ⟨_, (addProtocolVersion_eq_ok h).2.2.2.2⟩

theorem le_update_max {α : Type} [DecidableEq α] (f : α → ℕ) (a : α) (v : ℕ) (b : α) :
    f b ≤ update f a (max (f a) v) b := by
  rcases eq_or_ne b a with rfl | hne
  · rw [update_self]
    exact le_max_left _ _
  · rw [update_of_ne hne]

/-! ## The index -/

/-- The version index is consistent (module doc). -/
structure Indexed (s : State) : Prop where
  version_zero : s.versionToAddress 0 = 0
  address_zero : s.addressToVersion 0 = 0
  le_latest : ∀ v, s.versionToAddress v ≠ 0 → v ≤ s.latestVersion
  latest_registered : s.latestVersion = 0 ∨ s.versionToAddress s.latestVersion ≠ 0
  le_addressToVersion : ∀ v, s.versionToAddress v ≠ 0 →
    v ≤ s.addressToVersion (s.versionToAddress v)
  addressToVersion_registered : ∀ a, s.addressToVersion a ≠ 0 →
    s.versionToAddress (s.addressToVersion a) = a

theorem Indexed.empty (blockchainID : Bytes32) :
    Indexed ⟨blockchainID, 0, fun _ => 0, fun _ => 0⟩ :=
  ⟨rfl, rfl, fun _ h => absurd rfl h, .inl rfl, fun _ h => absurd rfl h,
    fun _ h => absurd rfl h⟩

theorem Indexed.addressToVersion_ne (hi : Indexed s) {v : ℕ} (h0 : s.versionToAddress v = 0)
    {a : Address} (ha : s.addressToVersion a ≠ 0) : s.addressToVersion a ≠ v := by
  intro hv
  have h₁ := hi.addressToVersion_registered a ha
  have ha0 : a ≠ 0 := by
    rintro rfl
    exact ha hi.address_zero
  rw [hv, h0] at h₁
  exact ha0 h₁.symm

section
variable {entry : ProtocolRegistryEntry}

theorem Indexed.add (hi : Indexed s) (h : addToRegistry s entry = .ok (s', l)) : Indexed s' := by
  obtain ⟨hv0, hfresh, ha0, -, hvta, hatv, hlat, -⟩ := addToRegistry_eq_ok h
  refine ⟨?_, ?_, fun w hw => ?_, ?_, fun w hw => ?_, fun b hb => ?_⟩
  · rw [hvta, update_of_ne (Ne.symm hv0)]
    exact hi.version_zero
  · rw [hatv, update_of_ne (Ne.symm ha0)]
    exact hi.address_zero
  · -- the new version is below the new latest, the others below the old one
    rw [hlat]
    rcases eq_or_ne w entry.version with rfl | hne
    · exact le_max_right _ _
    · rw [hvta, update_of_ne hne] at hw
      exact le_max_of_le_left (hi.le_latest w hw)
  · rw [hlat, hvta]
    rcases le_total s.latestVersion entry.version with hle | hle
    · rw [max_eq_right hle, update_self]
      exact .inr ha0
    · rw [max_eq_left hle]
      rcases eq_or_ne s.latestVersion entry.version with heq | hne
      · rw [heq, update_self]
        exact .inr ha0
      · rw [update_of_ne hne]
        exact hi.latest_registered
  · rw [hatv, hvta]
    rcases eq_or_ne w entry.version with rfl | hne
    · rw [update_self, update_self]
      exact le_max_right _ _
    · rw [hvta, update_of_ne hne] at hw
      rw [update_of_ne hne]
      exact (hi.le_addressToVersion w hw).trans (le_update_max _ _ _ _)
  · -- an address's version is the new version, or an old one whose address stays
    rw [hatv] at hb ⊢
    rw [hvta]
    rcases eq_or_ne b entry.protocolAddress with rfl | hne
    · rw [update_self] at hb ⊢
      rcases le_or_gt entry.version (s.addressToVersion entry.protocolAddress) with hle | hlt
      · rw [max_eq_left hle] at hb ⊢
        rw [update_of_ne (hi.addressToVersion_ne hfresh hb)]
        exact hi.addressToVersion_registered _ hb
      · rw [max_eq_right hlt.le, update_self]
    · rw [update_of_ne hne] at hb ⊢
      rw [update_of_ne (hi.addressToVersion_ne hfresh hb)]
      exact hi.addressToVersion_registered b hb

end

/-! ## Reading the index -/

section
variable {v : ℕ}

theorem Indexed.ne_zero (hi : Indexed s) (hv : s.versionToAddress v ≠ 0) : v ≠ 0 := by
  rintro rfl
  exact hv hi.version_zero

theorem Indexed.latest_isGreatest (hi : Indexed s) :
    (s.latestVersion = 0 ∧ ∀ v, s.versionToAddress v = 0) ∨
      IsGreatest {v | s.versionToAddress v ≠ 0} s.latestVersion := by
  rcases hi.latest_registered with h0 | hr
  · refine .inl ⟨h0, fun v => ?_⟩
    by_contra hv
    have := hi.le_latest v hv
    exact hi.ne_zero hv (by omega)
  · exact .inr ⟨hr, hi.le_latest⟩

/-- The version of a registered address is the greatest version registered at it. -/
theorem Indexed.addressToVersion_isGreatest (hi : Indexed s) (hv : s.versionToAddress v ≠ 0) :
    IsGreatest {w | s.versionToAddress w = s.versionToAddress v}
      (s.addressToVersion (s.versionToAddress v)) := by
  have hle := hi.le_addressToVersion v hv
  have hpos : s.addressToVersion (s.versionToAddress v) ≠ 0 := by
    have := hi.ne_zero hv
    omega
  refine ⟨hi.addressToVersion_registered _ hpos, fun w hw => ?_⟩
  have hw' : s.versionToAddress w ≠ 0 := by
    rw [Set.mem_ofPred_eq.mp hw]
    exact hv
  rw [← Set.mem_ofPred_eq.mp hw]
  exact hi.le_addressToVersion w hw'

/-- Looking up the address of a registered version and then its version gives a version at
least as recent. -/
theorem Indexed.getVersionFromAddress_getAddressFromVersion (hi : Indexed s)
    (hv : s.versionToAddress v ≠ 0) :
    (getAddressFromVersion s v >>= getVersionFromAddress s) =
      .ok (s.addressToVersion (s.versionToAddress v)) := by
  have hpos : s.addressToVersion (s.versionToAddress v) ≠ 0 := by
    have := hi.le_addressToVersion v hv
    have := hi.ne_zero hv
    omega
  simp only [getAddressFromVersion, getVersionFromAddress, bind_eq_ok, require_eq_ok,
    pure_eq_ok]
  exact ⟨_, ⟨(), hi.ne_zero hv, (), hv, rfl⟩, (), hv, (), hpos, rfl⟩

end

/-! ## The log of registrations -/

/-- The address a registration event writes for `version`. -/
def Log.written (version : ℕ) : Log → Option Address
  | .addProtocolVersion v a => if v = version then some a else none
  | .latestVersionUpdated .. => none

/-- The version a registration event adds. -/
def Log.added : Log → Option ℕ
  | .addProtocolVersion v _ => some v
  | .latestVersionUpdated .. => none

/-- The writes of `version` in a log. -/
def versionWrites (version : ℕ) (events : List Log) : List Address :=
  events.filterMap (Log.written version)

/-- The versions added in a log, in order. -/
def addedVersions (events : List Log) : List ℕ := events.filterMap Log.added

section
variable {version : ℕ} {events events' : List Log}

@[simp] theorem versionWrites_append :
    versionWrites version (events ++ events') =
      versionWrites version events ++ versionWrites version events' :=
  List.filterMap_append

@[simp] theorem addedVersions_append :
    addedVersions (events ++ events') = addedVersions events ++ addedVersions events' :=
  List.filterMap_append

end

/-- The log of one registration: one write of the new version, and the version added. -/
theorem addToRegistry_log {entry : ProtocolRegistryEntry}
    (h : addToRegistry s entry = .ok (s', l)) (version : ℕ) :
    versionWrites version l =
        (if entry.version = version then [entry.protocolAddress] else []) ∧
      addedVersions l = [entry.version] := by
  obtain ⟨-, -, -, -, -, -, -, rfl⟩ := addToRegistry_eq_ok h
  constructor
  · split <;> split <;> simp_all [versionWrites, Log.written]
  · split <;> simp [addedVersions, Log.added]

/-- The greatest of the versions, `0` for none, is where the latest version stands. -/
theorem foldl_max_append_singleton (vs : List ℕ) (v : ℕ) :
    (vs ++ [v]).foldl max 0 = max (vs.foldl max 0) v := by
  rw [List.foldl_append, List.foldl_cons, List.foldl_nil]

/-- The registry and the log that built it agree (module doc). -/
structure Consistent (s : State) (events : List Log) : Prop extends Indexed s where
  writes : ∀ v, versionWrites v events =
    if s.versionToAddress v = 0 then [] else [s.versionToAddress v]
  latest : s.latestVersion = (addedVersions events).foldl max 0
  increments : ∀ pre v post, addedVersions events = pre ++ v :: post →
    v ≤ pre.foldl max 0 + maxVersionIncrement

theorem Consistent.empty (blockchainID : Bytes32) :
    Consistent ⟨blockchainID, 0, fun _ => 0, fun _ => 0⟩ [] :=
  { Indexed.empty blockchainID with
    writes := fun _ => rfl
    latest := rfl
    increments := fun pre v post h => by simp [addedVersions] at h }

section
variable {events : List Log} {entry : ProtocolRegistryEntry}

theorem Consistent.add (hi : Consistent s events) (h : addToRegistry s entry = .ok (s', l)) :
    Consistent s' (events ++ l) := by
  obtain ⟨hv0, hfresh, ha0, hinc, hvta, -, hlat, -⟩ := addToRegistry_eq_ok h
  refine { hi.toIndexed.add h with writes := fun w => ?_, latest := ?_, increments := ?_ }
  · rw [versionWrites_append, (addToRegistry_log h w).1, hi.writes w, hvta]
    rcases eq_or_ne entry.version w with rfl | hne
    · rw [update_self, hfresh, if_pos rfl, if_pos rfl, if_neg ha0, List.nil_append]
    · rw [update_of_ne (Ne.symm hne), if_neg hne, List.append_nil]
  · rw [addedVersions_append, (addToRegistry_log h 0).2, foldl_max_append_singleton, ← hi.latest,
      hlat]
  · -- the last version added is the new one; the others were there before
    intro pre v post hv
    rw [addedVersions_append, (addToRegistry_log h 0).2] at hv
    rcases List.eq_nil_or_concat post with rfl | ⟨post, x, rfl⟩
    · obtain ⟨rfl, hv'⟩ := List.append_inj' hv rfl
      obtain rfl : entry.version = v := List.singleton_inj.1 hv'
      rw [← hi.latest]
      exact hinc
    · rw [List.concat_eq_append, ← List.cons_append, ← List.append_assoc] at hv
      exact hi.increments pre v post (List.append_inj' hv rfl).1

end

theorem addInitialEntries_consistent {events : List Log} :
    ∀ {entries : List ProtocolRegistryEntry} {s s' : State} {l : List Log},
      Consistent s events → addInitialEntries s entries = .ok (s', l) →
      Consistent s' (events ++ l)
  | [], _, _, _, hi, h => by
    obtain ⟨rfl, rfl⟩ := Prod.mk.inj (pure_eq_ok.1 h)
    rwa [List.append_nil]
  | _ :: _, _, _, _, hi, h => by
    simp only [addInitialEntries, bind_eq_ok, pure_eq_ok, Prod.mk.injEq] at h
    obtain ⟨⟨s₁, l₁⟩, h₁, ⟨s₂, l₂⟩, h₂, rfl, rfl⟩ := h
    rw [← List.append_assoc]
    exact addInitialEntries_consistent (hi.add h₁) h₂

theorem exec_consistent {self : Address} {blockchainID : Bytes32}
    {initialEntries : List ProtocolRegistryEntry} {s₀ s : State} {l₀ : List Log}
    {tr : List (Call × List Log)}
    (h0 : teleporterRegistryInit blockchainID initialEntries = .ok (s₀, l₀))
    (h : Exec (step self) s₀ tr s) : Consistent s (l₀ ++ log tr) := by
  induction h with
  | nil => simpa using addInitialEntries_consistent (Consistent.empty blockchainID) h0
  | snoc _ hc ih =>
    obtain ⟨entry, he⟩ := step_addToRegistry hc
    rw [log_snoc, ← List.append_assoc]
    exact ih.add he

/-! ## What a later state keeps -/

/-- A registered version keeps its address and the latest version does not decrease. -/
structure Extends (s t : State) : Prop where
  versions : ∀ v, s.versionToAddress v ≠ 0 → t.versionToAddress v = s.versionToAddress v
  latest : s.latestVersion ≤ t.latestVersion

theorem Extends.refl (s : State) : Extends s s := ⟨fun _ _ => rfl, le_rfl⟩

theorem Extends.trans {t u : State} (h₁ : Extends s t) (h₂ : Extends t u) : Extends s u :=
  ⟨fun v hv => (h₂.versions v (by rwa [h₁.versions v hv])).trans (h₁.versions v hv),
    h₁.latest.trans h₂.latest⟩

theorem Extends.add {entry : ProtocolRegistryEntry} (h : addToRegistry s entry = .ok (s', l)) :
    Extends s s' := by
  obtain ⟨-, hfresh, -, -, hvta, -, hlat, -⟩ := addToRegistry_eq_ok h
  refine ⟨fun v hv => ?_, hlat ▸ le_max_left _ _⟩
  have hne : v ≠ entry.version := by
    rintro rfl
    exact hv hfresh
  rw [hvta, update_of_ne hne]

theorem exec_extends {self : Address} {t : State} {tr : List (Call × List Log)}
    (h : Exec (step self) s tr t) : Extends s t := by
  induction h with
  | nil => exact Extends.refl _
  | snoc _ hc ih =>
    obtain ⟨entry, he⟩ := step_addToRegistry hc
    exact ih.trans (Extends.add he)

/-! ## The version index is consistent -/

theorem version_index_consistent {self : Address} {blockchainID : Bytes32}
    {initialEntries : List ProtocolRegistryEntry} {s₀ s : State} {l₀ : List Log}
    {tr : List (Call × List Log)}
    (h0 : teleporterRegistryInit blockchainID initialEntries = .ok (s₀, l₀))
    (h : Exec (step self) s₀ tr s) :
    (∀ v, versionWrites v (l₀ ++ log tr) =
      if s.versionToAddress v = 0 then [] else [s.versionToAddress v]) ∧
    (∀ (tr' : List (Call × List Log)) (t : State), Exec (step self) s tr' t →
      (∀ v, s.versionToAddress v ≠ 0 → t.versionToAddress v = s.versionToAddress v) ∧
      s.latestVersion ≤ t.latestVersion) ∧
    ((s.latestVersion = 0 ∧ ∀ v, s.versionToAddress v = 0) ∨
      IsGreatest {v | s.versionToAddress v ≠ 0} s.latestVersion) ∧
    s.latestVersion = (addedVersions (l₀ ++ log tr)).foldl max 0 ∧
    (∀ pre v post, addedVersions (l₀ ++ log tr) = pre ++ v :: post →
      v ≤ pre.foldl max 0 + maxVersionIncrement) ∧
    ∀ v, s.versionToAddress v ≠ 0 →
      IsGreatest {w | s.versionToAddress w = s.versionToAddress v}
        (s.addressToVersion (s.versionToAddress v)) ∧
      ∃ w, (getAddressFromVersion s v >>= getVersionFromAddress s) = .ok w ∧ v ≤ w := by
  have hc := exec_consistent h0 h
  refine ⟨hc.writes, fun tr' t ht => ?_, hc.latest_isGreatest, hc.latest, hc.increments,
    fun v hv => ⟨hc.addressToVersion_isGreatest hv, _,
      hc.getVersionFromAddress_getAddressFromVersion hv, hc.le_addressToVersion v hv⟩⟩
  have he := exec_extends ht
  exact ⟨he.versions, he.latest⟩

theorem version_index_consistent_readded : ∃ (s₀ s : State) (l₀ : List Log)
    (tr : List (Call × List Log)),
    teleporterRegistryInit 0 [⟨1, 7⟩, ⟨2, 7⟩] = .ok (s₀, l₀) ∧ Exec (step 5) s₀ tr s ∧
    s.latestVersion = 3 ∧ s.versionToAddress 1 = 7 ∧ IsGreatest {w | s.versionToAddress w = 7} 2 ∧
    ∃ w, (getAddressFromVersion s 1 >>= getVersionFromAddress s) = .ok w ∧ 1 ≤ w := by
  -- two versions at address 7 from the constructor, then version 3 at address 9
  obtain ⟨s₀, l₀, s, tr, h0, hrun, hlat, h1, h7⟩ : ∃ s₀ l₀ s tr,
      teleporterRegistryInit 0 [⟨1, 7⟩, ⟨2, 7⟩] = .ok (s₀, l₀) ∧ Exec (step 5) s₀ tr s ∧
      s.latestVersion = 3 ∧ s.versionToAddress 1 = 7 ∧ s.addressToVersion 7 = 2 :=
    ⟨_, _, _, _, rfl,
      .single (show step 5 _ (.addProtocolVersion ⟨0, 0, ⟨3, 9⟩, 5⟩ true) = _ from rfl),
      rfl, rfl, rfl⟩
  obtain ⟨-, -, -, -, -, hidx⟩ := version_index_consistent h0 hrun
  obtain ⟨hg, hw⟩ := hidx 1 (by rw [h1]; decide)
  rw [h1, h7] at hg
  exact ⟨s₀, s, l₀, tr, h0, hrun, hlat, h1, hg, hw⟩

end TeleporterRegistry

end Teleporter
