import IcmServices.Peers.ExternalHandler
import IcmServices.Lib.Solidity
import Mathlib.Data.List.AList
import Mathlib.Algebra.BigOperators.Group.List.Basic

/-!
# `SignatureAggregator`: collecting a quorum of signatures

`CreateSignedMessage` collects BLS signatures of a Warp message from the validators of the signing
subnet, in canonical order (`CanonicalValidators`: the nodes that share a BLS key are one
validator). It starts from the signatures cached for the message and, while their weight is short
of the quorum, asks the nodes of the validators it has no signature of, in rounds of app requests
whose responses come through `RelayerExternalHandler`. The signatures are kept by validator index
(`signatureMap`) and their weight in `accumulatedSignatureWeight`; `aggregateIfSufficientWeight`
compares that weight with the quorum, aggregates the map's signatures and sets one signer bit per
index.

`handleResponse` adds the validator's weight for each valid response, whether or not the map
already holds the validator's index. A round asks every connected node of a validator, so a
validator with two nodes that both answer is counted twice (`handleResponse_recounts`), and a
message can be returned whose signers fall short of the quorum. When each round's responses come
from distinct validators, the weight stays the weight of the map (`Counted`), and every message
returned meets the required quorum (`createSignedMessage_meets_quorum`).

BLS, the response's wire format and the validator set are parameters, and a run of the retries is
the list of its rounds: for each, its request ID, the nodes the network reached and what came on
the request's channel.
-/

namespace SignatureAggregator

open Function Peers

variable {N K S B : Type}

/-- A canonical validator (`validators.Warp`): the nodes that share one BLS key, and their
weight. -/
structure Warp (N K : Type) where
  publicKeyBytes : K
  weight : ℕ
  nodeIDs : List N
  deriving DecidableEq, Repr

/-- `CanonicalValidators`: the connected nodes, the canonical validator set and its total weight,
and the index of each node's validator. -/
structure CanonicalValidators (N K : Type) where
  connectedNodes : Finset N
  validators : List (Warp N K)
  totalWeight : ℕ
  nodeValidatorIndexMap : N → ℕ

section Build
variable [DecidableEq N]

/-- The loop of `buildCanonicalValidators` that maps the nodes of validator `i` on to `i`. -/
def nodeIndexLoop : List (Warp N K) → ℕ → (N → ℕ) → N → ℕ
  | [], _, m => m
  | v :: vs, i, m => nodeIndexLoop vs (i + 1) fun n => if n ∈ v.nodeIDs then i else m n

/-- `buildCanonicalValidators`: a node of no validator has Go's zero value as its index, and the
connected nodes are the validators' nodes among the connected peers. -/
def buildCanonicalValidators (validators : List (Warp N K)) (totalWeight : ℕ)
    (peers : Finset N) : CanonicalValidators N K where
  connectedNodes := peers.filter fun n => ∃ v ∈ validators, n ∈ v.nodeIDs
  validators := validators
  totalWeight := totalWeight
  nodeValidatorIndexMap := nodeIndexLoop validators 0 fun _ => 0

end Build

/-- `GetValidator`: a node's validator and its index; an index past the end is a Go panic. -/
def CanonicalValidators.getValidator (vdrs : CanonicalValidators N K) (nodeID : N) :
    Option (Warp N K × ℕ) :=
  (vdrs.validators[vdrs.nodeValidatorIndexMap nodeID]?).map
    fun v => (v, vdrs.nodeValidatorIndexMap nodeID)

/-- What the aggregator calls out to: the response's signature with the checks of
`isValidSignatureResponse` that need no key (not empty, of the right length, accepted by
`bls.SignatureFromBytes`), `bls.Verify` of the message under a key, and
`bls.AggregateSignatures`. -/
structure Context (K S B : Type) where
  unmarshalResponse : B → Option S
  verify : K → S → Bool
  aggregateSignatures : List S → Option S

/-- The signatures of one `CreateSignedMessage` by validator index, their weight, and the
message's entry of the signature cache, by public key. -/
structure Aggregation (K S : Type) where
  signatureMap : AList fun _ : ℕ => S
  accumulatedSignatureWeight : ℕ
  signatureCache : K → Option S

/-- The `BitSetSignature` of a signed message: its signers' bits, by validator index, and the
aggregate signature. -/
structure SignedMessage (S : Type) where
  signers : List ℕ
  signature : S
  deriving DecidableEq, Repr

/-- How a round of `collectSignaturesWithRetries` ends: with a signed message, with an error that
is retried (`errNotEnoughSignatures` among them), or with a permanent error. -/
inductive RoundResult (K S : Type)
  | signed (signedMsg : SignedMessage S) (agg : Aggregation K S)
  | retry (agg : Aggregation K S)
  | permanent

/-- One round: its request ID, the nodes the network's `Send` reached, and what came on the
request's channel. -/
structure Round (N B : Type) where
  requestID : ℕ
  reached : Finset N
  responses : List (InboundMessage N B)

/-! ## The aggregator -/

/-- `warp.WarpQuorumDenominator`. -/
def warpQuorumDenominator : ℕ := 100

/-- `CheckStakeWeightExceedsThreshold`, in big integers. -/
def checkStakeWeightExceedsThreshold (accumulatedSignatureWeight totalWeight quorumNumerator : ℕ) :
    Bool :=
  totalWeight * quorumNumerator ≤ accumulatedSignatureWeight * warpQuorumDenominator

/-- The sum of two `uint64` percentages, as Go computes it. -/
def addPercentages (required buffer : ℕ) : ℕ := (required + buffer) % 2 ^ 64

/-- `validateQuorumPercentages`. -/
def validateQuorumPercentages (required buffer : ℕ) : Except String Unit :=
  if required = 0 ∨ addPercentages required buffer > 100 then
    .error "invalid total quorum percentage"
  else .ok ()

/-- The loop of `getCachedSignaturesForMessage` from validator `i` on: a cached signature of a
validator that is not excluded goes into the map, and its weight into the sum. -/
def cachedLoop (cachedSignatures : K → Option S) (excludedValidators : Finset ℕ) :
    List (Warp N K) → ℕ → AList (fun _ : ℕ => S) → ℕ → AList (fun _ : ℕ => S) × ℕ
  | [], _, signatureMap, weight => (signatureMap, weight)
  | v :: vs, i, signatureMap, weight =>
    match cachedSignatures v.publicKeyBytes with
    | some cachedSignature =>
      if i ∉ excludedValidators then
        cachedLoop cachedSignatures excludedValidators vs (i + 1)
          (signatureMap.insert i cachedSignature) (weight + v.weight)
      else cachedLoop cachedSignatures excludedValidators vs (i + 1) signatureMap weight
    | none => cachedLoop cachedSignatures excludedValidators vs (i + 1) signatureMap weight

/-- `getCachedSignaturesForMessage`. -/
def getCachedSignaturesForMessage (signatureCache : K → Option S)
    (vdrs : CanonicalValidators N K) (excludedValidators : Finset ℕ) : Aggregation K S :=
  let r := cachedLoop signatureCache excludedValidators vdrs.validators 0 ∅ 0
  ⟨r.1, r.2, signatureCache⟩

/-- `aggregateSignatures`: the aggregate of the map's signatures, and its keys as signer bits. -/
def aggregateSignatures (ctx : Context K S B) (signatureMap : AList fun _ : ℕ => S) :
    Except String (S × List ℕ) :=
  match ctx.aggregateSignatures (signatureMap.entries.map Sigma.snd) with
  | none => .error "Failed to aggregate signatures"
  | some aggSig => .ok (aggSig, signatureMap.keys)

/-- `aggregateIfSufficientWeight`. -/
def aggregateIfSufficientWeight (ctx : Context K S B) (signatureMap : AList fun _ : ℕ => S)
    (accumulatedSignatureWeight totalWeight quorumPercentage : ℕ) :
    Except String (Option (SignedMessage S)) :=
  if !checkStakeWeightExceedsThreshold accumulatedSignatureWeight totalWeight quorumPercentage then
    pure none
  else
    match aggregateSignatures ctx signatureMap with
    | .error _ => .error "Failed to aggregate signature."
    | .ok (aggSig, vdrBitSet) => pure (some ⟨vdrBitSet, aggSig⟩)

/-- `isValidSignatureResponse`. -/
def isValidSignatureResponse (ctx : Context K S B) (response : InboundMessage N B) (pubKey : K) :
    Option S :=
  if response.op = .appError then none
  else
    match ctx.unmarshalResponse response.appBytes with
    | none => none
    | some signature => if ctx.verify pubKey signature then some signature else none

section Collect
variable [DecidableEq N] [DecidableEq K]

/-- `handleResponse`: the signed message if the quorum is met, whether the response was
relevant, and the aggregation after it. -/
def handleResponse (ctx : Context K S B) (vdrs : CanonicalValidators N K) (sentTo : Finset N)
    (requestID : ℕ) (excludedValidators : Finset ℕ) (quorumPercentage : ℕ) (agg : Aggregation K S)
    (response : InboundMessage N B) :
    Except String (Option (SignedMessage S) × Bool × Aggregation K S) :=
  if response.nodeID ∉ sentTo ∨ response.requestID ≠ requestID then pure (none, false, agg)
  else if response.op = .appError then pure (none, true, agg)
  else
    match vdrs.getValidator response.nodeID with
    | none => .error "index out of range"
    | some (validator, vdrIndex) =>
      match isValidSignatureResponse ctx response validator.publicKeyBytes with
      | none => pure (none, true, agg)
      | some signature =>
        -- the signature is cached even for an excluded validator; the weight is added for every
        -- valid response, whether or not `vdrIndex` is in the map already
        let agg := { agg with
          signatureCache := update agg.signatureCache validator.publicKeyBytes (some signature) }
        let agg := if vdrIndex ∉ excludedValidators then
            { agg with
              signatureMap := agg.signatureMap.insert vdrIndex signature
              accumulatedSignatureWeight := agg.accumulatedSignatureWeight + validator.weight }
          else agg
        match aggregateIfSufficientWeight ctx agg.signatureMap agg.accumulatedSignatureWeight
            vdrs.totalWeight quorumPercentage with
        | .error e => .error e
        | .ok signedMsg => pure (signedMsg, true, agg)

/-- The inner loop of the request fan-out: the connected nodes of a validator not asked yet. -/
def addConnectedNodes (connectedNodes : Finset N) (vdrSet : Finset N) : List N → Finset N
  | [] => vdrSet
  | nodeID :: nodeIDs =>
    addConnectedNodes connectedNodes
      (if nodeID ∈ connectedNodes ∧ nodeID ∉ vdrSet then insert nodeID vdrSet else vdrSet) nodeIDs

/-- The fan-out loop from validator `i` on: the nodes of the validators without a signature. -/
def requestLoop (connectedNodes : Finset N) (signatureMap : AList fun _ : ℕ => S) :
    List (Warp N K) → ℕ → Finset N → Finset N
  | [], _, vdrSet => vdrSet
  | vdr :: vdrs, i, vdrSet =>
    if i ∈ signatureMap then requestLoop connectedNodes signatureMap vdrs (i + 1) vdrSet
    else requestLoop connectedNodes signatureMap vdrs (i + 1)
      (addConnectedNodes connectedNodes vdrSet vdr.nodeIDs)

/-- The nodes a round asks (`vdrSet`). -/
def requestedNodes (vdrs : CanonicalValidators N K) (signatureMap : AList fun _ : ℕ => S) :
    Finset N :=
  requestLoop vdrs.connectedNodes signatureMap vdrs.validators 0 ∅

/-- The loop over a request's channel: each response is handled, until a signed message comes
out or the relevant responses reach `responsesExpected`. An error is permanent. -/
def responseLoop (ctx : Context K S B) (vdrs : CanonicalValidators N K) (sentTo : Finset N)
    (requestID : ℕ) (excludedValidators : Finset ℕ) (quorumPercentage : ℕ)
    (responsesExpected : ℤ) :
    List (InboundMessage N B) → ℤ → Aggregation K S →
      Except String (Option (SignedMessage S) × Aggregation K S)
  | [], _, agg => pure (none, agg)
  | response :: responses, responseCount, agg =>
    match handleResponse ctx vdrs sentTo requestID excludedValidators quorumPercentage agg
        response with
    | .error e => .error e
    | .ok (signedMsg, relevant, agg) =>
      let responseCount := if relevant then responseCount + 1 else responseCount
      match signedMsg with
      | some m => pure (some m, agg)
      | none =>
        if responseCount = responsesExpected then pure (none, agg)
        else responseLoop ctx vdrs sentTo requestID excludedValidators quorumPercentage
          responsesExpected responses responseCount agg

/-- One round of `collectSignaturesWithRetries` (its `operation`). -/
def collectRound (ctx : Context K S B) (vdrs : CanonicalValidators N K)
    (excludedValidators : Finset ℕ) (requiredQuorumPercentage quorumPercentageBuffer : ℕ)
    (round : Round N B) (agg : Aggregation K S) : RoundResult K S :=
  let vdrSet := requestedNodes vdrs agg.signatureMap
  let sentTo := vdrSet.filter fun nodeID => nodeID ∈ round.reached
  let responsesExpected : ℤ :=
    vdrs.validators.length - agg.signatureMap.keys.length - (vdrSet \ sentTo).card
  let collected := if responsesExpected > 0 then
      responseLoop ctx vdrs sentTo round.requestID excludedValidators
        (addPercentages requiredQuorumPercentage quorumPercentageBuffer) responsesExpected
        round.responses 0 agg
    else pure (none, agg)
  match collected with
  | .error _ => .permanent
  | .ok (some m, agg) => .signed m agg
  | .ok (none, agg) =>
    -- short of the quorum with the buffer: the required quorum alone
    match aggregateIfSufficientWeight ctx agg.signatureMap agg.accumulatedSignatureWeight
        vdrs.totalWeight requiredQuorumPercentage with
    | .ok (some m) => .signed m agg
    | _ => .retry agg

/-- `collectSignaturesWithRetries`, over the rounds the retries ran. -/
def collectSignaturesWithRetries (ctx : Context K S B) (vdrs : CanonicalValidators N K)
    (excludedValidators : Finset ℕ) (requiredQuorumPercentage quorumPercentageBuffer : ℕ) :
    List (Round N B) → Aggregation K S → Except String (SignedMessage S × Aggregation K S)
  | [], _ => .error "failed to collect a threshold of signatures"
  | round :: rounds, agg =>
    match collectRound ctx vdrs excludedValidators requiredQuorumPercentage
        quorumPercentageBuffer round agg with
    | .signed m agg => .ok (m, agg)
    | .retry agg => collectSignaturesWithRetries ctx vdrs excludedValidators
        requiredQuorumPercentage quorumPercentageBuffer rounds agg
    | .permanent => .error "failed to collect a threshold of signatures"

/-- `CreateSignedMessage`, from the signing subnet's canonical validators and excluded
validators on. -/
def createSignedMessage (ctx : Context K S B) (vdrs : CanonicalValidators N K)
    (excludedValidators : Finset ℕ) (requiredQuorumPercentage quorumPercentageBuffer : ℕ)
    (signatureCache : K → Option S) (rounds : List (Round N B)) :
    Except String (SignedMessage S × Aggregation K S) := do
  validateQuorumPercentages requiredQuorumPercentage quorumPercentageBuffer
  let agg := getCachedSignaturesForMessage signatureCache vdrs excludedValidators
  match ← aggregateIfSufficientWeight ctx agg.signatureMap agg.accumulatedSignatureWeight
      vdrs.totalWeight (addPercentages requiredQuorumPercentage quorumPercentageBuffer) with
  | some m => pure (m, agg)
  | none =>
    collectSignaturesWithRetries ctx vdrs excludedValidators requiredQuorumPercentage
      quorumPercentageBuffer rounds agg

end Collect

/-! ## The weight of the signature map -/

/-- The weight of validator `i`, none past the end. -/
def weightOf (vdrs : CanonicalValidators N K) (i : ℕ) : ℕ :=
  ((vdrs.validators[i]?).map Warp.weight).getD 0

/-- The total weight of the validators `signers`. -/
def signersWeight (vdrs : CanonicalValidators N K) (signers : List ℕ) : ℕ :=
  (signers.map (weightOf vdrs)).sum

/-- `accumulatedSignatureWeight` is the weight of the validators in `signatureMap`. -/
def Counted (vdrs : CanonicalValidators N K) (agg : Aggregation K S) : Prop :=
  agg.accumulatedSignatureWeight = signersWeight vdrs agg.signatureMap.keys

/-- Each node of validator `i` has index `i`. -/
def WellFormed (vdrs : CanonicalValidators N K) : Prop :=
  ∀ i v nodeID, vdrs.validators[i]? = some v → nodeID ∈ v.nodeIDs →
    vdrs.nodeValidatorIndexMap nodeID = i

section
variable (vdrs : CanonicalValidators N K) {m : AList fun _ : ℕ => S} {i : ℕ}

theorem signersWeight_insert_of_mem (sig : S) (h : i ∈ m) :
    signersWeight vdrs (m.insert i sig).keys = signersWeight vdrs m.keys := by
  rw [AList.keys_insert]
  exact (((List.perm_cons_erase (AList.mem_keys.1 h)).map _).sum_eq).symm

theorem signersWeight_insert_of_notMem (sig : S) (h : i ∉ m) :
    signersWeight vdrs (m.insert i sig).keys = signersWeight vdrs m.keys + weightOf vdrs i := by
  rw [AList.keys_insert, List.erase_of_not_mem (mt AList.mem_keys.2 h)]
  simp [signersWeight, add_comm]

end

theorem getValidator_eq_some {vdrs : CanonicalValidators N K} {nodeID : N} {v : Warp N K}
    {i : ℕ} (h : vdrs.getValidator nodeID = some (v, i)) :
    i = vdrs.nodeValidatorIndexMap nodeID ∧ vdrs.validators[i]? = some v ∧ weightOf vdrs i = v.weight := by
  simp only [CanonicalValidators.getValidator, Option.map_eq_some_iff, Prod.mk.injEq] at h
  obtain ⟨v', hv, rfl, rfl⟩ := h
  exact ⟨rfl, hv, by simp [weightOf, hv]⟩

theorem checkStakeWeightExceedsThreshold_mono {w total q q' : ℕ} (hq : q ≤ q')
    (h : checkStakeWeightExceedsThreshold w total q' = true) :
    checkStakeWeightExceedsThreshold w total q = true := by
  simp only [checkStakeWeightExceedsThreshold, decide_eq_true_eq] at h ⊢
  exact le_trans (Nat.mul_le_mul_left _ hq) h

theorem aggregateSignatures_eq_ok {ctx : Context K S B} {signatureMap : AList fun _ : ℕ => S}
    {aggSig : S} {vdrBitSet : List ℕ}
    (h : aggregateSignatures ctx signatureMap = .ok (aggSig, vdrBitSet)) :
    vdrBitSet = signatureMap.keys := by
  unfold aggregateSignatures at h
  split at h
  · cases h
  · cases h
    rfl

/-- A signed message has the map's indices as signers, and its weight met the quorum. -/
theorem aggregateIfSufficientWeight_eq_some {ctx : Context K S B}
    {signatureMap : AList fun _ : ℕ => S} {w total q : ℕ} {m : SignedMessage S}
    (h : aggregateIfSufficientWeight ctx signatureMap w total q = .ok (some m)) :
    m.signers = signatureMap.keys ∧ checkStakeWeightExceedsThreshold w total q = true := by
  unfold aggregateIfSufficientWeight at h
  cases hc : checkStakeWeightExceedsThreshold w total q
  · simp [hc, pure, Except.pure] at h
  · simp only [hc, Bool.not_true, Bool.false_eq_true, if_false] at h
    rcases ha : aggregateSignatures ctx signatureMap with _ | ⟨aggSig, vdrBitSet⟩ <;>
      simp only [ha, pure, Except.pure, reduceCtorEq, Except.ok.injEq, Option.some.injEq] at h
    subst h
    exact ⟨aggregateSignatures_eq_ok ha, rfl⟩

/-! ## One response -/

section
variable [DecidableEq N] [DecidableEq K] {ctx : Context K S B} {vdrs : CanonicalValidators N K}
  {sentTo : Finset N} {requestID : ℕ} {excludedValidators : Finset ℕ} {q : ℕ}
  {agg agg' : Aggregation K S} {response : InboundMessage N B}
  {signedMsg : Option (SignedMessage S)} {relevant : Bool}

/-- What `handleResponse` does: nothing to the aggregation for a response of a node it did not
ask, of another request, an `AppError` or an invalid signature; for a valid response, it puts the
signature at the validator's index and adds the validator's weight unless the validator is
excluded, and then checks the quorum. -/
theorem handleResponse_eq_ok
    (h : handleResponse ctx vdrs sentTo requestID excludedValidators q agg response =
      .ok (signedMsg, relevant, agg')) :
    (agg' = agg ∧ signedMsg = none ∧
        (response.nodeID ∉ sentTo ∨ response.requestID ≠ requestID ∨ response.op = .appError ∨
          ∃ v i, vdrs.getValidator response.nodeID = some (v, i) ∧
            isValidSignatureResponse ctx response v.publicKeyBytes = none)) ∨
      response.nodeID ∈ sentTo ∧ ∃ v i sig, vdrs.getValidator response.nodeID = some (v, i) ∧
        isValidSignatureResponse ctx response v.publicKeyBytes = some sig ∧
        ((i ∈ excludedValidators ∧ agg'.signatureMap = agg.signatureMap ∧
            agg'.accumulatedSignatureWeight = agg.accumulatedSignatureWeight) ∨
          (i ∉ excludedValidators ∧ agg'.signatureMap = agg.signatureMap.insert i sig ∧
            agg'.accumulatedSignatureWeight = agg.accumulatedSignatureWeight + v.weight)) ∧
        aggregateIfSufficientWeight ctx agg'.signatureMap agg'.accumulatedSignatureWeight
          vdrs.totalWeight q = .ok signedMsg := by
  unfold handleResponse at h
  by_cases hrel : response.nodeID ∉ sentTo ∨ response.requestID ≠ requestID
  · simp only [hrel, if_true, pure, Except.pure, Except.ok.injEq, Prod.mk.injEq] at h
    obtain ⟨rfl, -, rfl⟩ := h
    rcases hrel with hrel | hrel
    · exact .inl ⟨rfl, rfl, .inl hrel⟩
    · exact .inl ⟨rfl, rfl, .inr (.inl hrel)⟩
  have hs : response.nodeID ∈ sentTo := by
    by_contra hn
    exact hrel (.inl hn)
  rw [if_neg hrel] at h
  by_cases hop : response.op = .appError
  · simp only [hop, if_true, pure, Except.pure, Except.ok.injEq, Prod.mk.injEq] at h
    obtain ⟨rfl, -, rfl⟩ := h
    exact .inl ⟨rfl, rfl, .inr (.inr (.inl hop))⟩
  rw [if_neg hop] at h
  rcases hv : vdrs.getValidator response.nodeID with _ | ⟨v, i⟩ <;> simp only [hv] at h
  · cases h
  rcases hsig : isValidSignatureResponse ctx response v.publicKeyBytes with _ | sig <;>
    simp only [hsig] at h
  · simp only [pure, Except.pure, Except.ok.injEq, Prod.mk.injEq] at h
    obtain ⟨rfl, -, rfl⟩ := h
    exact .inl ⟨rfl, rfl, .inr (.inr (.inr ⟨v, i, rfl, hsig⟩))⟩
  refine .inr ⟨hs, v, i, sig, rfl, hsig, ?_⟩
  -- the aggregation the quorum check sees is the one returned
  split at h
  · cases h
  · rename_i signedMsg' hagg
    simp only [pure, Except.pure, Except.ok.injEq, Prod.mk.injEq] at h
    obtain ⟨rfl, -, rfl⟩ := h
    by_cases hex : i ∈ excludedValidators
    · refine ⟨.inl ⟨hex, ?_⟩, by simpa [hex] using hagg⟩
      simp [hex]
    · refine ⟨.inr ⟨hex, ?_⟩, by simpa [hex] using hagg⟩
      simp [hex]

/-- A response of a node the round asked adds at most its validator's index to the map. -/
theorem handleResponse_mem
    (h : handleResponse ctx vdrs sentTo requestID excludedValidators q agg response =
      .ok (signedMsg, relevant, agg')) {j : ℕ} (hj : j ∈ agg'.signatureMap) :
    j ∈ agg.signatureMap ∨
      response.nodeID ∈ sentTo ∧ j = vdrs.nodeValidatorIndexMap response.nodeID := by
  rcases handleResponse_eq_ok h with ⟨rfl, -⟩ | ⟨hs, v, i, sig, hv, -, ⟨-, hm, -⟩ | ⟨-, hm, -⟩, -⟩
  · exact .inl hj
  · exact .inl (hm ▸ hj)
  · rw [hm, AList.mem_insert] at hj
    rcases hj with rfl | hj
    · exact .inr ⟨hs, (getValidator_eq_some hv).1⟩
    · exact .inl hj

/-- A message `handleResponse` returns has the map's indices as signers, and the accumulated
weight met the quorum. -/
theorem handleResponse_signed
    (h : handleResponse ctx vdrs sentTo requestID excludedValidators q agg response =
      .ok (signedMsg, relevant, agg')) {m : SignedMessage S} (hm : signedMsg = some m) :
    m.signers = agg'.signatureMap.keys ∧
      checkStakeWeightExceedsThreshold agg'.accumulatedSignatureWeight vdrs.totalWeight q = true := by
  subst hm
  rcases handleResponse_eq_ok h with ⟨-, hn, -⟩ | ⟨-, -, -, -, -, -, -, hagg⟩
  · cases hn
  · exact aggregateIfSufficientWeight_eq_some hagg

/-- A response keeps the weight counted when the map does not hold its validator's index yet. -/
theorem handleResponse_counted (hc : Counted vdrs agg)
    (hfresh : response.nodeID ∈ sentTo →
      vdrs.nodeValidatorIndexMap response.nodeID ∉ agg.signatureMap)
    (h : handleResponse ctx vdrs sentTo requestID excludedValidators q agg response =
      .ok (signedMsg, relevant, agg')) :
    Counted vdrs agg' := by
  rcases handleResponse_eq_ok h with ⟨rfl, -⟩ | ⟨hs, v, i, sig, hv, -, ⟨-, hm, hw⟩ | ⟨-, hm, hw⟩, -⟩
  · exact hc
  · rw [Counted, hm, hw]
    exact hc
  · obtain ⟨rfl, -, hwt⟩ := getValidator_eq_some hv
    rw [Counted, hm, hw, signersWeight_insert_of_notMem _ _ (hfresh hs), hwt, hc]

/-- A valid response for a validator whose signature the map already holds adds the validator's
weight to `accumulatedSignatureWeight` again, while the weight of the map's signers stays. -/
theorem handleResponse_recounts {v : Warp N K} {i : ℕ} {sig : S} (hs : response.nodeID ∈ sentTo)
    (hid : response.requestID = requestID) (hop : response.op = .appResponse)
    (hv : vdrs.getValidator response.nodeID = some (v, i))
    (hsig : isValidSignatureResponse ctx response v.publicKeyBytes = some sig)
    (hex : i ∉ excludedValidators) (hi : i ∈ agg.signatureMap)
    (h : handleResponse ctx vdrs sentTo requestID excludedValidators q agg response =
      .ok (signedMsg, relevant, agg')) :
    agg'.accumulatedSignatureWeight = agg.accumulatedSignatureWeight + v.weight ∧
      signersWeight vdrs agg'.signatureMap.keys = signersWeight vdrs agg.signatureMap.keys := by
  rcases handleResponse_eq_ok h with ⟨-, -, hn | hn | hn | ⟨v', i', hv', hn⟩⟩ |
      ⟨-, v', i', sig', hv', hsig', ⟨hex', -⟩ | ⟨-, hm, hw⟩, -⟩
  · exact absurd hs hn
  · exact absurd hid hn
  · rw [hop] at hn
    cases hn
  · -- the response is valid: its validator is the one of `hv`
    obtain ⟨rfl, -⟩ := Prod.mk.inj (Option.some.inj (hv'.symm.trans hv))
    rw [hsig] at hn
    cases hn
  · obtain ⟨rfl, rfl⟩ := Prod.mk.inj (Option.some.inj (hv'.symm.trans hv))
    exact absurd hex' hex
  · obtain ⟨rfl, rfl⟩ := Prod.mk.inj (Option.some.inj (hv'.symm.trans hv))
    obtain rfl := Option.some.inj (hsig'.symm.trans hsig)
    exact ⟨hw, by rw [hm, signersWeight_insert_of_mem _ _ hi]⟩

/-- The channel loop keeps the weight counted when the responses are for distinct validators and
those of nodes the round asked are for validators the map does not hold; a message it returns has
the map's indices as signers and met the quorum. -/
theorem responseLoop_counted {responsesExpected : ℤ} :
    ∀ {responses : List (InboundMessage N B)} {responseCount : ℤ} {agg agg' : Aggregation K S}
      {signedMsg : Option (SignedMessage S)},
      Counted vdrs agg → (responses.map fun r => vdrs.nodeValidatorIndexMap r.nodeID).Nodup →
      (∀ r ∈ responses, r.nodeID ∈ sentTo →
        vdrs.nodeValidatorIndexMap r.nodeID ∉ agg.signatureMap) →
      responseLoop ctx vdrs sentTo requestID excludedValidators q responsesExpected responses
        responseCount agg = .ok (signedMsg, agg') →
      Counted vdrs agg' ∧ ∀ m, signedMsg = some m → m.signers = agg'.signatureMap.keys ∧
        checkStakeWeightExceedsThreshold agg'.accumulatedSignatureWeight vdrs.totalWeight q = true
  | [], _, agg, agg', signedMsg, hc, _, _, h => by
    simp only [responseLoop, pure, Except.pure, Except.ok.injEq, Prod.mk.injEq] at h
    obtain ⟨rfl, rfl⟩ := h
    exact ⟨hc, fun _ hm => nomatch hm⟩
  | response :: responses, responseCount, agg, agg', signedMsg, hc, hnd, hfresh, h => by
    simp only [List.map_cons, List.nodup_cons] at hnd
    simp only [responseLoop] at h
    rcases hr : handleResponse ctx vdrs sentTo requestID excludedValidators q agg response with
      e | ⟨sm, relevant, agg₁⟩ <;> simp only [hr] at h
    · cases h
    have hc₁ := handleResponse_counted hc (hfresh response List.mem_cons_self) hr
    rcases sm with _ | m
    · simp only at h
      generalize (if relevant then responseCount + 1 else responseCount) = count at h
      split at h
      · simp only [pure, Except.pure, Except.ok.injEq, Prod.mk.injEq] at h
        obtain ⟨rfl, rfl⟩ := h
        exact ⟨hc₁, fun _ hm => nomatch hm⟩
      · -- the rest of the channel is for validators neither in the map nor the first response's
        refine responseLoop_counted hc₁ hnd.2 (fun r hr' hs hmem => ?_) h
        rcases handleResponse_mem hr hmem with hold | ⟨-, heq⟩
        · exact hfresh r (List.mem_cons_of_mem _ hr') hs hold
        · exact hnd.1 (heq ▸ List.mem_map_of_mem hr')
    · simp only [pure, Except.pure, Except.ok.injEq, Prod.mk.injEq] at h
      obtain ⟨rfl, rfl⟩ := h
      exact ⟨hc₁, fun m' hm => handleResponse_signed hr hm⟩

end

/-! ## Rounds and retries -/

section
variable [DecidableEq N]

theorem mem_addConnectedNodes {connectedNodes : Finset N} {nodeID : N} :
    ∀ {nodeIDs : List N} {vdrSet : Finset N},
      nodeID ∈ addConnectedNodes connectedNodes vdrSet nodeIDs → nodeID ∈ vdrSet ∨ nodeID ∈ nodeIDs
  | [], _, h => .inl h
  | n :: ns, vdrSet, h => by
    rw [addConnectedNodes] at h
    rcases mem_addConnectedNodes h with h | h
    · split at h
      · rcases Finset.mem_insert.1 h with rfl | h
        · exact .inr List.mem_cons_self
        · exact .inl h
      · exact .inl h
    · exact .inr (List.mem_cons_of_mem _ h)

/-- A node the fan-out asks is a node of a validator the map holds no signature of. -/
theorem mem_requestLoop {connectedNodes : Finset N} {signatureMap : AList fun _ : ℕ => S}
    {nodeID : N} :
    ∀ {vs : List (Warp N K)} {i : ℕ} {vdrSet : Finset N},
      nodeID ∈ requestLoop connectedNodes signatureMap vs i vdrSet →
      nodeID ∈ vdrSet ∨ ∃ j v, vs[j]? = some v ∧ nodeID ∈ v.nodeIDs ∧ i + j ∉ signatureMap
  | [], _, _, h => .inl h
  | v :: vs, i, vdrSet, h => by
    -- a node of a later validator is one of `vs` at `j + 1`
    have hlater : ∀ {j w}, vs[j]? = some w → nodeID ∈ w.nodeIDs → i + 1 + j ∉ signatureMap →
        ∃ j v', (v :: vs)[j]? = some v' ∧ nodeID ∈ v'.nodeIDs ∧ i + j ∉ signatureMap :=
      fun {j w} hw hn hj => ⟨j + 1, w, by simpa using hw, hn, by rwa [← Nat.add_assoc, Nat.add_right_comm]⟩
    unfold requestLoop at h
    split at h
    · rcases mem_requestLoop h with h | ⟨j, w, hw, hn, hj⟩
      · exact .inl h
      · exact .inr (hlater hw hn hj)
    · rename_i hi
      rcases mem_requestLoop h with h | ⟨j, w, hw, hn, hj⟩
      · rcases mem_addConnectedNodes h with h | h
        · exact .inl h
        · exact .inr ⟨0, v, rfl, h, hi⟩
      · exact .inr (hlater hw hn hj)

/-- In a well-formed set, a node a round asks answers for a validator the map holds no
signature of. -/
theorem notMem_of_mem_requestedNodes {vdrs : CanonicalValidators N K}
    {signatureMap : AList fun _ : ℕ => S} {nodeID : N} (hwf : WellFormed vdrs)
    (h : nodeID ∈ requestedNodes vdrs signatureMap) :
    vdrs.nodeValidatorIndexMap nodeID ∉ signatureMap := by
  rcases mem_requestLoop h with h | ⟨j, v, hv, hn, hj⟩
  · simp at h
  · rw [hwf j v nodeID (by simpa using hv) hn]
    simpa using hj

theorem nodeIndexLoop_of_notMem {nodeID : N} :
    ∀ {vs : List (Warp N K)} {i : ℕ} {m : N → ℕ}, (∀ v ∈ vs, nodeID ∉ v.nodeIDs) →
      nodeIndexLoop vs i m nodeID = m nodeID
  | [], _, _, _ => rfl
  | v :: vs, i, m, h => by
    rw [nodeIndexLoop, nodeIndexLoop_of_notMem fun w hw => h w (List.mem_cons_of_mem _ hw)]
    simp [h v List.mem_cons_self]

/-- With the validators' nodes disjoint, each node of validator `j` is mapped to `j`. -/
theorem nodeIndexLoop_of_mem {nodeID : N} :
    ∀ {vs : List (Warp N K)} {i j : ℕ} {m : N → ℕ} {v : Warp N K},
      vs.Pairwise (fun a b => a.nodeIDs.Disjoint b.nodeIDs) → vs[j]? = some v →
      nodeID ∈ v.nodeIDs → nodeIndexLoop vs i m nodeID = i + j
  | [], _, _, _, _, _, h, _ => by simp at h
  | w :: vs, i, 0, m, v, hp, h, hn => by
    obtain rfl : w = v := by simpa using h
    -- no later validator has the node
    rw [nodeIndexLoop, nodeIndexLoop_of_notMem
      fun u hu hnu => (List.pairwise_cons.1 hp).1 u hu hn hnu]
    simp [hn]
  | w :: vs, i, j + 1, m, v, hp, h, hn => by
    rw [nodeIndexLoop, nodeIndexLoop_of_mem (List.pairwise_cons.1 hp).2 (by simpa using h) hn]
    omega

theorem buildCanonicalValidators_wellFormed {validators : List (Warp N K)} {totalWeight : ℕ}
    {peers : Finset N} (hp : validators.Pairwise fun a b => a.nodeIDs.Disjoint b.nodeIDs) :
    WellFormed (buildCanonicalValidators validators totalWeight peers) :=
  fun i v _ hv hn => by
    simpa [buildCanonicalValidators] using nodeIndexLoop_of_mem (i := 0) (m := fun _ => 0) hp hv hn

end

theorem cachedLoop_counted {vdrs : CanonicalValidators N K} {cachedSignatures : K → Option S}
    {excludedValidators : Finset ℕ} :
    ∀ {vs pre : List (Warp N K)} {signatureMap : AList fun _ : ℕ => S} {weight : ℕ},
      pre ++ vs = vdrs.validators → (∀ j ∈ signatureMap, j < pre.length) →
      weight = signersWeight vdrs signatureMap.keys →
      let r := cachedLoop cachedSignatures excludedValidators vs pre.length signatureMap weight
      r.2 = signersWeight vdrs r.1.keys
  | [], _, _, _, _, _, hw => hw
  | v :: vs, pre, signatureMap, weight, hpre, hlt, hw => by
    have hpre' : (pre ++ [v]) ++ vs = vdrs.validators := by simpa using hpre
    have hlen : pre.length + 1 = (pre ++ [v]).length := by simp
    have hlt' : ∀ j ∈ signatureMap, j < (pre ++ [v]).length := fun j hj => by
      have := hlt j hj
      simp only [List.length_append, List.length_singleton]
      omega
    simp only [cachedLoop]
    -- the next validator is at `pre.length + 1`, whatever happens to this one
    split
    · split
      · have hv : weightOf vdrs pre.length = v.weight := by simp [weightOf, ← hpre]
        have hnew : pre.length ∉ signatureMap := fun h => Nat.lt_irrefl _ (hlt _ h)
        rw [hlen]
        refine cachedLoop_counted hpre' (fun j hj => ?_) ?_
        · rcases (AList.mem_insert _).1 hj with rfl | hj
          · simp
          · exact hlt' j hj
        · rw [signersWeight_insert_of_notMem _ _ hnew, hv, hw]
      · rw [hlen]
        exact cachedLoop_counted hpre' hlt' hw
    · rw [hlen]
      exact cachedLoop_counted hpre' hlt' hw

theorem getCachedSignaturesForMessage_counted (signatureCache : K → Option S)
    (vdrs : CanonicalValidators N K) (excludedValidators : Finset ℕ) :
    Counted vdrs (getCachedSignaturesForMessage signatureCache vdrs excludedValidators) :=
  cachedLoop_counted (List.nil_append _) (by simp) (by simp [signersWeight])

/-- What a round ends with keeps the weight counted, and a message it returns has the map's
indices as signers and met the quorum `q`. -/
def RoundResult.Sound (vdrs : CanonicalValidators N K) (q : ℕ) : RoundResult K S → Prop
  | .signed m agg => Counted vdrs agg ∧ m.signers = agg.signatureMap.keys ∧
      checkStakeWeightExceedsThreshold agg.accumulatedSignatureWeight vdrs.totalWeight q = true
  | .retry agg => Counted vdrs agg
  | .permanent => True

section
variable [DecidableEq N] [DecidableEq K] {ctx : Context K S B} {vdrs : CanonicalValidators N K}
  {excludedValidators : Finset ℕ} {requiredQuorumPercentage quorumPercentageBuffer q : ℕ}

/-- A round whose responses are for distinct validators keeps the weight counted, and a message
it returns met both quorums it checks against, so any quorum `q` below both. -/
theorem collectRound_sound {round : Round N B} {agg : Aggregation K S} (hwf : WellFormed vdrs)
    (hq : q ≤ requiredQuorumPercentage)
    (hq' : q ≤ addPercentages requiredQuorumPercentage quorumPercentageBuffer)
    (hc : Counted vdrs agg)
    (hnd : (round.responses.map fun r => vdrs.nodeValidatorIndexMap r.nodeID).Nodup) :
    (collectRound ctx vdrs excludedValidators requiredQuorumPercentage quorumPercentageBuffer round
      agg).Sound vdrs q := by
  -- a node the round asked answers for a validator the map does not hold
  have hfresh : ∀ r ∈ round.responses,
      r.nodeID ∈ (requestedNodes vdrs agg.signatureMap).filter (fun n => n ∈ round.reached) →
      vdrs.nodeValidatorIndexMap r.nodeID ∉ agg.signatureMap :=
    fun r _ hs => notMem_of_mem_requestedNodes hwf (Finset.mem_filter.1 hs).1
  unfold collectRound
  dsimp only
  split
  · trivial
  · rename_i m agg₁ hcol
    split at hcol
    · obtain ⟨hc₁, hm⟩ := responseLoop_counted hc hnd hfresh hcol
      obtain ⟨hs, hck⟩ := hm m rfl
      exact ⟨hc₁, hs, checkStakeWeightExceedsThreshold_mono hq' hck⟩
    · simp [pure, Except.pure] at hcol
  · rename_i agg₁ hcol
    -- the channel loop, if it ran, kept the count
    have hc₁ : Counted vdrs agg₁ := by
      split at hcol
      · exact (responseLoop_counted hc hnd hfresh hcol).1
      · simp only [pure, Except.pure, Except.ok.injEq, Prod.mk.injEq] at hcol
        obtain ⟨-, rfl⟩ := hcol
        exact hc
    -- the last check is against the required quorum alone
    split
    · rename_i m hagg
      obtain ⟨hs, hck⟩ := aggregateIfSufficientWeight_eq_some hagg
      exact ⟨hc₁, hs, checkStakeWeightExceedsThreshold_mono hq hck⟩
    · exact hc₁

/-- The retries keep the weight counted, and a message they return met the quorum `q`. -/
theorem collectSignaturesWithRetries_sound (hwf : WellFormed vdrs)
    (hq : q ≤ requiredQuorumPercentage)
    (hq' : q ≤ addPercentages requiredQuorumPercentage quorumPercentageBuffer) :
    ∀ {rounds : List (Round N B)} {agg agg' : Aggregation K S} {m : SignedMessage S},
      Counted vdrs agg →
      (∀ round ∈ rounds, (round.responses.map fun r => vdrs.nodeValidatorIndexMap r.nodeID).Nodup) →
      collectSignaturesWithRetries ctx vdrs excludedValidators requiredQuorumPercentage
        quorumPercentageBuffer rounds agg = .ok (m, agg') →
      Counted vdrs agg' ∧ m.signers = agg'.signatureMap.keys ∧
        checkStakeWeightExceedsThreshold agg'.accumulatedSignatureWeight vdrs.totalWeight q = true
  | [], _, _, _, _, _, h => by simp [collectSignaturesWithRetries] at h
  | round :: rounds, agg, agg', m, hc, hnd, h => by
    have hs : (collectRound ctx vdrs excludedValidators requiredQuorumPercentage
        quorumPercentageBuffer round agg).Sound vdrs q :=
      collectRound_sound hwf hq hq' hc (hnd round List.mem_cons_self)
    unfold collectSignaturesWithRetries at h
    split at h
    · rename_i m' agg₁ hr
      rw [hr] at hs
      simp only [Except.ok.injEq, Prod.mk.injEq] at h
      obtain ⟨rfl, rfl⟩ := h
      exact hs
    · rename_i agg₁ hr
      rw [hr] at hs
      exact collectSignaturesWithRetries_sound hwf hq hq' hs
        (fun r hr' => hnd r (List.mem_cons_of_mem _ hr')) h
    · cases h

/-- When the responses of each round come from distinct validators, every message
`CreateSignedMessage` returns has the map's indices as signers, `accumulatedSignatureWeight` is
their weight, and that weight meets the required quorum. -/
theorem createSignedMessage_meets_quorum {signatureCache : K → Option S}
    {rounds : List (Round N B)} {m : SignedMessage S} {agg : Aggregation K S}
    (hwf : WellFormed vdrs)
    (hbuf : requiredQuorumPercentage + quorumPercentageBuffer < 2 ^ 64)
    (hnd : ∀ round ∈ rounds,
      (round.responses.map fun r => vdrs.nodeValidatorIndexMap r.nodeID).Nodup)
    (h : createSignedMessage ctx vdrs excludedValidators requiredQuorumPercentage
      quorumPercentageBuffer signatureCache rounds = .ok (m, agg)) :
    Counted vdrs agg ∧ m.signers = agg.signatureMap.keys ∧
      checkStakeWeightExceedsThreshold (signersWeight vdrs m.signers) vdrs.totalWeight
        requiredQuorumPercentage = true := by
  -- with no wrap-around, the buffered quorum is at least the required one
  have hadd : requiredQuorumPercentage ≤
      addPercentages requiredQuorumPercentage quorumPercentageBuffer := by
    rw [addPercentages, Nat.mod_eq_of_lt hbuf]
    omega
  have hc₀ := getCachedSignaturesForMessage_counted signatureCache vdrs excludedValidators
  simp only [createSignedMessage, Solidity.bind_eq_ok] at h
  obtain ⟨-, -, signedMsg, hagg, h⟩ := h
  have hsound : Counted vdrs agg ∧ m.signers = agg.signatureMap.keys ∧
      checkStakeWeightExceedsThreshold agg.accumulatedSignatureWeight vdrs.totalWeight
        requiredQuorumPercentage = true := by
    rcases signedMsg with _ | m'
    · exact collectSignaturesWithRetries_sound hwf le_rfl hadd hc₀ hnd h
    · simp only [Solidity.pure_eq_ok, Prod.mk.injEq] at h
      obtain ⟨rfl, rfl⟩ := h
      obtain ⟨hs, hck⟩ := aggregateIfSufficientWeight_eq_some hagg
      exact ⟨hc₀, hs, checkStakeWeightExceedsThreshold_mono hadd hck⟩
  obtain ⟨hc, hs, hck⟩ := hsound
  refine ⟨hc, hs, ?_⟩
  rwa [hs, ← hc]

/-- Signatures that verify when they equal the key, aggregated by their sum. -/
def sampleContext : Context ℕ ℕ ℕ where
  unmarshalResponse := some
  verify := fun key sig => sig == key
  aggregateSignatures := fun sigs => if sigs = [] then none else some sigs.sum

/-- Validators 0 and 1 run one node each, 1 and 3, with weights 40 and 60 and keys 7 and 8. -/
def oneNodeValidators : CanonicalValidators ℕ ℕ :=
  buildCanonicalValidators [⟨7, 40, [1]⟩, ⟨8, 60, [3]⟩] 100 {1, 3}

set_option maxRecDepth 20000 in
/-- Both validators answer the first round: the message returned is signed by both. -/
theorem createSignedMessage_meets_quorum_one_node_each :
    ∃ m agg, createSignedMessage sampleContext oneNodeValidators ∅ 67 5 (fun _ => none)
        [⟨2, {1, 3}, [⟨1, .appResponse, 2, 7⟩, ⟨3, .appResponse, 2, 8⟩]⟩] = .ok (m, agg) ∧
      Counted oneNodeValidators agg ∧ m.signers = agg.signatureMap.keys ∧
      checkStakeWeightExceedsThreshold (signersWeight oneNodeValidators m.signers)
        oneNodeValidators.totalWeight 67 = true := by
  obtain ⟨m, agg, h⟩ : ∃ m agg, createSignedMessage sampleContext oneNodeValidators ∅ 67 5
      (fun _ => none) [⟨2, {1, 3}, [⟨1, .appResponse, 2, 7⟩, ⟨3, .appResponse, 2, 8⟩]⟩] =
      .ok (m, agg) := ⟨_, _, rfl⟩
  have hwf : WellFormed oneNodeValidators := buildCanonicalValidators_wellFormed (by simp)
  exact ⟨m, agg, h, createSignedMessage_meets_quorum hwf (by decide) (by decide) h⟩

end

/-! ## A validator with two nodes -/

/-- Validator 0 runs nodes 1 and 2, with weight 40 and key 7; validator 1 runs node 3, with
weight 60 and key 8; all three nodes are connected. -/
def twoNodeValidators : CanonicalValidators ℕ ℕ :=
  buildCanonicalValidators [⟨7, 40, [1, 2]⟩, ⟨8, 60, [3]⟩] 100 {1, 2, 3}

set_option maxRecDepth 20000 in
/-- Request 2 asks nodes 1, 2 and 3, and both nodes of validator 0 answer with its signature: the
handler forwards both, and `CreateSignedMessage` (required quorum 67, buffer 5, nothing cached)
counts validator 0 twice and returns a message that only validator 0, with 40 of 100, signed. -/
theorem two_nodes_count_validator_twice :
    ∃ h tr msg agg,
      requestedNodes twoNodeValidators (∅ : AList fun _ : ℕ => ℕ) = {1, 2, 3} ∧
      Contract.Exec Peers.step Handler.empty tr h ∧
      sentOn 2 (Contract.log tr) = [⟨1, .appResponse, 2, 7⟩, ⟨2, .appResponse, 2, 7⟩] ∧
      createSignedMessage sampleContext twoNodeValidators ∅ 67 5 (fun _ => none)
        [⟨2, {1, 2, 3}, [⟨1, .appResponse, 2, 7⟩, ⟨2, .appResponse, 2, 7⟩]⟩] = .ok (msg, agg) ∧
      agg.accumulatedSignatureWeight = 80 ∧
      signersWeight twoNodeValidators agg.signatureMap.keys = 40 ∧ msg.signers = [0] ∧
      checkStakeWeightExceedsThreshold (signersWeight twoNodeValidators msg.signers)
        twoNodeValidators.totalWeight 67 = false :=
  ⟨_, _, _, _, by decide,
    ((((Contract.Exec.nil _).snoc (show Peers.step Handler.empty
        (.registerRequestID 2 {1, 2, 3}) = .ok (_, []) from rfl)).snoc
      (show Peers.step _ (.registerAppResponse ⟨1, .appResponse, 2, 7⟩) = .ok (_, _) from rfl)).snoc
      (show Peers.step _ (.registerAppResponse ⟨2, .appResponse, 2, 7⟩) = .ok (_, _) from rfl)),
    rfl, rfl, rfl, rfl, rfl, rfl⟩

end SignatureAggregator
