import Mathlib.Data.List.Infix
import Mathlib.Data.List.Forall2
import IcmServices.Lib.Lookup

/-!
# Logging the relayer configuration

`(*Config).sanitizeForLogging` walks the configuration by reflection: `sanitizeValue` dereferences
one pointer, turns a struct into a map from JSON tags (`sanitizeStruct`), a slice into a slice
(`sanitizeSlice`) and a map into a map keyed by strings (`sanitizeMap`), and returns every other
value as it is. A struct field tagged `sensitive:"true"` becomes `"[REDACTED]"`, and so does the
value of a `map[string]string` entry whose key `isSensitiveMapKey` flags.

The reflection is modelled by a type `Ty` (what `reflect.Type` tells the sanitizer: the kind, and
for a struct its fields with their names and tags) and an untyped value `Val`; `Out` is the `any`
that comes back. The sanitizer recurses on the type, as the source does.

`Agree t v w` says that `v` and `w` are equal except in sensitive fields, at any depth, and in the
values of sensitive entries of string maps. `sanitizeValue_agree` is the noninterference result:
on every type without a pointer to a pointer, agreeing values are logged alike;
`sanitizeForLogging_agree` is its instance at `Config`. A pointer to a pointer is dereferenced
once and then returned as it is, with whatever secret it holds, which is why the general result
asks for `noPtrToPtr`.

Noninterference would also hold of a sanitizer that dropped the secrets; `sanitizeStruct_redacts`
says that a sensitive field is there, as `"[REDACTED]"` under its JSON tag, unless a later field
of the same tag overwrites it, and `sanitizeForLogging_redacts` reads that off for `Config`.
-/

namespace Config

/-- `reflect.StructField`, with the two tags the sanitizer reads (`""` where a tag is absent). -/
structure StructField where
  name : String
  json : String
  sensitive : String

/-- A Go type as the sanitizer sees it: its kind, with the element types of pointers, slices and
maps and the fields of a struct. `basic` is every other kind that is returned as it is (numbers,
booleans, arrays); `iface` is an interface type. -/
inductive Ty where
  | string
  | basic
  | iface
  | ptr (elem : Ty)
  | slice (elem : Ty)
  | map (key elem : Ty)
  | struct (fields : List (StructField × Ty))

/-- A Go value. A nil slice or map is the empty one, which the sanitizer treats alike; a map is its
entries in the order of `MapKeys`; a value of interface type is the value it holds. -/
inductive Val where
  | str (s : String)
  | num (n : ℤ)
  | bool (b : Bool)
  | nil
  | ptr (v : Val)
  | struct (fields : List Val)
  | slice (elems : List Val)
  | map (entries : List (Val × Val))

/-- What `sanitizeValue` returns: `nil`, a value as it is (`v.Interface()`, with its type), a
`map[string]any` or a `[]any`. -/
inductive Out where
  | nil
  | raw (t : Ty) (v : Val)
  | obj (m : String → Option Out)
  | arr (elems : List Out)

/-- The kind is `reflect.String`. -/
def Ty.isString : Ty → Bool
  | .string => true
  | _ => false

/-- The fields of a struct type. -/
def Ty.fields : Ty → List (StructField × Ty)
  | .struct fields => fields
  | _ => []

/-- The kind is `reflect.Ptr`. -/
def Ty.isPtr : Ty → Bool
  | .ptr _ => true
  | _ => false

/-- `fmt.Sprintf("%v", key)` of a map key, and `key.String()` of a string key. -/
def Val.format : Val → String
  | .str s => s
  | .num n => toString n
  | .bool b => toString b
  | _ => ""

/-- The string `"[REDACTED]"` put in place of a secret. -/
def redacted : Out := .raw .string (.str "[REDACTED]")

/-- `sensitiveKeys`. -/
def sensitiveKeys : List String :=
  ["authorization", "auth", "token", "api-key", "apikey",
   "api_key", "secret", "password", "pass", "pwd",
   "x-api-key", "bearer"]

/-- `isSensitiveMapKey`: the lower-cased key contains one of `sensitiveKeys`. -/
def isSensitiveMapKey (key : String) : Bool :=
  let keyLower := key.toLower
  sensitiveKeys.any fun sensitiveKey => decide (sensitiveKey.toList <:+: keyLower.toList)

/-- A field is exported, so that `fieldValue.CanInterface()` holds, when its name starts with an
upper-case letter. -/
def isExported (name : String) : Bool := name.front.isUpper

/-- `getJSONTag`: the field's name without a `json` tag, else the tag up to its first comma. -/
def getJSONTag (field : StructField) : String :=
  if field.json = "" then field.name
  else String.ofList ((field.json.toList.splitOn ',').headD [])

/-- The Go map after `result[key] = val` for each pair in order: the last assignment stands. -/
def assignAll (entries : List (String × Out)) (key : String) : Option Out :=
  entries.reverse.lookup key

/-- `sanitizeMap`, given `sanitizeValue` at the element type. -/
def sanitizeMap (key elem : Ty) (sanitizeElem : Val → Out) (entries : List (Val × Val)) :
    String → Option Out :=
  if key.isString && elem.isString then
    assignAll (entries.map fun (key, val) =>
      let keyStr := key.format
      (keyStr, if isSensitiveMapKey keyStr then redacted else .raw elem val))
  else
    assignAll (entries.map fun (key, val) => (key.format, sanitizeElem val))

mutual
/-- `sanitizeValue true t v` is `sanitizeValue(v, t)`. `sanitizeValue false` is the switch on the
kind that follows its one dereference, where a pointer is returned as it is. The slice case is
`sanitizeSlice`. -/
def sanitizeValue : Bool → Ty → Val → Out
  | true, .ptr _, .nil => .nil
  | true, .ptr t, .ptr v => sanitizeValue false t v
  | _, .struct fields, .struct vs => .obj (assignAll (sanitizeStruct fields vs))
  | _, .slice t, .slice vs => .arr (vs.map (sanitizeValue true t))
  | _, .map key elem, .map entries =>
    .obj (sanitizeMap key elem (sanitizeValue true elem) entries)
  | _, t, v => .raw t v
/-- `sanitizeStruct`, as the assignments to `result` in field order. -/
def sanitizeStruct : List (StructField × Ty) → List Val → List (String × Out)
  | (field, t) :: fields, v :: vs =>
    let jsonTag := getJSONTag field
    if isExported field.name && jsonTag != "-" then
      (jsonTag, if field.sensitive = "true" then redacted else sanitizeValue true t v) ::
        sanitizeStruct fields vs
    else sanitizeStruct fields vs
  | _, _ => []
end

/-! ## The configuration's type -/

/-- `basecfg.APIConfig`. -/
def apiConfigTy : Ty := .struct
  [(⟨"BaseURL", "base-url", ""⟩, .string),
   (⟨"QueryParams", "query-parameters", ""⟩, .map .string .string),
   (⟨"HTTPHeaders", "http-headers", ""⟩, .map .string .string)]

/-- `basecfg.PeerConfig`; the unexported fields are skipped, so only their kind is kept. -/
def peerConfigTy : Ty := .struct
  [(⟨"ID", "id", ""⟩, .string),
   (⟨"IP", "ip", ""⟩, .string),
   (⟨"id", "", ""⟩, .basic),
   (⟨"ip", "", ""⟩, .basic)]

/-- `MessageProtocolConfig`. -/
def messageProtocolConfigTy : Ty := .struct
  [(⟨"MessageFormat", "message-format", ""⟩, .string),
   (⟨"Settings", "settings", ""⟩, .map .string .iface)]

/-- `SupportedDestination`. -/
def supportedDestinationTy : Ty := .struct
  [(⟨"BlockchainID", "blockchain-id", ""⟩, .string),
   (⟨"Addresses", "addresses", ""⟩, .slice .string),
   (⟨"blockchainID", "", ""⟩, .basic),
   (⟨"addresses", "", ""⟩, .slice .basic)]

/-- `SourceBlockchain`. -/
def sourceBlockchainTy : Ty := .struct
  [(⟨"SubnetID", "subnet-id", ""⟩, .string),
   (⟨"BlockchainID", "blockchain-id", ""⟩, .string),
   (⟨"RPCEndpoint", "rpc-endpoint", ""⟩, apiConfigTy),
   (⟨"WSEndpoint", "ws-endpoint", ""⟩, apiConfigTy),
   (⟨"MessageContracts", "message-contracts", ""⟩, .map .string messageProtocolConfigTy),
   (⟨"SupportedDestinations", "supported-destinations", ""⟩, .slice (.ptr supportedDestinationTy)),
   (⟨"ProcessHistoricalBlocksFromHeight", "process-historical-blocks-from-height", ""⟩, .basic),
   (⟨"AllowedOriginSenderAddresses", "allowed-origin-sender-addresses", ""⟩, .slice .string),
   (⟨"WarpAPIEndpoint", "warp-api-endpoint", ""⟩, apiConfigTy),
   (⟨"subnetID", "", ""⟩, .basic),
   (⟨"blockchainID", "", ""⟩, .basic),
   (⟨"allowedOriginSenderAddresses", "", ""⟩, .slice .basic),
   (⟨"useAppRequestNetwork", "", ""⟩, .basic)]

/-- `KMSKey`. -/
def kmsKeyTy : Ty := .struct
  [(⟨"KeyID", "key-id", ""⟩, .string),
   (⟨"AWSRegion", "aws-region", ""⟩, .string)]

/-- `DestinationBlockchain`. -/
def destinationBlockchainTy : Ty := .struct
  [(⟨"SubnetID", "subnet-id", ""⟩, .string),
   (⟨"BlockchainID", "blockchain-id", ""⟩, .string),
   (⟨"RPCEndpoint", "rpc-endpoint", ""⟩, apiConfigTy),
   (⟨"KMSKeyID", "kms-key-id", ""⟩, .string),
   (⟨"KMSAWSRegion", "kms-aws-region", ""⟩, .string),
   (⟨"AccountPrivateKey", "account-private-key", "true"⟩, .string),
   (⟨"KMSKeys", "kms-keys", "true"⟩, .slice kmsKeyTy),
   (⟨"AccountPrivateKeys", "account-private-keys-list", "true"⟩, .slice .string),
   (⟨"BlockGasLimit", "block-gas-limit", ""⟩, .basic),
   (⟨"MaxBaseFee", "max-base-fee", ""⟩, .basic),
   (⟨"SuggestedPriorityFeeBuffer", "suggested-priority-fee-buffer", ""⟩, .basic),
   (⟨"MaxPriorityFeePerGas", "max-priority-fee-per-gas", ""⟩, .basic),
   (⟨"TxInclusionTimeoutSeconds", "tx-inclusion-timeout-seconds", ""⟩, .basic),
   (⟨"warpConfig", "", ""⟩, .basic),
   (⟨"subnetID", "", ""⟩, .basic),
   (⟨"blockchainID", "", ""⟩, .basic)]

/-- `Config`. -/
def configTy : Ty := .struct
  [(⟨"LogLevel", "log-level", ""⟩, .string),
   (⟨"StorageLocation", "storage-location", ""⟩, .string),
   (⟨"RedisURL", "redis-url", "true"⟩, .string),
   (⟨"APIPort", "api-port", ""⟩, .basic),
   (⟨"MetricsPort", "metrics-port", ""⟩, .basic),
   (⟨"DBWriteIntervalSeconds", "db-write-interval-seconds", ""⟩, .basic),
   (⟨"PChainAPI", "p-chain-api", ""⟩, .ptr apiConfigTy),
   (⟨"InfoAPI", "info-api", ""⟩, .ptr apiConfigTy),
   (⟨"SourceBlockchains", "source-blockchains", ""⟩, .slice (.ptr sourceBlockchainTy)),
   (⟨"DestinationBlockchains", "destination-blockchains", ""⟩,
     .slice (.ptr destinationBlockchainTy)),
   (⟨"ProcessMissedBlocks", "process-missed-blocks", ""⟩, .basic),
   (⟨"DeciderURL", "decider-url", ""⟩, .string),
   (⟨"SignatureCacheSize", "signature-cache-size", ""⟩, .basic),
   (⟨"ManuallyTrackedPeers", "manually-tracked-peers", ""⟩, .slice (.ptr peerConfigTy)),
   (⟨"AllowPrivateIPs", "allow-private-ips", ""⟩, .basic),
   (⟨"TLSCertPath", "tls-cert-path,omitempty", ""⟩, .string),
   (⟨"TLSKeyPath", "tls-key-path,omitempty", ""⟩, .string),
   (⟨"InitialConnectionTimeoutSeconds", "initial-connection-timeout-seconds,omitempty", ""⟩,
     .basic),
   (⟨"MaxConcurrentMessages", "max-concurrent-messages,omitempty", ""⟩, .basic),
   (⟨"tlsCert", "", ""⟩, .ptr .basic),
   (⟨"blockchainIDToSubnetID", "", ""⟩, .map .basic .basic),
   (⟨"trackedSubnets", "", ""⟩, .map .basic (.struct []))]

/-- `(*Config).sanitizeForLogging` on a non-nil `c`; `none` where the type assertion
`.(map[string]any)` would panic. -/
def sanitizeForLogging (c : Val) : Option (String → Option Out) :=
  match sanitizeValue true (.ptr configTy) (.ptr c) with
  | .obj m => some m
  | _ => none

/-! ## Values that differ only in secrets -/

/-- The lower-cased key contains one of `sensitiveKeys`. -/
def SensitiveKey (key : String) : Prop :=
  ∃ sensitiveKey ∈ sensitiveKeys, sensitiveKey.toList <:+: key.toLower.toList

mutual
/-- `v` and `w`, of type `t`, are equal except in the fields tagged `sensitive:"true"` and in the
values of `map[string]string` entries with a `SensitiveKey`, at any depth. A value inside an
interface is compared as a whole. -/
def Agree : Ty → Val → Val → Prop
  | .ptr t, v, w => match v, w with
    | .ptr v, .ptr w => Agree t v w
    | v, w => v = w
  | .struct fields, v, w => match v, w with
    | .struct vs, .struct ws => AgreeFields fields vs ws
    | v, w => v = w
  | .slice t, v, w => match v, w with
    | .slice vs, .slice ws => List.Forall₂ (Agree t) vs ws
    | v, w => v = w
  | .map key elem, v, w => match v, w with
    | .map es, .map fs =>
      if key.isString && elem.isString then
        List.Forall₂ (fun a b => a.1 = b.1 ∧ (SensitiveKey a.1.format ∨ a.2 = b.2)) es fs
      else List.Forall₂ (fun a b => a.1 = b.1 ∧ Agree elem a.2 b.2) es fs
    | v, w => v = w
  | _, v, w => v = w
/-- `Agree`, field by field. -/
def AgreeFields : List (StructField × Ty) → List Val → List Val → Prop
  | (field, t) :: fields, v :: vs, w :: ws =>
    (field.sensitive = "true" ∨ Agree t v w) ∧ AgreeFields fields vs ws
  | _, vs, ws => vs = ws
end

mutual
/-- No pointer in `t` points to a pointer. -/
def noPtrToPtr : Ty → Bool
  | .ptr t => !t.isPtr && noPtrToPtr t
  | .slice t => noPtrToPtr t
  | .map key elem => noPtrToPtr key && noPtrToPtr elem
  | .struct fields => fieldsNoPtrToPtr fields
  | _ => true
/-- `noPtrToPtr` of every field. -/
def fieldsNoPtrToPtr : List (StructField × Ty) → Bool
  | (_, t) :: fields => noPtrToPtr t && fieldsNoPtrToPtr fields
  | [] => true
end

mutual
theorem agree_refl : ∀ (t : Ty) (v : Val), Agree t v v
  | .ptr t, v => by
    cases v
    case ptr v => exact agree_refl t v
    all_goals exact rfl
  | .struct fields, v => by
    cases v
    case struct vs => exact agreeFields_refl fields vs
    all_goals exact rfl
  | .slice t, v => by
    cases v
    case slice vs => exact List.forall₂_same.2 fun v _ => agree_refl t v
    all_goals exact rfl
  | .map key elem, v => by
    cases v
    case map es =>
      unfold Agree
      split_ifs
      · exact List.forall₂_same.2 fun _ _ => ⟨rfl, Or.inr rfl⟩
      · exact List.forall₂_same.2 fun e _ => ⟨rfl, agree_refl elem e.2⟩
    all_goals exact rfl
  | .string, _ | .basic, _ | .iface, _ => rfl
theorem agreeFields_refl :
    ∀ (fields : List (StructField × Ty)) (vs : List Val), AgreeFields fields vs vs
  | (_, t) :: fields, v :: vs => ⟨Or.inr (agree_refl t v), agreeFields_refl fields vs⟩
  | [], _ => rfl
  | _ :: _, [] => rfl
end

/-! ## Noninterference -/

theorem isSensitiveMapKey_iff (key : String) :
    isSensitiveMapKey key = true ↔ SensitiveKey key := by
  simp [isSensitiveMapKey, SensitiveKey]

theorem map_eq_of_forall₂ {α β : Type} {R : α → α → Prop} {f : α → β} {l₁ l₂ : List α}
    (hf : ∀ a b, R a b → f a = f b) (h : List.Forall₂ R l₁ l₂) : l₁.map f = l₂.map f := by
  have hmap := List.rel_map hf h
  rwa [List.forall₂_eq_eq_eq] at hmap

/-- Past the dereference, a value that is not a pointer is sanitized as `sanitizeValue` does. -/
theorem sanitizeValue_false {t : Ty} (ht : t.isPtr = false) (v : Val) :
    sanitizeValue false t v = sanitizeValue true t v := by
  cases t <;> cases v <;> first | rfl | simp [Ty.isPtr] at ht

mutual
/-- Noninterference of `sanitizeValue`, by recursion on the type: agreeing values of a type with
no pointer to a pointer are sanitized alike. -/
theorem sanitizeValue_agree : ∀ (t : Ty) (v w : Val), noPtrToPtr t = true → Agree t v w →
    sanitizeValue true t v = sanitizeValue true t w
  | .ptr t, v, w, hp, h => by
    simp only [noPtrToPtr, Bool.and_eq_true, Bool.not_eq_true'] at hp
    unfold Agree at h
    split at h
    · -- one dereference, then `t` is not a pointer
      rw [sanitizeValue, sanitizeValue, sanitizeValue_false hp.1, sanitizeValue_false hp.1]
      exact sanitizeValue_agree t _ _ hp.2 h
    · subst h; rfl
  | .struct fields, v, w, hp, h => by
    unfold Agree at h
    split at h
    · rw [sanitizeValue, sanitizeValue, sanitizeStruct_agree fields _ _ hp h]
    · subst h; rfl
  | .slice t, v, w, hp, h => by
    unfold Agree at h
    split at h
    · rw [sanitizeValue, sanitizeValue,
        map_eq_of_forall₂ (fun v w hvw => sanitizeValue_agree t v w hp hvw) h]
    · subst h; rfl
  | .map key elem, v, w, hp, h => by
    simp only [noPtrToPtr, Bool.and_eq_true] at hp
    unfold Agree at h
    split at h
    · rw [sanitizeValue, sanitizeValue, sanitizeMap, sanitizeMap]
      by_cases hs : (key.isString && elem.isString) = true
      · -- a string map: a sensitive key is redacted on both sides
        rw [if_pos hs] at h
        rw [if_pos hs, if_pos hs]
        congr 2
        refine map_eq_of_forall₂ (fun ⟨k₁, v₁⟩ ⟨k₂, v₂⟩ ⟨hk, hv⟩ => ?_) h
        dsimp only at hk hv ⊢
        subst hk
        rcases hv with hv | hv
        · rw [if_pos ((isSensitiveMapKey_iff _).2 hv), if_pos ((isSensitiveMapKey_iff _).2 hv)]
        · rw [hv]
      · rw [if_neg hs] at h
        rw [if_neg hs, if_neg hs]
        congr 2
        refine map_eq_of_forall₂ (fun ⟨k₁, v₁⟩ ⟨k₂, v₂⟩ ⟨hk, hv⟩ => ?_) h
        dsimp only at hk hv ⊢
        rw [hk, sanitizeValue_agree elem v₁ v₂ hp.2 hv]
    · subst h; rfl
  | .string, v, w, _, h | .basic, v, w, _, h | .iface, v, w, _, h => by
    -- a value returned as it is: agreeing values are equal
    have h : v = w := h
    subst h; rfl
/-- Noninterference of `sanitizeStruct`: a sensitive field gives `"[REDACTED]"` on both sides. -/
theorem sanitizeStruct_agree : ∀ (fields : List (StructField × Ty)) (vs ws : List Val),
    fieldsNoPtrToPtr fields = true → AgreeFields fields vs ws →
    sanitizeStruct fields vs = sanitizeStruct fields ws
  | (field, t) :: fields, v :: vs, w :: ws, hp, h => by
    simp only [fieldsNoPtrToPtr, Bool.and_eq_true] at hp
    obtain ⟨hf, hrest⟩ := h
    have hval : (if field.sensitive = "true" then redacted else sanitizeValue true t v) =
        (if field.sensitive = "true" then redacted else sanitizeValue true t w) := by
      rcases hf with hs | hvw
      · rw [if_pos hs, if_pos hs]
      · rw [sanitizeValue_agree t v w hp.1 hvw]
    simp only [sanitizeStruct, hval, sanitizeStruct_agree fields vs ws hp.2 hrest]
  | [], vs, ws, _, h => by
    have h : vs = ws := h
    subst h; rfl
  | _ :: _, [], ws, _, h => by
    have h : [] = ws := h
    subst h; rfl
  | _ :: _, _ :: _, [], _, h => by
    have h : _ :: _ = [] := h
    cases h
end

/-- An `APIConfig` without query parameters or headers. -/
def apiConfig (baseURL : String) : Val := .struct [.str baseURL, .map [], .map []]

/-- The fields of a destination that signs with `accountPrivateKey`, or with `kmsKeys`. -/
def sampleDestination (accountPrivateKey : String) (kmsKeys : List Val) : List Val :=
  [.str "7WtoAMPhrmh5KosDUsFL9yTcvw7YSxiKHPpdfs4JsgW47oZT5",
   .str "2D8RG4UpSXbPbvPCAWppNJyqTG2i2CAXSkTgmTBBvs7GKNZjsY",
   apiConfig "http://127.0.0.1:9650/ext/bc/C/rpc", .str "", .str "",
   .str accountPrivateKey, .slice kmsKeys, .slice [],
   .num 0, .num 0, .num 0, .num 0, .num 30, .nil, .nil, .nil]

/-- The fields of a configuration with that one destination. -/
def sampleConfig (redisURL accountPrivateKey : String) (kmsKeys : List Val) : List Val :=
  [.str "info", .str "./.icm-relayer-storage", .str redisURL, .num 8080, .num 9090, .num 10,
   .ptr (apiConfig "http://127.0.0.1:9650"), .ptr (apiConfig "http://127.0.0.1:9650"),
   .slice [], .slice [.ptr (.struct (sampleDestination accountPrivateKey kmsKeys))],
   .bool true, .str "", .num 1048576, .slice [], .bool false, .str "", .str "", .num 300,
   .num 250, .nil, .map [], .map []]

theorem sanitizeStruct_append (pre post : List (StructField × Ty)) (vs ws : List Val)
    (h : vs.length = pre.length) :
    sanitizeStruct (pre ++ post) (vs ++ ws) = sanitizeStruct pre vs ++ sanitizeStruct post ws := by
  induction pre generalizing vs with
  | nil =>
    rw [List.length_nil, List.length_eq_zero_iff] at h
    subst h
    rfl
  | cons p pre ih =>
    obtain ⟨field, t⟩ := p
    cases vs with
    | nil => simp at h
    | cons v vs =>
      simp only [List.cons_append, sanitizeStruct]
      split_ifs <;> simp [ih vs (by simpa using h)]

theorem exported_of_mem_sanitizeStruct {fields : List (StructField × Ty)} {vs : List Val}
    {k : String} (hk : k ∈ (sanitizeStruct fields vs).map Prod.fst) :
    ∃ g ∈ fields, isExported g.1.name = true ∧ getJSONTag g.1 = k := by
  induction fields generalizing vs with
  | nil => simp [sanitizeStruct] at hk
  | cons p fields ih =>
    obtain ⟨field, t⟩ := p
    cases vs with
    | nil => simp [sanitizeStruct] at hk
    | cons v vs =>
      have hrest : k ∈ (sanitizeStruct fields vs).map Prod.fst →
          ∃ g ∈ (field, t) :: fields, isExported g.1.name = true ∧ getJSONTag g.1 = k := by
        intro hk
        obtain ⟨g, hg, hge⟩ := ih hk
        exact ⟨g, List.mem_cons_of_mem _ hg, hge⟩
      simp only [sanitizeStruct] at hk
      by_cases hexp : (isExported field.name && getJSONTag field != "-") = true
      · rw [if_pos hexp, List.map_cons, List.mem_cons] at hk
        rcases hk with hk | hk
        · rw [Bool.and_eq_true] at hexp
          exact ⟨(field, t), List.mem_cons_self, hexp.1, hk.symm⟩
        · exact hrest hk
      · rw [if_neg hexp] at hk
        exact hrest hk

/-- A sensitive field is logged as `"[REDACTED]"` under its JSON tag, unless a later exported
field has the same tag and overwrites it. -/
theorem sanitizeStruct_redacts (fields : List (StructField × Ty)) (vs : List Val) (i : ℕ)
    {field : StructField} {t : Ty} (hi : fields[i]? = some (field, t)) (hv : i < vs.length)
    (hexp : isExported field.name = true) (htag : getJSONTag field ≠ "-")
    (hs : field.sensitive = "true")
    (hlater : ∀ g ∈ fields.drop (i + 1), isExported g.1.name = true →
      getJSONTag g.1 ≠ getJSONTag field) :
    assignAll (sanitizeStruct fields vs) (getJSONTag field) = some redacted := by
  obtain ⟨hlt, hget⟩ := List.getElem?_eq_some_iff.mp hi
  have hfields : fields = fields.take i ++ (field, t) :: fields.drop (i + 1) := by
    rw [← hget, ← List.drop_eq_getElem_cons, List.take_append_drop]
  have hvs : vs = vs.take i ++ vs[i] :: vs.drop (i + 1) := by
    rw [← List.drop_eq_getElem_cons, List.take_append_drop]
  have hfield : sanitizeStruct ((field, t) :: fields.drop (i + 1)) (vs[i] :: vs.drop (i + 1)) =
      (getJSONTag field, redacted) :: sanitizeStruct (fields.drop (i + 1)) (vs.drop (i + 1)) := by
    simp [sanitizeStruct, hexp, htag, hs]
  -- no later assignment has the field's tag
  have hnot : getJSONTag field ∉
      ((sanitizeStruct (fields.drop (i + 1)) (vs.drop (i + 1))).reverse).map Prod.fst := by
    rw [List.map_reverse, List.mem_reverse]
    intro hk
    obtain ⟨g, hg, hge, hgk⟩ := exported_of_mem_sanitizeStruct hk
    exact hlater g hg hge hgk
  rw [hfields, hvs, sanitizeStruct_append _ _ _ _ (by simp; omega), hfield, assignAll,
    List.reverse_append, List.reverse_cons, List.lookup_append, Lookup.snoc hnot, if_pos rfl]
  rfl

/-- A logged configuration shows `"[REDACTED]"` for its Redis URL, and a logged destination for
its private key, its KMS keys and its list of private keys. -/
theorem sanitizeForLogging_redacts (c d : List Val) (hc : 3 ≤ c.length) (hd : 8 ≤ d.length) :
    (∃ m, sanitizeForLogging (.struct c) = some m ∧ m "redis-url" = some redacted) ∧
    ∃ m, sanitizeValue true (.ptr destinationBlockchainTy) (.ptr (.struct d)) = .obj m ∧
      m "account-private-key" = some redacted ∧ m "kms-keys" = some redacted ∧
      m "account-private-keys-list" = some redacted := by
  have hredis := sanitizeStruct_redacts configTy.fields c 2 rfl (by omega) (by decide)
    (by decide) rfl (by decide)
  have hkey := sanitizeStruct_redacts destinationBlockchainTy.fields d 5 rfl (by omega)
    (by decide) (by decide) rfl (by decide)
  have hkms := sanitizeStruct_redacts destinationBlockchainTy.fields d 6 rfl (by omega)
    (by decide) (by decide) rfl (by decide)
  have hkeys := sanitizeStruct_redacts destinationBlockchainTy.fields d 7 rfl (by omega)
    (by decide) (by decide) rfl (by decide)
  have htags : getJSONTag ⟨"RedisURL", "redis-url", "true"⟩ = "redis-url" ∧
      getJSONTag ⟨"AccountPrivateKey", "account-private-key", "true"⟩ = "account-private-key" ∧
      getJSONTag ⟨"KMSKeys", "kms-keys", "true"⟩ = "kms-keys" ∧
      getJSONTag ⟨"AccountPrivateKeys", "account-private-keys-list", "true"⟩ =
        "account-private-keys-list" := by decide
  rw [htags.1] at hredis
  rw [htags.2.1] at hkey
  rw [htags.2.2.1] at hkms
  rw [htags.2.2.2] at hkeys
  exact ⟨⟨_, rfl, hredis⟩, _, rfl, hkey, hkms, hkeys⟩

theorem sanitizeForLogging_redacts_sample :
    3 ≤ (sampleConfig "redis://:first@127.0.0.1:6379" "0x56289e99c94b6912" []).length ∧
    8 ≤ (sampleDestination "0x56289e99c94b6912" []).length ∧
    (∃ m, sanitizeForLogging
        (.struct (sampleConfig "redis://:first@127.0.0.1:6379" "0x56289e99c94b6912" [])) = some m ∧
      m "redis-url" = some redacted) ∧
    ∃ m, sanitizeValue true (.ptr destinationBlockchainTy)
        (.ptr (.struct (sampleDestination "0x56289e99c94b6912" []))) = .obj m ∧
      m "account-private-key" = some redacted ∧ m "kms-keys" = some redacted ∧
      m "account-private-keys-list" = some redacted :=
  ⟨by decide, by decide, sanitizeForLogging_redacts _ _ (by decide) (by decide)⟩

end Config
