import FinanceResearch.Lib.Calendar
import FinanceResearch.Lib.Json
import FinanceResearch.Lib.Sha256

/-!
# Run records

The serialized values of `domain/models.py` that the run repository stores:
the run identity, the immutable `RunContext`, the `RunCheckpoint` log entries,
the published bundle and its receipt, with the vocabularies of
`domain/enums.py` and `domain/errors.py` they use.

Mirroring notes vs the source:
- `RunContext.market_date` and `.revision` are read off `RunId`: the model
  validator `_consistent_identity` admits a context only when its `run_id` is
  the canonical text of that date and revision, so the pair *is* the
  identifier (`RunId.text`). The repository creates a directory only under
  such a name.
- Timestamps are UTC by type; the source rejects every other offset.
- JSON files hold typed values. Writing `canonical_bytes` and reading with
  `model_validate_json` is pydantic's round trip.
-/

namespace FinanceResearch

open Calendar (Date UtcDatetime)

abbrev Bytes := ByteArray

instance instDecidableEqBytes : DecidableEq Bytes := ByteArray.instDecidableEq

/-- `text.encode("utf-8")`. -/
def encode (text : String) : Bytes := text.toUTF8

/-- `payload.decode("utf-8")`; `none` is `UnicodeDecodeError`. -/
def decode (payload : Bytes) : Option String := String.fromUTF8? payload

@[simp] theorem decode_encode (text : String) : decode (encode text) = some text := by
  obtain ⟨payload, hvalid⟩ := text
  simp [decode, encode, String.fromUTF8?, hvalid, String.fromUTF8]

theorem encode_injective {t u : String} (h : encode t = encode u) : t = u := by
  have hdecode := congrArg decode h
  rwa [decode_encode, decode_encode, Option.some.injEq] at hdecode

export Sha256 (sha256)

/-! ## Vocabularies -/

inductive InvocationType where
  | scheduled | manual
  deriving DecidableEq, Repr

inductive RunType where
  | premarket
  deriving DecidableEq, Repr

def RunType.value : RunType → String
  | .premarket => "PREMARKET"

inductive ExecutionStatus where
  | created | collecting | normalizing | analyzing | awaitingSynthesis | validating
  | published | failed | skipped
  deriving DecidableEq, Repr

def ExecutionStatus.value : ExecutionStatus → String
  | .created => "CREATED"
  | .collecting => "COLLECTING"
  | .normalizing => "NORMALIZING"
  | .analyzing => "ANALYZING"
  | .awaitingSynthesis => "AWAITING_SYNTHESIS"
  | .validating => "VALIDATING"
  | .published => "PUBLISHED"
  | .failed => "FAILED"
  | .skipped => "SKIPPED"

inductive DataQualityStatus where
  | pass | degraded | fail
  deriving DecidableEq, Repr

def DataQualityStatus.value : DataQualityStatus → String
  | .pass => "PASS"
  | .degraded => "DEGRADED"
  | .fail => "FAIL"

inductive DeliveryStatus where
  | onTime | delayed | manual | missedWindow
  deriving DecidableEq, Repr

def DeliveryStatus.value : DeliveryStatus → String
  | .onTime => "ON_TIME"
  | .delayed => "DELAYED"
  | .manual => "MANUAL"
  | .missedWindow => "MISSED_WINDOW"

/-- `ErrorCode`, the closed failure vocabulary. -/
inductive ErrorCode where
  | sourceNotConfigured | configurationInvalid | credentialsMissing | permissionDenied
  | marketCalendarUnavailable | missedWindow | providerUnavailable | providerNoData
  | providerMissingSession | providerDuplicateConflict | providerMalformedBar | providerStale
  | providerFutureOrIncompleteBar | providerSchemaDrift | invalidResponse | invalidRequest
  | evidenceCutoffViolation | sourceConflict | staleData | unsupportedInstrument
  | sizingUnavailable | portfolioHeatUnavailable | invalidRunState | internalError
  | validationFailed | publicationFailed | pathNotAllowed | deadlineExceeded
  deriving DecidableEq, Repr

def ErrorCode.value : ErrorCode → String
  | .sourceNotConfigured => "SOURCE_NOT_CONFIGURED"
  | .configurationInvalid => "CONFIGURATION_INVALID"
  | .credentialsMissing => "CREDENTIALS_MISSING"
  | .permissionDenied => "PERMISSION_DENIED"
  | .marketCalendarUnavailable => "MARKET_CALENDAR_UNAVAILABLE"
  | .missedWindow => "MISSED_WINDOW"
  | .providerUnavailable => "PROVIDER_UNAVAILABLE"
  | .providerNoData => "PROVIDER_NO_DATA"
  | .providerMissingSession => "PROVIDER_MISSING_SESSION"
  | .providerDuplicateConflict => "PROVIDER_DUPLICATE_CONFLICT"
  | .providerMalformedBar => "PROVIDER_MALFORMED_BAR"
  | .providerStale => "PROVIDER_STALE"
  | .providerFutureOrIncompleteBar => "PROVIDER_FUTURE_OR_INCOMPLETE_BAR"
  | .providerSchemaDrift => "PROVIDER_SCHEMA_DRIFT"
  | .invalidResponse => "INVALID_RESPONSE"
  | .invalidRequest => "INVALID_REQUEST"
  | .evidenceCutoffViolation => "EVIDENCE_CUTOFF_VIOLATION"
  | .sourceConflict => "SOURCE_CONFLICT"
  | .staleData => "STALE_DATA"
  | .unsupportedInstrument => "UNSUPPORTED_INSTRUMENT"
  | .sizingUnavailable => "SIZING_UNAVAILABLE"
  | .portfolioHeatUnavailable => "PORTFOLIO_HEAT_UNAVAILABLE"
  | .invalidRunState => "INVALID_RUN_STATE"
  | .internalError => "INTERNAL_ERROR"
  | .validationFailed => "VALIDATION_FAILED"
  | .publicationFailed => "PUBLICATION_FAILED"
  | .pathNotAllowed => "PATH_NOT_ALLOWED"
  | .deadlineExceeded => "DEADLINE_EXCEEDED"

/-- Every member, in declaration order. -/
def ErrorCode.all : List ErrorCode :=
  [.sourceNotConfigured, .configurationInvalid, .credentialsMissing, .permissionDenied,
   .marketCalendarUnavailable, .missedWindow, .providerUnavailable, .providerNoData,
   .providerMissingSession, .providerDuplicateConflict, .providerMalformedBar, .providerStale,
   .providerFutureOrIncompleteBar, .providerSchemaDrift, .invalidResponse, .invalidRequest,
   .evidenceCutoffViolation, .sourceConflict, .staleData, .unsupportedInstrument,
   .sizingUnavailable, .portfolioHeatUnavailable, .invalidRunState, .internalError,
   .validationFailed, .publicationFailed, .pathNotAllowed, .deadlineExceeded]

/-! ## `FrozenMap` -/

/-- `FrozenMap`: key-sorted, without duplicate keys, at most 128 entries. -/
structure FrozenMap (β : Type) where
  items : List (String × β)
  sorted : (items.map Prod.fst).Pairwise (· < ·)
  bounded : items.length ≤ 128
  deriving DecidableEq

namespace FrozenMap

variable {β : Type}

def empty : FrozenMap β := ⟨[], List.Pairwise.nil, Nat.zero_le _⟩

/-- `mapping.get(name)`. -/
def get? (m : FrozenMap β) (name : String) : Option β := m.items.lookup name

/-- `set(mapping)`, in key order. -/
def names (m : FrozenMap β) : List String := m.items.map Prod.fst

@[simp] theorem items_empty : (empty : FrozenMap β).items = [] := rfl
@[simp] theorem names_empty : (empty : FrozenMap β).names = [] := rfl
@[simp] theorem get?_empty (name : String) : (empty : FrozenMap β).get? name = none := rfl

theorem mem_names_iff (m : FrozenMap β) (name : String) :
    name ∈ m.names ↔ ∃ value, (name, value) ∈ m.items := by
  simp [names]

/-- A lookup finds exactly the listed entry. -/
theorem get?_eq_some (m : FrozenMap β) {name : String} {value : β} :
    m.get? name = some value ↔ (name, value) ∈ m.items := by
  unfold get?
  have hs := m.sorted
  generalize m.items = items at hs
  induction items with
  | nil => simp
  | cons p rest ih =>
    obtain ⟨k, v⟩ := p
    rw [List.map_cons, List.pairwise_cons] at hs
    rw [List.lookup_cons, List.mem_cons]
    by_cases hk : name = k
    · subst hk
      simp only [beq_self_eq_true, Option.some.injEq, Prod.mk.injEq, true_and]
      constructor
      · rintro rfl
        exact Or.inl rfl
      · rintro (rfl | hmem)
        · rfl
        · exact absurd (hs.1 name (List.mem_map.mpr ⟨_, hmem, rfl⟩)) (lt_irrefl name)
    · have hbeq : (name == k) = false := by simpa using hk
      simp only [hbeq, Prod.mk.injEq, hk, false_and, false_or]
      exact ih hs.2

theorem get?_isSome (m : FrozenMap β) (name : String) :
    (m.get? name).isSome ↔ name ∈ m.names := by
  rw [mem_names_iff, Option.isSome_iff_exists]
  exact exists_congr fun value => m.get?_eq_some

end FrozenMap

/-! ## Identity -/

/-- `premarket-<market date>-r<revision>`, as the date and the positive revision. -/
structure RunId where
  marketDate : Date
  revision : Nat
  positive : 0 < revision
  deriving DecidableEq

/-- `format_run_id`. -/
def RunId.text (r : RunId) : String :=
  "premarket-" ++ r.marketDate.isoformat ++ "-r" ++ toString r.revision

/-- Two revisions of one date are the same run exactly when the numbers are. -/
theorem RunId.ext_iff' {p q : RunId} (hd : p.marketDate = q.marketDate) :
    p = q ↔ p.revision = q.revision := by
  obtain ⟨_, _, _⟩ := p
  obtain ⟨_, _, _⟩ := q
  simp only at hd
  subst hd
  simp

/-! ## Run contexts -/

structure ConfigurationSnapshot where
  contentHashSha256 : String
  fileHashes : FrozenMap String
  watchlistVersion : String
  regimePolicyVersion : String
  setupPolicyVersion : String
  riskPolicyVersion : String
  sourcePolicyVersion : String
  policies : Option (FrozenMap Json)
  policyHashes : Option (FrozenMap String)
  radarUniverse : List String
  deriving DecidableEq

structure ComponentVersions where
  coreVersion : String
  mcpContractVersion : String
  pluginVersion : String
  skillVersion : String
  promptVersion : String
  reportTemplateVersion : String
  schemaVersions : FrozenMap String
  watchlistVersion : String
  regimePolicyVersion : String
  setupPolicyVersion : String
  riskPolicyVersion : String
  sourcePolicyVersion : String
  deriving DecidableEq

/-- The values a new run is created from; the five policy versions it names are
those of its configuration snapshot. -/
structure RunContextSeed where
  marketDate : Date
  invokedAt : UtcDatetime
  deliveryStatus : DeliveryStatus
  configurationSnapshot : ConfigurationSnapshot
  componentVersions : ComponentVersions
  policyVersionsMatch :
    componentVersions.watchlistVersion = configurationSnapshot.watchlistVersion ∧
    componentVersions.regimePolicyVersion = configurationSnapshot.regimePolicyVersion ∧
    componentVersions.setupPolicyVersion = configurationSnapshot.setupPolicyVersion ∧
    componentVersions.riskPolicyVersion = configurationSnapshot.riskPolicyVersion ∧
    componentVersions.sourcePolicyVersion = configurationSnapshot.sourcePolicyVersion

structure RunContext where
  runId : RunId
  runType : RunType
  invokedAt : UtcDatetime
  evidenceCutoffAt : Option UtcDatetime
  executionStatus : ExecutionStatus
  dataQualityStatus : DataQualityStatus
  deliveryStatus : DeliveryStatus
  configurationSnapshot : ConfigurationSnapshot
  coreVersion : String
  mcpContractVersion : String
  pluginVersion : String
  skillVersion : String
  promptVersion : String
  reportTemplateVersion : String
  schemaVersions : FrozenMap String
  deriving DecidableEq

/-- `model_copy(update={execution_status, data_quality_status, delivery_status})`. -/
def RunContext.withStatuses (run : RunContext) (execution : ExecutionStatus)
    (quality : DataQualityStatus) (delivery : DeliveryStatus) : RunContext :=
  { run with
    executionStatus := execution
    dataQualityStatus := quality
    deliveryStatus := delivery }

@[simp] theorem RunContext.withStatuses_runId (run : RunContext) (e q d) :
    (run.withStatuses e q d).runId = run.runId := rfl

/-! ## Checkpoints -/

/-- One entry of a run's checkpoint log. -/
structure RunCheckpoint where
  runId : RunId
  stage : String
  executionStatus : ExecutionStatus
  dataQualityStatus : DataQualityStatus
  deliveryStatus : DeliveryStatus
  writtenAt : UtcDatetime
  evidenceCutoffAt : Option UtcDatetime
  artifactHashes : FrozenMap String
  resumable : Bool
  deriving DecidableEq

/-- What `load` returns: the context, the log in file-name order, the frozen cutoff. -/
structure StoredRun where
  run : RunContext
  checkpoints : List RunCheckpoint
  evidenceCutoffAt : Option UtcDatetime
  published : Bool
  deriving DecidableEq

/-! ## Published values -/

structure PublishedRunBundle where
  run : RunContext
  bundle : FrozenMap Json
  reportMarkdown : String
  markdownSha256 : Option String
  deriving DecidableEq

structure PublishedArtifact where
  runId : RunId
  bundleSha256 : String
  markdownSha256 : String
  publishedAt : UtcDatetime
  deriving DecidableEq

/-! ## `canonical_bytes` -/

def FrozenMap.toJson {β : Type} (value : β → Json) (m : FrozenMap β) : Json :=
  .obj (m.items.map fun item => (item.1, value item.2))

def optionJson {β : Type} (value : β → Json) : Option β → Json
  | none => .null
  | some x => value x

def ConfigurationSnapshot.toJson (c : ConfigurationSnapshot) : Json :=
  .obj [("schema_version", .str "0.1"),
    ("content_hash_sha256", .str c.contentHashSha256),
    ("file_hashes", c.fileHashes.toJson .str),
    ("watchlist_version", .str c.watchlistVersion),
    ("regime_policy_version", .str c.regimePolicyVersion),
    ("setup_policy_version", .str c.setupPolicyVersion),
    ("risk_policy_version", .str c.riskPolicyVersion),
    ("source_policy_version", .str c.sourcePolicyVersion),
    ("policies", optionJson (FrozenMap.toJson id) c.policies),
    ("policy_hashes", optionJson (FrozenMap.toJson .str) c.policyHashes),
    ("radar_universe", .arr (c.radarUniverse.map .str))]

def RunContext.toJson (run : RunContext) : Json :=
  .obj [("schema_version", .str "0.1"),
    ("run_id", .str run.runId.text),
    ("run_type", .str run.runType.value),
    ("market_date", .str run.runId.marketDate.isoformat),
    ("revision", .int run.runId.revision),
    ("invoked_at", .str (Calendar.jsonText run.invokedAt)),
    ("evidence_cutoff_at", optionJson (fun t => .str (Calendar.jsonText t)) run.evidenceCutoffAt),
    ("execution_status", .str run.executionStatus.value),
    ("data_quality_status", .str run.dataQualityStatus.value),
    ("delivery_status", .str run.deliveryStatus.value),
    ("configuration_snapshot", run.configurationSnapshot.toJson),
    ("core_version", .str run.coreVersion),
    ("mcp_contract_version", .str run.mcpContractVersion),
    ("plugin_version", .str run.pluginVersion),
    ("skill_version", .str run.skillVersion),
    ("prompt_version", .str run.promptVersion),
    ("report_template_version", .str run.reportTemplateVersion),
    ("schema_versions", run.schemaVersions.toJson .str)]

def PublishedRunBundle.toJson (b : PublishedRunBundle) : Json :=
  .obj [("schema_version", .str "0.1"),
    ("run", b.run.toJson),
    ("bundle", b.bundle.toJson id),
    ("report_markdown", .str b.reportMarkdown),
    ("markdown_sha256", optionJson .str b.markdownSha256)]

/-- `canonical_bytes(bundle)`. -/
@[irreducible] def canonicalBytes (b : PublishedRunBundle) : Bytes := encode b.toJson.dumps

/-- Bundles whose texts differ early on have different bytes. -/
theorem canonicalBytes_ne {b b' : PublishedRunBundle} (n : Nat)
    (h : b.toJson.chars.take n ≠ b'.toJson.chars.take n) :
    canonicalBytes b ≠ canonicalBytes b' := by
  intro heq
  rw [canonicalBytes, canonicalBytes] at heq
  have hchars := congrArg String.toList (encode_injective heq)
  rw [Json.dumps, Json.dumps, String.toList_ofList, String.toList_ofList] at hchars
  exact h (by rw [hchars])

end FinanceResearch
