import FinanceResearch.Brief.Documents
import FinanceResearch.Lib.JsonSize
import FinanceResearch.Plans.Records

/-!
# Building a packet

`application/packet_service.py`: the sorted input as a packet, and the three rounds that
trim its evidence until it fits the budget.

Mirroring notes vs the source:
- A record of a section that is carried over whole comes with its
  `model_dump(mode="json")`, which is pydantic's.
- `_validated` makes the checks of `domain/packets.py`. The validators of the records
  themselves are those their types state.
- `canonical_prompt_sha256()` is an argument.
-/

namespace FinanceResearch.Packets

open Calendar (UtcDatetime)

/-- What building a packet raises. -/
inductive PacketError where
  | valueError (message : String)
  | budgetExceeded (message : String)
  /-- The loop of `_packet` does not end. -/
  | diverged
  deriving DecidableEq, Repr

/-- `raise ValueError(message)`. -/
def reject (condition : Prop) [Decidable condition] (message : String) : Except PacketError Unit :=
  if condition then throw (.valueError message) else pure ()

/-! ## Records -/

/-- A record, and its `model_dump(mode="json")`. -/
structure Dumped (α : Type) where
  value : α
  json : Json

/-- `PlanObservation`. -/
structure PlanObservation where
  planId : Identifier

/-- `source.model_dump(mode="json")`. -/
def sourceJson (source : SourceObservation) : Json :=
  .obj [("schema_version", .str "0.1"),
    ("observation_id", identifierJson source.observationId),
    ("provider", identifierJson source.provider),
    ("source_url", optionJson .str source.sourceUrl),
    ("source_hash_sha256", .str source.sourceHashSha256),
    ("observed_at", timeJson source.observedAt),
    ("retrieved_at", timeJson source.retrievedAt),
    ("content_type", .str source.contentType.val),
    ("excerpt", .str source.excerpt.val),
    ("persistence_allowed", .bool source.persistenceAllowed),
    ("quality_flags", .arr (source.qualityFlags.flags.map identifierJson))]

/-- `item.model_dump(mode="json")`. -/
def evidenceJson (item : EvidenceItem) : Json :=
  .obj [("schema_version", .str "0.1"),
    ("evidence_id", identifierJson item.evidenceId),
    ("source", sourceJson item.source),
    ("authority_tier", .int item.authorityTier),
    ("instrument_id", optionJson identifierJson item.instrumentId),
    ("event_time", optionJson timeJson item.eventTime),
    ("published_time", optionJson timeJson item.publishedTime),
    ("structured_fields", item.structuredFields.toJson id),
    ("citation_label", .str item.citationLabel.val)]

structure SynthesisConstraints where
  maxSerializedBytes : Nat
  serializedBytes : Nat
  truncated : Bool
  omittedSections : List String
  omittedBytes : FrozenMap Nat

def SynthesisConstraints.toJson (constraints : SynthesisConstraints) : Json :=
  .obj [("schema_version", .str "0.1"),
    ("max_serialized_bytes", .int constraints.maxSerializedBytes),
    ("serialized_bytes", .int constraints.serializedBytes),
    ("truncated", .bool constraints.truncated),
    ("omitted_sections", .arr (constraints.omittedSections.map .str)),
    ("omitted_bytes", constraints.omittedBytes.toJson fun bytes : Nat => .int bytes)]

/-- The sections that no round trims. -/
structure Sections where
  market : FrozenMap (Dumped MarketSnapshot)
  events : List (Dumped EventRecord)
  metrics : List (Dumped Regimes.MetricResult)
  gates : List (Dumped GateResult)
  candidates : List (Dumped Plans.SetupCandidate)
  candidateExclusions : List (Dumped CandidateExclusion)
  deterministicPlanInputs : List (Dumped Plans.TradePlanDraft)
  capabilityStates : List (Dumped CapabilityState)
  priorPlanObservations : List (Dumped PlanObservation)
  regimeResult : Option (Dumped Regimes.RegimeResult)

/-- No records. -/
def Sections.empty : Sections where
  market := FrozenMap.empty
  events := []
  metrics := []
  gates := []
  candidates := []
  candidateExclusions := []
  deterministicPlanInputs := []
  capabilityStates := []
  priorPlanObservations := []
  regimeResult := none

structure ResearchPacket where
  packetId : String
  canonicalSha256 : String
  run : RunContext
  evidence : List EvidenceItem
  sections : Sections
  synthesisConstraints : SynthesisConstraints

namespace ResearchPacket

/-- The dumps of a section. -/
def dumps {α : Type} (records : List (Dumped α)) : Json := .arr (records.map Dumped.json)

/-- `_payload`. -/
def payload (packet : ResearchPacket) : List (String × Json) :=
  [("schema_version", .str "0.1"),
    ("run", packet.run.toJson),
    ("evidence", .arr (packet.evidence.map evidenceJson)),
    ("market", packet.sections.market.toJson Dumped.json),
    ("events", dumps packet.sections.events),
    ("metrics", dumps packet.sections.metrics),
    ("gates", dumps packet.sections.gates),
    ("candidates", dumps packet.sections.candidates),
    ("candidate_exclusions", dumps packet.sections.candidateExclusions),
    ("deterministic_plan_inputs", dumps packet.sections.deterministicPlanInputs),
    ("capability_states", dumps packet.sections.capabilityStates),
    ("prior_plan_observations", dumps packet.sections.priorPlanObservations)] ++
  (packet.sections.regimeResult.map fun regime => ("regime_result", regime.json)).toList ++
  [("synthesis_constraints", packet.synthesisConstraints.toJson)]

/-- `packet.model_dump(mode="json")`. -/
def toJson (packet : ResearchPacket) : Json :=
  .obj (("packet_id", .str packet.packetId) ::
    ("canonical_sha256", .str packet.canonicalSha256) :: packet.payload)

/-- `sha256(_canonical_json(_payload(packet))).hexdigest()`. -/
def digest (packet : ResearchPacket) : String := sha256 (encode (Json.obj packet.payload).dumps)

/-- `len(_canonical_json(packet.model_dump(mode="json")))`. -/
def canonicalLength (packet : ResearchPacket) : Nat := (encode packet.toJson.dumps).size

/-- The packet with the identity its content has. -/
def identified (packet : ResearchPacket) : ResearchPacket :=
  { packet with
    packetId := "packet-" ++ packet.digest
    canonicalSha256 := packet.digest }

/-- The packet with another byte count. -/
def counted (packet : ResearchPacket) (size : Nat) : ResearchPacket :=
  { packet with
    synthesisConstraints := { packet.synthesisConstraints with serializedBytes := size } }

/-- The loop of `_packet`. -/
def settle : Nat → ResearchPacket → Except PacketError ResearchPacket
  | 0, _ => throw .diverged
  | rounds + 1, packet =>
    let size := packet.canonicalLength
    if size = packet.synthesisConstraints.serializedBytes then pure packet
    else settle rounds (packet.counted size).identified

end ResearchPacket

/-- `omitted`: what was omitted, in the order of the rounds. -/
abbrev Omitted := List (String × Nat)

/-- `provisional`. -/
def provisional (run : RunContext) (evidence : List EvidenceItem) (sections : Sections)
    (maxSerializedBytes : Nat) (omitted : Omitted) (omittedBytes : FrozenMap Nat) :
    ResearchPacket where
  packetId := "packet-pending"
  canonicalSha256 := String.ofList (List.replicate 64 '0')
  run
  evidence
  sections
  synthesisConstraints :=
    { maxSerializedBytes
      serializedBytes := 1
      truncated := decide (omitted ≠ [])
      omittedSections := omitted.map Prod.fst
      omittedBytes }

/-- `_packet`; the loop has more rounds than it needs. -/
def assemble (run : RunContext) (evidence : List EvidenceItem) (sections : Sections)
    (maxSerializedBytes : Nat) (omitted : Omitted) : Except PacketError ResearchPacket :=
  match FrozenMap.ofDict omitted with
  | none => throw (.valueError "FrozenMap permits at most 128 entries")
  | some omittedBytes =>
    let packet := (provisional run evidence sections maxSerializedBytes omitted
      omittedBytes).identified
    packet.settle (2 * packet.canonicalLength + 3)

/-! ## Checks -/

/-- The checks `validate_packet_cutoff` makes of one snapshot. -/
def validateSnapshotCutoff (cutoff : UtcDatetime) (snapshot : MarketSnapshot) :
    Except PacketError Unit := do
  forM snapshot.sourceObservations fun source =>
    reject (cutoff < source.retrievedAt ∨ cutoff < source.observedAt)
      "market source observation is after evidence cutoff"
  reject (snapshot.latestPrice.any (fun price =>
      decide (cutoff < price.observedAt) || decide (cutoff < price.retrievedAt)) = true)
    "market price observation is after evidence cutoff"
  forM snapshot.currentSessionBars fun bar =>
    reject (cutoff < bar.endAt ∨ cutoff < bar.retrievedAt)
      "current market bar is after evidence cutoff"
  forM snapshot.completedDailyBars fun bar =>
    reject (cutoff < bar.retrievedAt) "completed market bar is after evidence cutoff"

/-- `validate_packet_cutoff`. -/
def validatePacketCutoff (run : RunContext) (evidence : List EvidenceItem)
    (market : FrozenMap (Dumped MarketSnapshot)) (metrics : List (Dumped Regimes.MetricResult)) :
    Except PacketError Unit := do
  let cutoff ← match run.evidenceCutoffAt with
    | none => throw (.valueError "evidence cutoff has not been frozen")
    | some cutoff => pure cutoff
  forM evidence fun item => do
    reject (cutoff < item.source.retrievedAt ∨ cutoff < item.source.observedAt)
      "source observation is after evidence cutoff"
    reject (item.publishedTime.any (fun time => cutoff < time) = true)
      "evidence was published after evidence cutoff"
  forM market.items fun entry => validateSnapshotCutoff cutoff entry.2.value
  reject (metrics.any (fun metric => cutoff < metric.value.calculatedAt) = true)
    "metric was calculated after evidence cutoff"

/-- `_consistent_omissions`. -/
def SynthesisConstraints.consistentOmissions (constraints : SynthesisConstraints) :
    Except PacketError Unit := do
  reject (constraints.truncated ≠ decide (constraints.omittedSections ≠ []))
    "truncated must match omitted sections"
  reject (¬ ((∀ name ∈ constraints.omittedSections, name ∈ constraints.omittedBytes.names) ∧
      ∀ name ∈ constraints.omittedBytes.names, name ∈ constraints.omittedSections))
    "every omitted section requires one byte count"
  reject (constraints.maxSerializedBytes < constraints.serializedBytes)
    "serialized packet exceeds its declared maximum"

/-- `packet_metrics.get(metric.metric_id) != metric`. -/
def isReplaced (metrics : List (Dumped Regimes.MetricResult)) (metric : Regimes.MetricResult) :
    Bool :=
  match metrics.reverse.find? fun other => other.value.metricId = metric.metricId with
  | none => true
  | some other => !other.value.same metric

/-- `_verify_identity_and_size`. -/
def ResearchPacket.verifyIdentityAndSize (packet : ResearchPacket) : Except PacketError Unit := do
  validatePacketCutoff packet.run packet.evidence packet.sections.market packet.sections.metrics
  match packet.sections.regimeResult with
  | none => pure ()
  | some regime =>
    reject (regime.value.policyVersion ≠ packet.run.configurationSnapshot.regimePolicyVersion)
      "regime policy differs from frozen configuration"
    reject (some regime.value.calculatedAt ≠ packet.run.evidenceCutoffAt)
      "regime result must use the frozen evidence cutoff"
    reject (regime.value.metrics.any (isReplaced packet.sections.metrics) = true)
      "regime metrics must be retained in the packet"
  reject (packet.canonicalSha256 ≠ packet.digest ∨ packet.packetId ≠ "packet-" ++ packet.digest)
    "research packet identity does not match canonical content"
  reject (packet.synthesisConstraints.serializedBytes ≠ packet.canonicalLength)
    "research packet serialized byte count is incorrect"

/-- `_validated`. -/
def validated (packet : ResearchPacket) : Except PacketError ResearchPacket := do
  packet.synthesisConstraints.consistentOmissions
  packet.verifyIdentityAndSize
  pure packet

/-! ## Trimming -/

/-- UTF-8 bytes of a text. -/
def utf8Length (text : String) : Nat := (encode text).size

/-- `_DISCOVERY_AUTHORITY_TIER`. -/
def discoveryAuthorityTier : Nat := 4

/-- `item.source.excerpt`. -/
def excerptOf (item : EvidenceItem) : String := item.source.excerpt.val

theorem noExcerpt_bounded : 0 ≤ "".length ∧ "".length ≤ 8192 := by decide

/-- The item without its excerpt. -/
def withoutExcerpt (item : EvidenceItem) : EvidenceItem :=
  { item with source := { item.source with excerpt := ⟨"", noExcerpt_bounded⟩ } }

/-- The excerpt of the item may be removed. -/
def IsDiscovery (item : EvidenceItem) : Prop :=
  discoveryAuthorityTier ≤ item.authorityTier ∧ excerptOf item ≠ ""

instance (item : EvidenceItem) : Decidable (IsDiscovery item) :=
  inferInstanceAs (Decidable (_ ∧ _))

/-- The first round, from the excerpts seen and the bytes removed so far. -/
def dropRepeated : List String → Option Nat → List EvidenceItem → Option Nat × List EvidenceItem
  | _, removed, [] => (removed, [])
  | seen, removed, item :: rest =>
    if IsDiscovery item ∧ excerptOf item ∈ seen then
      let (removed, rest) :=
        dropRepeated seen (some (removed.getD 0 + utf8Length (excerptOf item))) rest
      (removed, withoutExcerpt item :: rest)
    else
      let seen := if excerptOf item ≠ "" then excerptOf item :: seen else seen
      let (removed, rest) := dropRepeated seen removed rest
      (removed, item :: rest)

/-- The second round, for one item. -/
def strip (item : EvidenceItem) : EvidenceItem :=
  if IsDiscovery item then withoutExcerpt item else item

/-- `removed`. -/
def strippedBytes (evidence : List EvidenceItem) : Nat :=
  (evidence.map fun item => if IsDiscovery item then utf8Length (excerptOf item) else 0).sum

/-- The label that is an evidence ID. -/
def labelOf (id : Identifier) : BoundedText 1 256 where
  val := id.text
  property := by
    have hhead : id.text.toList.head?.any Char.isAlphanum = true := id.legal.2.1
    refine ⟨?_, le_trans id.legal.1 (by decide)⟩
    rw [← String.length_toList]
    cases htext : id.text.toList with
    | nil => simp [htext] at hhead
    | cons c rest => exact Nat.succ_pos _

/-- The third round, for one item. -/
def relabel (item : EvidenceItem) : EvidenceItem :=
  { item with citationLabel := labelOf item.evidenceId }

/-- `description_bytes`. -/
def descriptionBytes (evidence : List EvidenceItem) : Nat :=
  (evidence.map fun item =>
    utf8Length item.citationLabel.val - utf8Length item.evidenceId.text).sum

/-- The entry of a section some bytes are omitted of. -/
def entryOf (name : String) (bytes : Nat) : Omitted := if bytes ≠ 0 then [(name, bytes)] else []

/-! ## The packet -/

structure PacketInput where
  run : RunContext
  evidence : List EvidenceItem
  snapshots : List (String × Dumped MarketSnapshot)
  events : List (Dumped EventRecord)
  metrics : List (Dumped Regimes.MetricResult)
  gates : List (Dumped GateResult)
  candidates : List (Dumped Plans.SetupCandidate)
  exclusions : List (Dumped CandidateExclusion)
  plans : List (Dumped Plans.TradePlanDraft)
  capabilities : List (Dumped CapabilityState)
  observations : List (Dumped PlanObservation)
  maxSerializedBytes : Int
  regimeResult : Option (Dumped Regimes.RegimeResult)

/-- `sorted(items, key=key)`. -/
def sortedBy {α : Type} (key : α → String) (items : List α) : List α :=
  items.insertionSort fun a b => key a ≤ key b

namespace PacketInput

/-- `evidence_values`. -/
def evidenceValues (input : PacketInput) : List EvidenceItem :=
  sortedBy (fun item => item.evidenceId.text) input.evidence

/-- The sorted sections. -/
def sectionsOf (input : PacketInput) (market : FrozenMap (Dumped MarketSnapshot)) : Sections where
  market
  events := sortedBy (fun item => item.value.eventId.text) input.events
  metrics := sortedBy (fun item => item.value.metricId) input.metrics
  gates := sortedBy (fun item => item.value.gateId.text) input.gates
  candidates := sortedBy (fun item => item.value.candidateId.text) input.candidates
  candidateExclusions := input.exclusions
  deterministicPlanInputs := sortedBy (fun item => item.value.planId.text) input.plans
  capabilityStates := sortedBy (fun item => item.value.capability.value) input.capabilities
  priorPlanObservations := sortedBy (fun item => item.value.planId.text) input.observations
  regimeResult := input.regimeResult

variable (input : PacketInput) (market : FrozenMap (Dumped MarketSnapshot))

/-- `_packet(evidence=.., omitted_bytes=.., ..)`. -/
def packetOf (evidence : List EvidenceItem) (omitted : Omitted) :
    Except PacketError ResearchPacket :=
  assemble input.run evidence (input.sectionsOf market) input.maxSerializedBytes.toNat omitted

/-- The packet is not over the budget. -/
def Fits (packet : ResearchPacket) : Prop :=
  packet.synthesisConstraints.serializedBytes ≤ input.maxSerializedBytes.toNat

instance (packet : ResearchPacket) : Decidable (input.Fits packet) :=
  inferInstanceAs (Decidable (_ ≤ _))

/-- The third round. -/
def relabelled (trimmed : List EvidenceItem) (omitted : Omitted) :
    Except PacketError ResearchPacket := do
  let packet ← input.packetOf market (trimmed.map relabel)
    (omitted ++ entryOf "verbose_non_factual_descriptions" (descriptionBytes trimmed))
  if input.Fits packet then validated packet
  else throw (.budgetExceeded "protected packet content exceeds max_serialized_bytes")

/-- The second round, and the third. -/
def stripped (trimmed : List EvidenceItem) (omitted : Omitted) :
    Except PacketError ResearchPacket := do
  let omitted := omitted ++ entryOf "low_authority_discovery_excerpts" (strippedBytes trimmed)
  let packet ← input.packetOf market (trimmed.map strip) omitted
  if input.Fits packet then validated packet
  else input.relabelled market (trimmed.map strip) omitted

/-- All rounds. -/
def trimmed (evidence : List EvidenceItem) : Except PacketError ResearchPacket :=
  let (removed, kept) := dropRepeated [] none evidence
  match removed with
  | none => input.stripped market kept []
  | some bytes => do
    let omitted := [("duplicate_discovery_excerpts", bytes)]
    let packet ← input.packetOf market kept omitted
    if input.Fits packet then validated packet
    else input.stripped market kept omitted

/-- `build_research_packet`. -/
def buildResearchPacket (promptSha256 : String) : Except PacketError ResearchPacket := do
  reject (input.maxSerializedBytes ≤ 0) "max_serialized_bytes must be a positive integer"
  reject (input.run.promptVersion ≠ promptSha256)
    "run prompt_version does not match canonical prompt digest"
  let evidence := input.evidenceValues
  reject (¬ (evidence.map fun item => item.evidenceId).Nodup) "duplicate evidence identifier"
  match FrozenMap.ofDict input.snapshots with
  | none => throw (.valueError "FrozenMap permits at most 128 entries")
  | some market => do
    validatePacketCutoff input.run evidence market (input.sectionsOf market).metrics
    let packet ← input.packetOf market evidence []
    if input.Fits packet then validated packet
    else input.trimmed market evidence

end PacketInput

end FinanceResearch.Packets
