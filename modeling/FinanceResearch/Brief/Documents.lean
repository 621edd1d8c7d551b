import FinanceResearch.Brief.Draft
import FinanceResearch.Domain.Telemetry
import FinanceResearch.Lib.JsonText

/-!
# Documents as bytes

What `canonical_bytes` makes of a draft, a report and a packet, what `==` compares of two
drafts, and which JSON values a published bundle admits (`ArtifactJsonValue`).

Mirroring notes vs the source:
- `Decimal`s are serialized as `str(value)`, and compared as numbers.
- The text of an enumeration member is its value.
-/

namespace FinanceResearch

open Calendar (UtcDatetime)

/-! ## `model_dump(mode="json")` -/

def identifierJson (id : Identifier) : Json := .str id.text

def timeJson (t : UtcDatetime) : Json := .str (Calendar.jsonText t)

def Claim.toJson (c : Claim) : Json :=
  .obj [("schema_version", .str "0.1"),
    ("claim_id", identifierJson c.claimId),
    ("claim_type", .str c.claimType.value),
    ("text", .str c.text.val),
    ("subject_symbol", optionJson (fun symbol => .str symbol.text) c.subjectSymbol),
    ("field", optionJson identifierJson c.field),
    ("time_start", optionJson timeJson c.timeStart),
    ("time_end", optionJson timeJson c.timeEnd),
    ("evidence_ids", .arr (c.evidenceIds.map identifierJson)),
    ("metric_ids", .arr (c.metricIds.map identifierJson)),
    ("counter_evidence_ids", .arr (c.counterEvidenceIds.map identifierJson)),
    ("supports_claim_ids", .arr (c.supportsClaimIds.map identifierJson)),
    ("numeric_value", optionJson (fun value => .str value.text) c.numericValue),
    ("unit", optionJson identifierJson c.unit),
    ("invalidation", optionJson (fun text => .str text.val) c.invalidation),
    ("expires_at", optionJson timeJson c.expiresAt),
    ("plan_id", optionJson identifierJson c.planId),
    ("plan_status", optionJson (fun status => .str status.value) c.planStatus)]

def ReportSectionClaims.toJson (s : ReportSectionClaims) : Json :=
  .obj [("schema_version", .str "0.1"),
    ("section", .str s.reportSection.value),
    ("claim_ids", .arr (s.claimIds.map identifierJson))]

def PlanNarrative.toJson (n : PlanNarrative) : Json :=
  .obj [("schema_version", .str "0.1"),
    ("plan_id", identifierJson n.planId),
    ("text", .str n.text.val),
    ("claim_ids", .arr (n.claimIds.map identifierJson))]

def CapabilityExplanation.toJson (e : CapabilityExplanation) : Json :=
  .obj [("schema_version", .str "0.1"),
    ("capability", .str e.capability.value),
    ("reason_codes", .arr (e.reasonCodes.map identifierJson))]

def ResearchBriefDraft.toJson (d : ResearchBriefDraft) : Json :=
  .obj [("schema_version", .str "0.1"),
    ("run_id", identifierJson d.runId),
    ("origin", .str d.origin.value),
    ("execution_status", .str d.executionStatus.value),
    ("data_quality_status", .str d.dataQualityStatus.value),
    ("delivery_status", .str d.deliveryStatus.value),
    ("executive_sections", .arr (d.executiveSections.map ReportSectionClaims.toJson)),
    ("detailed_sections", .arr (d.detailedSections.map ReportSectionClaims.toJson)),
    ("claims", .arr (d.claims.map Claim.toJson)),
    ("plan_narratives", .arr (d.planNarratives.map PlanNarrative.toJson)),
    ("disabled_capability_explanations",
      .arr (d.disabledCapabilityExplanations.map CapabilityExplanation.toJson)),
    ("data_warnings", .arr (d.dataWarnings.map fun text => .str text.val))]

def ValidationIssue.toJson (i : ValidationIssue) : Json :=
  .obj [("schema_version", .str "0.1"),
    ("issue_id", identifierJson i.issueId),
    ("code", .str i.code.value),
    ("severity", .str i.severity.value),
    ("json_pointer", .str i.jsonPointer.val),
    ("message", .str i.message.val),
    ("expected_value", optionJson (fun text => .str text.val) i.expectedValue),
    ("actual_value", optionJson (fun text => .str text.val) i.actualValue),
    ("related_evidence_ids", .arr (i.relatedEvidenceIds.map identifierJson))]

def ValidationReport.toJson (r : ValidationReport) : Json :=
  .obj [("schema_version", .str "0.1"),
    ("run_id", identifierJson r.runId),
    ("packet_id", identifierJson r.packetId),
    ("packet_sha256", .str r.packetSha256),
    ("is_valid", .bool r.isValid),
    ("repairable", .bool r.repairable),
    ("validation_attempt", .int r.validationAttempt),
    ("repair_attempts_used", .int r.repairAttemptsUsed),
    ("issues", .arr (r.issues.map ValidationIssue.toJson))]

def ResearchPacket.toJson (packet : ResearchPacket) : Json :=
  .obj (("packet_id", identifierJson packet.packetId) ::
    ("canonical_sha256", .str packet.canonicalSha256) :: packet.content)

/-- `canonical_bytes(draft)`. -/
@[irreducible] def ResearchBriefDraft.bytes (d : ResearchBriefDraft) : Bytes :=
  encode d.toJson.dumps

/-- `canonical_bytes(report)`. -/
@[irreducible] def ValidationReport.bytes (r : ValidationReport) : Bytes := encode r.toJson.dumps

/-- `_canonical_packet_bytes`. -/
@[irreducible] def ResearchPacket.bytes (packet : ResearchPacket) : Bytes :=
  encode packet.toJson.dumps

/-- The text of an object is not empty. -/
theorem encode_dumps_obj_size (fields : List (String × Json)) :
    (encode (Json.obj fields).dumps).size ≠ 0 := by
  intro h
  have hempty : encode (Json.obj fields).dumps = encode "" := ByteArray.size_eq_zero_iff.mp h
  have hchars := congrArg String.toList (encode_injective hempty)
  rw [Json.dumps, String.toList_ofList] at hchars
  cases hchars

theorem ResearchBriefDraft.bytes_size (d : ResearchBriefDraft) : d.bytes.size ≠ 0 := by
  rw [ResearchBriefDraft.bytes, ResearchBriefDraft.toJson]
  exact encode_dumps_obj_size _

theorem ValidationReport.bytes_size (r : ValidationReport) : r.bytes.size ≠ 0 := by
  rw [ValidationReport.bytes, ValidationReport.toJson]
  exact encode_dumps_obj_size _

theorem PerformanceTelemetry.bytes_size (t : PerformanceTelemetry) : t.bytes.size ≠ 0 := by
  rw [PerformanceTelemetry.bytes, PerformanceTelemetry.toJson]
  exact encode_dumps_obj_size _

theorem readable_optionJson {β : Type} {f : β → Json} (hf : ∀ x, Json.Readable (f x))
    (value : Option β) : Json.Readable (optionJson f value) := by
  cases value with
  | none => trivial
  | some x => exact hf x

theorem readable_map {β : Type} {f : β → Json} (hf : ∀ x, Json.Readable (f x)) (xs : List β) :
    Json.Readable (.arr (xs.map f)) := by
  rw [Json.Readable, Json.readableItems_iff]
  intro item hitem
  obtain ⟨x, -, he⟩ := List.mem_map.mp hitem
  rw [← he]
  exact hf x

theorem ValidationIssue.readable (i : ValidationIssue) : Json.Readable i.toJson := by
  have hnote := readable_optionJson (f := fun text : BoundedText 0 1000 => .str text.val)
    fun _ => trivial
  have hevidence := readable_map (f := identifierJson) (fun _ => trivial) i.relatedEvidenceIds
  exact ⟨trivial, trivial, trivial, trivial, trivial, trivial, hnote _, hnote _, hevidence, trivial⟩

theorem ValidationReport.readable (r : ValidationReport) : Json.Readable r.toJson := by
  have hissues := readable_map ValidationIssue.readable r.issues
  exact ⟨trivial, trivial, trivial, trivial, trivial, trivial, trivial, trivial, hissues, trivial⟩

/-- Reports with the same bytes are of the same attempt. -/
theorem ValidationReport.attempt_of_bytes {r r' : ValidationReport} (h : r.bytes = r'.bytes) :
    r.validationAttempt = r'.validationAttempt := by
  rw [ValidationReport.bytes, ValidationReport.bytes] at h
  have hsorted := Json.dumps_injective r.readable r'.readable (encode_injective h)
  have hkeys : ["schema_version", "run_id", "packet_id", "packet_sha256", "is_valid",
      "repairable", "validation_attempt", "repair_attempts_used", "issues"].Nodup := by decide
  have hattempt := Json.sorted_field hsorted hkeys "validation_attempt"
    (.int r.validationAttempt) (.int r'.validationAttempt) (by simp) (by simp)
  simp only [Json.sorted, Json.int.injEq, Nat.cast_inj] at hattempt
  exact hattempt

/-! ## `==` of drafts -/

def sameOptionalNumber : Option Decimal → Option Decimal → Bool
  | none, none => true
  | some x, some y => x.sameNumber y
  | _, _ => false

/-- `left == right` of claims. -/
def Claim.Equals (left right : Claim) : Prop :=
  { left with numericValue := none } = { right with numericValue := none } ∧
  sameOptionalNumber left.numericValue right.numericValue = true

instance Claim.instDecidableEquals (left right : Claim) : Decidable (left.Equals right) :=
  inferInstanceAs (Decidable (_ ∧ _))

def sameClaims : List Claim → List Claim → Bool
  | [], [] => true
  | x :: xs, y :: ys => decide (x.Equals y) && sameClaims xs ys
  | _, _ => false

/-- `left == right` of drafts: equal numbers may be written differently. -/
structure ResearchBriefDraft.Equals (left right : ResearchBriefDraft) : Prop where
  runId : left.runId = right.runId
  origin : left.origin = right.origin
  execution : left.executionStatus = right.executionStatus
  quality : left.dataQualityStatus = right.dataQualityStatus
  delivery : left.deliveryStatus = right.deliveryStatus
  executive : left.executiveSections = right.executiveSections
  detailed : left.detailedSections = right.detailedSections
  claims : sameClaims left.claims right.claims = true
  narratives : left.planNarratives = right.planNarratives
  explanations : left.disabledCapabilityExplanations = right.disabledCapabilityExplanations
  warnings : left.dataWarnings = right.dataWarnings

instance ResearchBriefDraft.instDecidableEquals (left right : ResearchBriefDraft) :
    Decidable (left.Equals right) :=
  decidable_of_iff
    (left.runId = right.runId ∧ left.origin = right.origin ∧
      left.executionStatus = right.executionStatus ∧
      left.dataQualityStatus = right.dataQualityStatus ∧
      left.deliveryStatus = right.deliveryStatus ∧
      left.executiveSections = right.executiveSections ∧
      left.detailedSections = right.detailedSections ∧
      sameClaims left.claims right.claims = true ∧
      left.planNarratives = right.planNarratives ∧
      left.disabledCapabilityExplanations = right.disabledCapabilityExplanations ∧
      left.dataWarnings = right.dataWarnings)
    ⟨fun ⟨h1, h2, h3, h4, h5, h6, h7, h8, h9, h10, h11⟩ =>
      ⟨h1, h2, h3, h4, h5, h6, h7, h8, h9, h10, h11⟩,
     fun h => ⟨h.runId, h.origin, h.execution, h.quality, h.delivery, h.executive, h.detailed,
      h.claims, h.narratives, h.explanations, h.warnings⟩⟩

/-! ## `ArtifactJsonValue` -/

mutual

/-- The texts have at most 8192 characters, the arrays at most 8192 items, the objects at
most 128 keys. -/
def isArtifactValue : Json → Bool
  | .str text => decide (text.length ≤ 8192)
  | .arr items => decide (items.length ≤ 8192) && areArtifactValues items
  | .obj fields => decide (fields.length ≤ 128) && areArtifactFields fields
  | _ => true

def areArtifactValues : List Json → Bool
  | [] => true
  | item :: rest => isArtifactValue item && areArtifactValues rest

def areArtifactFields : List (String × Json) → Bool
  | [] => true
  | (_, value) :: rest => isArtifactValue value && areArtifactFields rest

end

end FinanceResearch
