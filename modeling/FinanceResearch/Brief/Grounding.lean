import FinanceResearch.Brief.Patterns
import FinanceResearch.Lib.Dicts
import FinanceResearch.Lib.Worklist

/-!
# What a claim rests on

The parts of `domain/validation.py` that walk the claim graph: the evidence
reachable from a claim (`_reachable_sources`), its relevance, and the numbers the
packet offers for the claim's field and unit (`_numeric_bindings`).

Mirroring notes vs the source:
- `by_id` holds the first claim of each id, `evidence_map`, `metric_map` and
  `plan_map` the last record; `_numeric_bindings` looks evidence up in the tuple,
  so it takes the first.
- A Python set is a list here; only its members are read.
- The recursion of `_numeric_bindings` shares one `visited` set, which is a
  worklist with the successors put in front.
-/

namespace FinanceResearch

/-! ## The claim graph -/

/-- `by_id` of `_claim_graph`. -/
def claimById (claims : List Claim) (id : Identifier) : Option Claim :=
  claims.find? fun claim => claim.claimId = id

/-- `evidence_map`. -/
def ResearchPacket.evidenceById (packet : ResearchPacket) (id : Identifier) : Option EvidenceItem :=
  Dicts.get? EvidenceItem.evidenceId packet.evidence id

/-- `metric_map`. -/
def ResearchPacket.metricById (packet : ResearchPacket) (id : Identifier) : Option MetricResult :=
  Dicts.get? MetricResult.metricId packet.metrics id.text

/-- `plan_map`. -/
def ResearchPacket.planById (packet : ResearchPacket) (id : Identifier) : Option TradePlanDraft :=
  Dicts.get? TradePlanDraft.planId packet.deterministicPlanInputs id

/-- The claims a claim ID leads to. -/
def supportsOf (claims : List Claim) (id : Identifier) : List Identifier :=
  ((claimById claims id).map Claim.supportsClaimIds).getD []

/-- The IDs of the claims, each once. -/
def claimIds (claims : List Claim) : List Identifier := (claims.map Claim.claimId).dedup

theorem nodup_claimIds (claims : List Claim) : (claimIds claims).Nodup := List.nodup_dedup _

theorem claimById_mem {claims : List Claim} {id : Identifier} {claim : Claim}
    (h : claimById claims id = some claim) : claim ∈ claims ∧ claim.claimId = id := by
  refine ⟨List.mem_of_find?_eq_some h, ?_⟩
  have hid := List.find?_some h
  simpa using hid

theorem isSome_claimById {claims : List Claim} {id : Identifier} :
    (claimById claims id).isSome = true ↔ id ∈ claimIds claims := by
  simp [claimById, claimIds]

/-- Only the ID of a claim leads on. -/
theorem supports_known (claims : List Claim) :
    ∀ id, supportsOf claims id ≠ [] → id ∈ claimIds claims := by
  intro id h
  rw [← isSome_claimById]
  cases hid : claimById claims id with
  | none => simp [supportsOf, hid] at h
  | some claim => rfl

/-- The claims the loop of `_reachable_sources` takes: `pending.pop()` takes the
last one. -/
def supportingClaims (claims : List Claim) (claim : Claim) : List Identifier :=
  let pending := claim.supportsClaimIds.reverse
  Worklist.collect (supportsOf claims) (fun rest new => new.reverse ++ rest)
    (Worklist.enough (supportsOf claims) (claimIds claims) pending) [] pending

/-- `_reachable_sources`. -/
def reachableSources (claims : List Claim) (claim : Claim) : List Identifier :=
  claim.evidenceIds ++ (supportingClaims claims claim).flatMap fun id =>
    ((claimById claims id).map Claim.evidenceIds).getD []

/-- Evidence reaches a claim when the claim cites it, or a claim it rests on does. -/
theorem mem_reachableSources {claims : List Claim} {claim : Claim} {evidenceId : Identifier} :
    evidenceId ∈ reachableSources claims claim ↔ evidenceId ∈ claim.evidenceIds ∨
      ∃ start ∈ claim.supportsClaimIds, ∃ id supporting,
        Worklist.Reaches (supportsOf claims) start id ∧ claimById claims id = some supporting ∧
          evidenceId ∈ supporting.evidenceIds := by
  have hpush : ∀ rest new : List Identifier, (new.reverse ++ rest).Perm (rest ++ new) :=
    fun rest new => ((List.reverse_perm new).append_right rest).trans List.perm_append_comm
  have hmem : ∀ id, id ∈ supportingClaims claims claim ↔
      ∃ start ∈ claim.supportsClaimIds, Worklist.Reaches (supportsOf claims) start id := by
    intro id
    rw [supportingClaims, Worklist.mem_collect (nodup_claimIds claims) (supports_known claims) hpush]
    simp only [List.mem_reverse]
  simp only [reachableSources, List.mem_append, List.mem_flatMap, hmem]
  constructor
  · rintro (h | ⟨id, ⟨start, hstart, hr⟩, h⟩)
    · exact Or.inl h
    · cases hid : claimById claims id with
      | none => simp [hid] at h
      | some supporting =>
        exact Or.inr ⟨start, hstart, id, supporting, hr, hid, by simpa [hid] using h⟩
  · rintro (h | ⟨start, hstart, id, supporting, hr, hid, h⟩)
    · exact Or.inl h
    · exact Or.inr ⟨id, ⟨start, hstart, hr⟩, by simpa [hid] using h⟩

/-! ## Relevance -/

/-- `_field_supported`. -/
def fieldSupported (claim : Claim) (evidence : EvidenceItem) : Bool :=
  match claim.field with
  | none => false
  | some field =>
    decide (evidence.structuredFields.get? "field" = some (.str field.text)) ||
      decide (field.text ∈ evidence.structuredFields.names)

/-- `evidence.instrument_id or evidence.structured_fields.get("subject")`. -/
def evidenceSubject (evidence : EvidenceItem) : Option Json :=
  match evidence.instrumentId with
  | some instrument => some (.str instrument.text)
  | none => evidence.structuredFields.get? "subject"

/-- `_evidence_relevant`. -/
def evidenceRelevant (claim : Claim) (evidence : EvidenceItem) : Bool :=
  let times := evidence.eventTime.toList ++ evidence.publishedTime.toList
  let subjectDiffers := claim.subjectSymbol.any fun symbol =>
    decide (evidenceSubject evidence ≠ some (.str symbol.text))
  if subjectDiffers then false
  else if !fieldSupported claim evidence then false
  else if (claim.timeStart.isSome || claim.timeEnd.isSome) && times.isEmpty then false
  else if claim.timeStart.any fun start => times.all fun value => decide (value < start) then false
  else if claim.timeEnd.any fun stop => times.all fun value => decide (stop < value) then false
  else true

/-! ## Numbers -/

/-- `_plan_numeric_binding`. -/
def planNumericBinding (claim : Claim) (plan : TradePlanDraft) : Option (Decimal × String) :=
  let fieldIn (names : List String) : Bool := claim.field.any fun field => names.contains field.text
  if fieldIn ["position_size", "suggested_units"] then
    plan.positionSizing.suggestedUnits.map fun value => (value, "shares")
  else if fieldIn ["candidate_score"] then some (plan.candidateScore, "score")
  else if fieldIn ["risk_per_unit"] then some (plan.riskPerUnit, "price")
  else if fieldIn ["entry_zone_lower", "entry_zone.lower.value"] then
    some (plan.entryZone.lower.value, plan.entryZone.lower.currency)
  else if fieldIn ["entry_zone_upper", "entry_zone.upper.value"] then
    some (plan.entryZone.upper.value, plan.entryZone.upper.currency)
  else if fieldIn ["candidate_stop", "candidate_stop.value"] then
    some (plan.candidateStop.value, plan.candidateStop.currency)
  else none

/-- The bindings one evidence item offers a claim with that field. -/
def evidenceBindings (u : CharacterDatabase) (field : Identifier) (item : EvidenceItem) :
    List (Decimal × String) :=
  let fields := item.structuredFields
  let (rawValue, rawUnit) :=
    if fields.get? "field" = some (.str field.text) then (fields.get? "value", fields.get? "unit")
    else (fields.get? field.text, fields.get? (field.text ++ "_unit"))
  match rawUnit.getD .null with
  | .null => []
  | unit => (Patterns.decimalValues u (rawValue.getD .null)).map fun value =>
      (value, unit.pythonText u)

/-- The bindings of one claim, without those of the claims it rests on. -/
def claimBindings (u : CharacterDatabase) (packet : ResearchPacket) (claims : List Claim)
    (claim : Claim) : List (Decimal × String) :=
  let evidence := (reachableSources claims claim).flatMap fun id =>
    match packet.evidence.find? (fun item => item.evidenceId = id), claim.field with
    | some item, some field => evidenceBindings u field item
    | _, _ => []
  let metrics := claim.metricIds.filterMap fun id => (packet.metricById id).bind fun metric =>
    if claim.field.any (fun field => decide (field.text = metric.name.value)) then
      metric.value.map fun value => (value, metric.unit.value)
    else none
  let plans := ((claim.planId.bind packet.planById).bind (planNumericBinding claim)).toList
  evidence ++ metrics ++ plans

/-- `_numeric_bindings`: of the claim and the claims it rests on that have its
field and unit. -/
def numericBindings (u : CharacterDatabase) (packet : ResearchPacket) (claims : List Claim)
    (root : Claim) : List (Decimal × String) :=
  let claimAt (id : Identifier) : Option Claim :=
    (if id = root.claimId then some root else claimById claims id).filter fun claim =>
      decide (claim.field = root.field ∧ claim.unit = root.unit)
  let supports (id : Identifier) : List Identifier :=
    ((claimAt id).map Claim.supportsClaimIds).getD []
  let visited := Worklist.collect supports (fun rest new => new ++ rest)
    (Worklist.enough supports (root.claimId :: claimIds claims).dedup [root.claimId])
    [] [root.claimId]
  visited.flatMap fun id => ((claimAt id).map (claimBindings u packet claims)).getD []

end FinanceResearch
