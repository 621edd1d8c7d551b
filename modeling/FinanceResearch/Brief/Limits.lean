import Mathlib.Algebra.Group.Nat.Defs
import Mathlib.Algebra.Order.BigOperators.Group.List
import FinanceResearch.Brief.ClaimGraph
import FinanceResearch.Brief.Validator

/-!
# Which findings fit an issue

An issue holds texts of at most 1000 characters and 128 evidence IDs. Most
findings cannot exceed that: their texts are names of a vocabulary, one identifier,
or a text the draft bounds itself. The others join identifiers or texts, or print
numbers, without a bound of their own: `TextsFit` names them, and `findings_fit`
says that every finding fits exactly when they do.
-/

namespace FinanceResearch

/-! ## Lengths -/

/-- A text an issue can hold. -/
def Short (text : String) : Prop := text.length ≤ 1000

instance (text : String) : Decidable (Short text) := inferInstanceAs (Decidable (_ ≤ _))

theorem length_intercalate_le (separator : List Char) :
    ∀ parts : List (List Char), (separator.intercalate parts).length ≤
      (parts.map fun part => part.length + separator.length).sum
  | [] => Nat.zero_le _
  | [part] => by simp
  | part :: next :: rest => by
    have ih := length_intercalate_le separator (next :: rest)
    rw [List.intercalate_cons_cons, List.length_append, List.length_append, List.map_cons,
      List.sum_cons]
    omega

/-- A joined text is no shorter than its parts. -/
theorem length_le_join (separator : String) :
    ∀ parts : List String, (parts.map String.length).sum ≤ (Text.join separator parts).length := by
  have hparts : ∀ parts : List (List Char),
      (parts.map List.length).sum ≤ (separator.toList.intercalate parts).length := by
    intro parts
    induction parts with
    | nil => exact Nat.zero_le _
    | cons part rest ih =>
      cases rest with
      | nil => simp
      | cons next rest =>
        rw [List.intercalate_cons_cons, List.length_append, List.length_append, List.map_cons,
          List.sum_cons]
        omega
  intro parts
  have h := hparts (parts.map String.toList)
  rwa [← String.toList_intercalate, String.length_toList, List.map_map] at h

/-- A joined text is no longer than its parts with a separator after each. -/
theorem length_join_le (separator : String) (parts : List String) :
    (Text.join separator parts).length ≤
      (parts.map fun part => part.length + separator.length).sum := by
  have h := length_intercalate_le separator.toList (parts.map String.toList)
  rw [← String.toList_intercalate, String.length_toList, List.map_map] at h
  refine le_trans h (le_of_eq ?_)
  congr 1

/-- A sum of bounded terms. -/
theorem sum_map_le {α : Type} (size : α → Nat) (bound : Nat) {items : List α}
    (h : ∀ item ∈ items, size item ≤ bound) : (items.map size).sum ≤ items.length * bound := by
  have hsum := List.sum_le_card_nsmul (items.map size) bound fun n hn => by
    obtain ⟨item, hitem, rfl⟩ := List.mem_map.mp hn
    exact h item hitem
  rwa [List.length_map, Nat.nsmul_eq_mul] at hsum

theorem length_join_le_mul {separator : String} {parts : List String} (bound : Nat)
    (h : ∀ part ∈ parts, part.length + separator.length ≤ bound) :
    (Text.join separator parts).length ≤ parts.length * bound :=
  le_trans (length_join_le separator parts) (sum_map_le _ bound h)

theorem Identifier.short (id : Identifier) : Short id.text := le_trans id.legal.1 (by decide)

/-- An identifier is not empty. -/
theorem Identifier.length_pos (id : Identifier) : 0 < id.text.length := by
  have h := id.legal.2.1
  rw [← String.length_toList]
  cases hs : id.text.toList with
  | nil => simp [hs] at h
  | cons c rest => exact Nat.succ_pos _

theorem short_section (s : ReportSection) : s.value.length + 3 ≤ 34 := by
  cases s <;> decide

theorem short_error (e : ErrorCode) : e.value.length + 2 ≤ 35 := by
  cases e <;> decide

/-- The reason codes of a capability are distinct members of a vocabulary of 28. -/
theorem short_reasons (state : CapabilityState) :
    Short (Text.join ", " (state.reasonCodes.map ErrorCode.value)) := by
  have hall : ∀ e : ErrorCode, e ∈ ErrorCode.all := by
    intro e
    cases e <;> decide
  have hcount : state.reasonCodes.length ≤ ErrorCode.all.length :=
    (state.unique.subperm fun e _ => hall e).length_le
  refine le_trans (length_join_le_mul 35 fun part hpart => ?_) ?_
  · obtain ⟨e, _, rfl⟩ := List.mem_map.mp hpart
    exact short_error e
  · rw [List.length_map]
    exact le_trans (Nat.mul_le_mul_right 35 hcount) (by decide)

/-- The length of a literal is that of its characters. -/
theorem literal_fits {chars : List Char} {lo hi : Nat}
    (h : lo ≤ chars.length ∧ chars.length ≤ hi) :
    lo ≤ (String.ofList chars).length ∧ (String.ofList chars).length ≤ hi := by
  rwa [String.length_ofList]

theorem literal_le {chars : List Char} {hi : Nat} (h : chars.length ≤ hi) :
    (String.ofList chars).length ≤ hi := by
  rwa [String.length_ofList]

/-! ## Findings that fit -/

variable {code : ValidationCode} {pointer message : String} {expected actual : Option String}
  {evidenceIds : List Identifier}

theorem fits_iff (hp : 1 ≤ pointer.length ∧ pointer.length ≤ 512)
    (hm : 1 ≤ message.length ∧ message.length ≤ 1000) :
    (Finding.mk code pointer message expected actual evidenceIds).Fits ↔
      (∀ text ∈ expected, Short text) ∧ (∀ text ∈ actual, Short text) ∧
        evidenceIds.length ≤ 128 :=
  ⟨fun h => ⟨h.expected, h.actual, h.evidenceIds⟩, fun ⟨he, ha, hi⟩ => ⟨hp, hm, he, ha, hi⟩⟩

/-- A finding without texts fits. -/
theorem fits_plain (hp : 1 ≤ pointer.length ∧ pointer.length ≤ 512)
    (hm : 1 ≤ message.length ∧ message.length ≤ 1000) :
    (Finding.mk code pointer message none none []).Fits :=
  (fits_iff hp hm).mpr ⟨nofun, nofun, Nat.zero_le _⟩

/-- A finding with one short text fits. -/
theorem fits_actual {text : String} (hp : 1 ≤ pointer.length ∧ pointer.length ≤ 512)
    (hm : 1 ≤ message.length ∧ message.length ≤ 1000) (ht : Short text) :
    (Finding.mk code pointer message none (some text) []).Fits :=
  (fits_iff hp hm).mpr ⟨nofun, by rintro _ ⟨⟩; exact ht, Nat.zero_le _⟩

theorem fits_expected {text : String} (hp : 1 ≤ pointer.length ∧ pointer.length ≤ 512)
    (hm : 1 ≤ message.length ∧ message.length ≤ 1000) (ht : Short text) :
    (Finding.mk code pointer message (some text) none []).Fits :=
  (fits_iff hp hm).mpr ⟨by rintro _ ⟨⟩; exact ht, nofun, Nat.zero_le _⟩

theorem fits_both {text text' : String} (hp : 1 ≤ pointer.length ∧ pointer.length ≤ 512)
    (hm : 1 ≤ message.length ∧ message.length ≤ 1000) :
    (Finding.mk code pointer message (some text) (some text') []).Fits ↔
      Short text ∧ Short text' := by
  simp [fits_iff hp hm]

theorem claimPointer_fits (id : Identifier) (tail : String) (h : tail.length ≤ 300) :
    1 ≤ (claimPointer id tail).length ∧ (claimPointer id tail).length ≤ 512 := by
  have hlength : (claimPointer id tail).length = 8 + id.text.length + tail.length := by
    simp only [claimPointer, String.length_append]
    rfl
  have := id.legal.1
  omega

theorem numeral_fits (start tail : String) {index : Nat} (h : index < 10 ^ 9)
    (hstart : 1 ≤ start.length ∧ start.length + tail.length ≤ 300) :
    1 ≤ (start ++ toString index ++ tail).length ∧
      (start ++ toString index ++ tail).length ≤ 512 := by
  have hnumeral : (toString index).length ≤ 9 := (Nat.length_repr_le_iff (by decide)).mpr h
  simp only [String.length_append]
  omega

/-! ## Findings whose texts are bounded -/

theorem short_status (e : ExecutionStatus) (q : DataQualityStatus) (d : DeliveryStatus) :
    Short (statusText e q d) := by
  refine le_trans (length_join_le_mul 30 fun part hpart => ?_) (by decide : 3 * 30 ≤ 1000)
  simp only [List.mem_cons, List.not_mem_nil, or_false] at hpart
  rcases hpart with rfl | rfl | rfl
  · cases e <;> decide
  · cases q <;> decide
  · cases d <;> decide

theorem runFindings_fit (packet : ResearchPacket) (draft : ResearchBriefDraft) :
    ∀ f ∈ runFindings packet draft, f.Fits := by
  simp only [runFindings, List.forall_mem_append, forall_mem_flag]
  constructor
  · intro _
    exact (fits_both (literal_fits (by decide)) (literal_fits (by decide))).mpr ⟨packet.runId.short, draft.runId.short⟩
  · intro _
    exact (fits_both (literal_fits (by decide)) (literal_fits (by decide))).mpr ⟨short_status _ _ _, short_status _ _ _⟩

/-- Fourteen section names fit, whatever they are. -/
theorem short_sections {separator : String} {sections : List ReportSection}
    (hseparator : separator.length ≤ 3) (h : sections.length ≤ 14) :
    Short (Text.join separator (sections.map ReportSection.value)) := by
  refine le_trans (length_join_le_mul 34 fun part hpart => ?_) ?_
  · obtain ⟨s, _, rfl⟩ := List.mem_map.mp hpart
    have := short_section s
    omega
  · rw [List.length_map]
    omega

theorem sectionFindings_fit (pointer : String) {sections : List ReportSectionClaims}
    (expected : List ReportSection) (hp : 1 ≤ pointer.length ∧ pointer.length ≤ 512)
    (hsections : sections.length ≤ 14) (hexpected : expected.length ≤ 14) :
    ∀ f ∈ sectionFindings pointer sections expected, f.Fits := by
  unfold sectionFindings
  simp only
  split
  · exact nofun
  · simp only [List.forall_mem_append, forall_mem_flag]
    constructor
    · intro _
      refine (fits_both hp (literal_fits (by decide))).mpr ⟨short_sections (by decide) hexpected,
        short_sections (by decide) ?_⟩
      exact le_trans (List.length_filter_le _ _) hexpected
    · intro _
      refine (fits_both hp (literal_fits (by decide))).mpr ⟨short_sections (by decide) hexpected,
        short_sections (by decide) ?_⟩
      rwa [List.length_map]

theorem short_capability (c : Capability) : Short c.value := by
  cases c <;> decide

theorem capabilityPointer_fits (c : Capability) :
    1 ≤ ("/disabled_capability_explanations/" ++ c.value).length ∧
      ("/disabled_capability_explanations/" ++ c.value).length ≤ 512 := by
  cases c <;> decide

/-- Of the capability findings, the one that lists the disclosed reason codes may
be too long. -/
theorem capabilityFindings_fit (packet : ResearchPacket) (draft : ResearchBriefDraft) :
    (∀ f ∈ capabilityFindings packet draft, f.Fits) ↔
      ∀ capability state explanation,
        Dicts.get? CapabilityState.capability (disabledStates packet) capability = some state →
        Dicts.get? CapabilityExplanation.capability draft.disabledCapabilityExplanations
          capability = some explanation →
        ¬ SameReasons explanation state → Short (joined explanation.reasonCodes) := by
  simp only [capabilityFindings, duplicateDisclosures, List.forall_mem_append,
    List.forall_mem_flatMap, forall_mem_flag, Prod.forall]
  constructor
  · rintro ⟨⟨-, h⟩, -⟩ capability state explanation hstate hexplanation hdiffer
    have hkey : capability ∈ Dicts.keys CapabilityState.capability (disabledStates packet) :=
      Dicts.mem_keys.mpr (Dicts.isSome_get?.mp (by rw [hstate]; rfl))
    have hfits := h capability hkey
    rw [hstate] at hfits
    simp only [disclosureFindings, hexplanation, forall_mem_flag] at hfits
    exact ((fits_both (capabilityPointer_fits _) (literal_fits (by decide))).mp (hfits hdiffer)).2
  · intro h
    refine ⟨⟨fun _ _ _ _ => fits_plain (literal_fits (by decide)) (literal_fits (by decide)), ?_⟩, fun capability _ _ =>
      fits_actual (literal_fits (by decide)) (literal_fits (by decide)) (short_capability capability)⟩
    intro capability _
    split
    · exact nofun
    next state hstate =>
      unfold disclosureFindings
      split
      · rintro f hf
        rw [List.mem_singleton.mp hf]
        exact fits_expected (literal_fits (by decide)) (literal_fits (by decide)) (short_capability capability)
      next explanation hexplanation =>
        rw [forall_mem_flag]
        intro hdiffer
        exact (fits_both (capabilityPointer_fits _) (literal_fits (by decide))).mpr
          ⟨short_reasons state, h capability state explanation hstate hexplanation hdiffer⟩

/-! ## The claim graph, narratives and warnings -/

theorem indexPointer_fits {index : Nat} (tail : String) (h : index < 500)
    (htail : tail.length ≤ 100) :
    1 ≤ (indexPointer index tail).length ∧ (indexPointer index tail).length ≤ 512 := by
  have hstart : "/claims/".length = 8 := by decide
  exact numeral_fits _ _ (lt_trans h (by decide)) ⟨by omega, by omega⟩

/-- An index of the loop over a sequence of bounded length. -/
theorem zipIdx_bound {α : Type} {items : List α} {item : α} {index bound : Nat}
    (h : (item, index) ∈ items.zipIdx) (hlength : items.length ≤ bound) : index < bound := by
  have := List.snd_lt_of_mem_zipIdx h
  omega

/-- Of the findings on the graph, the one that joins the missing supports may be
too long. -/
theorem graphFindings_fit {claims : List Claim} (hclaims : claims.length ≤ 500) :
    (∀ f ∈ graphFindings claims, f.Fits) ↔
      ∀ claim ∈ claims, Short (joined (missingSupports claims claim)) := by
  simp only [graphFindings, duplicateClaims, missingSupportFindings, List.forall_mem_append,
    List.forall_mem_flatMap, forall_mem_flag, Prod.forall]
  constructor
  · rintro ⟨⟨-, h⟩, -⟩ claim hclaim
    by_cases hnone : missingSupports claims claim = []
    · rw [hnone]
      decide
    · obtain ⟨index, hindex⟩ := List.mem_iff_getElem?.mp hclaim
      have hmem := List.mk_mem_zipIdx_iff_getElem?.mpr hindex
      have hp := indexPointer_fits "/supports_claim_ids" (zipIdx_bound hmem hclaims)
        (by decide)
      exact ((fits_iff hp (literal_fits (by decide))).mp (h claim index hmem hnone)).2.1 _ rfl
  · intro h
    refine ⟨⟨fun _ index hmem _ => ?_, fun claim index hmem _ => ?_⟩, fun f hf => ?_⟩
    · exact fits_plain (indexPointer_fits _ (zipIdx_bound hmem hclaims) (by decide)) (literal_fits (by decide))
    · exact fits_actual (indexPointer_fits _ (zipIdx_bound hmem hclaims) (by decide)) (literal_fits (by decide))
        (h claim (List.fst_mem_of_mem_zipIdx hmem))
    · obtain ⟨id, rfl⟩ := mem_cycleFindings hf
      exact fits_plain (claimPointer_fits id _ (literal_le (by decide))) (literal_fits (by decide))

/-- Of the findings on a narrative, the one that compares its text with its claims
may be too long. -/
theorem narrativeFindings_fit {u : CharacterDatabase} {packet : ResearchPacket}
    {claims : List Claim} {narrative : PlanNarrative} :
    (∀ f ∈ narrativeFindings u packet claims narrative, f.Fits) ↔
      ∀ concrete, narrativeClaims claims narrative = some concrete →
        narrative.text.val ≠ narrativeText concrete →
        Short (narrativeText concrete) ∧ Short narrative.text.val := by
  have hid := narrative.planId.short
  simp only [narrativeFindings, List.forall_mem_append, forall_mem_flag]
  constructor
  · rintro ⟨⟨h, -⟩, -⟩ concrete hconcrete hdiffer
    rw [hconcrete] at h
    simp only [List.forall_mem_append, forall_mem_flag] at h
    exact (fits_both (literal_fits (by decide)) (literal_fits (by decide))).mp (h.1 hdiffer)
  · intro h
    refine ⟨⟨?_, fun _ => fits_actual (literal_fits (by decide)) (literal_fits (by decide)) hid⟩,
      fun _ => fits_plain (literal_fits (by decide)) (literal_fits (by decide))⟩
    split
    · rintro f hf
      rw [List.mem_singleton.mp hf]
      exact fits_actual (literal_fits (by decide)) (literal_fits (by decide)) hid
    next concrete hconcrete =>
      simp only [List.forall_mem_append, forall_mem_flag]
      exact ⟨fun hdiffer => (fits_both (literal_fits (by decide)) (literal_fits (by decide))).mpr (h concrete hconcrete hdiffer),
        fun _ => fits_actual (literal_fits (by decide)) (literal_fits (by decide)) hid⟩

/-- A warning is a text the draft bounds. -/
theorem warningFindings_fit (u : CharacterDatabase) (packet : ResearchPacket)
    (draft : ResearchBriefDraft) : ∀ f ∈ warningFindings u packet draft, f.Fits := by
  simp only [warningFindings, List.forall_mem_append, List.forall_mem_flatMap, forall_mem_flag,
    Prod.forall]
  intro warning index hmem
  have hp : 1 ≤ (warningPointer index).length ∧ (warningPointer index).length ≤ 512 := by
    have hindex := zipIdx_bound hmem draft.bounded.2.2.2.2.2
    have h := numeral_fits "/data_warnings/" ""
      (lt_trans hindex (by decide : 128 < 10 ^ 9)) (by decide)
    rwa [String.append_empty] at h
  exact ⟨fun _ => fits_actual hp (literal_fits (by decide)) warning.2.2, fun _ => fits_plain hp (literal_fits (by decide))⟩

/-! ## One claim -/

/-- The texts about one claim that may be too long. -/
structure ClaimTextsFit (u : CharacterDatabase) (packet : ResearchPacket) (claims : List Claim)
    (claim : Claim) : Prop where
  evidence : Short (joined (unknownEvidence packet claim))
  metrics : Short (joined (unknownMetrics packet claim))
  counterEvidence : ∀ plan, planOf packet claim = some plan →
    claim.counterEvidenceIds ≠ plan.counterEvidence →
    Short (joined plan.counterEvidence) ∧ Short (joined claim.counterEvidenceIds) ∧
      plan.counterEvidence.length ≤ 128
  expiry : ∀ plan, planOf packet claim = some plan → ¬ KeepsExpiry plan claim →
    Short (planExpiryText plan) ∧ Short (claimExpiryText claim)
  inputs : claim.claimType = .calculation →
    ¬ requiredInputs packet claim ⊆ reachableSources claims claim →
    Short (joined (requiredInputs packet claim))
  values : claim.claimType = .calculation → ∀ id ∈ claim.metricIds, ∀ metric,
    packet.metricById id = some metric → ¬ StatesMetric claim metric →
    Short (metricText metric) ∧ Short (valueText claim)
  numbers : ∀ token ∈ numericTokens u claim, IsOtherNumber u claim token →
    (∀ value ∈ claim.numericValue, Short value.fixed) ∧ Short token

variable {u : CharacterDatabase} {packet : ResearchPacket} {draft : ResearchBriefDraft}
  {claims : List Claim} {claim : Claim}

/-- A finding that joins a list of IDs, made when there are any, fits when they do. -/
theorem joined_flag_fits {ids : List Identifier}
    (hp : 1 ≤ pointer.length ∧ pointer.length ≤ 512)
    (hm : 1 ≤ message.length ∧ message.length ≤ 1000) :
    (ids ≠ [] → (Finding.mk code pointer message none (some (joined ids)) []).Fits) ↔
      Short (joined ids) := by
  constructor
  · intro h
    by_cases hnone : ids = []
    · rw [hnone]
      decide
    · exact ((fits_iff hp hm).mp (h hnone)).2.1 _ rfl
  · exact fun h _ => fits_actual hp hm h

theorem referenceFindings_fit :
    (∀ f ∈ referenceFindings packet draft claim, f.Fits) ↔
      Short (joined (unknownEvidence packet claim)) ∧
        Short (joined (unknownMetrics packet claim)) := by
  simp only [referenceFindings, List.forall_mem_append, forall_mem_flag]
  rw [joined_flag_fits (claimPointer_fits _ _ (literal_le (by decide))) (by decide),
    joined_flag_fits (claimPointer_fits _ _ (literal_le (by decide))) (by decide)]
  constructor
  · exact fun h => ⟨h.1.2, h.2⟩
  · exact fun h => ⟨⟨fun _ => fits_plain (claimPointer_fits _ _ (literal_le (by decide))) (literal_fits (by decide)), h.1⟩, h.2⟩

theorem basisFindings_fit : ∀ f ∈ basisFindings packet claim, f.Fits := by
  have hp := claimPointer_fits claim.claimId "" (literal_le (by decide))
  simp only [basisFindings, List.forall_mem_append, forall_mem_flag]
  exact ⟨⟨⟨⟨fun _ => fits_plain hp (literal_fits (by decide)), fun _ => fits_plain hp (literal_fits (by decide))⟩,
    fun _ => fits_plain hp (literal_fits (by decide))⟩, fun _ => fits_plain hp (literal_fits (by decide))⟩,
    fun _ => fits_plain (claimPointer_fits _ _ (literal_le (by decide))) (literal_fits (by decide))⟩

theorem short_planStatus (status : Option PlanStatus) :
    Short (optionText PlanStatus.value status) := by
  rcases status with _ | status
  · decide
  · cases status <;> decide

theorem planFindings_fit {plan : TradePlanDraft} :
    (∀ f ∈ planFindings claim plan, f.Fits) ↔
      (claim.counterEvidenceIds ≠ plan.counterEvidence →
        Short (joined plan.counterEvidence) ∧ Short (joined claim.counterEvidenceIds) ∧
          plan.counterEvidence.length ≤ 128) ∧
      (¬ KeepsExpiry plan claim → Short (planExpiryText plan) ∧ Short (claimExpiryText claim)) := by
  simp only [planFindings, List.forall_mem_append, forall_mem_flag]
  constructor
  · rintro ⟨⟨⟨-, hcounter⟩, hexpiry⟩, -⟩
    constructor
    · intro hdiffer
      have h := (fits_iff (claimPointer_fits _ _ (literal_le (by decide))) (literal_fits (by decide))).mp (hcounter hdiffer)
      exact ⟨h.1 _ rfl, h.2.1 _ rfl, h.2.2⟩
    · exact fun hkeeps =>
        (fits_both (claimPointer_fits _ _ (literal_le (by decide))) (literal_fits (by decide))).mp (hexpiry hkeeps)
  · rintro ⟨hcounter, hexpiry⟩
    refine ⟨⟨⟨fun _ => ?_, fun hdiffer => ?_⟩, fun hkeeps => ?_⟩, fun _ => ?_⟩
    · exact (fits_both (claimPointer_fits _ _ (literal_le (by decide))) (literal_fits (by decide))).mpr
        ⟨short_planStatus (some plan.planStatus), short_planStatus _⟩
    · obtain ⟨hplan, hclaim, hids⟩ := hcounter hdiffer
      exact (fits_iff (claimPointer_fits _ _ (literal_le (by decide))) (literal_fits (by decide))).mpr
        ⟨by rintro _ ⟨⟩; exact hplan, by rintro _ ⟨⟩; exact hclaim, hids⟩
    · exact (fits_both (claimPointer_fits _ _ (literal_le (by decide))) (literal_fits (by decide))).mpr (hexpiry hkeeps)
    · exact fits_plain (claimPointer_fits _ _ (literal_le (by decide))) (literal_fits (by decide))

theorem calculationFindings_fit :
    (∀ f ∈ calculationFindings packet claims claim, f.Fits) ↔
      (claim.claimType = .calculation →
        ¬ requiredInputs packet claim ⊆ reachableSources claims claim →
        Short (joined (requiredInputs packet claim))) ∧
      (claim.claimType = .calculation → ∀ id ∈ claim.metricIds, ∀ metric,
        packet.metricById id = some metric → ¬ StatesMetric claim metric →
        Short (metricText metric) ∧ Short (valueText claim)) := by
  unfold calculationFindings
  split
  next h => exact iff_of_true nofun ⟨fun hc => absurd hc h, fun hc => absurd hc h⟩
  next h =>
    rw [not_not] at h
    simp only [h, true_imp_iff, List.forall_mem_append, forall_mem_flag, List.forall_mem_flatMap]
    refine and_congr ?_ (forall₂_congr fun id _ => ?_)
    · refine imp_congr_right fun _ => ⟨fun hf => ?_, fun hs => ?_⟩
      · exact ((fits_iff (claimPointer_fits _ _ (literal_le (by decide))) (literal_fits (by decide))).mp hf).2.1 _ rfl
      · exact fits_actual (claimPointer_fits _ _ (literal_le (by decide))) (literal_fits (by decide)) hs
    · cases packet.metricById id with
      | none => simp
      | some metric =>
        simp only [forall_mem_flag, Option.some.injEq, forall_eq']
        exact imp_congr_right fun _ =>
          fits_both (claimPointer_fits claim.claimId _ (literal_le (by decide))) (literal_fits (by decide))

theorem citationFindings_fit {evidenceId : Identifier} :
    ∀ f ∈ citationFindings packet claim evidenceId, f.Fits := by
  have hp := claimPointer_fits claim.claimId "/evidence_ids" (literal_le (by decide))
  unfold citationFindings
  split
  · exact nofun
  next item hitem =>
    split
    · exact nofun
    · split
      · intro f hf
        rw [List.mem_singleton.mp hf]
        exact (fits_iff hp (literal_fits (by decide))).mpr ⟨nofun, nofun, by simp⟩
      · split
        · exact nofun
        next best hbest =>
          have htier : ∀ n ≤ 255, Short (toString n) := fun n hn =>
            (Nat.length_repr_le_iff (by decide)).mpr
              (lt_of_le_of_lt hn (lt_of_lt_of_le (by decide : 255 < 10 ^ 3)
                (Nat.pow_le_pow_right (by decide) (by decide))))
          rw [forall_mem_flag]
          intro hless
          have hitem := item.tierBounded.2
          refine (fits_iff hp (literal_fits (by decide))).mpr ⟨?_, ?_, by simp⟩
          · rintro _ ⟨⟩
            exact htier best (by omega)
          · rintro _ ⟨⟩
            exact htier _ hitem

theorem counterCitationFindings_fit {evidenceId : Identifier} :
    ∀ f ∈ counterCitationFindings packet claim evidenceId, f.Fits := by
  unfold counterCitationFindings
  split
  · rw [forall_mem_flag]
    intro _
    exact (fits_iff (claimPointer_fits _ _ (literal_le (by decide))) (literal_fits (by decide))).mpr ⟨nofun, nofun, by simp⟩
  · exact nofun

theorem languageFindings_fit : ∀ f ∈ languageFindings u packet claim, f.Fits := by
  have hp := claimPointer_fits claim.claimId "/text" (literal_le (by decide))
  simp only [languageFindings, List.forall_mem_append, forall_mem_flag]
  exact ⟨⟨fun _ => fits_plain hp (literal_fits (by decide)), fun _ => fits_plain hp (literal_fits (by decide))⟩,
    fun _ => fits_plain hp (literal_fits (by decide))⟩

theorem numericFindings_fit :
    (∀ f ∈ numericFindings u packet claims claim, f.Fits) ↔
      ∀ token ∈ numericTokens u claim, IsOtherNumber u claim token →
        (∀ value ∈ claim.numericValue, Short value.fixed) ∧ Short token := by
  have hp := claimPointer_fits claim.claimId "/text" (literal_le (by decide))
  unfold numericFindings
  simp only
  rw [List.forall_mem_append, List.forall_mem_flatMap]
  have hbound : ∀ f ∈ (if numericTokens u claim ≠ [] ∨ claim.numericValue.isSome = true then
      flag (¬ IsBound u packet claims claim)
        { code := numericIssueCode claim
          pointer := claimPointer claim.claimId "/numeric_value"
          message := "numeric claim value, field, or unit differs from its deterministic source" } ++
      flag (¬ ∃ unit ∈ claim.unit,
          Text.contains (u.casefold claim.text.val) (u.casefold unit.text) = true)
        { code := numericIssueCode claim
          pointer := claimPointer claim.claimId "/unit"
          message := "numeric narrative must state the validated unit"
          expected := claim.unit.map Identifier.text }
      else []), f.Fits := by
    split
    · simp only [List.forall_mem_append, forall_mem_flag]
      refine ⟨fun _ => fits_plain (claimPointer_fits _ _ (literal_le (by decide))) (literal_fits (by decide)), fun _ => ?_⟩
      refine (fits_iff (claimPointer_fits _ _ (literal_le (by decide))) (literal_fits (by decide))).mpr
        ⟨?_, nofun, Nat.zero_le _⟩
      rintro _ ht
      obtain ⟨unit, _, rfl⟩ := Option.map_eq_some_iff.mp ht
      exact unit.short
    · exact nofun
  refine ⟨fun h token htoken hother => ?_, fun h => ⟨hbound, fun token htoken => ?_⟩⟩
  · have hfits := (fits_iff hp (literal_fits (by decide))).mp ((forall_mem_flag.mp (h.2 token htoken)) hother)
    exact ⟨fun value hvalue => hfits.1 _ (by rw [hvalue]; rfl), hfits.2.1 _ rfl⟩
  · rw [forall_mem_flag]
    intro hother
    obtain ⟨hvalue, htext⟩ := h token htoken hother
    refine (fits_iff hp (literal_fits (by decide))).mpr ⟨?_, by rintro _ ⟨⟩; exact htext, Nat.zero_le _⟩
    rintro _ ht
    obtain ⟨value, hv, rfl⟩ := Option.map_eq_some_iff.mp ht
    exact hvalue value hv

theorem overclaimFindings_fit : ∀ f ∈ overclaimFindings u packet claim, f.Fits := by
  unfold overclaimFindings
  rw [forall_mem_flag]
  exact fun _ => fits_plain (claimPointer_fits _ _ (literal_le (by decide))) (literal_fits (by decide))

theorem lengthFindings_fit : ∀ f ∈ lengthFindings claim, f.Fits := by
  unfold lengthFindings
  rw [forall_mem_flag]
  exact fun _ => fits_plain (claimPointer_fits _ _ (literal_le (by decide))) (literal_fits (by decide))

/-- The findings on a claim fit exactly when the texts named do. -/
theorem claimFindings_fit :
    (∀ f ∈ claimFindings u packet draft claim, f.Fits) ↔
      ClaimTextsFit u packet draft.claims claim := by
  have hplan : (∀ f ∈ ((planOf packet claim).map (planFindings claim)).getD [], f.Fits) ↔
      ∀ plan, planOf packet claim = some plan → ∀ f ∈ planFindings claim plan, f.Fits := by
    cases planOf packet claim with
    | none => simp
    | some plan => simp
  simp only [claimFindings, List.forall_mem_append, List.forall_mem_flatMap, hplan,
    referenceFindings_fit, planFindings_fit, calculationFindings_fit, numericFindings_fit]
  constructor
  · rintro ⟨⟨⟨⟨⟨⟨⟨⟨⟨⟨he, hm⟩, -⟩, hp⟩, -⟩, hi, hv⟩, -⟩, -⟩, -⟩, hn⟩, -⟩
    exact ⟨he, hm, fun plan h => (hp plan h).1, fun plan h => (hp plan h).2, hi, hv, hn⟩
  · intro h
    exact ⟨⟨⟨⟨⟨⟨⟨⟨⟨⟨h.evidence, h.metrics⟩, basisFindings_fit⟩,
      fun plan hplan => ⟨h.counterEvidence plan hplan, h.expiry plan hplan⟩⟩,
      overclaimFindings_fit⟩, h.inputs, h.values⟩, fun _ _ => citationFindings_fit⟩,
      fun _ _ => counterCitationFindings_fit⟩, languageFindings_fit⟩, h.numbers⟩,
      lengthFindings_fit⟩

/-! ## Every finding -/

theorem short_candidate (candidate : SetupCandidate) : Short (candidateText candidate) := by
  have hsymbol := candidate.symbol.legal.1
  have hstatus : candidate.planStatus.value.length ≤ 20 := by
    cases candidate.planStatus <;> decide
  have hcolon : ": ".length = 2 := by decide
  unfold Short candidateText
  simp only [String.length_append]
  omega

theorem watchlistFindings_fit :
    (∀ f ∈ watchlistFindings packet draft, f.Fits) ↔
      ∀ exclusion ∈ packet.candidateExclusions, ¬ ShowsExclusion draft exclusion →
        Short (exclusionReasons exclusion) := by
  simp only [watchlistFindings, List.forall_mem_append, List.forall_mem_flatMap, forall_mem_flag]
  constructor
  · intro h exclusion hexclusion hshows
    exact ((fits_iff (literal_fits (by decide)) (literal_fits (by decide))).mp (h.2 exclusion hexclusion hshows)).1 _ rfl
  · exact fun h => ⟨fun candidate _ _ => fits_expected (literal_fits (by decide)) (literal_fits (by decide))
      (short_candidate candidate), fun exclusion hexclusion hshows =>
      fits_expected (literal_fits (by decide)) (literal_fits (by decide)) (h exclusion hexclusion hshows)⟩

/-- The texts a finding on the draft may hold and that have no bound of their own
are short enough for an issue. -/
structure TextsFit (u : CharacterDatabase) (packet : ResearchPacket) (draft : ResearchBriefDraft) :
    Prop where
  disclosures : ∀ capability state explanation,
    Dicts.get? CapabilityState.capability (disabledStates packet) capability = some state →
    Dicts.get? CapabilityExplanation.capability draft.disabledCapabilityExplanations
      capability = some explanation →
    ¬ SameReasons explanation state → Short (joined explanation.reasonCodes)
  supports : ∀ claim ∈ draft.claims, Short (joined (missingSupports draft.claims claim))
  narratives : ∀ narrative ∈ draft.planNarratives, ∀ concrete,
    narrativeClaims draft.claims narrative = some concrete →
    narrative.text.val ≠ narrativeText concrete →
    Short (narrativeText concrete) ∧ Short narrative.text.val
  claims : ∀ claim ∈ draft.claims, ClaimTextsFit u packet draft.claims claim
  exclusions : ∀ exclusion ∈ packet.candidateExclusions, ¬ ShowsExclusion draft exclusion →
    Short (exclusionReasons exclusion)

/-- **Every finding fits an issue exactly when these texts do.** -/
theorem findings_fit :
    (∀ f ∈ findings u packet draft, f.Fits) ↔ TextsFit u packet draft := by
  have hexecutive := sectionFindings_fit "/executive_sections" executiveSections (by decide)
    (le_trans draft.bounded.1 (by decide)) (by decide)
  have hdetailed := sectionFindings_fit "/detailed_sections" detailedSections (by decide)
    draft.bounded.2.1 (by decide)
  simp only [findings, draftFindings, List.forall_mem_append, List.forall_mem_flatMap,
    capabilityFindings_fit, graphFindings_fit draft.bounded.2.2.1, narrativeFindings_fit,
    claimFindings_fit, watchlistFindings_fit]
  constructor
  · rintro ⟨⟨⟨-, hd⟩, ⟨⟨hs, hn⟩, -⟩, hc⟩, he⟩
    exact ⟨hd, hs, hn, hc, he⟩
  · intro h
    exact ⟨⟨⟨⟨⟨runFindings_fit packet draft, hexecutive⟩, hdetailed⟩, h.disclosures⟩,
      ⟨⟨h.supports, h.narratives⟩, warningFindings_fit u packet draft⟩, h.claims⟩,
      h.exclusions⟩

end FinanceResearch
