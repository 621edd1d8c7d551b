import FinanceResearch.Packets.Trimming
import FinanceResearch.Plans.Coherent

/-!
# What a packet discloses

A packet that is returned contains its size, within the budget, and the sections it was
given; its evidence is that of one of the rounds. All removed excerpts are disclosed. The
replaced labels are disclosed only where one of them is longer than its evidence ID.
-/

namespace FinanceResearch.Packets

open Fallible (bind_eq_ok)

/-! ## Disclosure -/

/-- The packet names the omission, with the bytes it took. -/
def Discloses (packet : ResearchPacket) (name : String) : Prop :=
  packet.synthesisConstraints.truncated = true ∧
    name ∈ packet.synthesisConstraints.omittedSections ∧
      ∃ bytes, packet.synthesisConstraints.omittedBytes.get? name = some bytes ∧ 0 < bytes

/-- What the rounds omit: of repeated excerpts, of other excerpts, of labels. -/
def omittedOf (repeated : Option Nat) (discovery labels : Nat) : Omitted :=
  (repeated.map fun bytes => ("duplicate_discovery_excerpts", bytes)).toList ++
    entryOf "low_authority_discovery_excerpts" discovery ++
      entryOf "verbose_non_factual_descriptions" labels

variable {repeated : Option Nat} {discovery labels : Nat}

theorem mem_entryOf {name : String} {bytes : Nat} {entry : String × Nat} :
    entry ∈ entryOf name bytes ↔ bytes ≠ 0 ∧ entry = (name, bytes) := by
  unfold entryOf
  by_cases h : bytes ≠ 0
  · rw [if_pos h, List.mem_singleton]
    exact (and_iff_right h).symm
  · rw [if_neg h]
    exact ⟨nofun, fun hmem => absurd hmem.1 h⟩

theorem mem_omittedOf {entry : String × Nat} : entry ∈ omittedOf repeated discovery labels ↔
    (∃ bytes, repeated = some bytes ∧ entry = ("duplicate_discovery_excerpts", bytes)) ∨
      (discovery ≠ 0 ∧ entry = ("low_authority_discovery_excerpts", discovery)) ∨
        (labels ≠ 0 ∧ entry = ("verbose_non_factual_descriptions", labels)) := by
  unfold omittedOf
  rw [List.mem_append, List.mem_append, mem_entryOf, mem_entryOf, or_assoc]
  refine or_congr_left ?_
  cases repeated with
  | none => simp
  | some bytes => simp

theorem omittedOf_nodup : ((omittedOf repeated discovery labels).map Prod.fst).Nodup := by
  unfold omittedOf entryOf
  cases repeated with
  | none =>
    by_cases hd : discovery ≠ 0
    · by_cases hl : labels ≠ 0
      · simp [hd, hl]
      · simp [hd, hl]
    · by_cases hl : labels ≠ 0
      · simp [hd, hl]
      · simp [hd, hl]
  | some bytes =>
    by_cases hd : discovery ≠ 0
    · by_cases hl : labels ≠ 0
      · simp [hd, hl]
      · simp [hd, hl]
    · by_cases hl : labels ≠ 0
      · simp [hd, hl]
      · simp [hd, hl]

section Assembled

variable {run : RunContext} {evidence : List EvidenceItem} {sections : Sections}
  {maxSerializedBytes : Nat} {packet : ResearchPacket}

theorem Assembled.discloses {name : String} {bytes : Nat}
    (h : Assembled run evidence sections maxSerializedBytes (omittedOf repeated discovery labels)
      packet)
    (hmem : (name, bytes) ∈ omittedOf repeated discovery labels) (hpos : 0 < bytes) :
    Discloses packet name := by
  refine ⟨?_, ?_, bytes, ?_, hpos⟩
  · rw [h.truncated]
    exact decide_eq_true (List.ne_nil_of_mem hmem)
  · rw [h.omittedSections]
    exact List.mem_map.mpr ⟨_, hmem, rfl⟩
  · exact FrozenMap.get?_ofDict_of_mem h.omittedBytes omittedOf_nodup hmem

/-- A packet within the budget passes the checks that the input passed. -/
theorem Assembled.validated
    (h : Assembled run evidence sections maxSerializedBytes (omittedOf repeated discovery labels)
      packet)
    (hcutoff : validatePacketCutoff run evidence sections.market sections.metrics = .ok ⟨⟩)
    (hregime : sections.regimeResult = none)
    (hfits : packet.synthesisConstraints.serializedBytes ≤ maxSerializedBytes) :
    validated packet = .ok packet := by
  refine bind_eq_ok.mpr ⟨⟨⟩, ?_, bind_eq_ok.mpr ⟨⟨⟩, ?_, rfl⟩⟩
  · refine bind_eq_ok.mpr ⟨⟨⟩, if_neg ?_, bind_eq_ok.mpr ⟨⟨⟩, if_neg ?_, if_neg ?_⟩⟩
    · rw [not_not, h.truncated, h.omittedSections]
      simp
    · rw [not_not, h.omittedSections]
      have hnames := FrozenMap.mem_names_ofDict h.omittedBytes omittedOf_nodup
      exact ⟨fun name hname => (hnames name).mpr hname, fun name hname => (hnames name).mp hname⟩
    · rw [h.limit]
      exact Nat.not_lt.mpr hfits
  · refine bind_eq_ok.mpr ⟨⟨⟩, ?_, ?_⟩
    · rw [h.run, h.evidence, h.sections]
      exact hcutoff
    · rw [h.sections, hregime]
      refine bind_eq_ok.mpr ⟨⟨⟩, if_neg ?_, if_neg ?_⟩
      · rw [not_or, not_not, not_not]
        exact h.identity
      · rw [not_not]
        exact h.measured

/-- Labels are disclosed only where bytes of them are counted. -/
theorem Assembled.not_discloses
    (h : Assembled run evidence sections maxSerializedBytes (omittedOf repeated discovery 0)
      packet) : ¬ Discloses packet "verbose_non_factual_descriptions" := by
  intro hdiscloses
  have hname := hdiscloses.2.1
  rw [h.omittedSections] at hname
  obtain ⟨entry, hentry, hfst⟩ := List.mem_map.mp hname
  rcases mem_omittedOf.mp hentry with ⟨bytes, -, rfl⟩ | ⟨-, rfl⟩ | ⟨hzero, -⟩
  · exact absurd hfst (by decide : "duplicate_discovery_excerpts"
      ≠ "verbose_non_factual_descriptions")
  · exact absurd hfst (by decide : "low_authority_discovery_excerpts"
      ≠ "verbose_non_factual_descriptions")
  · exact hzero rfl

end Assembled

/-! ## The rounds -/

/-- How far the evidence is trimmed. -/
inductive Round where
  | whole | repeated | discovery | labels
  deriving DecidableEq

namespace PacketInput

variable (input : PacketInput)

/-- The evidence after a round. -/
def evidenceOf : Round → List EvidenceItem
  | .whole => input.evidenceValues
  | .repeated => (dropRepeated [] none input.evidenceValues).2
  | .discovery => (dropRepeated [] none input.evidenceValues).2.map strip
  | .labels => ((dropRepeated [] none input.evidenceValues).2.map strip).map relabel

/-- What is omitted by then. -/
def omittedBy : Round → Omitted
  | .whole => omittedOf none 0 0
  | .repeated => omittedOf (dropRepeated [] none input.evidenceValues).1 0 0
  | .discovery => omittedOf (dropRepeated [] none input.evidenceValues).1
      (strippedBytes (input.evidenceOf .repeated)) 0
  | .labels => omittedOf (dropRepeated [] none input.evidenceValues).1
      (strippedBytes (input.evidenceOf .repeated))
      (descriptionBytes (input.evidenceOf .discovery))

/-- The packet of a round. -/
def IsPacketOf (round : Round) (packet : ResearchPacket) : Prop :=
  ∃ market, FrozenMap.ofDict input.snapshots = some market ∧
    input.packetOf market (input.evidenceOf round) (input.omittedBy round) = .ok packet

/-- The packet of a round is over the budget. -/
def OverBudget (round : Round) : Prop :=
  ∃ packet, input.IsPacketOf round packet ∧ ¬ input.Fits packet

/-- No packet without replaced labels is within the budget. -/
def ReachesLabels : Prop := ∀ round, round ≠ .labels → input.OverBudget round

variable {input} {market : FrozenMap (Dumped MarketSnapshot)} {packet : ResearchPacket}

theorem validated_eq {result : ResearchPacket} (h : validated packet = .ok result) :
    packet = result := by
  obtain ⟨_, _, h⟩ := bind_eq_ok.mp h
  obtain ⟨_, _, h⟩ := bind_eq_ok.mp h
  cases h
  rfl

/-- What is known of the packet that is returned. -/
structure Returned (input : PacketInput) (round : Round) (packet : ResearchPacket) : Prop where
  isPacket : input.IsPacketOf round packet
  fits : input.Fits packet
  reached : round = .labels → input.ReachesLabels

theorem isPacketOf_unique {round : Round} {other : ResearchPacket}
    (h : input.IsPacketOf round packet) (hother : input.IsPacketOf round other) :
    packet = other := by
  obtain ⟨market, hmarket, hpacket⟩ := h
  obtain ⟨_, hmarket', hpacket'⟩ := hother
  rw [hmarket] at hmarket'
  cases hmarket'
  rw [hpacket] at hpacket'
  exact Except.ok.inj hpacket'

/-- The labels are reached exactly when all else is over the budget. -/
theorem Returned.labels_iff {round : Round} (h : Returned input round packet) :
    round = .labels ↔ input.ReachesLabels := by
  refine ⟨h.reached, ?_⟩
  intro hreaches
  by_contra hround
  obtain ⟨other, hother, hover⟩ := hreaches round hround
  rw [isPacketOf_unique hother h.isPacket] at hover
  exact hover h.fits

theorem returned_relabelled (hmarket : FrozenMap.ofDict input.snapshots = some market)
    (hbefore : ∀ round, round ≠ .labels → input.OverBudget round)
    (h : input.relabelled market (input.evidenceOf .discovery) (input.omittedBy .discovery)
      = .ok packet) : Returned input .labels packet := by
  obtain ⟨assembled, hassembled, h⟩ := bind_eq_ok.mp h
  split at h
  · next hfits =>
    obtain rfl := validated_eq h
    refine ⟨⟨market, hmarket, ?_⟩, hfits, fun _ => hbefore⟩
    rw [← hassembled]
    congr 1
    simp [omittedBy, omittedOf, entryOf]
  · cases h

theorem returned_stripped (hmarket : FrozenMap.ofDict input.snapshots = some market)
    (hwhole : input.OverBudget .whole) (hrepeated : input.OverBudget .repeated)
    (h : input.stripped market (input.evidenceOf .repeated) (input.omittedBy .repeated)
      = .ok packet) : ∃ round, Returned input round packet := by
  have homitted : input.omittedBy .repeated ++ entryOf "low_authority_discovery_excerpts"
      (strippedBytes (input.evidenceOf .repeated)) = input.omittedBy .discovery := by
    simp [omittedBy, omittedOf, entryOf]
  unfold stripped at h
  rw [homitted] at h
  obtain ⟨assembled, hassembled, h⟩ := bind_eq_ok.mp h
  split at h
  · next hfits =>
    obtain rfl := validated_eq h
    exact ⟨.discovery, ⟨market, hmarket, hassembled⟩, hfits, nofun⟩
  · next hover =>
    refine ⟨.labels, returned_relabelled hmarket ?_ h⟩
    intro round hround
    cases round with
    | whole => exact hwhole
    | repeated => exact hrepeated
    | discovery => exact ⟨assembled, ⟨market, hmarket, hassembled⟩, hover⟩
    | labels => exact absurd rfl hround

theorem returned_trimmed (hmarket : FrozenMap.ofDict input.snapshots = some market)
    (hwhole : input.OverBudget .whole)
    (h : input.trimmed market input.evidenceValues = .ok packet) :
    ∃ round, Returned input round packet := by
  unfold trimmed at h
  cases hremoved : (dropRepeated [] none input.evidenceValues).1 with
  | none =>
    -- Nothing was removed, so this round has the packet of the round before.
    have hevidence := (dropRepeated_none _ _ _ hremoved).2
    have homitted : input.omittedBy .repeated = input.omittedBy .whole := by
      simp only [omittedBy, hremoved]
    have hrepeated : input.OverBudget .repeated := by
      obtain ⟨assembled, ⟨market, hmarket, hassembled⟩, hover⟩ := hwhole
      refine ⟨assembled, ⟨market, hmarket, ?_⟩, hover⟩
      rw [homitted, evidenceOf, hevidence]
      exact hassembled
    refine returned_stripped hmarket hwhole hrepeated ?_
    simp only [hremoved] at h
    simp only [omittedBy, hremoved]
    exact h
  | some bytes =>
    simp only [hremoved] at h
    have homitted : input.omittedBy .repeated = [("duplicate_discovery_excerpts", bytes)] := by
      simp [omittedBy, hremoved, omittedOf, entryOf]
    rw [← homitted] at h
    obtain ⟨assembled, hassembled, h⟩ := bind_eq_ok.mp h
    split at h
    · next hfits =>
      obtain rfl := validated_eq h
      exact ⟨.repeated, ⟨market, hmarket, hassembled⟩, hfits, nofun⟩
    · next hover =>
      exact returned_stripped hmarket hwhole ⟨assembled, ⟨market, hmarket, hassembled⟩, hover⟩ h

/-- A packet that is returned is the first that is within the budget. -/
theorem buildResearchPacket_returned {promptSha256 : String}
    (h : input.buildResearchPacket promptSha256 = .ok packet) :
    ∃ round, Returned input round packet := by
  obtain ⟨_, _, h⟩ := bind_eq_ok.mp h
  obtain ⟨_, _, h⟩ := bind_eq_ok.mp h
  obtain ⟨_, _, h⟩ := bind_eq_ok.mp h
  split at h
  · cases h
  · next market hmarket =>
    obtain ⟨_, _, h⟩ := bind_eq_ok.mp h
    obtain ⟨assembled, hassembled, h⟩ := bind_eq_ok.mp h
    split at h
    · next hfits =>
      obtain rfl := validated_eq h
      exact ⟨.whole, ⟨market, hmarket, hassembled⟩, hfits, nofun⟩
    · next hover =>
      exact returned_trimmed hmarket ⟨assembled, ⟨market, hmarket, hassembled⟩, hover⟩ h

end PacketInput

/-! ## Honest packets -/

/-- An item differs from the given one in a removed excerpt and a replaced label at most. -/
structure Altered (item kept : EvidenceItem) : Prop where
  rest : kept = { item with
    source := { item.source with excerpt := kept.source.excerpt }
    citationLabel := kept.citationLabel }
  excerpt : excerptOf kept ≠ excerptOf item → discoveryAuthorityTier ≤ item.authorityTier
  label : kept.citationLabel ≠ item.citationLabel → kept.citationLabel.val = item.evidenceId.text

namespace PacketInput

/-- The packet has `kept` in the place of the item that is sorted after `before`. -/
def InPlace (input : PacketInput) (packet : ResearchPacket) (before : List EvidenceItem)
    (item kept : EvidenceItem) : Prop :=
  (∃ after, input.evidenceValues = before ++ item :: after) ∧
    packet.evidence[before.length]? = some kept

/-- What a packet that is returned should be. -/
structure Honest (input : PacketInput) (packet : ResearchPacket) : Prop where
  measured : packet.synthesisConstraints.serializedBytes = packet.canonicalLength
  bounded : packet.synthesisConstraints.serializedBytes ≤ input.maxSerializedBytes.toNat
  run : packet.run = input.run
  sections : ∃ market, FrozenMap.ofDict input.snapshots = some market ∧
    packet.sections = input.sectionsOf market
  complete : packet.evidence.length = input.evidenceValues.length
  altered : ∀ before item kept, input.InPlace packet before item kept → Altered item kept
  repeated : ∀ before item kept, input.InPlace packet before item kept →
    excerptOf kept ≠ excerptOf item → excerptOf item ∈ before.map excerptOf →
      Discloses packet "duplicate_discovery_excerpts"
  discovery : ∀ before item kept, input.InPlace packet before item kept →
    excerptOf kept ≠ excerptOf item → excerptOf item ∉ before.map excerptOf →
      Discloses packet "low_authority_discovery_excerpts"
  labels : ∀ before item kept, input.InPlace packet before item kept →
    kept.citationLabel ≠ item.citationLabel → Discloses packet "verbose_non_factual_descriptions"

/-- No label is replaced, or one that is replaced is longer than its evidence ID. -/
def LabelsCounted (input : PacketInput) : Prop :=
  input.ReachesLabels → (∃ item ∈ input.evidence, LongLabel item) ∨
    ∀ item ∈ input.evidence, item.citationLabel.val = item.evidenceId.text

/-! ## The evidence of a round -/

/-- An item after a round, given whether an earlier item has its excerpt. -/
def itemAfter (round : Round) (before : List EvidenceItem) (item : EvidenceItem) : EvidenceItem :=
  let kept := if Repeats before item then withoutExcerpt item else item
  match round with
  | .whole => item
  | .repeated => kept
  | .discovery => strip kept
  | .labels => relabel (strip kept)

variable {input : PacketInput}

theorem evidenceOf_length (round : Round) :
    (input.evidenceOf round).length = input.evidenceValues.length := by
  cases round with
  | whole => rfl
  | repeated => exact dropRepeated_length _ _ _
  | discovery => exact (List.length_map _).trans (dropRepeated_length _ _ _)
  | labels =>
    exact (List.length_map _).trans ((List.length_map _).trans (dropRepeated_length _ _ _))

theorem evidenceOf_getElem? (round : Round) {before after : List EvidenceItem}
    {item : EvidenceItem} (h : input.evidenceValues = before ++ item :: after) :
    (input.evidenceOf round)[before.length]? = some (itemAfter round before item) := by
  have hdrop : (dropRepeated [] none input.evidenceValues).2[before.length]?
      = some (if Repeats before item then withoutExcerpt item else item) := by
    rw [h]
    exact dropRepeated_getElem? before [] [] none fun _ _ => Iff.rfl
  cases round with
  | whole =>
    rw [evidenceOf, h, List.getElem?_append_right (Nat.le_refl _), Nat.sub_self]
    rfl
  | repeated => exact hdrop
  | discovery => rw [evidenceOf, List.getElem?_map, hdrop, Option.map_some, itemAfter]
  | labels =>
    rw [evidenceOf, List.getElem?_map, List.getElem?_map, hdrop, Option.map_some, Option.map_some,
      itemAfter]

/-- What an item is after a round. -/
theorem itemAfter_cases (round : Round) (before : List EvidenceItem) (item : EvidenceItem) :
    ∃ kept, (kept = item ∨ IsDiscovery item ∧ kept = withoutExcerpt item) ∧
      (itemAfter round before item = kept ∨ itemAfter round before item = relabel kept) := by
  have hfirst : ∃ kept, (kept = item ∨ IsDiscovery item ∧ kept = withoutExcerpt item) ∧
      kept = if Repeats before item then withoutExcerpt item else item := by
    by_cases hrepeats : Repeats before item
    · exact ⟨withoutExcerpt item, Or.inr ⟨hrepeats.1, rfl⟩, (if_pos hrepeats).symm⟩
    · exact ⟨item, Or.inl rfl, (if_neg hrepeats).symm⟩
  obtain ⟨kept, hkept, heq⟩ := hfirst
  have hstrip : strip kept = item ∨ IsDiscovery item ∧ strip kept = withoutExcerpt item := by
    unfold strip
    rcases hkept with hkept | ⟨hdiscovery, hkept⟩
    · rw [hkept]
      by_cases hdiscovery : IsDiscovery item
      · rw [if_pos hdiscovery]
        exact Or.inr ⟨hdiscovery, rfl⟩
      · rw [if_neg hdiscovery]
        exact Or.inl rfl
    · -- What has no excerpt keeps none.
      rw [hkept, if_neg (fun h => h.2 rfl)]
      exact Or.inr ⟨hdiscovery, rfl⟩
  cases round with
  | whole => exact ⟨item, Or.inl rfl, Or.inl rfl⟩
  | repeated => exact ⟨kept, hkept, Or.inl heq.symm⟩
  | discovery => exact ⟨strip kept, hstrip, Or.inl (congrArg strip heq.symm)⟩
  | labels =>
    exact ⟨strip kept, hstrip, Or.inr (congrArg (fun kept => relabel (strip kept)) heq.symm)⟩

theorem itemAfter_altered (round : Round) (before : List EvidenceItem) (item : EvidenceItem) :
    Altered item (itemAfter round before item) := by
  obtain ⟨kept, hkept, hafter⟩ := itemAfter_cases round before item
  have hlabel : (relabel kept).citationLabel.val = kept.evidenceId.text := rfl
  rcases hkept with hkept | ⟨hdiscovery, hkept⟩
  · rcases hafter with hafter | hafter
    · rw [hafter, hkept]
      exact ⟨rfl, fun h => absurd rfl h, fun h => absurd rfl h⟩
    · rw [hafter, hkept]
      exact ⟨rfl, fun h => absurd rfl h, fun _ => rfl⟩
  · rcases hafter with hafter | hafter
    · rw [hafter, hkept]
      exact ⟨rfl, fun _ => hdiscovery.1, fun h => absurd rfl h⟩
    · rw [hafter, hkept]
      exact ⟨rfl, fun _ => hdiscovery.1, fun _ => rfl⟩

theorem strip_label (item : EvidenceItem) : (strip item).citationLabel = item.citationLabel ∧
    (strip item).evidenceId = item.evidenceId := by
  unfold strip
  split
  · exact ⟨rfl, rfl⟩
  · exact ⟨rfl, rfl⟩

/-- Only the last round replaces labels, and no round replaces IDs. -/
theorem itemAfter_label {round : Round} (h : round ≠ .labels) (before : List EvidenceItem)
    (item : EvidenceItem) : (itemAfter round before item).citationLabel = item.citationLabel ∧
      (itemAfter round before item).evidenceId = item.evidenceId := by
  have hkept : (if Repeats before item then withoutExcerpt item else item).citationLabel
        = item.citationLabel ∧
      (if Repeats before item then withoutExcerpt item else item).evidenceId
        = item.evidenceId := by
    split
    · exact ⟨rfl, rfl⟩
    · exact ⟨rfl, rfl⟩
  cases round with
  | whole => exact ⟨rfl, rfl⟩
  | repeated => exact hkept
  | discovery =>
    obtain ⟨hlabel, hid⟩ := strip_label (if Repeats before item then withoutExcerpt item else item)
    exact ⟨hlabel.trans hkept.1, hid.trans hkept.2⟩
  | labels => exact absurd rfl h

/-- An excerpt that is not the given one was removed, by a round that removes such. -/
theorem itemAfter_excerpt {round : Round} {before : List EvidenceItem} {item : EvidenceItem}
    (h : excerptOf (itemAfter round before item) ≠ excerptOf item) :
    IsDiscovery item ∧ round ≠ .whole ∧ (¬ Repeats before item → round ≠ .repeated) := by
  refine ⟨?_, ?_, ?_⟩
  · obtain ⟨kept, hkept, hafter⟩ := itemAfter_cases round before item
    rcases hkept with hkept | hkept
    · rw [hkept] at hafter
      rcases hafter with hafter | hafter
      · exact absurd (congrArg excerptOf hafter) h
      · exact absurd (congrArg excerptOf hafter) h
    · exact hkept.1
  · intro hround
    rw [hround] at h
    exact h rfl
  · intro hrepeats hround
    rw [hround, itemAfter] at h
    rw [if_neg hrepeats] at h
    exact h rfl

/-- What is removed as repeated is counted. -/
theorem exists_repeated {before after : List EvidenceItem} {item : EvidenceItem}
    (hplace : input.evidenceValues = before ++ item :: after) (h : Repeats before item) :
    ∃ bytes, (dropRepeated [] none input.evidenceValues).1 = some bytes ∧ 0 < bytes := by
  cases hremoved : (dropRepeated [] none input.evidenceValues).1 with
  | none =>
    have hsame := (dropRepeated_none _ _ _ hremoved).2
    have hget := evidenceOf_getElem? .repeated hplace
    rw [evidenceOf, hsame, ← evidenceOf, evidenceOf_getElem? .whole hplace] at hget
    have hitem : item = withoutExcerpt item := by
      have heq := Option.some.inj hget
      rw [itemAfter, itemAfter] at heq
      rwa [if_pos h] at heq
    exact absurd (congrArg excerptOf hitem) h.1.2
  | some bytes => exact ⟨bytes, rfl, dropRepeated_pos _ _ none nofun bytes hremoved⟩

/-- What is removed although it is not repeated is counted. -/
theorem strippedBytes_ne_zero {before after : List EvidenceItem} {item : EvidenceItem}
    (hplace : input.evidenceValues = before ++ item :: after) (h : IsDiscovery item)
    (hrepeats : ¬ Repeats before item) : strippedBytes (input.evidenceOf .repeated) ≠ 0 := by
  intro hzero
  have hget := evidenceOf_getElem? .repeated hplace
  rw [itemAfter] at hget
  rw [if_neg hrepeats] at hget
  exact strippedBytes_eq_zero.mp hzero item (List.mem_of_getElem? hget) h

/-- The labels are counted exactly when one of them is longer than its ID. -/
theorem descriptionBytes_discovery : descriptionBytes (input.evidenceOf .discovery) = 0 ↔
    ∀ item ∈ input.evidence, ¬ LongLabel item := by
  rw [descriptionBytes_eq_zero]
  have hlong (before : List EvidenceItem) (item : EvidenceItem) :
      LongLabel (itemAfter .discovery before item) ↔ LongLabel item := by
    obtain ⟨hlabel, hid⟩ := itemAfter_label (nofun : Round.discovery ≠ .labels) before item
    rw [LongLabel, LongLabel, hlabel, hid]
  constructor
  · intro h item hitem hitemLong
    obtain ⟨before, after, hplace⟩ := List.append_of_mem
      ((List.mem_insertionSort fun a b : EvidenceItem => a.evidenceId.text ≤ b.evidenceId.text).mpr
        hitem)
    exact h _ (List.mem_of_getElem? (evidenceOf_getElem? .discovery hplace))
      ((hlong before item).mpr hitemLong)
  · intro h kept hkept hkeptLong
    obtain ⟨i, hi⟩ := List.getElem?_of_mem hkept
    have hlt : i < input.evidenceValues.length := by
      rw [← evidenceOf_length .discovery]
      exact (List.getElem?_eq_some_iff.mp hi).1
    have hplace : input.evidenceValues = input.evidenceValues.take i ++
        input.evidenceValues[i] :: input.evidenceValues.drop (i + 1) := by
      rw [← List.drop_eq_getElem_cons hlt, List.take_append_drop]
    have hget := evidenceOf_getElem? .discovery hplace
    rw [List.length_take, Nat.min_eq_left hlt.le, hi] at hget
    obtain rfl := Option.some.inj hget
    refine h _ ?_ ((hlong _ _).mp hkeptLong)
    exact (List.mem_insertionSort fun a b : EvidenceItem =>
      a.evidenceId.text ≤ b.evidenceId.text).mp (List.getElem_mem hlt)

/-! ## Which packets are honest -/

variable {packet : ResearchPacket}

/-- Everything but the disclosure of labels holds of each packet that is returned. -/
theorem Returned.honest {round : Round} (h : Returned input round packet)
    (hlabels : ∀ before item kept, input.InPlace packet before item kept →
      kept.citationLabel ≠ item.citationLabel →
        Discloses packet "verbose_non_factual_descriptions") : Honest input packet := by
  obtain ⟨market, hmarket, hpacket⟩ := h.isPacket
  have hassembled := assemble_spec hpacket
  have hkept : ∀ before item kept, input.InPlace packet before item kept →
      kept = itemAfter round before item := by
    intro before item kept hin
    obtain ⟨⟨after, hplace⟩, hget⟩ := hin
    rw [hassembled.evidence, evidenceOf_getElem? round hplace] at hget
    exact (Option.some.inj hget).symm
  refine ⟨hassembled.measured, h.fits, hassembled.run, ⟨market, hmarket, hassembled.sections⟩, ?_,
    ?_, ?_, ?_, hlabels⟩
  · rw [hassembled.evidence]
    exact evidenceOf_length round
  · intro before item kept hin
    rw [hkept before item kept hin]
    exact itemAfter_altered round before item
  · intro before item kept hin hchanged hrepeated
    rw [hkept before item kept hin] at hchanged
    obtain ⟨hdiscovery, hwhole, -⟩ := itemAfter_excerpt hchanged
    obtain ⟨⟨after, hplace⟩, -⟩ := hin
    obtain ⟨bytes, hbytes, hpos⟩ := exists_repeated hplace ⟨hdiscovery, hrepeated⟩
    cases round with
    | whole => exact absurd rfl hwhole
    | repeated =>
      exact hassembled.discloses (mem_omittedOf.mpr (Or.inl ⟨bytes, hbytes, rfl⟩)) hpos
    | discovery =>
      exact hassembled.discloses (mem_omittedOf.mpr (Or.inl ⟨bytes, hbytes, rfl⟩)) hpos
    | labels =>
      exact hassembled.discloses (mem_omittedOf.mpr (Or.inl ⟨bytes, hbytes, rfl⟩)) hpos
  · intro before item kept hin hchanged hrepeated
    rw [hkept before item kept hin] at hchanged
    obtain ⟨hdiscovery, hwhole, hround⟩ := itemAfter_excerpt hchanged
    have hrepeats : ¬ Repeats before item := fun hrepeats => hrepeated hrepeats.2
    obtain ⟨⟨after, hplace⟩, -⟩ := hin
    have hbytes := strippedBytes_ne_zero hplace hdiscovery hrepeats
    cases round with
    | whole => exact absurd rfl hwhole
    | repeated => exact absurd rfl (hround hrepeats)
    | discovery =>
      exact hassembled.discloses (mem_omittedOf.mpr (Or.inr (Or.inl ⟨hbytes, rfl⟩)))
        (Nat.pos_of_ne_zero hbytes)
    | labels =>
      exact hassembled.discloses (mem_omittedOf.mpr (Or.inr (Or.inl ⟨hbytes, rfl⟩)))
        (Nat.pos_of_ne_zero hbytes)

/-- A packet that is returned is honest exactly when its replaced labels are counted. -/
theorem buildResearchPacket_honest_iff (input : PacketInput) (promptSha256 : String)
    (packet : ResearchPacket) (h : input.buildResearchPacket promptSha256 = .ok packet) :
    Honest input packet ↔ input.LabelsCounted := by
  obtain ⟨round, hreturned⟩ := buildResearchPacket_returned h
  obtain ⟨market, hmarket, hpacket⟩ := hreturned.isPacket
  have hassembled := assemble_spec hpacket
  constructor
  · intro hhonest hreaches
    have hround := hreturned.labels_iff.mpr hreaches
    subst hround
    by_contra hnot
    rw [not_or, not_exists] at hnot
    have hshort : ∀ item ∈ input.evidence, ¬ LongLabel item :=
      fun item hitem hlong => hnot.1 item ⟨hitem, hlong⟩
    -- Some label is replaced, and no bytes of labels are counted.
    have hzero := descriptionBytes_discovery.mpr hshort
    refine hnot.2 fun item hitem => ?_
    by_contra hlabel
    obtain ⟨before, after, hplace⟩ := List.append_of_mem
      ((List.mem_insertionSort fun a b : EvidenceItem => a.evidenceId.text ≤ b.evidenceId.text).mpr
        hitem)
    have hget := evidenceOf_getElem? .labels hplace
    rw [← hassembled.evidence] at hget
    have hchanged : (itemAfter .labels before item).citationLabel ≠ item.citationLabel := by
      intro heq
      have hid : (itemAfter .labels before item).citationLabel.val
          = (itemAfter .discovery before item).evidenceId.text := rfl
      rw [heq, (itemAfter_label (nofun : Round.discovery ≠ .labels) before item).2] at hid
      exact hlabel hid
    have hdiscloses := hhonest.labels before item _ ⟨⟨after, hplace⟩, hget⟩ hchanged
    rw [omittedBy, hzero] at hassembled
    exact hassembled.not_discloses hdiscloses
  · intro hcounted
    refine hreturned.honest fun before item kept hin hchanged => ?_
    obtain ⟨⟨after, hplace⟩, hget⟩ := hin
    rw [hassembled.evidence, evidenceOf_getElem? round hplace] at hget
    obtain rfl := Option.some.inj hget
    have hround : round = .labels := by
      by_contra hround
      exact hchanged (itemAfter_label hround before item).1
    subst hround
    have hbytes : descriptionBytes (input.evidenceOf .discovery) ≠ 0 := by
      intro hzero
      rcases hcounted (hreturned.reached rfl) with ⟨other, hother, hlong⟩ | hsame
      · exact descriptionBytes_discovery.mp hzero other hother hlong
      · refine hchanged (Subtype.ext ?_)
        have hitem : item ∈ input.evidence := by
          refine (List.mem_insertionSort fun a b : EvidenceItem =>
            a.evidenceId.text ≤ b.evidenceId.text).mp ?_
          show item ∈ input.evidenceValues
          rw [hplace]
          exact List.mem_append_right _ List.mem_cons_self
        rw [hsame item hitem]
        have hid : (itemAfter .labels before item).citationLabel.val
            = (itemAfter .discovery before item).evidenceId.text := rfl
        rw [hid, (itemAfter_label (nofun : Round.discovery ≠ .labels) before item).2]
    exact hassembled.discloses (mem_omittedOf.mpr (Or.inr (Or.inr ⟨hbytes, rfl⟩)))
      (Nat.pos_of_ne_zero hbytes)

end PacketInput

/-! ## A label that is replaced and not disclosed -/

/-- A label of 40 letters, each two bytes of UTF-8 and six of a JSON text. -/
def sampleLabel : BoundedText 1 256 := ⟨String.ofList (List.replicate 40 'é'), by decide⟩

def sampleItem : EvidenceItem where
  evidenceId := ⟨String.ofList (List.replicate 100 'a'), by decide⟩
  source :=
    { observationId := ⟨"observation-1", by decide⟩
      provider := ⟨"sec-edgar", by decide⟩
      sourceUrl := none
      sourceHashSha256 := "0000000000000000000000000000000000000000000000000000000000000000"
      observedAt := 0
      retrievedAt := 0
      contentType := ⟨"text/html", by decide⟩
      excerpt := ⟨"", noExcerpt_bounded⟩
      persistenceAllowed := false
      qualityFlags := ⟨[], Plans.noFlags_legal⟩
      ordered := Plans.epoch_ordered }
  authorityTier := 2
  tierBounded := by decide
  instrumentId := none
  eventTime := none
  publishedTime := none
  structuredFields := FrozenMap.empty
  citationLabel := sampleLabel

/-- The digest of the canonical prompt. -/
def samplePrompt : String := "33e6da3c1321042f900ca6814d61a173addfcf70584de53e40c371da35fa9ae1"

def sampleInput : PacketInput where
  run := { Plans.sampleRun with promptVersion := samplePrompt }
  evidence := [sampleItem]
  snapshots := []
  events := []
  metrics := []
  gates := []
  candidates := []
  exclusions := []
  plans := []
  capabilities := []
  observations := []
  maxSerializedBytes := 2300
  regimeResult := none

namespace PacketInput

/-- The rounds before the labels leave the evidence as it is. -/
theorem sampleInput_evidence : sampleInput.evidenceValues = [sampleItem] ∧
    [sampleItem].map strip = [sampleItem] ∧ strippedBytes [sampleItem] = 0 ∧
      descriptionBytes [sampleItem] = 0 ∧ dropRepeated [] none [sampleItem] = (none, [sampleItem]) := by
  have hkept : ¬ IsDiscovery sampleItem := fun h => h.2 rfl
  have hstrip : strip sampleItem = sampleItem := if_neg hkept
  refine ⟨rfl, ?_, ?_, by decide, ?_⟩
  · rw [List.map_singleton, hstrip]
  · rw [strippedBytes_eq_zero]
    intro item hitem
    rw [List.mem_singleton.mp hitem]
    exact hkept
  · rw [dropRepeated, if_neg fun h => hkept h.1]
    rfl

/-- The packet of the sample with this evidence, and its byte count. -/
theorem sampleInput_packet {evidence : List EvidenceItem} {frame : Nat}
    (hframe : (provisional sampleInput.run evidence (sampleInput.sectionsOf FrozenMap.empty) 2300 []
      FrozenMap.empty).frameLength = frame) :
    ∃ packet, sampleInput.packetOf FrozenMap.empty evidence [] = .ok packet ∧
      packet.synthesisConstraints.serializedBytes
        = frame + ResearchPacket.digits packet.synthesisConstraints.serializedBytes := by
  rw [← hframe]
  exact @assemble_total _ _ _ _ [] _ rfl

theorem sampleInput_built : ∃ packet,
    sampleInput.buildResearchPacket samplePrompt = .ok packet ∧
      sampleInput.packetOf FrozenMap.empty [relabel sampleItem] [] = .ok packet := by
  obtain ⟨hsorted, hstrip, hstripped, hdescription, hdrop⟩ := sampleInput_evidence
  have hcutoff (evidence : List EvidenceItem) (h : evidence = [sampleItem] ∨
      evidence = [relabel sampleItem]) : validatePacketCutoff sampleInput.run evidence
        FrozenMap.empty (sampleInput.sectionsOf FrozenMap.empty).metrics = .ok ⟨⟩ := by
    rcases h with rfl | rfl
    · decide
    · decide
  obtain ⟨whole, hwhole, hsize⟩ := @sampleInput_packet [sampleItem] 2368 (by
    rw [ResearchPacket.frameLength, Json.size_eq_weight]
    decide +kernel)
  obtain ⟨packet, hpacket, hbytes⟩ := @sampleInput_packet [relabel sampleItem] 2228 (by
    rw [ResearchPacket.frameLength, Json.size_eq_weight]
    decide)
  have hover : ¬ sampleInput.Fits whole := by
    show ¬ whole.synthesisConstraints.serializedBytes ≤ 2300
    omega
  have hfits : packet.synthesisConstraints.serializedBytes ≤ 2300 := by
    have hhalf : ResearchPacket.digits packet.synthesisConstraints.serializedBytes
        ≤ packet.synthesisConstraints.serializedBytes / 2 + 1 := length_toDigits_le_half _
    have hmono : ResearchPacket.digits packet.synthesisConstraints.serializedBytes
        ≤ ResearchPacket.digits 4458 := length_toDigits_mono (by omega)
    have hfour : ResearchPacket.digits 4458 = 4 := by decide
    omega
  refine ⟨packet, ?_, hpacket⟩
  refine bind_eq_ok.mpr ⟨⟨⟩, rfl, bind_eq_ok.mpr ⟨⟨⟩, if_neg (not_not.mpr rfl), ?_⟩⟩
  refine bind_eq_ok.mpr ⟨⟨⟩, if_neg ?_, ?_⟩
  · rw [hsorted]
    exact not_not.mpr (List.nodup_singleton _)
  show (validatePacketCutoff sampleInput.run sampleInput.evidenceValues FrozenMap.empty
    (sampleInput.sectionsOf FrozenMap.empty).metrics >>= _) = _
  rw [hsorted]
  refine bind_eq_ok.mpr ⟨⟨⟩, hcutoff _ (Or.inl rfl), bind_eq_ok.mpr ⟨whole, hwhole, ?_⟩⟩
  rw [if_neg hover]
  have hlabels : sampleInput.relabelled FrozenMap.empty [sampleItem] [] = .ok packet := by
    refine bind_eq_ok.mpr ⟨packet, ?_, ?_⟩
    · rw [hdescription]
      exact hpacket
    · rw [if_pos (show sampleInput.Fits packet from hfits)]
      exact (assemble_spec hpacket : Assembled _ _ _ _ (omittedOf none 0 0) _).validated
        (hcutoff _ (Or.inr rfl)) rfl hfits
  have hstrippedRound : sampleInput.stripped FrozenMap.empty [sampleItem] [] = .ok packet := by
    unfold stripped
    rw [hstripped, hstrip]
    refine bind_eq_ok.mpr ⟨whole, hwhole, ?_⟩
    rw [if_neg hover]
    exact hlabels
  unfold trimmed
  rw [hdrop]
  exact hstrippedRound

theorem buildResearchPacket_honest_iff_sample : ∃ packet,
    sampleInput.buildResearchPacket samplePrompt = .ok packet ∧
      (Honest sampleInput packet ↔ sampleInput.LabelsCounted) := by
  obtain ⟨packet, hpacket, -⟩ := sampleInput_built
  exact ⟨packet, hpacket, buildResearchPacket_honest_iff sampleInput samplePrompt packet hpacket⟩

/-- The label of the sample is replaced, and its packet discloses nothing. -/
theorem replaced_label_undisclosed : ∃ packet,
    sampleInput.buildResearchPacket samplePrompt = .ok packet ∧ ¬ Honest sampleInput packet := by
  obtain ⟨packet, hpacket, hassembled⟩ := sampleInput_built
  refine ⟨packet, hpacket, fun hhonest => ?_⟩
  have hspec : Assembled _ _ _ _ (omittedOf none 0 0) packet := assemble_spec hassembled
  refine hspec.not_discloses (hhonest.labels [] sampleItem (relabel sampleItem)
    ⟨⟨[], rfl⟩, ?_⟩ ?_)
  · rw [hspec.evidence]
    rfl
  · intro heq
    have htexts := congrArg (fun label : BoundedText 1 256 => label.val.length) heq
    exact absurd htexts (by decide)

end PacketInput

end FinanceResearch.Packets
