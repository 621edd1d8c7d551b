import FinanceResearch.Packets.Service
import FinanceResearch.Plans.Coherent

/-!
# The byte count of a packet

A packet contains its own size. The loop of `_packet` ends: the size grows with the number
of digits of the size before, and a number has fewer digits than its half.
-/

namespace FinanceResearch.Packets

open Json (quote)

theorem encode_dumps_size (value : Json) : (encode value.dumps).size = value.size :=
  size_toUTF8_ofList value.chars

/-! ## Identities -/

/-- A hexadecimal digit is written as it is. -/
theorem plain_of_isHex {c : Char} (h : Sha256.isHex c = true) :
    Json.escapeChar c = [c] ∧ c.utf8Size = 1 := by
  have hof : ∀ d : Char, d ≤ c → d.toNat ≤ c.toNat := fun _ hd => hd
  have hto : ∀ d : Char, c ≤ d → c.toNat ≤ d.toNat := fun _ hd => hd
  have hrange : 48 ≤ c.toNat ∧ c.toNat ≤ 57 ∨ 97 ≤ c.toNat ∧ c.toNat ≤ 102 := by
    simp only [Sha256.isHex, Bool.or_eq_true, Bool.and_eq_true, decide_eq_true_eq] at h
    rcases h with h | h
    · exact Or.inl ⟨hof _ h.1, hto _ h.2⟩
    · exact Or.inr ⟨hof _ h.1, hto _ h.2⟩
  refine ⟨Json.escapeChar_of_range (by omega), ?_⟩
  rw [Char.utf8Size_eq_one_iff]
  refine UInt32.le_iff_toNat_le.mpr ?_
  show c.toNat ≤ 127
  omega

/-- A quoted text after another: the quotes are counted once. -/
theorem byteCount_quote_append (left right : String) :
    byteCount (quote (left ++ right)) + 2 = byteCount (quote left) + byteCount (quote right) := by
  simp only [quote, String.toList_append, List.flatMap_append, byteCount_append, byteCount_cons,
    byteCount_nil]
  have hopen : Char.utf8Size '"' = 1 := rfl
  omega

/-- A quoted digest. -/
theorem byteCount_quote_sha256 (payload : Bytes) : byteCount (quote (sha256 payload)) = 66 := by
  have hplain := fun c hc => plain_of_isHex (Sha256.sha256_hex payload c hc)
  rw [Json.byteCount_quote_of_plain hplain, byteCount_of_forall fun c hc => (hplain c hc).2,
    Sha256.sha256_length]

namespace ResearchPacket

variable (packet : ResearchPacket)

/-! ## Sizes -/

/-- The size of the packet without the digits of its byte count. -/
def frameLength : Nat :=
  ({ packet.counted 0 with packetId := "", canonicalSha256 := "" } : ResearchPacket).toJson.size
    + 134

/-- The digits of a number. -/
def digits (n : Nat) : Nat := (Nat.toDigits 10 n).length

theorem size_constraints (constraints : SynthesisConstraints) (n : Nat) :
    ({ constraints with serializedBytes := n } : SynthesisConstraints).toJson.size + 1
      = ({ constraints with serializedBytes := 0 } : SynthesisConstraints).toJson.size
        + digits n := by
  have hzero : (Json.int ((0 : Nat) : Int)).size = 1 := by decide
  simp only [SynthesisConstraints.toJson, Json.size_obj, List.map_cons, List.sum_cons,
    List.map_nil, List.length_cons, hzero, Json.size_natCast n]
  unfold digits
  omega

/-- The size of a packet that has its identity. -/
theorem canonicalLength_counted (n : Nat) :
    (packet.counted n).identified.canonicalLength = packet.frameLength + digits n := by
  have hconstraints := size_constraints packet.synthesisConstraints n
  have hempty : byteCount (quote "") = 2 := by decide
  have hname : byteCount (quote "packet-") = 9 := by decide
  have hid := byteCount_quote_append "packet-" (packet.counted n).digest
  have hdigest : byteCount (quote (packet.counted n).digest) = 66 := byteCount_quote_sha256 _
  rw [canonicalLength, encode_dumps_size, frameLength]
  simp only [toJson, identified, payload, Json.size_obj, List.map_cons, List.map_append,
    List.sum_cons, List.sum_append, List.map_nil, List.sum_nil, List.length_cons,
    List.length_append, List.length_nil]
  simp only [counted, Json.size, Json.chars, hempty] at hconstraints hid hdigest ⊢
  omega

/-! ## The loop -/

theorem identified_counted (n m : Nat) :
    ((packet.counted n).identified.counted m).identified = (packet.counted m).identified := rfl

/-- Enough rounds end at a packet that contains its size. -/
theorem settle_of_rounds : ∀ (rounds n : Nat), n ≤ packet.frameLength + digits n →
    n ≤ 2 * packet.frameLength + 2 → 2 * packet.frameLength + 2 < n + rounds →
    ∃ m, settle rounds (packet.counted n).identified = .ok (packet.counted m).identified ∧
      m = packet.frameLength + digits m ∧ m ≤ 2 * packet.frameLength + 2 := by
  intro rounds
  induction rounds with
  | zero =>
    intro n _ hn hrounds
    omega
  | succ rounds ih =>
    intro n hle hn hrounds
    rw [settle, canonicalLength_counted, identified_counted]
    by_cases hsize : packet.frameLength + digits n = n
    · refine ⟨n, ?_, hsize.symm, hn⟩
      exact if_pos hsize
    · rw [show (packet.counted n).identified.synthesisConstraints.serializedBytes = n from rfl,
        if_neg hsize]
      have hhalf : digits n ≤ n / 2 + 1 := length_toDigits_le_half n
      have hmono : digits n ≤ digits (packet.frameLength + digits n) := length_toDigits_mono hle
      exact ih _ (Nat.add_le_add_left hmono _) (by omega) (by omega)

/-- More rounds change nothing. -/
theorem settle_mono : ∀ {rounds : Nat} {packet settled : ResearchPacket},
    packet.settle rounds = .ok settled → ∀ more, packet.settle (rounds + more) = .ok settled := by
  intro rounds
  induction rounds with
  | zero =>
    intro packet settled h
    cases h
  | succ rounds ih =>
    intro packet settled h more
    rw [settle] at h
    rw [Nat.succ_add, settle]
    split at h
    · next hsize => rw [if_pos hsize, h]
    · next hsize =>
      rw [if_neg hsize]
      exact ih h more

/-- What the loop returns contains its size. -/
theorem settle_spec : ∀ (rounds n : Nat) {settled : ResearchPacket},
    settle rounds (packet.counted n).identified = .ok settled →
    ∃ m, settled = (packet.counted m).identified ∧ m = packet.frameLength + digits m := by
  intro rounds
  induction rounds with
  | zero =>
    intro n settled h
    cases h
  | succ rounds ih =>
    intro n settled h
    rw [settle, canonicalLength_counted, identified_counted] at h
    split at h
    · next hsize =>
      cases h
      exact ⟨n, rfl, hsize.symm⟩
    · exact ih _ h

end ResearchPacket

/-! ## `_packet` -/

variable {run : RunContext} {evidence : List EvidenceItem} {sections : Sections}
  {maxSerializedBytes : Nat} {omitted : Omitted}

/-- The packet of the given content, with what it says of itself. -/
structure Assembled (run : RunContext) (evidence : List EvidenceItem) (sections : Sections)
    (maxSerializedBytes : Nat) (omitted : Omitted) (packet : ResearchPacket) : Prop where
  run : packet.run = run
  evidence : packet.evidence = evidence
  sections : packet.sections = sections
  limit : packet.synthesisConstraints.maxSerializedBytes = maxSerializedBytes
  truncated : packet.synthesisConstraints.truncated = decide (omitted ≠ [])
  omittedSections : packet.synthesisConstraints.omittedSections = omitted.map Prod.fst
  omittedBytes : FrozenMap.ofDict omitted = some packet.synthesisConstraints.omittedBytes
  measured : packet.synthesisConstraints.serializedBytes = packet.canonicalLength
  identity : packet.canonicalSha256 = packet.digest ∧ packet.packetId = "packet-" ++ packet.digest

theorem assemble_spec {packet : ResearchPacket}
    (h : assemble run evidence sections maxSerializedBytes omitted = .ok packet) :
    Assembled run evidence sections maxSerializedBytes omitted packet := by
  unfold assemble at h
  split at h
  · cases h
  · next omittedBytes hbytes =>
    obtain ⟨m, rfl, hm⟩ := ResearchPacket.settle_spec
      (provisional run evidence sections maxSerializedBytes omitted omittedBytes) _ 1 h
    exact ⟨rfl, rfl, rfl, rfl, rfl, rfl, hbytes,
      hm.trans (ResearchPacket.canonicalLength_counted _ m).symm, rfl, rfl⟩

/-- `_packet` returns, and its byte count is its frame and the digits of the count. -/
theorem assemble_total {omittedBytes : FrozenMap Nat}
    (hbytes : FrozenMap.ofDict omitted = some omittedBytes) :
    ∃ packet, assemble run evidence sections maxSerializedBytes omitted = .ok packet ∧
      packet.synthesisConstraints.serializedBytes
        = (provisional run evidence sections maxSerializedBytes omitted omittedBytes).frameLength
          + ResearchPacket.digits packet.synthesisConstraints.serializedBytes := by
  have hlength := (provisional run evidence sections maxSerializedBytes omitted
    omittedBytes).canonicalLength_counted 1
  have hone : ResearchPacket.digits 1 = 1 := rfl
  obtain ⟨m, hsettle, hm, -⟩ := ResearchPacket.settle_of_rounds
    (provisional run evidence sections maxSerializedBytes omitted omittedBytes)
    (2 * ((provisional run evidence sections maxSerializedBytes omitted
      omittedBytes).counted 1).identified.canonicalLength + 3) 1 (by omega) (by omega) (by omega)
  refine ⟨((provisional run evidence sections maxSerializedBytes omitted
    omittedBytes).counted m).identified, ?_, hm⟩
  unfold assemble
  rw [hbytes]
  exact hsettle

/-- What `_verify_identity_and_size` asks of the identity and the byte count. -/
structure ResearchPacket.SelfConsistent (packet : ResearchPacket) : Prop where
  sha256 : packet.canonicalSha256 = packet.digest
  packetId : packet.packetId = "packet-" ++ packet.digest
  measured : packet.synthesisConstraints.serializedBytes = packet.canonicalLength

/-- The loop ends for every content, with a packet that contains its own digest and size;
more rounds than it takes do not change it. -/
theorem assemble_selfConsistent (run : RunContext) (evidence : List EvidenceItem)
    (sections : Sections) (maxSerializedBytes : Nat) (omitted : Omitted)
    (omittedBytes : FrozenMap Nat) (h : FrozenMap.ofDict omitted = some omittedBytes) :
    ∃ packet rounds, assemble run evidence sections maxSerializedBytes omitted = .ok packet ∧
      (∀ more, (provisional run evidence sections maxSerializedBytes omitted
        omittedBytes).identified.settle (rounds + more) = .ok packet) ∧ packet.SelfConsistent := by
  obtain ⟨packet, hpacket, -⟩ := @assemble_total run evidence sections maxSerializedBytes _ _ h
  have hspec := assemble_spec hpacket
  have hsettle := hpacket
  unfold assemble at hsettle
  rw [h] at hsettle
  exact ⟨packet, _, hpacket, ResearchPacket.settle_mono hsettle, hspec.identity.1,
    hspec.identity.2, hspec.measured⟩

theorem assemble_selfConsistent_sample : ∃ packet rounds,
    assemble Plans.sampleRun [] Sections.empty 1000 [("duplicate_discovery_excerpts", 5)]
        = .ok packet ∧
      (∀ more, (provisional Plans.sampleRun [] Sections.empty 1000
        [("duplicate_discovery_excerpts", 5)]
        ⟨[("duplicate_discovery_excerpts", 5)], by decide, by decide⟩).identified.settle
          (rounds + more) = .ok packet) ∧ packet.SelfConsistent :=
  assemble_selfConsistent Plans.sampleRun [] Sections.empty 1000
    [("duplicate_discovery_excerpts", 5)] ⟨[("duplicate_discovery_excerpts", 5)], by decide,
      by decide⟩ rfl

end FinanceResearch.Packets
