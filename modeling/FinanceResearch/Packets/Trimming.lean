import FinanceResearch.Packets.Settled

/-!
# What the rounds do to the evidence

Place by place: the first round removes the excerpts that an earlier item has too, the
second all that may be removed, the third replaces the labels.
-/

namespace FinanceResearch.Packets

open Fallible (bind_eq_ok)

/-! ## The first round -/

theorem dropRepeated_length : ∀ (items : List EvidenceItem) (seen : List String)
    (removed : Option Nat), (dropRepeated seen removed items).2.length = items.length := by
  intro items
  induction items with
  | nil => exact fun _ _ => rfl
  | cons item rest ih =>
    intro seen removed
    rw [dropRepeated]
    split
    · exact congrArg Nat.succ (ih _ _)
    · exact congrArg Nat.succ (ih _ _)

/-- The item is removed from after these. -/
def Repeats (before : List EvidenceItem) (item : EvidenceItem) : Prop :=
  IsDiscovery item ∧ excerptOf item ∈ before.map excerptOf

instance (before : List EvidenceItem) (item : EvidenceItem) : Decidable (Repeats before item) :=
  inferInstanceAs (Decidable (_ ∧ _))

/-- The first round at one place, after the items that `seen` is of. -/
theorem dropRepeated_getElem? {item : EvidenceItem} {after : List EvidenceItem} :
    ∀ (before earlier : List EvidenceItem) (seen : List String) (removed : Option Nat),
      (∀ text ≠ "", text ∈ seen ↔ text ∈ earlier.map excerptOf) →
      (dropRepeated seen removed (before ++ item :: after)).2[before.length]?
        = some (if Repeats (earlier ++ before) item then withoutExcerpt item else item) := by
  intro before
  induction before with
  | nil =>
    intro earlier seen removed hseen
    have hiff : (IsDiscovery item ∧ excerptOf item ∈ seen) ↔ Repeats (earlier ++ []) item := by
      rw [List.append_nil]
      exact and_congr_right fun h => hseen _ h.2
    rw [List.nil_append, dropRepeated]
    by_cases hdrop : IsDiscovery item ∧ excerptOf item ∈ seen
    · rw [if_pos hdrop, if_pos (hiff.mp hdrop)]
      rfl
    · rw [if_neg hdrop, if_neg (fun h => hdrop (hiff.mpr h))]
      rfl
  | cons first before ih =>
    intro earlier seen removed hseen
    rw [List.cons_append, dropRepeated, List.append_cons earlier first before]
    by_cases hdrop : IsDiscovery first ∧ excerptOf first ∈ seen
    · rw [if_pos hdrop]
      refine ih (earlier ++ [first]) seen _ ?_
      intro text htext
      rw [hseen text htext]
      simp only [List.map_append, List.map_cons, List.map_nil, List.mem_append, List.mem_singleton]
      constructor
      · exact Or.inl
      · intro h
        rcases h with h | h
        · exact h
        · rw [h]
          exact (hseen _ hdrop.1.2).mp hdrop.2
    · rw [if_neg hdrop]
      refine ih (earlier ++ [first]) _ _ ?_
      intro text htext
      simp only [List.map_append, List.map_cons, List.map_nil, List.mem_append, List.mem_singleton]
      by_cases hfirst : excerptOf first ≠ ""
      · rw [if_pos hfirst, List.mem_cons, hseen text htext]
        exact or_comm
      · rw [if_neg hfirst, hseen text htext]
        constructor
        · exact Or.inl
        · intro h
          rcases h with h | h
          · exact h
          · exact absurd (h.trans (not_not.mp hfirst)) htext

theorem utf8Length_pos {text : String} (h : text ≠ "") : 0 < utf8Length text := by
  refine Nat.pos_of_ne_zero fun hzero => h ?_
  have hempty : encode text = encode "" := ByteArray.size_eq_zero_iff.mp hzero
  exact encode_injective hempty

/-- Removed bytes are counted. -/
theorem dropRepeated_pos : ∀ (items : List EvidenceItem) (seen : List String)
    (removed : Option Nat), (∀ bytes ∈ removed, 0 < bytes) →
    ∀ bytes ∈ (dropRepeated seen removed items).1, 0 < bytes := by
  intro items
  induction items with
  | nil => exact fun _ _ h => h
  | cons item rest ih =>
    intro seen removed h
    rw [dropRepeated]
    split
    · next hdrop =>
      refine ih _ _ fun bytes hbytes => ?_
      cases hbytes
      exact Nat.add_pos_right _ (utf8Length_pos hdrop.1.2)
    · exact ih _ _ h

/-- Where nothing is counted, nothing is removed. -/
theorem dropRepeated_none : ∀ (items : List EvidenceItem) (seen : List String)
    (removed : Option Nat), (dropRepeated seen removed items).1 = none →
    removed = none ∧ (dropRepeated seen removed items).2 = items := by
  intro items
  induction items with
  | nil => exact fun _ _ h => ⟨h, rfl⟩
  | cons item rest ih =>
    intro seen removed
    rw [dropRepeated]
    split
    · intro h
      exact absurd (ih _ _ h).1 (Option.some_ne_none _)
    · intro h
      obtain ⟨hnone, hrest⟩ := ih _ _ h
      exact ⟨hnone, congrArg (item :: ·) hrest⟩

/-! ## The second round -/

/-- Where no bytes are counted, no excerpt may be removed. -/
theorem strippedBytes_eq_zero {evidence : List EvidenceItem} :
    strippedBytes evidence = 0 ↔ ∀ item ∈ evidence, ¬ IsDiscovery item := by
  unfold strippedBytes
  rw [List.sum_eq_zero_iff_forall_eq_nat]
  constructor
  · intro h item hitem hdiscovery
    have hzero := h _ (List.mem_map.mpr ⟨item, hitem, rfl⟩)
    rw [if_pos hdiscovery] at hzero
    exact absurd hzero (utf8Length_pos hdiscovery.2).ne'
  · intro h n hn
    obtain ⟨item, hitem, rfl⟩ := List.mem_map.mp hn
    exact if_neg (h item hitem)

/-! ## The third round -/

/-- The label has more bytes than the ID of the item. -/
def LongLabel (item : EvidenceItem) : Prop :=
  utf8Length item.evidenceId.text < utf8Length item.citationLabel.val

theorem descriptionBytes_eq_zero {evidence : List EvidenceItem} :
    descriptionBytes evidence = 0 ↔ ∀ item ∈ evidence, ¬ LongLabel item := by
  unfold descriptionBytes LongLabel
  rw [List.sum_eq_zero_iff_forall_eq_nat]
  constructor
  · intro h item hitem
    have hzero := h _ (List.mem_map.mpr ⟨item, hitem, rfl⟩)
    omega
  · intro h n hn
    obtain ⟨item, hitem, rfl⟩ := List.mem_map.mp hn
    have hlong := h item hitem
    omega

end FinanceResearch.Packets
