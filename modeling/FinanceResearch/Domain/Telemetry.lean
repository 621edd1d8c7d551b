import Mathlib.Algebra.Ring.Nat
import FinanceResearch.Domain.Models

/-!
# Performance telemetry

`PerformanceTelemetry` of `domain/models.py` and the recorder of
`application/performance_telemetry.py`. A checkpoint is bound to a snapshot by the hash
in the snapshot's artifact name; a later call starts from the counters of the last one.

Mirroring notes vs the source:
- The recorder's dictionaries always have the two providers and the six stages as keys,
  so they are functions.
- `cache_hit_ratio` is the text Python prints for the float.
- A measured duration is the milliseconds between two calls of the clock.
-/

namespace FinanceResearch

/-! ## `FrozenMap` of a dictionary -/

namespace FrozenMap

variable {β : Type}

/-- `items[name] = value`, in key order. -/
def setItem : List (String × β) → String → β → List (String × β)
  | [], name, value => [(name, value)]
  | (key, old) :: rest, name, value =>
    if name = key then (name, value) :: rest
    else if name < key then (name, value) :: (key, old) :: rest
    else (key, old) :: setItem rest name value

theorem mem_setItem_keys {items : List (String × β)} {name key : String} {value : β} :
    key ∈ (setItem items name value).map Prod.fst ↔ key = name ∨ key ∈ items.map Prod.fst := by
  induction items with
  | nil => simp [setItem]
  | cons item rest ih =>
    obtain ⟨k, v⟩ := item
    unfold setItem
    by_cases hk : name = k
    · rw [if_pos hk, List.map_cons, List.map_cons, List.mem_cons, List.mem_cons, ← hk]
      tauto
    · rw [if_neg hk]
      by_cases hlt : name < k
      · rw [if_pos hlt, List.map_cons, List.mem_cons]
      · rw [if_neg hlt, List.map_cons, List.mem_cons, ih, List.map_cons, List.mem_cons]
        tauto

theorem setItem_sorted {name : String} {value : β} : ∀ {items : List (String × β)},
    (items.map Prod.fst).Pairwise (· < ·) →
    ((setItem items name value).map Prod.fst).Pairwise (· < ·) := by
  intro items
  induction items with
  | nil => intro _; exact List.pairwise_singleton _ _
  | cons item rest ih =>
    intro h
    obtain ⟨k, v⟩ := item
    rw [List.map_cons, List.pairwise_cons] at h
    unfold setItem
    by_cases hk : name = k
    · rw [if_pos hk, List.map_cons, List.pairwise_cons, hk]
      exact h
    · rw [if_neg hk]
      by_cases hlt : name < k
      · rw [if_pos hlt, List.map_cons, List.map_cons, List.pairwise_cons, List.pairwise_cons]
        refine ⟨?_, h⟩
        intro key hkey
        rcases List.mem_cons.mp hkey with hfirst | hrest
        · rw [hfirst]
          exact hlt
        · exact lt_trans hlt (h.1 key hrest)
      · rw [if_neg hlt, List.map_cons, List.pairwise_cons]
        refine ⟨?_, ih h.2⟩
        intro key hkey
        rcases mem_setItem_keys.mp hkey with hname | hrest
        · rw [hname]
          exact lt_of_le_of_ne (not_lt.mp hlt) (Ne.symm hk)
        · exact h.1 key hrest

theorem lookup_setItem {items : List (String × β)} {name key : String} {value : β} :
    (setItem items name value).lookup key =
      if key = name then some value else items.lookup key := by
  induction items with
  | nil =>
    rw [setItem, List.lookup_cons, List.lookup_nil]
    by_cases hkey : key = name
    · rw [if_pos hkey, hkey, beq_self_eq_true]
    · rw [if_neg hkey, beq_false_of_ne hkey]
  | cons item rest ih =>
    obtain ⟨k, v⟩ := item
    unfold setItem
    by_cases hk : name = k
    · rw [if_pos hk, List.lookup_cons, List.lookup_cons, ← hk]
      by_cases hkey : key = name
      · rw [if_pos hkey, hkey, beq_self_eq_true]
      · rw [if_neg hkey, beq_false_of_ne hkey]
    · rw [if_neg hk]
      by_cases hlt : name < k
      · rw [if_pos hlt, List.lookup_cons]
        by_cases hkey : key = name
        · rw [if_pos hkey, hkey, beq_self_eq_true]
        · rw [if_neg hkey, beq_false_of_ne hkey]
      · rw [if_neg hlt, List.lookup_cons, List.lookup_cons, ih]
        by_cases hkey : key = k
        · have hne : key ≠ name := fun he => hk (he.symm.trans hkey)
          rw [if_neg hne, if_neg hne, hkey, beq_self_eq_true]
        · rw [beq_false_of_ne hkey]

theorem length_setItem_le {name : String} {value : β} : ∀ (items : List (String × β)),
    (setItem items name value).length ≤ items.length + 1
  | [] => Nat.le_refl _
  | (k, v) :: rest => by
    have ih := @length_setItem_le name value rest
    unfold setItem
    split
    · simp
    · split
      · simp
      · simpa using ih

/-- `FrozenMap({**mapping, name: value})`; `none` is the refusal of more than 128 entries. -/
def set (m : FrozenMap β) (name : String) (value : β) : Option (FrozenMap β) :=
  if h : (setItem m.items name value).length ≤ 128 then
    some ⟨setItem m.items name value, setItem_sorted m.sorted, h⟩
  else none

theorem get?_set {m m' : FrozenMap β} {name key : String} {value : β}
    (h : m.set name value = some m') :
    m'.get? key = if key = name then some value else m.get? key := by
  unfold set at h
  split at h
  · cases h
    exact lookup_setItem
  · cases h

theorem mem_names_set {m m' : FrozenMap β} {name key : String} {value : β}
    (h : m.set name value = some m') : key ∈ m'.names ↔ key = name ∨ key ∈ m.names := by
  unfold set at h
  split at h
  · cases h
    exact mem_setItem_keys
  · cases h

theorem set_of_length {m : FrozenMap β} {name : String} {value : β} (h : m.items.length < 128) :
    ∃ m', m.set name value = some m' ∧ m'.items.length ≤ m.items.length + 1 := by
  have hle : (setItem m.items name value).length ≤ m.items.length + 1 :=
    length_setItem_le m.items
  refine ⟨⟨setItem m.items name value, setItem_sorted m.sorted, by omega⟩, ?_, hle⟩
  rw [set, dif_pos]

/-- `FrozenMap(dict)`, of the dictionary these assignments make. -/
def ofDict (pairs : List (String × β)) : Option (FrozenMap β) :=
  pairs.foldl (fun m pair => m.bind fun m => m.set pair.1 pair.2) (some empty)

theorem foldl_set_none (pairs : List (String × β)) :
    pairs.foldl (fun m pair => m.bind fun m => m.set pair.1 pair.2)
      (none : Option (FrozenMap β)) = none := by
  induction pairs with
  | nil => rfl
  | cons pair pairs ih => exact ih

theorem get?_foldl_set : ∀ {pairs : List (String × β)} {m m' : FrozenMap β},
    pairs.foldl (fun m pair => m.bind fun m => m.set pair.1 pair.2) (some m) = some m' →
    (pairs.map Prod.fst).Nodup → ∀ key, m'.get? key = (pairs.lookup key).or (m.get? key) := by
  intro pairs
  induction pairs with
  | nil =>
    intro m m' h _ key
    cases h
    rfl
  | cons pair pairs ih =>
    intro m m' h hnodup key
    obtain ⟨name, value⟩ := pair
    rw [List.foldl_cons, Option.bind_some] at h
    rw [List.map_cons, List.nodup_cons] at hnodup
    cases hset : m.set name value with
    | none =>
      rw [hset, foldl_set_none] at h
      cases h
    | some m₁ =>
      rw [hset] at h
      rw [ih h hnodup.2 key, get?_set hset, List.lookup_cons]
      by_cases hkey : key = name
      · rw [if_pos hkey, hkey, beq_self_eq_true]
        have hlater : pairs.lookup name = none := by
          rw [List.lookup_eq_none_iff]
          intro p hp
          rw [bne_iff_ne]
          intro he
          exact hnodup.1 (List.mem_map.mpr ⟨p, hp, he.symm⟩)
        rw [hlater]
        rfl
      · rw [if_neg hkey, beq_false_of_ne hkey]

/-- A dictionary with no key twice has the values it was given. -/
theorem get?_ofDict {pairs : List (String × β)} {m : FrozenMap β} (h : ofDict pairs = some m)
    (hnodup : (pairs.map Prod.fst).Nodup) (key : String) : m.get? key = pairs.lookup key := by
  rw [get?_foldl_set h hnodup key, get?_empty, Option.or_none]

theorem mem_names_ofDict {pairs : List (String × β)} {m : FrozenMap β}
    (h : ofDict pairs = some m) (hnodup : (pairs.map Prod.fst).Nodup) (name : String) :
    name ∈ m.names ↔ name ∈ pairs.map Prod.fst := by
  have hget : (m.get? name).isSome ↔ (pairs.lookup name).isSome := by
    rw [get?_ofDict h hnodup]
  rw [List.lookup_isSome_iff] at hget
  rw [mem_names_iff, List.mem_map]
  constructor
  · intro hvalue
    obtain ⟨value, hvalue⟩ := hvalue
    obtain ⟨p, hp, hname⟩ := hget.mp (by rw [(get?_eq_some m).mpr hvalue]; rfl)
    exact ⟨p, hp, (beq_iff_eq.mp hname).symm⟩
  · intro hp
    obtain ⟨p, hp, hname⟩ := hp
    obtain ⟨value, hvalue⟩ := Option.isSome_iff_exists.mp
      (hget.mpr ⟨p, hp, beq_iff_eq.mpr hname.symm⟩)
    exact ⟨value, (get?_eq_some m).mp hvalue⟩

/-- An entry of such a dictionary. -/
theorem get?_ofDict_of_mem {pairs : List (String × β)} {m : FrozenMap β} {key : String} {value : β}
    (h : ofDict pairs = some m) (hnodup : (pairs.map Prod.fst).Nodup)
    (hmem : (key, value) ∈ pairs) : m.get? key = some value := by
  rw [get?_ofDict h hnodup]
  clear h
  induction pairs with
  | nil => cases hmem
  | cons pair rest ih =>
    rw [List.map_cons, List.nodup_cons] at hnodup
    rcases List.mem_cons.mp hmem with hmem | hmem
    · rw [← hmem, List.lookup_cons, beq_self_eq_true]
    · have hne : key ≠ pair.1 := by
        intro heq
        exact hnodup.1 (List.mem_map.mpr ⟨_, hmem, heq⟩)
      rw [List.lookup_cons, beq_false_of_ne hne]
      exact ih hnodup.2 hmem

/-- The entries whose name is not removed. -/
def without (m : FrozenMap β) (removed : String → Bool) : FrozenMap β where
  items := m.items.filter fun item => !removed item.1
  sorted := m.sorted.sublist (List.filter_sublist.map Prod.fst)
  bounded := le_trans (List.length_filter_le _ _) m.bounded

theorem mem_names_without {m : FrozenMap β} {removed : String → Bool} {name : String} :
    name ∈ (m.without removed).names ↔ name ∈ m.names ∧ removed name = false := by
  simp only [mem_names_iff, without, List.mem_filter, Bool.not_eq_true']
  tauto

theorem get?_without {m : FrozenMap β} {removed : String → Bool} {name : String}
    (h : removed name = false) : (m.without removed).get? name = m.get? name := by
  refine Option.ext fun value => ?_
  rw [get?_eq_some, get?_eq_some, without, List.mem_filter]
  simp [h]

end FrozenMap

/-! ## Snapshots -/

/-- `_PROVIDERS`. -/
inductive TelemetryProvider where
  | alpaca | marketCalendar
  deriving DecidableEq, Repr

def TelemetryProvider.name : TelemetryProvider → String
  | .alpaca => "alpaca"
  | .marketCalendar => "market-calendar"

/-- `_STAGES`. -/
inductive TelemetryStage where
  | runPreparation | marketCollection | qualityEvaluation | packetAssembly | validation
  | publication
  deriving DecidableEq, Repr

def TelemetryStage.name : TelemetryStage → String
  | .runPreparation => "RUN_PREPARATION"
  | .marketCollection => "MARKET_COLLECTION"
  | .qualityEvaluation => "QUALITY_EVALUATION"
  | .packetAssembly => "PACKET_ASSEMBLY"
  | .validation => "VALIDATION"
  | .publication => "PUBLICATION"

/-- The stages in the order of their names. -/
def TelemetryStage.inNameOrder : List TelemetryStage :=
  [.marketCollection, .packetAssembly, .publication, .qualityEvaluation, .runPreparation,
   .validation]

structure PerformanceTelemetry where
  providerRequestCounts : FrozenMap Nat
  responseBytesByProvider : FrozenMap Nat
  responseBytesTotal : Nat
  stageDurationsMs : FrozenMap Nat
  synthesisAttempts : Nat
  validationAttempts : Nat
  researchPacketBytes : Nat
  cacheHits : Nat
  cacheMisses : Nat
  cacheHitRatio : String
  deadlineBudgetMs : Nat
  deadlineConsumedMs : Nat
  remainingBudgetMs : Nat
  attemptsBounded : synthesisAttempts ≤ 3 ∧ validationAttempts ≤ 3
  /-- `_consistent_counters`, without the ratio. -/
  consistent : providerRequestCounts.names = responseBytesByProvider.names ∧
    responseBytesTotal = (responseBytesByProvider.items.map Prod.snd).sum ∧
    0 < deadlineBudgetMs ∧ remainingBudgetMs = deadlineBudgetMs - deadlineConsumedMs

def countJson (count : Nat) : Json := .int count

def PerformanceTelemetry.toJson (t : PerformanceTelemetry) : Json :=
  .obj [("schema_version", .str "0.1"),
    ("provider_request_counts", t.providerRequestCounts.toJson countJson),
    ("response_bytes_by_provider", t.responseBytesByProvider.toJson countJson),
    ("response_bytes_total", countJson t.responseBytesTotal),
    ("stage_durations_ms", t.stageDurationsMs.toJson countJson),
    ("synthesis_attempts", countJson t.synthesisAttempts),
    ("validation_attempts", countJson t.validationAttempts),
    ("research_packet_bytes", countJson t.researchPacketBytes),
    ("cache_hits", countJson t.cacheHits),
    ("cache_misses", countJson t.cacheMisses),
    ("cache_hit_ratio", .float t.cacheHitRatio),
    ("deadline_budget_ms", countJson t.deadlineBudgetMs),
    ("deadline_consumed_ms", countJson t.deadlineConsumedMs),
    ("remaining_budget_ms", countJson t.remainingBudgetMs)]

/-- `_canonical_bytes`. -/
@[irreducible] def PerformanceTelemetry.bytes (t : PerformanceTelemetry) : Bytes :=
  encode t.toJson.dumps

/-- `_ARTIFACT_PREFIX` and the digest. -/
def telemetryName (digest : String) : String := "performance_telemetry_" ++ digest

/-! ## The recorder -/

structure RunTelemetryRecorder where
  providerAttempts : TelemetryProvider → Nat
  responseBytes : TelemetryProvider → Nat
  stageDurations : TelemetryStage → Nat

namespace RunTelemetryRecorder

/-- `RunTelemetryRecorder()`. -/
def fresh : RunTelemetryRecorder := ⟨fun _ => 0, fun _ => 0, fun _ => 0⟩

theorem providers_ascending :
    [TelemetryProvider.alpaca.name, TelemetryProvider.marketCalendar.name].Pairwise (· < ·) := by
  decide

theorem stages_ascending :
    (TelemetryStage.inNameOrder.map TelemetryStage.name).Pairwise (· < ·) := by decide

/-- A counter of each provider as a `FrozenMap`. -/
def ofProviders (count : TelemetryProvider → Nat) : FrozenMap Nat where
  items := [(TelemetryProvider.alpaca.name, count .alpaca),
    (TelemetryProvider.marketCalendar.name, count .marketCalendar)]
  sorted := providers_ascending
  bounded := Nat.le_of_ble_eq_true rfl

/-- A counter of each stage as a `FrozenMap`. -/
def ofStages (count : TelemetryStage → Nat) : FrozenMap Nat where
  items := TelemetryStage.inNameOrder.map fun stage => (stage.name, count stage)
  sorted := by
    rw [List.map_map]
    exact stages_ascending
  bounded := Nat.le_of_ble_eq_true rfl

/-- The check of the measurement keys in `restore` and in the constructor. -/
def Supported (t : PerformanceTelemetry) : Prop :=
  t.providerRequestCounts.names =
    [TelemetryProvider.alpaca.name, TelemetryProvider.marketCalendar.name] ∧
  t.responseBytesByProvider.names =
    [TelemetryProvider.alpaca.name, TelemetryProvider.marketCalendar.name] ∧
  ∀ name ∈ t.stageDurationsMs.names, name ∈ TelemetryStage.inNameOrder.map TelemetryStage.name

instance instDecidableSupported (t : PerformanceTelemetry) : Decidable (Supported t) :=
  inferInstanceAs (Decidable (_ ∧ _ ∧ _))

/-- The counters of a snapshot. -/
def restored (t : PerformanceTelemetry) : RunTelemetryRecorder where
  providerAttempts provider := (t.providerRequestCounts.get? provider.name).getD 0
  responseBytes provider := (t.responseBytesByProvider.get? provider.name).getD 0
  stageDurations stage := (t.stageDurationsMs.get? stage.name).getD 0

/-- `measure_stage` around a block that took `elapsedMs`. -/
def measure (recorder : RunTelemetryRecorder) (stage : TelemetryStage) (elapsedMs : Nat) :
    RunTelemetryRecorder :=
  { recorder with
    stageDurations := Function.update recorder.stageDurations stage
      (recorder.stageDurations stage + elapsedMs) }

/-- `_DURATION_TARGET_MS`. -/
def durationTargetMs : Nat := 900000

/-- `sum(self._stage_durations.values())`. -/
def consumed (recorder : RunTelemetryRecorder) : Nat :=
  ((ofStages recorder.stageDurations).items.map Prod.snd).sum

/-- `snapshot`; `none` is the refusal of the number of attempts. -/
def snapshot (recorder : RunTelemetryRecorder) (researchPacketBytes validationAttempts : Nat) :
    Option PerformanceTelemetry :=
  if h : validationAttempts ≤ 3 then
    some {
      providerRequestCounts := ofProviders recorder.providerAttempts
      responseBytesByProvider := ofProviders recorder.responseBytes
      responseBytesTotal := ((ofProviders recorder.responseBytes).items.map Prod.snd).sum
      stageDurationsMs := ofStages recorder.stageDurations
      synthesisAttempts := 0
      validationAttempts := validationAttempts
      researchPacketBytes := researchPacketBytes
      cacheHits := 0
      cacheMisses := 0
      cacheHitRatio := "0.0"
      deadlineBudgetMs := durationTargetMs
      deadlineConsumedMs := recorder.consumed
      remainingBudgetMs := durationTargetMs - recorder.consumed
      attemptsBounded := ⟨Nat.zero_le _, h⟩
      consistent := ⟨rfl, rfl, Nat.succ_pos _, rfl⟩ }
  else none

/-- Every snapshot can be restored. -/
theorem supported_snapshot {recorder : RunTelemetryRecorder} {packetBytes attempts : Nat}
    {t : PerformanceTelemetry} (h : recorder.snapshot packetBytes attempts = some t) :
    Supported t := by
  unfold snapshot at h
  split at h
  · cases h
    exact ⟨rfl, rfl, fun name hname => hname⟩
  · cases h

end RunTelemetryRecorder

end FinanceResearch
