import FinanceResearch.Config.WatchlistStore
import FinanceResearch.Lib.JsonSize

/-!
# Watchlist items survive storage

A configuration is read back from what is written of it exactly when no item expires: a date is
written as a text, and a text is no date. So a change of the watchlist succeeds exactly when none
of the items it keeps expires and the next version can be written, and then it is read back as it
is (`applyChange_spec`, `applyChange_total`).
-/

namespace FinanceResearch.Config

open Calendar (Date)

variable {runtime : Runtime}

/-! ## One item -/

theorem lookup_reloadedFields (fields : List (String × Json)) (name : String) :
    (YamlValue.reloadedFields fields).lookup name = (fields.lookup name).map YamlValue.reloaded := by
  induction fields with
  | nil => rfl
  | cons field rest ih =>
    obtain ⟨key, value⟩ := field
    rw [YamlValue.reloadedFields, List.lookup_cons, List.lookup_cons, ih]
    cases name == key <;> rfl

theorem withoutDate_reloaded (fields : List (String × Json)) :
    withoutDate (YamlValue.reloadedFields fields) = YamlValue.reloadedFields
      (fields.map fun field => if field.1 = "expires_on" then (field.1, .null) else field) := by
  induction fields with
  | nil => rfl
  | cons field rest ih =>
    obtain ⟨key, value⟩ := field
    rw [List.map_cons, YamlValue.reloadedFields]
    unfold withoutDate at ih ⊢
    rw [List.map_cons, ih]
    by_cases hkey : key = "expires_on"
    · rw [if_pos hkey, if_pos hkey]
      rfl
    · rw [if_neg hkey, if_neg hkey]
      rfl

theorem lookup_expiresOn (item : WatchlistItem) :
    item.toFields.lookup "expires_on" = some (Codec.date.writeOptional item.expiresOn) := by
  unfold WatchlistItem.toFields
  rfl

/-- An item that does not expire is read back. -/
theorem readItem_reloaded {item : WatchlistItem} (h : item.Legal runtime.characters runtime.urls)
    (hexpires : item.expiresOn = none) :
    readItem runtime (YamlValue.reloaded item.toJson) = some item := by
  have hfields : withoutDate (YamlValue.reloadedFields item.toFields) =
      YamlValue.reloadedFields item.toFields := by
    rw [withoutDate_reloaded]
    congr 1
    simp [WatchlistItem.toFields, hexpires, Codec.writeOptional]
  have hdate : readExpiresOn (YamlValue.reloadedFields item.toFields) = some none := by
    unfold readExpiresOn
    rw [lookup_reloadedFields, lookup_expiresOn, hexpires]
    rfl
  show (YamlValue.plainFields (withoutDate (YamlValue.reloadedFields item.toFields))).bind _ = _
  rw [hfields, YamlValue.plainFields_reloaded, Option.bind_some]
  show (WatchlistItem.read runtime item.toJson).bind _ = _
  rw [WatchlistItem.read_toJson h hexpires, Option.bind_some]
  show (readExpiresOn (YamlValue.reloadedFields item.toFields)).bind _ = _
  rw [hdate, Option.bind_some, ← hexpires]
  rfl

/-- An item that expires is not: its date was written as a text. -/
theorem readItem_expires {item : WatchlistItem} {expiry : Date} (hexpires : item.expiresOn = some expiry) :
    readItem runtime (YamlValue.reloaded item.toJson) = none := by
  have hdate : readExpiresOn (YamlValue.reloadedFields item.toFields) = none := by
    unfold readExpiresOn
    rw [lookup_reloadedFields, lookup_expiresOn, hexpires]
    rfl
  rw [Option.eq_none_iff_forall_ne_some]
  intro read hread
  obtain ⟨values, -, hread⟩ := Option.bind_eq_some_iff.mp hread
  obtain ⟨found, -, hread⟩ := Option.bind_eq_some_iff.mp hread
  obtain ⟨date, hsome, -⟩ := Option.bind_eq_some_iff.mp hread
  rw [hdate] at hsome
  cases hsome

/-- What is read passed the validators. -/
theorem legal_of_read {item : WatchlistItem} {value : Json}
    (h : WatchlistItem.read runtime value = some item) :
    item.Legal runtime.characters runtime.urls := by
  unfold WatchlistItem.read at h
  -- Twelve steps are taken before the item is built.
  obtain ⟨_, -, h⟩ := Option.bind_eq_some_iff.mp h
  obtain ⟨_, -, h⟩ := Option.bind_eq_some_iff.mp h
  obtain ⟨_, -, h⟩ := Option.bind_eq_some_iff.mp h
  obtain ⟨_, -, h⟩ := Option.bind_eq_some_iff.mp h
  obtain ⟨_, -, h⟩ := Option.bind_eq_some_iff.mp h
  obtain ⟨_, -, h⟩ := Option.bind_eq_some_iff.mp h
  obtain ⟨_, -, h⟩ := Option.bind_eq_some_iff.mp h
  obtain ⟨_, -, h⟩ := Option.bind_eq_some_iff.mp h
  obtain ⟨_, -, h⟩ := Option.bind_eq_some_iff.mp h
  obtain ⟨_, -, h⟩ := Option.bind_eq_some_iff.mp h
  obtain ⟨_, -, h⟩ := Option.bind_eq_some_iff.mp h
  obtain ⟨_, -, h⟩ := Option.bind_eq_some_iff.mp h
  dsimp only at h
  split at h
  · cases h
    assumption
  · cases h

theorem legal_of_readItem {value : YamlValue} {item : WatchlistItem}
    (h : readItem runtime value = some item) : item.Legal runtime.characters runtime.urls := by
  cases value with
  | map fields =>
    obtain ⟨values, -, h⟩ := Option.bind_eq_some_iff.mp h
    obtain ⟨found, hfound, h⟩ := Option.bind_eq_some_iff.mp h
    obtain ⟨date, -, h⟩ := Option.bind_eq_some_iff.mp h
    have hlegal := legal_of_read hfound
    rw [← Option.some.inj h]
    exact ⟨hlegal.rationale, hlegal.noted, hlegal.tagged, hlegal.bounded, hlegal.sourced⟩
  | _ => cases h

/-! ## A watchlist -/

theorem lookup_items (watchlist : WatchlistConfig) :
    watchlist.toFields.lookup "items" = some (.arr (watchlist.items.map WatchlistItem.toJson)) := rfl

theorem lookup_version (watchlist : WatchlistConfig) :
    watchlist.toFields.lookup "version" = some (.str watchlist.version) := rfl

theorem readStoredItems_reloaded (watchlist : WatchlistConfig) :
    readStoredItems runtime (YamlValue.reloadedFields watchlist.toFields) =
      watchlist.items.mapM fun item => readItem runtime (YamlValue.reloaded item.toJson) := by
  have hitems : ∀ items : List WatchlistItem,
      (YamlValue.reloadedItems (items.map WatchlistItem.toJson)).mapM (readItem runtime) =
        items.mapM fun item => readItem runtime (YamlValue.reloaded item.toJson) := by
    intro items
    induction items with
    | nil => rfl
    | cons item rest ih =>
      rw [List.map_cons, YamlValue.reloadedItems, List.mapM_cons, List.mapM_cons, ih]
  unfold readStoredItems
  rw [lookup_reloadedFields, lookup_items]
  exact hitems watchlist.items

theorem fields_allowed (watchlist : WatchlistConfig) :
    ((YamlValue.reloadedFields watchlist.toFields).all fun field =>
      field.1 ∈ WatchlistConfig.fieldNames) = true := rfl

/-- A watchlist none of whose items expires is read back. -/
theorem readWatchlist_reloaded {watchlist : WatchlistConfig} (h : watchlist.AllLegal runtime)
    (hexpires : ∀ item ∈ watchlist.items, item.expiresOn = none) :
    readWatchlist runtime (YamlValue.reloaded watchlist.toJson) = some watchlist := by
  have hitems : ∀ items : List WatchlistItem,
      (∀ item ∈ items, item.Legal runtime.characters runtime.urls ∧ item.expiresOn = none) →
      (items.mapM fun item => readItem runtime (YamlValue.reloaded item.toJson)) = some items := by
    intro items hall
    induction items with
    | nil => rfl
    | cons item rest ih =>
      rw [List.forall_mem_cons] at hall
      rw [List.mapM_cons, readItem_reloaded hall.1.1 hall.1.2, ih hall.2]
      rfl
  have hread := hitems watchlist.items fun item hitem => ⟨h.2 item hitem, hexpires item hitem⟩
  show (readStoredItems runtime (YamlValue.reloadedFields watchlist.toFields)).bind _ = _
  rw [readStoredItems_reloaded, hread, Option.bind_some]
  have hversion : readVersion (YamlValue.reloadedFields watchlist.toFields) = some watchlist.version := by
    unfold readVersion
    rw [lookup_reloadedFields, lookup_version]
    rfl
  show (readVersion (YamlValue.reloadedFields watchlist.toFields)).bind _ = _
  rw [hversion, Option.bind_some]
  exact if_pos ⟨fields_allowed watchlist, h.1⟩

theorem expiresOn_of_mapM : ∀ {stored items : List WatchlistItem},
    (stored.mapM fun item => readItem runtime (YamlValue.reloaded item.toJson)) = some items →
      ∀ item ∈ stored, item.expiresOn = none := by
  intro stored
  induction stored with
  | nil => exact fun _ item hitem => absurd hitem List.not_mem_nil
  | cons item rest ih =>
    intro items hitems
    rw [List.mapM_cons] at hitems
    obtain ⟨first, hfirst, hrest⟩ := Option.bind_eq_some_iff.mp hitems
    obtain ⟨remaining, hremaining, -⟩ := Option.bind_eq_some_iff.mp hrest
    rw [List.forall_mem_cons]
    refine ⟨?_, ih hremaining⟩
    cases hexpires : item.expiresOn with
    | none => rfl
    | some expiry =>
      rw [readItem_expires hexpires] at hfirst
      cases hfirst

/-- What is read back of a watchlist has no item that expires. -/
theorem expiresOn_of_reloaded {watchlist read : WatchlistConfig}
    (h : readWatchlist runtime (YamlValue.reloaded watchlist.toJson) = some read) :
    ∀ item ∈ watchlist.items, item.expiresOn = none := by
  obtain ⟨items, hitems, -⟩ := Option.bind_eq_some_iff.mp h
  exact expiresOn_of_mapM ((readStoredItems_reloaded watchlist).symm.trans hitems)

/-- A file that is read holds a legal watchlist. -/
theorem allLegal_of_load {file : YamlValue} {watchlist : WatchlistConfig}
    (h : load runtime file = .ok watchlist) : watchlist.AllLegal runtime := by
  unfold load at h
  cases hread : readWatchlist runtime file with
  | none =>
    rw [hread] at h
    cases h
  | some found =>
    rw [hread] at h
    rw [← Except.ok.inj h]
    cases file with
    | map fields =>
      obtain ⟨items, hitems, hread⟩ := Option.bind_eq_some_iff.mp hread
      obtain ⟨version, -, hread⟩ := Option.bind_eq_some_iff.mp hread
      split at hread
      next hlegal =>
        rw [← Option.some.inj hread]
        refine ⟨hlegal.2, ?_⟩
        unfold readStoredItems at hitems
        intro item hitem
        split at hitems
        · rw [← Option.some.inj hitems] at hitem
          cases hitem
        · obtain ⟨value, -, hvalue⟩ := Codec.exists_of_mem_mapM hitems item hitem
          exact legal_of_readItem hvalue
        · cases hitems
      · cases hread
    | _ => cases hread

/-! ## Versions -/

/-- A version is the numeral of its number. -/
theorem toDigits_version {version : String} (h : isVersion version = true) :
    Nat.toDigits 10 (versionNumber version) = version.toList := by
  unfold isVersion at h
  rw [Bool.and_eq_true, List.all_eq_true] at h
  obtain ⟨hfirst, hdigits⟩ := h
  unfold versionNumber
  cases hchars : version.toList with
  | nil =>
    rw [hchars] at hfirst
    cases hfirst
  | cons c rest =>
    rw [hchars] at hfirst hdigits
    rw [List.head?_cons, Option.any_some, Bool.and_eq_true, decide_eq_true_iff] at hfirst
    exact Numerals.toDigits_ofDigitChars hfirst.2 hdigits

/-- The next version can be written. -/
def HasNext (number : Nat) : Prop := (Nat.toDigits 10 (number + 1)).length ≤ maxStrDigits

theorem nextVersion_eq_ok {version next : String} (h : isVersion version = true) :
    nextVersion version = .ok next ↔
      HasNext (versionNumber version) ∧
        next = String.ofList (Nat.toDigits 10 (versionNumber version + 1)) := by
  unfold nextVersion HasNext
  simp only [Fallible.bind_eq_ok, Fallible.require_eq_ok, exists_and_left, exists_const]
  have hlength : (Nat.toDigits 10 (versionNumber version + 1)).length ≤ maxStrDigits →
      version.length ≤ maxStrDigits := by
    intro hnext
    rw [← String.length_toList, ← toDigits_version h]
    exact (length_toDigits_mono (Nat.le_succ _)).trans hnext
  constructor
  · intro hok
    exact ⟨hok.2.1, (Except.ok.inj hok.2.2).symm⟩
  · intro hok
    exact ⟨hlength hok.1, hok.1, congrArg Except.ok hok.2.symm⟩

theorem isVersion_next (number : Nat) :
    isVersion (String.ofList (Nat.toDigits 10 (number + 1))) = true := by
  have hdigits : ∀ c ∈ Nat.toDigits 10 (number + 1), c.isDigit = true :=
    fun c hc => Nat.isDigit_of_mem_toDigits (by decide) (by decide) hc
  unfold isVersion
  rw [String.toList_ofList, Bool.and_eq_true, List.all_eq_true]
  refine ⟨?_, hdigits⟩
  have hhead := Numerals.head?_toDigits (Nat.succ_pos number)
  cases hchars : Nat.toDigits 10 (number + 1) with
  | nil => exact absurd hchars (List.ne_nil_of_length_pos Nat.length_toDigits_pos)
  | cons c rest =>
    rw [hchars] at hhead hdigits
    rw [List.head?_cons, Option.any_some, Bool.and_eq_true, decide_eq_true_iff]
    exact ⟨hdigits c List.mem_cons_self, fun hzero => hhead (congrArg some hzero)⟩

theorem versionNumber_next (number : Nat) :
    versionNumber (String.ofList (Nat.toDigits 10 (number + 1))) = number + 1 := by
  unfold versionNumber
  rw [String.toList_ofList, Nat.ofDigitChars_toDigits (by decide) (by decide)]

/-! ## One change -/

/-- The watchlist with the items under the next version. -/
def nextWatchlist (current : WatchlistConfig) (items : List WatchlistItem) : WatchlistConfig :=
  ⟨String.ofList (Nat.toDigits 10 (versionNumber current.version + 1)), items⟩

/-- What a change that succeeds has done: the items it keeps do not expire, and they are what the
new file holds. -/
theorem applyChange_spec {file stored : YamlValue} {current : WatchlistConfig}
    {items : WatchlistConfig → List WatchlistItem} {item : Option WatchlistItem}
    {removed : Option String} {result : WatchlistChange} (hload : load runtime file = .ok current)
    (h : applyChange runtime file current.version items item removed = .ok (result, stored)) :
    HasNext (versionNumber current.version) ∧ (∀ kept ∈ items current, kept.expiresOn = none) ∧
      load runtime stored = .ok (nextWatchlist current (items current)) := by
  have hversion := (allLegal_of_load hload).1.1
  unfold applyChange at h
  rw [hload] at h
  obtain ⟨found, hfound, h⟩ := Fallible.bind_eq_ok.mp h
  rw [← Except.ok.inj hfound] at h
  obtain ⟨_, -, h⟩ := Fallible.bind_eq_ok.mp h
  obtain ⟨next, hnext, h⟩ := Fallible.bind_eq_ok.mp h
  obtain ⟨hhas, rfl⟩ := (nextVersion_eq_ok hversion).mp hnext
  obtain ⟨updated, hupdated, h⟩ := Fallible.bind_eq_ok.mp h
  unfold watchlistOf at hupdated
  obtain ⟨_, -, hupdated⟩ := Fallible.bind_eq_ok.mp hupdated
  rw [← Except.ok.inj hupdated] at h
  obtain ⟨replaced, hreplaced, h⟩ := Fallible.bind_eq_ok.mp h
  unfold replaceIfVersion at hreplaced
  rw [hload] at hreplaced
  obtain ⟨same, hsame, hreplaced⟩ := Fallible.bind_eq_ok.mp hreplaced
  rw [← Except.ok.inj hsame, if_pos rfl] at hreplaced
  obtain ⟨_, -, hreplaced⟩ := Fallible.bind_eq_ok.mp hreplaced
  obtain ⟨_, -, hreplaced⟩ := Fallible.bind_eq_ok.mp hreplaced
  obtain ⟨staging, hstaging, hreplaced⟩ := Fallible.bind_eq_ok.mp hreplaced
  rw [← Except.ok.inj hreplaced] at h
  have hstored : staging = stored := (Prod.mk.inj (Except.ok.inj h)).2
  unfold replaceUnchecked at hstaging
  obtain ⟨validated, hvalidated, hstaging⟩ := Fallible.bind_eq_ok.mp hstaging
  obtain ⟨_, hequal, hstaging⟩ := Fallible.bind_eq_ok.mp hstaging
  rw [Fallible.require_eq_ok] at hequal
  rw [← Except.ok.inj hstaging] at hstored
  refine ⟨hhas, ?_, ?_⟩
  · unfold load at hvalidated
    split at hvalidated
    next read hread => exact expiresOn_of_reloaded hread
    next => cases hvalidated
  · rw [← hstored, hvalidated, hequal]
    rfl

/-- A change to legal items none of which expires succeeds, when there is a next version. -/
theorem applyChange_total {file : YamlValue} {current : WatchlistConfig}
    {items : WatchlistConfig → List WatchlistItem} (item : Option WatchlistItem)
    (removed : Option String) (hload : load runtime file = .ok current)
    (hnext : HasNext (versionNumber current.version)) (hlength : (items current).length ≤ 30)
    (hdistinct : ((items current).map WatchlistItem.symbol).Nodup)
    (hlegal : ∀ kept ∈ items current, kept.Legal runtime.characters runtime.urls)
    (hexpires : ∀ kept ∈ items current, kept.expiresOn = none) :
    ∃ result stored, applyChange runtime file current.version items item removed = .ok (result, stored) := by
  have hversion := (allLegal_of_load hload).1.1
  have hwatchlist : (nextWatchlist current (items current)).Legal :=
    ⟨isVersion_next _, hlength, hdistinct⟩
  have hupdated : watchlistOf (nextWatchlist current (items current)).version (items current) =
      .ok (nextWatchlist current (items current)) := by
    unfold watchlistOf
    exact Fallible.bind_eq_ok.mpr ⟨⟨⟩, Fallible.require_eq_ok.mpr hwatchlist, rfl⟩
  have hok : nextVersion current.version = .ok (nextWatchlist current (items current)).version :=
    (nextVersion_eq_ok hversion).mpr ⟨hnext, rfl⟩
  have hread : readWatchlist runtime (YamlValue.reloaded (nextWatchlist current (items current)).toJson) =
      some (nextWatchlist current (items current)) :=
    readWatchlist_reloaded ⟨hwatchlist, hlegal⟩ hexpires
  have hvalidated : load runtime (YamlValue.reloaded (nextWatchlist current (items current)).toJson) =
      .ok (nextWatchlist current (items current)) := by
    unfold load
    rw [hread]
    rfl
  have hstaging : replaceUnchecked runtime (nextWatchlist current (items current)) =
      .ok (YamlValue.reloaded (nextWatchlist current (items current)).toJson) := by
    unfold replaceUnchecked
    exact Fallible.bind_eq_ok.mpr
      ⟨_, hvalidated, Fallible.bind_eq_ok.mpr ⟨⟨⟩, Fallible.require_eq_ok.mpr rfl, rfl⟩⟩
  have hreplaced : replaceIfVersion runtime file current.version (nextWatchlist current (items current)) =
      .ok (some (YamlValue.reloaded (nextWatchlist current (items current)).toJson)) := by
    unfold replaceIfVersion
    refine Fallible.bind_eq_ok.mpr ⟨current, hload, ?_⟩
    rw [if_pos rfl]
    exact Fallible.bind_eq_ok.mpr ⟨_, hok, Fallible.bind_eq_ok.mpr ⟨⟨⟩, Fallible.require_eq_ok.mpr rfl,
      Fallible.bind_eq_ok.mpr ⟨_, hstaging, rfl⟩⟩⟩
  have hchange : applyChange runtime file current.version items item removed =
      .ok (⟨current.version, (nextWatchlist current (items current)).version, item, removed,
          canonicalModelHash (nextWatchlist current (items current)).toJson⟩,
        YamlValue.reloaded (nextWatchlist current (items current)).toJson) := by
    unfold applyChange
    refine Fallible.bind_eq_ok.mpr ⟨current, hload, ?_⟩
    refine Fallible.bind_eq_ok.mpr ⟨⟨⟩, Fallible.require_eq_ok.mpr rfl, ?_⟩
    refine Fallible.bind_eq_ok.mpr ⟨_, hok, ?_⟩
    refine Fallible.bind_eq_ok.mpr ⟨_, hupdated, ?_⟩
    exact Fallible.bind_eq_ok.mpr ⟨_, hreplaced, rfl⟩
  exact ⟨_, _, hchange⟩

/-! ## Storage -/

/-- The item is stored and read back behind the items of other symbols, which stay as they were and
in their order; removing it leaves them. -/
def SurvivesStorage (runtime : Runtime) (file : YamlValue) (current : WatchlistConfig)
    (item : WatchlistItem) : Prop :=
  ∃ result stored after, upsert runtime file current.version item = .ok (result, stored) ∧
    load runtime stored = .ok after ∧ after.items = others current item.symbol ++ [item] ∧
    ∃ removal rest final, remove runtime stored after.version item.symbol = .ok (removal, rest) ∧
      load runtime rest = .ok final ∧ final.items = others current item.symbol

theorem others_append (current : WatchlistConfig) (version : String) (item : WatchlistItem) :
    others ⟨version, others current item.symbol ++ [item]⟩ item.symbol = others current item.symbol := by
  unfold others
  rw [List.filter_append, List.filter_filter, List.filter_cons_of_neg, List.filter_nil,
    List.append_nil]
  · simp only [Bool.and_self]
  · rw [decide_eq_true_iff, not_not]

theorem mem_others {current : WatchlistConfig} {symbol : Symbol} {kept : WatchlistItem}
    (h : kept ∈ others current symbol) : kept ∈ current.items ∧ kept.symbol ≠ symbol := by
  unfold others at h
  rw [List.mem_filter, decide_eq_true_iff] at h
  exact h

theorem others_nodup {current : WatchlistConfig} (h : current.Legal) (symbol : Symbol) :
    ((others current symbol).map WatchlistItem.symbol).Nodup :=
  List.Nodup.sublist (List.filter_sublist.map _) h.2.2

/-- The items with the new one have each symbol once. -/
theorem upserted_nodup {current : WatchlistConfig} (h : current.Legal) (item : WatchlistItem) :
    ((others current item.symbol ++ [item]).map WatchlistItem.symbol).Nodup := by
  rw [List.map_append, List.map_singleton, List.nodup_append]
  refine ⟨others_nodup h item.symbol, List.nodup_singleton _, ?_⟩
  intro a ha b hb hab
  obtain ⟨kept, hkept, hsymbol⟩ := List.mem_map.mp ha
  rw [List.mem_singleton] at hb
  exact (mem_others hkept).2 (by rw [hsymbol, hab, hb])

/-- **Watchlist items survive storage exactly when none expires**: an item that is stored under
the current version is read back, and the others with it, and its removal leaves the others, if
and only if neither the item nor one of the others has an expiry date and there are two more
versions of at most 4300 digits. -/
theorem upsert_survives_iff (runtime : Runtime) (file : YamlValue) (current : WatchlistConfig)
    (item : WatchlistItem) (hstored : load runtime file = .ok current)
    (hitem : item.Legal runtime.characters runtime.urls)
    (hroom : (others current item.symbol ++ [item]).length ≤ 30) :
    SurvivesStorage runtime file current item ↔
      item.expiresOn = none ∧ (∀ other ∈ current.items, other.symbol ≠ item.symbol →
        other.expiresOn = none) ∧
      (Nat.toDigits 10 (versionNumber current.version + 2)).length ≤ 4300 := by
  have hcurrent := allLegal_of_load hstored
  constructor
  · intro hsurvives
    obtain ⟨result, stored, after, hupsert, hafter, -, removal, rest, final, hremove, -, -⟩ := hsurvives
    obtain ⟨-, hexpires, hread⟩ := applyChange_spec hstored hupsert
    have hversion : after.version = (nextWatchlist current (others current item.symbol ++ [item])).version :=
      congrArg WatchlistConfig.version (Except.ok.inj (hafter.symm.trans hread))
    obtain ⟨hnext, -, -⟩ := applyChange_spec hafter hremove
    refine ⟨hexpires item (List.mem_append_right _ (List.mem_singleton_self _)), ?_, ?_⟩
    · intro other hother hsymbol
      refine hexpires other (List.mem_append_left _ ?_)
      unfold others
      rw [List.mem_filter, decide_eq_true_iff]
      exact ⟨hother, hsymbol⟩
    · rw [hversion] at hnext
      unfold HasNext nextWatchlist at hnext
      rw [versionNumber_next] at hnext
      exact hnext
  · intro hcondition
    obtain ⟨hexpires, hothers, hversions⟩ := hcondition
    have hkept : ∀ kept ∈ others current item.symbol, kept.expiresOn = none := by
      intro kept hmem
      exact hothers kept (mem_others hmem).1 (mem_others hmem).2
    have hlegal : ∀ kept ∈ others current item.symbol, kept.Legal runtime.characters runtime.urls := by
      intro kept hmem
      exact hcurrent.2 kept (mem_others hmem).1
    have hnext : HasNext (versionNumber current.version) :=
      (length_toDigits_mono (Nat.le_succ _)).trans hversions
    obtain ⟨result, stored, hupsert⟩ := @applyChange_total runtime file current
      (fun current => others current item.symbol ++ [item]) (some item) none hstored hnext hroom
      (upserted_nodup hcurrent.1 item)
      (List.forall_mem_append.mpr ⟨hlegal, List.forall_mem_singleton.mpr hitem⟩)
      (List.forall_mem_append.mpr ⟨hkept, List.forall_mem_singleton.mpr hexpires⟩)
    obtain ⟨-, -, hafter⟩ := applyChange_spec hstored hupsert
    have hsame := others_append current
      (nextWatchlist current (others current item.symbol ++ [item])).version item
    have hsecond : HasNext
        (versionNumber (nextWatchlist current (others current item.symbol ++ [item])).version) := by
      unfold HasNext nextWatchlist
      rw [versionNumber_next]
      exact hversions
    have hfewer : (others current item.symbol).length ≤ 30 := by
      rw [List.length_append] at hroom
      omega
    obtain ⟨removal, rest, hremove⟩ := @applyChange_total runtime stored _
      (fun current => others current item.symbol) none (some item.symbol.text) hafter hsecond
      (hsame.symm ▸ hfewer) (hsame.symm ▸ others_nodup hcurrent.1 item.symbol) (hsame.symm ▸ hlegal)
      (hsame.symm ▸ hkept)
    obtain ⟨-, -, hfinal⟩ := applyChange_spec hafter hremove
    exact ⟨result, stored, _, hupsert, hafter, rfl, removal, rest, _, hremove, hfinal, hsame⟩

/-- A file with a version and no items. -/
def emptyFile : YamlValue := .map [("version", .str "1")]

def emptyWatchlist : WatchlistConfig := ⟨"1", []⟩

theorem load_emptyFile : load sampleRuntime emptyFile = .ok emptyWatchlist := rfl

theorem sampleItem_legal (expiresOn : Option Date) :
    (sampleItem expiresOn).Legal sampleRuntime.characters sampleRuntime.urls where
  rationale := (by decide : isEnglish .ascii "Durable demand" = true)
  noted := fun _ h => absurd h (Option.not_mem_none _)
  tagged := (by decide : ["hardware"].length ≤ 16 ∧ ["hardware"].Nodup ∧
    ∀ tag ∈ ["hardware"], tag.length ≤ 32 ∧ isSlug tag = true)
  bounded := (by decide : 10 ≤ 100)
  sourced := ⟨Nat.zero_le _, List.nodup_nil, fun _ h => absurd h List.not_mem_nil⟩

theorem sampleItem_fits (expiresOn : Option Date) :
    (others emptyWatchlist (sampleItem expiresOn).symbol ++ [sampleItem expiresOn]).length ≤ 30 :=
  Nat.le_of_ble_eq_true rfl

/-- **An item that expires is not stored.** -/
theorem expiring_item_not_stored :
    ¬ ∀ (runtime : Runtime) (file : YamlValue) (current : WatchlistConfig) (item : WatchlistItem),
      load runtime file = .ok current → item.Legal runtime.characters runtime.urls →
      (others current item.symbol ++ [item]).length ≤ 30 →
      SurvivesStorage runtime file current item := by
  intro hclaim
  obtain ⟨result, stored, -, hupsert, -⟩ := hclaim sampleRuntime emptyFile emptyWatchlist
    (sampleItem (some sampleExpiry)) load_emptyFile (sampleItem_legal _) (sampleItem_fits _)
  have hexpires := (applyChange_spec load_emptyFile hupsert).2.1 (sampleItem (some sampleExpiry))
    (List.mem_append_right _ (List.mem_singleton_self _))
  cases hexpires

theorem upsert_survives_iff_sample :
    load sampleRuntime emptyFile = .ok emptyWatchlist ∧
    (SurvivesStorage sampleRuntime emptyFile emptyWatchlist (sampleItem none) ↔
      (sampleItem none).expiresOn = none ∧ (∀ other ∈ emptyWatchlist.items,
        other.symbol ≠ (sampleItem none).symbol → other.expiresOn = none) ∧
      (Nat.toDigits 10 (versionNumber emptyWatchlist.version + 2)).length ≤ 4300) :=
  ⟨load_emptyFile, upsert_survives_iff sampleRuntime emptyFile emptyWatchlist (sampleItem none)
    load_emptyFile (sampleItem_legal none) (sampleItem_fits none)⟩

end FinanceResearch.Config
