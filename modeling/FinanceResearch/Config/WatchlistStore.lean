import FinanceResearch.Config.Lossless
import FinanceResearch.Lib.Fallible
import FinanceResearch.Runs.RunIds

/-!
# The stored watchlist

`YamlWatchlistRepository` of `adapters/yaml_config.py` and `WatchlistService`: the file is read,
replaced under a version check, and read back before it takes the place of the other.

Mirroring notes vs the source:
- The file is the value that `yaml.safe_load` reads from it, lists for tuples; what
  `yaml.safe_dump` writes of texts, integers and nulls in lists and mappings is read as it was.
- One writer: the lock, the directory and the staging file are left out; a file that is not
  replaced stays.
- `int` and `str` have the limit of 4300 digits.
-/

namespace FinanceResearch.Config

open Calendar (Date)

/-! ## YAML -/

/-- What `yaml.safe_load` returns; a mapping with a key that is no text, a datetime, bytes or a
set is `other`. -/
inductive YamlValue where
  | null
  | bool (value : Bool)
  | int (value : Int)
  | float (repr : String)
  | str (value : String)
  | date (value : Date)
  | other
  | list (items : List YamlValue)
  | map (fields : List (String × YamlValue))

namespace YamlValue

mutual

/-- What `safe_load` reads of what `safe_dump` writes. -/
def reloaded : Json → YamlValue
  | .null => .null
  | .bool b => .bool b
  | .int i => .int i
  | .float repr => .float repr
  | .str text => .str text
  | .arr items => .list (reloadedItems items)
  | .obj fields => .map (reloadedFields fields)

def reloadedItems : List Json → List YamlValue
  | [] => []
  | item :: rest => reloaded item :: reloadedItems rest

def reloadedFields : List (String × Json) → List (String × YamlValue)
  | [] => []
  | (name, value) :: rest => (name, reloaded value) :: reloadedFields rest

end

mutual

/-- The value, if it has no date and nothing else that JSON has not. -/
def plain : YamlValue → Option Json
  | null => some .null
  | bool b => some (.bool b)
  | int i => some (.int i)
  | float repr => some (.float repr)
  | str text => some (.str text)
  | date _ => none
  | other => none
  | list items => (plainItems items).map .arr
  | map fields => (plainFields fields).map .obj

def plainItems : List YamlValue → Option (List Json)
  | [] => some []
  | item :: rest =>
    match plain item, plainItems rest with
    | some item, some rest => some (item :: rest)
    | _, _ => none

def plainFields : List (String × YamlValue) → Option (List (String × Json))
  | [] => some []
  | (name, value) :: rest =>
    match plain value, plainFields rest with
    | some value, some rest => some ((name, value) :: rest)
    | _, _ => none

end

mutual

theorem plain_reloaded : ∀ value : Json, plain (reloaded value) = some value
  | .null => rfl
  | .bool _ => rfl
  | .int _ => rfl
  | .float _ => rfl
  | .str _ => rfl
  | .arr items => by
    show (plainItems (reloadedItems items)).map Json.arr = some (Json.arr items)
    rw [plainItems_reloaded items, Option.map_some]
  | .obj fields => by
    show (plainFields (reloadedFields fields)).map Json.obj = some (Json.obj fields)
    rw [plainFields_reloaded fields, Option.map_some]

theorem plainItems_reloaded : ∀ items : List Json, plainItems (reloadedItems items) = some items
  | [] => rfl
  | item :: rest => by
    rw [reloadedItems, plainItems, plain_reloaded item, plainItems_reloaded rest]

theorem plainFields_reloaded : ∀ fields : List (String × Json),
    plainFields (reloadedFields fields) = some fields
  | [] => rfl
  | (name, value) :: rest => by
    rw [reloadedFields, plainFields, plain_reloaded value, plainFields_reloaded rest]

end

end YamlValue

/-! ## Reading -/

section Reading

variable (runtime : Runtime)

/-- The fields with nothing in the place of the date. -/
def withoutDate (fields : List (String × YamlValue)) : List (String × YamlValue) :=
  fields.map fun field => if field.1 = "expires_on" then (field.1, .null) else field

/-- `date | None`, strictly: a text is no date. -/
def readExpiresOn (fields : List (String × YamlValue)) : Option (Option Date) :=
  match fields.lookup "expires_on" with
  | none => some none
  | some .null => some none
  | some (.date value) => some (some value)
  | some _ => none

/-- `WatchlistItem.model_validate`: no other field admits a date. -/
def readItem : YamlValue → Option WatchlistItem
  | .map fields => do
    let values ← YamlValue.plainFields (withoutDate fields)
    let item ← WatchlistItem.read runtime (.obj values)
    let expiresOn ← readExpiresOn fields
    pure { item with expiresOn := expiresOn }
  | _ => none

/-- `tuple[WatchlistItem, ...]`, with its default. -/
def readStoredItems (fields : List (String × YamlValue)) : Option (List WatchlistItem) :=
  match fields.lookup "items" with
  | none => some []
  | some (.list items) => items.mapM (readItem runtime)
  | some _ => none

/-- `version`, a text. -/
def readVersion (fields : List (String × YamlValue)) : Option String :=
  match fields.lookup "version" with
  | some (.str version) => some version
  | _ => none

/-- `WatchlistConfig.model_validate(_tuplify(_read(root, "watchlist.yaml")))`. -/
def readWatchlist : YamlValue → Option WatchlistConfig
  | .map fields => do
    let items ← readStoredItems runtime fields
    let version ← readVersion fields
    if (fields.all fun field => field.1 ∈ WatchlistConfig.fieldNames) ∧
        WatchlistConfig.Legal ⟨version, items⟩ then
      some ⟨version, items⟩
    else none
  | _ => none

/-! ## The repository -/

/-- What a request raises. -/
inductive WatchlistError where
  | validation
  | versionConflict (message : String)
  | valueError (message : String)
  deriving DecidableEq, Repr

/-- `YamlWatchlistRepository.load`. -/
def load (file : YamlValue) : Except WatchlistError WatchlistConfig :=
  match readWatchlist runtime file with
  | some watchlist => pure watchlist
  | none => throw .validation

/-- The number of a version. -/
def versionNumber (version : String) : Nat := Nat.ofDigitChars 10 version.toList 0

/-- `str(int(version) + 1)`. -/
def nextVersion (version : String) : Except WatchlistError String := do
  Fallible.require (version.length ≤ maxStrDigits)
    (.valueError "Exceeds the limit for integer string conversion")
  let digits := Nat.toDigits 10 (versionNumber version + 1)
  Fallible.require (digits.length ≤ maxStrDigits)
    (.valueError "Exceeds the limit for integer string conversion")
  pure (String.ofList digits)

/-- `WatchlistConfig(version=version, items=items)`, of items that are validated. -/
def watchlistOf (version : String) (items : List WatchlistItem) :
    Except WatchlistError WatchlistConfig := do
  Fallible.require (WatchlistConfig.Legal ⟨version, items⟩) .validation
  pure ⟨version, items⟩

/-- `_replace_unchecked`: the new file. -/
def replaceUnchecked (configuration : WatchlistConfig) : Except WatchlistError YamlValue := do
  let staging := YamlValue.reloaded configuration.toJson
  let validated ← load runtime staging
  Fallible.require (validated = configuration)
    (.valueError "staged watchlist failed validation round trip")
  pure staging

/-- `replace_if_version`: the new file, or nothing when the version is another. -/
def replaceIfVersion (file : YamlValue) (expectedVersion : String) (configuration : WatchlistConfig) :
    Except WatchlistError (Option YamlValue) := do
  let current ← load runtime file
  if current.version = expectedVersion then do
    let expectedNext ← nextVersion expectedVersion
    Fallible.require (configuration.version = expectedNext)
      (.valueError "replacement version must increment the expected version by one")
    let replaced ← replaceUnchecked runtime configuration
    pure (some replaced)
  else pure none

/-! ## The service -/

structure WatchlistChange where
  beforeVersion : String
  afterVersion : String
  item : Option WatchlistItem
  removedSymbol : Option String
  contentHashSha256 : String

/-- The items of other symbols. -/
def others (watchlist : WatchlistConfig) (symbol : Symbol) : List WatchlistItem :=
  watchlist.items.filter fun existing => existing.symbol ≠ symbol

/-- What `upsert` and `remove` share: the new items under the next version, if the version is the
expected one. -/
def applyChange (file : YamlValue) (expectedVersion : String)
    (items : WatchlistConfig → List WatchlistItem) (item : Option WatchlistItem)
    (removedSymbol : Option String) : Except WatchlistError (WatchlistChange × YamlValue) := do
  let current ← load runtime file
  Fallible.require (current.version = expectedVersion)
    (.versionConflict ("expected watchlist version " ++ expectedVersion ++ ", found " ++
      current.version))
  let next ← nextVersion current.version
  let updated ← watchlistOf next (items current)
  match ← replaceIfVersion runtime file expectedVersion updated with
  | none =>
    throw (.versionConflict ("expected watchlist version " ++ expectedVersion ++ " was superseded"))
  | some replaced =>
    pure (⟨current.version, updated.version, item, removedSymbol,
      canonicalModelHash updated.toJson⟩, replaced)

/-- `WatchlistService.upsert`. -/
def upsert (file : YamlValue) (expectedVersion : String) (item : WatchlistItem) :
    Except WatchlistError (WatchlistChange × YamlValue) :=
  applyChange runtime file expectedVersion (fun current => others current item.symbol ++ [item])
    (some item) none

/-- `WatchlistService.remove`, of a symbol that is a ticker. -/
def remove (file : YamlValue) (expectedVersion : String) (symbol : Symbol) :
    Except WatchlistError (WatchlistChange × YamlValue) :=
  applyChange runtime file expectedVersion (fun current => others current symbol) none (some symbol.text)

end Reading

end FinanceResearch.Config
