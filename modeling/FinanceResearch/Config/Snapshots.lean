import FinanceResearch.Config.Serialized

/-!
# Configuration snapshots

`ConfigService.validate_and_snapshot` and `configuration_from_snapshot`: the policies of
a configuration are frozen as JSON values, and rebuilt from them. `none` is an error of
either.
-/

namespace FinanceResearch.Config

/-! ## What a snapshot admits -/

/-- `Version`. -/
def isSnapshotVersion (text : String) : Bool :=
  decide (text.length ≤ 64) && text.toList.head?.any Char.isAlphanum &&
    text.toList.all fun c => c.isAlphanum || c ∈ ['.', '+', '_', '-']

/-- `Sha256`. -/
def isSha256 (text : String) : Bool := decide (text.length = 64) && text.toList.all Sha256.isHex

mutual

/-- `JsonValue`: texts and collections are bounded. -/
def withinLimits : Json → Bool
  | .str s => decide (s.length ≤ 8192)
  | .arr items => decide (items.length ≤ 128) && itemsWithinLimits items
  | .obj items => decide (items.length ≤ 128) && fieldsWithinLimits items
  | _ => true

def itemsWithinLimits : List Json → Bool
  | [] => true
  | item :: rest => withinLimits item && itemsWithinLimits rest

def fieldsWithinLimits : List (String × Json) → Bool
  | [] => true
  | (_, value) :: rest => withinLimits value && fieldsWithinLimits rest

end

/-! ## The policies of a configuration -/

/-- `FIXED_CONFIGURATION_FILES`, in the order of the names. -/
def policyNames : List String := ["regime", "risk", "setup", "source", "watchlist"]

theorem policyNames_sorted : policyNames.Pairwise (· < ·) := by decide

/-- The five values `policy_values` holds, in the order of their names. -/
def AppConfiguration.policyValues (u : CharacterDatabase) (c : AppConfiguration) :
    List (String × Json) :=
  [("regime", c.regime.toJson), ("risk", riskToJson u c.risk), ("setup", c.setup.toJson u),
    ("source", c.source.toJson u), ("watchlist", c.watchlist.toJson)]

/-- `hashes`. -/
def AppConfiguration.policyHashes (u : CharacterDatabase) (c : AppConfiguration) :
    FrozenMap String where
  items := [("regime", canonicalModelHash c.regime.toJson),
    ("risk", canonicalModelHash (riskToJson u c.risk)),
    ("setup", canonicalModelHash (c.setup.toJson u)),
    ("source", canonicalModelHash (c.source.toJson u)),
    ("watchlist", canonicalModelHash c.watchlist.toJson)]
  sorted := policyNames_sorted
  bounded := (by decide : 5 ≤ 128)

/-- `serialized`. -/
def AppConfiguration.frozen (u : CharacterDatabase) (c : AppConfiguration) : FrozenMap Json where
  items := c.policyValues u
  sorted := policyNames_sorted
  bounded := (by decide : 5 ≤ 128)

/-- `file_hashes`. -/
def AppConfiguration.fileHashes (u : CharacterDatabase) (c : AppConfiguration) :
    FrozenMap String where
  items := [("regime-policy.yaml", canonicalModelHash c.regime.toJson),
    ("risk-policy.yaml", canonicalModelHash (riskToJson u c.risk)),
    ("setup-policy.yaml", canonicalModelHash (c.setup.toJson u)),
    ("source-policy.yaml", canonicalModelHash (c.source.toJson u)),
    ("watchlist.yaml", canonicalModelHash c.watchlist.toJson)]
  sorted := (by decide : ["regime-policy.yaml", "risk-policy.yaml", "setup-policy.yaml",
    "source-policy.yaml", "watchlist.yaml"].Pairwise (· < ·))
  bounded := (by decide : 5 ≤ 128)

/-- The values `ConfigurationSnapshot` is built from. -/
def AppConfiguration.snapshotOf (u : CharacterDatabase) (c : AppConfiguration)
    (regimeVersion : String) : ConfigurationSnapshot where
  contentHashSha256 := canonicalModelHash (c.toJson u)
  fileHashes := c.fileHashes u
  watchlistVersion := c.watchlist.version
  regimePolicyVersion := regimeVersion
  setupPolicyVersion := c.setup.version
  riskPolicyVersion := c.risk.version
  sourcePolicyVersion := c.source.version
  policies := some (c.frozen u)
  policyHashes := some (c.policyHashes u)
  radarUniverse := c.regime.radarUniverse

/-- What the fields of `ConfigurationSnapshot` admit. -/
def IsSnapshot (s : ConfigurationSnapshot) : Prop :=
  isSha256 s.contentHashSha256 = true ∧
    (∀ item ∈ s.fileHashes.items, Identifier.IsLegal item.1 ∧ isSha256 item.2 = true) ∧
    (∀ version ∈ [s.watchlistVersion, s.regimePolicyVersion, s.setupPolicyVersion,
      s.riskPolicyVersion, s.sourcePolicyVersion], isSnapshotVersion version = true) ∧
    (∀ policies ∈ s.policies, fieldsWithinLimits policies.items = true) ∧
    (∀ hashes ∈ s.policyHashes, ∀ item ∈ hashes.items, isSha256 item.2 = true) ∧
    ∀ symbol ∈ s.radarUniverse, Identifier.IsLegal symbol

instance (s : ConfigurationSnapshot) : Decidable (IsSnapshot s) :=
  inferInstanceAs (Decidable (_ ∧ _ ∧ _ ∧ _ ∧ _ ∧ _))

/-- `ConfigService.validate_and_snapshot`, of the configuration the repository loads. -/
def validateAndSnapshot (u : CharacterDatabase) (c : AppConfiguration) :
    Option ConfigurationSnapshot :=
  match c.regime.version with
  | .str version =>
    if IsSnapshot (c.snapshotOf u version) then some (c.snapshotOf u version) else none
  | _ => none

/-! ## The configuration of a snapshot -/

/-- `_configuration_from_values`. -/
def configurationFromValues (runtime : Runtime) (values : FrozenMap Json) :
    Option AppConfiguration := do
  let regime ← (values.get? "regime").bind (RegimePolicy.read runtime)
  let setup ← (values.get? "setup").bind (SetupPolicy.read runtime)
  let watchlist ← (values.get? "watchlist").bind (WatchlistConfig.read runtime)
  let risk ← (values.get? "risk").bind (readRisk runtime)
  let source ← (values.get? "source").bind (SourcePolicy.read runtime)
  some { watchlist, risk, regime, setup, source }

/-- The hashes, versions and symbols of the snapshot are those of the configuration. -/
def Matches (u : CharacterDatabase) (c : AppConfiguration) (s : ConfigurationSnapshot) : Prop :=
  s.policyHashes = some (c.policyHashes u) ∧ s.fileHashes = c.fileHashes u ∧
    canonicalModelHash (c.toJson u) = s.contentHashSha256 ∧
    (s.watchlistVersion = c.watchlist.version ∧ s.riskPolicyVersion = c.risk.version ∧
      Json.str s.regimePolicyVersion = c.regime.version ∧
      s.setupPolicyVersion = c.setup.version ∧ s.sourcePolicyVersion = c.source.version) ∧
    s.radarUniverse = c.regime.radarUniverse

instance (u : CharacterDatabase) (c : AppConfiguration) (s : ConfigurationSnapshot) :
    Decidable (Matches u c s) :=
  inferInstanceAs (Decidable (_ ∧ _ ∧ _ ∧ _ ∧ _))

/-- `configuration_from_snapshot`. -/
def configurationFromSnapshot (runtime : Runtime) (s : ConfigurationSnapshot) :
    Option AppConfiguration := do
  let policies ← s.policies
  let hashes ← s.policyHashes
  if policies.names = policyNames ∧ hashes.names = policyNames then
    let c ← configurationFromValues runtime policies
    if Matches runtime.characters c s then some c else none
  else none

end FinanceResearch.Config
