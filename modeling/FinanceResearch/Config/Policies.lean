import FinanceResearch.Lib.Codecs
import FinanceResearch.Quality.Capabilities
import FinanceResearch.Regimes.Calculation

/-!
# The configuration

The five policies of an `AppConfiguration` and the checks they pass. The fields of a
policy are values of their types; what its validators ask of them beyond that is its
`Legal`.

Mirroring notes vs the source:
- `HttpUrl` and the categories of `unicodedata` are a `UrlLibrary`.
- Printable ASCII has no control or format character, so `_english` needs no check for
  them.
- `RegimePolicy` is a dataclass, which checks no types: its version can be any value.
-/

namespace FinanceResearch.Config

open Calendar (Date)
open Regimes (RegimeComponent isNormalizedSymbol ambientContext sortedSet)

/-! ## Texts -/

/-- The parts of a URL that are read. -/
structure UrlParts where
  scheme : String
  host : Option String
  username : Option String
  password : Option String

structure UrlLibrary where
  /-- `TypeAdapter(HttpUrl).validate_python(source, strict=True)`. -/
  parse : String → Option UrlParts
  /-- `unicodedata.category(character) in {"Cc", "Cf"}`. -/
  isControl : Char → Bool

/-- `[a-z0-9]`. -/
def isSlugChar (c : Char) : Bool := c.isLower || c.isDigit

/-- `[a-z0-9]*([-_][a-z0-9]+)*`. -/
def isSlugTail : List Char → Bool
  | [] => true
  | c :: rest =>
    if isSlugChar c then isSlugTail rest
    else (c == '-' || c == '_') && rest.head?.any isSlugChar && isSlugTail rest

/-- `_SLUG` and `_ADAPTER`. -/
def isSlug (text : String) : Bool := text.toList.head?.any isSlugChar && isSlugTail text.toList

/-- `_DOMAIN`. -/
def isDomain (text : String) : Bool :=
  text.toList.head?.any Char.isAlphanum && text.toList.getLast?.any Char.isAlphanum &&
    text.toList.all fun c => c.isAlphanum || c == '.' || c == '-'

/-- `_SOURCE_MAP_KEY`. -/
def isSourceMapKey (text : String) : Bool :=
  text.toList.head?.any Char.isAlphanum &&
    text.toList.all fun c => c.isAlphanum || c ∈ ['_', '.', ':', '/', '-']

/-- `_english(value, ..)` succeeds. -/
def isEnglish (u : CharacterDatabase) (text : String) : Bool :=
  text.toList.any (fun c => !u.isSpace c) && decide (text.length ≤ 1000) &&
    text.toList.all fun c => decide (32 ≤ c.toNat) && decide (c.toNat < 127)

/-- The value of a hexadecimal digit. -/
def hexValue (c : Char) : Option Nat :=
  if c.isDigit then some (c.toNat - '0'.toNat)
  else if 'a' ≤ c ∧ c ≤ 'f' then some (c.toNat - 'a'.toNat + 10)
  else if 'A' ≤ c ∧ c ≤ 'F' then some (c.toNat - 'A'.toNat + 10)
  else none

/-- `_percent_decode`. -/
def percentDecode : List Char → List Char
  | '%' :: a :: b :: rest =>
    match hexValue a, hexValue b with
    | some high, some low => Char.ofNat (16 * high + low) :: percentDecode rest
    | _, _ => '%' :: percentDecode (a :: b :: rest)
  | c :: rest => c :: percentDecode rest
  | [] => []

/-- `.replace("\\", "/")`. -/
def slashed (path : List Char) : List Char := path.map fun c => if c = '\\' then '/' else c

/-- The loop of `valid_sources`; a round that changes the path makes it shorter, so there
are no more rounds than characters. -/
def decodePath : Nat → List Char → List Char
  | 0, path => path
  | rounds + 1, path =>
    let decoded := slashed (percentDecode path)
    if decoded = path then path else decodePath rounds decoded

/-- `source.removeprefix("https://").split("?", 1)[0].partition("/")[2]`. -/
def sourcePath (source : String) : List Char :=
  let rest := if "https://".toList.isPrefixOf source.toList then source.toList.drop 8
    else source.toList
  ((rest.takeWhile (· ≠ '?')).dropWhile (· ≠ '/')).drop 1

/-- One of `official_sources`. -/
def isOfficialSource (u : CharacterDatabase) (urls : UrlLibrary) (source : String) : Bool :=
  decide (source.length ≤ 2048) &&
    source.toList.all (fun c => !urls.isControl c && !u.isSpace c) &&
      match urls.parse source with
      | none => false
      | some parts =>
        decide (parts.scheme = "https") && parts.host.any (· ≠ "") && parts.username.isNone &&
          parts.password.isNone && !source.toList.contains '#' &&
            ((decodePath source.length (slashed (sourcePath source))).splitOn '/').all fun part =>
              part ≠ ['.'] && part ≠ ['.', '.']

/-! ## Watchlist -/

/-- `role` of a watchlist item. -/
inductive WatchlistRole where
  | coreMonitor | satelliteEligible | researchOnly
  deriving DecidableEq, Repr

def WatchlistRole.value : WatchlistRole → String
  | .coreMonitor => "CORE_MONITOR"
  | .satelliteEligible => "SATELLITE_ELIGIBLE"
  | .researchOnly => "RESEARCH_ONLY"

def WatchlistRole.all : List WatchlistRole := [.coreMonitor, .satelliteEligible, .researchOnly]

/-- `research_horizon`. -/
inductive ResearchHorizon where
  | shortTerm | mediumTerm | longTerm
  deriving DecidableEq, Repr

def ResearchHorizon.value : ResearchHorizon → String
  | .shortTerm => "SHORT_TERM"
  | .mediumTerm => "MEDIUM_TERM"
  | .longTerm => "LONG_TERM"

def ResearchHorizon.all : List ResearchHorizon := [.shortTerm, .mediumTerm, .longTerm]

structure WatchlistItem where
  symbol : Symbol
  role : WatchlistRole
  researchRationale : String
  tags : List String
  priority : Nat
  researchHorizon : ResearchHorizon
  expiresOn : Option Date
  benchmarkSymbol : Option Symbol
  sectorProxySymbol : Option Symbol
  officialSources : List String
  notes : Option String
  deriving DecidableEq

/-- What the validators of `WatchlistItem` check. -/
structure WatchlistItem.Legal (u : CharacterDatabase) (urls : UrlLibrary) (item : WatchlistItem) :
    Prop where
  rationale : isEnglish u item.researchRationale = true
  noted : ∀ text ∈ item.notes, isEnglish u text = true
  tagged : item.tags.length ≤ 16 ∧ item.tags.Nodup ∧
    ∀ tag ∈ item.tags, tag.length ≤ 32 ∧ isSlug tag = true
  bounded : item.priority ≤ 100
  sourced : item.officialSources.length ≤ 8 ∧ item.officialSources.Nodup ∧
    ∀ source ∈ item.officialSources, isOfficialSource u urls source = true

instance (u : CharacterDatabase) (urls : UrlLibrary) (item : WatchlistItem) :
    Decidable (item.Legal u urls) :=
  decidable_of_iff (isEnglish u item.researchRationale = true ∧
    (∀ text ∈ item.notes, isEnglish u text = true) ∧
    (item.tags.length ≤ 16 ∧ item.tags.Nodup ∧
      ∀ tag ∈ item.tags, tag.length ≤ 32 ∧ isSlug tag = true) ∧
    item.priority ≤ 100 ∧
    (item.officialSources.length ≤ 8 ∧ item.officialSources.Nodup ∧
      ∀ source ∈ item.officialSources, isOfficialSource u urls source = true))
    ⟨fun ⟨a, b, c, d, e⟩ => ⟨a, b, c, d, e⟩, fun ⟨a, b, c, d, e⟩ => ⟨a, b, c, d, e⟩⟩

structure WatchlistConfig where
  version : String
  items : List WatchlistItem
  deriving DecidableEq

/-- What the validators of `WatchlistConfig` check, those of its items apart. -/
def WatchlistConfig.Legal (watchlist : WatchlistConfig) : Prop :=
  isVersion watchlist.version = true ∧ watchlist.items.length ≤ 30 ∧
    (watchlist.items.map WatchlistItem.symbol).Nodup

instance (watchlist : WatchlistConfig) : Decidable watchlist.Legal :=
  inferInstanceAs (Decidable (_ ∧ _ ∧ _))

/-! ## Setups -/

inductive PenaltyName where
  | extension | eventUncertainty | correlationConcentration | dataQuality
  deriving DecidableEq, Repr

def PenaltyName.value : PenaltyName → String
  | .extension => "EXTENSION_PENALTY"
  | .eventUncertainty => "EVENT_UNCERTAINTY_PENALTY"
  | .correlationConcentration => "CORRELATION_CONCENTRATION_PENALTY"
  | .dataQuality => "DATA_QUALITY_PENALTY"

def PenaltyName.all : List PenaltyName :=
  [.extension, .eventUncertainty, .correlationConcentration, .dataQuality]

structure SetupPolicy where
  version : String
  requiredHistoricalSessions : Nat
  minimumPrice : PositiveDecimal
  minimumMedianDollarVolume : PositiveDecimal
  movingAverageWindows : List Int
  trendSlopeWindows : List Int
  breakoutLookback : Nat
  atrWindow : Nat
  entryZoneAtrBuffers : List PositiveDecimal
  extensionLimits : List PositiveDecimal
  pullbackSupportTolerances : List PositiveDecimal
  restrengtheningConditions : List String
  minimumRewardToRisk : PositiveDecimal
  planLifetimeSessions : Nat
  earningsBlackoutSessions : Nat
  scoreWeights : List PositiveDecimal
  penaltyNames : List PenaltyName
  deriving DecidableEq

/-- What the validators of `SetupPolicy` check. -/
def SetupPolicy.Legal (policy : SetupPolicy) : Prop :=
  isVersion policy.version = true ∧ 1 ≤ policy.requiredHistoricalSessions ∧
    1 ≤ policy.breakoutLookback ∧ 1 ≤ policy.atrWindow ∧ 1 ≤ policy.planLifetimeSessions ∧
    policy.scoreWeights.length = 6 ∧ policy.penaltyNames.length = 4 ∧
    ∀ name ∈ PenaltyName.all, name ∈ policy.penaltyNames

instance (policy : SetupPolicy) : Decidable policy.Legal :=
  inferInstanceAs (Decidable (_ ∧ _ ∧ _ ∧ _ ∧ _ ∧ _ ∧ _ ∧ _))

/-! ## Sources -/

def sourceRoleValue : SourceRole → String
  | .marketData => "market-data"
  | .marketCalendar => "market-calendar"
  | .macroCalendar => "macro-calendar"
  | .officialVerification => "official-verification"

def sourceRoles : List SourceRole :=
  [.marketData, .marketCalendar, .macroCalendar, .officialVerification]

/-- `licensed_content_persistence`. -/
inductive LicensedContentPersistence where
  | none | metadataOnly | allowed
  deriving DecidableEq, Repr

def LicensedContentPersistence.value : LicensedContentPersistence → String
  | .none => "NONE"
  | .metadataOnly => "METADATA_ONLY"
  | .allowed => "ALLOWED"

def LicensedContentPersistence.all : List LicensedContentPersistence :=
  [.none, .metadataOnly, .allowed]

structure SourcePolicy where
  version : String
  qualitySourceRoles : List SourceRole
  allowedAdapters : List String
  allowedHttpsDomains : List String
  allowedHostsByAdapter : Option (FrozenMap (List String))
  allowedPortsByHost : FrozenMap (List Nat)
  freshnessByDataType : FrozenMap Nat
  cacheRetentionSeconds : Nat
  requestDeadlineSeconds : PositiveDecimal
  retryAttempts : Nat
  retryBackoffSeconds : PositiveDecimal
  retryJitterSeconds : PositiveDecimal
  perRunRequestBudgets : FrozenMap Nat
  allowRedirects : Bool
  maximumResponseBytes : Nat
  allowedContentTypes : List String
  excerptLimits : FrozenMap Nat
  licensedContentPersistence : LicensedContentPersistence
  deriving DecidableEq

/-- A bounded collection of distinct texts. -/
def IsCollection (longest : Nat) (legal : String → Bool) (items : List String) : Prop :=
  1 ≤ items.length ∧ items.length ≤ longest ∧ items.Nodup ∧ ∀ item ∈ items, legal item = true

instance (longest : Nat) (legal : String → Bool) (items : List String) :
    Decidable (IsCollection longest legal items) :=
  inferInstanceAs (Decidable (_ ∧ _ ∧ _ ∧ _))

/-- `valid_non_negative_maps`. -/
def IsLimitMap (limits : FrozenMap Nat) : Prop :=
  1 ≤ limits.items.length ∧ limits.items.length ≤ 64 ∧
    ∀ name ∈ limits.names, 1 ≤ name.length ∧ name.length ≤ 64 ∧ isSourceMapKey name = true

instance (limits : FrozenMap Nat) : Decidable (IsLimitMap limits) :=
  inferInstanceAs (Decidable (_ ∧ _ ∧ _))

/-- `_host_matches_domains`. -/
def hostMatchesDomains (host : String) (domains : List String) : Bool :=
  domains.any fun domain => host = domain || ('.' :: domain.toList).isSuffixOf host.toList

/-- `..` in a text. -/
def hasDoubleDot (text : String) : Bool := Text.contains text ".."

/-- What the validators check of `allowed_hosts_by_adapter`. -/
def SourcePolicy.HostsLegal (policy : SourcePolicy) (hosts : FrozenMap (List String)) : Prop :=
  1 ≤ hosts.items.length ∧ hosts.items.length ≤ 16 ∧
    (∀ item ∈ hosts.items, isSlug item.1 = true ∧
      IsCollection 64 (fun host => decide (1 ≤ host.length ∧ host.length ≤ 253) && isDomain host)
        item.2) ∧
    (∀ adapter ∈ hosts.names, adapter ∈ policy.allowedAdapters) ∧
    (∀ adapter ∈ policy.allowedAdapters, adapter ∈ hosts.names) ∧
    ∀ item ∈ hosts.items, ∀ host ∈ item.2,
      hostMatchesDomains host policy.allowedHttpsDomains = true

instance (policy : SourcePolicy) (hosts : FrozenMap (List String)) :
    Decidable (policy.HostsLegal hosts) :=
  inferInstanceAs (Decidable (_ ∧ _ ∧ _ ∧ _ ∧ _ ∧ _))

/-- What the validators check of `allowed_ports_by_host`. -/
def ArePorts (ports : FrozenMap (List Nat)) : Prop :=
  ports.items.length ≤ 64 ∧ ∀ item ∈ ports.items, isDomain item.1 = true ∧
    1 ≤ item.2.length ∧ item.2.length ≤ 16 ∧ item.2.Nodup ∧
      ∀ port ∈ item.2, 1 ≤ port ∧ port ≤ 65535

instance (ports : FrozenMap (List Nat)) : Decidable (ArePorts ports) :=
  inferInstanceAs (Decidable (_ ∧ _))

/-- What the validators of `SourcePolicy` check. -/
def SourcePolicy.Legal (u : CharacterDatabase) (policy : SourcePolicy) : Prop :=
  isVersion policy.version = true ∧
    (policy.qualitySourceRoles.Nodup ∧ .marketData ∈ policy.qualitySourceRoles ∧
      .marketCalendar ∈ policy.qualitySourceRoles) ∧
    IsCollection 16 (fun item => decide (item.length ≤ 64) && isSlug item)
      policy.allowedAdapters ∧
    IsCollection 64 (fun item => decide (item.length ≤ 253) && isDomain item && !hasDoubleDot item)
      policy.allowedHttpsDomains ∧
    (∀ hosts ∈ policy.allowedHostsByAdapter, policy.HostsLegal hosts) ∧
    ArePorts policy.allowedPortsByHost ∧
    (IsLimitMap policy.freshnessByDataType ∧ IsLimitMap policy.perRunRequestBudgets ∧
      IsLimitMap policy.excerptLimits) ∧
    1 ≤ policy.maximumResponseBytes ∧
    IsCollection 32
      (fun item => item.toList.any (fun c => !u.isSpace c) && decide (item.length ≤ 128))
      policy.allowedContentTypes

instance (u : CharacterDatabase) (policy : SourcePolicy) : Decidable (policy.Legal u) :=
  inferInstanceAs (Decidable (_ ∧ _ ∧ _ ∧ _ ∧ _ ∧ _ ∧ _ ∧ _ ∧ _))

/-! ## Regime -/

structure RegimePolicy where
  version : Json
  broadSymbols : List String
  smallCapSymbol : String
  creditAssetSymbol : String
  creditBenchmarkSymbol : String
  sectorSymbols : List String
  cyclicalSymbols : List String
  defensiveSymbols : List String
  shortSmaWindow : Int
  longSmaWindow : Int
  slopeLookback : Int
  relativeReturnWindow : Int
  atrWindow : Int
  realizedVolatilityWindow : Int
  percentileHistory : Int
  participationPositiveMinimum : Int
  participationNegativeMaximum : Int
  participationMinimumValid : Int
  leadershipVoteThreshold : Int
  leadershipMinimumValid : Int
  volatilityPositiveMaximum : Decimal
  volatilityNegativeMinimum : Decimal
  permissiveThreshold : Decimal
  defensiveThreshold : Decimal
  componentWeights : List (RegimeComponent × Decimal)
  diaSymbol : String
  treasurySymbol : Option String
  dollarSymbol : Option String
  goldSymbol : Option String
  oilSymbol : Option String
  volatilitySymbol : Option String
  deriving DecidableEq

namespace RegimePolicy

/-- `bool(value)`. -/
def isTruthy : Json → Bool
  | .null => false
  | .bool b => b
  | .int i => decide (i ≠ 0)
  | .float repr => repr ≠ "0.0" && repr ≠ "-0.0"
  | .str s => s ≠ ""
  | .arr items => !items.isEmpty
  | .obj fields => !fields.isEmpty

/-- The optional symbols. -/
def optionalSymbols (policy : RegimePolicy) : List String :=
  [policy.treasurySymbol, policy.dollarSymbol, policy.goldSymbol, policy.oilSymbol,
    policy.volatilitySymbol].filterMap id

/-- `primary_symbols`. -/
def primarySymbols (policy : RegimePolicy) : List String :=
  policy.broadSymbols ++ [policy.smallCapSymbol, policy.creditAssetSymbol,
    policy.creditBenchmarkSymbol]

/-- `required_symbols`. -/
def requiredSymbols (policy : RegimePolicy) : List String :=
  sortedSet (policy.primarySymbols ++ policy.sectorSymbols ++ policy.cyclicalSymbols ++
    policy.defensiveSymbols)

/-- `radar_universe`. -/
def radarUniverse (policy : RegimePolicy) : List String :=
  sortedSet (policy.requiredSymbols ++ policy.diaSymbol :: policy.optionalSymbols)

/-- `sum(weights, Decimal(0)) == Decimal(100)`. -/
def totals (weights : List Decimal) : Bool :=
  match ambientContext.sum weights with
  | .ok total => total.sameNumber ⟨false, 100, 0⟩
  | .error _ => false

/-- What `__post_init__` checks. -/
def Legal (policy : RegimePolicy) : Prop :=
  isTruthy policy.version = true ∧
    (policy.broadSymbols.length = 2 ∧ policy.broadSymbols.Nodup) ∧
    (policy.sectorSymbols.length = 11 ∧ policy.sectorSymbols.Nodup) ∧
    (policy.cyclicalSymbols ≠ [] ∧ policy.defensiveSymbols ≠ [] ∧ policy.cyclicalSymbols.Nodup ∧
      policy.defensiveSymbols.Nodup ∧
      (∀ symbol ∈ policy.cyclicalSymbols, symbol ∈ policy.sectorSymbols) ∧
      (∀ symbol ∈ policy.defensiveSymbols, symbol ∈ policy.sectorSymbols) ∧
      ∀ symbol ∈ policy.cyclicalSymbols, symbol ∉ policy.defensiveSymbols) ∧
    (∀ symbol ∈ policy.primarySymbols ++ policy.sectorSymbols ++
      policy.diaSymbol :: policy.optionalSymbols, isNormalizedSymbol symbol = true) ∧
    policy.primarySymbols.Nodup ∧
    policy.componentWeights.map Prod.fst = RegimeComponent.all ∧
    (∀ weight ∈ policy.componentWeights, Decimal.zero.less weight.2 = true) ∧
    totals (policy.componentWeights.map Prod.snd) = true ∧
    (∀ window ∈ [policy.shortSmaWindow, policy.longSmaWindow, policy.slopeLookback,
      policy.relativeReturnWindow, policy.atrWindow, policy.realizedVolatilityWindow,
      policy.percentileHistory], 0 < window) ∧
    (0 ≤ policy.participationNegativeMaximum ∧
      policy.participationNegativeMaximum < policy.participationPositiveMinimum ∧
      policy.participationPositiveMinimum ≤ 11 ∧ 1 ≤ policy.participationMinimumValid ∧
      policy.participationMinimumValid ≤ 11) ∧
    (1 ≤ policy.leadershipVoteThreshold ∧ policy.leadershipVoteThreshold ≤ 3 ∧
      1 ≤ policy.leadershipMinimumValid ∧ policy.leadershipMinimumValid ≤ 3) ∧
    (Decimal.zero.atMost policy.volatilityPositiveMaximum = true ∧
      policy.volatilityPositiveMaximum.less policy.volatilityNegativeMinimum = true ∧
      policy.volatilityNegativeMinimum.atMost ⟨false, 100, 0⟩ = true) ∧
    policy.defensiveThreshold.less policy.permissiveThreshold = true

instance (policy : RegimePolicy) : Decidable policy.Legal :=
  inferInstanceAs (Decidable (_ ∧ _ ∧ _ ∧ _ ∧ _ ∧ _ ∧ _ ∧ _ ∧ _ ∧ _ ∧ _ ∧ _ ∧ _ ∧ _))

end RegimePolicy

structure AppConfiguration where
  watchlist : WatchlistConfig
  risk : RiskPolicy
  regime : RegimePolicy
  setup : SetupPolicy
  source : SourcePolicy

end FinanceResearch.Config
