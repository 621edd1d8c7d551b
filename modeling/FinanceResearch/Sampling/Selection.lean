import Mathlib.Data.Prod.Lex
import Mathlib.Data.String.Basic
import FinanceResearch.Brief.Draft
import FinanceResearch.Lib.BestStates
import FinanceResearch.Lib.Dicts

/-!
# The citation sample

`_extend_tiers`, `_prefer` and `_select` of `evaluation/citation_sampling.py`: a dynamic
program that keeps one selection per count, mask of claim types, anchor tier and whether there
are several tiers, and the listing of the selection it finds.

Mirroring notes vs the source:
- A `frozenset` of tiers is the list of its members, each once, in any order.
- The states are the pairs of a dictionary; `first_by_type` is read under each type.
-/

namespace FinanceResearch.Sampling

open BestStates

/-- `_Candidate`. -/
structure Candidate where
  claimId : String
  claimType : ClaimType
  authorityTiers : List Int
  priority : Bool
  tieKey : String
  distinct : authorityTiers.Nodup
  deriving DecidableEq

/-- `_Selection`. -/
structure Selection where
  priorityCount : Nat
  tieKeys : List String
  claimIds : List String
  deriving DecidableEq

/-- The keys of the states. -/
structure StateKey where
  count : Nat
  typeMask : Nat
  tierAnchor : Option Int
  hasMultiple : Bool
  deriving DecidableEq

/-- `tuple(ClaimType)`. -/
def claimTypes : List ClaimType := [.fact, .calculation, .inference, .hypothesis]

/-- `type_indexes[claim_type]`. -/
def typeIndex (claimType : ClaimType) : Nat := claimTypes.idxOf claimType

/-- `_extend_tiers`. -/
def extendTiers (anchor : Option Int) (hasMultiple : Bool) (candidateTiers : List Int) :
    Option Int × Bool :=
  if hasMultiple then (none, true)
  else
    match anchor with
    | none => if 2 ≤ candidateTiers.length then (none, true) else (candidateTiers.head?, false)
    | some anchor =>
      if candidateTiers.any fun tier => tier != anchor then (none, true) else (some anchor, false)

/-- `_prefer`, of a selection that is there. -/
def prefer (candidate current : Selection) : Bool :=
  if candidate.priorityCount ≠ current.priorityCount then
    decide (current.priorityCount < candidate.priorityCount)
  else decide (candidate.tieKeys < current.tieKeys)

/-- The key of a selection with one candidate more. -/
def extendKey (key : StateKey) (candidate : Candidate) : StateKey :=
  let tiers := extendTiers key.tierAnchor key.hasMultiple candidate.authorityTiers
  ⟨key.count + 1, key.typeMask ||| 1 <<< typeIndex candidate.claimType, tiers.1, tiers.2⟩

/-- A selection with one candidate more. -/
def growSelection (selection : Selection) (candidate : Candidate) : Selection :=
  ⟨selection.priorityCount + candidate.priority.toNat,
    (selection.tieKeys ++ [candidate.tieKey]).insertionSort (· ≤ ·),
    selection.claimIds ++ [candidate.claimId]⟩

/-- The search of `_select`, for samples of `sampleSize`. -/
def search (sampleSize : Nat) : Search Candidate StateKey Selection where
  key := ⟨0, 0, none, false⟩
  value := ⟨0, [], []⟩
  extend := extendKey
  grow := growSelection
  isOpen := fun key => decide (key.count < sampleSize)
  prefer := prefer

/-- `mask.bit_count()`, of a mask of the claim types. -/
def bitCount (mask : Nat) : Nat := claimTypes.countP fun claimType => mask.testBit (typeIndex claimType)

/-- `score > best_score`, or the same score and lesser tie keys. -/
def better (left right : StateKey × Selection) : Bool :=
  let score := (bitCount left.1.typeMask, left.1.hasMultiple.toNat, left.2.priorityCount)
  let bestScore := (bitCount right.1.typeMask, right.1.hasMultiple.toNat, right.2.priorityCount)
  decide (toLex (bestScore.1, toLex bestScore.2) < toLex (score.1, toLex score.2)) ||
    (score == bestScore && decide (left.2.tieKeys < right.2.tieKeys))

/-- The last loop over the finalists. -/
def bestSelection (finalists : List (StateKey × Selection)) : Option (StateKey × Selection) :=
  finalists.foldl (firstBest better) none

/-- `selected.values()`. -/
def selectedItems (candidates : List Candidate) (claimIds : List String) : List Candidate :=
  let kept := candidates.filter fun item => claimIds.contains item.claimId
  (Dicts.keys Candidate.claimId kept).filterMap fun id => Dicts.get? Candidate.claimId kept id

/-- `first_by_type.get(claim_type)`. -/
def firstByType (selected : List Candidate) (claimType : ClaimType) : Option Candidate :=
  (selected.filter fun item => item.claimType = claimType).foldl
    (firstBest fun item prior => decide (item.tieKey < prior.tieKey)) none

/-- The order of `(-int(item.priority), item.tie_key)`. -/
def restLe (left right : Candidate) : Prop :=
  left.priority = true ∧ right.priority = false ∨
    left.priority = right.priority ∧ left.tieKey ≤ right.tieKey

instance (left right : Candidate) : Decidable (restLe left right) :=
  inferInstanceAs (Decidable (_ ∨ _))

/-- The claims that `_select` lists first. -/
def firsts (selected : List Candidate) : List Candidate := claimTypes.filterMap (firstByType selected)

/-- The claims that it lists behind them. -/
def remaining (selected : List Candidate) : List Candidate :=
  (selected.filter fun item => !((firsts selected).map Candidate.claimId).contains item.claimId).insertionSort
    restLe

/-- `_MAX_SAMPLE_SIZE`. -/
def maxSampleSize : Nat := 5

/-- `sample_size`. -/
def sampleSize (candidates : List Candidate) (maximumClaims : Nat) : Nat :=
  min maximumClaims (min maxSampleSize candidates.length)

/-- `_select`. -/
def select (candidates : List Candidate) (maximumClaims : Nat) : List String :=
  let size := sampleSize candidates maximumClaims
  let finalists := ((search size).run candidates).filter fun state => state.1.count = size
  match bestSelection finalists with
  | none => []
  | some best =>
    let selected := selectedItems candidates best.2.claimIds
    (firsts selected).map Candidate.claimId ++ (remaining selected).map Candidate.claimId

end FinanceResearch.Sampling
