import FinanceResearch.Lib.Pointwise
import FinanceResearch.Scoring.Selection

/-!
# The ranking as a whole

`rank_candidates` returns its candidates in the order of their keys, with one candidate
of each exposure group free to be selected (`rankCandidates_selects`). The groups are the
chains of correlations whose coefficient reaches the threshold *in the numeric context*,
which rounds it to 28 digits.
-/

namespace FinanceResearch.Scoring

open Decimal (Context Signal)
open Fallible Pointwise

/-! ## One candidate of each group -/

/-- An entry of `prepared` of a candidate. -/
structure PreparedFrom (groups : Groups) (c : SetupCandidate) (p : Prepared) : Prop where
  same : SameCandidate c p.candidate
  primary : p.secondary = false → groups.root c.symbol = some c.symbol

/-- What the loop does with one candidate: the first of the symbol of a root passes. -/
theorem prepare_cons {groups : Groups} {c : SetupCandidate} {rest : List SetupCandidate}
    {seen : List Symbol} {prepared : List Prepared}
    (h : prepare groups (c :: rest) seen = .ok prepared) :
    ∃ p tail seen', prepared = p :: tail ∧ prepare groups rest seen' = .ok tail ∧
      PreparedFrom groups c p ∧
      ((p.secondary = false ∧ c.symbol ∉ seen ∧ seen' = c.symbol :: seen) ∨
        (p.secondary = true ∧ (groups.root c.symbol = some c.symbol → c.symbol ∈ seen) ∧
          seen' = seen)) := by
  unfold prepare at h
  cases hroot : groups.root c.symbol with
  | none =>
    rw [hroot] at h
    cases h
  | some primary =>
    rw [hroot] at h
    simp only [] at h
    by_cases hfirst : c.symbol = primary ∧ primary ∉ seen
    · rw [if_pos hfirst] at h
      obtain ⟨tail, htail, h⟩ := bind_eq_ok.mp h
      cases h
      obtain ⟨hsymbol, hseen⟩ := hfirst
      rw [← hsymbol] at htail hseen
      refine ⟨_, tail, _, rfl, htail, ⟨.refl c, ?_⟩, Or.inl ⟨rfl, hseen, rfl⟩⟩
      intro _
      rw [hroot, hsymbol]
    · rw [if_neg hfirst] at h
      obtain ⟨total, -, h⟩ := bind_eq_ok.mp h
      obtain ⟨tail, htail, h⟩ := bind_eq_ok.mp h
      cases h
      refine ⟨_, tail, _, rfl, htail,
        ⟨⟨rfl, rfl, rfl, rfl, rfl, rfl, rfl, rfl, rfl, rfl, rfl, rfl⟩, nofun⟩, Or.inr ⟨rfl, ?_, rfl⟩⟩
      intro hself
      by_contra hseen
      rw [Option.some.injEq] at hself
      exact hfirst ⟨hself.symm, hself ▸ hseen⟩

/-- Both may not be free: they would be two candidates of one symbol. -/
def OneFree (p q : Prepared) : Prop :=
  p.secondary = false → q.secondary = false → p.candidate.symbol ≠ q.candidate.symbol

instance instSymmOneFree : Std.Symm OneFree := ⟨fun _ _ h hq hp => (h hp hq).symm⟩

theorem prepare_spec {groups : Groups} : ∀ {candidates : List SetupCandidate} {seen : List Symbol}
    {prepared : List Prepared}, prepare groups candidates seen = .ok prepared →
    List.Forall₂ (PreparedFrom groups) candidates prepared ∧
      (∀ p ∈ prepared, p.secondary = false → p.candidate.symbol ∉ seen) ∧
      prepared.Pairwise OneFree := by
  intro candidates
  induction candidates with
  | nil =>
    intro seen prepared h
    cases h
    exact ⟨.nil, fun p hp => absurd hp List.not_mem_nil, .nil⟩
  | cons c rest ih =>
    intro seen prepared h
    obtain ⟨p, tail, seen', rfl, htail, hp, hseen⟩ := prepare_cons h
    obtain ⟨hall, hfree, hpairs⟩ := ih htail
    have hsub : ∀ x ∈ seen, x ∈ seen' := by
      rcases hseen with ⟨-, -, hs⟩ | ⟨-, -, hs⟩
      · rw [hs]
        exact fun x hx => List.mem_cons_of_mem _ hx
      · rw [hs]
        exact fun _ => id
    refine ⟨.cons hp hall, ?_, List.pairwise_cons.mpr ⟨?_, hpairs⟩⟩
    · intro q hq hfreeq hmem
      rcases List.mem_cons.mp hq with hq | hq
      · rcases hseen with ⟨-, hs, -⟩ | ⟨hs, -, -⟩
        · rw [hq, hp.same.symbol] at hmem
          exact hs hmem
        · rw [hq, hs] at hfreeq
          cases hfreeq
      · exact hfree q hq hfreeq (hsub _ hmem)
    · intro q hq hfreep hfreeq hsymbol
      rcases hseen with ⟨-, -, hs⟩ | ⟨hs, -, -⟩
      · refine hfree q hq hfreeq ?_
        rw [hs, ← hsymbol, hp.same.symbol]
        exact List.mem_cons_self
      · rw [hs] at hfreep
        cases hfreep

/-- A candidate of the symbol of a root is free, no later than any given one. -/
theorem prepare_first {groups : Groups} {c : SetupCandidate} {after : List SetupCandidate}
    (hroot : groups.root c.symbol = some c.symbol) :
    ∀ {before : List SetupCandidate} {seen : List Symbol} {prepared : List Prepared},
      prepare groups (before ++ c :: after) seen = .ok prepared → c.symbol ∉ seen →
      ∃ d ∈ before ++ [c], ∃ p ∈ prepared, PreparedFrom groups d p ∧ p.secondary = false ∧
        d.symbol = c.symbol := by
  intro before
  induction before with
  | nil =>
    intro seen prepared h hseen
    obtain ⟨p, tail, seen', rfl, -, hp, hfree⟩ := prepare_cons h
    rcases hfree with ⟨hfree, -, -⟩ | ⟨-, hmem, -⟩
    · exact ⟨c, List.mem_cons_self, p, List.mem_cons_self, hp, hfree, rfl⟩
    · exact absurd (hmem hroot) hseen
  | cons first before ih =>
    intro seen prepared h hseen
    obtain ⟨p, tail, seen', rfl, htail, hp, hfree⟩ := prepare_cons h
    have hlater : c.symbol ∉ seen' → ∃ d ∈ (first :: before) ++ [c], ∃ q ∈ p :: tail,
        PreparedFrom groups d q ∧ q.secondary = false ∧ d.symbol = c.symbol := by
      intro hseen'
      obtain ⟨d, hd, q, hq, hrest⟩ := ih htail hseen'
      exact ⟨d, List.mem_cons_of_mem _ hd, q, List.mem_cons_of_mem _ hq, hrest⟩
    rcases hfree with ⟨hfree, -, hs⟩ | ⟨-, -, hs⟩
    · by_cases hsymbol : first.symbol = c.symbol
      · exact ⟨first, List.mem_cons_self, p, List.mem_cons_self, hp, hfree, hsymbol⟩
      · refine hlater ?_
        rw [hs, List.mem_cons, not_or]
        exact ⟨fun he => hsymbol he.symm, hseen⟩
    · exact hlater (hs ▸ hseen)

/-! ## The caps -/

/-- The total score meets the threshold of the regime. -/
def Meets (limit : Option Decimal) (c : SetupCandidate) : Prop :=
  ∃ value, limit = some value ∧ value.atMost c.totalScore = true

/-- What the last loop makes of one entry. -/
structure ChosenFrom (limit : Option Decimal) (p : Prepared) (o : SetupCandidate) : Prop where
  same : SameCandidate p.candidate o
  penalties : o.penalties = p.candidate.penalties
  secondary : o.secondaryAlternative = p.secondary
  highlighted : o.executiveHighlight = true → o.selectedForPlan = true
  selected : o.selectedForPlan = true → p.secondary = false ∧ Meets limit o

theorem rejectionReasons_eq_nil {limit : Option Decimal} {p : Prepared} {reasons : List String}
    {total : Decimal} (h : rejectionReasons limit p = .ok reasons)
    (htotal : candidateTotal p.candidate = .ok total) :
    reasons = [] ↔ p.secondary = false ∧ ∃ value, limit = some value ∧
      value.atMost total = true := by
  obtain ⟨score, hscore, h⟩ := bind_eq_ok.mp h
  cases h
  unfold scoreReasons at hscore
  cases limit with
  | none =>
    cases hscore
    simp
  | some value =>
    simp only [htotal] at hscore
    cases hscore
    by_cases hless : total.less value = true
    · have hle : value.atMost total = false := by simpa [Decimal.less] using hless
      simp [hless, hle]
    · have hle : value.atMost total = true := by simpa [Decimal.less] using hless
      simp [hless, hle]

/-- The loop, from counts within the caps. -/
theorem select_spec {limit : Option Decimal} : ∀ {entries : List Prepared}
    {selected highlighted : Nat} {output : List SetupCandidate},
    select limit entries selected highlighted = .ok output → selected ≤ planCap →
    highlighted ≤ highlightCap →
    List.Forall₂ (ChosenFrom limit) entries output ∧
      selected + (output.filter (·.selectedForPlan)).length ≤ planCap ∧
      highlighted + (output.filter (·.executiveHighlight)).length ≤ highlightCap ∧
      ∀ before o after, output = before ++ o :: after → o.secondaryAlternative = false →
        Meets limit o → o.selectedForPlan = false →
        selected + (before.filter (·.selectedForPlan)).length = planCap := by
  intro entries
  induction entries with
  | nil =>
    intro selected highlighted output h hselected hhighlighted
    cases h
    refine ⟨.nil, hselected, hhighlighted, ?_⟩
    intro before o after he
    simp at he
  | cons p rest ih =>
    intro selected highlighted output h hselected hhighlighted
    unfold select at h
    obtain ⟨reasons, hreasons, h⟩ := bind_eq_ok.mp h
    obtain ⟨o, ho, h⟩ := bind_eq_ok.mp h
    obtain ⟨outputs, houtputs, h⟩ := bind_eq_ok.mp h
    cases h
    obtain ⟨hsame, hpenalties, htotal, hsel, hhigh, hsec⟩ := withSelection_spec ho
    have hadmitted := rejectionReasons_eq_nil hreasons htotal
    rw [← List.isEmpty_iff] at hadmitted
    rw [← hhigh, ← hsel] at houtputs
    have hselected' : selected + o.selectedForPlan.toNat ≤ planCap := by
      rw [hsel]
      by_cases hroom : selected < planCap
      · have := Bool.toNat_le (reasons.isEmpty && decide (selected < planCap))
        omega
      · simp [hroom, hselected]
    have hhighlighted' : highlighted + o.executiveHighlight.toNat ≤ highlightCap := by
      rw [hhigh]
      by_cases hroom : highlighted < highlightCap
      · have := Bool.toNat_le (reasons.isEmpty && decide (selected < planCap) &&
          decide (highlighted < highlightCap))
        omega
      · simp [hroom, hhighlighted]
    obtain ⟨hall, hplans, hhighlights, hcapped⟩ := ih houtputs hselected' hhighlighted'
    have hchosen : ChosenFrom limit p o := by
      refine ⟨hsame, hpenalties, hsec, ?_, ?_⟩
      · rw [hhigh, hsel]
        intro hboth
        exact (Bool.and_eq_true_iff.mp hboth).1
      · rw [hsel]
        intro hboth
        exact hadmitted.mp (Bool.and_eq_true_iff.mp hboth).1
    refine ⟨.cons hchosen hall, ?_, ?_, ?_⟩
    · rw [List.filter_cons]
      cases hb : o.selectedForPlan with
      | true =>
        rw [hb, Bool.toNat_true] at hplans
        rw [if_pos rfl, List.length_cons]
        omega
      | false =>
        rw [hb, Bool.toNat_false] at hplans
        rw [if_neg (by decide)]
        omega
    · rw [List.filter_cons]
      cases hb : o.executiveHighlight with
      | true =>
        rw [hb, Bool.toNat_true] at hhighlights
        rw [if_pos rfl, List.length_cons]
        omega
      | false =>
        rw [hb, Bool.toNat_false] at hhighlights
        rw [if_neg (by decide)]
        omega
    · intro before other after he hfree hmeets hnot
      cases before with
      | nil =>
        obtain ⟨rfl, rfl⟩ : o = other ∧ outputs = after := by simpa using he
        -- An admitted candidate is left out only when the plan cap is reached.
        have hnil : reasons.isEmpty = true := hadmitted.mpr ⟨hsec ▸ hfree, hmeets⟩
        rw [hsel, hnil, Bool.true_and, decide_eq_false_iff_not] at hnot
        rw [List.filter_nil, List.length_nil]
        omega
      | cons first before =>
        obtain ⟨rfl, rfl⟩ : o = first ∧ outputs = before ++ other :: after := by simpa using he
        have hrest := hcapped before other after rfl hfree hmeets hnot
        rw [List.filter_cons]
        cases hb : o.selectedForPlan with
        | true =>
          rw [hb, Bool.toNat_true] at hrest
          rw [if_pos rfl, List.length_cons]
          omega
        | false =>
          rw [hb, Bool.toNat_false] at hrest
          rw [if_neg (by decide)]
          omega

/-! ## The whole ranking -/

/-- The key of one candidate is strictly before that of the other. -/
def Ahead (a b : SetupCandidate) : Prop :=
  ∃ ka kb, sortKey a = .ok ka ∧ sortKey b = .ok kb ∧ ka.cmp kb = .lt

/-- What a ranking is, when the `strong` correlations connect the exposure of symbols. -/
structure Selects (strong : CorrelationEvidence → Prop) (correlations : List CorrelationEvidence)
    (limit : Option Decimal) (candidates output : List SetupCandidate) : Prop where
  permutation : ∃ arranged, arranged.Perm candidates ∧ List.Forall₂ SameCandidate arranged output
  plans : (output.filter (·.selectedForPlan)).length ≤ 5
  highlights : (output.filter (·.executiveHighlight)).length ≤ 3
  highlighted : ∀ o ∈ output, o.executiveHighlight = true → o.selectedForPlan = true
  meets : ∀ o ∈ output, o.selectedForPlan = true → Meets limit o
  exclusive : output.Pairwise fun a b => a.selectedForPlan = true → b.selectedForPlan = true →
    ¬ Linked strong correlations (candidates.map SetupCandidate.symbol) a.symbol b.symbol
  representative : ∀ o ∈ output, ∃ p ∈ output, p.secondaryAlternative = false ∧
    Linked strong correlations (candidates.map SetupCandidate.symbol) o.symbol p.symbol ∧
    ∀ d ∈ output,
      Linked strong correlations (candidates.map SetupCandidate.symbol) o.symbol d.symbol →
      KeyAtMost prePenaltyKey p d ∧ (d.secondaryAlternative = false → d = p)
  ranked : output.Pairwise Ahead
  capped : ∀ before o after, output = before ++ o :: after → o.secondaryAlternative = false →
    Meets limit o → o.selectedForPlan = false →
    (before.filter (·.selectedForPlan)).length = 5

/-- What `rank_candidates` goes through. -/
structure Stages where
  normalized : List SetupCandidate
  sorted : List SetupCandidate
  groups : Groups
  prepared : List Prepared
  ordered : List Prepared

/-- The stages of one ranking. -/
structure RankingRun (candidates : List SetupCandidate) (limit : Option Decimal)
    (correlations : List CorrelationEvidence) (output : List SetupCandidate) (s : Stages) :
    Prop where
  normalized : List.Forall₂ (fun c n => withoutCorrelationPenalty c = .ok n) candidates s.normalized
  sorted : s.sorted.Perm s.normalized
  sortedKeys : s.sorted.Pairwise (KeyAtMost sortKey)
  keyed : ∀ n ∈ s.sorted, ∃ k, sortKey n = .ok k
  linked : ∀ x ∈ s.sorted.map SetupCandidate.symbol, ∀ y, s.groups.root x = s.groups.root y ↔
    Linked Strong correlations (s.sorted.map SetupCandidate.symbol) x y
  rooted : ∀ x r, s.groups.root x = some r → s.groups.root r = some r
  earlier : ∀ before n after, s.sorted = before ++ n :: after →
    ∃ c ∈ before ++ [n], s.groups.root n.symbol = some c.symbol
  prepared : prepare s.groups s.sorted [] = .ok s.prepared
  ordered : s.ordered.Perm s.prepared
  orderedKeys : s.ordered.Pairwise (KeyAtMost fun p => sortKey p.candidate)
  output : select limit s.ordered 0 0 = .ok output

theorem exists_rankingRun {candidates : List SetupCandidate} {regime : Regime}
    {resultVersion policyVersion : String} {correlations : List CorrelationEvidence}
    {output : List SetupCandidate}
    (h : rankCandidates candidates regime resultVersion policyVersion correlations = .ok output) :
    ∃ s, RankingRun candidates (threshold regime) correlations output s := by
  obtain ⟨_, _, h⟩ := bind_eq_ok.mp h
  obtain ⟨normalized, hnormalized, h⟩ := bind_eq_ok.mp h
  obtain ⟨sorted, hsorted, h⟩ := bind_eq_ok.mp h
  obtain ⟨lookup, hlookup, h⟩ := bind_eq_ok.mp h
  obtain ⟨groups, hgroups, h⟩ := bind_eq_ok.mp h
  obtain ⟨prepared, hprepared, h⟩ := bind_eq_ok.mp h
  obtain ⟨ordered, hordered, houtput⟩ := bind_eq_ok.mp h
  rw [numeric_eq_ok] at hnormalized hsorted hgroups hordered houtput
  obtain ⟨hperm, hkeys, hkeyed⟩ := sortedBy_spec hsorted
  obtain ⟨hperm', hkeys', -⟩ := sortedBy_spec hordered
  obtain ⟨edges, hedges, hgroups⟩ := bind_eq_ok.mp hgroups
  cases hgroups
  have hedge := edge_iff hlookup hedges
  have hnext : ∀ x ∈ sorted.map SetupCandidate.symbol, ∀ edge ∈ neighbours
      (sorted.map SetupCandidate.symbol) edges x, edge.1 ∈ sorted.map SetupCandidate.symbol := by
    intro x _ edge hmem
    exact ((hedge x edge.1).mp ⟨edge.2, hmem⟩).2.1
  have hsymm : ∀ x y, Components.Edge (neighbours (sorted.map SetupCandidate.symbol) edges) x y →
      Components.Edge (neighbours (sorted.map SetupCandidate.symbol) edges) y x := by
    intro x y hxy
    obtain ⟨hx, hy, e, he, hs, hjoins⟩ := (hedge x y).mp hxy
    exact (hedge y x).mpr ⟨hy, hx, e, he, hs, hjoins.symm⟩
  refine ⟨⟨normalized, sorted,
    Components.label (neighbours (sorted.map SetupCandidate.symbol) edges)
      (sorted.map SetupCandidate.symbol), prepared, ordered⟩,
    mapM_eq_ok.mp hnormalized, hperm, hkeys, ?_, ?_, ?_, ?_, hprepared, hperm', hkeys', houtput⟩
  · intro n hn
    exact hkeyed n (hperm.mem_iff.mp hn)
  · intro x hx y
    have hrel : Components.Edge (neighbours (sorted.map SetupCandidate.symbol) edges) =
        Exposed Strong correlations (sorted.map SetupCandidate.symbol) := by
      funext a b
      exact propext (hedge a b)
    have hroots := Components.root_eq_iff hnext hsymm (y := y) hx
    rwa [Components.Connected, hrel] at hroots
  · intro x r hr
    exact ((Components.label_spec hnext hsymm).root x r hr).2.1
  · intro before n after he
    have hsymbols : sorted.map SetupCandidate.symbol = before.map SetupCandidate.symbol ++
        n.symbol :: after.map SetupCandidate.symbol := by
      have hsplit : sorted = before ++ n :: after := he
      rw [hsplit, List.map_append, List.map_cons]
    obtain ⟨r, hr, hroot⟩ := Components.exists_root_of_append hnext hsymm hsymbols
    have happend : before.map SetupCandidate.symbol ++ [n.symbol] =
        (before ++ [n]).map SetupCandidate.symbol := by
      rw [List.map_append, List.map_singleton]
    rw [happend] at hr
    obtain ⟨c, hc, hcr⟩ := List.mem_map.mp hr
    rw [← hcr] at hroot
    exact ⟨c, hc, hroot⟩

/-- Two entries that are not secondary have different symbols. -/
def FreeApart (a b : SetupCandidate) : Prop :=
  a.secondaryAlternative = false → b.secondaryAlternative = false → a.symbol ≠ b.symbol

instance instSymmFreeApart : Std.Symm FreeApart := ⟨fun _ _ h hb ha => (h ha hb).symm⟩

namespace RankingRun

variable {candidates output : List SetupCandidate} {limit : Option Decimal}
  {correlations : List CorrelationEvidence} {s : Stages}

/-- A normalized candidate is one of the candidates. -/
theorem origin (h : RankingRun candidates limit correlations output s) {n : SetupCandidate} (hn : n ∈ s.sorted) :
    ∃ c ∈ candidates, withoutCorrelationPenalty c = .ok n :=
  exists_left h.normalized (h.sorted.mem_iff.mp hn)

theorem chosen (h : RankingRun candidates limit correlations output s) : List.Forall₂ (ChosenFrom limit) s.ordered output :=
  (select_spec h.output (Nat.zero_le _) (Nat.zero_le _)).1

/-- Where an entry of the output comes from. -/
theorem exists_prepared (h : RankingRun candidates limit correlations output s) {o : SetupCandidate} (ho : o ∈ output) :
    ∃ n ∈ s.sorted, ∃ p ∈ s.prepared, PreparedFrom s.groups n p ∧ ChosenFrom limit p o := by
  obtain ⟨p, hp, hchosen⟩ := exists_left h.chosen ho
  obtain ⟨n, hn, hprepared⟩ := exists_left (prepare_spec h.prepared).1 (h.ordered.mem_iff.mp hp)
  exact ⟨n, hn, p, h.ordered.mem_iff.mp hp, hprepared, hchosen⟩

theorem mem_symbols (h : RankingRun candidates limit correlations output s) (x : Symbol) :
    x ∈ s.sorted.map SetupCandidate.symbol ↔ x ∈ candidates.map SetupCandidate.symbol := by
  rw [List.mem_map, List.mem_map]
  constructor
  · intro hx
    obtain ⟨n, hn, hx⟩ := hx
    obtain ⟨c, hc, hcn⟩ := h.origin hn
    exact ⟨c, hc, (withoutCorrelationPenalty_spec hcn).1.symbol ▸ hx⟩
  · intro hx
    obtain ⟨c, hc, hx⟩ := hx
    obtain ⟨n, hn, hcn⟩ := exists_right h.normalized hc
    exact ⟨n, h.sorted.mem_iff.mpr hn, (withoutCorrelationPenalty_spec hcn).1.symbol.trans hx⟩

/-- Two symbols of the ranking have one root exactly when they are linked. -/
theorem root_eq_iff (h : RankingRun candidates limit correlations output s) {x : Symbol} (hx : x ∈ s.sorted.map SetupCandidate.symbol) (y : Symbol) :
    s.groups.root x = s.groups.root y ↔
      Linked Strong correlations (candidates.map SetupCandidate.symbol) x y := by
  have hrel : Exposed Strong correlations (s.sorted.map SetupCandidate.symbol) =
      Exposed Strong correlations (candidates.map SetupCandidate.symbol) := by
    funext a b
    rw [Exposed, Exposed, h.mem_symbols, h.mem_symbols]
  rw [h.linked x hx, Linked, hrel]

theorem free_symbols (h : RankingRun candidates limit correlations output s) :
    output.Pairwise FreeApart := by
  have hordered : s.ordered.Pairwise OneFree :=
    (h.ordered.pairwise_iff fun hpq => Std.Symm.symm _ _ hpq).mpr (prepare_spec h.prepared).2.2
  refine Pointwise.pairwise ?_ h.chosen hordered
  intro p o p' o' hpo hpo' hfree ho ho'
  rw [hpo.same.symbol, hpo'.same.symbol]
  exact hfree (hpo.secondary ▸ ho) (hpo'.secondary ▸ ho')

/-- An entry that is not secondary has the symbol of its root. -/
theorem root_of_free (h : RankingRun candidates limit correlations output s) {o : SetupCandidate} (ho : o ∈ output)
    (hfree : o.secondaryAlternative = false) : s.groups.root o.symbol = some o.symbol := by
  obtain ⟨n, hn, p, hp, hprepared, hchosen⟩ := h.exists_prepared ho
  rw [hchosen.same.symbol, hprepared.same.symbol]
  exact hprepared.primary (hchosen.secondary ▸ hfree)

theorem mem_sorted_symbols (h : RankingRun candidates limit correlations output s) {o : SetupCandidate} (ho : o ∈ output) :
    o.symbol ∈ s.sorted.map SetupCandidate.symbol := by
  obtain ⟨n, hn, p, hp, hprepared, hchosen⟩ := h.exists_prepared ho
  rw [hchosen.same.symbol, hprepared.same.symbol]
  exact List.mem_map.mpr ⟨n, hn, rfl⟩

/-- No later than a candidate there is a free one of its root, with a key at most its own. -/
theorem exists_free (h : RankingRun candidates limit correlations output s) {n : SetupCandidate} (hn : n ∈ s.sorted) {r : Symbol}
    (hr : s.groups.root n.symbol = some r) :
    ∃ d ∈ s.sorted, ∃ p ∈ s.prepared, PreparedFrom s.groups d p ∧ p.secondary = false ∧ d.symbol = r ∧
      KeyAtMost sortKey d n := by
  obtain ⟨before, after, he⟩ := List.append_of_mem hn
  obtain ⟨c, hc, hroot⟩ := h.earlier before n after he
  rw [hr, Option.some.injEq] at hroot
  obtain ⟨first, later, hsplit⟩ := List.append_of_mem hc
  have hsorted : s.sorted = first ++ c :: (later ++ after) := by
    have hassoc : before ++ n :: after = (before ++ [n]) ++ after := by simp
    rw [he, hassoc, hsplit, List.append_assoc, List.cons_append]
  have hself : s.groups.root c.symbol = some c.symbol := by
    rw [← hroot]
    exact h.rooted _ _ hr
  have hprepared := h.prepared
  rw [hsorted] at hprepared
  obtain ⟨d, hd, p, hp, hdp, hfree, hsymbol⟩ :=
    prepare_first hself hprepared List.not_mem_nil
  have hdsorted : d ∈ s.sorted := by
    rw [hsorted]
    rcases List.mem_append.mp hd with hd | hd
    · exact List.mem_append_left _ hd
    · rw [List.mem_singleton.mp hd]
      exact List.mem_append_right _ List.mem_cons_self
  refine ⟨d, hdsorted, p, hp, hdp, hfree, hsymbol.trans hroot.symm, ?_⟩
  have hbefore : d ∈ before ++ [n] := by
    rw [hsplit]
    rcases List.mem_append.mp hd with hd | hd
    · exact List.mem_append_left _ hd
    · rw [List.mem_singleton.mp hd]
      exact List.mem_append_right _ List.mem_cons_self
  rcases List.mem_append.mp hbefore with hd | hd
  · have hkeys := h.sortedKeys
    rw [he, List.pairwise_append] at hkeys
    exact hkeys.2.2 d hd n List.mem_cons_self
  · rw [List.mem_singleton.mp hd]
    obtain ⟨k, hk⟩ := h.keyed n hn
    exact keyAtMost_self hk

/-- The output is the candidates in some arrangement. -/
theorem permutation (h : RankingRun candidates limit correlations output s) :
    ∃ arranged, arranged.Perm candidates ∧ List.Forall₂ SameCandidate arranged output := by
  obtain ⟨first, hfirst, hsorted⟩ := Pointwise.perm h.normalized h.sorted
  have hprepared := Pointwise.comp hsorted (prepare_spec h.prepared).1
  obtain ⟨second, hsecond, hordered⟩ := Pointwise.perm hprepared h.ordered
  refine ⟨second, hsecond.trans hfirst, (Pointwise.comp hordered h.chosen).imp ?_⟩
  intro c o hco
  obtain ⟨p, -, ⟨n, -, hcn, hnp⟩, hpo⟩ := hco
  exact ((withoutCorrelationPenalty_spec hcn).1.trans hnp.same).trans hpo.same

/-- The key before the penalty of an output is that of its normalized candidate. -/
theorem prePenaltyKey_eq (h : RankingRun candidates limit correlations output s)
    {n : SetupCandidate} {p : Prepared} {o : SetupCandidate} (hn : n ∈ s.sorted)
    (hprepared : PreparedFrom s.groups n p) (hchosen : ChosenFrom limit p o) :
    prePenaltyKey o = sortKey n := by
  obtain ⟨c, -, hcn⟩ := h.origin hn
  exact prePenaltyKey_of_same hcn
    (((withoutCorrelationPenalty_spec hcn).1.trans hprepared.same).trans hchosen.same)

/-- The member of a group that is not secondary. -/
theorem representative (h : RankingRun candidates limit correlations output s)
    {o : SetupCandidate} (ho : o ∈ output) : ∃ p ∈ output, p.secondaryAlternative = false ∧
      Linked Strong correlations (candidates.map SetupCandidate.symbol) o.symbol p.symbol ∧
      ∀ d ∈ output,
        Linked Strong correlations (candidates.map SetupCandidate.symbol) o.symbol d.symbol →
        KeyAtMost prePenaltyKey p d ∧ (d.secondaryAlternative = false → d = p) := by
  have hosymbol := h.mem_sorted_symbols ho
  obtain ⟨n, hn, q, hq, hnq, hqo⟩ := h.exists_prepared ho
  have hnsymbol : o.symbol = n.symbol := hqo.same.symbol.trans hnq.same.symbol
  have hroot : ∃ r, s.groups.root o.symbol = some r := by
    obtain ⟨before, after, he⟩ := List.append_of_mem hn
    obtain ⟨c, -, hc⟩ := h.earlier before n after he
    exact ⟨c.symbol, hnsymbol ▸ hc⟩
  obtain ⟨r, hr⟩ := hroot
  obtain ⟨first, hfirst, p, hp, hfp, hfree, hsymbol, -⟩ := h.exists_free hn (hnsymbol ▸ hr)
  obtain ⟨top, htop, hptop⟩ := exists_right h.chosen (h.ordered.mem_iff.mpr hp)
  have htopfree : top.secondaryAlternative = false := hptop.secondary.trans hfree
  have htopsymbol : top.symbol = r := by
    rw [hptop.same.symbol, hfp.same.symbol, hsymbol]
  refine ⟨top, htop, htopfree, ?_, ?_⟩
  · rw [← h.root_eq_iff hosymbol, hr, htopsymbol, h.rooted _ _ hr]
  · intro d hd hlinked
    rw [← h.root_eq_iff hosymbol, hr] at hlinked
    obtain ⟨m, hm, qd, hqd, hmd, hqdd⟩ := h.exists_prepared hd
    have hmsymbol : d.symbol = m.symbol := hqdd.same.symbol.trans hmd.same.symbol
    constructor
    · obtain ⟨e, he, pe, hpe, hepe, hefree, hesymbol, hkeys⟩ :=
        h.exists_free hm (hmsymbol ▸ hlinked.symm)
      -- Both free entries have the symbol of the root, so they are one entry.
      have hsame : pe = p := by
        by_contra hne
        refine (prepare_spec h.prepared).2.2.forall hpe hp hne hefree hfree ?_
        rw [hepe.same.symbol, hesymbol, hfp.same.symbol, hsymbol]
      obtain ⟨ke, km, hke, hkm, hle⟩ := hkeys
      refine ⟨ke, km, ?_, ?_, hle⟩
      · rw [h.prePenaltyKey_eq he hepe (hsame ▸ hptop)]
        exact hke
      · rw [h.prePenaltyKey_eq hm hmd hqdd]
        exact hkm
    · intro hdfree
      by_contra hne
      have hdroot := h.root_of_free hd hdfree
      rw [← hlinked, Option.some.injEq] at hdroot
      exact h.free_symbols.forall hd htop hne hdfree htopfree (hdroot.symm.trans htopsymbol.symm)

theorem ahead (h : RankingRun candidates limit correlations output s)
    (hids : (candidates.map SetupCandidate.candidateId).Nodup) : output.Pairwise Ahead := by
  have hkeys : output.Pairwise (KeyAtMost sortKey) := by
    refine Pointwise.pairwise ?_ h.chosen h.orderedKeys
    intro p o p' o' hpo hpo' hle
    obtain ⟨k, k', hk, hk', hle⟩ := hle
    refine ⟨k, k', ?_, ?_, hle⟩
    · rw [sortKey_congr hpo.same (by rw [hpo.penalties])]
      exact hk
    · rw [sortKey_congr hpo'.same (by rw [hpo'.penalties])]
      exact hk'
  have hdistinct : output.Pairwise fun a b => a.candidateId ≠ b.candidateId := by
    obtain ⟨arranged, hperm, hall⟩ := h.permutation
    have hnodup := ((hperm.map SetupCandidate.candidateId).nodup_iff).mpr hids
    rw [List.Nodup, List.pairwise_map] at hnodup
    refine Pointwise.pairwise ?_ hall hnodup
    intro c o c' o' hco hco' hne
    rwa [hco.candidateId, hco'.candidateId]
  refine (hkeys.and hdistinct).imp ?_
  intro a b hab
  obtain ⟨⟨ka, kb, hka, hkb, hle⟩, hne⟩ := hab
  refine ⟨ka, kb, hka, hkb, ?_⟩
  cases hcmp : ka.cmp kb with
  | lt => rfl
  | gt =>
    rw [hcmp] at hle
    cases hle
  | eq =>
    have hid := SortKey.candidateId_of_cmp_eq hcmp
    rw [candidateId_of_sortKey hka, candidateId_of_sortKey hkb] at hid
    exact absurd (Identifier.eq_of_text hid) hne

theorem selects (h : RankingRun candidates limit correlations output s)
    (hids : (candidates.map SetupCandidate.candidateId).Nodup) :
    Selects Strong correlations limit candidates output := by
  obtain ⟨-, hplans, hhighlights, hcapped⟩ :=
    select_spec h.output (Nat.zero_le _) (Nat.zero_le _)
  rw [Nat.zero_add] at hplans hhighlights
  refine ⟨h.permutation, hplans, hhighlights, ?_, ?_, ?_, fun o => h.representative, h.ahead hids,
    ?_⟩
  · intro o ho
    obtain ⟨p, -, hpo⟩ := exists_left h.chosen ho
    exact hpo.highlighted
  · intro o ho hselected
    obtain ⟨p, -, hpo⟩ := exists_left h.chosen ho
    exact (hpo.selected hselected).2
  · have hfree : ∀ o ∈ output, o.selectedForPlan = true → o.secondaryAlternative = false := by
      intro o ho hselected
      obtain ⟨p, -, hpo⟩ := exists_left h.chosen ho
      exact hpo.secondary.trans (hpo.selected hselected).1
    refine h.free_symbols.imp_of_mem ?_
    intro a b ha hb hne hselecta hselectb hlinked
    rw [← h.root_eq_iff (h.mem_sorted_symbols ha), h.root_of_free ha (hfree a ha hselecta),
      h.root_of_free hb (hfree b hb hselectb), Option.some.injEq] at hlinked
    exact hne (hfree a ha hselecta) (hfree b hb hselectb) hlinked
  · intro before o after he hofree hmeets hnot
    have hcount := hcapped before o after he hofree hmeets hnot
    rwa [Nat.zero_add] at hcount

end RankingRun

/-- **A ranking selects within the caps, one candidate for each exposure group**, where the
groups are made by the coefficients as the numeric context sees them. -/
theorem rankCandidates_selects {candidates : List SetupCandidate} {regime : Regime}
    {resultVersion policyVersion : String} {correlations : List CorrelationEvidence}
    {output : List SetupCandidate}
    (h : rankCandidates candidates regime resultVersion policyVersion correlations = .ok output)
    (hids : (candidates.map SetupCandidate.candidateId).Nodup) :
    Selects Strong correlations (threshold regime) candidates output := by
  obtain ⟨s, hrun⟩ := exists_rankingRun h
  exact hrun.selects hids

/-! ### A sample -/

def sampleComponent : ScoreComponent where
  quality := Decimal.one
  weight := ⟨false, 15, 0⟩
  points := ⟨false, 15, 0⟩
  fraction := by decide
  weighted := by decide

def samplePenalty : ScorePenalty where
  points := Decimal.zero
  reason := "No penalty"
  evidenceIds := noEvidence

/-- Data of the best quality. -/
def sampleQuality : DataQualityResult where
  status := .pass
  capabilities := FinanceResearch.capabilityStates .empty
  globalReasonCodes := .none
  symbolCapabilities := FrozenMap.empty
  symbolPlanStatuses := FrozenMap.empty
  valid := by decide

/-- A candidate with a score of 90. -/
def sampleCandidate (candidateId : Identifier) (symbol : Symbol) : SetupCandidate where
  candidateId := candidateId
  symbol := symbol
  regimePolicyVersion := "1"
  evidenceCutoffAt := 0
  dataQuality := sampleQuality
  components := ⟨sampleComponent, sampleComponent, sampleComponent, sampleComponent,
    sampleComponent, sampleComponent⟩
  penalties := ⟨samplePenalty, samplePenalty, samplePenalty, samplePenalty⟩
  positiveScore := ⟨false, 90, 0⟩
  totalScore := ⟨false, 90, 0⟩
  dataQualityRank := Decimal.one
  liquidityRank := Decimal.one
  selectedForPlan := false
  executiveHighlight := false
  secondaryAlternative := false
  primarySymbol := none
  selectionReasons := []

def sampleCandidates : List SetupCandidate :=
  [sampleCandidate ⟨"AAA-breakout", by decide⟩ ⟨"AAA", by decide⟩,
   sampleCandidate ⟨"BBB-breakout", by decide⟩ ⟨"BBB", by decide⟩]

/-- A coefficient of 31 digits, less than the threshold by its last one. -/
def sampleCorrelation : CorrelationEvidence where
  leftSymbol := ⟨"AAA", by decide⟩
  rightSymbol := ⟨"BBB", by decide⟩
  coefficient := ⟨false, 8999999999999999999999999999999, -31⟩
  evidenceIds := noEvidence
  observedAt := 0
  exposureDescription := ⟨"Same industry", by decide, by decide⟩
  bounded := by decide

/-- The symbols of a ranking, and which of them are secondary. -/
def secondaries (result : Except RankError (List SetupCandidate)) : Option (List (String × Bool)) :=
  result.toOption.map fun output => output.map fun o => (o.symbol.text, o.secondaryAlternative)

theorem exists_of_secondaries {result : Except RankError (List SetupCandidate)}
    {flags : List (String × Bool)} (h : secondaries result = some flags) :
    ∃ output, result = .ok output ∧
      (output.map fun o => (o.symbol.text, o.secondaryAlternative)) = flags := by
  cases result with
  | error e => cases h
  | ok output => exact ⟨output, rfl, Option.some.inj h⟩

theorem sampleCandidates_nodup : (sampleCandidates.map SetupCandidate.candidateId).Nodup := by
  decide

theorem sampleCandidates_ranked : ∃ output,
    rankCandidates sampleCandidates .permissive "1" "1" [sampleCorrelation] = .ok output ∧
      (output.map fun o => (o.symbol.text, o.secondaryAlternative)) =
        [("AAA", false), ("BBB", true)] :=
  exists_of_secondaries (by decide)

theorem rankCandidates_selects_sample : ∃ output,
    rankCandidates sampleCandidates .permissive "1" "1" [sampleCorrelation] = .ok output ∧
      Selects Strong [sampleCorrelation] (threshold .permissive) sampleCandidates output := by
  obtain ⟨output, h, -⟩ := sampleCandidates_ranked
  exact ⟨output, h, rankCandidates_selects h sampleCandidates_nodup⟩

/-- The exact size of the coefficient reaches the threshold. -/
def ReachesThreshold (e : CorrelationEvidence) : Prop :=
  correlationThreshold.value ≤ |e.coefficient.value|

/-- With exact coefficients the second candidate is a group of its own, and yet a
secondary alternative: `abs` rounded its coefficient up to the threshold. -/
theorem exact_groups_fail : ∃ output,
    rankCandidates sampleCandidates .permissive "1" "1" [sampleCorrelation] = .ok output ∧
      (sampleCandidates.map SetupCandidate.candidateId).Nodup ∧
      ¬ Selects ReachesThreshold [sampleCorrelation] (threshold .permissive) sampleCandidates
        output := by
  obtain ⟨output, h, hflags⟩ := sampleCandidates_ranked
  refine ⟨output, h, sampleCandidates_nodup, ?_⟩
  intro hselects
  have hweak : ¬ ReachesThreshold sampleCorrelation := by
    unfold ReachesThreshold
    norm_num [Decimal.value, Decimal.signed, correlationThreshold, sampleCorrelation]
  have hlinked : ∀ x y, Linked ReachesThreshold [sampleCorrelation]
      (sampleCandidates.map SetupCandidate.symbol) x y → y = x := by
    intro x y hxy
    induction hxy with
    | refl => rfl
    | tail _ hstep _ =>
      obtain ⟨-, -, e, he, hs, -⟩ := hstep
      rw [List.mem_singleton.mp he] at hs
      exact absurd hs hweak
  have hmem : ("BBB", true) ∈ output.map fun o => (o.symbol.text, o.secondaryAlternative) := by
    rw [hflags]
    decide
  obtain ⟨o, ho, hsecond⟩ := List.mem_map.mp hmem
  obtain ⟨p, hp, hfree, hop, -⟩ := hselects.representative o ho
  have hpflag : (p.symbol.text, p.secondaryAlternative) ∈
      output.map fun o => (o.symbol.text, o.secondaryAlternative) :=
    List.mem_map.mpr ⟨p, hp, rfl⟩
  rw [hflags, hlinked _ _ hop, hfree, (Prod.mk.inj hsecond).1] at hpflag
  exact absurd hpflag (by decide)

end FinanceResearch.Scoring
