import FinanceResearch.Brief.Language
import FinanceResearch.Lib.Separators

/-!
# Where the numbers of a report come from

The validator compares each number of a claim's text with the claim's own value, to
the last decimal, and that value with what the packet offers, as a number; a URL with
those of the cited evidence. Narratives and warnings repeat claims, and a pattern does
not match across the space between two of them (`Regex.findAll_join`). `grounded_iff`
says what is left: values that only equal the packet's, numbers out of the range of
`Decimal`, and the invalidation of a claim without a plan, which nothing compares.
-/

namespace FinanceResearch

open Regex (Stops)

/-! ## Texts and claims -/

/-- A text copied verbatim from a plan or a gate of the packet. -/
def Copied (packet : ResearchPacket) (text : String) : Prop :=
  FromPlan packet text ∨ ∃ gate ∈ packet.gates, gate.message.val = text

/-- A part of a printed text, and the claim it belongs to. -/
def DraftText.Part (claims : List Claim) : DraftText → Claim → String → Prop
  | .claimText claim, owner, part => owner = claim ∧ part = claim.text.val
  | .invalidation claim text, owner, part => owner = claim ∧ part = text
  | .narrative item, owner, part =>
    owner ∈ claims ∧ owner.claimId ∈ item.claimIds ∧ part = owner.text.val
  | .warning text, owner, part => owner ∈ claims ∧ owner.text.val = text ∧ part = text

/-- The text repeats the claim's own text. -/
def DraftText.Repeats (claims : List Claim) : DraftText → Claim → Prop
  | .claimText claim, owner => owner = claim
  | .invalidation _ _, _ => False
  | .narrative item, owner => owner ∈ claims ∧ owner.claimId ∈ item.claimIds
  | .warning text, owner => owner ∈ claims ∧ owner.text.val = text

variable (u : CharacterDatabase) (packet : ResearchPacket) (claims : List Claim)

/-! ## Groundedness -/

/-- The packet offers exactly that number for the field and unit of the claim. -/
def Offers (claim : Claim) (number : Decimal) : Prop :=
  ∃ unit ∈ claim.unit, ∃ binding ∈ numericBindings u packet claims claim,
    number.SameQuantized binding.1 ∧ unit.text = binding.2

/-- Every number of the text is one the packet offers for the claim, and every URL is
that of evidence the claim cites. -/
def GroundedFor (claim : Claim) (text : String) : Prop :=
  (∀ token ∈ (Patterns.numericText u).findAll text,
    ∃ number ∈ Patterns.tokenNumber u token, Offers u packet claims claim number) ∧
  ∀ url ∈ (Patterns.urlText u).findAll text, url ∈ citedUrls packet claim

/-- Every number and URL of the text stands in a part that belongs to a claim, and every
such part is grounded for its claim. -/
def Grounded (t : DraftText) : Prop :=
  (∀ token ∈ (Patterns.numericText u).findAll t.text,
    ∃ claim part, t.Part claims claim part ∧ token ∈ (Patterns.numericText u).findAll part) ∧
  (∀ url ∈ (Patterns.urlText u).findAll t.text,
    ∃ claim part, t.Part claims claim part ∧ url ∈ (Patterns.urlText u).findAll part) ∧
  ∀ claim part, t.Part claims claim part → GroundedFor u packet claims claim part

/-- The numbers in the claim's text are in the range of `Decimal`, and the packet has the
claim's value with the same number of decimals. -/
def ExactNumbers (claim : Claim) : Prop :=
  numericTokens u claim ≠ [] →
    (∀ token ∈ numericTokens u claim, (Patterns.tokenNumber u token).isSome = true) ∧
    ∃ value ∈ claim.numericValue, Offers u packet claims claim value

variable {u packet claims} {draft : ResearchBriefDraft}

/-! ## One claim -/

/-- A number offered is offered in every form that is the same to the last decimal. -/
theorem Offers.congr {claim : Claim} {number value : Decimal}
    (h : Offers u packet claims claim value) (hsame : number.SameQuantized value) :
    Offers u packet claims claim number := by
  obtain ⟨unit, hunit, binding, hbinding, hvalue, htext⟩ := h
  exact ⟨unit, hunit, binding, hbinding, hsame.trans hvalue, htext⟩

/-- A claim that passes is grounded exactly when its numbers are exact. -/
theorem Passes.groundedFor_iff (h : Passes u packet draft) {claim : Claim}
    (hc : claim ∈ draft.claims) :
    GroundedFor u packet draft.claims claim claim.text.val ↔
      ExactNumbers u packet draft.claims claim := by
  obtain ⟨hbound, hother⟩ := h.numbers hc
  have hsame : ∀ token ∈ numericTokens u claim, ∀ number ∈ Patterns.tokenNumber u token,
      ∃ value ∈ claim.numericValue, number.SameQuantized value := by
    intro token htoken number hnumber
    by_contra hnone
    exact hother token htoken ⟨number, hnumber, hnone⟩
  constructor
  · rintro ⟨hnumbers, -⟩ hne
    refine ⟨fun token htoken => ?_, ?_⟩
    · obtain ⟨number, hnumber, -⟩ := hnumbers token htoken
      rw [Option.mem_def.mp hnumber]
      rfl
    · obtain ⟨token, htoken⟩ := List.exists_mem_of_ne_nil _ hne
      obtain ⟨number, hnumber, hoffers⟩ := hnumbers token htoken
      obtain ⟨value, hvalue, hq⟩ := hsame token htoken number hnumber
      exact ⟨value, hvalue, hoffers.congr hq.symm⟩
  · intro hexact
    refine ⟨fun token htoken => ?_, (h.language hc).2⟩
    obtain ⟨hsome, value, hvalue, hoffers⟩ := hexact (List.ne_nil_of_mem htoken)
    obtain ⟨number, hnumber⟩ := Option.isSome_iff_exists.mp (hsome token htoken)
    obtain ⟨value', hvalue', hq⟩ := hsame token htoken number hnumber
    rw [Option.mem_unique hvalue' hvalue] at hq
    exact ⟨number, hnumber, hoffers.congr hq⟩

/-! ## Patterns and the space -/

theorem stops_numericText (hu : u.PlainSpace) : (Patterns.numericText u).Stops ' ' := by
  simp [Patterns.numericText, Regex.all, Regex.any, Regex.opt, Regex.plus, Regex.char, Regex.digit,
    Regex.notBehind, Regex.notAhead, Stops, hu.noDigit, Patterns.isAsciiWord]

theorem stops_letters (hu : u.PlainSpace) {text : String} (h : ' ' ∉ text.toList) :
    (Regex.letters u text).Stops ' ' := by
  unfold Regex.letters
  generalize text.toList = cs at h
  have hset : ∀ c ∈ cs, (Regex.set (u.sameLetter c)).Stops ' ' := by
    intro c hc
    have hne : ¬ u.sameLetter c ' ' = true := fun hsame => h (hu.noLetter c hsame ▸ hc)
    simpa [Stops] using hne
  clear h
  induction cs with
  | nil => trivial
  | cons c rest ih =>
    cases rest with
    | nil => exact hset c List.mem_cons_self
    | cons d rest =>
      exact ⟨hset c List.mem_cons_self, ih fun e he => hset e (List.mem_cons_of_mem _ he)⟩

theorem stops_urlText (hu : u.PlainSpace) : (Patterns.urlText u).Stops ' ' := by
  refine ⟨stops_letters hu (by decide), ⟨stops_letters hu (by decide), trivial⟩,
    stops_letters hu (by decide), ?_⟩
  simp [Regex.all, Regex.plus, Stops, hu.isSpace]

/-- A match in a narrative is a match in one of its claims. -/
theorem Passes.match_in_narrative (h : Passes u packet draft) {r : Regex} (hr : r.Stops ' ')
    {item : PlanNarrative} (hn : item ∈ draft.planNarratives) {token : String}
    (htoken : token ∈ r.findAll item.text.val) :
    ∃ claim part, (DraftText.narrative item).Part draft.claims claim part ∧
      token ∈ r.findAll part := by
  obtain ⟨⟨concrete, hconcrete, htext, -⟩, -⟩ := h.narrative_spec hn
  have hjoin : r.findAll item.text.val = (concrete.map fun c => c.text.val).flatMap r.findAll := by
    rw [htext]
    exact Regex.findAll_join hr _
  rw [hjoin, List.mem_flatMap] at htoken
  obtain ⟨part, hpart, htoken⟩ := htoken
  obtain ⟨claim, hclaim, rfl⟩ := List.mem_map.mp hpart
  obtain ⟨id, hid, hfound⟩ := ((mem_narrativeClaims hconcrete).2 claim).mp hclaim
  obtain ⟨hc, rfl⟩ := claimById_mem hfound
  exact ⟨claim, claim.text.val, ⟨hc, hid, rfl⟩, htoken⟩

/-- A match in a warning that is no gate's message is a match in a claim. -/
theorem Passes.match_in_warning (h : Passes u packet draft) {warning : BoundedText 0 1000}
    (hw : warning ∈ draft.dataWarnings) (hcopied : ¬ Copied packet warning.val) :
    ∃ claim ∈ draft.claims, claim.text.val = warning.val := by
  have hrepeats := (h.warning_spec hw).1
  rw [packetWarnings, List.mem_append, List.mem_map, List.mem_map] at hrepeats
  rcases hrepeats with ⟨gate, hgate, htext⟩ | hclaim
  · exact absurd (Or.inr ⟨gate, (List.mem_filter.mp hgate).1, htext⟩) hcopied
  · exact hclaim

/-! ## The report -/

/-- **Everything a report prints of the draft, copies apart, is grounded exactly when the
claims it repeats have exact numbers and the invalidations of claims without a plan are
grounded.** -/
theorem grounded_iff (hu : u.PlainSpace) {validation : ValidationReport} {report : String}
    (h : renderMarkdownReport u packet draft validation = .ok report) :
    (∀ t, Prints u packet draft validation t → ¬ Copied packet t.text →
      Grounded u packet draft.claims t) ↔
    (∀ t, Printed draft t → ¬ Copied packet t.text → ∀ claim, t.Repeats draft.claims claim →
      ExactNumbers u packet draft.claims claim) ∧
    ∀ claim ∈ draft.claims, claim.planId = none → ∀ text ∈ claim.invalidation,
      ¬ Copied packet text.val → GroundedFor u packet draft.claims claim text.val := by
  have hpasses := passes_of_verifyReport (render_eq_ok.mp h).1
  constructor
  · intro hall
    refine ⟨fun t ht hcopied claim hclaim => ?_, fun claim hc _ text htext hcopied => ?_⟩
    · have hparts := (hall t ((prints_iff h).mpr ht) hcopied).2.2
      cases t with
      | claimText c =>
        obtain rfl := hclaim
        exact (hpasses.groundedFor_iff ht.1).mp (hparts claim _ ⟨rfl, rfl⟩)
      | invalidation c text => cases hclaim
      | narrative item =>
        exact (hpasses.groundedFor_iff hclaim.1).mp (hparts claim _ ⟨hclaim.1, hclaim.2, rfl⟩)
      | warning text =>
        obtain ⟨hc, rfl⟩ := hclaim
        exact (hpasses.groundedFor_iff hc).mp (hparts claim _ ⟨hc, rfl, rfl⟩)
    · by_cases hempty : text.val = ""
      · rw [hempty]
        exact ⟨nofun, nofun⟩
      · have hprinted : Printed draft (.invalidation claim text.val) :=
          ⟨hc, hempty, by rw [Option.mem_def.mp htext]; rfl⟩
        exact (hall _ ((prints_iff h).mpr hprinted) hcopied).2.2 claim text.val ⟨rfl, rfl⟩
  · rintro ⟨hexact, hinvalidation⟩ t ht hcopied
    have hprinted := (prints_iff h).mp ht
    have hrepeats := hexact t hprinted hcopied
    cases t with
    | claimText claim =>
      refine ⟨fun token htoken => ⟨claim, _, ⟨rfl, rfl⟩, htoken⟩,
        fun url hurl => ⟨claim, _, ⟨rfl, rfl⟩, hurl⟩, ?_⟩
      rintro _ _ ⟨rfl, rfl⟩
      exact (hpasses.groundedFor_iff hprinted.1).mpr (hrepeats _ rfl)
    | invalidation claim text =>
      refine ⟨fun token htoken => ⟨claim, _, ⟨rfl, rfl⟩, htoken⟩,
        fun url hurl => ⟨claim, _, ⟨rfl, rfl⟩, hurl⟩, ?_⟩
      rintro owner _ ⟨howner, rfl⟩
      rw [howner]
      obtain ⟨hc, -, htext⟩ := hprinted
      obtain ⟨value, hvalue, rfl⟩ := Option.map_eq_some_iff.mp htext
      cases hplan : claim.planId with
      | none => exact hinvalidation claim hc hplan value hvalue hcopied
      | some id =>
        exact absurd (Or.inl (hpasses.invalidation_fromPlan hc (by rw [hplan]; rfl) hvalue)) hcopied
    | narrative item =>
      refine ⟨fun token => hpasses.match_in_narrative (stops_numericText hu) hprinted,
        fun url => hpasses.match_in_narrative (stops_urlText hu) hprinted, ?_⟩
      rintro claim _ ⟨hc, hid, rfl⟩
      exact (hpasses.groundedFor_iff hc).mpr (hrepeats claim ⟨hc, hid⟩)
    | warning text =>
      obtain ⟨warning, hw, rfl⟩ := List.mem_map.mp hprinted
      obtain ⟨claim, hc, htext⟩ := hpasses.match_in_warning hw hcopied
      refine ⟨fun token htoken => ⟨claim, _, ⟨hc, htext, rfl⟩, htoken⟩,
        fun url hurl => ⟨claim, _, ⟨hc, htext, rfl⟩, hurl⟩, ?_⟩
      rintro owner _ ⟨howner, hsame, rfl⟩
      have hgrounded := (hpasses.groundedFor_iff howner).mpr (hrepeats owner ⟨howner, hsame⟩)
      rwa [hsame] at hgrounded

/-- On a draft whose invalidation has no number, the report is grounded if its claims are. -/
theorem grounded_sample :
    let draft := trendDraft ⟨"It may hold.", by decide⟩ ⟨"A close below.", by decide⟩
    ∃ validation, (∀ t, Prints .ascii trendPacket draft validation t →
        ¬ Copied trendPacket t.text → Grounded .ascii trendPacket draft.claims t) ↔
      (∀ t, Printed draft t → ¬ Copied trendPacket t.text → ∀ claim,
        t.Repeats draft.claims claim → ExactNumbers .ascii trendPacket draft.claims claim) ∧
      ∀ claim ∈ draft.claims, claim.planId = none → ∀ text ∈ claim.invalidation,
        ¬ Copied trendPacket text.val →
          GroundedFor .ascii trendPacket draft.claims claim text.val := by
  intro draft
  have hpasses : Passes .ascii trendPacket draft := passes_of_isEmpty (by decide)
  obtain ⟨validation, report, -, hreport⟩ :=
    hpasses.rendered (by decide) (List.mem_cons_self : 1 ∈ [1, 2, 3])
  exact ⟨validation, grounded_iff CharacterDatabase.ascii_plainSpace hreport⟩

/-- An invalidation may hold any number, and the report prints it. -/
theorem prints_ungrounded :
    ¬ ∀ (u : CharacterDatabase), u.PlainSpace → ∀ (packet : ResearchPacket)
      (draft : ResearchBriefDraft) (validation : ValidationReport) (report : String),
      renderMarkdownReport u packet draft validation = .ok report →
        ∀ t, Prints u packet draft validation t → ¬ Copied packet t.text →
          Grounded u packet draft.claims t := by
  intro hall
  let text : BoundedText 0 1000 := ⟨"A close below 90.", by decide⟩
  let claim := trendHypothesis ⟨"It may hold.", by decide⟩ text
  let draft := trendDraft ⟨"It may hold.", by decide⟩ text
  have hpasses : Passes .ascii trendPacket draft := passes_of_isEmpty (by decide)
  obtain ⟨validation, report, -, hreport⟩ :=
    hpasses.rendered (by decide) (List.mem_cons_self : 1 ∈ [1, 2, 3])
  have hprinted : Printed draft (.invalidation claim text.val) :=
    ⟨List.mem_cons_self, by simp [text], rfl⟩
  have hcopied : ¬ Copied trendPacket text.val := by
    rintro (⟨plan, hplan, -⟩ | ⟨gate, hgate, -⟩)
    · cases hplan
    · cases hgate
  obtain ⟨-, -, hparts⟩ := hall .ascii CharacterDatabase.ascii_plainSpace trendPacket draft
    validation report hreport _ ((prints_iff hreport).mpr hprinted) hcopied
  have htoken : "90." ∈ (Patterns.numericText .ascii).findAll text.val := by decide
  obtain ⟨number, -, unit, hunit, -⟩ := (hparts claim text.val ⟨rfl, rfl⟩).1 "90." htoken
  cases hunit

end FinanceResearch
