import FinanceResearch.Runs.Immutability
import FinanceResearch.Runs.Reachability

/-!
# The latest run of a date

`latest.json` names the greatest revision in `index.json`, and the index keeps the
receipt of a run that was quarantined after it was written. Completing a lower
revision then points `latest.json` at a run that is not there, and `get_latest`
answers nothing (`latest_not_published`).

`LatestKept` is what an attempt has to meet: when it replaces `latest.json`, the
revision it names is published, and when it ends published without replacing it,
a greater published one is named. Under it `latest.json` names the greatest
published revision in every state of a run (`latest_right`). What `get_latest`
checks beyond the name (a readable context, a report that decodes, a run that is
not in staging as well) holds of every published run (`Settled`).
-/

namespace FinanceResearch

open Calendar (Date UtcDatetime)

namespace Repository

/-! ## The greatest published revision -/

/-- `get_published_artifact` is not `None`. -/
def IsPublished (s : Repository) (r : RunId) : Prop := (s.getPublishedArtifact r).isSome = true

instance (s : Repository) (r : RunId) : Decidable (s.IsPublished r) :=
  inferInstanceAs (Decidable (_ = true))

/-- `r` is the greatest published revision of its date. -/
def IsLatest (s : Repository) (r : RunId) : Prop :=
  s.IsPublished r ∧
  ∀ q, q.marketDate = r.marketDate → s.IsPublished q → q.revision ≤ r.revision

/-- `get_latest` answers it, and nothing exactly when no revision is published. -/
def LatestRight (s : Repository) (date : Date) : Prop :=
  (∀ r, s.getLatest date = some r → r.marketDate = date ∧ s.IsLatest r) ∧
  (s.getLatest date = none ↔ ∀ q, q.marketDate = date → ¬ s.IsPublished q)

theorem Keeps.isPublished {r : RunId} {s s' : Repository} (h : Keeps r s s') :
    s'.IsPublished r ↔ s.IsPublished r := by
  unfold IsPublished
  rw [h.getPublishedArtifact]

theorem isPublished_iff {s : Repository} {r : RunId} :
    s.IsPublished r ↔ ∃ d report bundle entry, s.final.lookup r = some d ∧
      d.reportMd = some report ∧ d.bundleJson = some bundle ∧ s.indexEntry r = some entry ∧
      entry.markdownSha256 = sha256 report ∧ entry.bundleSha256 = sha256 bundle := by
  unfold IsPublished
  rw [Option.isSome_iff_exists]
  constructor
  · rintro ⟨a, ha⟩
    obtain ⟨d, report, bundle, hd, hr, hb, he, -, hm, hs⟩ := getPublishedArtifact_eq_some.mp ha
    exact ⟨d, report, bundle, _, hd, hr, hb, he, hm, hs⟩
  · rintro ⟨d, report, bundle, entry, hd, hr, hb, he, hm, hs⟩
    exact ⟨⟨r, entry.bundleSha256, entry.markdownSha256, entry.publishedAt⟩,
      getPublishedArtifact_eq_some.mpr ⟨d, report, bundle, hd, hr, hb, he, rfl, hm, hs⟩⟩

/-- A published run is in the index of its date. -/
theorem IsPublished.indexed {s : Repository} {r : RunId} (h : s.IsPublished r) :
    r ∈ ((s.index r.marketDate).getD ∅).keys := by
  obtain ⟨_, _, _, entry, _, _, _, he, _⟩ := isPublished_iff.mp h
  obtain ⟨index, hindex, hlookup⟩ := Option.bind_eq_some_iff.mp he
  rw [hindex, Option.getD_some, ← AList.mem_keys, ← AList.lookup_isSome, hlookup]
  rfl

/-! ## What a final directory always has -/

/-- The run is not in staging and final at once, and its final report decodes. -/
structure Settled (s : Repository) (r : RunId) : Prop where
  apart : s.staging.lookup r = none ∨ s.final.lookup r = none
  report : ∀ d, s.final.lookup r = some d → ∃ text, d.reportMd = some (encode text)

theorem settled_of_vacant {s : Repository} {r : RunId} (h : s.final.lookup r = none) :
    Settled s r :=
  ⟨Or.inr h, fun d hd => by rw [h] at hd; cases hd⟩

theorem settled_of_frame {q : RunId} {s s' : Repository} (h : ∀ r, Settled s r)
    (hframe : Frame q s s') (hself : Settled s' q) (r : RunId) : Settled s' r := by
  by_cases hr : r = q
  · rw [hr]
    exact hself
  · refine ⟨?_, fun d hd => (h r).report d ?_⟩
    · rw [hframe.staging r hr, hframe.final r hr]
      exact (h r).apart
    · rw [← hframe.final r hr]
      exact hd

/-- An operation that leaves the final directories alone and puts into staging
only what is not final keeps this. -/
theorem settled_of_final {q : RunId} {s s' : Repository} (h : ∀ r, Settled s r)
    (hframe : Frame q s s') (hfinal : s'.final = s.final)
    (hstaging : s.staging.lookup q = none → s'.staging.lookup q ≠ none →
      s.final.lookup q = none) (r : RunId) : Settled s' r := by
  refine settled_of_frame h hframe ⟨?_, fun d hd => (h q).report d (hfinal ▸ hd)⟩ r
  by_cases hst : s'.staging.lookup q = none
  · exact Or.inl hst
  · right
    rw [hfinal]
    rcases (h q).apart with hnone | hnone
    · exact hstaging hnone hst
    · exact hnone

theorem settled_quarantine {s : Repository} {q : RunId} (h : Settled s q)
    (fault : Option QuarantineFault) : Settled (s.quarantine q fault).1 q := by
  have hmoved : ∀ orphans, Settled { s with final := s.final.erase q, orphans := orphans } q :=
    fun orphans => settled_of_vacant (AList.lookup_erase _ _)
  unfold quarantine
  split
  · split
    · exact h
    · exact hmoved _
    · exact hmoved _
  · exact h

theorem settled_durable {s : Repository} {b : PublishedRunBundle} {d : RunDir}
    {stored : StoredRun} (h : Publishable s b d stored) {p : PublishPoint}
    (hp : PublishPoint.IsRenamed p) (t : UtcDatetime) : Settled (s.durable b t p) b.run.runId := by
  refine ⟨Or.inl (durable_staging h hp t), fun d' hd' => ⟨b.reportMarkdown, ?_⟩⟩
  rw [durable_final h hp t, Option.some.injEq] at hd'
  rw [← hd']
  rfl

/-- Before the rename the final directories are as they were. -/
theorem durable_final_staging {s : Repository} {b : PublishedRunBundle} (t : UtcDatetime)
    {fault : PublishFault} {e : StoreError} (h : fault.stagingError = some e) :
    (s.durable b t fault.point).final = s.final := by
  cases fault <;> first
    | rfl
    | exact runOp_final _ _ _
    | exact (runOp_final _ _ _).trans (runOp_final _ _ _)
    | cases h

theorem settled_publish {s : Repository} (h : ∀ r, Settled s r) (b : PublishedRunBundle)
    (io : PublishIo) (r : RunId) : Settled (s.publish b io).1 r := by
  refine settled_of_frame h (frame_publish s b io) ?_ r
  rcases publish_cases s b io with ⟨e, -, hp⟩ | ⟨hnone, hcases⟩
  · rw [hp]
    exact h _
  · obtain ⟨d, stored, hpub⟩ := publicationRefusal_eq_none.mp hnone
    rcases hcases with ⟨fault, e, -, herr, hp⟩ | ⟨p, t, hpoint, -, hp⟩ | ⟨t, -, -, hp⟩
    · rw [hp]
      refine settled_of_vacant ?_
      rw [durable_final_staging 0 herr]
      exact hpub.vacant
    · rw [hp, failPublication_state]
      exact settled_quarantine (settled_durable hpub hpoint t) _
    · rw [hp]
      exact settled_durable hpub (Or.inr (Or.inr rfl)) t

theorem settled_restore {s : Repository} (h : ∀ r, Settled s r) {q : RunId} (d : RunDir)
    (hfi : s.final.lookup q = none) (r : RunId) : Settled (s.restore q d) r :=
  settled_of_final h (frame_restore s q d) rfl (fun _ _ => hfi) r

theorem settled_insert {s : Repository} (h : ∀ r, Settled s r) (context : RunContext)
    (d : RunDir) (hfi : s.final.lookup context.runId = none) (r : RunId) :
    Settled { s with staging := s.staging.insert context.runId d } r := by
  have hframe : Frame context.runId s
      { s with staging := s.staging.insert context.runId d } :=
    ⟨fun _ hq => AList.lookup_insert_ne hq, fun _ _ => rfl, fun _ _ => rfl, fun _ _ => rfl,
      fun _ _ => rfl⟩
  exact settled_of_final h hframe rfl (fun _ _ => hfi) r

theorem settled_create {s : Repository} (h : ∀ r, Settled s r) (context : RunContext) (r : RunId) :
    Settled (s.create context).1 r := by
  unfold create
  split
  · exact h r
  next hfi =>
    split
    · exact settled_insert h context _ hfi r
    · split
      · split <;> exact h r
      · exact settled_insert h context _ hfi r

theorem settled_runOp {s : Repository} (h : ∀ r, Settled s r) (q : RunId) (op : RunOp) (r : RunId) :
    Settled (s.runOp q op).1 r := by
  refine settled_of_final h (frame_runOp s q op) (runOp_final s q op) (fun hnone hsome => ?_) r
  unfold runOp at hsome
  rw [hnone] at hsome
  exact absurd hnone hsome

theorem settled_step (validateJson : Bytes → Option PublishedRunBundle) {s : Repository}
    (h : ∀ r, Settled s r) (op : RepoOp) (r : RunId) : Settled (step validateJson s op) r := by
  cases op with
  | allocate seed invocation requested =>
    show Settled (s.allocateRevision seed invocation requested).1 r
    rcases allocate_cases s seed invocation requested with
      ⟨out, -, ha⟩ | ⟨revision, positive, -, hfi, -, ha⟩
    · rw [ha]
      exact h r
    · rw [ha]
      exact settled_insert h (newContext seed revision positive) _ hfi r
  | create context => exact settled_create h context r
  | onRun q op => exact settled_runOp h q op r
  | publish b io => exact settled_publish h b io r
  | recover q io =>
    show Settled (s.recover validateJson q io).1 r
    rcases recover_cases validateJson s q io with
      ⟨a, -, hr⟩ | ⟨-, ⟨e, hr⟩ | ⟨d, b, -, hfi, -, -, ⟨e, hr⟩ | ⟨-, hr⟩⟩⟩
    · rw [hr]
      exact h r
    · rw [hr]
      exact h r
    · rw [hr]
      exact settled_restore h d hfi r
    · rw [hr]
      exact settled_publish (settled_restore h d hfi) b io.publish r

/-! ## What `get_latest` reads -/

/-- A published run is found, whatever `get_latest` asks of it besides. -/
theorem getLatest_of_published {s : Repository} {r : RunId} (hstaged : OnlyStaged s)
    (hsettled : Settled s r) (hlatest : s.latest r.marketDate = some r) (h : s.IsPublished r) :
    s.getLatest r.marketDate = some r := by
  obtain ⟨d, report, bundle, entry, hfi, hreport, hbundle, hentry, hm, hs⟩ := isPublished_iff.mp h
  have hpayloads : s.publishedPayloads r (s.final.lookup r) = some (report, bundle) :=
    publishedPayloads_eq_some.mpr ⟨d, entry, hfi, hentry, hreport, hbundle, hm, hs⟩
  have hst : s.staging.lookup r = none := by
    rcases hsettled.apart with hst | hnone
    · exact hst
    · rw [hfi] at hnone
      cases hnone
  obtain ⟨-, context, hcontext, -⟩ := (hstaged r d (Or.inr (Or.inl hfi))).wellFormed
  have hload : s.load r = some (d.view context true) := by
    rw [hfi] at hpayloads
    simp only [load, hst, hfi, hpayloads, Option.isSome_some, if_true, RunDir.loadFromPath, hcontext,
      Option.map_some]
  have hdecodes : (s.getReport r).isSome := by
    obtain ⟨text, htext⟩ := hsettled.report d hfi
    rw [hreport, Option.some.injEq] at htext
    rw [getReport, hpayloads, Option.bind_some, htext, decode_encode]
    rfl
  unfold getLatest
  simp only [hlatest, hload, ne_eq, not_true, if_false, RunDir.view, hdecodes, and_self, if_true]

/-- What `get_latest` answers is named by `latest.json` and published. -/
theorem getLatest_eq_some {s : Repository} {date : Date} {r : RunId}
    (h : s.getLatest date = some r) :
    r.marketDate = date ∧ s.latest date = some r ∧ s.IsPublished r := by
  unfold getLatest at h
  split at h
  · cases h
  next n hlatest =>
    split at h
    · cases h
    next hdate =>
      split at h
      · cases h
      · split at h
        next hboth =>
          obtain rfl := Option.some.inj h
          refine ⟨not_not.mp hdate, hlatest, ?_⟩
          obtain ⟨text, htext⟩ := Option.isSome_iff_exists.mp hboth.2
          obtain ⟨⟨report, bundle⟩, hpayloads, -⟩ := Option.bind_eq_some_iff.mp htext
          obtain ⟨d, entry, hfi, hentry, hreport, hbundle, hm, hs⟩ :=
            publishedPayloads_eq_some.mp hpayloads
          exact isPublished_iff.mpr ⟨d, report, bundle, entry, hfi, hreport, hbundle, hentry, hm, hs⟩
        · cases h

/-- `latest.json` names the greatest published revision of the date, if there is one. -/
def LatestNamed (s : Repository) (date : Date) : Prop :=
  ∀ v, v.marketDate = date → s.IsPublished v →
    ∃ n, s.latest date = some n ∧ n.marketDate = date ∧ s.IsPublished n ∧ v.revision ≤ n.revision

theorem latestRight_of_named {s : Repository} {date : Date} (hstaged : OnlyStaged s)
    (hsettled : ∀ r, Settled s r) (h : LatestNamed s date) : LatestRight s date := by
  refine ⟨fun r hr => ?_, fun hnone v hv hpub => ?_, fun hnone => ?_⟩
  · obtain ⟨hdate, hlatest, hpub⟩ := getLatest_eq_some hr
    refine ⟨hdate, hpub, fun v hv hvpub => ?_⟩
    obtain ⟨n, hn, -, -, hle⟩ := h v (hv.trans hdate) hvpub
    rw [hlatest, Option.some.injEq] at hn
    rw [hn]
    exact hle
  · obtain ⟨n, hn, hdate, hnpub, -⟩ := h v hv hpub
    subst hdate
    rw [getLatest_of_published hstaged (hsettled n) hn hnpub] at hnone
    cases hnone
  · cases hget : s.getLatest date with
    | none => rfl
    | some r =>
      obtain ⟨hdate, -, hpub⟩ := getLatest_eq_some hget
      exact absurd hpub (hnone r hdate)

/-! ## What an attempt leaves -/

/-- The revision `latest.json` names once the run has its receipt. -/
def greatestWith (s : Repository) (r : RunId) : Option RunId :=
  (r :: ((s.index r.marketDate).getD ∅).keys.erase r).argmax RunId.revision

/-- The attempt replaces `latest.json`. -/
def ReplacesLatest (s : Repository) (b : PublishedRunBundle) (io : PublishIo) : Prop :=
  (s.publicationTime b io.clock).isSome = true ∧
    (io.fault = none ∨ io.fault = some .latestSync)

/-- `_quarantine_orphan` moves the final directory of the run. -/
def QuarantineMoves (s : Repository) (r : RunId) (fault : Option QuarantineFault) : Prop :=
  s.orphans.lookup r = none ∧ fault ≠ some .replace

/-- The run is published when the attempt returns or raises: it completes, or its
receipt is in the index when it fails and quarantine does not move it. -/
def LeavesPublished (s : Repository) (b : PublishedRunBundle) (io : PublishIo) : Prop :=
  (s.publicationTime b io.clock).isSome = true ∧
    (io.fault = none ∨ ¬ s.QuarantineMoves b.run.runId io.quarantine ∧
      ∃ fault, io.fault = some fault ∧ fault.stagingError = none ∧
        (fault.point = .renamed → (s.indexEntry b.run.runId).isSome = true))

theorem quarantine_cases {s : Repository} {r : RunId} {d : RunDir} (h : s.final.lookup r = some d)
    (fault : Option QuarantineFault) :
    (s.QuarantineMoves r fault ∧ (s.quarantine r fault).1 =
      { s with final := s.final.erase r, orphans := s.orphans.insert r d }) ∨
    (¬ s.QuarantineMoves r fault ∧ (s.quarantine r fault).1 = s) := by
  unfold quarantine QuarantineMoves
  cases hor : s.orphans.lookup r with
  | some d' => exact Or.inr ⟨fun hmoves => by simp at hmoves, rfl⟩
  | none =>
    rw [h]
    cases fault with
    | none => exact Or.inl ⟨⟨rfl, by simp⟩, rfl⟩
    | some fault =>
      cases fault with
      | replace => exact Or.inr ⟨fun hmoves => hmoves.2 rfl, rfl⟩
      | sync => exact Or.inl ⟨⟨rfl, by simp⟩, rfl⟩

section Attempt

variable {s : Repository} {b : PublishedRunBundle} {d : RunDir} {stored : StoredRun}

/-- With the attempt's directory in place, the run is published when the index has
the attempt's own receipt. -/
theorem isPublished_withPublication
    (h : s.final.lookup b.run.runId = some (d.withPublication b)) :
    s.IsPublished b.run.runId ↔ ∃ t, s.indexEntry b.run.runId =
      some ⟨sha256 (canonicalBytes b), sha256 (encode b.reportMarkdown), t⟩ := by
  rw [isPublished_iff]
  constructor
  · rintro ⟨d', report, bundle, ⟨eb, em, et⟩, hd, hr, hb, he, hm, hs⟩
    rw [h, Option.some.injEq] at hd
    subst hd
    rw [RunDir.withPublication_reportMd, Option.some.injEq] at hr
    rw [RunDir.withPublication_bundleJson, Option.some.injEq] at hb
    simp only at hm hs
    exact ⟨et, by rw [he, hm, hs, hr, hb]⟩
  · rintro ⟨t, ht⟩
    exact ⟨_, _, _, _, h, rfl, rfl, ht, rfl, rfl⟩

theorem not_isPublished_of_vacant {r : RunId} (h : s.final.lookup r = none) :
    ¬ s.IsPublished r := by
  intro hpub
  obtain ⟨d', _, _, _, hd', -⟩ := isPublished_iff.mp hpub
  rw [h] at hd'
  cases hd'

/-- The receipt after a step past the rename, when the attempt has a time. -/
theorem durable_receipt {clock : Option UtcDatetime} {t : UtcDatetime} {p : PublishPoint}
    (hp : PublishPoint.IsRenamed p) (ht : s.publicationTime b clock = some t) :
    (∃ t', (s.durable b t p).indexEntry b.run.runId =
      some ⟨sha256 (canonicalBytes b), sha256 (encode b.reportMarkdown), t'⟩) ↔
    (p = .renamed → (s.indexEntry b.run.runId).isSome = true) := by
  rcases hp with rfl | rfl | rfl
  · rw [show s.durable b t .renamed = s.renamed b from rfl, renamed_entry]
    constructor
    · rintro ⟨t', ht'⟩ -
      rw [ht']
      rfl
    · intro hsome
      rcases publicationTime_eq_some.mp ht with ⟨hnone, -⟩ | hentry
      · rw [hnone] at hsome
        cases hsome rfl
      · exact ⟨t, hentry⟩
  · exact ⟨fun _ => nofun, fun _ => ⟨t, indexWritten_entry s b t⟩⟩
  · exact ⟨fun _ => nofun, fun _ => ⟨t, latestWritten_entry s b t⟩⟩

/-- **When an attempt leaves its run published.** -/
theorem publish_leaves (h : Publishable s b d stored) (io : PublishIo) :
    (s.publish b io).1.IsPublished b.run.runId ↔ s.LeavesPublished b io := by
  have href := publicationRefusal_eq_none.mpr ⟨d, stored, h⟩
  unfold LeavesPublished
  rcases publish_attempt io href with
    ⟨fault, e, hfault, herr, hp⟩ | ⟨ht, hp⟩ | ⟨fault, t, hfault, herr, ht, hp⟩ | ⟨t, hfault, ht, hp⟩
  · -- stopped in staging
    rw [hp]
    refine iff_of_false ?_ ?_
    · refine not_isPublished_of_vacant ?_
      rw [durable_final_staging 0 herr]
      exact h.vacant
    · rintro ⟨-, hnone | ⟨-, fault', hf, hnone, -⟩⟩
      · rw [hfault] at hnone
        cases hnone
      · rw [hfault, Option.some.injEq] at hf
        rw [← hf, herr] at hnone
        cases hnone
  · -- no time: the receipt conflicts, or there is none
    rw [hp, failPublication_state, ht]
    refine iff_of_false ?_ (fun hpub => by cases hpub.1)
    rcases quarantine_cases (renamed_final h) io.quarantine with ⟨-, hq⟩ | ⟨-, hq⟩
    · rw [hq]
      exact not_isPublished_of_vacant (AList.lookup_erase _ _)
    · rw [hq, isPublished_withPublication (renamed_final h), renamed_entry]
      rintro ⟨t, hentry⟩
      rw [publicationTime_eq_some.mpr (Or.inr hentry)] at ht
      cases ht
  · -- failed after the rename
    have hpoint := isRenamed_of_stagingError herr
    have hfinal := durable_final h hpoint t
    rw [hp, failPublication_state, ht]
    have hmoves : (s.durable b t fault.point).QuarantineMoves b.run.runId io.quarantine ↔
        s.QuarantineMoves b.run.runId io.quarantine := by
      unfold QuarantineMoves
      rw [durable_orphans]
    rcases quarantine_cases hfinal io.quarantine with ⟨hm, hq⟩ | ⟨hm, hq⟩
    · rw [hq]
      refine iff_of_false (not_isPublished_of_vacant (AList.lookup_erase _ _)) ?_
      rintro ⟨-, hnone | ⟨hstays, -⟩⟩
      · rw [hfault] at hnone
        cases hnone
      · exact hstays (hmoves.mp hm)
    · rw [hq, isPublished_withPublication hfinal, durable_receipt hpoint ht]
      constructor
      · exact fun hentry => ⟨rfl, Or.inr ⟨fun hm' => hm (hmoves.mpr hm'), fault, hfault, herr,
          hentry⟩⟩
      · rintro ⟨-, hnone | ⟨-, fault', hf, -, hentry⟩⟩
        · rw [hfault] at hnone
          cases hnone
        · rw [hfault, Option.some.injEq] at hf
          rw [hf]
          exact hentry
  · -- completed
    rw [hp]
    refine iff_of_true ?_ ⟨by rw [ht]; rfl, Or.inl hfault⟩
    unfold IsPublished
    rw [latestWritten_published h t]
    rfl

theorem quarantine_latest (s : Repository) (r : RunId) (fault : Option QuarantineFault) :
    (s.quarantine r fault).1.latest = s.latest := by
  unfold quarantine
  split
  · split <;> rfl
  · rfl

theorem latestWritten_latest (s : Repository) (b : PublishedRunBundle) (t : UtcDatetime) :
    (s.latestWritten b t).latest b.run.runId.marketDate = s.greatestWith b.run.runId := by
  have hindex : (s.indexWritten b t).index b.run.runId.marketDate =
      some (((s.index b.run.runId.marketDate).getD ∅).insert b.run.runId
        ⟨sha256 (canonicalBytes b), sha256 (encode b.reportMarkdown), t⟩) := by
    rw [indexWritten, writeIndex, renamed_index]
    exact Function.update_self _ _ _
  rw [latestWritten, writeLatest]
  simp only [Function.update_self, greatestIndexed, hindex, Option.getD_some, AList.keys_insert]
  rfl

/-- Before `latest.json` is written it is as it was. -/
theorem durable_latest (t : UtcDatetime) {p : PublishPoint} (hp : p ≠ .latestWritten) :
    (s.durable b t p).latest = s.latest := by
  cases p with
  | entered => rfl
  | bundleWritten => exact runOp_latest _ _ _
  | reportWritten => exact (runOp_latest _ _ _).trans (runOp_latest _ _ _)
  | renamed => exact renamed_latest
  | indexWritten => exact renamed_latest
  | latestWritten => exact absurd rfl hp

theorem point_eq_latestWritten {fault : PublishFault} :
    fault.point = .latestWritten ↔ fault = .latestSync := by
  cases fault <;> simp [PublishFault.point]

/-- **When an attempt replaces `latest.json`**, and by what. -/
theorem publish_latest (h : Publishable s b d stored) (io : PublishIo) :
    (s.ReplacesLatest b io ∧
      (s.publish b io).1.latest b.run.runId.marketDate = s.greatestWith b.run.runId) ∨
    (¬ s.ReplacesLatest b io ∧ (s.publish b io).1.latest = s.latest) := by
  have href := publicationRefusal_eq_none.mpr ⟨d, stored, h⟩
  unfold ReplacesLatest
  rcases publish_attempt io href with
    ⟨fault, e, hfault, herr, hp⟩ | ⟨ht, hp⟩ | ⟨fault, t, hfault, -, ht, hp⟩ | ⟨t, hfault, ht, hp⟩
  · have hpoint : fault.point ≠ .latestWritten := by
      intro hlatest
      rw [point_eq_latestWritten.mp hlatest] at herr
      cases herr
    refine Or.inr ⟨?_, by rw [hp]; exact durable_latest 0 hpoint⟩
    rintro ⟨-, hnone | hsync⟩
    · rw [hfault] at hnone
      cases hnone
    · rw [hfault, Option.some.injEq] at hsync
      exact hpoint (point_eq_latestWritten.mpr hsync)
  · refine Or.inr ⟨fun hr => ?_, ?_⟩
    · rw [ht] at hr
      cases hr.1
    · rw [hp, failPublication_state, quarantine_latest, renamed_latest]
  · rw [hp, failPublication_state, quarantine_latest, hfault, ht]
    by_cases hsync : fault = .latestSync
    · refine Or.inl ⟨⟨rfl, Or.inr (by rw [hsync])⟩, ?_⟩
      rw [hsync]
      exact latestWritten_latest s b t
    · refine Or.inr ⟨?_, durable_latest t fun hpoint => hsync (point_eq_latestWritten.mp hpoint)⟩
      rintro ⟨-, hnone | hsome⟩
      · cases hnone
      · exact hsync (Option.some.inj hsome)
  · refine Or.inl ⟨⟨by rw [ht]; rfl, Or.inl hfault⟩, ?_⟩
    rw [hp]
    exact latestWritten_latest s b t

end Attempt

/-! ## The condition -/

/-- No revision of the date is published. -/
def NonePublished (s : Repository) (date : Date) : Prop :=
  ∀ q, q.marketDate = date → ¬ s.IsPublished q

/-- An attempt that replaces `latest.json` names a published revision, unless none
is published after it; one that ends published without replacing it is not above
the published revision that is named. -/
def LatestKept (s : Repository) (b : PublishedRunBundle) (io : PublishIo) : Prop :=
  s.publicationRefusal b = none →
    (s.ReplacesLatest b io →
      (∃ g, s.greatestWith b.run.runId = some g ∧
        (s.IsPublished g ∨ g = b.run.runId ∧ s.LeavesPublished b io)) ∨
      s.NonePublished b.run.runId.marketDate ∧ ¬ s.LeavesPublished b io) ∧
    (¬ s.ReplacesLatest b io → s.LeavesPublished b io →
      ∃ n, s.latest b.run.runId.marketDate = some n ∧ s.IsPublished n ∧
        b.run.runId.revision ≤ n.revision)

/-- The condition on each operation; a recovery is an attempt from the repository
with the quarantined directory back in staging. -/
def KeepsLatest (validateJson : Bytes → Option PublishedRunBundle) (s : Repository) :
    RepoOp → Prop
  | .publish b io => s.LatestKept b io
  | .recover r io => ∀ d b, s.getPublishedArtifact r = none → s.orphans.lookup r = some d →
      checkRecovery validateJson r d io.read = .ok b → io.move = none →
      (s.restore r d).LatestKept b io.publish
  | _ => True

/-- The receipts of a date, and the run `latest.json` names, are of that date. -/
structure Dated (s : Repository) : Prop where
  index : ∀ date, ∀ r ∈ ((s.index date).getD ∅).keys, r.marketDate = date
  latest : ∀ date r, s.latest date = some r → r.marketDate = date

theorem quarantine_index (s : Repository) (r : RunId) (fault : Option QuarantineFault) :
    (s.quarantine r fault).1.index = s.index := by
  unfold quarantine
  split
  · split <;> rfl
  · rfl

/-- An attempt leaves the indexes alone or adds its run to its date's. -/
theorem publish_index (s : Repository) (b : PublishedRunBundle) (io : PublishIo) :
    (s.publish b io).1.index = s.index ∨ ∃ entry, (s.publish b io).1.index =
      Function.update s.index b.run.runId.marketDate
        (some (((s.index b.run.runId.marketDate).getD ∅).insert b.run.runId entry)) := by
  have hwritten : ∀ t, (s.indexWritten b t).index = Function.update s.index
      b.run.runId.marketDate (some (((s.index b.run.runId.marketDate).getD ∅).insert b.run.runId
        ⟨sha256 (canonicalBytes b), sha256 (encode b.reportMarkdown), t⟩)) := by
    intro t
    rw [indexWritten, writeIndex, renamed_index]
    rfl
  have hdurable : ∀ t p, (s.durable b t p).index = s.index ∨ ∃ entry, (s.durable b t p).index =
      Function.update s.index b.run.runId.marketDate
        (some (((s.index b.run.runId.marketDate).getD ∅).insert b.run.runId entry)) := by
    intro t p
    cases p with
    | entered => exact Or.inl rfl
    | bundleWritten => exact Or.inl (runOp_index _ _ _)
    | reportWritten => exact Or.inl ((runOp_index _ _ _).trans (runOp_index _ _ _))
    | renamed => exact Or.inl renamed_index
    | indexWritten => exact Or.inr ⟨_, hwritten t⟩
    | latestWritten => exact Or.inr ⟨_, hwritten t⟩
  rcases publish_cases s b io with
    ⟨e, -, hp⟩ | ⟨-, ⟨fault, e, -, -, hp⟩ | ⟨p, t, -, -, hp⟩ | ⟨t, -, -, hp⟩⟩
  · rw [hp]
    exact Or.inl rfl
  · rw [hp]
    exact hdurable 0 fault.point
  · rw [hp, failPublication_state, quarantine_index]
    exact hdurable t p
  · rw [hp]
    exact hdurable t .latestWritten

/-- The revision named with the run's receipt is the run or one in its index. -/
theorem greatestWith_date {s : Repository} (h : Dated s) {r g : RunId}
    (hg : s.greatestWith r = some g) : g.marketDate = r.marketDate := by
  rcases List.mem_cons.mp (List.argmax_mem hg) with rfl | hmem
  · rfl
  · exact h.index _ _ (List.mem_of_mem_erase hmem)

theorem dated_publish {s : Repository} (h : Dated s) (b : PublishedRunBundle) (io : PublishIo) :
    Dated (s.publish b io).1 := by
  refine ⟨fun date r hr => ?_, fun date r hr => ?_⟩
  · rcases publish_index s b io with heq | ⟨entry, heq⟩
    · rw [heq] at hr
      exact h.index date r hr
    · rw [heq] at hr
      by_cases hdate : date = b.run.runId.marketDate
      · subst hdate
        rw [Function.update_self, Option.getD_some, AList.keys_insert] at hr
        rcases List.mem_cons.mp hr with rfl | hmem
        · rfl
        · exact h.index _ _ (List.mem_of_mem_erase hmem)
      · rw [Function.update_of_ne hdate] at hr
        exact h.index date r hr
  · by_cases hdate : date = b.run.runId.marketDate
    · subst hdate
      cases href : s.publicationRefusal b with
      | some e =>
        rw [publish, href] at hr
        exact h.latest _ r hr
      | none =>
        obtain ⟨d, stored, hpub⟩ := publicationRefusal_eq_none.mp href
        rcases publish_latest hpub io with ⟨-, heq⟩ | ⟨-, heq⟩
        · rw [heq] at hr
          exact greatestWith_date h hr
        · rw [heq] at hr
          exact h.latest _ r hr
    · rw [(frame_publish s b io).latest date hdate] at hr
      exact h.latest date r hr

/-! ## One operation -/

/-- An operation that leaves what is final, the receipts and `latest.json` alone. -/
structure SameReceipts (s s' : Repository) : Prop where
  keeps : ∀ r, Keeps r s s'
  index : s'.index = s.index
  latest : s'.latest = s.latest

/-- What a run of good operations keeps. -/
structure LatestInvariant (s : Repository) : Prop where
  dated : Dated s
  named : ∀ date, LatestNamed s date

theorem LatestInvariant.of_same {s s' : Repository} (h : LatestInvariant s)
    (hsame : SameReceipts s s') : LatestInvariant s' := by
  refine ⟨⟨?_, ?_⟩, fun date v hv hpub => ?_⟩
  · rw [hsame.index]
    exact h.dated.index
  · rw [hsame.latest]
    exact h.dated.latest
  · rw [(hsame.keeps v).isPublished] at hpub
    obtain ⟨n, hn, hdate, hnpub, hle⟩ := h.named date v hv hpub
    exact ⟨n, by rw [hsame.latest, hn], hdate, (hsame.keeps n).isPublished.mpr hnpub, hle⟩

theorem sameReceipts_restore (s : Repository) (r : RunId) (d : RunDir) :
    SameReceipts s (s.restore r d) :=
  ⟨fun _ => ⟨rfl, rfl⟩, rfl, rfl⟩

theorem sameReceipts_create (s : Repository) (context : RunContext) :
    SameReceipts s (s.create context).1 := by
  refine ⟨keeps_create s context, ?_, ?_⟩ <;>
  · unfold create
    split
    · rfl
    · split
      · rfl
      · split
        · split <;> rfl
        · rfl

theorem sameReceipts_allocate (s : Repository) (seed : RunContextSeed)
    (invocation : InvocationType) (requested : Option Int) :
    SameReceipts s (s.allocateRevision seed invocation requested).1 := by
  rcases allocate_cases s seed invocation requested with ⟨out, -, h⟩ | ⟨_, _, -, -, -, h⟩
  · rw [h]
    exact ⟨fun r => Keeps.refl r s, rfl, rfl⟩
  · rw [h]
    exact ⟨fun _ => ⟨rfl, rfl⟩, rfl, rfl⟩

/-- **A good attempt** leaves `latest.json` naming the greatest published revision. -/
theorem latestInvariant_publish {s : Repository} (h : LatestInvariant s) {b : PublishedRunBundle}
    {io : PublishIo} (hgood : s.LatestKept b io) : LatestInvariant (s.publish b io).1 := by
  refine ⟨dated_publish h.dated b io, ?_⟩
  cases href : s.publicationRefusal b with
  | some e =>
    rw [publish, href]
    exact h.named
  | none =>
    obtain ⟨d, stored, hpub⟩ := publicationRefusal_eq_none.mp href
    obtain ⟨hreplaces, hkeeps⟩ := hgood href
    have hframe := frame_publish s b io
    have hself := publish_leaves hpub io
    have hothers : ∀ q, q ≠ b.run.runId →
        ((s.publish b io).1.IsPublished q ↔ s.IsPublished q) :=
      fun q hq => (hframe.keeps hq).isPublished
    -- the run was not published before
    have hbefore : ¬ s.IsPublished b.run.runId := not_isPublished_of_vacant hpub.vacant
    have hstays : ∀ q, s.IsPublished q → (s.publish b io).1.IsPublished q := fun q hq =>
      (hothers q fun he => hbefore (he ▸ hq)).mpr hq
    intro date v hv hvpub
    by_cases hdate : date = b.run.runId.marketDate
    · subst hdate
      rcases publish_latest hpub io with ⟨hr, heq⟩ | ⟨hr, heq⟩
      · rcases hreplaces hr with ⟨g, hg, hgpub⟩ | ⟨hnone, hleaves⟩
        · refine ⟨g, by rw [heq, hg], greatestWith_date h.dated hg, ?_, ?_⟩
          · rcases hgpub with hgpub | ⟨rfl, hleaves⟩
            · exact hstays g hgpub
            · exact hself.mpr hleaves
          · -- every published revision of the date is in the index
            refine List.le_of_mem_argmax (f := RunId.revision) ?_ hg
            by_cases hvr : v = b.run.runId
            · exact List.mem_cons.mpr (Or.inl hvr)
            · have hindexed := ((hothers v hvr).mp hvpub).indexed
              rw [hv] at hindexed
              exact List.mem_cons.mpr (Or.inr ((List.mem_erase_of_ne hvr).mpr hindexed))
        · by_cases hvr : v = b.run.runId
          · exact absurd (hself.mp (hvr ▸ hvpub)) hleaves
          · exact absurd ((hothers v hvr).mp hvpub) (hnone v hv)
      · by_cases hvr : v = b.run.runId
        · obtain ⟨n, hn, hnpub, hle⟩ := hkeeps hr (hself.mp (hvr ▸ hvpub))
          exact ⟨n, by rw [heq, hn], h.dated.latest _ n hn, hstays n hnpub, hvr ▸ hle⟩
        · obtain ⟨n, hn, hndate, hnpub, hle⟩ := h.named _ v hv ((hothers v hvr).mp hvpub)
          exact ⟨n, by rw [heq, hn], hndate, hstays n hnpub, hle⟩
    · have hvr : v ≠ b.run.runId := fun he => hdate (by rw [← hv, he])
      obtain ⟨n, hn, hndate, hnpub, hle⟩ := h.named date v hv ((hothers v hvr).mp hvpub)
      exact ⟨n, by rw [hframe.latest date hdate, hn], hndate, hstays n hnpub, hle⟩

/-- **One good operation.** -/
theorem latestInvariant_step {validateJson : Bytes → Option PublishedRunBundle} {s : Repository}
    (h : LatestInvariant s) {op : RepoOp} (hgood : s.KeepsLatest validateJson op) :
    LatestInvariant (step validateJson s op) := by
  cases op with
  | allocate seed invocation requested =>
    exact h.of_same (sameReceipts_allocate s seed invocation requested)
  | create context => exact h.of_same (sameReceipts_create s context)
  | onRun r op =>
    exact h.of_same ⟨fun q => keeps_runOp s r q op, runOp_index s r op, runOp_latest s r op⟩
  | publish b io => exact latestInvariant_publish h hgood
  | recover r io =>
    show LatestInvariant (s.recover validateJson r io).1
    rcases recover_cases validateJson s r io with
      ⟨a, -, hr⟩ | ⟨hget, ⟨e, hr⟩ | ⟨d, b, -, -, hor, hchk, ⟨e, hr⟩ | ⟨hmove, hr⟩⟩⟩
    · rw [hr]
      exact h
    · rw [hr]
      exact h
    · rw [hr]
      exact h.of_same (sameReceipts_restore s r d)
    · rw [hr]
      exact latestInvariant_publish (h.of_same (sameReceipts_restore s r d))
        (hgood d b hget hor hchk hmove)

/-! ## Runs -/

/-- **`get_latest` is right after every run of good operations**, for every date. -/
theorem latest_right (validateJson : Bytes → Option PublishedRunBundle) (ops : List RepoOp)
    (hgood : Transitions.Along (step validateJson) (KeepsLatest validateJson) empty ops)
    (date : Date) : LatestRight (reached validateJson ops) date := by
  have hsettled : ∀ r, Settled (reached validateJson ops) r :=
    Transitions.run_invariant (I := fun s => ∀ r, Settled s r)
      (fun s op h => settled_step validateJson h op) ops (fun r => settled_of_vacant rfl)
  have hlatest : LatestInvariant (reached validateJson ops) := by
    refine Transitions.run_invariant_along (P := KeepsLatest validateJson) (I := LatestInvariant)
      (fun s op h hop => latestInvariant_step h hop) ops ?_ hgood
    refine ⟨⟨fun date r hr => absurd hr List.not_mem_nil, fun date r hr => by cases hr⟩, ?_⟩
    exact fun date v _ hpub => absurd hpub (not_isPublished_of_vacant rfl)
  exact latestRight_of_named (reached_staged validateJson ops) hsettled (hlatest.named date)

/-- The first attempt of a run without a receipt ends published. -/
theorem latestKept_first {s : Repository} {b : PublishedRunBundle} {now : UtcDatetime}
    (hentry : s.indexEntry b.run.runId = none)
    (hgreatest : s.greatestWith b.run.runId = some b.run.runId) :
    s.LatestKept b (.sound now) := by
  have htime : s.publicationTime b (some now) = some now :=
    publicationTime_eq_some.mpr (Or.inl ⟨hentry, rfl⟩)
  have hleaves : s.LeavesPublished b (.sound now) := by
    refine ⟨?_, Or.inl rfl⟩
    show (s.publicationTime b (some now)).isSome = true
    rw [htime]
    rfl
  refine fun _ => ⟨fun _ => Or.inl ⟨_, hgreatest, Or.inr ⟨rfl, hleaves⟩⟩, fun hr => ?_⟩
  exact absurd ⟨hleaves.1, Or.inl rfl⟩ hr

/-- An attempt that fails before `latest.json` and is quarantined leaves nothing behind. -/
theorem latestKept_quarantined {s : Repository} {b : PublishedRunBundle} {io : PublishIo}
    {fault : PublishFault} (hfault : io.fault = some fault) (hpoint : fault ≠ .latestSync)
    (hmoves : s.QuarantineMoves b.run.runId io.quarantine) : s.LatestKept b io := by
  refine fun _ => ⟨?_, fun _ => ?_⟩
  · rintro ⟨-, hnone | hsync⟩
    · rw [hfault] at hnone
      cases hnone
    · rw [hfault, Option.some.injEq] at hsync
      exact absurd hsync hpoint
  · rintro ⟨-, hnone | ⟨hstays, -⟩⟩
    · rw [hfault] at hnone
      cases hnone
    · exact absurd hmoves hstays

/-- The first revision is published and the second is quarantined. -/
theorem latest_right_sample :
    let first := RunDir.sampleContext 1 Nat.one_pos
    let second := RunDir.sampleContext 2 Nat.two_pos
    let b := plainBundle first "first"
    LatestRight (reached (reads b) [.create first, .publish b (.sound 1), .create second,
      .publish (plainBundle second "second") ⟨some 2, some .indexSync, none⟩])
      first.runId.marketDate := by
  intro first second b
  refine latest_right (reads b) [.create first, .publish b (.sound 1), .create second,
    .publish (plainBundle second "second") ⟨some 2, some .indexSync, none⟩]
    ⟨trivial, ?_, trivial, ?_, trivial⟩ first.runId.marketDate
  · exact latestKept_first (by decide) (by decide)
  · refine latestKept_quarantined rfl (by simp) ⟨?_, by simp⟩
    decide +kernel

/-! ## A receipt left by a quarantined run -/

/-- An attempt on another run does not keep a created run from being published. -/
theorem published_after_other {s : Repository} {context : RunContext} (report : String)
    {other : PublishedRunBundle} (io : PublishIo)
    (hst : s.staging.lookup context.runId = some (RunDir.created context))
    (hfi : s.final.lookup context.runId = none) (hentry : s.indexEntry context.runId = none)
    (hne : context.runId ≠ other.run.runId) (now : UtcDatetime) :
    ((s.publish other io).1.publish (plainBundle context report) (.sound now)).1.IsPublished
      context.runId := by
  have hframe := frame_publish s other io
  have hpub := publishable_plain report ((hframe.staging _ hne).trans hst)
    ((hframe.final _ hne).trans hfi)
  have htime := (publicationTime_eq_some (b := plainBundle context report)
    (t := now)).mpr (Or.inl ⟨(hframe.entry _ hne).trans hentry, rfl⟩)
  rw [publish_of_publishable hpub htime]
  exact Option.isSome_iff_exists.mpr ⟨_, latestWritten_published hpub now⟩

theorem reached_publish_publish {validateJson : Bytes → Option PublishedRunBundle}
    (ops : List RepoOp) (b : PublishedRunBundle) (io : PublishIo) (b' : PublishedRunBundle)
    (io' : PublishIo) :
    reached validateJson (ops ++ [.publish b io, .publish b' io']) =
      (((reached validateJson ops).publish b io).1.publish b' io').1 := by
  rw [List.append_cons, reached_concat, reached_concat]
  rfl

/-- The second revision fails after its receipt is written and is quarantined, and
the first is published: it is, and `get_latest` answers nothing. -/
theorem latest_not_published :
    let first := RunDir.sampleContext 1 Nat.one_pos
    let second := RunDir.sampleContext 2 Nat.two_pos
    let b := plainBundle first "first"
    let s := reached (reads b) ([.create first, .create second] ++
      [.publish (plainBundle second "second") ⟨some 1, some .afterIndexWrite, none⟩,
       .publish b (.sound 2)])
    s.IsPublished first.runId ∧ s.getLatest first.runId.marketDate = none ∧
    ¬ LatestRight s first.runId.marketDate := by
  intro first second b s
  have hlatest : s.getLatest first.runId.marketDate = none := by decide +kernel
  have hpublished : s.IsPublished first.runId := by
    rw [show s = _ from reached_publish_publish _ _ _ _ _]
    exact published_after_other "first" _ rfl rfl rfl (by decide) 2
  exact ⟨hpublished, hlatest, fun h => h.2.mp hlatest first.runId rfl hpublished⟩

end Repository

end FinanceResearch
