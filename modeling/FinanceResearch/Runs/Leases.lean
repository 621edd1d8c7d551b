import FinanceResearch.Domain.Models
import FinanceResearch.Lib.Transitions

/-!
# Run leases

`acquire_lease` and `heartbeat` of `adapters/filesystem.py`: one lease file a market date,
read and written under a lock, so a call is one step.

A renewal extends the lease by the span of the stored one, which counts from its
acquisition and not from its heartbeat. So each renewal adds the time since the
acquisition to the span of the next, and the fifteen minutes are kept only as long as no
time has passed (`renewals_bounded_iff`). Two clients never hold a live lease all the same
(`leases_exclusive`): a token other than the stored one was superseded after it expired.

Mirroring notes vs the source:
- What `uuid4`, `getpid` and the environment give an acquisition is its `Claimant`.
- `+` of a time past `datetime.max` is an `OverflowError`.
-/

namespace FinanceResearch

open Calendar (Date UtcDatetime)

/-! ## The model -/

structure RunKey where
  runType : RunType
  marketDate : Date
  deriving DecidableEq

/-- What an acquisition takes from its process. -/
structure Claimant where
  token : String
  processId : Nat
  host : String
  deriving DecidableEq

/-- `^[A-Za-z0-9_-]+$`, of 16 to 128 characters. -/
def isLeaseToken (token : String) : Bool :=
  16 ≤ token.length && token.length ≤ 128 &&
    token.toList.all fun c => c.isAlphanum || c == '_' || c == '-'

/-- `^[^\x00-\x1f\x7f]+$`, of at most 255 characters. -/
def isHostName (host : String) : Bool :=
  1 ≤ host.length && host.length ≤ 255 &&
    host.toList.all fun c => 0x1f < c.toNat && c.toNat != 0x7f

/-- The field constraints of `RunLease`. -/
def Claimant.Legal (claimant : Claimant) : Prop :=
  isLeaseToken claimant.token = true ∧ 0 < claimant.processId ∧ isHostName claimant.host = true

instance Claimant.instDecidableLegal (claimant : Claimant) : Decidable claimant.Legal :=
  inferInstanceAs (Decidable (_ ∧ _))

structure RunLease where
  key : RunKey
  claimant : Claimant
  acquiredAt : UtcDatetime
  heartbeatAt : UtcDatetime
  expiresAt : UtcDatetime
  legal : claimant.Legal
  /-- `_valid_times`. -/
  ordered : acquiredAt ≤ heartbeatAt ∧ heartbeatAt < expiresAt
  deriving DecidableEq

def RunLease.token (lease : RunLease) : String := lease.claimant.token

/-- `duration`. -/
def RunLease.duration (lease : RunLease) : Int := lease.expiresAt - lease.acquiredAt

/-- How a call on a lease is refused. -/
inductive LeaseError where
  | leaseHeld (message : String)
  | validation
  | overflow
  deriving DecidableEq, Repr

/-- `_LEASE_DURATION`, in microseconds. -/
def leaseDuration : Int := 15 * 60 * 1000000

/-- `datetime.max`. -/
def datetimeMax : UtcDatetime := 253402300799999999

/-- `RunLease(...)`, with the expiry computed just before. -/
def buildLease (key : RunKey) (claimant : Claimant) (acquiredAt heartbeatAt : UtcDatetime)
    (span : Int) : Except LeaseError RunLease :=
  if datetimeMax < heartbeatAt + span then .error .overflow
  else if h : claimant.Legal ∧ acquiredAt ≤ heartbeatAt ∧ heartbeatAt < heartbeatAt + span then
    .ok ⟨key, claimant, acquiredAt, heartbeatAt, heartbeatAt + span, h.1, h.2⟩
  else .error .validation

/-- The lease files: one a date, and the superseded ones by date and token. -/
structure LeaseStore where
  leases : Date → Option RunLease
  diagnostics : Date → String → Option RunLease

namespace LeaseStore

def setLease (s : LeaseStore) (date : Date) (lease : RunLease) : LeaseStore :=
  { s with leases := Function.update s.leases date (some lease) }

/-- The superseded lease, kept under its token. -/
def keepDiagnostic (s : LeaseStore) (date : Date) (lease : RunLease) : LeaseStore :=
  { s with
    diagnostics := Function.update s.diagnostics date
      (Function.update (s.diagnostics date) lease.token (some lease)) }

/-- The end of `acquire_lease`. -/
def claim (s : LeaseStore) (key : RunKey) (claimant : Claimant) (now : UtcDatetime) :
    LeaseStore × Except LeaseError RunLease :=
  match buildLease key claimant now now leaseDuration with
  | .error e => (s, .error e)
  | .ok lease => (s.setLease key.marketDate lease, .ok lease)

/-- `acquire_lease`. -/
def acquireLease (s : LeaseStore) (key : RunKey) (claimant : Claimant) (now : UtcDatetime) :
    LeaseStore × Except LeaseError RunLease :=
  match s.leases key.marketDate with
  | none => s.claim key claimant now
  | some current =>
    if now < current.expiresAt then (s, .error (.leaseHeld "live run lease is already held"))
    else (s.keepDiagnostic key.marketDate current).claim key claimant now

/-- `heartbeat`. -/
def heartbeat (s : LeaseStore) (lease : RunLease) (now : UtcDatetime) :
    LeaseStore × Except LeaseError RunLease :=
  match s.leases lease.key.marketDate with
  | none => (s, .error (.leaseHeld "run lease is not present"))
  | some current =>
    if current.token ≠ lease.token ∨ current.expiresAt ≤ now then
      (s, .error (.leaseHeld "run lease is no longer owned"))
    else
      match buildLease current.key current.claimant current.acquiredAt now current.duration with
      | .error e => (s, .error e)
      | .ok renewed => (s.setLease lease.key.marketDate renewed, .ok renewed)

@[simp] theorem setLease_leases (s : LeaseStore) (date : Date) (lease : RunLease) :
    (s.setLease date lease).leases = Function.update s.leases date (some lease) := rfl

@[simp] theorem keepDiagnostic_leases (s : LeaseStore) (date : Date) (lease : RunLease) :
    (s.keepDiagnostic date lease).leases = s.leases := rfl

end LeaseStore

/-! ## What a call does -/

theorem buildLease_ok {key : RunKey} {claimant : Claimant} {acquiredAt heartbeatAt : UtcDatetime}
    {span : Int} {lease : RunLease}
    (h : buildLease key claimant acquiredAt heartbeatAt span = .ok lease) :
    lease.key = key ∧ lease.claimant = claimant ∧ lease.acquiredAt = acquiredAt ∧
    lease.heartbeatAt = heartbeatAt ∧ lease.expiresAt = heartbeatAt + span := by
  unfold buildLease at h
  split at h
  · cases h
  · split at h
    · cases h
      exact ⟨rfl, rfl, rfl, rfl, rfl⟩
    · cases h

namespace LeaseStore

theorem claim_leases {s s' : LeaseStore} {key : RunKey} {claimant : Claimant} {now : UtcDatetime}
    {out : Except LeaseError RunLease} (h : s.claim key claimant now = (s', out)) :
    (∃ e, out = .error e ∧ s' = s) ∨
    ∃ lease, out = .ok lease ∧ s'.leases = Function.update s.leases key.marketDate (some lease) ∧
      lease.key = key ∧ lease.acquiredAt = now ∧ lease.heartbeatAt = now ∧
      lease.expiresAt = now + leaseDuration := by
  unfold claim at h
  cases hbuild : buildLease key claimant now now leaseDuration with
  | error e =>
    rw [hbuild] at h
    cases h
    exact Or.inl ⟨e, rfl, rfl⟩
  | ok lease =>
    rw [hbuild] at h
    cases h
    obtain ⟨hkey, -, hacquired, hheartbeat, hexpires⟩ := buildLease_ok hbuild
    exact Or.inr ⟨lease, rfl, rfl, hkey, hacquired, hheartbeat, hexpires⟩

/-- An acquisition is refused and leaves the lease files, or it finds no live lease and
stores its own. -/
theorem acquire_cases {s s' : LeaseStore} {key : RunKey} {claimant : Claimant} {now : UtcDatetime}
    {out : Except LeaseError RunLease} (h : s.acquireLease key claimant now = (s', out)) :
    (∃ e, out = .error e ∧ s'.leases = s.leases) ∨
    ∃ lease, out = .ok lease ∧ s'.leases = Function.update s.leases key.marketDate (some lease) ∧
      lease.key = key ∧ lease.acquiredAt = now ∧ lease.heartbeatAt = now ∧
      lease.expiresAt = now + leaseDuration ∧
      ∀ current ∈ s.leases key.marketDate, current.expiresAt ≤ now := by
  unfold acquireLease at h
  cases hcurrent : s.leases key.marketDate with
  | none =>
    rw [hcurrent] at h
    rcases claim_leases h with ⟨e, hout, hs⟩ | ⟨lease, hout, hs, hkey, hacquired, hheart, hexpires⟩
    · exact Or.inl ⟨e, hout, by rw [hs]⟩
    · exact Or.inr ⟨lease, hout, hs, hkey, hacquired, hheart, hexpires, fun _ hc => by cases hc⟩
  | some current =>
    simp only [hcurrent] at h
    by_cases hlive : now < current.expiresAt
    · rw [if_pos hlive] at h
      cases h
      exact Or.inl ⟨_, rfl, rfl⟩
    · rw [if_neg hlive] at h
      rcases claim_leases h with
        ⟨e, hout, hs⟩ | ⟨lease, hout, hs, hkey, hacquired, hheart, hexpires⟩
      · exact Or.inl ⟨e, hout, by rw [hs]; rfl⟩
      · refine Or.inr ⟨lease, hout, hs, hkey, hacquired, hheart, hexpires, ?_⟩
        intro other hother
        rw [Option.mem_some_iff] at hother
        rw [← hother]
        exact not_lt.mp hlive

/-- A heartbeat is refused and changes nothing, or it renews the stored lease. -/
theorem heartbeat_cases {s s' : LeaseStore} {lease : RunLease} {now : UtcDatetime}
    {out : Except LeaseError RunLease} (h : s.heartbeat lease now = (s', out)) :
    (∃ e, out = .error e ∧ s' = s) ∨
    ∃ current renewed, s.leases lease.key.marketDate = some current ∧ out = .ok renewed ∧
      s'.leases = Function.update s.leases lease.key.marketDate (some renewed) ∧
      current.token = lease.token ∧ now < current.expiresAt ∧
      renewed.key = current.key ∧ renewed.token = current.token ∧
      renewed.acquiredAt = current.acquiredAt ∧ renewed.heartbeatAt = now ∧
      renewed.expiresAt = now + current.duration := by
  unfold heartbeat at h
  cases hcurrent : s.leases lease.key.marketDate with
  | none =>
    rw [hcurrent] at h
    cases h
    exact Or.inl ⟨_, rfl, rfl⟩
  | some current =>
    simp only [hcurrent] at h
    by_cases hlost : current.token ≠ lease.token ∨ current.expiresAt ≤ now
    · rw [if_pos hlost] at h
      cases h
      exact Or.inl ⟨_, rfl, rfl⟩
    · rw [if_neg hlost] at h
      push Not at hlost
      cases hbuild : buildLease current.key current.claimant current.acquiredAt now
          current.duration with
      | error e =>
        rw [hbuild] at h
        cases h
        exact Or.inl ⟨e, rfl, rfl⟩
      | ok renewed =>
        rw [hbuild] at h
        cases h
        obtain ⟨hkey, hclaimant, hacquired, hheart, hexpires⟩ := buildLease_ok hbuild
        refine Or.inr ⟨current, renewed, rfl, rfl, rfl, hlost.1, hlost.2, hkey, ?_, hacquired,
          hheart, hexpires⟩
        rw [RunLease.token, hclaimant]
        rfl

end LeaseStore

/-! ## Renewals -/

/-- A lease that ends fifteen minutes after its last heartbeat. -/
def RunLease.Bounded (lease : RunLease) : Prop :=
  lease.expiresAt = lease.heartbeatAt + leaseDuration

/-- A heartbeat: the lease the client shows, and the time. -/
structure Renewal where
  shown : RunLease
  now : UtcDatetime

/-- What a sequence of heartbeats that all succeed stores and returns; `none` when one of
them is refused. -/
def LeaseStore.renewals : LeaseStore → List Renewal → Option (List (LeaseStore × RunLease))
  | _, [] => some []
  | s, renewal :: rest =>
    match s.heartbeat renewal.shown renewal.now with
    | (_, .error _) => none
    | (s', .ok renewed) => (s'.renewals rest).map ((s', renewed) :: ·)

/-- Every lease stored for the date or returned along the way is bounded. -/
def AllBounded (date : Date) (trace : List (LeaseStore × RunLease)) : Prop :=
  ∀ p ∈ trace, p.2.Bounded ∧ ∀ stored ∈ p.1.leases date, stored.Bounded

theorem allBounded_cons {date : Date} {s : LeaseStore} {lease : RunLease}
    {trace : List (LeaseStore × RunLease)} (h : s.leases date = some lease) :
    AllBounded date ((s, lease) :: trace) ↔ lease.Bounded ∧ AllBounded date trace := by
  unfold AllBounded
  rw [List.forall_mem_cons]
  constructor
  · intro hall
    exact ⟨hall.1.1, hall.2⟩
  · intro hall
    refine ⟨⟨hall.1, ?_⟩, hall.2⟩
    intro stored hstored
    rw [h, Option.mem_some_iff] at hstored
    rw [← hstored]
    exact hall.1

namespace LeaseStore

/-- Renewals of a stored lease: the first is bounded when the stored lease spans the
duration, and the next ones when no time has passed since the acquisition. -/
theorem renewals_from {date : Date} : ∀ (calls : List Renewal) {s : LeaseStore}
    {current : RunLease} {trace : List (LeaseStore × RunLease)},
    s.leases date = some current → (∀ call ∈ calls, call.shown.key.marketDate = date) →
    s.renewals calls = some trace →
    (AllBounded date trace ↔ calls = [] ∨
      current.duration = leaseDuration ∧ ∀ call ∈ calls.dropLast, call.now = current.acquiredAt) := by
  intro calls
  induction calls with
  | nil =>
    intro s current trace _ _ htrace
    cases htrace
    exact ⟨fun _ => Or.inl rfl, fun _ _ hp => by cases hp⟩
  | cons call rest ih =>
    intro s current trace hstored hdates htrace
    rw [renewals] at htrace
    cases hcall : s.heartbeat call.shown call.now with
    | mk s' out =>
      rw [hcall] at htrace
      rcases heartbeat_cases hcall with ⟨e, hout, -⟩ | ⟨old, renewed, hold, hout, hafter, -, -, -,
        -, hacquired, hheart, hexpires⟩
      · rw [hout] at htrace
        cases htrace
      · rw [hout] at htrace
        have hdate : call.shown.key.marketDate = date := hdates call List.mem_cons_self
        rw [hdate, hstored, Option.some.injEq] at hold
        rw [← hold] at hacquired hexpires
        have hstored' : s'.leases date = some renewed := by
          rw [hafter, hdate, Function.update_self]
        obtain ⟨trace', htrace', htail⟩ := Option.map_eq_some_iff.mp htrace
        rw [← htail, allBounded_cons hstored',
          ih hstored' (fun c hc => hdates c (List.mem_cons_of_mem _ hc)) htrace']
        -- the renewed lease spans what the old one did, and the time since the acquisition
        have hspan : renewed.duration = (call.now - current.acquiredAt) + current.duration := by
          rw [RunLease.duration, hexpires, hacquired]
          ring
        have hbounded : renewed.Bounded ↔ current.duration = leaseDuration := by
          rw [RunLease.Bounded, hexpires, hheart, add_right_inj]
        rw [hbounded, hspan, hacquired]
        cases rest with
        | nil => simp
        | cons next rest =>
          rw [List.dropLast_cons_cons, List.forall_mem_cons]
          constructor
          · intro h
            obtain ⟨hduration, hnone | ⟨hnext, hrest⟩⟩ := h
            · cases hnone
            · exact Or.inr ⟨hduration, by rw [hduration] at hnext; linarith, hrest⟩
          · intro h
            rcases h with hnone | ⟨hduration, hnow, hrest⟩
            · cases hnone
            · exact ⟨hduration, Or.inr ⟨by rw [hnow, hduration]; ring, hrest⟩⟩

/-- **The leases of a chain of renewals end fifteen minutes after their heartbeats exactly
when every renewal but the last is made at the time of the acquisition.** -/
theorem renewals_bounded_iff {s s' : LeaseStore} {key : RunKey} {claimant : Claimant}
    {now : UtcDatetime} {lease : RunLease} (hacquire : s.acquireLease key claimant now = (s', .ok lease))
    {calls : List Renewal} (hdates : ∀ call ∈ calls, call.shown.key.marketDate = key.marketDate)
    {trace : List (LeaseStore × RunLease)} (htrace : s'.renewals calls = some trace) :
    AllBounded key.marketDate ((s', lease) :: trace) ↔ ∀ call ∈ calls.dropLast, call.now = now := by
  rcases acquire_cases hacquire with ⟨e, hout, -⟩ | ⟨_, hout, hafter, -, hacquired, hheart,
    hexpires, -⟩
  · cases hout
  · cases hout
    have hstored : s'.leases key.marketDate = some lease := by rw [hafter, Function.update_self]
    have hduration : lease.duration = leaseDuration := by
      rw [RunLease.duration, hexpires, hacquired]
      ring
    have hbounded : lease.Bounded := by rw [RunLease.Bounded, hexpires, hheart]
    rw [allBounded_cons hstored, renewals_from calls hstored hdates htrace, hacquired]
    cases calls with
    | nil => simp [hbounded]
    | cons call rest => simp [hbounded, hduration]

/-! A lease renewed after five minutes and after ten. -/

def empty : LeaseStore := ⟨fun _ => none, fun _ _ => none⟩

def sampleKey : RunKey := ⟨.premarket, ⟨2026, 1, 5, Calendar.firstMonday_valid⟩⟩

def sampleClaimant : Claimant := ⟨"0123456789abcdef0123456789abcdef", 4242, "localhost"⟩

/-- A lease of the sample claimant, from these times. -/
def sampleLease (heartbeatAt expiresAt : UtcDatetime) (h : 0 ≤ heartbeatAt ∧ heartbeatAt < expiresAt) :
    RunLease := ⟨sampleKey, sampleClaimant, 0, heartbeatAt, expiresAt, by decide, h⟩

def firstLease : RunLease := sampleLease 0 900000000 (by decide)
def secondLease : RunLease := sampleLease 300000000 1200000000 (by decide)
def thirdLease : RunLease := sampleLease 600000000 1800000000 (by decide)

def sampleStore (lease : RunLease) : LeaseStore := empty.setLease sampleKey.marketDate lease

def sampleCalls : List Renewal := [⟨firstLease, 300000000⟩, ⟨secondLease, 600000000⟩]

def sampleTrace : List (LeaseStore × RunLease) :=
  [((sampleStore firstLease).setLease sampleKey.marketDate secondLease, secondLease),
    (((sampleStore firstLease).setLease sampleKey.marketDate secondLease).setLease
      sampleKey.marketDate thirdLease, thirdLease)]

theorem sample_acquired :
    empty.acquireLease sampleKey sampleClaimant 0 = (sampleStore firstLease, .ok firstLease) := rfl

theorem sample_renewed : (sampleStore firstLease).renewals sampleCalls = some sampleTrace := rfl

theorem sample_dates : ∀ call ∈ sampleCalls, call.shown.key.marketDate = sampleKey.marketDate := by
  decide

/-- The second renewal ends twenty minutes after its heartbeat. -/
theorem renewals_not_bounded :
    ¬ ∀ (s s' : LeaseStore) (key : RunKey) (claimant : Claimant) (now : UtcDatetime)
      (lease : RunLease) (calls : List Renewal) (trace : List (LeaseStore × RunLease)),
      s.acquireLease key claimant now = (s', .ok lease) →
      (∀ call ∈ calls, call.shown.key.marketDate = key.marketDate) →
      (now :: calls.map Renewal.now).Pairwise (· ≤ ·) → s'.renewals calls = some trace →
      AllBounded key.marketDate ((s', lease) :: trace) := by
  intro h
  have hall := h _ _ _ _ _ _ _ _ sample_acquired sample_dates (by decide) sample_renewed
  have hthird := (hall (_, thirdLease) (by
    exact List.mem_cons_of_mem _ (List.mem_cons_of_mem _ List.mem_cons_self))).1
  revert hthird
  show ¬ (1800000000 : Int) = 600000000 + leaseDuration
  decide

/-- The renewals of the sample are not all bounded, and not all at the acquisition. -/
theorem renewals_bounded_sample :
    AllBounded sampleKey.marketDate ((sampleStore firstLease, firstLease) :: sampleTrace) ↔
      ∀ call ∈ sampleCalls.dropLast, call.now = 0 :=
  renewals_bounded_iff sample_acquired sample_dates sample_renewed

end LeaseStore

/-! ## Many clients -/

/-- A call of any client. -/
inductive LeaseCall where
  | acquire (key : RunKey) (claimant : Claimant) (now : UtcDatetime)
  | heartbeat (shown : RunLease) (now : UtcDatetime)

def LeaseCall.now : LeaseCall → UtcDatetime
  | .acquire _ _ now => now
  | .heartbeat _ now => now

namespace LeaseStore

/-- The call and its answer. -/
def answer (s : LeaseStore) : LeaseCall → LeaseStore × Except LeaseError RunLease
  | .acquire key claimant now => s.acquireLease key claimant now
  | .heartbeat shown now => s.heartbeat shown now

def step (s : LeaseStore) (call : LeaseCall) : LeaseStore := (s.answer call).1

/-- The lease the call returns to its client, if it does. -/
def returned (s : LeaseStore) (call : LeaseCall) : List RunLease :=
  match (s.answer call).2 with
  | .ok lease => [lease]
  | .error _ => []

/-- The lease with this token as it was last returned. -/
def lastRenewed (history : List RunLease) (date : Date) (token : String) : Option RunLease :=
  (history.filter fun lease => lease.key.marketDate = date ∧ lease.token = token).getLast?

theorem lastRenewed_concat (history : List RunLease) (lease : RunLease) (date : Date)
    (token : String) :
    lastRenewed (history ++ [lease]) date token =
      if lease.key.marketDate = date ∧ lease.token = token then some lease
      else lastRenewed history date token := by
  unfold lastRenewed
  by_cases hlease : lease.key.marketDate = date ∧ lease.token = token
  · rw [if_pos hlease, List.filter_append, List.filter_cons_of_pos (by simpa using hlease),
      List.filter_nil, List.getLast?_concat]
  · rw [if_neg hlease, List.filter_append, List.filter_cons_of_neg (by simpa using hlease),
      List.filter_nil, List.append_nil]

theorem lastRenewed_token {history : List RunLease} {date : Date} {token : String}
    {lease : RunLease} (h : lastRenewed history date token = some lease) :
    lease.key.marketDate = date ∧ lease.token = token := by
  have hmem := List.mem_of_getLast? h
  simpa using (List.mem_filter.mp hmem).2

/-- At `now` every lease in the hands of a client is the stored one or has expired. -/
structure Exclusive (history : List RunLease) (s : LeaseStore) (now : UtcDatetime) : Prop where
  dated : ∀ date lease, s.leases date = some lease → lease.key.marketDate = date
  superseded : ∀ date token lease, lastRenewed history date token = some lease →
    s.leases date = some lease ∨ lease.expiresAt ≤ now

theorem Exclusive.later {history : List RunLease} {s : LeaseStore} {now then' : UtcDatetime}
    (h : Exclusive history s now) (hle : now ≤ then') : Exclusive history s then' where
  dated := h.dated
  superseded := by
    intro date token lease hlast
    rcases h.superseded date token lease hlast with hstored | hexpired
    · exact Or.inl hstored
    · exact Or.inr (le_trans hexpired hle)

theorem Exclusive.congr {history : List RunLease} {s s' : LeaseStore} {now : UtcDatetime}
    (h : Exclusive history s now) (hsame : s'.leases = s.leases) : Exclusive history s' now where
  dated := by rw [hsame]; exact h.dated
  superseded := by rw [hsame]; exact h.superseded

/-- A lease that replaces the stored one: an expired one, or one with its token. -/
theorem Exclusive.store {history : List RunLease} {s s' : LeaseStore} {now : UtcDatetime}
    (h : Exclusive history s now) {date : Date} {lease : RunLease}
    (hafter : s'.leases = Function.update s.leases date (some lease))
    (hdate : lease.key.marketDate = date)
    (hold : ∀ current ∈ s.leases date, current.token = lease.token ∨ current.expiresAt ≤ now) :
    Exclusive (history ++ [lease]) s' now where
  dated := by
    intro other stored hstored
    rw [hafter] at hstored
    by_cases hother : other = date
    · rw [hother, Function.update_self, Option.some.injEq] at hstored
      rw [hother, ← hstored, hdate]
    · rw [Function.update_of_ne hother] at hstored
      exact h.dated other stored hstored
  superseded := by
    intro other token held hlast
    rw [lastRenewed_concat] at hlast
    by_cases hsame : lease.key.marketDate = other ∧ lease.token = token
    · rw [if_pos hsame, Option.some.injEq] at hlast
      refine Or.inl ?_
      rw [hafter, ← hsame.1, hdate, Function.update_self, hlast]
    · rw [if_neg hsame] at hlast
      rcases h.superseded other token held hlast with hstored | hexpired
      · by_cases hother : other = date
        · rw [hother] at hstored
          rcases hold held hstored with htoken | hexpired
          · -- the token is the stored lease's, so this is the lease that was renewed
            have hheld := lastRenewed_token hlast
            exact absurd ⟨hdate.trans hother.symm, htoken.symm.trans hheld.2⟩ hsame
          · exact Or.inr hexpired
        · refine Or.inl ?_
          rw [hafter, Function.update_of_ne hother]
          exact hstored
      · exact Or.inr hexpired

/-- One call, at a time no earlier than the last. -/
theorem Exclusive.step {history : List RunLease} {s : LeaseStore} {now : UtcDatetime}
    (h : Exclusive history s now) (call : LeaseCall) (hle : now ≤ call.now) :
    Exclusive (history ++ s.returned call) (s.step call) call.now := by
  have hnow := h.later hle
  unfold LeaseStore.step returned
  cases call with
  | acquire key claimant at' =>
    simp only [answer]
    cases hcall : s.acquireLease key claimant at' with
    | mk s' out =>
      rcases acquire_cases hcall with
        ⟨e, hout, hsame⟩ | ⟨lease, hout, hafter, hkey, -, -, -, hfree⟩
      · simp only [hout, List.append_nil]
        exact hnow.congr hsame
      · simp only [hout]
        exact hnow.store hafter (by rw [hkey]) fun current hcurrent =>
          Or.inr (hfree current hcurrent)
  | heartbeat shown at' =>
    simp only [answer]
    cases hcall : s.heartbeat shown at' with
    | mk s' out =>
      rcases heartbeat_cases hcall with
        ⟨e, hout, hsame⟩ | ⟨current, renewed, hcurrent, hout, hafter, -, -, hkey, htoken, -⟩
      · simp only [hout, List.append_nil]
        exact hnow.congr (by rw [hsame])
      · simp only [hout]
        refine hnow.store hafter (by rw [hkey]; exact h.dated _ _ hcurrent) ?_
        intro other hother
        rw [hcurrent, Option.mem_some_iff] at hother
        exact Or.inl (by rw [← hother, htoken])

/-- What a sequence of calls returns to the clients. -/
abbrev history (s : LeaseStore) (calls : List LeaseCall) : List RunLease :=
  Transitions.emitted step returned s calls

theorem Exclusive.run : ∀ (calls : List LeaseCall) {past : List RunLease} {s : LeaseStore}
    {now stop : UtcDatetime}, Exclusive past s now →
    (now :: calls.map LeaseCall.now).Pairwise (· ≤ ·) → now ≤ stop →
    (∀ call ∈ calls, call.now ≤ stop) →
    Exclusive (past ++ s.history calls) (Transitions.run LeaseStore.step s calls) stop := by
  intro calls
  induction calls with
  | nil =>
    intro past s now stop h _ hstop _
    rw [history, Transitions.emitted, List.append_nil]
    exact h.later hstop
  | cons call rest ih =>
    intro past s now stop h hordered _ hbefore
    rw [List.map_cons, List.pairwise_cons] at hordered
    have hfirst := h.step call (hordered.1 _ List.mem_cons_self)
    rw [history, Transitions.emitted, ← List.append_assoc, Transitions.run_cons]
    exact ih hfirst hordered.2 (hbefore call List.mem_cons_self)
      fun c hc => hbefore c (List.mem_cons_of_mem _ hc)

/-- From no lease at all. -/
theorem exclusive_history (calls : List LeaseCall)
    (hordered : (calls.map LeaseCall.now).Pairwise (· ≤ ·)) (stop : UtcDatetime)
    (hbefore : ∀ call ∈ calls, call.now ≤ stop) :
    Exclusive (empty.history calls) (Transitions.run LeaseStore.step empty calls) stop := by
  have hstart : ∀ now, Exclusive [] empty now := fun now =>
    ⟨fun _ _ h => (by cases h), fun _ _ _ h => (by cases h)⟩
  cases calls with
  | nil => exact hstart stop
  | cons call rest =>
    refine Exclusive.run (call :: rest) (hstart call.now) ?_ (hbefore call List.mem_cons_self)
      hbefore
    rw [List.pairwise_cons]
    refine ⟨?_, hordered⟩
    intro now hnow
    rw [List.map_cons, List.mem_cons] at hnow
    rcases hnow with hsame | hlater
    · exact le_of_eq hsame.symm
    · rw [List.map_cons, List.pairwise_cons] at hordered
      exact hordered.1 now hlater

/-- **At no time do two clients hold live leases under different tokens; a heartbeat that
does not own a live lease and an acquisition while one is stored raise and change
nothing.** -/
theorem leases_exclusive (calls : List LeaseCall)
    (hordered : (calls.map LeaseCall.now).Pairwise (· ≤ ·)) :
    let s := Transitions.run LeaseStore.step empty calls
    (∀ t, (∀ call ∈ calls, call.now ≤ t) → ∀ date token token' lease lease',
      lastRenewed (empty.history calls) date token = some lease →
      lastRenewed (empty.history calls) date token' = some lease' → token ≠ token' →
      ¬ (t < lease.expiresAt ∧ t < lease'.expiresAt)) ∧
    (∀ shown now, (∀ current ∈ s.leases shown.key.marketDate,
        current.token ≠ shown.token ∨ current.expiresAt ≤ now) →
      ∃ e, s.heartbeat shown now = (s, .error e)) ∧
    ∀ key claimant now, (∃ current ∈ s.leases key.marketDate, now < current.expiresAt) →
      ∃ e, s.acquireLease key claimant now = (s, .error e) := by
  intro s
  refine ⟨?_, ?_, ?_⟩
  · intro t hbefore date token token' lease lease' hlast hlast' hne hlive
    have hfinal := exclusive_history calls hordered t hbefore
    -- neither lease has expired, so both are the one that is stored
    have hstored := (hfinal.superseded date token lease hlast).resolve_right (not_le.mpr hlive.1)
    have hstored' := (hfinal.superseded date token' lease' hlast').resolve_right
      (not_le.mpr hlive.2)
    rw [hstored, Option.some.injEq] at hstored'
    refine hne ?_
    rw [← (lastRenewed_token hlast).2, ← (lastRenewed_token hlast').2, hstored']
  · intro shown now hlost
    cases hcurrent : s.leases shown.key.marketDate with
    | none =>
      refine ⟨.leaseHeld "run lease is not present", ?_⟩
      simp only [heartbeat, hcurrent]
    | some current =>
      refine ⟨.leaseHeld "run lease is no longer owned", ?_⟩
      simp only [heartbeat, hcurrent, if_pos (hlost current hcurrent)]
  · intro key claimant now hlive
    obtain ⟨current, hcurrent, hlive⟩ := hlive
    rw [Option.mem_def] at hcurrent
    refine ⟨.leaseHeld "live run lease is already held", ?_⟩
    simp only [acquireLease, hcurrent, if_pos hlive]

/-- A renewed lease, a takeover after it has expired, and a late heartbeat. -/
def sampleTurns : List LeaseCall :=
  [.acquire sampleKey sampleClaimant 0, .heartbeat firstLease 300000000,
    .acquire sampleKey ⟨"fedcba9876543210fedcba9876543210", 7, "localhost"⟩ 1200000000,
    .heartbeat secondLease 1200000001]

theorem leases_exclusive_sample :
    let s := Transitions.run LeaseStore.step empty sampleTurns
    (∀ t, (∀ call ∈ sampleTurns, call.now ≤ t) → ∀ date token token' lease lease',
      lastRenewed (empty.history sampleTurns) date token = some lease →
      lastRenewed (empty.history sampleTurns) date token' = some lease' → token ≠ token' →
      ¬ (t < lease.expiresAt ∧ t < lease'.expiresAt)) ∧
    (∀ shown now, (∀ current ∈ s.leases shown.key.marketDate,
        current.token ≠ shown.token ∨ current.expiresAt ≤ now) →
      ∃ e, s.heartbeat shown now = (s, .error e)) ∧
    ∀ key claimant now, (∃ current ∈ s.leases key.marketDate, now < current.expiresAt) →
      ∃ e, s.acquireLease key claimant now = (s, .error e) :=
  leases_exclusive sampleTurns (by decide)

end LeaseStore

end FinanceResearch
