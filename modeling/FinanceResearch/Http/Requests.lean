import FinanceResearch.Http.Confined

/-!
# What a request does

The runs of `SafeHttpClient.request`, whatever it is answered. A request is refused before anything
is sent, or its loop runs and its telemetry follows (`request_cases`). So every send stays
with the host of the request (`request_confined`), a request ends after a bounded number of sends,
none of them and no wait behind the deadline (`request_bounded`), what it returns is its last reply,
within the limits (`request_answered`), and the telemetry tells what was sent (`request_recorded`).
-/

namespace FinanceResearch.Http

open Config Program

section Client

variable {u : CharacterDatabase} {urls : UrlLibrary} {library : HttpLibrary}
  {client : SafeHttpClient} {request : AllowedRequest u urls} {options : CallOptions}

/-- The deadline that a request has. -/
def deadlineOf (client : SafeHttpClient) (options : CallOptions) : Int :=
  match client.runDeadline with
  | none => options.deadline
  | some runDeadline => min options.deadline runDeadline

/-- The bytes that a result tells. -/
def bytesOf : Except (RequestError × Nat) (SafeResponse × Nat) → Nat
  | .error _ => 0
  | .ok (response, _) => response.content.length

/-- What a caller gets of a result. -/
def resultOf : Except (RequestError × Nat) (SafeResponse × Nat) → Except RequestError SafeResponse
  | .error (error, _) => .error error
  | .ok (response, _) => .ok response

/-- What telemetry a call is. -/
def recorded? : Call HttpOp HttpAnswer → Option (String × Nat × Nat)
  | ⟨.record adapter attempts bytes, _⟩ => some (adapter, attempts, bytes)
  | _ => none

/-- The telemetry of a trace. -/
def records (trace : HttpTrace) : List (String × Nat × Nat) := trace.filterMap recorded?

theorem records_append (a b : HttpTrace) : records (a ++ b) = records a ++ records b :=
  List.filterMap_append

/-- A call that only asks is neither a send nor telemetry. -/
theorem silent_of_questions {trace : HttpTrace} (h : ∀ call ∈ trace, call.op.isQuestion = true) :
    exchanges trace = [] ∧ records trace = [] := by
  constructor
  · refine List.filterMap_eq_nil_iff.mpr ?_
    intro call hcall
    have hquestion := h call hcall
    obtain ⟨op, answer⟩ := call
    cases op with
    | send exchange => cases hquestion
    | _ => rfl
  · refine List.filterMap_eq_nil_iff.mpr ?_
    intro call hcall
    have hquestion := h call hcall
    obtain ⟨op, answer⟩ := call
    cases op with
    | record adapter attempts bytes => cases hquestion
    | _ => rfl

theorem timely_of_questions {deadline limit : Int} {trace : HttpTrace}
    (h : ∀ call ∈ trace, call.op.isQuestion = true) : Timely library deadline limit trace := by
  intro before call after htrace
  have hquestion : call.op.isQuestion = true := by
    refine h call ?_
    rw [htrace]
    exact List.mem_append_right _ List.mem_cons_self
  obtain ⟨op, answer⟩ := call
  cases op with
  | send exchange => cases hquestion
  | sleep delay => cases hquestion
  | _ => trivial

/-! ## The parts of a request -/

/-- A request is refused, or runs its loop and tells of it. -/
inductive Ran (library : HttpLibrary) (client : SafeHttpClient) (request : AllowedRequest u urls)
    (options : CallOptions) : HttpTrace → Except RequestError SafeResponse → Prop
  | refused {trace : HttpTrace} {error : RequestError}
      (questions : ∀ call ∈ trace, call.op.isQuestion = true) :
      Ran library client request options trace (.error error)
  | looped {front prepared looped tail : HttpTrace} {url : List Char} {sending : Sending}
      {out : Except (RequestError × Nat) (SafeResponse × Nat)}
      (questions : ∀ call ∈ front, call.op.isQuestion = true)
      (prepare : (prepareRequest library client request options (deadlineOf client options)).Plays
        prepared (.ok (url, sending)))
      (run : (loop library client request sending (maxAttempts client + 5) 0 ⟨url, 1, 0⟩).Plays looped out)
      (record : (recordExchange request options (countOf out) (bytesOf out)).Plays tail (.ok ())) :
      Ran library client request options (front ++ (prepared ++ looped ++ tail)) (resultOf out)

theorem effectiveDeadline_spec {trace : HttpTrace} {deadline : Int}
    (h : (effectiveDeadline client options).Plays trace (.ok deadline)) :
    deadline = deadlineOf client options := by
  unfold effectiveDeadline at h
  unfold deadlineOf
  cases hrun : client.runDeadline with
  | none =>
    rw [hrun] at h
    cases h.2
    rfl
  | some runDeadline =>
    rw [hrun] at h
    obtain ⟨_, _, _, -, -, h⟩ := plays_bind_ok h
    obtain ⟨_, _, _, -, -, h⟩ := plays_bind_ok h
    cases h.2
    rfl

theorem recordExchange_returns {sent bytes : Nat} {trace : HttpTrace} {out : Except RequestError Unit}
    (h : (recordExchange request options sent bytes).Plays trace out) : out = .ok () := by
  unfold recordExchange at h
  by_cases hrecord : options.observed = true ∧ sent ≠ 0
  · rw [if_pos hrecord] at h
    obtain ⟨answer, -, rfl⟩ := plays_perform.mp h
    rfl
  · rw [if_neg hrecord] at h
    exact h.2

/-- **A request is refused before it sends, or is its loop with the telemetry behind it.** -/
theorem request_cases {trace : HttpTrace} {out : Except RequestError SafeResponse}
    (h : (SafeHttpClient.request library client request options).Plays trace out) :
    Ran library client request options trace out := by
  rcases plays_bind.mp h with ⟨error, hdeadline, rfl⟩ | ⟨deadline, front, rest, rfl, hdeadline, hrest⟩
  · exact .refused ((asks_effectiveDeadline options).plays hdeadline)
  have hquestions := (asks_effectiveDeadline options).plays hdeadline
  have hsame := effectiveDeadline_spec hdeadline
  subst hsame
  rcases plays_bind.mp hrest with ⟨error, hattempt, -⟩ | ⟨result, ran, tail, rfl, hattempt, htail⟩
  · obtain ⟨_, -, hout⟩ := plays_attempt.mp hattempt
    cases hout
  obtain ⟨result', hran, hresult⟩ := plays_attempt.mp hattempt
  cases hresult
  -- the telemetry and the result
  have hfinish : ∃ told, told = tail ∧
      (recordExchange request options (countOf result) (bytesOf result)).Plays told (.ok ()) ∧
        out = resultOf result := by
    cases result with
    | error failure =>
      obtain ⟨error, sent⟩ := failure
      rcases plays_bind.mp htail with ⟨_, hrecord, -⟩ | ⟨_, told, last, rfl, hrecord, hlast⟩
      · cases recordExchange_returns hrecord
      · obtain ⟨rfl, rfl⟩ := hlast
        exact ⟨told, (List.append_nil told).symm, hrecord, rfl⟩
    | ok returned =>
      obtain ⟨response, sent⟩ := returned
      rcases plays_bind.mp htail with ⟨_, hrecord, -⟩ | ⟨_, told, last, rfl, hrecord, hlast⟩
      · cases recordExchange_returns hrecord
      · obtain ⟨rfl, rfl⟩ := hlast
        exact ⟨told, (List.append_nil told).symm, hrecord, rfl⟩
  obtain ⟨told, rfl, hrecord, rfl⟩ := hfinish
  rcases plays_bind.mp hran with ⟨failure, hprepare, rfl⟩ | ⟨⟨url, sending⟩, prepared, looped, rfl, hprepare, hloop⟩
  · obtain ⟨result, hpart, hresult⟩ := plays_counted.mp hprepare
    cases result with
    | ok prepared => cases hresult
    | error error =>
      cases hresult
      have hnone : (recordExchange request options 0 0).Plays told (.ok ()) := hrecord
      unfold recordExchange at hnone
      rw [if_neg fun h => h.2 rfl] at hnone
      rw [hnone.1, List.append_nil]
      refine .refused ?_
      intro call hcall
      rcases List.mem_append.mp hcall with hcall | hcall
      · exact hquestions call hcall
      · exact (asks_prepareRequest options _).plays hpart call hcall
  · obtain ⟨result, hpart, hresult⟩ := plays_counted.mp hprepare
    cases result with
    | error error => cases hresult
    | ok found =>
      cases hresult
      exact .looped hquestions hpart hloop hrecord

theorem prepareRequest_spec {deadline : Int} {url : List Char} {sending : Sending} {trace : HttpTrace}
    (h : (prepareRequest library client request options deadline).Plays trace (.ok (url, sending))) :
    sending.deadline = deadline ∧ sending.headers = options.headers ∧
      ∃ trace', (validateRequest library client request).Plays trace' (.ok (url, sending.addresses)) := by
  obtain ⟨_, _, _, -, -, h⟩ := plays_bind_ok h
  obtain ⟨⟨found, addresses⟩, trace', _, -, hvalid, h⟩ := plays_bind_ok h
  obtain ⟨_, _, _, -, -, h⟩ := plays_bind_ok h
  obtain ⟨_, _, _, -, -, h⟩ := plays_bind_ok h
  obtain ⟨_, _, _, -, -, h⟩ := plays_bind_ok h
  cases h.2
  exact ⟨rfl, rfl, trace', hvalid⟩

/-- The telemetry sends nothing, and tells what there is to tell. -/
theorem recordExchange_spec (library : HttpLibrary) {sent bytes : Nat} {tail : HttpTrace}
    (h : (recordExchange request options sent bytes).Plays tail (.ok ())) :
    exchanges tail = [] ∧ (∀ deadline limit, Timely library deadline limit tail) ∧
      records tail = if options.observed = true ∧ sent ≠ 0 then [(request.adapter, sent, bytes)] else [] := by
  unfold recordExchange at h
  by_cases hrecord : options.observed = true ∧ sent ≠ 0
  · rw [if_pos hrecord] at h ⊢
    obtain ⟨answer, rfl, -⟩ := plays_perform.mp h
    refine ⟨rfl, ?_, rfl⟩
    intro deadline limit before call after htrace
    cases before with
    | nil =>
      cases htrace
      trivial
    | cons c before => cases before <;> cases htrace
  · rw [if_neg hrecord] at h ⊢
    rw [h.1]
    exact ⟨rfl, fun _ _ => timely_nil, rfl⟩

/-! ## Runs -/

theorem attempt_first (url : List Char) : (⟨url, 1, 0⟩ : LoopState).attempt ≤ maxAttempts client :=
  le_max_left _ _

/-- The exchanges of a request are those of its loop. -/
theorem exchanges_looped {front prepared looped tail : HttpTrace} {url : List Char} {sending : Sending}
    {out : Except (RequestError × Nat) (SafeResponse × Nat)}
    (hquestions : ∀ call ∈ front, call.op.isQuestion = true)
    (hprepare : (prepareRequest library client request options (deadlineOf client options)).Plays
      prepared (.ok (url, sending)))
    (hrecord : (recordExchange request options (countOf out) (bytesOf out)).Plays tail (.ok ())) :
    exchanges (front ++ (prepared ++ looped ++ tail)) = exchanges looped := by
  rw [exchanges_append, exchanges_append, exchanges_append, (silent_of_questions hquestions).1,
    (asks_prepareRequest options _).inner.exchanges_nil hprepare,
    (recordExchange_spec library hrecord).1, List.nil_append, List.nil_append, List.append_nil]

/-- What may be sent. -/
structure MaySend (library : HttpLibrary) (client : SafeHttpClient) (request : AllowedRequest u urls)
    (options : CallOptions) (exchange : Exchange) : Prop where
  confined : Confined u urls library client.policy (requestHost library request) exchange.url
  allowed : HostAllowed library client request (requestHost library request)
  addresses : GlobalAddresses library exchange.addresses
  headers : exchange.headers = options.headers

theorem Ran.confined (hreads : ReadsAscii library urls) (hhost : IsHostName request.host)
    {trace : HttpTrace} {out : Except RequestError SafeResponse}
    (h : Ran library client request options trace out) :
    ∀ pair ∈ exchanges trace, MaySend library client request options pair.1 := by
  cases h with
  | refused hquestions =>
    intro pair hpair
    rw [(silent_of_questions hquestions).1] at hpair
    exact absurd hpair List.not_mem_nil
  | looped hquestions hprepare hrun hrecord =>
    rw [exchanges_looped hquestions hprepare hrecord]
    obtain ⟨-, hheaders, trace', hvalid⟩ := prepareRequest_spec hprepare
    obtain ⟨hconfined, hallowed, haddresses⟩ := validateRequest_spec hreads hhost hvalid
    have hmoves : ∀ state next : LoopState,
        Confined u urls library client.policy (requestHost library request) state.url →
        Moves library client u urls state next →
        Confined u urls library client.policy (requestHost library request) next.url := by
      intro state next hstate hmove
      cases hmove with
      | retried _ => exact hstate
      | redirected _ hurl => exact hstate.redirect hurl
    intro pair hpair
    obtain ⟨⟨state, hstate, hurl⟩, hsame, hsent⟩ :=
      loop_sends hmoves hconfined (attempt_first _) hrun pair hpair
    rw [← hurl] at hstate
    rw [← hsame] at haddresses
    exact ⟨hstate, hallowed, haddresses, hsent.trans hheaders⟩

theorem Ran.bounded {trace : HttpTrace} {out : Except RequestError SafeResponse}
    (h : Ran library client request options trace out) :
    (exchanges trace).length ≤ client.policy.retryAttempts + 6 ∧
      Timely library (deadlineOf client options)
        (library.durationOf client.policy.requestDeadlineSeconds.value) trace := by
  cases h with
  | refused hquestions =>
    rw [(silent_of_questions hquestions).1]
    exact ⟨Nat.zero_le _, timely_of_questions hquestions⟩
  | looped hquestions hprepare hrun hrecord =>
    rw [exchanges_looped hquestions hprepare hrecord]
    have hcount := (loop_exchanges (attempt_first _) hrun).1
    have hattempts : maxAttempts client = client.policy.retryAttempts + 1 :=
      max_eq_right (Nat.le_add_left 1 _)
    refine ⟨by omega, ?_⟩
    have hloop := loop_timely (attempt_first _) hrun
    rw [(prepareRequest_spec hprepare).1] at hloop
    exact (timely_of_questions hquestions).append
      (((timely_of_questions ((asks_prepareRequest options _).plays hprepare)).append hloop).append
        ((recordExchange_spec library hrecord).2.1 _ _))

/-- What is returned of the exchanges: nothing, or the last reply. -/
def Answered (client : SafeHttpClient) (request : AllowedRequest u urls)
    (sent : List (Exchange × Reply)) : Except RequestError SafeResponse → Prop
  | .error _ => True
  | .ok accepted => ∃ exchange response, sent.getLast? = some (exchange, .response response) ∧
      Accepted client request response accepted ∧
      accepted.attempts ≤ client.policy.retryAttempts + 1

theorem Ran.answered {trace : HttpTrace} {out : Except RequestError SafeResponse}
    (h : Ran library client request options trace out) :
    Answered client request (exchanges trace) out := by
  cases h with
  | refused hquestions => trivial
  | @looped front prepared looped tail url sending out hquestions hprepare hrun hrecord =>
    rw [exchanges_looped hquestions hprepare hrecord]
    cases out with
    | error failure => trivial
    | ok returned =>
      obtain ⟨accepted, sent⟩ := returned
      obtain ⟨exchange, response, hlast, haccepted, hattempts⟩ :=
        loop_response (attempt_first _) hrun accepted sent rfl
      have hmax : maxAttempts client = client.policy.retryAttempts + 1 :=
        max_eq_right (Nat.le_add_left 1 _)
      rw [hmax] at hattempts
      exact ⟨exchange, response, hlast, haccepted, hattempts⟩

theorem records_inner {α : Type} {part : Part α} (h : Inner part) {trace : HttpTrace}
    {out : Except RequestError α} (hplays : part.Plays trace out) : records trace = [] := by
  refine List.filterMap_eq_nil_iff.mpr ?_
  intro call hcall
  have hinner := h.plays hplays call hcall
  obtain ⟨op, answer⟩ := call
  cases op with
  | record adapter attempts bytes => cases hinner
  | _ => rfl

theorem records_turn {sending : Sending} {state : LoopState} {before after : HttpTrace}
    {exchange : Exchange} {reply : Reply} {result : Except RequestError Turn}
    (hprepare : (prepareSend library client sending state).Plays before (.ok exchange))
    (hhandle : (handleReply library client request sending.deadline state reply).Plays after result) :
    records (before ++ ⟨.send exchange, reply⟩ :: after) = [] := by
  rw [records_append, records_inner (asks_prepareSend sending state).inner hprepare]
  show records after = []
  exact records_inner (inner_handleReply _ state reply) hhandle

theorem loop_records {sending : Sending} {turns sent : Nat} {state : LoopState} {trace : HttpTrace}
    {out : Except (RequestError × Nat) (SafeResponse × Nat)} (hattempt : state.attempt ≤ maxAttempts client)
    (h : (loop library client request sending turns sent state).Plays trace out) :
    records trace = [] := by
  refine @loop_induct u urls library client request sending (fun _ _ _ trace _ => records trace = [])
    ?_ ?_ ?_ ?_ ?_ turns sent state trace out hattempt h
  · exact fun _ _ => rfl
  · exact fun _ _ state _ _ _ hprepare => records_inner (asks_prepareSend sending state).inner hprepare
  · exact fun _ _ _ _ _ _ _ _ _ hprepare hhandle => records_turn hprepare hhandle
  · exact fun _ _ _ _ _ _ _ _ _ hprepare hhandle => records_turn hprepare hhandle
  · intro turns sent state before exchange reply handled rest next out _ hprepare hhandle _ hrest
    rw [← List.cons_append, ← List.append_assoc, records_append, records_turn hprepare hhandle, hrest]
    rfl

/-- The bytes that a caller gets. -/
def contentLength : Except RequestError SafeResponse → Nat
  | .error _ => 0
  | .ok accepted => accepted.content.length

theorem Ran.recorded {trace : HttpTrace} {out : Except RequestError SafeResponse}
    (h : Ran library client request options trace out) :
    records trace = if options.observed = true ∧ exchanges trace ≠ [] then
      [(request.adapter, (exchanges trace).length, contentLength out)] else [] := by
  cases h with
  | refused hquestions =>
    rw [(silent_of_questions hquestions).1, (silent_of_questions hquestions).2]
    exact (if_neg fun h => h.2 rfl).symm
  | @looped front prepared looped tail url sending out hquestions hprepare hrun hrecord =>
    have hcount := (loop_exchanges (attempt_first _) hrun).2
    have hbytes : bytesOf out = contentLength (resultOf out) := by
      cases out with
      | error failure => rfl
      | ok returned => rfl
    rw [exchanges_looped hquestions hprepare hrecord, records_append, records_append, records_append,
      (silent_of_questions hquestions).2, records_inner (asks_prepareRequest options _).inner hprepare,
      loop_records (attempt_first _) hrun, (recordExchange_spec library hrecord).2.2, hcount, hbytes,
      Nat.zero_add]
    simp only [List.nil_append, ne_eq, List.length_eq_zero_iff]

/-! ## Whatever is answered -/

variable {σ : Type} (exec : σ → (op : HttpOp) → σ × HttpAnswer op) (s : σ)

theorem ran_transcript (library : HttpLibrary) (client : SafeHttpClient) (request : AllowedRequest u urls)
    (options : CallOptions) : Ran library client request options
      ((SafeHttpClient.request library client request options).transcript exec s)
      ((SafeHttpClient.request library client request options).run exec s).2 :=
  request_cases (plays_transcript exec _ s)

/-- Tables that read ASCII. -/
def sampleLibrary : HttpLibrary where
  lower := List.map Char.toLower
  netlocIsLegal := fun _ => true
  urljoin := fun _ location => some location
  isAddress := fun text => text.all fun c => c.isDigit || c == '.'
  isLocalAddress := fun text => "10.".toList.isPrefixOf text
  readRetryAfter := fun _ => .unreadable
  powerOfTwo := fun n => ⟨false, 2 ^ n, 0⟩
  secondsOf := fun duration => Decimal.ofInt duration
  durationOf := fun delay => delay.coefficient

theorem sampleLibrary_readsAscii : ReadsAscii sampleLibrary Urls.sampleUrls where
  lower := fun _ _ => rfl
  control := by
    intro c hc
    unfold SplitUrls.isRemoved at hc
    simp only [Bool.or_eq_true, beq_iff_eq] at hc
    rcases hc with (rfl | rfl) | rfl
    · decide
    · decide
    · decide

theorem oneSecond_positive : (⟨false, 1, 0⟩ : Decimal).negative = false ∧
    (⟨false, 1, 0⟩ : Decimal).coefficient ≠ 0 := by decide

def oneSecond : PositiveDecimal := ⟨⟨false, 1, 0⟩, oneSecond_positive⟩

theorem sampleHosts_sorted :
    ([("alpaca", ["data.alpaca.markets"])].map Prod.fst).Pairwise (· < ·) := List.pairwise_singleton _ _

theorem sampleHosts_bounded : [("alpaca", ["data.alpaca.markets"])].length ≤ 128 := Nat.le_add_left 1 127

def sampleHosts : FrozenMap (List String) :=
  ⟨[("alpaca", ["data.alpaca.markets"])], sampleHosts_sorted, sampleHosts_bounded⟩

def samplePolicy : SourcePolicy where
  version := "1"
  qualitySourceRoles := [.marketData, .marketCalendar]
  allowedAdapters := ["alpaca"]
  allowedHttpsDomains := ["alpaca.markets"]
  allowedHostsByAdapter := some sampleHosts
  allowedPortsByHost := FrozenMap.empty
  freshnessByDataType := FrozenMap.empty
  cacheRetentionSeconds := 60
  requestDeadlineSeconds := oneSecond
  retryAttempts := 2
  retryBackoffSeconds := oneSecond
  retryJitterSeconds := oneSecond
  perRunRequestBudgets := FrozenMap.empty
  allowRedirects := true
  maximumResponseBytes := 1000
  allowedContentTypes := ["application/json"]
  excerptLimits := FrozenMap.empty
  licensedContentPersistence := .none

theorem samplePath_safe : "/v2/bars".toList ≠ [] ∧
    validatePath .ascii Urls.sampleUrls "/v2/bars".toList = .ok () := by decide +kernel

theorem sampleTypes_unique : 1 ≤ ["application/json"].length ∧ ["application/json"].length ≤ 32 ∧
    (["application/json"].map CharacterDatabase.ascii.casefold).Nodup ∧
      ∀ item ∈ ["application/json"],
        item.toList.any (fun c => !CharacterDatabase.ascii.isSpace c) = true ∧ item.length ≤ 128 ∧
          ';' ∉ item.toList := by decide

theorem sampleQuery_bounded : (FrozenMap.empty : FrozenMap String).items.length ≤ maxQueryEntries ∧
    ∀ item ∈ (FrozenMap.empty : FrozenMap String).items,
      IsBoundedEntry Urls.sampleUrls (item.1.toList, item.2.toList) :=
  ⟨Nat.zero_le _, fun _ hitem => absurd hitem List.not_mem_nil⟩

theorem sampleAdapter_bounded : 1 ≤ "alpaca".length ∧ "alpaca".length ≤ 64 := by decide

theorem sampleHost_bounded :
    1 ≤ "data.alpaca.markets".toList.length ∧ "data.alpaca.markets".toList.length ≤ 253 := by decide

theorem samplePort_bounded : 1 ≤ 443 ∧ 443 ≤ 65535 := by decide

theorem sampleLimit_bounded : 0 < 1000 ∧ 1000 ≤ 10000000 := by decide

def sampleRequest : AllowedRequest .ascii Urls.sampleUrls where
  adapter := "alpaca"
  host := "data.alpaca.markets".toList
  port := 443
  path := "/v2/bars".toList
  query := FrozenMap.empty
  acceptedContentTypes := ["application/json"]
  responseByteLimit := 1000
  adapterBounded := sampleAdapter_bounded
  hostBounded := sampleHost_bounded
  portBounded := samplePort_bounded
  pathSafe := samplePath_safe
  queryBounded := sampleQuery_bounded
  typesUnique := sampleTypes_unique
  limitBounded := sampleLimit_bounded

/-- A server that redirects, once, and then answers. -/
def sampleExec (sends : Nat) : (op : HttpOp) → Nat × HttpAnswer op
  | .clock => (sends, (0 : Int))
  | .resolve _ _ => (sends, .addresses ["8.8.8.8".toList])
  | .send _ => (sends + 1, .response {
      status := if sends = 0 then 302 else 200
      location := some "https://DATA.alpaca.markets/v2/%62ars?limit=a+b"
      retryAfter := none
      contentType := some "application/json"
      url := "https://data.alpaca.markets/v2/bars"
      chunks := [[1, 2], [3]]
      ending := .finished })
  | .sleep _ => (sends, ())
  | .jitter _ => (sends, Decimal.zero)
  | .record _ _ _ => (sends, ())

def sampleOptions : CallOptions := ⟨1000, none, none, true⟩

/-- **A request ends in time**: it sends at most `retry_attempts + 6` times, nothing of it and no
wait is behind the deadline, and its loop would do the same with more turns. -/
theorem request_bounded (library : HttpLibrary) (client : SafeHttpClient) (request : AllowedRequest u urls)
    (options : CallOptions) :
    (exchanges ((SafeHttpClient.request library client request options).transcript exec s)).length ≤
        client.policy.retryAttempts + 6 ∧
      Timely library (deadlineOf client options)
        (library.durationOf client.policy.requestDeadlineSeconds.value)
        ((SafeHttpClient.request library client request options).transcript exec s) ∧
      ∀ sending url more trace out,
        (loop library client request sending (maxAttempts client + 5 + more) 0 ⟨url, 1, 0⟩).Plays trace out ↔
          (loop library client request sending (maxAttempts client + 5) 0 ⟨url, 1, 0⟩).Plays trace out := by
  obtain ⟨hcount, htimely⟩ := (ran_transcript exec s library client request options).bounded
  refine ⟨hcount, htimely, ?_⟩
  intro sending url more trace out
  refine loop_plays_more more (attempt_first url) ?_
  show maxAttempts client - 1 + (5 - 0) + 1 ≤ maxAttempts client + 5
  have hpositive : 1 ≤ maxAttempts client := le_max_left _ _
  omega

/-- **What a request returns is its last reply**: not a redirect, not one to be retried while attempts
are left, of an accepted type, the whole body, within the limit. -/
theorem request_answered (library : HttpLibrary) (client : SafeHttpClient) (request : AllowedRequest u urls)
    (options : CallOptions) : Answered client request
      (exchanges ((SafeHttpClient.request library client request options).transcript exec s))
      ((SafeHttpClient.request library client request options).run exec s).2 :=
  (ran_transcript exec s library client request options).answered

/-- **The telemetry tells what was sent**, once, also of a request that fails. -/
theorem request_recorded (library : HttpLibrary) (client : SafeHttpClient) (request : AllowedRequest u urls)
    (options : CallOptions) :
    let trace := (SafeHttpClient.request library client request options).transcript exec s
    records trace = if options.observed = true ∧ exchanges trace ≠ [] then
      [(request.adapter, (exchanges trace).length,
        contentLength ((SafeHttpClient.request library client request options).run exec s).2)]
      else [] :=
  (ran_transcript exec s library client request options).recorded

end Client

end FinanceResearch.Http
