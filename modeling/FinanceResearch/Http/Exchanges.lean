import FinanceResearch.Http.Client

/-!
# The exchanges of a request

What `SafeHttpClient.request` sends and waits for, read off the traces of its loop: one turn is one
send (`loop_cases`), the other parts of a request send nothing (`Inner`). From the turn follow
the bounds on a whole run: there are no more sends than attempts and redirects, each send and each
wait is decided on the clock read right before it, and further turns of the loop would change
nothing (`loop_plays_more`).
-/

namespace FinanceResearch.Http

open Config Program

/-- The calls of a request, each with its answer. -/
abbrev HttpTrace := List (Call HttpOp HttpAnswer)

/-! ## Parts that send nothing -/

/-- The call asks, and does nothing else. -/
def HttpOp.isQuestion : HttpOp → Bool
  | .clock => true
  | .resolve _ _ => true
  | .jitter _ => true
  | _ => false

/-- Neither a send nor telemetry. -/
def HttpOp.isInner : HttpOp → Bool
  | .send _ => false
  | .record _ _ _ => false
  | _ => true

/-- The part only asks. -/
abbrev Asks {α : Type} (part : Part α) : Prop := part.Only fun op => op.isQuestion = true

/-- The part sends nothing. -/
abbrev Inner {α : Type} (part : Part α) : Prop := part.Only fun op => op.isInner = true

theorem Asks.inner {α : Type} {part : Part α} (h : Asks part) : Inner part := by
  refine h.mono ?_
  intro op hop
  cases op with
  | send exchange => cases hop
  | record adapter attempts bytes => cases hop
  | _ => rfl

/-- What a call sends, and the reply. -/
def sent? : Call HttpOp HttpAnswer → Option (Exchange × Reply)
  | ⟨.send exchange, reply⟩ => some (exchange, reply)
  | _ => none

/-- The exchanges of a trace. -/
def exchanges (trace : HttpTrace) : List (Exchange × Reply) := trace.filterMap sent?

theorem exchanges_append (a b : HttpTrace) : exchanges (a ++ b) = exchanges a ++ exchanges b :=
  List.filterMap_append

theorem exchanges_send (exchange : Exchange) (reply : Reply) (rest : HttpTrace) :
    exchanges (⟨.send exchange, reply⟩ :: rest) = (exchange, reply) :: exchanges rest := rfl

theorem sent?_of_isInner {call : Call HttpOp HttpAnswer} (h : call.op.isInner = true) :
    sent? call = none := by
  obtain ⟨op, answer⟩ := call
  cases op with
  | send exchange => cases h
  | _ => rfl

theorem Inner.exchanges_nil {α : Type} {part : Part α} (h : Inner part) {trace : HttpTrace}
    {out : Except RequestError α} (hplays : part.Plays trace out) : exchanges trace = [] := by
  refine List.filterMap_eq_nil_iff.mpr ?_
  intro call hcall
  exact sent?_of_isInner (h.plays hplays call hcall)

section Client

variable {u : CharacterDatabase} {urls : UrlLibrary} {library : HttpLibrary}
  {client : SafeHttpClient} {request : AllowedRequest u urls}

theorem asks_readClock : Asks readClock := only_perform rfl

theorem asks_policyDelay (attempt : Nat) : Asks (policyDelay library client attempt) :=
  only_bind (only_bind (only_perform rfl) fun _ => trivial) fun _ => only_ofExcept

theorem asks_retryAfter (value : Option String) (attempt : Nat) :
    Asks (retryAfter library client value attempt) := by
  cases value with
  | none => exact asks_policyDelay attempt
  | some value =>
    unfold retryAfter
    dsimp only
    cases library.readRetryAfter value with
    | seconds delay => trivial
    | infinite => trivial
    | date time => exact only_bind asks_readClock fun _ => trivial
    | unreadable => trivial

theorem asks_checkDeadline (deadline : Int) : Asks (checkDeadline client deadline) := by
  unfold checkDeadline
  by_cases h : client.runDeadline = none
  · rw [if_pos h]
    trivial
  · rw [if_neg h]
    exact only_bind asks_readClock fun _ => only_require

theorem asks_readBounded (deadline : Int) (limit : Nat) (ending : BodyEnd) :
    ∀ (chunks : List (List UInt8)) (collected : List UInt8),
      Asks (readBounded client deadline limit ending chunks collected) := by
  intro chunks
  induction chunks with
  | nil =>
    intro collected
    refine only_bind (asks_checkDeadline deadline) fun _ => ?_
    cases ending with
    | finished => trivial
    | unavailable => trivial
    | raised => trivial
  | cons chunk chunks ih =>
    intro collected
    exact only_bind (asks_checkDeadline deadline) fun _ =>
      only_bind (asks_checkDeadline deadline) fun _ => only_bind only_require fun _ => ih _

theorem asks_prepareSend (sending : Sending) (state : LoopState) :
    Asks (prepareSend library client sending state) :=
  only_bind asks_readClock fun _ => only_bind only_require fun _ => trivial

theorem asks_validateRequest : Asks (validateRequest library client request) := by
  refine only_bind only_ofExcept fun host => only_bind ?_ fun _ => only_bind only_ofExcept fun _ => trivial
  unfold findAddresses
  by_cases h : library.isAddress host = true
  · rw [if_pos h]
    exact only_bind only_require fun _ => trivial
  · rw [if_neg h]
    exact only_bind (only_perform rfl) fun _ => only_ofExcept

theorem asks_prepareRequest (options : CallOptions) (deadline : Int) :
    Asks (prepareRequest library client request options deadline) :=
  only_bind only_require fun _ => only_bind asks_validateRequest fun _ =>
    only_bind asks_readClock fun _ => only_bind only_require fun _ =>
      only_bind only_require fun _ => trivial

theorem asks_effectiveDeadline (options : CallOptions) :
    Asks (effectiveDeadline client options) := by
  unfold effectiveDeadline
  cases client.runDeadline with
  | none => trivial
  | some runDeadline => exact only_bind asks_readClock fun _ => only_bind only_require fun _ => trivial

/-! ## Parts that wait -/

theorem inner_sleepBeforeRetry (delay : Decimal) (deadline : Int) :
    Inner (sleepBeforeRetry library delay deadline) :=
  only_bind asks_readClock.inner fun _ => only_bind only_require fun _ => only_perform rfl

theorem inner_handleUnavailable (deadline : Int) (state : LoopState) :
    Inner (handleUnavailable library client deadline state) :=
  only_bind (asks_checkDeadline deadline).inner fun _ => only_bind only_require fun _ =>
    only_bind (asks_policyDelay _).inner fun _ => only_bind (inner_sleepBeforeRetry _ _) fun _ => trivial

theorem inner_readResponse (deadline : Int) (state : LoopState) (response : Response) :
    Inner (readResponse library client request deadline state response) := by
  refine only_bind only_require fun _ => only_bind (asks_readBounded _ _ _ _ _).inner fun content => ?_
  cases content with
  | none => exact inner_handleUnavailable deadline state
  | some content => exact only_bind (asks_checkDeadline deadline).inner fun _ => trivial

theorem inner_handleReply (deadline : Int) (state : LoopState) (reply : Reply) :
    Inner (handleReply library client request deadline state reply) := by
  cases reply with
  | raised => trivial
  | unavailable => exact inner_handleUnavailable deadline state
  | response response =>
    unfold handleReply
    dsimp only
    by_cases hredirect : 300 ≤ response.status ∧ response.status < 400
    · rw [if_pos hredirect]
      exact only_bind only_require fun _ => only_bind only_ofExcept fun _ => trivial
    · rw [if_neg hredirect]
      by_cases hretry : retryableStatus response.status = true ∧ state.attempt < maxAttempts client
      · rw [if_pos hretry]
        exact only_bind (asks_retryAfter _ _).inner fun _ =>
          only_bind (inner_sleepBeforeRetry _ _) fun _ => trivial
      · rw [if_neg hretry]
        exact inner_readResponse deadline state response

/-! ## One turn -/

variable {sending : Sending} {turns sent : Nat} {state : LoopState} {trace : HttpTrace}
  {out : Except (RequestError × Nat) (SafeResponse × Nat)}

theorem plays_counted {α : Type} {part : Part α} {result : Except (RequestError × Nat) α} :
    (counted sent part).Plays trace result ↔
      ∃ before, part.Plays trace before ∧ result = before.mapError fun error => (error, sent) :=
  plays_mapError

/-- What follows a reply. -/
inductive Handled (library : HttpLibrary) (client : SafeHttpClient) (request : AllowedRequest u urls)
    (sending : Sending) (turns sent : Nat) (state : LoopState) (reply : Reply) :
    HttpTrace → Except (RequestError × Nat) (SafeResponse × Nat) → Prop
  | raised {trace : HttpTrace} {error : RequestError}
      (h : (handleReply library client request sending.deadline state reply).Plays trace (.error error)) :
      Handled library client request sending turns sent state reply trace (.error (error, sent + 1))
  | done {trace : HttpTrace} {response : SafeResponse}
      (h : (handleReply library client request sending.deadline state reply).Plays trace
        (.ok (.done response))) :
      Handled library client request sending turns sent state reply trace (.ok (response, sent + 1))
  | again {handled rest : HttpTrace} {next : LoopState}
      {out : Except (RequestError × Nat) (SafeResponse × Nat)}
      (h : (handleReply library client request sending.deadline state reply).Plays handled
        (.ok (.again next)))
      (hrest : (loop library client request sending turns (sent + 1) next).Plays rest out) :
      Handled library client request sending turns sent state reply (handled ++ rest) out

/-- What follows a turn. -/
def afterTurn (library : HttpLibrary) (client : SafeHttpClient) (request : AllowedRequest u urls)
    (sending : Sending) (turns sent : Nat) : Turn → Counted (SafeResponse × Nat)
  | .again state => loop library client request sending turns (sent + 1) state
  | .done response => Program.done (response, sent + 1)

/-- **A turn is refused before its send, or sends once.** -/
theorem loop_cases (hattempt : state.attempt ≤ maxAttempts client) :
    (loop library client request sending (turns + 1) sent state).Plays trace out ↔
      (∃ error, (prepareSend library client sending state).Plays trace (.error error) ∧
        out = .error (error, sent)) ∨
      ∃ exchange reply before after, trace = before ++ ⟨.send exchange, reply⟩ :: after ∧
        (prepareSend library client sending state).Plays before (.ok exchange) ∧
        Handled library client request sending turns sent state reply after out := by
  have hloop : loop library client request sending (turns + 1) sent state =
      (counted sent (prepareSend library client sending state)).bind fun exchange =>
        Program.call (HttpOp.send exchange) fun reply =>
          (counted (sent + 1) (handleReply library client request sending.deadline state reply)).bind
            (afterTurn library client request sending turns sent) := by
    rw [loop, if_neg (not_lt.mpr hattempt)]
    rfl
  rw [hloop, plays_bind]
  constructor
  · intro h
    rcases h with ⟨⟨error, n⟩, hprepare, rfl⟩ | ⟨exchange, before, after, rfl, hprepare, h⟩
    · obtain ⟨result, hpart, hresult⟩ := plays_counted.mp hprepare
      cases result with
      | ok exchange => cases hresult
      | error error' =>
        cases hresult
        exact Or.inl ⟨_, hpart, rfl⟩
    · obtain ⟨result, hpart, hresult⟩ := plays_counted.mp hprepare
      cases result with
      | error error => cases hresult
      | ok exchange' =>
        cases hresult
        obtain ⟨reply, rest, rfl, h⟩ := h
        refine Or.inr ⟨exchange, reply, before, rest, rfl, hpart, ?_⟩
        rcases plays_bind.mp h with ⟨⟨error, n⟩, hhandle, rfl⟩ | ⟨turn, handled, after, rfl, hhandle, h⟩
        · obtain ⟨result, hpart, hresult⟩ := plays_counted.mp hhandle
          cases result with
          | ok turn => cases hresult
          | error error' =>
            cases hresult
            exact .raised hpart
        · obtain ⟨result, hpart, hresult⟩ := plays_counted.mp hhandle
          cases result with
          | error error => cases hresult
          | ok turn' =>
            cases hresult
            cases turn with
            | again next => exact .again hpart h
            | done response =>
              obtain ⟨rfl, rfl⟩ := h
              rw [List.append_nil]
              exact .done hpart
  · intro h
    rcases h with ⟨error, hprepare, rfl⟩ | ⟨exchange, reply, before, after, rfl, hprepare, h⟩
    · exact Or.inl ⟨(error, sent), plays_counted.mpr ⟨_, hprepare, rfl⟩, rfl⟩
    · refine Or.inr ⟨exchange, before, _, rfl, plays_counted.mpr ⟨_, hprepare, rfl⟩,
        reply, after, rfl, plays_bind.mpr ?_⟩
      cases h with
      | raised h => exact Or.inl ⟨_, plays_counted.mpr ⟨_, h, rfl⟩, rfl⟩
      | done h =>
        exact Or.inr ⟨_, after, [], (List.append_nil after).symm,
          plays_counted.mpr ⟨_, h, rfl⟩, rfl, rfl⟩
      | again h hrest => exact Or.inr ⟨_, _, _, rfl, plays_counted.mpr ⟨_, h, rfl⟩, hrest⟩

/-! ## What a reply leads to -/

/-- The next turn is another attempt at the URL, or the first at a redirected one. -/
inductive Moves (library : HttpLibrary) (client : SafeHttpClient) (u : CharacterDatabase)
    (urls : UrlLibrary) : LoopState → LoopState → Prop
  | retried {state : LoopState} (h : state.attempt < maxAttempts client) :
      Moves library client u urls state { state with attempt := state.attempt + 1 }
  | redirected {state : LoopState} {location : Option String} {url : List Char}
      (h : state.redirects + 1 ≤ 5)
      (hurl : validateRedirect library client u urls state.url location = .ok url) :
      Moves library client u urls state ⟨url, state.attempt, state.redirects + 1⟩

/-- A response, accepted. -/
structure Accepted (client : SafeHttpClient) (request : AllowedRequest u urls) (response : Response)
    (accepted : SafeResponse) : Prop where
  status : accepted.statusCode = response.status
  final : ¬(300 ≤ response.status ∧ response.status < 400)
  exhausted : retryableStatus response.status = true → accepted.attempts = maxAttempts client
  whole : response.ending = .finished ∧ accepted.content = response.chunks.flatten
  bounded : accepted.content.length ≤ request.responseByteLimit
  contentType : accepted.contentType = mediaType u response.contentType ∧
    accepted.contentType ∈ request.acceptedContentTypes.map u.casefold
  url : accepted.url = response.url

theorem handleUnavailable_spec {deadline : Int} {turn : Turn}
    (h : (handleUnavailable library client deadline state).Plays trace (.ok turn)) :
    state.attempt < maxAttempts client ∧ turn = .again { state with attempt := state.attempt + 1 } := by
  obtain ⟨_, _, _, -, -, h⟩ := plays_bind_ok h
  obtain ⟨_, _, _, -, hattempt, h⟩ := plays_bind_ok h
  obtain ⟨_, _, _, -, -, h⟩ := plays_bind_ok h
  obtain ⟨_, _, _, -, -, h⟩ := plays_bind_ok h
  cases h.2
  exact ⟨(plays_require_ok hattempt).2, rfl⟩

/-- What is read is the body, within the limit. -/
theorem readBounded_spec {deadline : Int} {limit : Nat} {ending : BodyEnd} {content : List UInt8} :
    ∀ {chunks : List (List UInt8)} {collected : List UInt8} {trace : HttpTrace},
      collected.length ≤ limit →
      (readBounded client deadline limit ending chunks collected).Plays trace (.ok (some content)) →
      ending = .finished ∧ content = collected ++ chunks.flatten ∧ content.length ≤ limit := by
  intro chunks
  induction chunks with
  | nil =>
    intro collected trace hlimit h
    obtain ⟨_, _, _, -, -, h⟩ := plays_bind_ok h
    cases ending with
    | finished =>
      cases h.2
      exact ⟨rfl, (List.append_nil _).symm, hlimit⟩
    | unavailable => cases h.2
    | raised => cases h.2
  | cons chunk chunks ih =>
    intro collected trace _ h
    obtain ⟨_, _, _, -, -, h⟩ := plays_bind_ok h
    obtain ⟨_, _, _, -, -, h⟩ := plays_bind_ok h
    obtain ⟨_, _, _, -, hlimit, h⟩ := plays_bind_ok h
    obtain ⟨hending, hcontent, hlength⟩ := ih (plays_require_ok hlimit).2 h
    rw [List.append_assoc] at hcontent
    exact ⟨hending, hcontent, hlength⟩

theorem handleReply_spec {deadline : Int} {reply : Reply} {turn : Turn}
    (h : (handleReply library client request deadline state reply).Plays trace (.ok turn)) :
    (∃ next, turn = .again next ∧ Moves library client u urls state next) ∨
      ∃ response accepted, reply = .response response ∧ turn = .done accepted ∧
        (state.attempt ≤ maxAttempts client → Accepted client request response accepted) ∧
        accepted.attempts = state.attempt := by
  have hunavailable {trace : HttpTrace}
      (h : (handleUnavailable library client deadline state).Plays trace (.ok turn)) :
      ∃ next, turn = .again next ∧ Moves library client u urls state next := by
    obtain ⟨hattempt, rfl⟩ := handleUnavailable_spec h
    exact ⟨_, rfl, .retried hattempt⟩
  cases reply with
  | raised => cases h.2
  | unavailable => exact Or.inl (hunavailable h)
  | response response =>
    unfold handleReply at h
    dsimp only at h
    by_cases hredirect : 300 ≤ response.status ∧ response.status < 400
    · rw [if_pos hredirect] at h
      obtain ⟨_, _, _, -, hmany, h⟩ := plays_bind_ok h
      obtain ⟨url, _, _, -, hurl, h⟩ := plays_bind_ok h
      cases h.2
      exact Or.inl ⟨_, rfl, .redirected (plays_require_ok hmany).2 (plays_ofExcept_ok hurl).2⟩
    · rw [if_neg hredirect] at h
      by_cases hretry : retryableStatus response.status = true ∧ state.attempt < maxAttempts client
      · rw [if_pos hretry] at h
        obtain ⟨_, _, _, -, -, h⟩ := plays_bind_ok h
        obtain ⟨_, _, _, -, -, h⟩ := plays_bind_ok h
        cases h.2
        exact Or.inl ⟨_, rfl, .retried hretry.2⟩
      · rw [if_neg hretry] at h
        obtain ⟨_, _, _, -, htype, h⟩ := plays_bind_ok h
        obtain ⟨content, _, _, -, hread, h⟩ := plays_bind_ok h
        cases content with
        | none => exact Or.inl (hunavailable h)
        | some content =>
          obtain ⟨_, _, _, -, -, h⟩ := plays_bind_ok h
          cases h.2
          obtain ⟨hending, hcontent, hlength⟩ := readBounded_spec (Nat.zero_le _) hread
          refine Or.inr ⟨response, _, rfl, rfl, ?_, rfl⟩
          intro hattempt
          refine ⟨rfl, hredirect, ?_, ⟨hending, hcontent⟩, hlength, ⟨rfl, (plays_require_ok htype).2⟩, rfl⟩
          intro hstatus
          exact le_antisymm hattempt (not_lt.mp fun hlt => hretry ⟨hstatus, hlt⟩)

/-! ## Runs of the loop -/

theorem Moves.attempt_le {next : LoopState} (h : Moves library client u urls state next)
    (hattempt : state.attempt ≤ maxAttempts client) : next.attempt ≤ maxAttempts client := by
  cases h with
  | retried hlt => exact hlt
  | redirected _ _ => exact hattempt

/-- **What every turn keeps, a run of the loop keeps**: one case for each end of a run, and one for
a turn before the rest of it. -/
theorem loop_induct
    {motive : Nat → Nat → LoopState → HttpTrace → Except (RequestError × Nat) (SafeResponse × Nat) → Prop}
    (ended : ∀ sent state,
      motive 0 sent state [] (.error (.rejected "request retries exhausted", sent)))
    (refused : ∀ turns sent state trace error, state.attempt ≤ maxAttempts client →
      (prepareSend library client sending state).Plays trace (.error error) →
      motive (turns + 1) sent state trace (.error (error, sent)))
    (raised : ∀ turns sent state before exchange reply after error,
      state.attempt ≤ maxAttempts client →
      (prepareSend library client sending state).Plays before (.ok exchange) →
      (handleReply library client request sending.deadline state reply).Plays after (.error error) →
      motive (turns + 1) sent state (before ++ ⟨.send exchange, reply⟩ :: after)
        (.error (error, sent + 1)))
    (done : ∀ turns sent state before exchange reply after response,
      state.attempt ≤ maxAttempts client →
      (prepareSend library client sending state).Plays before (.ok exchange) →
      (handleReply library client request sending.deadline state reply).Plays after
        (.ok (.done response)) →
      motive (turns + 1) sent state (before ++ ⟨.send exchange, reply⟩ :: after)
        (.ok (response, sent + 1)))
    (again : ∀ turns sent state before exchange reply handled rest next out,
      state.attempt ≤ maxAttempts client →
      (prepareSend library client sending state).Plays before (.ok exchange) →
      (handleReply library client request sending.deadline state reply).Plays handled
        (.ok (.again next)) →
      Moves library client u urls state next → motive turns (sent + 1) next rest out →
      motive (turns + 1) sent state (before ++ ⟨.send exchange, reply⟩ :: (handled ++ rest)) out) :
    ∀ {turns sent : Nat} {state : LoopState} {trace : HttpTrace}
      {out : Except (RequestError × Nat) (SafeResponse × Nat)},
      state.attempt ≤ maxAttempts client →
      (loop library client request sending turns sent state).Plays trace out →
      motive turns sent state trace out := by
  intro turns
  induction turns with
  | zero =>
    intro sent state trace out _ h
    obtain ⟨rfl, rfl⟩ := h
    exact ended sent state
  | succ turns ih =>
    intro sent state trace out hattempt h
    rcases (loop_cases hattempt).mp h with ⟨error, hprepare, rfl⟩ |
      ⟨exchange, reply, before, after, rfl, hprepare, hhandled⟩
    · exact refused turns sent state trace error hattempt hprepare
    · cases hhandled with
      | raised hhandle =>
        exact raised turns sent state before exchange reply after _ hattempt hprepare hhandle
      | done hhandle =>
        exact done turns sent state before exchange reply after _ hattempt hprepare hhandle
      | again hhandle hrest =>
        rcases handleReply_spec hhandle with ⟨next, hturn, hmoves⟩ | ⟨_, _, -, hturn, -⟩
        · cases hturn
          exact again turns sent state before exchange reply _ _ _ out hattempt hprepare hhandle hmoves
            (ih (hmoves.attempt_le hattempt) hrest)
        · cases hturn

theorem exchanges_turn {before after : HttpTrace} {exchange : Exchange} {reply : Reply}
    {result : Except RequestError Turn}
    (hprepare : (prepareSend library client sending state).Plays before (.ok exchange))
    (hhandle : (handleReply library client request sending.deadline state reply).Plays after result)
    (rest : HttpTrace) : exchanges (before ++ ⟨.send exchange, reply⟩ :: (after ++ rest)) =
      (exchange, reply) :: exchanges rest := by
  rw [exchanges_append, exchanges_send, exchanges_append,
    (asks_prepareSend sending state).inner.exchanges_nil hprepare,
    (inner_handleReply _ state reply).exchanges_nil hhandle, List.nil_append, List.nil_append]

theorem exchanges_lastTurn {before after : HttpTrace} {exchange : Exchange} {reply : Reply}
    {result : Except RequestError Turn}
    (hprepare : (prepareSend library client sending state).Plays before (.ok exchange))
    (hhandle : (handleReply library client request sending.deadline state reply).Plays after result) :
    exchanges (before ++ ⟨.send exchange, reply⟩ :: after) = [(exchange, reply)] := by
  have hturn := exchanges_turn hprepare hhandle []
  rwa [List.append_nil] at hturn

/-- The number of sends that a result tells. -/
def countOf {α : Type} : Except (RequestError × Nat) (α × Nat) → Nat
  | .error (_, n) => n
  | .ok (_, n) => n

/-- The loop counts its sends, and sends at most once a turn. -/
theorem loop_exchanges (hattempt : state.attempt ≤ maxAttempts client)
    (h : (loop library client request sending turns sent state).Plays trace out) :
    (exchanges trace).length ≤ turns ∧ countOf out = sent + (exchanges trace).length := by
  refine @loop_induct u urls library client request sending (fun turns sent _ trace out =>
    (exchanges trace).length ≤ turns ∧ countOf out = sent + (exchanges trace).length)
    ?_ ?_ ?_ ?_ ?_ turns sent state trace out hattempt h
  · intro sent state
    exact ⟨le_rfl, rfl⟩
  · intro turns sent state trace error _ hprepare
    rw [(asks_prepareSend sending state).inner.exchanges_nil hprepare]
    exact ⟨Nat.zero_le _, rfl⟩
  · intro turns sent state before exchange reply after error _ hprepare hhandle
    rw [exchanges_lastTurn hprepare hhandle]
    exact ⟨Nat.succ_le_succ (Nat.zero_le _), rfl⟩
  · intro turns sent state before exchange reply after response _ hprepare hhandle
    rw [exchanges_lastTurn hprepare hhandle]
    exact ⟨Nat.succ_le_succ (Nat.zero_le _), rfl⟩
  · intro turns sent state before exchange reply handled rest next out _ hprepare hhandle _ hrest
    rw [exchanges_turn hprepare hhandle, List.length_cons]
    exact ⟨Nat.succ_le_succ hrest.1, hrest.2.trans (by omega)⟩

/-- Every send is of a URL that the loop has reached. -/
theorem loop_sends {J : LoopState → Prop}
    (hmoves : ∀ s t, J s → Moves library client u urls s t → J t) (hstate : J state)
    (hattempt : state.attempt ≤ maxAttempts client)
    (h : (loop library client request sending turns sent state).Plays trace out) :
    ∀ pair ∈ exchanges trace, (∃ s, J s ∧ pair.1.url = s.url) ∧
      pair.1.addresses = sending.addresses ∧ pair.1.headers = sending.headers := by
  have hsent {state : LoopState} {before : HttpTrace} {exchange : Exchange} (hstate : J state)
      (hprepare : (prepareSend library client sending state).Plays before (.ok exchange)) :
      (∃ s, J s ∧ exchange.url = s.url) ∧ exchange.addresses = sending.addresses ∧
        exchange.headers = sending.headers := by
    obtain ⟨_, _, _, -, -, hprepare⟩ := plays_bind_ok hprepare
    obtain ⟨_, _, _, -, -, hprepare⟩ := plays_bind_ok hprepare
    cases hprepare.2
    exact ⟨⟨state, hstate, rfl⟩, rfl, rfl⟩
  refine @loop_induct u urls library client request sending (fun _ _ state trace _ => J state →
    ∀ pair ∈ exchanges trace, (∃ s, J s ∧ pair.1.url = s.url) ∧
      pair.1.addresses = sending.addresses ∧ pair.1.headers = sending.headers)
    ?_ ?_ ?_ ?_ ?_ turns sent state trace out hattempt h hstate
  · exact fun _ _ _ pair hpair => absurd hpair List.not_mem_nil
  · intro turns sent state trace error _ hprepare _ pair hpair
    rw [(asks_prepareSend sending state).inner.exchanges_nil hprepare] at hpair
    exact absurd hpair List.not_mem_nil
  · intro turns sent state before exchange reply after error _ hprepare hhandle hstate pair hpair
    rw [exchanges_lastTurn hprepare hhandle] at hpair
    rw [List.mem_singleton.mp hpair]
    exact hsent hstate hprepare
  · intro turns sent state before exchange reply after response _ hprepare hhandle hstate pair hpair
    rw [exchanges_lastTurn hprepare hhandle] at hpair
    rw [List.mem_singleton.mp hpair]
    exact hsent hstate hprepare
  · intro turns sent state before exchange reply handled rest next out _ hprepare hhandle hmove hrest
      hstate pair hpair
    rw [exchanges_turn hprepare hhandle] at hpair
    rcases List.mem_cons.mp hpair with rfl | hpair
    · exact hsent hstate hprepare
    · exact hrest (hmoves state next hstate hmove) pair hpair

/-- What is returned is the last reply. -/
theorem loop_response (hattempt : state.attempt ≤ maxAttempts client)
    (h : (loop library client request sending turns sent state).Plays trace out) :
    ∀ accepted n, out = .ok (accepted, n) → ∃ exchange response,
      (exchanges trace).getLast? = some (exchange, .response response) ∧
        Accepted client request response accepted ∧ accepted.attempts ≤ maxAttempts client := by
  refine @loop_induct u urls library client request sending (fun _ _ _ trace out =>
    ∀ accepted n, out = .ok (accepted, n) → ∃ exchange response,
      (exchanges trace).getLast? = some (exchange, .response response) ∧
        Accepted client request response accepted ∧ accepted.attempts ≤ maxAttempts client)
    ?_ ?_ ?_ ?_ ?_ turns sent state trace out hattempt h
  · intro sent state accepted n hout
    cases hout
  · intro turns sent state trace error _ _ accepted n hout
    cases hout
  · intro turns sent state before exchange reply after error _ _ _ accepted n hout
    cases hout
  · intro turns sent state before exchange reply after response hattempt hprepare hhandle accepted n hout
    cases hout
    rcases handleReply_spec hhandle with ⟨_, hturn, -⟩ | ⟨reply', _, rfl, hturn, haccepted, hcount⟩
    · cases hturn
    · cases hturn
      rw [exchanges_lastTurn hprepare hhandle]
      refine ⟨exchange, reply', rfl, haccepted hattempt, ?_⟩
      rw [hcount]
      exact hattempt
  · intro turns sent state before exchange reply handled rest next out _ hprepare hhandle _ hrest
      accepted n hout
    obtain ⟨exchange', response, hlast, haccepted⟩ := hrest accepted n hout
    rw [exchanges_turn hprepare hhandle, List.getLast?_cons, hlast]
    exact ⟨exchange', response, rfl, haccepted⟩

/-! ## Times -/

/-- A send and a wait are decided on the clock read right before, a send with what is left of the
time. -/
def Decided (library : HttpLibrary) (deadline limit : Int) (before : HttpTrace) : HttpOp → Prop
  | .send exchange => ∃ earlier now, before = earlier ++ [⟨.clock, now⟩] ∧ now < deadline ∧
      now + exchange.timeout ≤ deadline ∧ exchange.timeout ≤ limit
  | .sleep delay => ∃ earlier now, before = earlier ++ [⟨.clock, now⟩] ∧
      now + library.durationOf delay < deadline
  | _ => True

/-- All of a trace is. -/
def Timely (library : HttpLibrary) (deadline limit : Int) (trace : HttpTrace) : Prop :=
  ∀ before call after, trace = before ++ call :: after →
    Decided library deadline limit before call.op

/-- A part whose traces all are. -/
def Timed {ε α : Type} (library : HttpLibrary) (deadline limit : Int)
    (part : Program HttpOp HttpAnswer ε α) : Prop :=
  ∀ trace out, part.Plays trace out → Timely library deadline limit trace

section Times

variable {deadline limit : Int}

theorem timely_nil : Timely library deadline limit [] := by
  intro before call after h
  cases before with
  | nil => cases h
  | cons c before => cases h

/-- What was read right before is still right before in a longer trace. -/
theorem Decided.extend {op : HttpOp} {before : HttpTrace} (h : Decided library deadline limit before op)
    (front : HttpTrace) : Decided library deadline limit (front ++ before) op := by
  cases op with
  | send exchange =>
    obtain ⟨earlier, now, rfl, hnow⟩ := h
    exact ⟨front ++ earlier, now, (List.append_assoc _ _ _).symm, hnow⟩
  | sleep delay =>
    obtain ⟨earlier, now, rfl, hnow⟩ := h
    exact ⟨front ++ earlier, now, (List.append_assoc _ _ _).symm, hnow⟩
  | _ => trivial

theorem Timely.append {a b : HttpTrace} (ha : Timely library deadline limit a)
    (hb : Timely library deadline limit b) : Timely library deadline limit (a ++ b) := by
  intro before call after h
  rcases List.append_eq_append_iff.mp h with ⟨middle, rfl, hmiddle⟩ | ⟨middle, rfl, hmiddle⟩
  · exact (hb middle call after hmiddle).extend a
  · cases middle with
    | nil =>
      have hstart := hb [] call after hmiddle.symm
      have hextended := hstart.extend before
      rwa [List.append_nil] at hextended
    | cons c middle =>
      cases hmiddle
      exact ha before call middle rfl

theorem timed_of_asks {α : Type} {part : Part α} (h : Asks part) :
    Timed library deadline limit part := by
  intro trace out hplays before call after htrace
  have hquestion : call.op.isQuestion = true := by
    refine h.plays hplays call ?_
    rw [htrace]
    exact List.mem_append_right _ List.mem_cons_self
  obtain ⟨op, answer⟩ := call
  cases op with
  | send exchange => cases hquestion
  | sleep delay => cases hquestion
  | _ => trivial

theorem timed_bind {ε α β : Type} {p : Program HttpOp HttpAnswer ε α}
    {f : α → Program HttpOp HttpAnswer ε β} (hp : Timed library deadline limit p)
    (hf : ∀ a, Timed library deadline limit (f a)) : Timed library deadline limit (p.bind f) := by
  intro trace out h
  rcases plays_bind.mp h with ⟨error, h, -⟩ | ⟨a, before, after, rfl, hfirst, hsecond⟩
  · exact hp trace _ h
  · exact (hp before _ hfirst).append (hf a after out hsecond)

theorem timed_done {ε α : Type} {a : α} :
    Timed library deadline limit (Program.done a : Program HttpOp HttpAnswer ε α) := by
  intro trace out h
  rw [h.1]
  exact timely_nil

theorem timed_fail {ε α : Type} {e : ε} :
    Timed library deadline limit (Program.fail e : Program HttpOp HttpAnswer ε α) := by
  intro trace out h
  rw [h.1]
  exact timely_nil

theorem timed_sleepBeforeRetry (delay : Decimal) :
    Timed library deadline limit (sleepBeforeRetry library delay deadline) := by
  intro trace out h before call after htrace
  rcases plays_bind.mp h with ⟨error, hclock, -⟩ | ⟨now, front, rest, rfl, hclock, hrest⟩
  · obtain ⟨_, -, hclock⟩ := plays_perform.mp hclock
    cases hclock
  obtain ⟨answer, rfl, hanswer⟩ := plays_perform.mp hclock
  cases hanswer
  rcases plays_bind.mp hrest with ⟨error, hrequire, -⟩ | ⟨_, middle, last, rfl, hrequire, hsleep⟩
  · rw [(plays_require.mp hrequire).1] at htrace
    cases before with
    | nil =>
      cases htrace
      trivial
    | cons c before => cases before <;> cases htrace
  · obtain ⟨rfl, htime⟩ := plays_require_ok hrequire
    obtain ⟨answer, rfl, -⟩ := plays_perform.mp hsleep
    cases before with
    | nil =>
      cases htrace
      trivial
    | cons c before =>
      cases before with
      | nil =>
        cases htrace
        exact ⟨[], now, rfl, htime⟩
      | cons d before => cases before <;> cases htrace

theorem timed_handleUnavailable (state : LoopState) :
    Timed library deadline limit (handleUnavailable library client deadline state) :=
  timed_bind (timed_of_asks (asks_checkDeadline deadline)) fun _ =>
    timed_bind (timed_of_asks only_require) fun _ =>
      timed_bind (timed_of_asks (asks_policyDelay _)) fun _ =>
        timed_bind (timed_sleepBeforeRetry _) fun _ => timed_done

theorem timed_handleReply (state : LoopState) (reply : Reply) :
    Timed library deadline limit (handleReply library client request deadline state reply) := by
  cases reply with
  | raised => exact timed_fail
  | unavailable => exact timed_handleUnavailable state
  | response response =>
    unfold handleReply
    dsimp only
    by_cases hredirect : 300 ≤ response.status ∧ response.status < 400
    · rw [if_pos hredirect]
      exact timed_of_asks (only_bind only_require fun _ => only_bind only_ofExcept fun _ => trivial)
    · rw [if_neg hredirect]
      by_cases hretry : retryableStatus response.status = true ∧ state.attempt < maxAttempts client
      · rw [if_pos hretry]
        exact timed_bind (timed_of_asks (asks_retryAfter _ _)) fun _ =>
          timed_bind (timed_sleepBeforeRetry _) fun _ => timed_done
      · rw [if_neg hretry]
        refine timed_bind (timed_of_asks only_require) fun _ =>
          timed_bind (timed_of_asks (asks_readBounded _ _ _ _ _)) fun content => ?_
        cases content with
        | none => exact timed_handleUnavailable state
        | some content =>
          exact timed_of_asks (only_bind (asks_checkDeadline deadline) fun _ => trivial)

end Times

/-- A send follows the clock that it is decided on. -/
theorem timely_send {before : HttpTrace} {exchange : Exchange} (reply : Reply)
    (hprepare : (prepareSend library client sending state).Plays before (.ok exchange)) :
    Timely library sending.deadline (library.durationOf client.policy.requestDeadlineSeconds.value)
      (before ++ [⟨.send exchange, reply⟩]) := by
  obtain ⟨now, front, rest, rfl, hclock, hprepare⟩ := plays_bind_ok hprepare
  obtain ⟨_, middle, last, rfl, hrequire, hprepare⟩ := plays_bind_ok hprepare
  obtain ⟨rfl, hexchange⟩ := hprepare
  obtain ⟨rfl, htime⟩ := plays_require_ok hrequire
  obtain ⟨answer, rfl, hanswer⟩ := plays_perform.mp hclock
  cases hanswer
  cases hexchange
  intro before call after htrace
  cases before with
  | nil =>
    cases htrace
    trivial
  | cons c before =>
    cases before with
    | nil =>
      cases htrace
      refine ⟨[], now, rfl, by omega, ?_, min_le_left _ _⟩
      have hright := min_le_right (library.durationOf client.policy.requestDeadlineSeconds.value)
        (sending.deadline - now)
      dsimp only
      omega
    | cons d before => cases before <;> cases htrace

/-- **Nothing is sent and nothing waited for behind the deadline.** -/
theorem loop_timely (hattempt : state.attempt ≤ maxAttempts client)
    (h : (loop library client request sending turns sent state).Plays trace out) :
    Timely library sending.deadline (library.durationOf client.policy.requestDeadlineSeconds.value)
      trace := by
  refine @loop_induct u urls library client request sending (fun _ _ _ trace _ =>
    Timely library sending.deadline (library.durationOf client.policy.requestDeadlineSeconds.value) trace)
    ?_ ?_ ?_ ?_ ?_ turns sent state trace out hattempt h
  · exact fun _ _ => timely_nil
  · intro turns sent state trace error _ hprepare
    exact timed_of_asks (asks_prepareSend sending state) trace _ hprepare
  · intro turns sent state before exchange reply after error _ hprepare hhandle
    rw [List.append_cons]
    exact (timely_send reply hprepare).append (timed_handleReply state reply after _ hhandle)
  · intro turns sent state before exchange reply after response _ hprepare hhandle
    rw [List.append_cons]
    exact (timely_send reply hprepare).append (timed_handleReply state reply after _ hhandle)
  · intro turns sent state before exchange reply handled rest next out _ hprepare hhandle _ hrest
    rw [List.append_cons]
    exact (timely_send reply hprepare).append ((timed_handleReply state reply handled _ hhandle).append hrest)

/-! ## Enough turns -/

/-- The turns that a state can still lead to. -/
def turnsLeft (client : SafeHttpClient) (state : LoopState) : Nat :=
  maxAttempts client - state.attempt + (5 - state.redirects) + 1

theorem Moves.turnsLeft_lt {next : LoopState} (h : Moves library client u urls state next) :
    turnsLeft client next < turnsLeft client state := by
  cases h with
  | retried hlt =>
    show maxAttempts client - (state.attempt + 1) + (5 - state.redirects) + 1 <
      maxAttempts client - state.attempt + (5 - state.redirects) + 1
    omega
  | redirected hmany _ =>
    show maxAttempts client - state.attempt + (5 - (state.redirects + 1)) + 1 <
      maxAttempts client - state.attempt + (5 - state.redirects) + 1
    omega

theorem Handled.mono {more : Nat} {reply : Reply} (h : Handled library client request sending turns sent state reply trace out)
    (hloop : ∀ next, Moves library client u urls state next → ∀ rest,
      (loop library client request sending turns (sent + 1) next).Plays rest out →
        (loop library client request sending more (sent + 1) next).Plays rest out) :
    Handled library client request sending more sent state reply trace out := by
  cases h with
  | raised h => exact .raised h
  | done h => exact .done h
  | again h hrest =>
    rcases handleReply_spec h with ⟨next, hturn, hmoves⟩ | ⟨_, _, -, hturn, -⟩
    · cases hturn
      exact .again h (hloop _ hmoves _ hrest)
    · cases hturn

/-- **With as many turns as are left, the loop does what it does with more.** -/
theorem loop_plays_more (more : Nat) : ∀ {turns sent : Nat} {state : LoopState} {trace : HttpTrace}
    {out : Except (RequestError × Nat) (SafeResponse × Nat)}, state.attempt ≤ maxAttempts client →
      turnsLeft client state ≤ turns →
      ((loop library client request sending (turns + more) sent state).Plays trace out ↔
        (loop library client request sending turns sent state).Plays trace out) := by
  intro turns
  induction turns with
  | zero =>
    intro sent state trace out _ hturns
    exact absurd hturns (Nat.not_succ_le_zero _)
  | succ turns ih =>
    intro sent state trace out hattempt hturns
    have hnext : ∀ next, Moves library client u urls state next → ∀ rest,
        ((loop library client request sending (turns + more) (sent + 1) next).Plays rest out ↔
          (loop library client request sending turns (sent + 1) next).Plays rest out) := by
      intro next hmoves rest
      have hlt := hmoves.turnsLeft_lt
      exact ih (hmoves.attempt_le hattempt) (by omega)
    rw [Nat.add_right_comm, loop_cases hattempt, loop_cases hattempt]
    constructor
    · intro h
      rcases h with hrefused | ⟨exchange, reply, before, after, htrace, hprepare, h⟩
      · exact Or.inl hrefused
      · exact Or.inr ⟨exchange, reply, before, after, htrace, hprepare,
          h.mono fun next hmoves rest => (hnext next hmoves rest).mp⟩
    · intro h
      rcases h with hrefused | ⟨exchange, reply, before, after, htrace, hprepare, h⟩
      · exact Or.inl hrefused
      · exact Or.inr ⟨exchange, reply, before, after, htrace, hprepare,
          h.mono fun next hmoves rest => (hnext next hmoves rest).mpr⟩

end Client

end FinanceResearch.Http
