import FinanceResearch.Http.Paths
import FinanceResearch.Lib.Traces

/-!
# The HTTP boundary

`SafeHttpClient.request` (`adapters/http_client.py`) as a program over what it asks of its
surroundings: the clock, the resolver, the transport, the sleeper, the source of jitter and the
observer of telemetry. Every answer is possible.

Mirroring notes vs the source:
- Times and durations are microseconds; what goes through a binary float is a parameter.
- A reply comes with what reading its body gives. The redirected URL, the addresses and the
  `timeout` of a send are those handed to the transport.
- The transport raises what the loop catches (`unavailable`) or something else (`raised`).
- The resolver's answer is that of `_resolve_addresses`, which may raise of its own.
- The body of the `while` is `prepareSend` and `handleReply`; it has no more turns than attempts
  and redirects (`runs_out_never`).
-/

namespace FinanceResearch.Http

open Config SplitUrls Program
open Regimes (ambientContext)

/-! ## Libraries -/

/-- What `Decimal(value)` or `parsedate_to_datetime(value)` read of a `Retry-After`. -/
inductive RetryAfter where
  | seconds (delay : Decimal)
  | infinite
  | date (time : Int)
  | unreadable

/-- What is read off tables, and binary floating point. -/
structure HttpLibrary where
  /-- `str.lower` -/
  lower : List Char → List Char
  /-- What `urlsplit` checks of a netloc. -/
  netlocIsLegal : List Char → Bool
  /-- `urljoin`; none is its `ValueError` -/
  urljoin : List Char → List Char → Option (List Char)
  /-- `ipaddress.ip_address` succeeds -/
  isAddress : List Char → Bool
  /-- An address that is not global, or loopback, private, link-local, multicast, reserved or
  unspecified. -/
  isLocalAddress : List Char → Bool
  readRetryAfter : String → RetryAfter
  /-- `Decimal(2) ** Decimal(n)` -/
  powerOfTwo : Nat → Decimal
  /-- `Decimal(str(duration.total_seconds()))` -/
  secondsOf : Int → Decimal
  /-- `timedelta(seconds=float(value))` -/
  durationOf : Decimal → Int

/-! ## Requests -/

/-- `AllowedRequest`. -/
structure AllowedRequest (u : CharacterDatabase) (urls : UrlLibrary) where
  adapter : String
  host : List Char
  port : Nat
  path : List Char
  query : FrozenMap String
  acceptedContentTypes : List String
  responseByteLimit : Nat
  adapterBounded : 1 ≤ adapter.length ∧ adapter.length ≤ 64
  hostBounded : 1 ≤ host.length ∧ host.length ≤ 253
  portBounded : 1 ≤ port ∧ port ≤ 65535
  pathSafe : path ≠ [] ∧ validatePath u urls path = .ok ()
  queryBounded : query.items.length ≤ maxQueryEntries ∧
    ∀ item ∈ query.items, IsBoundedEntry urls (item.1.toList, item.2.toList)
  typesUnique : 1 ≤ acceptedContentTypes.length ∧ acceptedContentTypes.length ≤ 32 ∧
    (acceptedContentTypes.map u.casefold).Nodup ∧ ∀ item ∈ acceptedContentTypes,
      item.toList.any (fun c => !u.isSpace c) = true ∧ item.length ≤ 128 ∧ ';' ∉ item.toList
  limitBounded : 0 < responseByteLimit ∧ responseByteLimit ≤ 10000000

/-- `dict(request.query)`. -/
def AllowedRequest.pairs {u : CharacterDatabase} {urls : UrlLibrary} (request : AllowedRequest u urls) :
    List QueryPair :=
  request.query.items.map fun item => (item.1.toList, item.2.toList)

/-! ## Operations -/

/-- What is handed to the transport. -/
structure Exchange where
  url : List Char
  addresses : List (List Char)
  headers : List (String × String)
  timeout : Int

/-- How a body ends. -/
inductive BodyEnd where
  | finished
  | unavailable
  | raised
  deriving DecidableEq

structure Response where
  status : Nat
  location : Option String
  retryAfter : Option String
  contentType : Option String
  url : String
  chunks : List (List UInt8)
  ending : BodyEnd

inductive Reply where
  | response (response : Response)
  | unavailable
  | raised

/-- What `_resolve_addresses` returns or raises. -/
inductive Resolution where
  | addresses (addresses : List (List Char))
  | osError
  | error (error : RequestError)

inductive HttpOp where
  /-- `self._clock()` -/
  | clock
  | resolve (host : List Char) (port : Nat)
  | send (exchange : Exchange)
  /-- `self._sleeper(delay)` -/
  | sleep (delay : Decimal)
  /-- `self._jitter(attempt)` -/
  | jitter (attempt : Nat)
  /-- `telemetry_observer.record_http_exchange` -/
  | record (adapter : String) (attempts bytes : Nat)

def HttpAnswer : HttpOp → Type
  | .clock => Int
  | .resolve _ _ => Resolution
  | .send _ => Reply
  | .sleep _ => Unit
  | .jitter _ => Decimal
  | .record _ _ _ => Unit

/-- A part of a request. -/
abbrev Part (α : Type) := Program HttpOp HttpAnswer RequestError α

def readClock : Part Int := perform HttpOp.clock

def resolve (host : List Char) (port : Nat) : Part Resolution := perform (HttpOp.resolve host port)

def sleep (delay : Decimal) : Part Unit := perform (HttpOp.sleep delay)

def readJitter (attempt : Nat) : Part Decimal := perform (HttpOp.jitter attempt)

/-- `telemetry_observer.record_http_exchange(adapter, attempts, bytes)`. -/
def tellExchange (adapter : String) (attempts bytes : Nat) : Part Unit :=
  perform (HttpOp.record adapter attempts bytes)

/-! ## Validation -/

/-- `SafeResponse`. -/
structure SafeResponse where
  statusCode : Nat
  content : List UInt8
  contentType : String
  url : String
  attempts : Nat
  deriving DecidableEq

structure SafeHttpClient where
  policy : SourcePolicy
  runDeadline : Option Int

/-- A host is the domain, or one below it. -/
def isHostOf (library : HttpLibrary) (host : List Char) (domain : String) : Bool :=
  host == library.lower domain.toList ||
    List.isSuffixOf ('.' :: library.lower domain.toList) host

/-- `_host_matches_policy`. -/
def hostMatchesPolicy (library : HttpLibrary) (host : List Char) (domains : List String) : Bool :=
  domains.any (isHostOf library host)

/-- `_port_allowed`. -/
def portAllowed (library : HttpLibrary) (host : List Char) (port : Nat)
    (allowed : FrozenMap (List Nat)) : Bool :=
  port == 443 || allowed.items.any fun item =>
    item.2.contains port && isHostOf library host item.1

/-- `_unsafe_address`. -/
def unsafeAddress (library : HttpLibrary) (address : List Char) : Except RequestError Bool := do
  Fallible.require (library.isAddress address = true)
    (.rejected "host resolved to an invalid address")
  pure (library.isLocalAddress address)

/-- `any(_unsafe_address(address) for address in addresses)`. -/
def anyUnsafe (library : HttpLibrary) : List (List Char) → Except RequestError Bool
  | [] => .ok false
  | address :: rest => do
    let found ← unsafeAddress library address
    if found then pure true else anyUnsafe library rest

/-- `host.strip("[]")`. -/
def stripBrackets (host : List Char) : List Char :=
  let isBracket := fun c => c == '[' || c == ']'
  (((host.dropWhile isBracket).reverse).dropWhile isBracket).reverse

/-- The netloc of a request. -/
def netlocOf (host : List Char) (port : Nat) : List Char :=
  if port = 443 then host else host ++ ':' :: Nat.toDigits 10 port

section Client

variable {u : CharacterDatabase} {urls : UrlLibrary} (library : HttpLibrary)
  (client : SafeHttpClient) (request : AllowedRequest u urls)

/-- `allowed_hosts_by_adapter[request.adapter]`. -/
def adapterHosts : Except RequestError (List String) :=
  match client.policy.allowedHostsByAdapter.bind fun hosts => hosts.get? request.adapter with
  | none => .error (.rejected "adapter host policy is required")
  | some hosts => .ok hosts

/-- The part of `_validate_request` before the addresses. -/
def validateHost : Except RequestError (List Char) := do
  Fallible.require (request.adapter ∈ client.policy.allowedAdapters)
    (.rejected "adapter is not allowed")
  Fallible.require (request.responseByteLimit ≤ client.policy.maximumResponseBytes)
    (.rejected "response byte limit exceeds policy")
  Fallible.require (∀ item ∈ request.acceptedContentTypes,
      u.casefold item ∈ client.policy.allowedContentTypes.map u.casefold)
    (.rejected "content type is not allowed")
  Fallible.require ('@' ∉ request.host ∧ request.host.any u.isSpace = false)
    (.rejected "host contains user info or whitespace")
  let host := library.lower (stripBrackets request.host)
  Fallible.require (host ≠ "localhost".toList) (.rejected "host is not allowlisted")
  let hosts ← adapterHosts client request
  Fallible.require (hostMatchesPolicy library host client.policy.allowedHttpsDomains = true)
    (.rejected "host is not in the global HTTPS domain allowlist")
  Fallible.require (hostMatchesPolicy library host hosts = true)
    (.rejected "adapter host is not allowlisted")
  Fallible.require (portAllowed library host request.port client.policy.allowedPortsByHost = true)
    (.rejected "port is not allowed")
  pure host

/-- The addresses of a name. -/
def checkResolution : Resolution → Except RequestError (List (List Char))
  | .osError => .error (.rejected "host could not be resolved")
  | .error error => .error error
  | .addresses addresses => do
    let found ← anyUnsafe library addresses
    Fallible.require (addresses ≠ [] ∧ found = false)
      (.rejected "host resolves to a private or local address")
    pure addresses

/-- The addresses of a host. -/
def findAddresses (host : List Char) : Part (List (List Char)) :=
  if library.isAddress host = true then do
    require (library.isLocalAddress host = false)
      (.rejected "host resolves to a private or local address")
    pure [host]
  else do
    let resolution ← resolve host request.port
    ofExcept id (checkResolution library resolution)

/-- The URL of a request. -/
def requestParts (host : List Char) : SplitResult where
  scheme := "https".toList
  netloc := netlocOf host request.port
  path := request.path
  query := urlencode request.pairs
  fragment := []

/-- The part of `_validate_request` behind the addresses. -/
def buildUrl (host : List Char) : Except RequestError (List Char) := do
  validatePath u urls request.path
  let url := urlunsplit (requestParts request host)
  match urlsplit library.netlocIsLegal url with
  | none => throw .valueError
  | some parsed =>
    match parsed.port with
    | none => throw .valueError
    | some port =>
      Fallible.require (parsed.scheme = "https".toList ∧ port.getD 443 = request.port ∧
          parsed.fragment = [])
        (.rejected "request must use HTTPS and an allowed port")
      pure url

/-- `_validate_request`. -/
def validateRequest : Part (List Char × List (List Char)) := do
  let host ← ofExcept id (validateHost library client request)
  let addresses ← findAddresses library request host
  let url ← ofExcept id (buildUrl library request host)
  pure (url, addresses)

/-- `_validate_redirect`. -/
def validateRedirect (u : CharacterDatabase) (urls : UrlLibrary) (original : List Char)
    (location : Option String) : Except RequestError (List Char) := do
  let place := (location.getD "").toList
  Fallible.require (client.policy.allowRedirects = true ∧ place ≠ [])
    (.rejected "redirect is not allowed")
  match (library.urljoin original place).bind (urlsplit library.netlocIsLegal),
      urlsplit library.netlocIsLegal original with
  | some target, some source =>
    match target.port with
    | none => throw .valueError
    | some port =>
      Fallible.require (target.scheme = "https".toList ∧ target.hostname library.lower ≠ none ∧
          target.hostname library.lower = source.hostname library.lower ∧
          portAllowed library ((target.hostname library.lower).getD []) (port.getD 443)
            client.policy.allowedPortsByHost = true ∧
          target.username = none ∧ target.password = none ∧ target.fragment = [])
        (.rejected "redirect crosses an unsafe host")
      validatePath u urls target.path
      let query ← validateQueryString urls target.query
      pure (urlunsplit { target with query := query, fragment := [] })
  | _, _ => throw .valueError

/-! ## Waiting -/

/-- `_MAX_RETRY_DELAY`. -/
def maxRetryDelay : Decimal := ⟨false, 60, 0⟩

/-- `retry_delay`, of an attempt that is positive. -/
def retryDelay (attempt : Nat) (base cap jitter : Decimal) : Except RequestError Decimal :=
  let delay := do
    let exponential ← ambientContext.multiply base (library.powerOfTwo (attempt - 1))
    ambientContext.add (Decimal.least exponential cap) jitter
  delay.mapError fun _ => .arithmetic

/-- `_bounded_jitter`. -/
def boundedJitter (attempt : Nat) : Part Decimal := do
  let jitter ← readJitter attempt
  pure (Decimal.least (Decimal.atLeastZero jitter) client.policy.retryJitterSeconds.value)

/-- `retry_delay` with the policy's own values. -/
def policyDelay (attempt : Nat) : Part Decimal := do
  let jitter ← boundedJitter client attempt
  ofExcept id (retryDelay library attempt client.policy.retryBackoffSeconds.value maxRetryDelay jitter)

/-- `_retry_after`. -/
def retryAfter (value : Option String) (attempt : Nat) : Part Decimal :=
  match value with
  | none => policyDelay library client attempt
  | some value =>
    match library.readRetryAfter value with
    | .seconds delay => pure (Decimal.least (Decimal.atLeastZero delay) maxRetryDelay)
    | .infinite => pure maxRetryDelay
    | .unreadable => pure (Decimal.least Decimal.zero maxRetryDelay)
    | .date time => do
      let now ← readClock
      pure (Decimal.least (Decimal.atLeastZero (library.secondsOf (time - now))) maxRetryDelay)

/-- `_sleep_before_retry`. -/
def sleepBeforeRetry (delay : Decimal) (deadline : Int) : Part Unit := do
  let now ← readClock
  require (now + library.durationOf delay < deadline)
    (.deadlineExceeded "retry would exceed request deadline")
  sleep delay

/-- A client with a run deadline looks at the clock. -/
def checkDeadline (deadline : Int) : Part Unit :=
  if client.runDeadline = none then pure ()
  else do
    let now ← readClock
    require (now < deadline) (.deadlineExceeded "request deadline exceeded")

/-! ## The loop -/

/-- `_retryable_status`. -/
def retryableStatus (status : Nat) : Bool := status == 429 || (500 ≤ status && status ≤ 599)

/-- `max(1, self._policy.retry_attempts + 1)`. -/
def maxAttempts : Nat := max 1 (client.policy.retryAttempts + 1)

/-- `_read_bounded`, of the chunks of `_read_before_deadline`; none is a body that breaks off. -/
def readBounded (deadline : Int) (limit : Nat) (ending : BodyEnd) :
    List (List UInt8) → List UInt8 → Part (Option (List UInt8))
  | [], collected => do
    checkDeadline client deadline
    match ending with
    | .finished => pure (some collected)
    | .unavailable => pure none
    | .raised => fail .raised
  | chunk :: rest, collected => do
    checkDeadline client deadline
    checkDeadline client deadline
    require ((collected ++ chunk).length ≤ limit) (.rejected "response exceeds byte limit")
    readBounded deadline limit ending rest (collected ++ chunk)

/-- The variables of the loop. -/
structure LoopState where
  url : List Char
  attempt : Nat
  redirects : Nat

/-- What a turn of the loop leads to. -/
inductive Turn where
  | again (state : LoopState)
  | done (response : SafeResponse)

/-- What the loop knows. -/
structure Sending where
  deadline : Int
  addresses : List (List Char)
  headers : List (String × String)

/-- The loop up to `on_send`. -/
def prepareSend (sending : Sending) (state : LoopState) : Part Exchange := do
  let now ← readClock
  require (0 < sending.deadline - now) (.deadlineExceeded "request deadline exceeded")
  pure { url := state.url
         addresses := sending.addresses
         headers := sending.headers
         timeout := min (library.durationOf client.policy.requestDeadlineSeconds.value)
           (sending.deadline - now) }

/-- The handler of the transport's errors. -/
def handleUnavailable (deadline : Int) (state : LoopState) : Part Turn := do
  checkDeadline client deadline
  require (state.attempt < maxAttempts client) (.transportUnavailable "request transport failed")
  let delay ← policyDelay library client state.attempt
  sleepBeforeRetry library delay deadline
  pure (.again { state with attempt := state.attempt + 1 })

/-- `content_type.split(";", 1)[0].strip().casefold()`. -/
def mediaType (u : CharacterDatabase) (header : Option String) : String :=
  let front := ((header.getD "").toList.takeWhile (· ≠ ';')).dropWhile u.isSpace
  u.casefold (String.ofList (front.reverse.dropWhile u.isSpace).reverse)

/-- The body of a response that is neither redirected nor retried. -/
def readResponse (deadline : Int) (state : LoopState) (response : Response) : Part Turn := do
  let contentType := mediaType u response.contentType
  require (contentType ∈ request.acceptedContentTypes.map u.casefold)
    (.rejected "response content type is not accepted")
  let content ← readBounded client deadline request.responseByteLimit response.ending response.chunks []
  match content with
  | none => handleUnavailable library client deadline state
  | some content =>
    checkDeadline client deadline
    pure (.done ⟨response.status, content, contentType, response.url, state.attempt⟩)

/-- The loop behind the send. -/
def handleReply (deadline : Int) (state : LoopState) : Reply → Part Turn
  | .raised => fail .raised
  | .unavailable => handleUnavailable library client deadline state
  | .response response =>
    if 300 ≤ response.status ∧ response.status < 400 then do
      require (state.redirects + 1 ≤ 5) (.rejected "redirect limit exceeded")
      let url ← ofExcept id (validateRedirect library client u urls state.url response.location)
      pure (.again ⟨url, state.attempt, state.redirects + 1⟩)
    else if retryableStatus response.status = true ∧ state.attempt < maxAttempts client then do
      let delay ← retryAfter library client response.retryAfter state.attempt
      sleepBeforeRetry library delay deadline
      pure (.again { state with attempt := state.attempt + 1 })
    else readResponse library client request deadline state response

/-- A request counts its sends, for the telemetry. -/
abbrev Counted (α : Type) := Program HttpOp HttpAnswer (RequestError × Nat) α

/-- A part of a request that sends nothing. -/
def counted {α : Type} (sent : Nat) (part : Part α) : Counted α :=
  part.mapError fun error => (error, sent)

/-- `while attempt <= max_attempts`. -/
def loop (sending : Sending) : Nat → Nat → LoopState → Counted (SafeResponse × Nat)
  | 0, sent, _ => fail (.rejected "request retries exhausted", sent)
  | turns + 1, sent, state =>
    if maxAttempts client < state.attempt then fail (.rejected "request retries exhausted", sent)
    else do
      let exchange ← counted sent (prepareSend library client sending state)
      let reply ← perform (HttpOp.send exchange)
      let turn ← counted (sent + 1) (handleReply library client request sending.deadline state reply)
      match turn with
      | .again state => loop sending turns (sent + 1) state
      | .done response => pure (response, sent + 1)

/-- `user_agent` is bounded text. -/
def isUserAgent (text : String) : Bool :=
  decide (text ≠ "") && decide (text.length ≤ 256) &&
    text.toList.all fun c => decide (32 ≤ c.toNat) && decide (c.toNat ≠ 127)

/-- What a caller hands over besides the request. -/
structure CallOptions where
  deadline : Int
  providerCredentials : Option (String × String)
  userAgent : Option String
  observed : Bool

/-- The headers of the request. -/
def CallOptions.headers (options : CallOptions) : List (String × String) :=
  (match options.providerCredentials with
    | none => []
    | some (key, secret) => [("APCA-API-KEY-ID", key), ("APCA-API-SECRET-KEY", secret)]) ++
  match options.userAgent with
    | none => []
    | some agent => [("User-Agent", agent)]

/-- `_request_with_observer` before its loop. -/
def prepareRequest (options : CallOptions) (deadline : Int) : Part (List Char × Sending) := do
  require (∀ credentials ∈ options.providerCredentials, credentials.1 ≠ "" ∧ credentials.2 ≠ "")
    (.rejected "provider credentials must be non-empty strings")
  let (url, addresses) ← validateRequest library client request
  let now ← readClock
  require (now < deadline) (.deadlineExceeded "request deadline exceeded")
  require (∀ agent ∈ options.userAgent, isUserAgent agent = true)
    (.rejected "user agent must be bounded identifying text")
  pure (url, ⟨deadline, addresses, options.headers⟩)

/-- `_request_with_observer`. -/
def requestWithObserver (options : CallOptions) (deadline : Int) : Counted (SafeResponse × Nat) := do
  let (url, sending) ← counted 0 (prepareRequest library client request options deadline)
  loop library client request sending (maxAttempts client + 5) 0 ⟨url, 1, 0⟩

/-- The deadline of a request. -/
def effectiveDeadline (options : CallOptions) : Part Int :=
  match client.runDeadline with
  | none => pure options.deadline
  | some runDeadline => do
    let deadline := min options.deadline runDeadline
    let now ← readClock
    require (now < deadline) (.deadlineExceeded "request deadline exceeded")
    pure deadline

/-- The telemetry of the `finally`. -/
def recordExchange (options : CallOptions) (sent bytes : Nat) : Part Unit :=
  if options.observed = true ∧ sent ≠ 0 then tellExchange request.adapter sent bytes else pure ()

end Client

/-- `SafeHttpClient.request`. -/
def SafeHttpClient.request {u : CharacterDatabase} {urls : UrlLibrary} (library : HttpLibrary)
    (client : SafeHttpClient) (request : AllowedRequest u urls) (options : CallOptions) :
    Part SafeResponse := do
  let deadline ← effectiveDeadline client options
  let result ← (requestWithObserver library client request options deadline).attempt
  match result with
  | .error (error, sent) =>
    recordExchange request options sent 0
    fail error
  | .ok (response, sent) =>
    recordExchange request options sent response.content.length
    pure response

end FinanceResearch.Http
