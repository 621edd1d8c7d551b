import FinanceResearch.Http.Exchanges

/-!
# A request stays where it is allowed

Every URL that a request sends names the host of the request, over https, at a port of the policy,
without user and fragment, with a path that is safe at every depth and a bounded query
(`request_confined`). A redirect is checked on the parts of its target and sent as a text again;
`urlsplit_urlunsplit` brings the one to the other, and `Confined.redirect` carries it from turn to
turn.
-/

namespace FinanceResearch.Http

open Config SplitUrls Program

/-! ## Hosts -/

/-- ASCII, and no delimiter of a URL. -/
def isHostChar (c : Char) : Bool :=
  decide (0x20 < c.toNat) && decide (c.toNat < 128) &&
    !(['/', '?', '#', '@', '[', ']', ':', '%'].contains c)

/-- The name of a host. -/
def IsHostName (host : List Char) : Prop := host ≠ [] ∧ ∀ c ∈ host, isHostChar c = true

theorem isHostName_iff {host : List Char} :
    (host ≠ [] ∧ host.all isHostChar = true) ↔ IsHostName host := by
  rw [IsHostName, List.all_eq_true]

instance (host : List Char) : Decidable (IsHostName host) := decidable_of_iff _ isHostName_iff

/-- What Python says of ASCII text: its lower case, and the characters that `urlsplit` removes are
control characters. -/
structure ReadsAscii (library : HttpLibrary) (urls : UrlLibrary) : Prop where
  lower : ∀ text : List Char, (∀ c ∈ text, c.toNat < 128) → library.lower text = text.map Char.toLower
  control : ∀ c, isRemoved c = true → urls.isControl c = true

theorem toLower_hostChars : ∀ n < 128, isHostChar (Char.ofNat n) = true →
    isHostChar (Char.ofNat n).toLower = true ∧
      (Char.ofNat n).toLower.toLower = (Char.ofNat n).toLower := by
  decide +kernel

theorem isHostChar_spec {c : Char} (h : isHostChar c = true) :
    0x20 < c.toNat ∧ c.toNat < 128 ∧ c ∉ ['/', '?', '#', '@', '[', ']', ':', '%'] := by
  unfold isHostChar at h
  simp only [Bool.and_eq_true, decide_eq_true_eq, Bool.not_eq_true', List.contains_eq_mem,
    decide_eq_false_iff_not] at h
  exact ⟨h.1.1, h.1.2, h.2⟩

theorem toLower_hostChar {c : Char} (h : isHostChar c = true) :
    isHostChar c.toLower = true ∧ c.toLower.toLower = c.toLower := by
  have hself := Char.ofNat_toNat c
  have hall := toLower_hostChars c.toNat (isHostChar_spec h).2.1
  rw [hself] at hall
  exact hall h

/-- The name in lower case is a name in lower case. -/
theorem IsHostName.lower {host : List Char} (h : IsHostName host) :
    IsHostName (host.map Char.toLower) ∧ (host.map Char.toLower).map Char.toLower = host.map Char.toLower := by
  refine ⟨⟨?_, ?_⟩, ?_⟩
  · rw [ne_eq, List.map_eq_nil_iff]
    exact h.1
  · intro c hc
    obtain ⟨d, hd, rfl⟩ := List.mem_map.mp hc
    exact (toLower_hostChar (h.2 d hd)).1
  · rw [List.map_map]
    exact List.map_congr_left fun c hc => (toLower_hostChar (h.2 c hc)).2

theorem IsHostName.not_mem {host : List Char} (h : IsHostName host) {c : Char}
    (hc : c ∈ ['/', '?', '#', '@', '[', ']', ':', '%']) : c ∉ host :=
  fun hmem => (isHostChar_spec (h.2 c hmem)).2.2 hc

theorem stripBrackets_eq {host : List Char} (h : IsHostName host) : stripBrackets host = host := by
  have hnone : ∀ c ∈ host, ¬((c == '[' || c == ']') = true) := by
    intro c hc hbracket
    simp only [Bool.or_eq_true, beq_iff_eq] at hbracket
    rcases hbracket with rfl | rfl
    · exact h.not_mem (by decide) hc
    · exact h.not_mem (by decide) hc
  have hkeep : ∀ text : List Char, (∀ c ∈ text, c ∈ host) →
      text.dropWhile (fun c => c == '[' || c == ']') = text := by
    intro text htext
    cases text with
    | nil => rfl
    | cons c text => exact List.dropWhile_cons_of_neg (hnone c (htext c List.mem_cons_self))
  unfold stripBrackets
  dsimp only
  rw [hkeep host fun c hc => hc, hkeep host.reverse fun c hc => List.mem_reverse.mp hc,
    List.reverse_reverse]

/-! ## Confined URLs -/

section Client

variable {u : CharacterDatabase} {urls : UrlLibrary} {library : HttpLibrary}
  {client : SafeHttpClient} {request : AllowedRequest u urls}

/-- The parts of a URL that may be sent to a host. -/
structure Guarded (u : CharacterDatabase) (urls : UrlLibrary) (library : HttpLibrary)
    (policy : SourcePolicy) (host : List Char) (parts : SplitResult) : Prop where
  scheme : parts.scheme = "https".toList
  named : parts.hostname library.lower = some host
  port : ∃ port, parts.port = some port ∧
    portAllowed library host (port.getD 443) policy.allowedPortsByHost = true
  anonymous : parts.username = none ∧ parts.password = none
  unfragmented : parts.fragment = []
  path : validatePath u urls parts.path = .ok ()
  query : ∃ pairs, parts.query = urlencode pairs ∧ IsBoundedQuery urls pairs

/-- A URL that may be sent to a host, as `urlsplit` reads it. -/
def Confined (u : CharacterDatabase) (urls : UrlLibrary) (library : HttpLibrary)
    (policy : SourcePolicy) (host url : List Char) : Prop :=
  ∃ parts, urlsplit library.netlocIsLegal url = some parts ∧ Guarded u urls library policy host parts

theorem validatePath_head {path : List Char} (h : validatePath u urls path = .ok ()) :
    path.head?.all (· == '/') = true := by
  have habsolute := ((validatePath_spec h).2.2.2 0).absolute
  have hhead : path.head? = some '/' := habsolute
  rw [hhead]
  rfl

/-- **A redirect leads to a URL of the same kind.** -/
theorem Confined.redirect {host original url : List Char} {location : Option String}
    (h : Confined u urls library client.policy host original)
    (hredirect : validateRedirect library client u urls original location = .ok url) :
    Confined u urls library client.policy host url := by
  obtain ⟨source, hsource, hguarded⟩ := h
  obtain ⟨_, -, hredirect⟩ := Fallible.bind_eq_ok.mp hredirect
  rw [hsource] at hredirect
  cases htarget : (library.urljoin original (location.getD "").toList).bind
      (urlsplit library.netlocIsLegal) with
  | none =>
    rw [htarget] at hredirect
    cases hredirect
  | some target =>
    rw [htarget] at hredirect
    dsimp only at hredirect
    cases hport : target.port with
    | none =>
      rw [hport] at hredirect
      cases hredirect
    | some port =>
      rw [hport] at hredirect
      obtain ⟨_, hchecked, hredirect⟩ := Fallible.bind_eq_ok.mp hredirect
      obtain ⟨_, hpath, hredirect⟩ := Fallible.bind_eq_ok.mp hredirect
      obtain ⟨query, hquery, hredirect⟩ := Fallible.bind_eq_ok.mp hredirect
      cases hredirect
      rw [Fallible.require_eq_ok] at hchecked
      obtain ⟨hscheme, -, hhost, hallowed, husername, hpassword, -⟩ := hchecked
      rw [hguarded.named] at hhost
      rw [hhost] at hallowed
      obtain ⟨-, pairs, -, hbounded, hquery, -⟩ := validateQueryString_spec hquery
      obtain ⟨joined, -, hsplit⟩ := Option.bind_eq_some_iff.mp htarget
      have hseparated := urlsplit_separated hsplit
      have hwritable : SplitResult.Writable library.netlocIsLegal
          { target with query := query, fragment := [] } := by
        refine ⟨?_, hseparated.netloc, ⟨validatePath_head hpath, hseparated.path⟩, ?_, ?_⟩
        · show target.scheme.head?.any Char.isAlpha = true ∧ _
          rw [hscheme]
          decide
        · intro c hc
          have hc' : c ∈ query := hc
          rw [hquery] at hc'
          exact urlencode_clean hc'
        · exact fun c hc => absurd hc List.not_mem_nil
      exact ⟨_, urlsplit_urlunsplit hwritable, hscheme, hhost, ⟨port, hport, hallowed⟩,
        ⟨husername, hpassword⟩, rfl, hpath, pairs, hquery, hbounded⟩

/-! ## The first URL -/

/-- `host` of `_validate_request`. -/
def requestHost (library : HttpLibrary) (request : AllowedRequest u urls) : List Char :=
  library.lower (stripBrackets request.host)

theorem requestHost_eq (hreads : ReadsAscii library urls) (hhost : IsHostName request.host) :
    requestHost library request = request.host.map Char.toLower := by
  unfold requestHost
  rw [stripBrackets_eq hhost]
  exact hreads.lower _ fun c hc => (isHostChar_spec (hhost.2 c hc)).2.1

theorem digit_of_mem_toDigits {n : Nat} {c : Char} (h : c ∈ Nat.toDigits 10 n) : c.isDigit = true :=
  Nat.isDigit_of_mem_toDigits (by decide) (by decide) h

/-- A netloc is a name, and a port. -/
theorem mem_netlocOf {host : List Char} {port : Nat} {c : Char} (h : c ∈ netlocOf host port) :
    c ∈ host ∨ c = ':' ∨ c.isDigit = true := by
  unfold netlocOf at h
  by_cases hport : port = 443
  · rw [if_pos hport] at h
    exact Or.inl h
  · rw [if_neg hport] at h
    rcases List.mem_append.mp h with h | h
    · exact Or.inl h
    · rcases List.mem_cons.mp h with h | h
      · exact Or.inr (Or.inl h)
      · exact Or.inr (Or.inr (digit_of_mem_toDigits h))

theorem not_mem_netlocOf {host : List Char} (hhost : IsHostName host) (port : Nat) {c : Char}
    (hc : c ∈ ['/', '?', '#', '@', '[']) : c ∉ netlocOf host port := by
  have hall : ['/', '?', '#', '@', '['].all (fun c =>
      decide (c ∈ ['/', '?', '#', '@', '[', ']', ':', '%'] ∧ c ≠ ':' ∧ c.isDigit = false)) = true := by
    decide
  obtain ⟨hmem, hcolon, hdigit⟩ := of_decide_eq_true (List.all_eq_true.mp hall c hc)
  intro h
  rcases mem_netlocOf h with h | h | h
  · exact hhost.not_mem hmem h
  · exact hcolon h
  · rw [hdigit] at h
    cases h

theorem graphic_netlocOf {host : List Char} (hhost : IsHostName host) {port : Nat} {c : Char}
    (h : c ∈ netlocOf host port) : 0x20 < c.toNat := by
  rcases mem_netlocOf h with h | rfl | h
  · exact (isHostChar_spec (hhost.2 c h)).1
  · decide
  · refine graphic_of_isSchemeChar ?_
    unfold isSchemeChar Char.isAlphanum
    rw [h, Bool.or_true]
    rfl

theorem splitHost_netlocOf {host : List Char} (hhost : IsHostName host) (port : Nat) :
    (splitHost (netlocOf host port)).1 = host := by
  have hcolon : ':' ∉ host := hhost.not_mem (by decide)
  rw [splitHost_of_plain ⟨not_mem_netlocOf hhost port (by decide), not_mem_netlocOf hhost port (by decide)⟩]
  unfold netlocOf
  by_cases hport : port = 443
  · rw [if_pos hport, cut_of_not_mem hcolon]
  · rw [if_neg hport, cut_append hcolon]

/-- The URL of a request names its host. -/
theorem hostname_requestParts (hreads : ReadsAscii library urls) {host : List Char}
    (hhost : IsHostName host) (hlower : host.map Char.toLower = host) :
    (requestParts request host).hostname library.lower = some host := by
  have hsplit : (splitHost (requestParts request host).netloc).1 = host :=
    splitHost_netlocOf hhost request.port
  have hpercent : '%' ∉ host := hhost.not_mem (by decide)
  unfold SplitResult.hostname
  dsimp only
  rw [hsplit, if_neg hhost.1, cut_of_not_mem hpercent, if_neg hpercent, List.append_nil,
    hreads.lower host (fun c hc => (isHostChar_spec (hhost.2 c hc)).2.1), hlower]

theorem nodup_pairs : (request.pairs.map Prod.fst).Nodup := by
  have hkeys : request.pairs.map Prod.fst = (request.query.items.map Prod.fst).map String.toList := by
    unfold AllowedRequest.pairs
    rw [List.map_map, List.map_map]
    rfl
  rw [hkeys]
  refine List.Nodup.map (fun a b h => String.toList_inj.mp h) ?_
  exact request.query.sorted.imp fun h => ne_of_lt h

theorem bounded_pairs : IsBoundedQuery urls request.pairs := by
  refine ⟨?_, nodup_pairs, ?_⟩
  · unfold AllowedRequest.pairs
    rw [List.length_map]
    exact request.queryBounded.1
  · intro pair hpair
    obtain ⟨item, hitem, rfl⟩ := List.mem_map.mp hpair
    exact request.queryBounded.2 item hitem

theorem requestParts_writable (request : AllowedRequest u urls) (hreads : ReadsAscii library urls)
    {host : List Char} (hhost : IsHostName host) : (requestParts request host).Writable fun _ => true := by
  obtain ⟨-, -, hcontrol, hsafe⟩ := validatePath_spec request.pathSafe.2
  have hdelimiters := (hsafe 0).delimiters
  have hscheme : "https".toList.head?.any Char.isAlpha = true ∧
      "https".toList.all isSchemeChar = true ∧ "https".toList.map Char.toLower = "https".toList := by
    decide
  refine ⟨hscheme, ⟨rfl, ?_⟩, ⟨validatePath_head request.pathSafe.2, ?_⟩, ?_, ?_⟩
  · intro c hc
    refine ⟨?_, isRemoved_of_graphic (graphic_netlocOf hhost hc)⟩
    unfold isDelimiter
    simp only [Bool.or_eq_false_iff, beq_eq_false_iff_ne]
    refine ⟨⟨?_, ?_⟩, ?_⟩
    · rintro rfl
      exact not_mem_netlocOf hhost _ (by decide) hc
    · rintro rfl
      exact not_mem_netlocOf hhost _ (by decide) hc
    · rintro rfl
      exact not_mem_netlocOf hhost _ (by decide) hc
  · intro c hc
    refine ⟨?_, ?_, ?_⟩
    · rintro rfl
      exact hdelimiters.1 hc
    · rintro rfl
      exact hdelimiters.2.1 hc
    · cases hremoved : isRemoved c with
      | false => rfl
      | true =>
        have hclean := hcontrol c (List.mem_append_left _ hc)
        rw [hreads.control c hremoved] at hclean
        cases hclean
  · exact fun c hc => urlencode_clean hc
  · exact fun c hc => absurd hc List.not_mem_nil

/-- The hosts that a request may name. -/
structure HostAllowed (library : HttpLibrary) (client : SafeHttpClient) (request : AllowedRequest u urls)
    (host : List Char) : Prop where
  domain : hostMatchesPolicy library host client.policy.allowedHttpsDomains = true
  adapter : ∃ hosts, adapterHosts client request = .ok hosts ∧ hostMatchesPolicy library host hosts = true
  limit : request.responseByteLimit ≤ client.policy.maximumResponseBytes

theorem validateHost_spec {host : List Char} (h : validateHost library client request = .ok host) :
    host = requestHost library request ∧ HostAllowed library client request host ∧
      portAllowed library host request.port client.policy.allowedPortsByHost = true := by
  obtain ⟨_, -, h⟩ := Fallible.bind_eq_ok.mp h
  obtain ⟨_, hlimit, h⟩ := Fallible.bind_eq_ok.mp h
  obtain ⟨_, -, h⟩ := Fallible.bind_eq_ok.mp h
  obtain ⟨_, -, h⟩ := Fallible.bind_eq_ok.mp h
  obtain ⟨_, -, h⟩ := Fallible.bind_eq_ok.mp h
  obtain ⟨hosts, hhosts, h⟩ := Fallible.bind_eq_ok.mp h
  obtain ⟨_, hdomain, h⟩ := Fallible.bind_eq_ok.mp h
  obtain ⟨_, hadapter, h⟩ := Fallible.bind_eq_ok.mp h
  obtain ⟨_, hport, h⟩ := Fallible.bind_eq_ok.mp h
  cases h
  rw [Fallible.require_eq_ok] at hlimit hdomain hadapter hport
  exact ⟨rfl, ⟨hdomain, ⟨hosts, hhosts, hadapter⟩, hlimit⟩, hport⟩

theorem anyUnsafe_spec : ∀ {addresses : List (List Char)}, anyUnsafe library addresses = .ok false →
    ∀ address ∈ addresses, library.isAddress address = true ∧ library.isLocalAddress address = false := by
  intro addresses
  induction addresses with
  | nil => exact fun _ address haddress => absurd haddress List.not_mem_nil
  | cons first rest ih =>
    intro h
    obtain ⟨found, hfound, h⟩ := Fallible.bind_eq_ok.mp h
    obtain ⟨_, hlegal, hlocal⟩ := Fallible.bind_eq_ok.mp hfound
    rw [Fallible.require_eq_ok] at hlegal
    cases found with
    | true => cases h
    | false =>
      rw [List.forall_mem_cons]
      exact ⟨⟨hlegal, Except.ok.inj hlocal⟩, ih h⟩

/-- Addresses that are not local. -/
def GlobalAddresses (library : HttpLibrary) (addresses : List (List Char)) : Prop :=
  addresses ≠ [] ∧ ∀ address ∈ addresses,
    library.isAddress address = true ∧ library.isLocalAddress address = false

theorem findAddresses_spec {host : List Char} {addresses : List (List Char)} {trace : HttpTrace}
    (h : (findAddresses library request host).Plays trace (.ok addresses)) :
    GlobalAddresses library addresses := by
  unfold findAddresses at h
  by_cases hliteral : library.isAddress host = true
  · rw [if_pos hliteral] at h
    obtain ⟨_, _, _, -, hlocal, h⟩ := plays_bind_ok h
    cases h.2
    refine ⟨List.cons_ne_nil _ _, ?_⟩
    intro address haddress
    rw [List.mem_singleton.mp haddress]
    exact ⟨hliteral, (plays_require_ok hlocal).2⟩
  · rw [if_neg hliteral] at h
    obtain ⟨resolution, _, _, -, -, h⟩ := plays_bind_ok h
    have hresolution := (plays_ofExcept_ok h).2
    cases resolution with
    | osError => cases hresolution
    | error error => cases hresolution
    | addresses found =>
      obtain ⟨isUnsafe, hunsafe, hresolution⟩ := Fallible.bind_eq_ok.mp hresolution
      obtain ⟨_, hchecked, hresolution⟩ := Fallible.bind_eq_ok.mp hresolution
      cases hresolution
      rw [Fallible.require_eq_ok] at hchecked
      rw [hchecked.2] at hunsafe
      exact ⟨hchecked.1, anyUnsafe_spec hunsafe⟩

theorem buildUrl_spec {host url : List Char} (h : buildUrl library request host = .ok url) :
    url = urlunsplit (requestParts request host) ∧ ∃ parsed port,
      urlsplit library.netlocIsLegal url = some parsed ∧ parsed.port = some port ∧
        port.getD 443 = request.port := by
  obtain ⟨_, -, h⟩ := Fallible.bind_eq_ok.mp h
  dsimp only at h
  cases hsplit : urlsplit library.netlocIsLegal (urlunsplit (requestParts request host)) with
  | none =>
    rw [hsplit] at h
    cases h
  | some parsed =>
    rw [hsplit] at h
    dsimp only at h
    cases hport : parsed.port with
    | none =>
      rw [hport] at h
      cases h
    | some port =>
      rw [hport] at h
      obtain ⟨_, hchecked, h⟩ := Fallible.bind_eq_ok.mp h
      cases h
      rw [Fallible.require_eq_ok] at hchecked
      exact ⟨rfl, parsed, port, hsplit, hport, hchecked.2.1⟩

/-- The URL and the addresses of a validated request. -/
theorem validateRequest_spec (hreads : ReadsAscii library urls) (hhost : IsHostName request.host)
    {url : List Char} {addresses : List (List Char)} {trace : HttpTrace}
    (h : (validateRequest library client request).Plays trace (.ok (url, addresses))) :
    Confined u urls library client.policy (requestHost library request) url ∧
      HostAllowed library client request (requestHost library request) ∧
      GlobalAddresses library addresses := by
  obtain ⟨host, _, _, -, hvalid, h⟩ := plays_bind_ok h
  obtain ⟨found, _, _, -, haddresses, h⟩ := plays_bind_ok h
  obtain ⟨built, _, _, -, hurl, h⟩ := plays_bind_ok h
  cases h.2
  obtain ⟨rfl, hallowed, hport⟩ := validateHost_spec (plays_ofExcept_ok hvalid).2
  obtain ⟨rfl, parsed, port, hsplit, hparsed, hsame⟩ := buildUrl_spec (plays_ofExcept_ok hurl).2
  refine ⟨?_, hallowed, findAddresses_spec haddresses⟩
  have hname : IsHostName (requestHost library request) ∧
      (requestHost library request).map Char.toLower = requestHost library request := by
    rw [requestHost_eq hreads hhost]
    exact hhost.lower
  -- what is read again is what was written
  have hwritten := urlsplit_urlunsplit (requestParts_writable request hreads hname.1)
  have hread := (urlsplit_parts hsplit).1
  rw [hwritten] at hread
  cases hread
  refine ⟨_, hsplit, rfl, hostname_requestParts hreads hname.1 hname.2, ⟨port, hparsed, ?_⟩, ?_, rfl,
    request.pathSafe.2, request.pairs, rfl, bounded_pairs⟩
  · rw [hsame]
    exact hport
  · have hat : '@' ∉ (requestParts request (requestHost library request)).netloc :=
      not_mem_netlocOf hname.1 request.port (by decide)
    exact ⟨if_neg hat, if_neg fun h => hat h.1⟩

end Client

end FinanceResearch.Http
