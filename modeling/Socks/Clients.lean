import Socks.Conditions
import Socks.Framing

/-!
# The clients

The two example clients read two URLs, connect to the SOCKS server that the one names, have it
connect them to what the other names, and send an HTTP request. One is written with `connect` and
`connect_v4`, the other with their asynchronous versions. This file goes as far as the HTTP
request, which is no longer part of SOCKS.

SOCKS4 servers resolve no names, so the clients do. Where a name has several addresses they part:
the one tries the next address after a failure, over the same stream; the other tries one address
only.

The network is a parameter: what the resolver answers, and whether the socket gets connected to
the SOCKS server. From then on the socket is the stream the client runs on.

## Main definitions

* `Socks.Url`, `Socks.defaultPort`, `Socks.getEndpointUnchecked` — what is read of a URL
* `Socks.resolveAndConnectV4`, `Socks.socksRequest` — the one client
* `Socks.SocksClient.run` — the other

## Main results

* `Socks.resolveAndConnectV4_iff` — when the one has been granted an address
* `Socks.refusal_masked` — a refusal is reported as something else if there is another address
* `Socks.clients_agree_iff` — when they do the same
* `Socks.requests_iff` — what precedes the request
-/

namespace Socks

open Asio

variable {σ : Type}

/-! ### URLs -/

/-- `urls::host_type`. -/
inductive HostType
  | none
  | name
  | ipv4
  | ipv6
  | ipvfuture
  deriving DecidableEq

/-- `urls::scheme`, as far as the clients ask for it. -/
inductive SchemeId
  | http
  | https
  | other
  deriving DecidableEq

/-- What the clients ask of a `urls::url_view`, and what `parse_ipv4_address` and
`parse_ipv6_address` make of its host. -/
structure Url where
  scheme : String
  schemeId : SchemeId := .other
  hostType : HostType
  encodedHost : Bytes
  ipv4Address : Option AddressV4 := .none
  ipv6Address : Option (Fin 16 → UInt8) := .none
  hasPort : Bool := false
  portNumber : UInt16 := 0
  hasUserinfo : Bool := false
  encodedUser : Bytes := []
  encodedPassword : Bytes := []

/-- `default_port`, which gives `https` the port 445. -/
def defaultPort (u : Url) : UInt16 :=
  if !u.hasPort then
    if u.schemeId = .http then 80
    else if u.schemeId = .https then 445
    else if u.scheme.startsWith "socks" then 1080
    else u.portNumber
  else u.portNumber

/-- `get_endpoint_unchecked`. An address that does not parse is an exception. -/
def getEndpointUnchecked (u : Url) : Option Endpoint :=
  if u.hostType = .ipv4 then u.ipv4Address.map fun ip => ⟨.v4 ip, defaultPort u⟩
  else u.ipv6Address.map fun ip => ⟨.v6 ⟨ip, 0⟩, defaultPort u⟩

/-- The version a scheme stands for. -/
def socksVersion (scheme : String) : Option Version :=
  if scheme = "socks5" then some .socks5
  else if scheme = "socks4" ∨ scheme = "socks4a" then some .socks4
  else none

/-! ### The network -/

/-- What the resolver answers, for the host of the SOCKS server and for the target, and what comes
of connecting the socket to the first of several endpoints that accepts. -/
structure Network where
  resolveSocks : Bytes → String → ErrorCode × List Endpoint
  connect : List Endpoint → ErrorCode
  resolveTarget : Bytes → String → ErrorCode × List Endpoint

/-- How a client ends. -/
inductive ClientEnding
  /-- It goes on to the HTTP request. -/
  | requests
  /-- It reports a failure, of which it may have an error code. -/
  | failed (ec : Option ErrorCode) (what : String)
  /-- It does nothing any more, and reports nothing. -/
  | idle
  /-- An exception leaves it. -/
  | thrown
  deriving DecidableEq

/-- `asio::error::host_not_found`, `HOST_NOT_FOUND` of the category `asio.netdb`. -/
def hostNotFound : ErrorCode := ⟨.other 0, 1⟩

/-- `asio::error::operation_not_supported`, `EOPNOTSUPP`. -/
def operationNotSupported : ErrorCode := ⟨.system, 95⟩

/-! ### What the clients have in common -/

section Common

variable (net : Network) (target socks : Url)

/-- The URLs are parsed and looked at; `ec` is reported of a scheme or a host that will not do. -/
def parseUrlsWith (ec : Option ErrorCode) (targetStr socksStr : Except ErrorCode Url) :
    Except ClientEnding (Version × Url × Url) :=
  match targetStr with
  | .error e => .error (.failed (some e) "Parse target")
  | .ok target =>
    match socksStr with
    | .error e => .error (.failed (some e) "Parse SOCKS")
    | .ok socks =>
      match socksVersion socks.scheme with
      | none => .error (.failed ec "Invalid SOCKS scheme: ")
      | some .socks5 => .ok (.socks5, target, socks)
      | some .socks4 =>
        if target.hostType = .ipv6 then
          .error (.failed ec "SOCKS4 does not support IPv6 addresses")
        else .ok (.socks4, target, socks)

/-- The SOCKS server is connected to; `ec` is reported of a host that is none. -/
def reachSocksWith (resolveText : String) (ec : Option ErrorCode) : Option ClientEnding :=
  let connected (endpoints : List Endpoint) : Option ClientEnding :=
    let ec := net.connect endpoints
    if ec.failed then some (.failed (some ec) "connect") else none
  let unchecked : Option ClientEnding :=
    match getEndpointUnchecked socks with
    | none => some .thrown
    | some ep => connected [ep]
  match socks.hostType with
  | .name =>
    let (ec, endpoints) := net.resolveSocks socks.encodedHost (portToString (defaultPort socks))
    if ec.failed then some (.failed (some ec) resolveText) else connected endpoints
  | .ipv4 => unchecked
  | .ipv6 => unchecked
  | _ => some (.failed ec "Unsupported host")

/-- What becomes of a client when a handshake completes. -/
def ClientEnding.ofCompletion (c : Completion) : ClientEnding :=
  if c.1.failed then .failed (some c.1) "socks_connect" else .requests

/-- A handshake, and then what becomes of the client. -/
def thenRequest (p : Client Completion) : Client ClientEnding := do return .ofCompletion (← p)

/-- What a client authenticates with. -/
def authOptions : AuthOptions :=
  if !socks.hasUserinfo then .none else .userpass socks.encodedUser socks.encodedPassword

/-- The branches for SOCKS5, with the version of `connect` that is called; `unsupported` is for a
target that is neither a name nor an address. -/
def connectV5With (connect : Target → AuthOptions → Client Completion)
    (unsupported : ClientEnding) : Client ClientEnding :=
  let unchecked : Client ClientEnding :=
    match getEndpointUnchecked target with
    | none => return .thrown
    | some ep => thenRequest (connect (.endpoint ep) (authOptions socks))
  match target.hostType with
  | .name =>
    thenRequest (connect (.domain ⟨target.encodedHost, defaultPort target⟩) (authOptions socks))
  | .ipv4 => unchecked
  | .ipv6 => unchecked
  | _ => return unsupported

/-- The branches for SOCKS4, with the version of `connect_v4` that is called, and what is done with
what the resolver answers. An IPv6 address is not converted to an IPv4 address, but is an
exception. -/
def connectV4With (connectV4 : EndpointV4 → Bytes → Client Completion)
    (resolved : ErrorCode × List Endpoint → Client ClientEnding)
    (unsupported : ClientEnding) : Client ClientEnding :=
  let unchecked : Client ClientEnding :=
    match getEndpointUnchecked target with
    | some ⟨.v4 a, port⟩ => thenRequest (connectV4 ⟨a, port⟩ socks.encodedUser)
    | _ => return .thrown
  match target.hostType with
  | .name => resolved (net.resolveTarget target.encodedHost (portToString (defaultPort target)))
  | .ipv4 => unchecked
  | .ipv6 => unchecked
  | _ => return unsupported

end Common

/-! ### The synchronous client -/

/-- The loop of `resolve_and_connect_v4`. -/
def tryEach (targetPort : UInt16) (socksUser : Bytes) :
    ErrorCode → List Endpoint → Client Completion
  | ec, [] => return (ec, default)
  | ec, ⟨.v6 _, _⟩ :: eps =>
    tryEach targetPort socksUser (if !ec.failed then hostNotFound else ec) eps
  | _, ⟨.v4 a, _⟩ :: eps => do
    let (ec, ep) ← connectV4 ⟨a, targetPort⟩ socksUser
    if ec.failed then tryEach targetPort socksUser ec eps else return (ec, ep)

/-- `resolve_and_connect_v4`, from what the resolver answers on. -/
def resolveAndConnectV4 (answer : ErrorCode × List Endpoint) (targetPort : UInt16)
    (socksUser : Bytes) : Client Completion :=
  if answer.1.failed then return (answer.1, default)
  else tryEach targetPort socksUser answer.1 answer.2

/-- `socks_request`, up to the HTTP request. The buffer of `connect` holds `memory`. If the target
is neither a name nor an address, nothing is called, and nothing has failed. -/
def socksRequest (net : Network) (memory : Vector UInt8 bufferSize)
    (targetStr socksStr : Except ErrorCode Url) : Client ClientEnding :=
  match parseUrlsWith none targetStr socksStr with
  | .error e => return e
  | .ok (version, target, socks) =>
    match reachSocksWith net socks "resolve" none with
    | some e => return e
    | none =>
      match version with
      | .socks5 => connectV5With target socks (connect memory) .requests
      | .socks4 =>
        connectV4With net target socks connectV4 (fun answer =>
          thenRequest (resolveAndConnectV4 answer (defaultPort target) socks.encodedUser)) .requests

/-! ### The asynchronous client -/

namespace SocksClient

/-- `parse_urls`. -/
def parseUrls (targetStr socksStr : Except ErrorCode Url) :
    Except ClientEnding (Version × Url × Url) :=
  parseUrlsWith (some noProtocolOption) targetStr socksStr

/-- `do_proxy_resolve`, and `do_proxy_connect`. -/
def doProxyResolve (net : Network) (socks : Url) : Option ClientEnding :=
  reachSocksWith net socks "proxy resolve" (some operationNotSupported)

/-- The handler of the resolver in `do_socks_connect`: the first IPv4 address is tried. -/
def onResolved (socksUser : Bytes) (answer : ErrorCode × List Endpoint) : Client ClientEnding :=
  if answer.1.failed then return .failed (some answer.1) "resolve"
  else go answer.2
where
  /-- The loop over the endpoints. -/
  go : List Endpoint → Client ClientEnding
    | [] => return .failed (some hostNotFound) "not ipv4 address found for host"
    | ⟨.v4 a, port⟩ :: _ => thenRequest (asyncConnectV4 ⟨a, port⟩ socksUser)
    | ⟨.v6 _, _⟩ :: eps => go eps

/-- `do_socks_connect`, up to the HTTP request. If the target is neither a name nor an address,
nothing is started. -/
def doSocksConnect (net : Network) (version : Version) (target socks : Url) :
    Client ClientEnding :=
  match version with
  | .socks5 => connectV5With target socks asyncConnect .idle
  | .socks4 =>
    connectV4With net target socks asyncConnectV4 (onResolved socks.encodedUser) .idle

/-- `socks_client`. -/
def run (net : Network) (targetStr socksStr : Except ErrorCode Url) : Client ClientEnding :=
  match parseUrls targetStr socksStr with
  | .error e => return e
  | .ok (version, target, socks) =>
    match doProxyResolve net socks with
    | some e => return e
    | none => doSocksConnect net version target socks

end SocksClient

/-! ### Attempts -/

/-- Run a client against a stream. A client asks nothing. -/
def Client.play {α : Type} (p : Client α) (st : Asio.Stream ErrorCode σ) (s : σ) :
    Run ErrorCode Empty Empty α σ := Prog.run st (fun q => nomatch q) p s

theorem Client.runOn_eq_play (p : Client Completion) (st : Asio.Stream ErrorCode σ) (s : σ) :
    p.runOn st s = p.play st s := rfl

theorem Client.play_bind {α β : Type} (p : Client α) (f : α → Client β)
    (st : Asio.Stream ErrorCode σ) (s : σ) :
    Client.play (p >>= f) st s =
      ⟨((f (p.play st s).result).play st (p.play st s).rest).result,
        (p.play st s).trace ++ ((f (p.play st s).result).play st (p.play st s).rest).trace,
        ((f (p.play st s).result).play st (p.play st s).rest).rest⟩ :=
  Prog.run_bind st _ p f s

theorem Client.play_pure {α : Type} (a : α) (st : Asio.Stream ErrorCode σ) (s : σ) :
    Client.play (.pure a) st s = ⟨a, [], s⟩ := rfl

theorem play_thenRequest (p : Client Completion) (st : Asio.Stream ErrorCode σ) (s : σ) :
    (thenRequest p).play st s =
      ⟨.ofCompletion (p.play st s).result, (p.play st s).trace, (p.play st s).rest⟩ := by
  rw [thenRequest, Client.play_bind]
  simp only [Prog.monad_pure, Client.play_pure, List.append_nil]

/-- The IPv4 addresses among the endpoints. -/
def ipv4Addresses : List Endpoint → List AddressV4
  | [] => []
  | ⟨.v4 a, _⟩ :: eps => a :: ipv4Addresses eps
  | ⟨.v6 _, _⟩ :: eps => ipv4Addresses eps

/-- One handshake after the other, up to the first that does not fail. -/
def attempts (targetPort : UInt16) (socksUser : Bytes) :
    ErrorCode → List AddressV4 → Client Completion
  | ec, [] => .pure (ec, default)
  | _, a :: as => handshakeV4 ⟨a, targetPort⟩ socksUser >>= fun c =>
    if c.1.failed then attempts targetPort socksUser c.1 as else .pure c

/-- The code if there is no IPv4 address. -/
def codeAfter (ec : ErrorCode) (eps : List Endpoint) : ErrorCode :=
  if eps = [] ∨ ec.failed then ec else hostNotFound

variable {targetPort : UInt16} {socksUser : Bytes} {ec : ErrorCode} {eps : List Endpoint}
  {as : List AddressV4} {t : List IoStep} {c : Completion}

/-- IPv6 addresses do not matter but for the code. -/
theorem tryEach_eq (ec : ErrorCode) (eps : List Endpoint) :
    tryEach targetPort socksUser ec eps =
      attempts targetPort socksUser (codeAfter ec eps) (ipv4Addresses eps) := by
  induction eps generalizing ec with
  | nil => rw [codeAfter, if_pos (Or.inl rfl)]; rfl
  | cons ep eps ih =>
    obtain ⟨a | a, port⟩ := ep
    · rw [tryEach, ipv4Addresses, attempts, connectV4_eq_handshakeV4]
      refine congrArg (handshakeV4 ⟨a, targetPort⟩ socksUser >>= ·) (funext fun c => ?_)
      dsimp only
      split_ifs with hc
      · rw [ih, codeAfter, if_pos (Or.inr hc)]
      · rfl
    · rw [tryEach, ipv4Addresses, ih]
      refine congrArg (attempts targetPort socksUser · _) ?_
      rw [codeAfter, codeAfter]
      cases hec : ec.failed with
      | true => simp [hec]
      | false => simp [hostNotFound, ErrorCode.failed]

/-- What is done, by how it ends. -/
inductive Attempted (targetPort : UInt16) (socksUser : Bytes) :
    ErrorCode → List AddressV4 → List IoStep → Completion → Prop
  | nil {ec : ErrorCode} : Attempted targetPort socksUser ec [] [] (ec, default)
  | next {ec : ErrorCode} {a : AddressV4} {as : List AddressV4} {t t' : List IoStep}
      {c c' : Completion} (h : TranscriptV4 ⟨a, targetPort⟩ socksUser t c)
      (hc : c.1.failed = true) (rest : Attempted targetPort socksUser c.1 as t' c') :
      Attempted targetPort socksUser ec (a :: as) (t ++ t') c'
  | granted {ec : ErrorCode} {a : AddressV4} {as : List AddressV4} {t : List IoStep}
      {c : Completion} (h : TranscriptV4 ⟨a, targetPort⟩ socksUser t c)
      (hc : c.1.failed = false) : Attempted targetPort socksUser ec (a :: as) t c

theorem attempts_transcript (st : Asio.Stream ErrorCode σ) (ec : ErrorCode) (as : List AddressV4)
    (s : σ) : Attempted targetPort socksUser ec as
      ((attempts targetPort socksUser ec as).play st s).trace
      ((attempts targetPort socksUser ec as).play st s).result := by
  induction as generalizing ec s with
  | nil => exact .nil
  | cons a as ih =>
    have h := handshakeV4_transcript st ⟨a, targetPort⟩ socksUser s
    rw [Client.runOn_eq_play] at h
    rw [attempts, Client.play_bind]
    generalize (handshakeV4 ⟨a, targetPort⟩ socksUser).play st s = r at h ⊢
    dsimp only
    cases hc : r.result.1.failed with
    | true =>
      rw [if_pos rfl]
      exact .next h hc (ih _ _)
    | false =>
      rw [if_neg Bool.false_ne_true, Client.play_pure, List.append_nil]
      exact .granted h hc

theorem TranscriptV4.ne_nil {target : EndpointV4} {user : Bytes}
    (h : TranscriptV4 target user t c) : t ≠ [] := by
  cases h <;> simp

theorem TranscriptV4.started_eq {target : EndpointV4} {user : Bytes}
    (h : TranscriptV4 target user t c) : started t = [requestV4Bytes target user] := by
  cases h <;> rfl

theorem Attempted.not_failed_iff (h : Attempted targetPort socksUser ec as t c) :
    c.1.failed = false ↔ as = [] ∧ ec.failed = false ∨ EndsWith t GrantRead := by
  induction h with
  | nil => simp
  | @next ec a as t t' c c' h hc rest ih =>
    rw [ih]
    cases rest with
    | nil =>
      have hnot := mt h.not_failed_iff.mpr (by simp [hc])
      simp [hc, hnot]
    | @next _ _ _ u u' _ _ h' hc' rest' =>
      have hne : u ++ u' ≠ [] := List.append_ne_nil_of_left_ne_nil h'.ne_nil u'
      rw [endsWith_append_iff hne]
      simp
    | granted h' hc' =>
      rw [endsWith_append_iff h'.ne_nil]
      simp
  | granted h hc => simp [h.not_failed_iff]

/-- Addresses are tried in order. -/
theorem Attempted.started_prefix (h : Attempted targetPort socksUser ec as t c) :
    started t <+: as.map fun a => requestV4Bytes ⟨a, targetPort⟩ socksUser := by
  induction h with
  | nil => exact List.prefix_rfl
  | next h hc rest ih =>
    rw [started_append, h.started_eq]
    exact List.prefix_cons_inj _ |>.mpr ih
  | granted h hc =>
    rw [h.started_eq]
    exact ⟨_, rfl⟩

theorem resolveAndConnectV4_eq (hec : ec.failed = false) :
    resolveAndConnectV4 (ec, eps) targetPort socksUser =
      attempts targetPort socksUser (codeAfter ec eps) (ipv4Addresses eps) := by
  rw [resolveAndConnectV4, if_neg (by simp [hec]), tryEach_eq]

theorem resolveAndConnectV4_attempted (hec : ec.failed = false) (eps : List Endpoint)
    (targetPort : UInt16) (socksUser : Bytes) (st : Asio.Stream ErrorCode σ) (s : σ) :
    Attempted targetPort socksUser (codeAfter ec eps) (ipv4Addresses eps)
      ((resolveAndConnectV4 (ec, eps) targetPort socksUser).play st s).trace
      ((resolveAndConnectV4 (ec, eps) targetPort socksUser).play st s).result := by
  rw [resolveAndConnectV4_eq hec]
  exact attempts_transcript st (codeAfter ec eps) (ipv4Addresses eps) s

/-- There is no IPv4 address, and no failure, exactly if there is no address. -/
theorem no_address_iff (hec : ec.failed = false) :
    ipv4Addresses eps = [] ∧ (codeAfter ec eps).failed = false ↔ eps = [] := by
  constructor
  · rintro ⟨-, hcode⟩
    by_contra hne
    rw [codeAfter, if_neg (by simp [hne, hec])] at hcode
    exact absurd hcode (by decide)
  · rintro rfl
    exact ⟨rfl, by rw [codeAfter, if_pos (Or.inl rfl), hec]⟩

theorem resolveAndConnectV4_not_failed_iff (answer : ErrorCode × List Endpoint)
    (targetPort : UInt16) (socksUser : Bytes) (st : Asio.Stream ErrorCode σ) (s : σ) :
    ((resolveAndConnectV4 answer targetPort socksUser).play st s).result.1.failed = false ↔
      answer.1.failed = false ∧ answer.2 = [] ∨
        EndsWith ((resolveAndConnectV4 answer targetPort socksUser).play st s).trace GrantRead := by
  obtain ⟨ec, eps⟩ := answer
  dsimp only
  cases hec : ec.failed with
  | true =>
    -- the resolver has failed, and nothing is tried
    rw [resolveAndConnectV4, if_pos hec]
    exact iff_of_false (by simp [Client.play_pure, hec]) (by simp [Client.play_pure])
  | false =>
    rw [and_iff_right rfl, ← no_address_iff hec]
    exact (resolveAndConnectV4_attempted hec eps targetPort socksUser st s).not_failed_iff

theorem started_resolveAndConnectV4 (answer : ErrorCode × List Endpoint)
    (targetPort : UInt16) (socksUser : Bytes) (st : Asio.Stream ErrorCode σ) (s : σ) :
    started ((resolveAndConnectV4 answer targetPort socksUser).play st s).trace <+:
      (ipv4Addresses answer.2).map fun a => requestV4Bytes ⟨a, targetPort⟩ socksUser := by
  obtain ⟨ec, eps⟩ := answer
  cases hec : ec.failed with
  | true =>
    rw [resolveAndConnectV4, if_pos hec]
    exact List.nil_prefix
  | false =>
    exact Attempted.started_prefix
      (resolveAndConnectV4_attempted hec eps targetPort socksUser st s)

/-- **A name is connected to exactly if a grant is the last thing that is read**, or, by mistake,
if the resolver has found it but has no address of it: then nothing is tried, and nothing has
failed. The IPv4 addresses are tried in the order in which the resolver has them. -/
theorem resolveAndConnectV4_iff (answer : ErrorCode × List Endpoint) (targetPort : UInt16)
    (socksUser : Bytes) (st : Asio.Stream ErrorCode σ) (s : σ) :
    (((resolveAndConnectV4 answer targetPort socksUser).play st s).result.1.failed = false ↔
        answer.1.failed = false ∧ answer.2 = [] ∨
          EndsWith ((resolveAndConnectV4 answer targetPort socksUser).play st s).trace
            GrantRead) ∧
      started ((resolveAndConnectV4 answer targetPort socksUser).play st s).trace <+:
        (ipv4Addresses answer.2).map fun a => requestV4Bytes ⟨a, targetPort⟩ socksUser :=
  ⟨resolveAndConnectV4_not_failed_iff answer targetPort socksUser st s,
    started_resolveAndConnectV4 answer targetPort socksUser st s⟩

/-- A server that rejects one request, and grants the next. -/
def rejectedThenGranted : Script ErrorCode :=
  ⟨[.chunk 0x00 [91, 0, 0, 0, 0, 0, 0], .chunk 0x00 [90, 0, 0, 0, 0, 0, 0]], []⟩

/-- The addresses of a name, the first of which is no IPv4 address. -/
def threeAddresses : List Endpoint :=
  [⟨.v6 ⟨fun _ => 0, 0⟩, 80⟩, ⟨.v4 ⟨![10, 0, 0, 1]⟩, 80⟩, ⟨.v4 ⟨![10, 0, 0, 2]⟩, 80⟩]

/-- The second IPv4 address is tried, and connected to. -/
theorem resolveAndConnectV4_iff_second :
    ((resolveAndConnectV4 (.ok, threeAddresses) 80 []).play clientStream
      rejectedThenGranted).result.1.failed = false := by
  have hplay (a : AddressV4) (evs : List (ReadEvent ErrorCode)) (b : UInt8) (bs : Bytes)
      (hlen : (b :: bs).length = 8) :
      (handshakeV4 ⟨a, 80⟩ []).play clientStream ⟨.chunk b bs :: evs, []⟩ = _ :=
    handshakeV4_runOn_chunk ⟨a, 80⟩ [] hlen evs
  refine (resolveAndConnectV4_iff _ _ _ _ _).1.mpr (Or.inr ?_)
  rw [resolveAndConnectV4_eq rfl, threeAddresses, rejectedThenGranted]
  simp only [ipv4Addresses]
  -- the rejection is read, and then the grant
  rw [attempts, Client.play_bind, hplay _ _ _ _ rfl]
  dsimp only
  rw [if_pos (by decide), attempts, Client.play_bind, hplay _ _ _ _ rfl]
  dsimp only
  rw [if_neg (by decide), Client.play_pure]
  exact ⟨_, rfl, reads_read_iff.mpr ⟨rfl, Or.inl rfl, rfl, Or.inl rfl, rfl⟩⟩

/-! ### The one client and the other -/

/-- The ending without the text. -/
def ClientEnding.forget : ClientEnding → ClientEnding
  | .failed ec _ => .failed ec ""
  | e => e

/-- On every stream the two do the same, and report the same errors. -/
def Alike (p q : Client ClientEnding) : Prop :=
  ∀ (σ : Type) (st : Asio.Stream ErrorCode σ) (s : σ),
    (p.play st s).trace = (q.play st s).trace ∧
      (p.play st s).result.forget = (q.play st s).result.forget

theorem Alike.refl (p : Client ClientEnding) : Alike p p := fun _ _ _ => ⟨rfl, rfl⟩

/-- There is no doubt which address of the target is to be connected to. -/
def Unambiguous (answer : ErrorCode × List Endpoint) : Prop :=
  answer.1.failed = true ∨ answer.2 ≠ [] ∧ (ipv4Addresses answer.2).length ≤ 1

/-- The one goes on, and the other does nothing. -/
theorem not_alike_unsupported : ¬Alike (.pure .requests) (.pure .idle) := fun h => by
  cases (h _ clientStream ⟨[], []⟩).2

/-- The asynchronous client tries the first address. -/
theorem go_eq (hport : ∀ ep ∈ eps, ep.port = targetPort) :
    SocksClient.onResolved.go socksUser eps =
      match ipv4Addresses eps with
      | [] => .pure (.failed (some hostNotFound) "not ipv4 address found for host")
      | a :: _ => thenRequest (handshakeV4 ⟨a, targetPort⟩ socksUser) := by
  induction eps with
  | nil => rfl
  | cons ep eps ih =>
    obtain ⟨a | a, port⟩ := ep
    · obtain rfl : port = targetPort := hport _ List.mem_cons_self
      rw [SocksClient.onResolved.go, ipv4Addresses, asyncConnectV4_eq_handshakeV4]
    · rw [SocksClient.onResolved.go, ipv4Addresses]
      exact ih fun ep hep => hport ep (List.mem_cons_of_mem _ hep)

/-- A stream whose first write fails. -/
def brokenWrite : Script ErrorCode := ⟨[], [⟨0, .eof, fun _ => ErrorCode.failed_eof⟩]⟩

theorem write_brokenWrite {bs : Bytes} (hne : bs ≠ []) :
    clientStream.write bs brokenWrite = ⟨0, .eof, ⟨[], []⟩⟩ := by
  have hpos := List.length_pos_iff.mpr hne
  rw [Asio.Stream.write, Asio.Stream.writeLoop, dif_pos ⟨hpos, rfl⟩, Asio.Stream.writeLoop,
    dif_neg (fun h => absurd h.2 (by simp [brokenWrite, Script.stream]))]
  simp [brokenWrite, Script.stream]

theorem handshakeV4_brokenWrite (a : EndpointV4) (socksUser : Bytes) :
    (handshakeV4 a socksUser).play clientStream brokenWrite =
      ⟨(.eof, default), [.write (requestV4Bytes a socksUser) 0 .eof], ⟨[], []⟩⟩ := by
  have hne : requestV4Bytes a socksUser ≠ [] := List.cons_ne_nil _ _
  rw [Client.play, handshakeV4, Prog.run_write (write_brokenWrite hne)]
  rfl

/-- On a stream whose first write fails there is a second attempt. -/
theorem attempts_brokenWrite (a b : AddressV4) (as : List AddressV4) :
    2 ≤ ((attempts targetPort socksUser ec (a :: b :: as)).play clientStream
      brokenWrite).trace.length := by
  rw [attempts, Client.play_bind, handshakeV4_brokenWrite, List.length_append]
  dsimp only
  rw [if_pos ErrorCode.failed_eof, attempts, Client.play_bind, List.length_append]
  have hsecond := (handshakeV4_transcript clientStream ⟨b, targetPort⟩ socksUser ⟨[], []⟩).ne_nil
  rw [Client.runOn_eq_play] at hsecond
  have hpos := List.length_pos_iff.mpr hsecond
  rw [List.length_singleton]
  omega

theorem resolved_alike_iff {answer : ErrorCode × List Endpoint}
    (hport : ∀ ep ∈ answer.2, ep.port = targetPort) :
    Alike (thenRequest (resolveAndConnectV4 answer targetPort socksUser))
      (SocksClient.onResolved socksUser answer) ↔ Unambiguous answer := by
  obtain ⟨ec, eps⟩ := answer
  rw [Unambiguous, SocksClient.onResolved]
  dsimp only at hport ⊢
  cases hec : ec.failed with
  | true =>
    rw [resolveAndConnectV4, if_pos hec, if_pos rfl]
    refine iff_of_true (fun σ st s => ?_) (Or.inl rfl)
    simp [play_thenRequest, Client.play_pure, ClientEnding.ofCompletion, ClientEnding.forget, hec]
  | false =>
    rw [resolveAndConnectV4_eq hec, if_neg Bool.false_ne_true, go_eq hport,
      or_iff_right Bool.false_ne_true]
    cases hips : ipv4Addresses eps with
    | nil =>
      rw [attempts]
      by_cases hnil : eps = []
      · refine iff_of_false (fun h => ?_) fun h => h.1 hnil
        have := (h _ clientStream ⟨[], []⟩).2
        simp [play_thenRequest, Client.play_pure, codeAfter, hnil, ClientEnding.ofCompletion,
          ClientEnding.forget, hec] at this
      · refine iff_of_true (fun σ st s => ?_) ⟨hnil, Nat.zero_le _⟩
        have hcode : codeAfter ec eps = hostNotFound := by
          rw [codeAfter, if_neg (by simp [hnil, hec])]
        have hfailed : hostNotFound.failed = true := rfl
        simp [play_thenRequest, Client.play_pure, ClientEnding.ofCompletion, ClientEnding.forget,
          hcode, hfailed]
    | cons a as =>
      have hne : eps ≠ [] := by
        rintro rfl
        cases hips
      dsimp only
      cases as with
      | nil =>
        refine iff_of_true (fun σ st s => ?_) ⟨hne, Nat.le_refl _⟩
        rw [attempts]
        simp only [play_thenRequest, Client.play_bind]
        split_ifs with hfailed
        · simp [attempts, Client.play_pure, ClientEnding.ofCompletion, hfailed]
        · simp [Client.play_pure]
      | cons b as =>
        refine iff_of_false (fun h => ?_) fun h => absurd h.2 (by simp)
        have htwo : 2 ≤ ((attempts targetPort socksUser (codeAfter ec eps) (a :: b :: as)).play
            clientStream brokenWrite).trace.length := attempts_brokenWrite a b as
        have htrace := congrArg List.length (h _ clientStream brokenWrite).1
        simp only [play_thenRequest, handshakeV4_brokenWrite, List.length_singleton] at htrace
        omega

variable {net : Network} {memory : Vector UInt8 bufferSize} {target socks : Url}
  {targetStr socksStr : Except ErrorCode Url} {version : Version}

theorem parseUrlsWith_ok {ec ec' : Option ErrorCode}
    (h : parseUrlsWith ec targetStr socksStr = .ok (version, target, socks)) :
    parseUrlsWith ec' targetStr socksStr = .ok (version, target, socks) := by
  rw [parseUrlsWith.eq_def] at h ⊢
  cases targetStr with
  | error e => cases h
  | ok target =>
    cases socksStr with
    | error e => cases h
    | ok socks =>
      dsimp only at h ⊢
      cases hscheme : socksVersion socks.scheme with
      | none =>
        rw [hscheme] at h
        cases h
      | some version =>
        rw [hscheme] at h
        cases version with
        | socks5 => exact h
        | socks4 =>
          dsimp only at h ⊢
          split_ifs at h ⊢
          exact h

theorem reachSocksWith_eq_none {text text' : String} {ec ec' : Option ErrorCode}
    (h : reachSocksWith net socks text ec = none) :
    reachSocksWith net socks text' ec' = none := by
  rw [reachSocksWith] at h ⊢
  cases hhost : socks.hostType with
  | name =>
    rw [hhost] at h
    dsimp only at h ⊢
    split_ifs at h ⊢
    rfl
  | ipv4 =>
    rw [hhost] at h
    exact h
  | ipv6 =>
    rw [hhost] at h
    exact h
  | none =>
    rw [hhost] at h
    cases h
  | ipvfuture =>
    rw [hhost] at h
    cases h

/-- There is no doubt what the target is, and which address of it is to be connected to. -/
def UnambiguousTarget (net : Network) (target : Url) : Prop :=
  match target.hostType with
  | .name => Unambiguous (net.resolveTarget target.encodedHost (portToString (defaultPort target)))
  | .ipv4 => True
  | .ipv6 => True
  | _ => False

/-- The target is neither a name nor an address. -/
def Url.Unsupported (target : Url) : Prop := target.hostType = .none ∨ target.hostType = .ipvfuture

/-- The two over SOCKS4. -/
theorem connectV4With_alike_iff
    (hport : ∀ ep ∈ (net.resolveTarget target.encodedHost (portToString (defaultPort target))).2,
      ep.port = defaultPort target) :
    Alike (connectV4With net target socks connectV4 (fun answer => thenRequest
        (resolveAndConnectV4 answer (defaultPort target) socks.encodedUser)) .requests)
      (connectV4With net target socks asyncConnectV4 (SocksClient.onResolved socks.encodedUser)
        .idle) ↔
      UnambiguousTarget net target := by
  have hsame : connectV4 = asyncConnectV4 := by
    funext a user
    rw [connectV4_eq_handshakeV4, asyncConnectV4_eq_handshakeV4]
  rw [connectV4With, connectV4With, UnambiguousTarget, hsame]
  cases htype : target.hostType with
  | name => exact resolved_alike_iff hport
  | ipv4 => exact iff_of_true (Alike.refl _) trivial
  | ipv6 => exact iff_of_true (Alike.refl _) trivial
  | none => exact iff_of_false not_alike_unsupported id
  | ipvfuture => exact iff_of_false not_alike_unsupported id

/-- A server that chooses user/pass, and resets the connection when it has the credentials. -/
theorem userpassReply_resetScript {opt : AuthOptions} (huser : opt.isUserpass = true) :
    userpassReply clientStream opt resetScript = some ([], ⟨.system, 104⟩) := by
  let choice : ReadEvent ErrorCode := .chunk 0x05 [0x02]
  let reset : ReadEvent ErrorCode := ⟨[], ⟨.system, 104⟩, fun _ => rfl⟩
  have hws : Script.WritesOk ([] : List (WriteEvent ErrorCode)) := List.forall_mem_nil _
  obtain ⟨e, ws, hw, he, hws⟩ :=
    Script.write_ok ErrorCode.failed_eof (greetingBytes opt) [choice, reset] hws
  have hcut : Cuts [choice] [0x05, 0x02] := ⟨by simp [choice, ReadEvent.chunk], rfl⟩
  have hr : clientStream.read transferAll 2 ⟨[choice, reset], ws⟩
      = ⟨[0x05, 0x02], .ok, ⟨[reset], ws⟩⟩ := read_two hcut [reset] ws
  obtain ⟨u, ws, hw', hu, -⟩ :=
    Script.write_ok ErrorCode.failed_eof (userpassBytes opt) [reset] hws
  have hr' : clientStream.read transferAll 2 ⟨[reset], ws⟩ = ⟨[], ⟨.system, 104⟩, ⟨[], ws⟩⟩ := by
    have hask : 0 < (transferAll : Cond ErrorCode).ask [] .ok := by decide
    rw [Asio.Stream.read, errorLike_ok,
      Script.readLoop_cons ErrorCode.failed_eof (by decide) hask (Nat.zero_le _)]
    exact Asio.Stream.readLoop_of_stop _ (Or.inr (Cond.ask_of_failed _ _ _ rfl))
  change clientStream.write (greetingBytes opt) resetScript = _ at hw
  simp only [userpassReply, hw, hr, hw', hr']
  exact if_pos ⟨he, trivial, rfl, huser, hu⟩

theorem handshake_alike_iff (opt : AuthOptions) (t : Target) :
    Alike (thenRequest (handshake syncPolicy opt t)) (thenRequest (handshake asyncPolicy opt t)) ↔
      opt.isUserpass = false := by
  constructor
  · intro h
    by_contra huser
    rw [Bool.not_eq_false] at huser
    have hreply := userpassReply_resetScript huser
    have hcut : syncPolicy.verdict [] ⟨.system, 104⟩ = some ⟨.system, 104⟩ ∧
        asyncPolicy.verdict [] ⟨.system, 104⟩ = some (makeErrorCode .badReplySize) :=
      verdict_cut (by decide) (by decide) (by decide)
    have hsync : ((handshake syncPolicy opt t).play clientStream resetScript).result =
        (⟨.system, 104⟩, default) := by
      obtain ⟨_, _, _, -, -, -, -, hresult⟩ := handshake_run_of_userpassReply hreply hcut.1
      exact hresult
    have hasync : ((handshake asyncPolicy opt t).play clientStream resetScript).result =
        (makeErrorCode .badReplySize, default) := by
      obtain ⟨_, _, _, -, -, -, -, hresult⟩ := handshake_run_of_userpassReply hreply hcut.2
      exact hresult
    have hending := (h _ clientStream resetScript).2
    simp only [play_thenRequest, hsync, hasync] at hending
    exact absurd hending (by decide)
  · intro huser σ st s
    have hrun : (handshake syncPolicy opt t).play st s = (handshake asyncPolicy opt t).play st s :=
      handshake_run_policy_congr st s fun got e hreply => by
        rw [(exists_of_userpassReply hreply).1] at huser
        cases huser
    rw [play_thenRequest, play_thenRequest, hrun]
    exact ⟨rfl, rfl⟩

theorem isUserpass_authOptions : (authOptions socks).isUserpass = socks.hasUserinfo := by
  cases huser : socks.hasUserinfo <;> simp [authOptions, huser, AuthOptions.none,
    AuthOptions.userpass]

/-- The two over SOCKS5. -/
theorem connectV5With_alike_iff (hopt : (authOptions socks).Fits)
    (hfits : target.hostType = .name →
      (Target.domain ⟨target.encodedHost, defaultPort target⟩).Fits)
    (haddress : target.hostType = .ipv4 ∨ target.hostType = .ipv6 →
      (getEndpointUnchecked target).isSome = true) :
    Alike (connectV5With target socks (connect memory) .requests)
      (connectV5With target socks asyncConnect .idle) ↔
      ¬target.Unsupported ∧ socks.hasUserinfo = false := by
  have hhandshake : ∀ t : Target, t.Fits →
      (Alike (thenRequest (connect memory t (authOptions socks)))
        (thenRequest (asyncConnect t (authOptions socks))) ↔ socks.hasUserinfo = false) := by
    intro t ht
    rw [connect_eq_handshake memory hopt ht, asyncConnect_eq, Mode.connect_eq _ _ hopt ht,
      ← isUserpass_authOptions]
    exact handshake_alike_iff _ _
  have hendpoint : (getEndpointUnchecked target).isSome = true →
      (Alike
        (match getEndpointUnchecked target with
          | none => .pure .thrown
          | some ep => thenRequest (connect memory (.endpoint ep) (authOptions socks)))
        (match getEndpointUnchecked target with
          | none => .pure .thrown
          | some ep => thenRequest (asyncConnect (.endpoint ep) (authOptions socks))) ↔
        socks.hasUserinfo = false) := by
    intro hsome
    obtain ⟨ep, hep⟩ := Option.isSome_iff_exists.mp hsome
    rw [hep]
    exact hhandshake _ (Target.fits_of_endpoint ep)
  rw [connectV5With, connectV5With, Url.Unsupported]
  cases htype : target.hostType with
  | name => simpa using hhandshake _ (hfits htype)
  | ipv4 => simpa using hendpoint (haddress (Or.inl htype))
  | ipv6 => simpa using hendpoint (haddress (Or.inr htype))
  | none => exact iff_of_false not_alike_unsupported (by simp)
  | ipvfuture => exact iff_of_false not_alike_unsupported (by simp)

/-- There is no doubt what the clients are to do: over SOCKS5, they have an address or a name, and
no credentials. -/
def Settled (net : Network) (version : Version) (target socks : Url) : Prop :=
  match version with
  | .socks4 => UnambiguousTarget net target
  | .socks5 => ¬target.Unsupported ∧ socks.hasUserinfo = false

/-- **When the clients do the same**, on every stream, up to the HTTP request. Over SOCKS4, for
addresses, and for names that are not resolved or have one IPv4 address at most, but some address.
Over SOCKS5, for names and addresses, if they have no credentials: with credentials, they part
where the reply to these is cut short. -/
theorem clients_agree_iff
    (hparse : parseUrlsWith none targetStr socksStr = .ok (version, target, socks))
    (hreach : reachSocksWith net socks "resolve" none = none)
    (hopt : version = .socks5 → (authOptions socks).Fits)
    (hfits : version = .socks5 → target.hostType = .name →
      (Target.domain ⟨target.encodedHost, defaultPort target⟩).Fits)
    (haddress : target.hostType = .ipv4 ∨ target.hostType = .ipv6 →
      (getEndpointUnchecked target).isSome = true)
    (hport : ∀ ep ∈ (net.resolveTarget target.encodedHost (portToString (defaultPort target))).2,
      ep.port = defaultPort target) :
    Alike (socksRequest net memory targetStr socksStr) (SocksClient.run net targetStr socksStr) ↔
      Settled net version target socks := by
  rw [socksRequest, SocksClient.run, SocksClient.parseUrls, hparse, parseUrlsWith_ok hparse]
  dsimp only
  rw [SocksClient.doProxyResolve, hreach, reachSocksWith_eq_none hreach]
  cases version with
  | socks4 => exact connectV4With_alike_iff hport
  | socks5 => exact connectV5With_alike_iff (hopt rfl) (hfits rfl) haddress

/-- A name with two addresses. -/
def sampleNetwork : Network where
  resolveSocks _ _ := (.ok, [])
  connect _ := .ok
  resolveTarget _ _ := (.ok, [⟨.v4 ⟨![10, 0, 0, 1]⟩, 80⟩, ⟨.v4 ⟨![10, 0, 0, 2]⟩, 80⟩])

def sampleTargetUrl : Url where
  scheme := "http"
  schemeId := .http
  hostType := .name
  encodedHost := [0x61, 0x62]

def sampleSocksUrl : Url where
  scheme := "socks4"
  hostType := .ipv4
  encodedHost := []
  ipv4Address := some ⟨![127, 0, 0, 1]⟩

theorem parse_sample : parseUrlsWith none (.ok sampleTargetUrl) (.ok sampleSocksUrl) =
    .ok (.socks4, sampleTargetUrl, sampleSocksUrl) := by
  simp [parseUrlsWith, sampleSocksUrl, sampleTargetUrl, socksVersion]

theorem clients_agree_iff_sample :
    ¬Alike (socksRequest sampleNetwork (Vector.replicate bufferSize 0) (.ok sampleTargetUrl)
        (.ok sampleSocksUrl))
      (SocksClient.run sampleNetwork (.ok sampleTargetUrl) (.ok sampleSocksUrl)) := by
  rw [clients_agree_iff parse_sample rfl (by simp) (by simp) (by simp [sampleTargetUrl])
    (by simp [sampleNetwork, sampleTargetUrl, defaultPort])]
  rintro (h | ⟨-, h⟩)
  · exact absurd h (by decide)
  · exact absurd h (by decide)

/-! ### A refusal, and the end of the stream -/

section Masked

variable {ws : List (WriteEvent ErrorCode)} {evs : List (ReadEvent ErrorCode)}

/-- The reply is read. -/
theorem handshakeV4_replied (a : EndpointV4) (socksUser : Bytes) {bs : Bytes} (hcut : Cuts evs bs)
    (hlen : bs.length = 8) (hws : Script.WritesOk ws) :
    ∃ ws', Script.WritesOk ws' ∧
      ((handshakeV4 a socksUser).play clientStream ⟨evs, ws⟩).result = decodeReplyV4 bs .ok ∧
      ((handshakeV4 a socksUser).play clientStream ⟨evs, ws⟩).rest = ⟨[], ws'⟩ := by
  obtain ⟨e, ws', hwrite, he, hws'⟩ :=
    Script.write_ok ErrorCode.failed_eof (requestV4Bytes a socksUser) evs hws
  have hread : clientStream.read transferAll 8 ⟨evs ++ [], ws'⟩ = ⟨bs, .ok, ⟨[], ws'⟩⟩ :=
    Script.read_cuts ErrorCode.failed_eof
      (fun x _ hx => by rw [transferAll_ask_ok, defaultMaxTransferSize]; omega)
      (Nat.le_of_eq hlen) (Or.inl hlen) hcut [] ws'
  rw [List.append_nil] at hread
  refine ⟨ws', hws', ?_⟩
  rw [Client.play, handshakeV4, Prog.run_write hwrite, if_neg (by simpa using he),
    Prog.run_read hread]
  exact ⟨rfl, rfl⟩

/-- Nothing is read. -/
theorem handshakeV4_closed (a : EndpointV4) (socksUser : Bytes) (hws : Script.WritesOk ws) :
    ∃ ws', Script.WritesOk ws' ∧
      ((handshakeV4 a socksUser).play clientStream ⟨[], ws⟩).result
        = (makeErrorCode .badReplySize, default) ∧
      ((handshakeV4 a socksUser).play clientStream ⟨[], ws⟩).rest = ⟨[], ws'⟩ := by
  obtain ⟨e, ws', hwrite, he, hws'⟩ :=
    Script.write_ok ErrorCode.failed_eof (requestV4Bytes a socksUser) [] hws
  have hread : clientStream.read transferAll 8 ⟨[], ws'⟩ = ⟨[], .eof, ⟨[], ws'⟩⟩ := by
    have hask : 0 < (transferAll : Cond ErrorCode).ask [] .ok := by decide
    rw [Asio.Stream.read, errorLike_ok, Asio.Stream.readLoop_of_ask _ (by simp) hask]
    exact Asio.Stream.readLoop_of_stop _ (Or.inr (Cond.ask_of_failed _ _ _ ErrorCode.failed_eof))
  refine ⟨ws', hws', ?_⟩
  rw [Client.play, handshakeV4, Prog.run_write hwrite, if_neg (by simpa using he),
    Prog.run_read hread]
  exact ⟨rfl, rfl⟩

theorem started_handshakeV4 (st : Asio.Stream ErrorCode σ) (targetHost : EndpointV4)
    (socksUser : Bytes) (s : σ) : started ((handshakeV4 targetHost socksUser).play st s).trace =
      [requestV4Bytes targetHost socksUser] := by
  have h := handshakeV4_transcript st targetHost socksUser s
  rw [Client.runOn_eq_play] at h
  exact h.started_eq

/-- Every attempt after the end of the stream is made, and fails. -/
theorem attempts_closed (hne : as ≠ []) (hws : Script.WritesOk ws) :
    ((attempts targetPort socksUser ec as).play clientStream ⟨[], ws⟩).result
        = (makeErrorCode .badReplySize, default) ∧
      started ((attempts targetPort socksUser ec as).play clientStream ⟨[], ws⟩).trace
        = as.map fun a => requestV4Bytes ⟨a, targetPort⟩ socksUser := by
  induction as generalizing ec ws with
  | nil => exact absurd rfl hne
  | cons a as ih =>
    obtain ⟨ws', hws', hresult, hrest⟩ :=
      handshakeV4_closed ⟨a, targetPort⟩ socksUser hws
    rw [attempts, Client.play_bind, hresult, hrest]
    dsimp only
    rw [if_pos (by decide), started_append, started_handshakeV4]
    cases as with
    | nil => exact ⟨rfl, rfl⟩
    | cons b as =>
      obtain ⟨hlast, hstarted⟩ := ih (List.cons_ne_nil _ _) hws'
      exact ⟨hlast, congrArg (requestV4Bytes ⟨a, targetPort⟩ socksUser :: ·) hstarted⟩

/-- **A refusal is not reported, if there is another address**: a server that refuses closes the
stream, all further attempts find it closed, and that is what is reported. The asynchronous client
reports the refusal. -/
theorem refusal_masked (bs : Bytes) (hcut : Cuts evs bs) (hlen : bs.length = 8)
    (hrefused : (decodeReplyV4 bs .ok).1.failed = true) (hws : Script.WritesOk ws)
    (hec : ec.failed = false) (hmany : 2 ≤ (ipv4Addresses eps).length)
    (hport : ∀ ep ∈ eps, ep.port = targetPort) :
    ((resolveAndConnectV4 (ec, eps) targetPort socksUser).play clientStream ⟨evs, ws⟩).result
        = (makeErrorCode .badReplySize, default) ∧
      started
          ((resolveAndConnectV4 (ec, eps) targetPort socksUser).play clientStream ⟨evs, ws⟩).trace
        = ((ipv4Addresses eps).map fun a => requestV4Bytes ⟨a, targetPort⟩ socksUser) ∧
      ((SocksClient.onResolved socksUser (ec, eps)).play clientStream ⟨evs, ws⟩).result
        = .failed (some (decodeReplyV4 bs .ok).1) "socks_connect" := by
  have honResolved : SocksClient.onResolved socksUser (ec, eps) =
      SocksClient.onResolved.go socksUser eps := by
    rw [SocksClient.onResolved, if_neg (by simp [hec])]
  rw [resolveAndConnectV4_eq hec, honResolved, go_eq hport]
  obtain ⟨a, b, as, hips⟩ : ∃ a b as, ipv4Addresses eps = a :: b :: as := by
    rcases hips : ipv4Addresses eps with _ | ⟨a, _ | ⟨b, as⟩⟩
    · exact absurd (hips ▸ hmany) (by decide)
    · exact absurd (hips ▸ hmany) (by simp)
    · exact ⟨a, b, as, rfl⟩
  obtain ⟨ws', hws', hresult, hrest⟩ :=
    handshakeV4_replied ⟨a, targetPort⟩ socksUser hcut hlen hws
  rw [hips]
  dsimp only
  rw [attempts, Client.play_bind, play_thenRequest, hresult, hrest]
  dsimp only
  rw [if_pos hrefused, ClientEnding.ofCompletion, if_pos hrefused, started_append,
    started_handshakeV4]
  obtain ⟨hlast, hstarted⟩ := attempts_closed (List.cons_ne_nil b as) hws'
  exact ⟨hlast, congrArg (requestV4Bytes ⟨a, targetPort⟩ socksUser :: ·) hstarted, rfl⟩

end Masked

theorem refusal_masked_sample :
    ((resolveAndConnectV4 (sampleNetwork.resolveTarget [] "") 80 []).play clientStream
        rejectedV4).result = (makeErrorCode .badReplySize, default) ∧
      ((SocksClient.onResolved [] (sampleNetwork.resolveTarget [] "")).play clientStream
        rejectedV4).result =
        .failed (some (makeErrorCode .requestRejectedOrFailed)) "socks_connect" := by
  have hcut : Cuts rejectedV4.reads [0x00, 91, 0, 0, 0, 0, 0, 0] :=
    ⟨by simp [rejectedV4, ReadEvent.chunk], rfl⟩
  exact And.imp_right And.right (refusal_masked _ hcut rfl (by decide) (List.forall_mem_nil _) rfl
    (by decide) (by simp))

/-! ### What precedes the request -/

theorem ofCompletion_eq_requests_iff : ClientEnding.ofCompletion c = .requests ↔
    c.1.failed = false := by
  rw [ClientEnding.ofCompletion]
  split_ifs with hc
  · exact iff_of_false (by simp) (by simp [hc])
  · exact iff_of_true rfl (Bool.not_eq_true _ ▸ hc)

/-- The client goes on to the HTTP request exactly if this holds, or the last thing it has done is
of this kind. -/
def RequestsIff (p : Client ClientEnding) (X : Prop) (P : IoStep → Prop) : Prop :=
  ∀ (σ : Type) (st : Asio.Stream ErrorCode σ) (s : σ),
    (p.play st s).result = .requests ↔ X ∨ EndsWith (p.play st s).trace P

section RequestsIff

variable {X : Prop} {P : IoStep → Prop} {p : Client ClientEnding} {e : ClientEnding}

theorem requestsIff_pure (h : e = .requests ↔ X) : RequestsIff (.pure e) X P := fun _ st s => by
  rw [Client.play_pure, or_iff_left not_endsWith_nil]
  exact h

theorem RequestsIff.of_not (h : RequestsIff p False P) (hX : ¬X) : RequestsIff p X P :=
  fun σ st s => by
    rw [or_iff_right hX, h σ st s, false_or]

theorem requestsIff_handshake (policy : UserpassPolicy) (opt : AuthOptions) (t : Target) :
    RequestsIff (thenRequest (handshake policy opt t)) False SuccessRead := fun σ st s => by
  rw [play_thenRequest, ofCompletion_eq_requests_iff, false_or]
  exact (handshake_transcript st s).not_failed_iff

theorem requestsIff_handshakeV4 (a : EndpointV4) (user : Bytes) :
    RequestsIff (thenRequest (handshakeV4 a user)) False GrantRead := fun σ st s => by
  have h := (handshakeV4_transcript st a user s).not_failed_iff
  rwa [play_thenRequest, ofCompletion_eq_requests_iff, false_or]

end RequestsIff

/-- Over SOCKS5. -/
theorem requestsIff_connectV5With {policy : UserpassPolicy}
    {connect : Target → AuthOptions → Client Completion}
    (hconnect : ∀ t : Target, t.Fits → connect t (authOptions socks) =
      handshake policy (authOptions socks) t)
    (hfits : target.hostType = .name →
      (Target.domain ⟨target.encodedHost, defaultPort target⟩).Fits) (unsupported : ClientEnding) :
    RequestsIff (connectV5With target socks connect unsupported)
      (target.Unsupported ∧ unsupported = .requests) SuccessRead := by
  have hendpoint : RequestsIff (match getEndpointUnchecked target with
      | none => .pure .thrown
      | some ep => thenRequest (connect (.endpoint ep) (authOptions socks))) False SuccessRead := by
    cases getEndpointUnchecked target with
    | none => exact requestsIff_pure (by simp)
    | some ep =>
      dsimp only
      rw [hconnect _ (Target.fits_of_endpoint ep)]
      exact requestsIff_handshake _ _ _
  rw [connectV5With]
  cases htype : target.hostType with
  | name =>
    refine RequestsIff.of_not ?_ (by simp [Url.Unsupported, htype])
    dsimp only
    rw [hconnect _ (hfits htype)]
    exact requestsIff_handshake _ _ _
  | ipv4 => exact hendpoint.of_not (by simp [Url.Unsupported, htype])
  | ipv6 => exact hendpoint.of_not (by simp [Url.Unsupported, htype])
  | none => exact requestsIff_pure (by simp [Url.Unsupported, htype])
  | ipvfuture => exact requestsIff_pure (by simp [Url.Unsupported, htype])

/-- Over SOCKS4. -/
theorem requestsIff_connectV4With {X : Prop}
    {resolved : ErrorCode × List Endpoint → Client ClientEnding}
    {connectV4 : EndpointV4 → Bytes → Client Completion} (hconnect : connectV4 = handshakeV4)
    (hresolved : RequestsIff (resolved (net.resolveTarget target.encodedHost
      (portToString (defaultPort target)))) X GrantRead) (unsupported : ClientEnding) :
    RequestsIff (connectV4With net target socks connectV4 resolved unsupported)
      (target.hostType = .name ∧ X ∨ target.Unsupported ∧ unsupported = .requests)
      GrantRead := by
  have hendpoint : RequestsIff (match getEndpointUnchecked target with
      | some ⟨.v4 a, port⟩ => thenRequest (connectV4 ⟨a, port⟩ socks.encodedUser)
      | _ => .pure .thrown) False GrantRead := by
    rw [hconnect]
    rcases getEndpointUnchecked target with _ | ⟨a | a, port⟩
    · exact requestsIff_pure (by simp)
    · exact requestsIff_handshakeV4 _ _
    · exact requestsIff_pure (by simp)
  rw [connectV4With]
  cases htype : target.hostType with
  | name => simpa [Url.Unsupported, htype] using hresolved
  | ipv4 => exact hendpoint.of_not (by simp [Url.Unsupported, htype])
  | ipv6 => exact hendpoint.of_not (by simp [Url.Unsupported, htype])
  | none => exact requestsIff_pure (by simp [Url.Unsupported, htype])
  | ipvfuture => exact requestsIff_pure (by simp [Url.Unsupported, htype])

theorem requestsIff_resolveAndConnectV4 (answer : ErrorCode × List Endpoint) :
    RequestsIff (thenRequest (resolveAndConnectV4 answer targetPort socksUser))
      (answer.1.failed = false ∧ answer.2 = []) GrantRead := fun σ st s => by
  rw [play_thenRequest, ofCompletion_eq_requests_iff]
  exact resolveAndConnectV4_not_failed_iff answer targetPort socksUser st s

theorem requestsIff_go (eps : List Endpoint) :
    RequestsIff (SocksClient.onResolved.go socksUser eps) False GrantRead := by
  induction eps with
  | nil => exact requestsIff_pure (by simp)
  | cons ep eps ih =>
    obtain ⟨a | a, port⟩ := ep
    · rw [SocksClient.onResolved.go, asyncConnectV4_eq_handshakeV4]
      exact requestsIff_handshakeV4 _ _
    · exact ih

theorem requestsIff_onResolved (answer : ErrorCode × List Endpoint) :
    RequestsIff (SocksClient.onResolved socksUser answer) False GrantRead := by
  rw [SocksClient.onResolved]
  split_ifs
  · exact requestsIff_pure (by simp)
  · exact requestsIff_go _

/-- What a client that goes on must have read. -/
def Version.Granted : Version → IoStep → Prop
  | .socks4 => GrantRead
  | .socks5 => SuccessRead

/-- There is nothing that the synchronous client asks the SOCKS server for: the target is neither a
name nor an address, or a name without an address. -/
def Unasked (net : Network) (version : Version) (target : Url) : Prop :=
  target.Unsupported ∨ version = .socks4 ∧ target.hostType = .name ∧
    (net.resolveTarget target.encodedHost (portToString (defaultPort target))).1.failed = false ∧
    (net.resolveTarget target.encodedHost (portToString (defaultPort target))).2 = []

/-- **What precedes the HTTP request**: the asynchronous client goes on to it exactly if the SOCKS
server has said that it is connected. So does the synchronous client, unless there is nothing it
asks for: then it goes on to send the SOCKS server a request that is meant for the target. -/
theorem requests_iff
    (hparse : parseUrlsWith none targetStr socksStr = .ok (version, target, socks))
    (hreach : reachSocksWith net socks "resolve" none = none)
    (hopt : version = .socks5 → (authOptions socks).Fits)
    (hfits : version = .socks5 → target.hostType = .name →
      (Target.domain ⟨target.encodedHost, defaultPort target⟩).Fits) :
    RequestsIff (SocksClient.run net targetStr socksStr) False version.Granted ∧
      RequestsIff (socksRequest net memory targetStr socksStr) (Unasked net version target)
        version.Granted := by
  rw [socksRequest, SocksClient.run, SocksClient.parseUrls, hparse, parseUrlsWith_ok hparse]
  dsimp only
  rw [SocksClient.doProxyResolve, hreach, reachSocksWith_eq_none hreach]
  cases version with
  | socks5 =>
    have hasync : RequestsIff (SocksClient.doSocksConnect net .socks5 target socks) _ SuccessRead :=
      requestsIff_connectV5With (fun t ht => Mode.async.connect_eq _ (hopt rfl) ht) (hfits rfl)
        .idle
    have hsync : RequestsIff (connectV5With target socks (connect memory) .requests) _
        SuccessRead :=
      requestsIff_connectV5With (fun t ht => Mode.sync.connect_eq memory (hopt rfl) ht) (hfits rfl)
        .requests
    exact ⟨by simpa [Version.Granted] using hasync, by simpa [Version.Granted, Unasked] using hsync⟩
  | socks4 =>
    have hasync : RequestsIff (SocksClient.doSocksConnect net .socks4 target socks) _ GrantRead :=
      requestsIff_connectV4With (funext₂ asyncConnectV4_eq_handshakeV4)
        (requestsIff_onResolved _) .idle
    have hsync : RequestsIff (connectV4With net target socks connectV4 (fun answer => thenRequest
        (resolveAndConnectV4 answer (defaultPort target) socks.encodedUser)) .requests) _
        GrantRead :=
      requestsIff_connectV4With (funext₂ connectV4_eq_handshakeV4)
        (requestsIff_resolveAndConnectV4 _) .requests
    exact ⟨by simpa [Version.Granted] using hasync,
      by simpa [Version.Granted, Unasked, or_comm] using hsync⟩

/-- What `sampleNetwork` is asked over SOCKS5. -/
def sampleSocks5Url : Url := { sampleSocksUrl with scheme := "socks5" }

theorem requests_iff_sample :
    RequestsIff (SocksClient.run sampleNetwork (.ok sampleTargetUrl) (.ok sampleSocks5Url)) False
        SuccessRead ∧
      RequestsIff (socksRequest sampleNetwork (Vector.replicate bufferSize 0) (.ok sampleTargetUrl)
          (.ok sampleSocks5Url))
        (Unasked sampleNetwork .socks5 sampleTargetUrl) SuccessRead := by
  have hparse : parseUrlsWith none (.ok sampleTargetUrl) (.ok sampleSocks5Url) =
      .ok (.socks5, sampleTargetUrl, sampleSocks5Url) := by
    simp [parseUrlsWith, sampleSocks5Url, socksVersion]
  exact requests_iff hparse rfl (fun _ => ⟨by decide, by decide⟩) (fun _ _ => by decide)

end Socks
