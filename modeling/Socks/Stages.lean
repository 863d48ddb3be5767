import Socks.OnlyComplete
import Socks.SessionV4
import Socks.Asio.Handlers

/-!
# What a connection of the server is for

The handlers of a connection read, write, connect and report. Behind that is a small machine: the
first message decides on a version; a greeting is answered with a method, and a user/pass message
may follow; a request leads to one connection to a target, and that to one reply. At each stage it
is settled what the server does next, and what becomes of it whatever the answer is. The stages say
so without a buffer, a condition or a parser, in terms of the messages that a client writes.

`start_performs` says that the code is an implementation of the stages. It assumes nothing of who
answers: a target socket may be open after a connection has been asked for, or not.

## Main definitions

* `Socks.Stage` — how far a connection is
* `Socks.stageMonitor` — what is to be done at each stage, and where it leads
* `Socks.Identifies`, `Socks.AsksV4` — user/pass messages, and the start of a SOCKS4 request

## Main results

* `Socks.start_performs` — the handlers do what is to be done, and come from stage to stage
-/

namespace Socks

open Asio SocksConnection

variable {bs got : Bytes} {ec : ErrorCode} {self : SocksConnection}

/-! ### Messages -/

/-- A user/pass message, and anything behind it. -/
def Identifies (got : Bytes) : Prop :=
  ∃ user pass rest : Bytes, user.length ≤ 255 ∧ pass.length ≤ 255 ∧
    got = 0x01 :: UInt8.ofNat user.length :: (user ++ UInt8.ofNat pass.length :: (pass ++ rest))

/-- The two lengths of a user/pass message fit into it. -/
theorem identifies_iff : Identifies got ↔ byteAt got 0 = 0x01 ∧
    (byteAt got 1).toNat + 3 + (byteAt got (2 + (byteAt got 1).toNat)).toNat ≤ got.length := by
  constructor
  · rintro ⟨user, pass, rest, huser, hpass, rfl⟩
    have hpw : byteAt (0x01 :: UInt8.ofNat user.length ::
        (user ++ UInt8.ofNat pass.length :: (pass ++ rest))) (2 + user.length)
        = UInt8.ofNat pass.length := by
      rw [Nat.add_comm]
      exact byteAt_append_length _ _ _
    refine ⟨rfl, ?_⟩
    rw [byteAt_cons_succ, byteAt_cons_zero,
      UInt8.toNat_ofNat_of_lt' (Nat.lt_of_le_of_lt huser (by decide)), hpw,
      UInt8.toNat_ofNat_of_lt' (Nat.lt_of_le_of_lt hpass (by decide))]
    simp only [List.length_cons, List.length_append]
    omega
  · rintro ⟨h0, hlen⟩
    match got with
    | [] => exact absurd h0 (by decide)
    | [_] => exact absurd hlen (by rw [List.length_singleton]; omega)
    | b0 :: b1 :: tail =>
      obtain rfl : b0 = 0x01 := h0
      simp only [byteAt_cons_zero, byteAt_cons_succ, Nat.add_comm 2, List.length_cons] at hlen
      have hid : b1.toNat < tail.length := by omega
      have hsplit := List.take_append_drop b1.toNat tail
      rw [List.drop_eq_getElem_cons hid] at hsplit
      refine ⟨tail.take b1.toNat, (tail.drop (b1.toNat + 1)).take tail[b1.toNat].toNat,
        (tail.drop (b1.toNat + 1)).drop tail[b1.toNat].toNat, ?_, ?_, ?_⟩
      · have := b1.toNat_lt
        rw [List.length_take]
        omega
      · have := tail[b1.toNat].toNat_lt
        rw [List.length_take]
        omega
      · have hpw : tail[b1.toNat] = byteAt tail b1.toNat := (byteAt_eq_getElem hid).symm
        rw [List.take_append_drop, List.length_take_of_le hid.le, UInt8.ofNat_toNat,
          List.length_take_of_le, UInt8.ofNat_toNat, hsplit]
        rw [hpw, List.length_drop]
        omega

/-- The start of a SOCKS4 request for a host, eight bytes at least. -/
def AsksV4 (targetHost : EndpointV4) (got : Bytes) : Prop :=
  8 ≤ got.length ∧ ∃ socksUser, got <+: requestV4Bytes targetHost socksUser

/-- It is what the parser accepts. -/
theorem acceptedV4_iff : AcceptedV4 got ↔ ∃ targetHost, AsksV4 targetHost got := by
  constructor
  · rintro ⟨h0, h1, h8⟩
    refine ⟨⟨⟨![byteAt got 4, byteAt got 5, byteAt got 6, byteAt got 7]⟩,
      (byteAt got 2).toUInt16 <<< 8 ||| (byteAt got 3).toUInt16⟩, h8, got.drop 8, [0x00], ?_⟩
    rw [requestV4Bytes, portBytes_join]
    conv_lhs => rw [← List.take_append_drop 8 got, take_eq_ofFn h8]
    simp [AddressV4.toBytes, List.ofFn_succ, h0, h1]
  · rintro ⟨targetHost, h8, socksUser, hpre⟩
    exact ⟨byteAt_of_prefix_lt hpre (by omega), byteAt_of_prefix_lt hpre (by omega), h8⟩

/-! ### The other two parsers -/

/-- What `parse_socks_greeting` can go on with. -/
inductive GreetingCase (self : SocksConnection) : Server → Prop
  | choose {methods : List UInt8} (hlen : methods.length ≤ 255)
      (h : self.buffer = greetingMethodsBytes methods) :
      GreetingCase self (doServerChoice { self with serverChoice := chosenMethod methods })
  | reject (h : ¬∃ methods : List UInt8, methods.length ≤ 255 ∧
      self.buffer = greetingMethodsBytes methods) (ec : ErrorCode) (what : String) :
      GreetingCase self (returnFail ec what)

/-- **The parser of greetings chooses a method exactly on greetings.** -/
theorem parseSocksGreeting_cases (self : SocksConnection) :
    GreetingCase self (parseSocksGreeting self) := by
  by_cases h : ∃ methods : List UInt8, methods.length ≤ 255 ∧
      self.buffer = greetingMethodsBytes methods
  · obtain ⟨methods, hlen, hbuf⟩ := h
    have hself : self = { self with buffer := greetingMethodsBytes methods } := by rw [← hbuf]
    have hparse := parseSocksGreeting_greeting self hlen
    rw [← hself] at hparse
    rw [hparse]
    have hchoose : GreetingCase self _ := .choose hlen hbuf
    rwa [hbuf] at hchoose
  · have hnot : ¬(self.buffer ≠ [] ∧ byteAt self.buffer 0 = 0x05 ∧ self.buffer.length ≠ 1 ∧
        (byteAt self.buffer 1).toNat = self.buffer.length - 2) := by
      rintro ⟨hne, h0, hone, hcount⟩
      generalize self.buffer = buffer at *
      match buffer with
      | [] => exact hne rfl
      | [_] => exact hone rfl
      | b0 :: b1 :: methods =>
        obtain rfl : b0 = 0x05 := h0
        have hcount' : b1.toNat = methods.length := hcount
        have hlt := b1.toNat_lt
        refine h ⟨methods, by omega, ?_⟩
        rw [greetingMethodsBytes, ← hcount', UInt8.ofNat_toNat]
        rfl
    rw [parseSocksGreeting]
    refine iteInduction (motive := GreetingCase self) (fun _ => .reject h _ _) fun hne => ?_
    refine iteInduction (motive := GreetingCase self) (fun _ => .reject h _ _) fun hver => ?_
    refine iteInduction (motive := GreetingCase self) (fun _ => .reject h _ _) fun hone => ?_
    refine iteInduction (motive := GreetingCase self) (fun _ => .reject h _ _) fun hcount => ?_
    exact absurd ⟨hne, not_not.mp hver, hone, not_not.mp hcount⟩ hnot

/-- What `parse_userpass_greeting` can go on with. -/
inductive UserpassCase (self : SocksConnection) : Server → Prop
  | accept (h : Identifies self.buffer) :
      UserpassCase self (.write [0x01, 0x00] fun _ ec =>
        if ec.failed then returnFail ec "Cannot write userpass response"
        else doReadConnectRequest { self with buffer := [0x01, 0x00] })
  | reject (h : ¬Identifies self.buffer) (ec : ErrorCode) (what : String) :
      UserpassCase self (returnFail ec what)

/-- **The parser of user/pass messages accepts exactly these**, and anything behind them. -/
theorem parseUserpassGreeting_cases (self : SocksConnection) :
    UserpassCase self (parseUserpassGreeting self) := by
  have hfew : ∀ {n}, self.buffer.length < n →
      n ≤ (byteAt self.buffer 1).toNat + 3 +
        (byteAt self.buffer (2 + (byteAt self.buffer 1).toNat)).toNat →
      ¬Identifies self.buffer := by
    intro n hlt hle h
    have := (identifies_iff.mp h).2
    omega
  rw [parseUserpassGreeting]
  refine iteInduction (motive := UserpassCase self) (fun hnil => .reject ?_ _ _) fun _ => ?_
  · exact hfew (n := 1) (by rw [hnil]; decide) (by omega)
  refine iteInduction (motive := UserpassCase self)
    (fun hver => .reject (fun h => hver (identifies_iff.mp h).1) _ _) fun hver => ?_
  refine iteInduction (motive := UserpassCase self)
    (fun hone => .reject (hfew (n := 2) (by omega) (by omega)) _ _) fun _ => ?_
  refine iteInduction (motive := UserpassCase self)
    (fun hlt => .reject (hfew hlt (by omega)) _ _) fun _ => ?_
  refine iteInduction (motive := UserpassCase self)
    (fun hlt => .reject (hfew hlt (by omega)) _ _) fun _ => ?_
  refine iteInduction (motive := UserpassCase self)
    (fun hlt => .reject (hfew hlt (by omega)) _ _) fun hlen => ?_
  exact .accept (identifies_iff.mpr ⟨not_not.mp hver, by omega⟩)

/-! ### Stages -/

/-- How far a connection is. -/
inductive Stage
  /-- The first message is to be read. -/
  | opening
  /-- It is a greeting, and is to be answered with this method. -/
  | choosing (method : UInt8)
  /-- The user/pass message is to be read. -/
  | identifying
  /-- It is to be accepted. -/
  | accepting
  /-- The CONNECT request is to be read. -/
  | awaiting
  /-- It is for a name, which is to be resolved. -/
  | resolving (ep : DomainEndpoint)
  /-- A target is to be connected to. -/
  | connecting (version : Version) (target : Endpoint)
  /-- The request is to be granted. -/
  | granting (version : Version) (bndEp : Endpoint)
  /-- It is to be refused. -/
  | refusing (version : Version)
  /-- A failure is to be reported, with this error if one is given. -/
  | reporting (ec : Option ErrorCode) (next : Stage)
  /-- Nothing is to be done any more. -/
  | ended (e : Ending)

/-- The reply that refuses. -/
def Version.refusal : Version → Bytes
  | .socks4 => [0x04, 91, 0x00, 0x00, 0x00, 0x00, 0x00, 0x00]
  | .socks5 => [0x05, 0x04, 0x00, 0x01, 0x00, 0x00, 0x00, 0x00, 0x00, 0x00]

/-- The reply that grants. -/
def Version.grant (bndEp : Endpoint) : Version → Bytes
  | .socks4 => replyV4Bytes 0x04 (boundEndpointV4 bndEp)
  | .socks5 => replyBytes bndEp

namespace Stage

/-- An operation has failed. That is reported, and nothing follows. -/
def drop (ec : ErrorCode) : Stage := .reporting (some ec) (.ended .dropped)

/-- A message is not understood. That is reported, and nothing follows. -/
def reject : Stage := .reporting none (.ended .dropped)

/-- A request is not understood. That is reported, and there is no target socket to reply about. -/
def refuse : Stage := .reporting none (.ended .thrown)

open Classical in
/-- What the first message leads to. -/
noncomputable def opened (got : Bytes) : Stage :=
  if h : ∃ methods : List UInt8, methods.length ≤ 255 ∧ got = greetingMethodsBytes methods then
    .choosing (chosenMethod h.choose)
  else if h : ∃ targetHost, AsksV4 targetHost got then .connecting .socks4 h.choose.toEndpoint
  else if byteAt got 0 = 0x04 then .refuse
  else .reject

open Classical in
/-- What the user/pass message leads to. -/
noncomputable def identified (got : Bytes) : Stage := if Identifies got then .accepting else .reject

open Classical in
/-- What the CONNECT request leads to. -/
noncomputable def requested (got : Bytes) : Stage :=
  if h : ∃ target : Target, target.Short ∧ target.Unscoped ∧ got = requestBytes target then
    match h.choose with
    | .endpoint ep => .connecting .socks5 ep
    | .domain ep => .resolving ep
  else if got = [] then .reject
  else .refuse

/-- What a target socket is replied with. -/
def replied (version : Version) (answer : ServerAnswer) : Stage :=
  match answer.localEndpoint with
  | none => .ended .thrown
  | some bndEp => if answer.ec.failed then .refusing version else .granting version bndEp

/-- What a connection to the target leads to. -/
def connected (version : Version) (answer : ServerAnswer) : Stage :=
  if answer.ec.failed then .reporting (some answer.ec) (.replied version answer)
  else .replied version answer

end Stage

/-- What is to be done at each stage. -/
inductive Stage.Does : Stage → Asio.Step ErrorCode ServerCall ServerAnswer → Prop
  | opening (got : Bytes) (ec : ErrorCode) : Does .opening (.read 258 got ec)
  | choosing (method : UInt8) (n : ℕ) (ec : ErrorCode) :
      Does (.choosing method) (.write [0x05, method] n ec)
  | identifying (got : Bytes) (ec : ErrorCode) : Does .identifying (.read 513 got ec)
  | accepting (n : ℕ) (ec : ErrorCode) : Does .accepting (.write [0x01, 0x00] n ec)
  | awaiting (got : Bytes) (ec : ErrorCode) : Does .awaiting (.read 263 got ec)
  | resolving (ep : DomainEndpoint) (answer : ServerAnswer) :
      Does (.resolving ep) (.call (.resolve ep.domain (portToString ep.port)) answer)
  | connecting (version : Version) (target : Endpoint) (answer : ServerAnswer) :
      Does (.connecting version target) (.call (.connect target) answer)
  | granting (version : Version) (bndEp : Endpoint) (n : ℕ) (ec : ErrorCode) :
      Does (.granting version bndEp) (.write (version.grant bndEp) n ec)
  | refusing (version : Version) (n : ℕ) (ec : ErrorCode) :
      Does (.refusing version) (.write version.refusal n ec)
  | reporting {reported : Option ErrorCode} {ec : ErrorCode} (h : ∀ e, reported = some e → ec = e)
      (next : Stage) (what : String) (t : Option Subject) (a : ServerAnswer) :
      Does (.reporting reported next) (.call (.fail ec what t) a)

/-- What is to be done at each stage, and where it leads. -/
noncomputable def stageMonitor : ServerMonitor Stage where
  Allows := Stage.Does
  next
    | .opening, .read _ got ec => if ec.failed then .drop ec else .opened got
    | .choosing method, .write _ _ ec =>
      if ec.failed then .drop ec
      else if method = 0xFF then .drop ec
      else if method = 0x02 then .identifying
      else .awaiting
    | .identifying, .read _ got ec => if ec.failed then .drop ec else .identified got
    | .accepting, .write _ _ ec => if ec.failed then .drop ec else .awaiting
    | .awaiting, .read _ got ec => if ec.failed then .drop ec else .requested got
    | .resolving _, .call _ answer =>
      if answer.ec.failed then .reporting (some answer.ec) (.ended .thrown)
      else .connecting .socks5 answer.endpoint
    | .connecting version _, .call _ answer => .connected version answer
    | .granting _ _, .write _ _ ec => if ec.failed then .drop ec else .ended .relay
    | .refusing _, .write _ _ ec => if ec.failed then .drop ec else .ended .closed
    | .reporting _ next, _ => next
    | stage, _ => stage
  Accepts stage e := stage = .ended e

/-! ### The handlers -/

variable {stage : Stage}

/-- From this stage on, the program does what is to be done. -/
abbrev Performs (stage : Stage) (p : Server) : Prop := p.Meets stageMonitor AnyAnswer stage

theorem performs_fail {ec' : ErrorCode} {what : String} {t : Option Subject} {next : Server}
    {reported : Option ErrorCode} (hec : ∀ e, reported = some e → ec' = e)
    (h : Performs stage next) : Performs (.reporting reported stage) (fail ec' what t next) :=
  fun _ _ => ⟨Stage.Does.reporting hec _ _ _ _, h⟩

theorem performs_drop (ec : ErrorCode) (what : String) :
    Performs (.drop ec) (returnFail ec what) :=
  performs_fail (fun _ he => Option.some.inj he) rfl

theorem performs_reject (ec : ErrorCode) (what : String) : Performs .reject (returnFail ec what) :=
  performs_fail (by simp) rfl

theorem performs_doConnectReply_none (h : self.targetSocket = none) (rep : UInt8) :
    Performs (.ended .thrown) (self.doConnectReply rep) := by
  rw [doConnectReply, h]
  exact rfl

theorem performs_doConnectReplyV4_none (h : self.targetSocket = none) (rep : UInt8) :
    Performs (.ended .thrown) (self.doConnectReplyV4 rep) := by
  rw [doConnectReplyV4, h]
  exact rfl

theorem performs_doConnectReply_grant {bndEp : Endpoint} (h : self.targetSocket = some bndEp) :
    Performs (.granting .socks5 bndEp) (self.doConnectReply 0x00) := by
  rw [doConnectReply, h]
  dsimp only
  rw [connectReply_granted]
  intro n ec
  refine ⟨Stage.Does.granting .socks5 _ _ _, ?_⟩
  change Performs (if ec.failed then .drop ec else .ended .relay) _
  dsimp only
  split_ifs with hfailed hrep
  · exact performs_drop _ _
  · exact rfl
  · exact absurd rfl hrep

theorem performs_doConnectReply_refuse {bndEp : Endpoint} (h : self.targetSocket = some bndEp) :
    Performs (.refusing .socks5) (self.doConnectReply 0x04) := by
  rw [doConnectReply, h]
  dsimp only
  rw [connectReply_of_ne _ (by decide)]
  intro n ec
  refine ⟨Stage.Does.refusing .socks5 _ _, ?_⟩
  change Performs (if ec.failed then .drop ec else .ended .closed) _
  dsimp only
  split_ifs with hfailed hrep
  · exact performs_drop _ _
  · exact absurd hrep (by decide)
  · exact rfl

theorem performs_doConnectReplyV4_grant {bndEp : Endpoint} (h : self.targetSocket = some bndEp) :
    Performs (.granting .socks4 bndEp) (self.doConnectReplyV4 90) := by
  rw [doConnectReplyV4, h]
  dsimp only
  rw [connectReplyV4_eq]
  intro n ec
  refine ⟨Stage.Does.granting .socks4 _ _ _, ?_⟩
  change Performs (if ec.failed then .drop ec else .ended .relay) _
  dsimp only
  split_ifs with hfailed hrep
  · exact performs_drop _ _
  · exact rfl
  · exact absurd (Or.inr ⟨rfl, rfl⟩) hrep

theorem performs_doConnectReplyV4_refuse {bndEp : Endpoint} (h : self.targetSocket = some bndEp) :
    Performs (.refusing .socks4) (self.doConnectReplyV4 91) := by
  rw [doConnectReplyV4, h]
  dsimp only
  rw [connectReplyV4_of_ne _ (by decide)]
  intro n ec
  refine ⟨Stage.Does.refusing .socks4 _ _, ?_⟩
  change Performs (if ec.failed then .drop ec else .ended .closed) _
  dsimp only
  split_ifs with hfailed hrep
  · exact performs_drop _ _
  · exact absurd hrep (by decide)
  · exact rfl

theorem performs_doTargetConnect (self : SocksConnection) :
    Performs (.connecting .socks5 self.target) self.doTargetConnect := by
  intro answer _
  refine ⟨Stage.Does.connecting _ _ _, ?_⟩
  change Performs (.connected .socks5 answer) _
  dsimp only
  rw [Stage.connected, Stage.replied]
  cases hsocket : answer.localEndpoint with
  | none =>
    split_ifs
    · exact performs_fail (fun _ he => Option.some.inj he) (performs_doConnectReply_none rfl _)
    · exact performs_doConnectReply_none rfl _
  | some bndEp =>
    dsimp only
    split_ifs
    · exact performs_fail (fun _ he => Option.some.inj he) (performs_doConnectReply_refuse rfl)
    · exact performs_doConnectReply_grant rfl

theorem performs_doTargetConnectV4 (self : SocksConnection) :
    Performs (.connecting .socks4 self.target) self.doTargetConnectV4 := by
  intro answer _
  refine ⟨Stage.Does.connecting _ _ _, ?_⟩
  change Performs (.connected .socks4 answer) _
  dsimp only
  rw [Stage.connected, Stage.replied]
  cases hsocket : answer.localEndpoint with
  | none =>
    split_ifs
    · exact performs_fail (fun _ he => Option.some.inj he) (performs_doConnectReplyV4_none rfl _)
    · exact performs_doConnectReplyV4_none rfl _
  | some bndEp =>
    dsimp only
    split_ifs
    · exact performs_fail (fun _ he => Option.some.inj he) (performs_doConnectReplyV4_refuse rfl)
    · exact performs_doConnectReplyV4_grant rfl

/-- A request that is rejected. -/
theorem performs_refuse (h : self.targetSocket = none) (ec : ErrorCode) (what : String)
    (rep : UInt8) : Performs .refuse (self.rejectConnect ec what rep) :=
  performs_fail (by simp) (performs_doConnectReply_none h rep)

theorem performs_refuseV4 (h : self.targetSocket = none) (ec : ErrorCode) (what : String) :
    Performs .refuse (self.rejectConnectV4 ec what) :=
  performs_fail (by simp) (performs_doConnectReplyV4_none h 91)

theorem Target.short_endpoint (ep : Endpoint) : (Target.endpoint ep).Short := by simp [Short]

theorem Target.short_domain_iff {ep : DomainEndpoint} :
    (Target.domain ep).Short ↔ ep.domain.length ≤ 255 := by simp [Short]

/-- What is requested, if it is the request for a target. -/
theorem exists_requested {target : Target} (hshort : target.Short) :
    ∃ target' : Target, target'.Short ∧ target'.Unscoped ∧
      requestBytes target = requestBytes target' := by
  obtain ⟨a | a, port⟩ | ep := target
  · exact ⟨_, hshort, by simp [Target.Unscoped], rfl⟩
  · refine ⟨.endpoint ⟨.v6 ⟨a.bytes, 0⟩, port⟩, Target.short_endpoint _, ?_, rfl⟩
    rintro _ _ ⟨⟩
    rfl
  · exact ⟨_, hshort, by simp [Target.Unscoped], rfl⟩

theorem performs_parseSocksConnect (self : SocksConnection) (h : self.targetSocket = none) :
    Performs (.requested self.buffer) self.parseSocksConnect := by
  rw [Stage.requested]
  split_ifs with htarget hnil
  · obtain ⟨hshort, hunscoped, hbuf⟩ := htarget.choose_spec
    generalize htarget.choose = target at hshort hunscoped hbuf
    have hself : self = { self with buffer := requestBytes target } := by rw [← hbuf]
    rw [hself, parseSocksConnect_request]
    obtain ⟨a | a, port⟩ | ep := target
    · dsimp only
      rw [parseConnectIpV4_request]
      exact performs_doTargetConnect _
    · dsimp only
      rw [parseConnectIpV6_request]
      have hscope : (⟨a.bytes, 0⟩ : AddressV6) = a := by rw [← hunscoped a port rfl]
      rw [hscope]
      exact performs_doTargetConnect _
    · dsimp only
      rw [parseConnectDomain_request self (hshort ep rfl)]
      intro answer _
      refine ⟨Stage.Does.resolving _ _, ?_⟩
      change Performs (if answer.ec.failed then .reporting (some answer.ec) (.ended .thrown)
        else .connecting .socks5 answer.endpoint) _
      dsimp only
      split_ifs
      · refine performs_fail (fun _ he => Option.some.inj he) (performs_doConnectReply_none ?_ _)
        exact h
      · exact performs_doTargetConnect _
  · rw [parseSocksConnect, if_pos hnil]
    exact performs_reject _ _
  · have hcase := parseSocksConnect_cases self
    have hincomplete : ¬CompleteRequest self.buffer := by
      rw [completeRequest_iff]
      rintro ⟨target, hshort, hbuf⟩
      obtain ⟨target', hshort', hunscoped', heq⟩ := exists_requested hshort
      exact htarget ⟨target', hshort', hunscoped', hbuf.trans heq⟩
    generalize self.parseSocksConnect = p at hcase
    cases hcase with
    | empty hnil' => exact absurd hnil' hnil
    | reject _ _ ec what rep => exact performs_refuse h ec what rep
    | address hcomplete => exact absurd hcomplete hincomplete
    | name hcomplete => exact absurd hcomplete hincomplete

theorem performs_doReadConnectRequest (self : SocksConnection) (h : self.targetSocket = none) :
    Performs .awaiting self.doReadConnectRequest := by
  rw [doReadConnectRequest_eq]
  intro got ec _ _
  refine ⟨Stage.Does.awaiting _ _, ?_⟩
  change Performs (if ec.failed then .drop ec else .requested got) _
  dsimp only
  cases hec : ec.failed with
  | false => exact performs_parseSocksConnect { self with buffer := got } h
  | true => exact performs_drop _ _

theorem performs_parseUserpassGreeting (self : SocksConnection) (h : self.targetSocket = none) :
    Performs (.identified self.buffer) self.parseUserpassGreeting := by
  have hcase := parseUserpassGreeting_cases self
  generalize self.parseUserpassGreeting = p at hcase
  rw [Stage.identified]
  cases hcase with
  | reject hnot ec what =>
    rw [if_neg hnot]
    exact performs_reject _ _
  | accept hid =>
    rw [if_pos hid]
    intro n ec
    refine ⟨Stage.Does.accepting _ _, ?_⟩
    change Performs (if ec.failed then .drop ec else .awaiting) _
    dsimp only
    split_ifs
    · exact performs_drop _ _
    · exact performs_doReadConnectRequest _ h

theorem performs_doUserpassGreet (self : SocksConnection) (h : self.targetSocket = none) :
    Performs .identifying self.doUserpassGreet := by
  rw [doUserpassGreet_eq]
  intro got ec _ _
  refine ⟨Stage.Does.identifying _ _, ?_⟩
  change Performs (if ec.failed then .drop ec else .identified got) _
  dsimp only
  cases hec : ec.failed with
  | false => exact performs_parseUserpassGreeting { self with buffer := got } h
  | true => exact performs_drop _ _

theorem performs_doServerChoice (self : SocksConnection) (h : self.targetSocket = none) :
    Performs (.choosing self.serverChoice) self.doServerChoice := by
  intro n ec
  refine ⟨Stage.Does.choosing _ _ _, ?_⟩
  change Performs (if ec.failed then .drop ec else if self.serverChoice = 0xFF then .drop ec
    else if self.serverChoice = 0x02 then .identifying else .awaiting) _
  dsimp only
  split_ifs
  · exact performs_drop _ _
  · exact performs_drop _ _
  · exact performs_doUserpassGreet _ h
  · exact performs_doReadConnectRequest _ h

theorem performs_parseSocksGreeting (got : Bytes) (h0 : byteAt got 0 = 0x05) :
    Performs (.opened got) (parseSocksGreeting { buffer := got }) := by
  have hcase := parseSocksGreeting_cases { buffer := got }
  generalize parseSocksGreeting { buffer := got } = p at hcase
  rw [Stage.opened]
  cases hcase with
  | reject hnot ec what =>
    have hv4 : ¬∃ targetHost, AsksV4 targetHost got := by
      rw [← acceptedV4_iff]
      exact fun h => absurd (h0.symm.trans h.1) (by decide)
    rw [dif_neg hnot, dif_neg hv4, if_neg (by rw [h0]; decide)]
    exact performs_reject _ _
  | @choose methods hlen hbuf =>
    have hgreeting : ∃ methods : List UInt8, methods.length ≤ 255 ∧
        got = greetingMethodsBytes methods := ⟨methods, hlen, hbuf⟩
    rw [dif_pos hgreeting]
    have hmethods : hgreeting.choose = methods :=
      (List.cons.inj (List.cons.inj (hgreeting.choose_spec.2.symm.trans hbuf)).2).2
    rw [hmethods]
    exact performs_doServerChoice { buffer := got, serverChoice := chosenMethod methods } rfl

theorem performs_parseSocksConnectV4 (got : Bytes) (h0 : byteAt got 0 = 0x04) :
    Performs (.opened got) (parseSocksConnectV4 { buffer := got }) := by
  have hgreeting : ¬∃ methods : List UInt8, methods.length ≤ 255 ∧
      got = greetingMethodsBytes methods := by
    rintro ⟨methods, -, rfl⟩
    exact absurd h0 (by decide : (0x05 : UInt8) ≠ 0x04)
  rw [Stage.opened, dif_neg hgreeting]
  split_ifs with hv4
  · obtain ⟨h8, socksUser, hpre⟩ := hv4.choose_spec
    have hparse := parseSocksConnectV4_of_prefix hpre h8
    rw [hparse]
    exact performs_doTargetConnectV4 _
  · have hcase := parseSocksConnectV4_cases { buffer := got }
    generalize parseSocksConnectV4 { buffer := got } = p at hcase
    cases hcase with
    | empty hnil =>
      obtain rfl : got = [] := hnil
      exact absurd h0 (by decide)
    | reject _ _ ec what => exact performs_refuseV4 rfl ec what
    | address haccepted => exact absurd (acceptedV4_iff.mp haccepted) hv4

/-- **The handlers do what is to be done at each stage, and come from stage to stage.** -/
theorem start_performs : Performs .opening (SocksConnection.start {}) := by
  rw [start_eq_onFirstRead]
  intro got ec _ _
  refine ⟨Stage.Does.opening _ _, ?_⟩
  change Performs (if ec.failed then .drop ec else .opened got) _
  rw [onFirstRead]
  cases hec : ec.failed with
  | true => exact performs_drop _ _
  | false =>
    simp only [Bool.not_false, Bool.true_and, beq_iff_eq, if_neg Bool.false_ne_true]
    split_ifs with h5 h4
    · exact performs_parseSocksGreeting got h5
    · exact performs_parseSocksConnectV4 got h4
    · have hgreeting : ¬∃ methods : List UInt8, methods.length ≤ 255 ∧
          got = greetingMethodsBytes methods := by
        rintro ⟨methods, -, rfl⟩
        exact h5 rfl
      have hv4 : ¬∃ targetHost, AsksV4 targetHost got := by
        rw [← acceptedV4_iff]
        exact fun h => h4 h.1
      rw [Stage.opened, dif_neg hgreeting, dif_neg hv4, if_neg h4]
      exact performs_reject _ _

end Socks
