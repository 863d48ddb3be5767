import Socks.Outcome
import Socks.FirstMessage
import Socks.ConnectV4

/-!
# A SOCKS4 session

A SOCKS4 client has one message for the server, and the read that takes it may end too early:
after its first byte, if that comes alone; at a zero within the user id; when the buffer is full.
In the first of these cases the server gives up, and in the other two it connects, and leaves the
rest of the user id for the relay, which sends it to the target.

Client and server agree all the same. Whatever the user id and whatever the chunks, the server
connects to the endpoint of the client, and to no other; they never deadlock; and the client knows
whether the server relays. What it does not know is where the target socket is bound, because it
looks for the address one byte before where the reply has it.

No operation fails here but by the end of the stream, and a server that does not relay sends
nothing any more. That a server which closes with a part of the request unread has the connection
reset, and the client its error, is left out.

## Main definitions

* `Socks.sessionV4` — a SOCKS4 client and a fresh connection
* `Socks.OutcomeV4` — the ends of such a session
* `Socks.grantedEndpoint` — the endpoint that the client returns

## Main results

* `Socks.never_deadlock_v4`, `Socks.target_agreed_v4`, `Socks.outcome_agreed_v4`
* `Socks.relay_takes_over_v4_iff` — the relay gets nothing of the handshake, exactly when the user
  id has no zero and at most 249 bytes
-/

namespace Socks

open Asio SocksConnection

/-! ### Outcomes -/

/-- The endpoint as a client is to connect to it. -/
def EndpointV4.toEndpoint (ep : EndpointV4) : Endpoint := ⟨.v4 ep.address, ep.port⟩

/-- The endpoint as a SOCKS4 reply carries it: without an address, if that is not an IPv4
address. -/
def boundEndpointV4 : Endpoint → EndpointV4
  | ⟨.v4 a, port⟩ => ⟨a, port⟩
  | ⟨.v6 _, port⟩ => ⟨⟨fun _ => 0x00⟩, port⟩

/-- The endpoint that the client makes of it: its address is the low byte of the port and the first
three bytes of the address. -/
def grantedEndpoint (bndEp : Endpoint) : Endpoint :=
  let ep := boundEndpointV4 bndEp
  let ip := ep.address.toBytes
  ⟨.v4 ⟨![(ep.port &&& 0xFF).toUInt8, byteAt ip 0, byteAt ip 1, byteAt ip 2]⟩, ep.port⟩

/-- How a session for `targetHost` can end. -/
inductive OutcomeV4 (targetHost : EndpointV4) : Completion → Ending → ServerLog → Prop
  /-- The server has connected, and relays. -/
  | granted {answer bndEp} (hec : answer.ec.failed = false)
      (hbnd : answer.localEndpoint = some bndEp) :
      OutcomeV4 targetHost (makeErrorCode .requestGranted, grantedEndpoint bndEp) .relay
        [(.connect targetHost.toEndpoint, answer)]
  /-- The server could not connect. -/
  | rejected {answer reported} (hec : answer.ec.failed = true) :
      OutcomeV4 targetHost (makeErrorCode .requestRejectedOrFailed, default) .closed
        [(.connect targetHost.toEndpoint, answer),
          (.fail answer.ec "Cannot connect to target" (some (.endpoint targetHost.toEndpoint)),
            reported)]
  /-- The server had no target socket to reply about. -/
  | unanswered {log}
      (h : ∀ ep answer, (ServerCall.connect ep, answer) ∈ log → answer.localEndpoint = none) :
      OutcomeV4 targetHost (makeErrorCode .badReplySize, default) .thrown log

/-- A question that a request for `targetHost` may raise. -/
def ServerCall.AgreesWithV4 (targetHost : EndpointV4) : ServerCall → Prop
  | .connect ep => ep = targetHost.toEndpoint
  | .resolve _ _ => False
  | .fail _ _ _ => True

/-- The first read of the server may end with `x` in front of `left`, and go on. -/
def MayStop (x : Bytes) : Prop := Terminated x x.length ∨ 258 ≤ x.length

/-- What client and server are held to. -/
def sessionContractV4 (targetHost : EndpointV4) (socksUser : Bytes) :
    Contract Completion ServerCall ServerAnswer Ending where
  silent b := b ≠ .relay
  agree := OutcomeV4 targetHost
  leave b left := b = .relay → ∃ x, x ++ left = requestV4Bytes targetHost socksUser ∧ MayStop x
  good log := ∀ entry ∈ log, entry.1.AgreesWithV4 targetHost

/-! ### The reply -/

/-- The last read of the client. -/
def replyReadV4 : LastRead ErrorCode Completion := ⟨transferAll, 8, decodeReplyV4⟩

theorem waits_replyReadV4 : Waits replyReadV4.cond replyReadV4.cap :=
  ⟨by decide, by rw [replyReadV4, transferAll_ask_ok]; decide⟩

variable {targetHost : EndpointV4} {socksUser : Bytes} {log : ServerLog} {m x : Bytes} {b : Ending}

/-- Where it ends. -/
theorem stops_replyReadV4 : replyReadV4.Stops x ↔ 8 ≤ x.length := by
  rw [LastRead.Stops, replyReadV4, waits_after_iff, transferAll_ask_ok]
  simp [defaultMaxTransferSize]

/-- What the server writes when it has connected. -/
theorem connectReplyV4_eq (buffer : Bytes) (bndEp : Endpoint) :
    connectReplyV4 buffer 90 bndEp = replyV4Bytes 0x04 (boundEndpointV4 bndEp) := by
  obtain ⟨a | a, port⟩ := bndEp
  · exact connectReplyV4_granted buffer ⟨a, port⟩
  · have hzero := connectReplyV4_granted buffer ⟨⟨fun _ => 0x00⟩, port⟩
    rw [← show boundEndpointV4 ⟨.v6 a, port⟩ = ⟨⟨fun _ => 0x00⟩, port⟩ from rfl] at hzero
    rw [← hzero]
    rfl

/-- **A message of eight bytes is understood**, whatever follows it. -/
theorem understood_eight (hm : m.length = 8)
    (h : OutcomeV4 targetHost (decodeReplyV4 m .ok) b log) :
    Understood (sessionContractV4 targetHost socksUser) .eof replyReadV4 m b log where
  stop rest x _ hx hcap hstop := by
    have hlen : x.length = 8 := Nat.le_antisymm hcap (stops_replyReadV4.mp hstop)
    obtain rfl := eq_of_prefix_length hx (hlen.trans hm.symm)
    exact ⟨List.prefix_rfl, h⟩
  eof rest _ hstop := by
    refine absurd (stops_replyReadV4.mpr ?_) hstop
    rw [List.length_append, hm]
    exact Nat.le_add_right _ _

/-- **Silence is understood.** -/
theorem understood_nothing_v4 (hb : b ≠ .relay)
    (h : OutcomeV4 targetHost (makeErrorCode .badReplySize, default) b log) :
    Understood (sessionContractV4 targetHost socksUser) .eof replyReadV4 [] b log where
  stop rest x hrest hx hcap hstop := by
    rw [hrest hb] at hx
    obtain rfl := List.prefix_nil.mp hx
    exact absurd (stops_replyReadV4.mp hstop) (by decide)
  eof rest hrest _ := by
    rw [hrest hb]
    exact h

/-- What the client makes of a grant. -/
theorem decodeReplyV4_granted (bndEp : Endpoint) :
    decodeReplyV4 (replyV4Bytes 0x04 (boundEndpointV4 bndEp)) .ok
      = (makeErrorCode .requestGranted, grantedEndpoint bndEp) := by
  have hlen : (replyV4Bytes 0x04 (boundEndpointV4 bndEp)).length = 8 := by
    simp [replyV4Bytes, portBytes]
  rw [decodeReplyV4, if_neg (by decide), if_neg (not_not.mpr hlen),
    parseReplyV4_replyV4Bytes (Or.inr rfl)]
  rfl

/-! ### The server concludes -/

/-- The server writes its reply. -/
theorem writing_doConnectReplyV4 (self : SocksConnection) {bndEp : Endpoint}
    (h : self.targetSocket = some bndEp) (rep : UInt8) :
    Writing (.pure (if rep = 90 then .relay else .closed)) (connectReplyV4 self.buffer rep bndEp)
      (self.doConnectReplyV4 rep) := by
  have hreply : connectReplyV4 self.buffer rep bndEp ≠ [] ∧
      byteAt (connectReplyV4 self.buffer rep bndEp) 0 = 0x04 ∧
      byteAt (connectReplyV4 self.buffer rep bndEp) 1 = rep := by
    by_cases hrep : rep = 90
    · rw [hrep, connectReplyV4_eq]
      exact ⟨nofun, rfl, rfl⟩
    · rw [connectReplyV4_of_ne _ hrep]
      exact ⟨nofun, rfl, rfl⟩
  rw [doConnectReplyV4, h]
  refine .more hreply.1 ?_
  simp only [errorLike_ok, ErrorCode.failed_ok, Bool.false_eq_true, if_false, hreply.2]
  by_cases hrep : rep = 90
  · simp [hrep]
  · simp [hrep]

/-- A server that concludes, with `left` left unread. -/
abbrev ConcludesV4 (targetHost : EndpointV4) (socksUser left : Bytes) (p : Server)
    (log : ServerLog) : Prop :=
  Concludes (sessionContractV4 targetHost socksUser) .eof replyReadV4 left p log

variable {left : Bytes}

/-- Without a target socket. -/
theorem concludes_unanswered_v4 (self : SocksConnection) (hsocket : self.targetSocket = none)
    (hlog : ∀ ep answer, (ServerCall.connect ep, answer) ∈ log → answer.localEndpoint = none)
    (rep : UInt8) : ConcludesV4 targetHost socksUser left (self.doConnectReplyV4 rep) log := by
  rw [doConnectReplyV4, hsocket]
  exact .flush .done (fun h => absurd h (by decide))
    (understood_nothing_v4 (by decide) (.unanswered hlog))

/-- From the target connection on. -/
theorem concludes_doTargetConnectV4 (self : SocksConnection)
    (htarget : self.target = targetHost.toEndpoint)
    (hleft : ∃ x, x ++ left = requestV4Bytes targetHost socksUser ∧ MayStop x) :
    ConcludesV4 targetHost socksUser left self.doTargetConnectV4 [] := by
  have hgood : ∀ answer, (sessionContractV4 targetHost socksUser).good
      ([] ++ [(.connect self.target, answer)]) := by
    intro answer entry hentry
    obtain rfl := List.mem_singleton.mp hentry
    exact htarget
  have hgood' : ∀ answer reported, (sessionContractV4 targetHost socksUser).good
      ([] ++ [(.connect self.target, answer)] ++ [(.fail answer.ec "Cannot connect to target"
        (some (.endpoint self.target)), reported)]) := by
    intro answer reported entry hentry
    rcases List.mem_append.mp hentry with hold | hnew
    · exact hgood answer entry hold
    · obtain rfl := List.mem_singleton.mp hnew
      trivial
  refine .call hgood fun answer => ?_
  dsimp only
  cases hsocket : answer.localEndpoint with
  | none =>
    split_ifs with hfail
    · refine .call (hgood' answer) fun reported => concludes_unanswered_v4 _ rfl ?_ _
      intro ep answer' hmem
      simp only [List.nil_append, List.cons_append, List.mem_cons, Prod.mk.injEq, reduceCtorEq,
        false_and, List.not_mem_nil, or_false] at hmem
      rw [hmem.2, hsocket]
    · refine concludes_unanswered_v4 _ rfl ?_ _
      intro ep answer' hmem
      obtain ⟨-, rfl⟩ := Prod.mk.inj (List.mem_singleton.mp hmem)
      exact hsocket
  | some bndEp =>
    split_ifs with hfail
    · refine .call (hgood' answer) fun reported => ?_
      have hwriting := writing_doConnectReplyV4 { self with targetSocket := some bndEp } rfl 91
      rw [connectReplyV4_of_ne _ (by decide)] at hwriting
      refine .flush hwriting (fun h => absurd h (by decide)) (understood_eight rfl ?_)
      change OutcomeV4 targetHost (makeErrorCode .requestRejectedOrFailed, default) .closed _
      rw [htarget]
      exact .rejected hfail
    · have hwriting := writing_doConnectReplyV4 { self with targetSocket := some bndEp } rfl 90
      rw [connectReplyV4_eq] at hwriting
      refine .flush hwriting (fun _ => hleft) (understood_eight rfl ?_)
      rw [decodeReplyV4_granted, htarget]
      exact .granted (Bool.not_eq_true _ ▸ hfail) hsocket

/-! ### The first read -/

/-- `parse_socks_connect_v4` on what has come of a request, if it is eight bytes at least. -/
theorem parseSocksConnectV4_of_prefix (hx : x <+: requestV4Bytes targetHost socksUser)
    (h8 : 8 ≤ x.length) : parseSocksConnectV4 { buffer := x }
      = doTargetConnectV4 { buffer := x, target := targetHost.toEndpoint } := by
  have hbytes : requestV4Bytes targetHost socksUser = (0x04 : UInt8) :: 0x01 ::
      (targetHost.port >>> 8).toUInt8 :: (targetHost.port &&& 0xFF).toUInt8 ::
      targetHost.address.bytes 0 :: targetHost.address.bytes 1 :: targetHost.address.bytes 2 ::
      targetHost.address.bytes 3 :: (socksUser ++ [0x00]) := by
    simp [requestV4Bytes, portBytes, AddressV4.toBytes, List.ofFn_succ]
  have hip : (![targetHost.address.bytes 0, targetHost.address.bytes 1,
      targetHost.address.bytes 2, targetHost.address.bytes 3] : Fin 4 → UInt8)
      = targetHost.address.bytes := by
    funext i
    fin_cases i <;> rfl
  have hbyte : ∀ i, i < 8 → byteAt x i = byteAt (requestV4Bytes targetHost socksUser) i :=
    fun i hi => byteAt_of_prefix_lt hx (Nat.lt_of_lt_of_le hi h8)
  have hne : x ≠ [] := fun hnil => by
    rw [hnil] at h8
    exact absurd h8 (by decide)
  simp only [parseSocksConnectV4, hbyte 0 (by decide), hbyte 1 (by decide), hbyte 2 (by decide),
    hbyte 3 (by decide), hbyte 4 (by decide), hbyte 5 (by decide), hbyte 6 (by decide),
    hbyte 7 (by decide), hbytes, byteAt_cons_zero, byteAt_cons_succ, hip, join16_split]
  rw [if_neg hne, if_neg (not_not.mpr rfl), if_neg (by omega), if_neg (not_not.mpr rfl),
    if_pos h8]
  rfl

/-- One byte of a request is rejected, and there is no target socket to reply about. -/
theorem concludes_one :
    ConcludesV4 targetHost socksUser left (parseSocksConnectV4 { buffer := [0x04] }) [] := by
  refine .call ?_ fun reported => concludes_unanswered_v4 _ rfl ?_ 91
  · intro answer entry hentry
    obtain rfl := List.mem_singleton.mp hentry
    trivial
  · intro ep answer hmem
    cases List.mem_singleton.mp hmem

/-- The read goes on, but after one byte, until there is a zero or the buffer is full. -/
theorem waits_greetingCond_iff (hx : x <+: requestV4Bytes targetHost socksUser)
    (h2 : 2 ≤ x.length) :
    Waits ((greetingCond freshBuffer).after x) (258 - x.length) ↔ ¬MayStop x := by
  have hfresh : freshBuffer.length = 258 := List.length_replicate
  rw [waits_after_iff, MayStop, not_or, Nat.not_le, errorLike_ok]
  rcases Nat.lt_or_ge x.length 258 with hlt | hge
  · rw [greetingCond_of_socks4 ErrorCode.failed_ok (byteAt_of_prefix_lt hx (by omega))
      (byteAt_of_prefix_lt hx (by omega)) h2 (by omega), hfresh]
    split_ifs with hterm
    · simp [hterm]
    · exact iff_of_true ⟨hlt, Nat.sub_pos_of_lt hlt⟩ ⟨hterm, hlt⟩
  · exact iff_of_false (fun h => absurd h.1 (by omega)) fun h => absurd h.2 (by omega)

theorem MayStop.nine_le (h : MayStop x) : 9 ≤ x.length := by
  rcases h with ⟨i, h8, hi, -⟩ | h258 <;> omega

/-- The whole request is enough. -/
theorem mayStop_requestV4 : MayStop (requestV4Bytes targetHost socksUser) := by
  have hlen := length_requestV4Bytes targetHost socksUser
  refine Or.inl ⟨8 + socksUser.length, by omega, by omega, ?_⟩
  rw [byteAt_requestV4Bytes]
  exact byteAt_append_length _ _ _

/-- What a server does with the bytes of its first read. -/
def onFirstRead (got : Bytes) (ec : ErrorCode) : Server :=
  if !ec.failed && byteAt got 0 == 0x05 then parseSocksGreeting { buffer := got }
  else if !ec.failed && byteAt got 0 == 0x04 then parseSocksConnectV4 { buffer := got }
  else returnFail ec "Failure to read SOCKS greeting"

theorem start_eq_onFirstRead :
    SocksConnection.start {} = .read (greetingCond freshBuffer) 258 onFirstRead := start_eq

theorem onFirstRead_of_socks4 (h : byteAt x 0 = 0x04) :
    onFirstRead x ok = parseSocksConnectV4 { buffer := x } := by
  simp [onFirstRead, h]

/-- **The first read takes the request**: wherever it ends, the server concludes. -/
theorem takes_requestV4 :
    Takes (sessionContractV4 targetHost socksUser) .eof replyReadV4
      (requestV4Bytes targetHost socksUser) (greetingCond freshBuffer) 258 onFirstRead [] where
  stop x left hx hw := by
    have hpre : x <+: requestV4Bytes targetHost socksUser := ⟨left, hx⟩
    rcases Nat.lt_or_ge x.length 2 with hlt | hge
    · rcases Nat.eq_zero_or_pos x.length with hzero | hpos
      · obtain rfl := List.length_eq_zero_iff.mp hzero
        exact absurd (by decide) hw
      · -- After the first byte alone, the read ends too early.
        obtain ⟨c, rfl⟩ := List.length_eq_one_iff.mp (by omega : x.length = 1)
        obtain rfl : c = 0x04 := byteAt_of_prefix_lt hpre Nat.zero_lt_one
        rw [onFirstRead_of_socks4 rfl]
        exact concludes_one
    · have hstop := not_not.mp (mt (waits_greetingCond_iff hpre hge).mpr hw)
      have h4 : byteAt x 0 = 0x04 := byteAt_of_prefix_lt hpre (by omega)
      rw [onFirstRead_of_socks4 h4,
        parseSocksConnectV4_of_prefix hpre (by have := hstop.nine_le; omega)]
      exact concludes_doTargetConnectV4 _ rfl ⟨x, hx, hstop⟩
  ends := by
    have hlen := length_requestV4Bytes targetHost socksUser
    rw [waits_greetingCond_iff List.prefix_rfl (by omega)]
    exact not_not.mpr mayStop_requestV4

/-! ### The session -/

/-- A SOCKS4 client and a fresh connection. -/
def sessionV4 (mode : Mode) (targetHost : EndpointV4) (socksUser : Bytes) : Session :=
  Net.start (mode.connectV4 targetHost socksUser) (SocksConnection.start {})

/-- **The request leads to the end of the session.** -/
theorem leads_sessionV4 (mode : Mode) (targetHost : EndpointV4) (socksUser : Bytes) :
    Leads (sessionContractV4 targetHost socksUser) .eof replyReadV4 False
      (mode.connectV4 targetHost socksUser) (SocksConnection.start {}) [] := by
  rw [mode.connectV4_eq, start_eq_onFirstRead]
  exact .last (List.cons_ne_nil _ _) rfl takes_requestV4

variable {mode : Mode} {s : Session}

/-- **A SOCKS4 session never deadlocks**, whatever the user id. -/
theorem never_deadlock_v4 (mode : Mode) (targetHost : EndpointV4) (socksUser : Bytes)
    (hrun : Net.Reachable .eof (sessionV4 mode targetHost socksUser) s) : ¬s.Deadlock := by
  intro hdead
  have horderly : Net.OrderlyReachable .eof (· ≠ Ending.relay)
      (sessionV4 mode targetHost socksUser) s := by
    refine .of_reachable hrun fun b hb => ?_
    have hreading := hdead.2.1
    rw [hb] at hreading
    cases hreading
  exact (leads_sessionV4 mode targetHost socksUser).not_deadlock waits_replyReadV4
    (List.forall_mem_nil _) horderly not_false hdead

/-- A session, in steps in which a server that does not relay sends nothing any more. -/
abbrev SessionReachesV4 (mode : Mode) (targetHost : EndpointV4) (socksUser : Bytes)
    (s : Session) : Prop :=
  Net.OrderlyReachable .eof (· ≠ Ending.relay) (sessionV4 mode targetHost socksUser) s

/-- **The server connects to the endpoint of the client, and to no other**, and resolves no name,
whatever the user id, and wherever its first read has ended. -/
theorem target_agreed_v4 (hrun : SessionReachesV4 mode targetHost socksUser s) :
    (∀ entry ∈ s.server.log, entry.1.AgreesWithV4 targetHost) ∧
      ∀ question k, s.server.prog = .call question k → question.AgreesWithV4 targetHost := by
  have hleads := leads_sessionV4 mode targetHost socksUser
  refine ⟨hleads.good_log waits_replyReadV4 (List.forall_mem_nil _) hrun, ?_⟩
  intro question k hprog
  exact hleads.good_call waits_replyReadV4 (List.forall_mem_nil _) hrun hprog {} (question, {})
    (List.mem_append_right _ List.mem_cons_self)

/-- **When a client has returned, the server is done too, and the client knows whether it
relays**, if no operation fails but by the end of the stream. -/
theorem outcome_agreed_v4 (hrun : SessionReachesV4 mode targetHost socksUser s) {c : Completion}
    (hc : s.client.prog = .pure c) :
    ∃ b, s.server.prog = .pure b ∧ OutcomeV4 targetHost c b s.server.log :=
  (leads_sessionV4 mode targetHost socksUser).agreed waits_replyReadV4 (List.forall_mem_nil _) hrun
    hc

/-! ### What the relay finds -/

/-- A request of which the first read may leave a part: it stops with `x`, and no earlier, if the
first two bytes come together. -/
structure CutsShort (targetHost : EndpointV4) (socksUser x left : Bytes) : Prop where
  split : x ++ left = requestV4Bytes targetHost socksUser
  left_ne_nil : left ≠ []
  mayStop : MayStop x
  first : ∀ y, y <+: x → y ≠ x → ¬MayStop y

/-- So it is with a user id that starts with `user`, in which there is no zero. -/
theorem cutsShort_take {user : Bytes} (tail : Bytes) (huser : 0 ∉ user)
    (hsplit : requestV4Bytes targetHost socksUser = requestV4Bytes targetHost user ++ tail)
    (hne : tail ≠ [] ∨ 258 < (requestV4Bytes targetHost user).length) :
    CutsShort targetHost socksUser ((requestV4Bytes targetHost user).take 258)
      ((requestV4Bytes targetHost user).drop 258 ++ tail) where
  split := by rw [hsplit, ← List.append_assoc, List.take_append_drop]
  left_ne_nil := by
    rw [ne_eq, List.append_eq_nil_iff, List.drop_eq_nil_iff]
    rintro ⟨hlen, rfl⟩
    rcases hne with hne | hlong
    · exact hne rfl
    · omega
  mayStop := by
    rcases Nat.lt_or_ge 258 (requestV4Bytes targetHost user).length with hlong | hle
    · exact Or.inr (by rw [List.length_take]; omega)
    · rw [List.take_of_length_le hle]
      exact mayStop_requestV4
  first y hy hne := by
    have hlt : y.length < ((requestV4Bytes targetHost user).take 258).length :=
      Nat.lt_of_le_of_ne hy.length_le fun heq => hne (hy.eq_of_length heq)
    rw [List.length_take] at hlt
    rintro (hterm | hfull)
    · rw [terminated_iff huser (hy.trans (List.take_prefix _ _))] at hterm
      omega
    · omega

/-- A user id with a zero, or of more than 249 bytes. -/
theorem exists_cutsShort (targetHost : EndpointV4) (h : ¬(0 ∉ socksUser ∧ socksUser.length ≤ 249)) :
    ∃ x left, CutsShort targetHost socksUser x left := by
  by_cases hmem : 0 ∈ socksUser
  · obtain ⟨user, rest, rfl, huser⟩ := List.eq_append_cons_of_mem hmem
    refine ⟨_, _, cutsShort_take (rest ++ [0x00]) huser ?_ (Or.inl (by simp))⟩
    simp [requestV4Bytes]
  · have hlong : ¬socksUser.length ≤ 249 := fun hle => h ⟨hmem, hle⟩
    have hlen := length_requestV4Bytes targetHost socksUser
    exact ⟨_, _, cutsShort_take [] hmem (List.append_nil _).symm (Or.inr (by omega))⟩

/-- The server gets as far as the target, with the rest of the request still to be written. -/
theorem CutsShort.reachable {left : Bytes} (h : CutsShort targetHost socksUser x left)
    (mode : Mode) :
    ∃ k : ℕ → ErrorCode → Client Completion, (∀ n, k n ok = replyReadV4.prog) ∧
      Net.Reachable .eof (sessionV4 mode targetHost socksUser) (Net.between (.write left k)
        (doTargetConnectV4 { buffer := x, target := targetHost.toEndpoint }) [] []) := by
  have hpre : x <+: requestV4Bytes targetHost socksUser := ⟨left, h.split⟩
  have hnine := h.mayStop.nine_le
  obtain ⟨y, rfl⟩ : ∃ y, x = 0x04 :: 0x01 :: y := by
    have hstart : [0x04, 0x01] <+: requestV4Bytes targetHost socksUser := ⟨_, rfl⟩
    obtain ⟨y, hy⟩ := List.prefix_of_prefix_length_le hstart hpre (by simp; omega)
    exact ⟨y, hy.symm⟩
  have hwaits : ∀ z, z <+: y → (Waits (((greetingCond freshBuffer).after [0x04, 0x01]).after z)
      (258 - 2 - z.length) ↔ z ≠ y) := by
    intro z hz
    have hz' : [0x04, 0x01] ++ z <+: 0x04 :: 0x01 :: y :=
      (List.prefix_append_right_inj [0x04, 0x01]).mpr hz
    have hcond := waits_greetingCond_iff (hz'.trans hpre) (by simp)
    have hlen : ([0x04, 0x01] ++ z).length = 2 + z.length := List.length_append
    rw [hlen] at hcond
    rw [Cond.after_after, Nat.sub_sub, hcond]
    constructor
    · rintro hgo rfl
      exact hgo h.mayStop
    · exact fun hne => h.first _ hz' fun heq => hne (by simpa using heq)
  have hy : y ≠ [] := by
    rintro rfl
    exact absurd hnine (by decide)
  rw [sessionV4, mode.connectV4_eq, start_eq_onFirstRead, handshakeV4, ← h.split,
    ← parseSocksConnectV4_of_prefix hpre (by omega)]
  have hfirst : Waits ((greetingCond freshBuffer).after [0x04, 0x01]) (258 - 2) := by
    have hw := (hwaits [] List.nil_prefix).mpr hy.symm
    rwa [Cond.after_nil] at hw
  exact ⟨_, fun _ => rfl, Net.reachable_up_part (x := [0x04, 0x01]) (y := y)
    (List.cons_ne_nil _ _) hy h.left_ne_nil (by decide) hfirst hwaits⟩

/-- Where a target socket is bound. -/
def loopback : Endpoint := ⟨.v4 ⟨![127, 0, 0, 1]⟩, 1080⟩

/-- The target has been connected to. -/
def boundV4 : ServerAnswer := { localEndpoint := some loopback }

/-- And the relay begins. -/
theorem CutsShort.relays {left : Bytes} (h : CutsShort targetHost socksUser x left) (mode : Mode) :
    ∃ k : ℕ → ErrorCode → Client Completion, (∀ n, k n ok = replyReadV4.prog) ∧
      SessionReachesV4 mode targetHost socksUser ⟨⟨.write left k, [], [], false⟩,
        ⟨.pure .relay, replyV4Bytes 0x04 (boundEndpointV4 loopback),
          [(.connect targetHost.toEndpoint, boundV4)], false⟩⟩ := by
  obtain ⟨k, hk, hrun⟩ := h.reachable mode
  have hcalled : Net.Reachable .eof (sessionV4 mode targetHost socksUser)
      (Net.between (.write left k) (doConnectReplyV4 ⟨x, 0x00, targetHost.toEndpoint,
        boundV4.localEndpoint⟩ 90) [] [(.connect targetHost.toEndpoint, boundV4)]) :=
    hrun.tail (.server (.call boundV4))
  have hwriting := writing_doConnectReplyV4
    ⟨x, 0x00, targetHost.toEndpoint, boundV4.localEndpoint⟩ rfl 90
  generalize doConnectReplyV4 _ 90 = p at hcalled hwriting
  rw [connectReplyV4_eq] at hwriting
  cases hwriting with
  | more hm hk' =>
    exact ⟨k, hk, (Net.OrderlyReachable.of_reachable hcalled nofun).trans
      (Net.orderlyReachable_told hk')⟩

/-- The client returns, and what is left of the request is on its way to the relay. -/
theorem CutsShort.returns {left : Bytes} (h : CutsShort targetHost socksUser x left)
    (mode : Mode) : SessionReachesV4 mode targetHost socksUser
      ⟨⟨.pure (makeErrorCode .requestGranted, grantedEndpoint loopback), left, [], false⟩,
        ⟨.pure .relay, [], [(.connect targetHost.toEndpoint, boundV4)], false⟩⟩ := by
  obtain ⟨k, hk, hrun⟩ := h.relays mode
  have hwrite : Move .eof ⟨.write left k, [], [], false⟩
      (replyV4Bytes 0x04 (boundEndpointV4 loopback)) false
      ⟨replyReadV4.prog, left, [], false⟩ (replyV4Bytes 0x04 (boundEndpointV4 loopback)) :=
    hk left.length ▸ .writeAll
  have hread : Move ErrorCode.eof (⟨replyReadV4.prog, left, [], false⟩ : Party _ Empty Empty _)
      (replyV4Bytes 0x04 (boundEndpointV4 loopback) ++ []) false
      ⟨.pure (decodeReplyV4 (replyV4Bytes 0x04 (boundEndpointV4 loopback)) .ok), left, [], false⟩
      [] := .readAll (by decide) (stops_replyReadV4.mpr (by decide))
  rw [decodeReplyV4_granted, List.append_nil] at hread
  exact (hrun.tail ⟨.client hwrite, fun _ _ _ => List.suffix_rfl⟩).tail
    ⟨.client hread, fun _ _ _ => List.nil_suffix⟩

/-- **The relay takes over a connection on which there is nothing of the handshake any more,
exactly when the user id has no zero and at most 249 bytes.** Of any other the rest may be left,
for the target. -/
theorem relay_takes_over_v4_iff (mode : Mode) (targetHost : EndpointV4) (socksUser : Bytes) :
    (∀ s, SessionReachesV4 mode targetHost socksUser s → s.server.prog = .pure .relay →
      (∃ c, s.client.prog = .pure c) ∨ s.client.out = [] ∧ s.client.prog.pending = []) ↔
      0 ∉ socksUser ∧ socksUser.length ≤ 249 := by
  constructor
  · intro hclean
    by_contra hbad
    obtain ⟨x, left, h⟩ := exists_cutsShort targetHost hbad
    obtain ⟨k, -, hrun⟩ := h.relays mode
    rcases hclean _ hrun rfl with ⟨c, hc⟩ | ⟨-, hpending⟩
    · cases hc
    · exact h.left_ne_nil hpending
  · rintro ⟨huser, hlen⟩ s hrun hrelay
    have hover := (leads_sessionV4 mode targetHost socksUser).left_over waits_replyReadV4
      (List.forall_mem_nil _) hrun hrelay
    refine hover.imp_right ?_
    rintro ⟨left, hleave, hsuffix⟩
    obtain ⟨x, hsplit, hstop⟩ := hleave rfl
    have hpre : x <+: requestV4Bytes targetHost socksUser := ⟨left, hsplit⟩
    have hlength := length_requestV4Bytes targetHost socksUser
    have hle := hpre.length_le
    have hx : x.length = (requestV4Bytes targetHost socksUser).length := by
      rcases hstop with hterm | hfull
      · exact (terminated_iff huser hpre).mp hterm
      · omega
    obtain rfl : left = [] := by
      rw [← hpre.eq_of_length hx] at hsplit
      exact List.append_right_eq_self.mp hsplit
    exact List.append_eq_nil_iff.mp (List.suffix_nil.mp hsuffix)

/-- A user id of one byte, a zero. -/
theorem exists_cutsShort_zero (targetHost : EndpointV4) :
    ∃ x left, CutsShort targetHost [0x00] x left :=
  exists_cutsShort targetHost fun h => h.1 (List.mem_singleton.mpr rfl)

/-- A target on the same host. -/
def loopbackV4 : EndpointV4 := ⟨⟨![127, 0, 0, 1]⟩, 80⟩

/-- The server is about to connect, and the client has not written all of its request. -/
theorem never_deadlock_v4_zero : ∃ (s : Session) (left : Bytes),
    Net.Reachable .eof (sessionV4 .sync loopbackV4 [0x00]) s ∧
      s.client.prog.pending = left ∧ left ≠ [] ∧ ¬s.Deadlock := by
  obtain ⟨x, left, h⟩ := exists_cutsShort_zero loopbackV4
  obtain ⟨k, -, hrun⟩ := h.reachable .sync
  exact ⟨_, left, hrun, rfl, h.left_ne_nil, never_deadlock_v4 .sync loopbackV4 [0x00] hrun⟩

/-- And it connects to the endpoint of the client. -/
theorem target_agreed_v4_zero : ∃ s : Session,
    SessionReachesV4 .sync loopbackV4 [0x00] s ∧
      (∃ question k, s.server.prog = .call question k) ∧
      ∀ question k, s.server.prog = .call question k → question.AgreesWithV4 loopbackV4 := by
  obtain ⟨x, left, h⟩ := exists_cutsShort_zero loopbackV4
  obtain ⟨k, -, hrun⟩ := h.reachable .sync
  have horderly : SessionReachesV4 .sync loopbackV4 [0x00] _ :=
    Net.OrderlyReachable.of_reachable hrun nofun
  exact ⟨_, horderly, ⟨_, _, rfl⟩, (target_agreed_v4 horderly).2⟩

/-- The client returns where the target socket is bound, and the server relays. -/
theorem outcome_agreed_v4_zero : ∃ s : Session,
    SessionReachesV4 .sync loopbackV4 [0x00] s ∧
      s.client.prog = .pure (makeErrorCode .requestGranted, grantedEndpoint loopback) ∧
      s.server.prog = .pure .relay ∧
      OutcomeV4 loopbackV4 (makeErrorCode .requestGranted, grantedEndpoint loopback) .relay
        s.server.log := by
  obtain ⟨x, left, h⟩ := exists_cutsShort_zero loopbackV4
  have hrun := h.returns .sync
  obtain ⟨b, hb, houtcome⟩ := outcome_agreed_v4 hrun rfl
  obtain rfl := Prog.pure.inj hb
  exact ⟨_, hrun, rfl, rfl, houtcome⟩

end Socks
