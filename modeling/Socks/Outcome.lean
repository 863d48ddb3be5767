import Socks.Dialogue
import Socks.Framing
import Socks.ReplyCodec
import Socks.Rejections
import Socks.Asio.Conclusion

/-!
# What client and server make of a session

A session of a SOCKS5 client with the reference server comes to an end in one of four ways. The
server has connected to the target, and relays; the client has the endpoint that the target socket
is bound to. Or the server relays, but the first bytes from the target come so close behind a reply
with an IPv4 address that the client reads them along with it, and rejects what it has read. Or the
server could not connect, and has said so. Or it ended in an exception, and has said nothing.

The relay sends what it likes. A server that does not relay sends nothing any more: these are the
orderly steps of a net. No operation fails but by the end of the stream.

## Main definitions

* `Socks.Outcome` — the ends of a session
* `Socks.sessionContract` — they are what client and server are held to

## Main results

* `Socks.outcome_agreed` — a session ends so
* `Socks.relay_takes_over` — the relay gets nothing of the handshake
-/

namespace Socks

open Asio SocksConnection

/-! ### Outcomes -/

/-- The endpoint as a reply carries it: without a scope id. -/
def boundEndpoint : Endpoint → Endpoint
  | ⟨.v6 a, port⟩ => ⟨.v6 ⟨a.bytes, 0⟩, port⟩
  | ep => ep

/-- How a session for `target` can end: with what the client returns, with what the server does
then, and with what the server has asked. -/
inductive Outcome (target : Target) : Completion → Ending → ServerLog → Prop
  /-- The server has connected, and relays. -/
  | granted {log ep answer bndEp} (hep : (ServerCall.connect ep).AgreesWith target log)
      (hec : answer.ec.failed = false) (hbnd : answer.localEndpoint = some bndEp) :
      Outcome target (makeErrorCode .succeeded, boundEndpoint bndEp) .relay
        (log ++ [(.connect ep, answer)])
  /-- The same, but the client has read more than the reply. -/
  | overrun {log ep answer a port} (hep : (ServerCall.connect ep).AgreesWith target log)
      (hec : answer.ec.failed = false) (hbnd : answer.localEndpoint = some ⟨.v4 a, port⟩) :
      Outcome target (makeErrorCode .badReplySize, default) .relay
        (log ++ [(.connect ep, answer)])
  /-- The server could not connect. -/
  | unreachable {log ep answer reported} (hep : (ServerCall.connect ep).AgreesWith target log)
      (hec : answer.ec.failed = true) :
      Outcome target (makeErrorCode .hostUnreachable, default) .closed
        (log ++ [(.connect ep, answer),
          (.fail answer.ec "Cannot connect to target" (some (.endpoint ep)), reported)])
  /-- The server had no target socket to reply about. -/
  | unanswered {log}
      (h : ∀ ep answer, (ServerCall.connect ep, answer) ∈ log → answer.localEndpoint = none) :
      Outcome target (makeErrorCode .badReplySize, default) .thrown log

/-- What client and server are held to. -/
def sessionContract (target : Target) : Contract Completion ServerCall ServerAnswer Ending where
  silent b := b ≠ .relay
  agree := Outcome target
  leave _ left := left = []
  good := Agreement target

/-! ### The reply -/

/-- The last read of the client. -/
def replyRead : LastRead ErrorCode Completion := ⟨replyCond [], 22, decodeReply⟩

theorem waits_replyRead : Waits replyRead.cond replyRead.cap := ⟨by decide, by decide⟩

variable {target : Target} {log : ServerLog} {m x : Bytes} {b : Ending}

/-- Where it ends. -/
theorem stops_replyRead :
    replyRead.Stops x ↔ x.length = 10 ∧ byteAt x 3 = 0x01 ∨ 22 ≤ x.length := by
  rw [LastRead.Stops, replyRead, waits_after_iff, replyCond_ask]
  simp only [errorLike_ok, ErrorCode.failed_ok, Bool.false_eq_true, or_false,
    toAddressType_eq_ipV4_iff]
  split_ifs with hten
  · simp [hten]
  · simp only [hten, false_or]
    omega

/-- A success reply with an IPv4 address, and something behind it. -/
theorem decodeReply_overrun (h0 : byteAt x 0 = 0x05) (h1 : byteAt x 1 = 0x00)
    (h3 : byteAt x 3 = 0x01) (hlen : x.length ≠ 10) {e : ErrorCode} (he : e = .ok ∨ e = .eof) :
    decodeReply x e = (makeErrorCode .badReplySize, default) := by
  have hcode : makeErrorCode (.ofReplyCode (toReplyCode 0x00)) = makeErrorCode .succeeded := rfl
  have hsucc : (makeErrorCode .succeeded).isSucceeded = true := rfl
  have hat : toAddressType 0x01 = .ipV4 := rfl
  have hparse : parseReplyV5 x x.length = (default, makeErrorCode .badReplySize) := by
    simp [parseReplyV5, h0, h1, h3, hcode, hsucc, hat, hlen]
  rw [decodeReply, if_neg (by rcases he with rfl | rfl <;> decide), hparse]
  split_ifs <;> rfl

/-- A success reply that carries the endpoint. -/
def replyBytes (ep : Endpoint) : Bytes :=
  Version.socks5.byte :: 0x00 :: 0x00 :: targetHostBytes (.endpoint ep)

/-- What the server writes when it has connected. -/
theorem connectReply_granted (buffer : Bytes) (bndEp : Endpoint) :
    connectReply buffer 0x00 bndEp = replyBytes bndEp := by
  have hport : ∀ port : UInt16, [((port >>> 8) &&& 0xFF).toUInt8, (port &&& 0xFF).toUInt8]
      = [(port >>> 8).toUInt8, (port &&& 0xFF).toUInt8] := by
    intro port
    refine congrArg (· :: _) (UInt8.toNat_inj.mp ?_)
    simp only [UInt16.toNat_toUInt8, UInt16.toNat_and,
      show (0xFF : UInt16).toNat = 2 ^ 8 - 1 from rfl, Nat.and_two_pow_sub_one_eq_mod, Nat.mod_mod]
  obtain ⟨a | a, port⟩ := bndEp
  · have hsize := length_resize buffer 10
    rw [connectReply.eq_def, if_neg (not_not.mpr rfl), ← overlay_nil (resize buffer 10)]
    dsimp only
    rw [hport, putBytes_overlay (by simp) (by simp [hsize])]
    dsimp only
    rw [putBytes_overlay (by simp) (by simp [hsize])]
    dsimp only
    rw [putBytes_overlay (by simp) (by simp [hsize]), overlay,
      List.drop_of_length_le (by simp [hsize])]
    simp [replyBytes, targetHostBytes, portBytes]
  · have hsize := length_resize buffer 22
    rw [connectReply.eq_def, if_neg (not_not.mpr rfl), ← overlay_nil (resize buffer 22)]
    dsimp only
    rw [hport, putBytes_overlay (by simp) (by simp [hsize])]
    dsimp only
    rw [putBytes_overlay (by simp) (by simp [hsize])]
    dsimp only
    rw [putBytes_overlay (by simp) (by simp [hsize]), overlay,
      List.drop_of_length_le (by simp [hsize])]
    simp [replyBytes, targetHostBytes, portBytes]

theorem successReply_connectReply (buffer : Bytes) (bndEp : Endpoint) :
    SuccessReply (connectReply buffer 0x00 bndEp) (boundEndpoint bndEp) := by
  rw [connectReply_granted]
  obtain ⟨a | a, port⟩ := bndEp
  · exact .v4 0x00 a.bytes _ _ (toNat_port port)
  · exact .v6 0x00 a.bytes _ _ (toNat_port port)

/-- How a success reply starts. -/
theorem SuccessReply.start {ep : Endpoint} (h : SuccessReply m ep) :
    m ≠ [] ∧ byteAt m 0 = 0x05 ∧ byteAt m 1 = 0x00 := by
  cases h <;> exact ⟨nofun, rfl, rfl⟩

/-- What has been received of a message, and of what follows it. -/
theorem eq_of_prefix_length {rest : Bytes} (hx : x <+: m ++ rest) (h : x.length = m.length) :
    x = m :=
  (List.prefix_of_prefix_length_le hx (List.prefix_append _ _) h.le).eq_of_length h

theorem byteAt_of_prefix_append {rest : Bytes} (hx : x <+: m ++ rest) {i : ℕ} (hi : i < m.length)
    (hix : i < x.length) : byteAt x i = byteAt m i := by
  rw [byteAt_of_prefix_lt hx hix, byteAt_append _ hi]

/-- **A success reply with an IPv6 address is understood**, whatever follows it. -/
theorem understood_v6 {ep : Endpoint} (hm : SuccessReply m ep) (hlen : m.length = 22)
    (hat : byteAt m 3 = 0x04) (h : Outcome target (makeErrorCode .succeeded, ep) .relay log) :
    Understood (sessionContract target) .eof replyRead m .relay log where
  stop rest x _ hx hcap hstop := by
    have hx22 : x.length = 22 := by
      rcases stops_replyRead.mp hstop with ⟨hten, h3⟩ | h22
      · rw [byteAt_of_prefix_append hx (by omega) (by omega), hat] at h3
        exact absurd h3 (by decide)
      · exact Nat.le_antisymm hcap h22
    obtain rfl := eq_of_prefix_length hx (hx22.trans hlen.symm)
    refine ⟨List.prefix_rfl, ?_⟩
    change Outcome target (decodeReply x .ok) .relay log
    rwa [decodeReply_of_successReply hm (Or.inl rfl)]
  eof rest _ hstop := by
    refine absurd (stops_replyRead.mpr (Or.inr ?_)) hstop
    rw [List.length_append, hlen]
    exact Nat.le_add_right _ _

/-- **A success reply with an IPv4 address is understood**, or overrun. -/
theorem understood_v4 {ep : Endpoint} (hm : SuccessReply m ep) (hlen : m.length = 10)
    (hat : byteAt m 3 = 0x01) (h : Outcome target (makeErrorCode .succeeded, ep) .relay log)
    (hover : Outcome target (makeErrorCode .badReplySize, default) .relay log) :
    Understood (sessionContract target) .eof replyRead m .relay log := by
  obtain ⟨-, h0, h1⟩ := hm.start
  -- With anything behind the reply, the size is wrong.
  have hdecode : ∀ {rest x : Bytes} {e : ErrorCode}, x <+: m ++ rest → 10 < x.length →
      e = .ok ∨ e = .eof → Outcome target (decodeReply x e) .relay log := by
    intro rest x e hx hlong he
    have hbyte : ∀ {i}, i < 10 → byteAt x i = byteAt m i := fun hi =>
      byteAt_of_prefix_append hx (by omega) (by omega)
    rw [decodeReply_overrun ((hbyte (by decide)).trans h0) ((hbyte (by decide)).trans h1)
      ((hbyte (by decide)).trans hat) (by omega) he]
    exact hover
  constructor
  · intro rest x _ hx hcap hstop
    rcases stops_replyRead.mp hstop with ⟨hten, -⟩ | h22
    · obtain rfl := eq_of_prefix_length hx (hten.trans hlen.symm)
      refine ⟨List.prefix_rfl, ?_⟩
      change Outcome target (decodeReply x .ok) .relay log
      rwa [decodeReply_of_successReply hm (Or.inl rfl)]
    · exact ⟨List.prefix_of_prefix_length_le (List.prefix_append _ _) hx (by omega),
        hdecode hx (by omega) (Or.inl rfl)⟩
  · intro rest _ hstop
    have hlong : 10 < (m ++ rest).length := by
      have hrest : rest ≠ [] := by
        rintro rfl
        rw [List.append_nil] at hstop
        exact hstop (stops_replyRead.mpr (Or.inl ⟨hlen, hat⟩))
      have hpos := List.length_pos_iff.mpr hrest
      rw [List.length_append]
      omega
    exact hdecode List.prefix_rfl hlong (Or.inr rfl)

/-- **The success reply of the server is understood**, or overrun. -/
theorem understood_connectReply (buffer : Bytes) {bndEp : Endpoint}
    (h : Outcome target (makeErrorCode .succeeded, boundEndpoint bndEp) .relay log)
    (hover : ∀ a port, bndEp = ⟨.v4 a, port⟩ →
      Outcome target (makeErrorCode .badReplySize, default) .relay log) :
    Understood (sessionContract target) .eof replyRead (connectReply buffer 0x00 bndEp) .relay
      log := by
  have hsuccess := successReply_connectReply buffer bndEp
  generalize connectReply buffer 0x00 bndEp = m at hsuccess
  obtain ⟨a | a, port⟩ := bndEp
  · have hform : m.length = 10 ∧ byteAt m 3 = 0x01 := by
      change SuccessReply m ⟨.v4 a, port⟩ at hsuccess
      cases hsuccess
      exact ⟨by simp, rfl⟩
    exact understood_v4 hsuccess hform.1 hform.2 h (hover a port rfl)
  · have hform : m.length = 22 ∧ byteAt m 3 = 0x04 := by
      change SuccessReply m ⟨.v6 ⟨a.bytes, 0⟩, port⟩ at hsuccess
      cases hsuccess
      exact ⟨by simp, rfl⟩
    exact understood_v6 hsuccess hform.1 hform.2 h

/-- **A refusal is understood.** -/
theorem understood_refusal {q : UInt8} (hq : q ≠ 0x00) (hb : b ≠ .relay)
    (h : Outcome target (makeErrorCode (.ofReplyCode (toReplyCode q)), default) b log) :
    Understood (sessionContract target) .eof replyRead
      [0x05, q, 0x00, 0x01, 0x00, 0x00, 0x00, 0x00, 0x00, 0x00] b log where
  stop rest x hrest hx hcap hstop := by
    rw [hrest hb, List.append_nil] at hx
    have hle : x.length ≤ 10 := hx.length_le
    have hten : x.length = 10 := by
      rcases stops_replyRead.mp hstop with ⟨hten, -⟩ | h22
      · exact hten
      · omega
    obtain rfl := hx.eq_of_length hten
    refine ⟨List.prefix_rfl, ?_⟩
    change Outcome target
      (decodeReply [0x05, q, 0x00, 0x01, 0x00, 0x00, 0x00, 0x00, 0x00, 0x00] .ok) b log
    have hrefusal : RefusalReply q [0x05, q, 0x00, 0x01, 0x00, 0x00, 0x00, 0x00, 0x00, 0x00] :=
      ⟨rfl, rfl, hq, Or.inl ⟨rfl, rfl⟩⟩
    rwa [decodeReply_of_refusal hrefusal (Or.inl rfl)]
  eof rest hrest hstop := by
    rw [hrest hb, List.append_nil] at hstop
    exact absurd (stops_replyRead.mpr (Or.inl ⟨rfl, rfl⟩)) hstop

/-- **Silence is understood.** -/
theorem understood_nothing (hb : b ≠ .relay)
    (h : Outcome target (makeErrorCode .badReplySize, default) b log) :
    Understood (sessionContract target) .eof replyRead [] b log where
  stop rest x hrest hx hcap hstop := by
    rw [hrest hb] at hx
    obtain rfl := List.prefix_nil.mp hx
    exact absurd (stops_replyRead.mp hstop) (by decide)
  eof rest hrest _ := by
    rw [hrest hb]
    exact h

/-! ### The server concludes -/

/-- The server writes its reply. -/
theorem writing_doConnectReply (self : SocksConnection) {bndEp : Endpoint}
    (h : self.targetSocket = some bndEp) (rep : UInt8) :
    Writing (.pure (if rep = 0x00 then .relay else .closed)) (connectReply self.buffer rep bndEp)
      (self.doConnectReply rep) := by
  have hreply : connectReply self.buffer rep bndEp ≠ [] ∧
      byteAt (connectReply self.buffer rep bndEp) 1 = rep := by
    by_cases hrep : rep = 0x00
    · have hsuccess := successReply_connectReply self.buffer bndEp
      rw [hrep]
      exact ⟨hsuccess.start.1, hsuccess.start.2.2⟩
    · rw [connectReply_of_ne _ hrep]
      exact ⟨nofun, rfl⟩
  rw [doConnectReply, h]
  refine .more hreply.1 ?_
  simp only [errorLike_ok, ErrorCode.failed_ok, Bool.false_eq_true, if_false, hreply.2]
  split_ifs <;> rfl

/-- A server that concludes, with nothing left unread. -/
abbrev ConcludesAll (target : Target) (p : Server) (log : ServerLog) : Prop :=
  Concludes (sessionContract target) .eof replyRead [] p log

/-- Without a target socket. -/
theorem concludes_unanswered (self : SocksConnection) (hsocket : self.targetSocket = none)
    (hlog : ∀ ep answer, (ServerCall.connect ep, answer) ∈ log → answer.localEndpoint = none)
    (rep : UInt8) : ConcludesAll target (self.doConnectReply rep) log := by
  rw [doConnectReply, hsocket]
  exact .flush .done rfl (understood_nothing (by decide) (.unanswered hlog))

/-- From the target connection on. -/
theorem concludes_doTargetConnect {self : SocksConnection} (hgood : Agreement target log)
    (hep : (ServerCall.connect self.target).AgreesWith target log)
    (hlog : ∀ ep answer, (ServerCall.connect ep, answer) ∈ log → answer.localEndpoint = none) :
    ConcludesAll target self.doTargetConnect log := by
  refine .call (fun _ => hgood.snoc hep) fun answer => ?_
  dsimp only
  cases hsocket : answer.localEndpoint with
  | none =>
    have hlog' : ∀ ep answer', (ServerCall.connect ep, answer') ∈
        log ++ [(.connect self.target, answer)] → answer'.localEndpoint = none := by
      intro ep answer' hmem
      rcases List.mem_append.mp hmem with hold | hnew
      · exact hlog ep answer' hold
      · obtain ⟨-, rfl⟩ := Prod.mk.inj (List.mem_singleton.mp hnew)
        exact hsocket
    split_ifs with hfail
    · refine .call (fun _ => (hgood.snoc hep).snoc (Or.inr rfl)) fun reported => ?_
      refine concludes_unanswered _ rfl (fun ep answer' hmem => ?_) _
      rcases List.mem_append.mp hmem with hold | hnew
      · exact hlog' ep answer' hold
      · cases List.mem_singleton.mp hnew
    · exact concludes_unanswered _ rfl hlog' _
  | some bndEp =>
    split_ifs with hfail
    · refine .call (fun _ => (hgood.snoc hep).snoc (Or.inr rfl)) fun reported => ?_
      have hwriting := writing_doConnectReply { self with targetSocket := some bndEp } rfl 0x04
      rw [connectReply_of_ne _ (by decide)] at hwriting
      refine .flush hwriting rfl (understood_refusal (by decide) (by decide) ?_)
      rw [List.append_assoc]
      exact .unreachable hep hfail
    · have hwriting := writing_doConnectReply { self with targetSocket := some bndEp } rfl 0x00
      have hec : answer.ec.failed = false := Bool.not_eq_true _ ▸ hfail
      refine .flush hwriting rfl (understood_connectReply _ (.granted hep hec hsocket) ?_)
      rintro a port rfl
      exact .overrun hep hec hsocket

/-- From the CONNECT request on. -/
theorem concludes_parseSocksConnect (self : SocksConnection) (hsocket : self.targetSocket = none)
    (htarget : target.Short) :
    ConcludesAll target.onWire (parseSocksConnect { self with buffer := requestBytes target })
      [] := by
  rw [parseSocksConnect_request]
  obtain ⟨a | a, port⟩ | ep := target
  · dsimp only
    rw [parseConnectIpV4_request]
    exact concludes_doTargetConnect agreement_nil (Or.inl rfl) nofun
  · dsimp only
    rw [parseConnectIpV6_request]
    exact concludes_doTargetConnect agreement_nil (Or.inl rfl) nofun
  · dsimp only
    rw [parseConnectDomain_request self (htarget ep rfl)]
    have hresolve : (ServerCall.resolve ep.domain (portToString ep.port)).AgreesWith
        (Target.domain ep).onWire [] := ⟨ep, rfl, rfl, rfl⟩
    refine .call (fun _ => agreement_nil.snoc hresolve) fun answer => ?_
    split_ifs with hfail
    · refine .call (fun _ => (agreement_nil.snoc hresolve).snoc (Or.inl rfl)) fun reported => ?_
      refine concludes_unanswered { self with buffer := requestBytes (.domain ep) } hsocket
        (fun ep answer' hmem => ?_) _
      simp at hmem
    · refine concludes_doTargetConnect (agreement_nil.snoc hresolve)
        (Or.inr ⟨ep, answer, rfl, List.mem_singleton.mpr rfl, Bool.not_eq_true _ ▸ hfail, rfl⟩) ?_
      intro ep answer' hmem
      simp at hmem

/-! ### The session leads there -/

variable {opt : AuthOptions} {policy : UserpassPolicy}

/-- A client and a server that lead to the end of a session. -/
abbrev LeadsTo (target : Target) (stalls : Prop) (p : Client Completion) (q : Server)
    (log : ServerLog) : Prop :=
  Leads (sessionContract target) .eof replyRead stalls p q log

variable {stalls : Prop}

/-- The request phase. -/
theorem leads_requestPhase (self : SocksConnection) (hsocket : self.targetSocket = none)
    (htarget : target.Short) :
    LeadsTo target.onWire stalls (requestPhase target) self.doReadConnectRequest [] := by
  have hframes : Frames (requestCond (resize self.buffer 263)) 263 (requestBytes target) :=
    frames_request htarget
  rw [doReadConnectRequest_eq]
  refine .last (List.cons_ne_nil _ _) rfl ⟨fun x left hx hw => ?_, ?_⟩
  · -- The read stops only at the end of the request.
    obtain rfl := not_imp_comm.mp (hframes x ⟨left, hx⟩).mpr hw
    obtain rfl := List.append_right_eq_self.mp hx
    exact concludes_parseSocksConnect self hsocket htarget
  · exact fun hw => (hframes _ List.prefix_rfl).mp hw rfl

/-- The sub-negotiation, and the request phase after it. -/
theorem leads_userpassPhase (self : SocksConnection) (hsocket : self.targetSocket = none)
    (hopt : opt.Fits) (htarget : target.Short) (hpolicy : policy.verdict [0x01, 0x00] .ok = none)
    (hstalls : ¬opt.Fills → stalls) :
    LeadsTo target.onWire stalls (userpassPhase policy opt (requestPhase target))
      self.doUserpassGreet [] := by
  rw [doUserpassGreet_eq]
  by_cases hfills : opt.Fills
  · refine .up (List.cons_ne_nil _ _) (frames_userpass (length_userpassBytes_of_fills hfills))
      (isReading_transferAll (by decide)) ?_
    change LeadsTo _ _ _ (parseUserpassGreeting { self with buffer := userpassBytes opt }) _
    rw [parseUserpassGreeting_userpass self hopt (by rw [hfills.1, hfills.2])]
    refine .down (List.cons_ne_nil _ _) (frames_transferAll [0x01, 0x00])
      (isReading_doReadConnectRequest _) ?_
    simp only [errorLike_ok, hpolicy]
    exact leads_requestPhase _ hsocket htarget
  · exact .stall (hstalls hfills) (List.cons_ne_nil _ _)
      (endless_userpass (length_userpassBytes_lt hopt hfills)) (isReading_transferAll (by decide))

/-- **The handshake and a fresh connection lead to the end of the session**, but for the user/pass
request. -/
theorem leads_start (hopt : opt.Fits) (htarget : target.Short)
    (hpolicy : policy.verdict [0x01, 0x00] .ok = none) :
    LeadsTo target.onWire (opt.isUserpass = true ∧ ¬opt.Fills) (handshake policy opt target)
      (SocksConnection.start {}) [] := by
  rw [handshake_eq, start_eq]
  refine .up (List.cons_ne_nil _ _) (frames_greetingBytes opt)
    (isReading_transferAll (by decide)) ?_
  change LeadsTo _ _ (.read transferAll 2 (onChoice policy opt target))
    (parseSocksGreeting { buffer := greetingBytes opt }) _
  rw [parseSocksGreeting_opt]
  refine .down (List.cons_ne_nil _ _) (frames_transferAll [0x05, opt.code]) ?_ ?_
  · change IsReading (SocksConnection.onChosen _ opt)
    rw [SocksConnection.onChosen]
    split_ifs
    · exact isReading_doUserpassGreet _
    · exact isReading_doReadConnectRequest _
  · change LeadsTo _ _ (onChoice policy opt target [0x05, opt.code] .ok)
      (SocksConnection.onChosen _ opt) _
    rw [onChoice_code, SocksConnection.onChosen]
    split_ifs with huser
    · exact leads_userpassPhase _ rfl hopt htarget hpolicy fun hfills => ⟨huser, hfills⟩
    · exact leads_requestPhase _ rfl htarget

/-! ### The results -/

variable {mode : Mode} {memory : Vector UInt8 bufferSize} {s : Session}

/-- A session, in steps in which a server that does not relay sends nothing any more. -/
abbrev SessionReaches (mode : Mode) (memory : Vector UInt8 bufferSize) (target : Target)
    (opt : AuthOptions) (s : Session) : Prop :=
  Net.OrderlyReachable .eof (· ≠ Ending.relay) (session mode memory target opt) s

theorem leads_session (hopt : opt.Fits) (htarget : target.Short) :
    LeadsTo target.onWire (opt.isUserpass = true ∧ ¬opt.Fills) (mode.connect memory target opt)
      (SocksConnection.start {}) [] := by
  rw [mode.connect_eq memory hopt htarget.fits]
  exact leads_start hopt htarget (verdict_ok mode)

/-- **When a client has returned, the server is done too, and what the client has returned is
right**, in whatever order and chunks the bytes came, whatever the server was told about the
target, and whatever the relay has sent since. -/
theorem outcome_agreed (hopt : opt.Fits) (htarget : target.Short)
    (hrun : SessionReaches mode memory target opt s) {c : Completion}
    (hc : s.client.prog = .pure c) :
    ∃ b, s.server.prog = .pure b ∧ Outcome target.onWire c b s.server.log :=
  (leads_session hopt htarget).agreed waits_replyRead agreement_nil hrun hc

/-- A target, to which the server connects. -/
def sampleTarget : Target := .endpoint ⟨.v4 ⟨![10, 20, 30, 40]⟩, 80⟩

/-- The target socket is bound to an endpoint with an IPv6 address. -/
def boundAnswer : ServerAnswer := { localEndpoint := some ⟨.v6 ⟨fun _ => 0x01, 7⟩, 40000⟩ }

theorem short_sampleTarget : sampleTarget.Short := by rintro _ ⟨⟩

/-- A session that has come to its reply. -/
theorem reachable_reply : ∃ self : SocksConnection,
    self.targetSocket = boundAnswer.localEndpoint ∧
      Net.Reachable .eof (session .sync (Vector.replicate bufferSize 0) sampleTarget .none)
        (Net.between awaitReply (self.doConnectReply 0x00) []
          [(.connect ⟨.v4 ⟨![10, 20, 30, 40]⟩, 80⟩, boundAnswer)]) := by
  obtain ⟨self, hrun⟩ := reachable_choice syncPolicy .none sampleTarget
  rw [session, Mode.connect_eq _ _ AuthOptions.fits_none short_sampleTarget.fits]
  refine ⟨{ self with buffer := requestBytes sampleTarget,
                      target := ⟨.v4 ⟨![10, 20, 30, 40]⟩, 80⟩,
                      targetSocket := boundAnswer.localEndpoint }, rfl, hrun.trans ?_⟩
  have hnone : AuthOptions.none.isUserpass = false := rfl
  simp only [SocksConnection.onChosen, hnone, Bool.false_eq_true, if_false]
  rw [doReadConnectRequest_eq]
  refine (Net.reachable_up (List.cons_ne_nil _ _) (frames_request short_sampleTarget)).trans ?_
  change Net.Reachable _ (Net.between awaitReply
    (parseSocksConnect { self with buffer := requestBytes sampleTarget }) _ _) _
  rw [parseSocksConnect_request, sampleTarget]
  dsimp only
  rw [parseConnectIpV4_request self]
  exact .single (.server (.call boundAnswer))

/-- A session in which the reply is on its way, and one at its end. -/
theorem sessionReaches_sample : ∃ (reply : Bytes) (log : ServerLog),
    SessionReaches .sync (Vector.replicate bufferSize 0) sampleTarget .none
      ⟨⟨awaitReply, [], [], false⟩, ⟨.pure .relay, reply, log, false⟩⟩ ∧
    SessionReaches .sync (Vector.replicate bufferSize 0) sampleTarget .none
      (Net.between (.pure (makeErrorCode .succeeded, ⟨.v6 ⟨fun _ => 0x01, 0⟩, 40000⟩))
        (.pure .relay) [] log) := by
  obtain ⟨self, hsocket, hrun⟩ := reachable_reply
  have hsuccess := successReply_connectReply self.buffer ⟨.v6 ⟨fun _ => 0x01, 7⟩, 40000⟩
  have hwriting := writing_doConnectReply self hsocket 0x00
  generalize self.doConnectReply 0x00 = p at hrun hwriting
  generalize connectReply self.buffer 0x00 _ = m at hsuccess hwriting
  cases hwriting with
  | done => exact absurd rfl hsuccess.start.1
  | more hm hk =>
    have hlen : m.length = 22 := by
      change SuccessReply m ⟨.v6 ⟨fun _ => 0x01, 0⟩, 40000⟩ at hsuccess
      cases hsuccess
      rfl
    have hresult : replyRead.result m ok
        = (makeErrorCode .succeeded, ⟨.v6 ⟨fun _ => 0x01, 0⟩, 40000⟩) := by
      change decodeReply m .ok = _
      exact decodeReply_of_successReply hsuccess (Or.inl rfl)
    have htold : SessionReaches .sync (Vector.replicate bufferSize 0) sampleTarget .none
        ⟨⟨awaitReply, [], [], false⟩, ⟨.pure .relay, m,
          [(.connect ⟨.v4 ⟨![10, 20, 30, 40]⟩, 80⟩, boundAnswer)], false⟩⟩ :=
      (Net.OrderlyReachable.of_reachable hrun nofun).trans (Net.orderlyReachable_told hk)
    rw [← hresult]
    exact ⟨m, _, htold, htold.trans (Net.orderlyReachable_heard (r := replyRead)
      (by rw [hlen]; decide) (stops_replyRead.mpr (Or.inr hlen.ge)))⟩

/-- It ends with the endpoint, but for its scope id. -/
theorem outcome_agreed_sample : ∃ s : Session,
    SessionReaches .sync (Vector.replicate bufferSize 0) sampleTarget .none s ∧
      s.client.prog = .pure (makeErrorCode .succeeded, ⟨.v6 ⟨fun _ => 0x01, 0⟩, 40000⟩) ∧
      s.server.prog = .pure .relay ∧
      Outcome sampleTarget (makeErrorCode .succeeded, ⟨.v6 ⟨fun _ => 0x01, 0⟩, 40000⟩) .relay
        s.server.log := by
  obtain ⟨_, log, -, hend⟩ := sessionReaches_sample
  obtain ⟨b, hb, houtcome⟩ := outcome_agreed AuthOptions.fits_none short_sampleTarget hend rfl
  obtain rfl := Prog.pure.inj hb
  exact ⟨_, hend, rfl, rfl, houtcome⟩

/-- **The relay takes over a connection on which there is nothing of the handshake any more**:
until the client has returned, it has nothing left to write, and nothing of what it has written is
on its way. -/
theorem relay_takes_over (hopt : opt.Fits) (htarget : target.Short)
    (hrun : SessionReaches mode memory target opt s) (hrelay : s.server.prog = .pure .relay) :
    (∃ c, s.client.prog = .pure c) ∨ s.client.out = [] ∧ s.client.prog.pending = [] := by
  have hleft := (leads_session hopt htarget).left_over waits_replyRead agreement_nil hrun hrelay
  refine hleft.imp_right ?_
  rintro ⟨left, rfl, hsuffix⟩
  exact List.append_eq_nil_iff.mp (List.suffix_nil.mp hsuffix)

/-- So it does in this session, in which the client has not returned yet. -/
theorem relay_takes_over_sample : ∃ (s : Session) (log : ServerLog) (reply : Bytes),
    SessionReaches .sync (Vector.replicate bufferSize 0) sampleTarget .none s ∧
      s = ⟨⟨awaitReply, [], [], false⟩, ⟨.pure .relay, reply, log, false⟩⟩ ∧
      ((∃ c, s.client.prog = .pure c) ∨ s.client.out = [] ∧ s.client.prog.pending = []) := by
  obtain ⟨reply, log, htold, -⟩ := sessionReaches_sample
  exact ⟨_, log, reply, htold, rfl,
    relay_takes_over AuthOptions.fits_none short_sampleTarget htold rfl⟩

end Socks
