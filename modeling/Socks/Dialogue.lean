import Socks.Exchange
import Socks.Refinement
import Socks.Asio.Dialogue

/-!
# Client and reference server

Either SOCKS5 client, in a session with one connection of the reference server: two channels, any
order of steps, any chunking (`Socks.Asio.Channel`).

The two programs fit together message by message (`paired_start`). Along the way the pairing shows
that each question the server asks agrees with the target of the client, and it stalls in one
place, the user/pass request. Both results about sessions are read off from it.

## Main definitions

* `Socks.ServerCall.AgreesWith`, `Socks.Agreement` — the server does what the client asked for
* `Socks.AuthOptions.Fills` — the credentials whose message fills the server's buffer
* `Socks.session` — a client and a fresh connection

## Main results

* `Socks.never_deadlock_iff` — a session never deadlocks, exactly when there are no credentials
  or they fill the buffer
* `Socks.target_agreed` — the server connects to what the client asked for
-/

namespace Socks

open Asio SocksConnection

/-! ### Agreement on the target -/

/-- What a server has asked, with the answers. -/
abbrev ServerLog : Type := List (ServerCall × ServerAnswer)

/-- A question agrees with the target, given what was asked before it: an endpoint is connected to
because it is the target, or because the name of the target resolved to it; a name is resolved
because it is the target; and what is reported is not about the request. -/
def ServerCall.AgreesWith (target : Target) (log : ServerLog) : ServerCall → Prop
  | .connect ep => target = .endpoint ep ∨ ∃ dom answer, target = .domain dom ∧
      (.resolve dom.domain (portToString dom.port), answer) ∈ log ∧ answer.ec.failed = false ∧
      answer.endpoint = ep
  | .resolve host service => ∃ dom, target = .domain dom ∧ host = dom.domain ∧
      service = portToString dom.port
  | .fail _ what _ => what = "Cannot resolve domain name" ∨ what = "Cannot connect to target"

/-- Every question of a log agreed with the target when it was asked. -/
def Agreement (target : Target) (log : ServerLog) : Prop :=
  ∀ before question answer after, log = before ++ (question, answer) :: after →
    question.AgreesWith target before

variable {target : Target} {opt : AuthOptions} {log : ServerLog}

theorem agreement_nil : Agreement target [] := by
  intro before question answer after h
  exact absurd (List.append_eq_nil_iff.mp h.symm).2 (List.cons_ne_nil _ _)

theorem Agreement.snoc (h : Agreement target log) {question : ServerCall} {answer : ServerAnswer}
    (hq : question.AgreesWith target log) : Agreement target (log ++ [(question, answer)]) := by
  intro before question' answer' after hsplit
  rcases List.eq_nil_or_concat after with rfl | ⟨after', last, rfl⟩
  · obtain ⟨rfl, hlast⟩ := List.append_inj' hsplit rfl
    cases hlast
    exact hq
  · rw [List.concat_eq_append, ← List.cons_append, ← List.append_assoc] at hsplit
    exact h _ _ _ _ (List.append_inj' hsplit rfl).1

/-! ### Pairing the handshake with the server -/

variable {stalls : Prop} {policy : UserpassPolicy}

/-- The client waits for a reply of a fixed size. -/
theorem isReading_transferAll {cap : ℕ} (h : 0 < cap) {Q A α : Type}
    {k : Bytes → ErrorCode → Prog ErrorCode Q A α} : IsReading (.read transferAll cap k) :=
  ⟨h, by rw [transferAll_ask_ok]; decide⟩

/-- What the client does after its request. -/
def awaitReply : Client Completion :=
  .read (replyCond []) 22 fun got ec => .pure (decodeReply got ec)

theorem isReading_awaitReply : IsReading awaitReply := ⟨by decide, by decide⟩

theorem ends_awaitReply : Ends awaitReply := .read fun _ _ => ⟨_, rfl⟩

theorem flushes_doConnectReply (self : SocksConnection) (rep : UInt8) :
    Flushes (self.doConnectReply rep) := by
  rw [doConnectReply]
  cases self.targetSocket with
  | none => exact .pure _
  | some bndEp =>
    refine .write ?_
    simp only [errorLike_ok, ErrorCode.failed_ok, Bool.false_eq_true, if_false]
    split_ifs <;> exact ⟨_, rfl⟩

theorem paired_doConnectReply (self : SocksConnection) (rep : UInt8) :
    Paired (Agreement target) stalls awaitReply (self.doConnectReply rep) log :=
  .wind ends_awaitReply (flushes_doConnectReply self rep)

/-- From a report that is not about the request on. -/
theorem paired_fail {self : SocksConnection} {rep : UInt8} {ec : ErrorCode} {what : String}
    {t : Option Subject} (hlog : Agreement target log)
    (hwhat : what = "Cannot resolve domain name" ∨ what = "Cannot connect to target") :
    Paired (Agreement target) stalls awaitReply (fail ec what t (self.doConnectReply rep)) log :=
  .call isReading_awaitReply (fun _ => hlog.snoc hwhat) fun _ => paired_doConnectReply self rep

/-- From the target connection on. -/
theorem paired_doTargetConnect {self : SocksConnection} (hlog : Agreement target log)
    (htarget : (ServerCall.connect self.target).AgreesWith target log) :
    Paired (Agreement target) stalls awaitReply self.doTargetConnect log := by
  refine .call isReading_awaitReply (fun _ => hlog.snoc htarget) fun answer => ?_
  dsimp only
  split_ifs with hfail
  · exact paired_fail (hlog.snoc htarget) (Or.inr rfl)
  · exact paired_doConnectReply _ _

/-- From the CONNECT request on. -/
theorem paired_parseSocksConnect (self : SocksConnection) (htarget : target.Short)
    (hlog : Agreement target.onWire log) :
    Paired (Agreement target.onWire) stalls awaitReply
      (parseSocksConnect { self with buffer := requestBytes target }) log := by
  rw [parseSocksConnect_request]
  obtain ⟨a | a, port⟩ | ep := target
  · dsimp only
    rw [parseConnectIpV4_request]
    exact paired_doTargetConnect hlog (Or.inl rfl)
  · dsimp only
    rw [parseConnectIpV6_request]
    exact paired_doTargetConnect hlog (Or.inl rfl)
  · dsimp only
    rw [parseConnectDomain_request self (htarget ep rfl)]
    have hresolve : (ServerCall.resolve ep.domain (portToString ep.port)).AgreesWith
        (Target.domain ep).onWire log := ⟨ep, rfl, rfl, rfl⟩
    refine .call isReading_awaitReply (fun _ => hlog.snoc hresolve) fun answer => ?_
    split_ifs with hfail
    · exact paired_fail (hlog.snoc hresolve) (Or.inl rfl)
    · refine paired_doTargetConnect (hlog.snoc hresolve)
        (Or.inr ⟨ep, answer, rfl, ?_, Bool.not_eq_true _ ▸ hfail, rfl⟩)
      exact List.mem_append_right _ (List.mem_singleton.mpr rfl)

theorem isReading_doReadConnectRequest (self : SocksConnection) :
    IsReading self.doReadConnectRequest := by
  have hframes : Frames (requestCond (resize self.buffer 263)) 263
      (requestBytes (.endpoint default)) := frames_request (by rintro _ ⟨⟩)
  rw [doReadConnectRequest_eq]
  exact ⟨hframes.waits (List.cons_ne_nil _ _)⟩

/-- The request phase. -/
theorem paired_requestPhase (self : SocksConnection) (htarget : target.Short)
    (hlog : Agreement target.onWire log) :
    Paired (Agreement target.onWire) stalls (requestPhase target)
      self.doReadConnectRequest log := by
  rw [doReadConnectRequest_eq]
  exact .up (List.cons_ne_nil _ _) (frames_request htarget) isReading_awaitReply
    (paired_parseSocksConnect self htarget hlog)

theorem isReading_doUserpassGreet (self : SocksConnection) : IsReading self.doUserpassGreet := by
  have hnil : [] <+: userpassBytes .none := List.nil_prefix
  rw [doUserpassGreet_eq]
  exact ⟨by decide, userpassCond_pos hnil⟩

/-- Credentials that fill the server's buffer. -/
def AuthOptions.Fills (opt : AuthOptions) : Prop := opt.user.length = 255 ∧ opt.pass.length = 255

instance (opt : AuthOptions) : Decidable opt.Fills := inferInstanceAs (Decidable (_ ∧ _))

theorem length_userpassBytes_of_fills (h : opt.Fills) : (userpassBytes opt).length = 513 := by
  rw [length_userpassBytes, h.1, h.2]

theorem length_userpassBytes_lt (h : opt.Fits) (hfills : ¬opt.Fills) :
    (userpassBytes opt).length < 513 := by
  have huser := h.user_le
  have hpass := h.pass_le
  rw [length_userpassBytes]
  rw [AuthOptions.Fills] at hfills
  omega

/-- The sub-negotiation, and the request phase after it. -/
theorem paired_userpassPhase (self : SocksConnection) (hopt : opt.Fits) (htarget : target.Short)
    (hpolicy : policy.verdict [0x01, 0x00] .ok = none) (hstalls : ¬opt.Fills → stalls)
    (hlog : Agreement target.onWire log) :
    Paired (Agreement target.onWire) stalls (userpassPhase policy opt (requestPhase target))
      self.doUserpassGreet log := by
  rw [doUserpassGreet_eq]
  by_cases hfills : opt.Fills
  · refine .up (List.cons_ne_nil _ _) (frames_userpass (length_userpassBytes_of_fills hfills))
      (isReading_transferAll (by decide)) ?_
    change Paired _ _ _ (parseUserpassGreeting { self with buffer := userpassBytes opt }) _
    rw [parseUserpassGreeting_userpass self hopt (by rw [hfills.1, hfills.2])]
    refine .down (List.cons_ne_nil _ _) (frames_transferAll [0x01, 0x00])
      (isReading_doReadConnectRequest _) ?_
    simp only [errorLike_ok, hpolicy]
    exact paired_requestPhase _ htarget hlog
  · exact .stall (hstalls hfills) (List.cons_ne_nil _ _)
      (endless_userpass (length_userpassBytes_lt hopt hfills)) (isReading_transferAll (by decide))

/-- What a client does with the choice it has read. -/
def onChoice (policy : UserpassPolicy) (opt : AuthOptions) (target : Target) (got : Bytes)
    (ec : ErrorCode) : Client Completion :=
  if (choiceError opt got ec).failed then .pure (choiceError opt got ec, default)
  else if byteAt got 1 = authMethodUserpass then userpassPhase policy opt (requestPhase target)
  else requestPhase target

/-- What the server does with a connection on which it has made the choice `opt.code`. -/
def SocksConnection.onChosen (self : SocksConnection) (opt : AuthOptions) : Server :=
  if opt.isUserpass then self.doUserpassGreet else self.doReadConnectRequest

/-- The choice of the best method offered is accepted. -/
theorem onChoice_code (policy : UserpassPolicy) (opt : AuthOptions) (target : Target) :
    onChoice policy opt target [0x05, opt.code] .ok =
      if opt.isUserpass then userpassPhase policy opt (requestPhase target)
      else requestPhase target := by
  obtain ⟨_ | _, user, pass⟩ := opt <;> rfl

theorem handshake_eq (policy : UserpassPolicy) (opt : AuthOptions) (target : Target) :
    handshake policy opt target = .write (greetingBytes opt) fun _ ec =>
      if ec.failed then .pure (ec, default)
      else .read transferAll 2 (onChoice policy opt target) := rfl

theorem doServerChoice_code (self : SocksConnection) (opt : AuthOptions) :
    doServerChoice { self with serverChoice := opt.code } = .write [0x05, opt.code] fun _ ec =>
      if ec.failed then returnFail ec "Cannot write greeting response"
      else { self with buffer := [0x05, opt.code], serverChoice := opt.code }.onChosen opt := by
  obtain ⟨_ | _, user, pass⟩ := opt <;> rfl

theorem parseSocksGreeting_opt (opt : AuthOptions) :
    parseSocksGreeting { buffer := greetingBytes opt }
      = .write [0x05, opt.code] fun _ ec =>
          if ec.failed then returnFail ec "Cannot write greeting response"
          else SocksConnection.onChosen
            { buffer := [0x05, opt.code], serverChoice := opt.code } opt := by
  have hmethods : opt.methods.length ≤ 255 := Nat.le_trans opt.length_methods_le (by decide)
  have hgreeting := parseSocksGreeting_greeting {} hmethods
  rw [chosenMethod_methods, doServerChoice_code] at hgreeting
  exact hgreeting

theorem frames_greetingBytes (opt : AuthOptions) :
    Frames (greetingCond (List.replicate 258 0x00)) 258 (greetingBytes opt) :=
  frames_greeting (Nat.le_trans opt.length_methods_le (by decide)) (by decide)

/-- **The handshake and a fresh connection fit together**, but for the user/pass request, whose
end the server finds only if it fills the buffer. -/
theorem paired_start (hopt : opt.Fits) (htarget : target.Short)
    (hpolicy : policy.verdict [0x01, 0x00] .ok = none) :
    Paired (Agreement target.onWire) (opt.isUserpass = true ∧ ¬opt.Fills)
      (handshake policy opt target) (SocksConnection.start {}) [] := by
  rw [handshake_eq, start_eq]
  refine .up (List.cons_ne_nil _ _) (frames_greetingBytes opt)
    (isReading_transferAll (by decide)) ?_
  change Paired _ _ (.read transferAll 2 (onChoice policy opt target))
    (parseSocksGreeting { buffer := greetingBytes opt }) _
  rw [parseSocksGreeting_opt]
  refine .down (List.cons_ne_nil _ _) (frames_transferAll [0x05, opt.code]) ?_ ?_
  · change IsReading (SocksConnection.onChosen _ opt)
    rw [SocksConnection.onChosen]
    split_ifs
    · exact isReading_doUserpassGreet _
    · exact isReading_doReadConnectRequest _
  · change Paired _ _ (onChoice policy opt target [0x05, opt.code] .ok)
      (SocksConnection.onChosen _ opt) _
    rw [onChoice_code, SocksConnection.onChosen]
    split_ifs with huser
    · exact paired_userpassPhase _ hopt htarget hpolicy (fun hfills => ⟨huser, hfills⟩)
        agreement_nil
    · exact paired_requestPhase _ htarget agreement_nil

/-! ### The results -/

/-- A client and a fresh connection of the reference server. -/
abbrev Session : Type := Net ErrorCode Empty Empty Completion ServerCall ServerAnswer Ending

/-- The session of a client that connects to `target`. -/
def session (mode : Mode) (memory : Vector UInt8 bufferSize) (target : Target)
    (opt : AuthOptions) : Session :=
  Net.start (mode.connect memory target opt) (SocksConnection.start {})

theorem verdict_ok (mode : Mode) : mode.policy.verdict [0x01, 0x00] .ok = none := by
  have hgranted := verdict_granted ErrorCode.failed_ok
  cases mode with
  | sync => exact hgranted.1
  | async => exact hgranted.2

variable {mode : Mode} {memory : Vector UInt8 bufferSize} {s : Session}

theorem paired_session (hopt : opt.Fits) (htarget : target.Short) :
    Paired (Agreement target.onWire) (opt.isUserpass = true ∧ ¬opt.Fills)
      (mode.connect memory target opt) (SocksConnection.start {}) [] := by
  rw [mode.connect_eq memory hopt htarget.fits]
  exact paired_start hopt htarget (verdict_ok mode)

/-- The session gets as far as the method the client has credentials for. -/
theorem reachable_choice (policy : UserpassPolicy) (opt : AuthOptions) (target : Target) :
    ∃ self : SocksConnection,
      Net.Reachable .eof (Net.start (handshake policy opt target) (SocksConnection.start {}))
        (Net.between
          (if opt.isUserpass then userpassPhase policy opt (requestPhase target)
            else requestPhase target)
          (self.onChosen opt) [] []) := by
  refine ⟨{ buffer := [0x05, opt.code], serverChoice := opt.code }, ?_⟩
  rw [handshake_eq, start_eq]
  refine (Net.reachable_up (List.cons_ne_nil _ _) (frames_greetingBytes opt)).trans ?_
  change Net.Reachable _ (Net.between (.read transferAll 2 (onChoice policy opt target))
    (parseSocksGreeting { buffer := greetingBytes opt }) _ _) _
  rw [parseSocksGreeting_opt, ← onChoice_code]
  exact Net.reachable_down (List.cons_ne_nil _ _) (frames_transferAll [0x05, opt.code])

/-- A user/pass request that does not fill the server's buffer leads into a deadlock. -/
theorem deadlock_of_userpass (hopt : opt.Fits) (htarget : target.Short)
    (huser : opt.isUserpass = true) (hfills : ¬opt.Fills) :
    ∃ s, Net.Reachable .eof (session mode memory target opt) s ∧ s.Deadlock := by
  rw [session, mode.connect_eq memory hopt htarget.fits]
  obtain ⟨self, hrun⟩ := reachable_choice mode.policy opt target
  simp only [SocksConnection.onChosen, huser, if_true] at hrun
  have hdead : ∃ s, Net.Reachable .eof (Net.between (userpassPhase mode.policy opt
      (requestPhase target)) self.doUserpassGreet [] []) s ∧ s.Deadlock := by
    rw [doUserpassGreet_eq]
    exact Net.deadlock_of_endless (endless_userpass (length_userpassBytes_lt hopt hfills))
      (isReading_transferAll (by decide))
  obtain ⟨s, hrun', hs⟩ := hdead
  exact ⟨s, hrun.trans hrun', hs⟩

/-- **Client and server never deadlock, exactly when the client has no credentials or they fill
the buffer of the server.** -/
theorem never_deadlock_iff (mode : Mode) (memory : Vector UInt8 bufferSize) (hopt : opt.Fits)
    (htarget : target.Short) :
    (∀ s, Net.Reachable .eof (session mode memory target opt) s → ¬s.Deadlock) ↔
      (opt.isUserpass = true → opt.user.length = 255 ∧ opt.pass.length = 255) := by
  constructor
  · intro h huser
    by_contra hfills
    obtain ⟨s, hrun, hdead⟩ := deadlock_of_userpass hopt htarget huser hfills
    exact h s hrun hdead
  · intro h s hrun
    refine (paired_session hopt htarget).not_deadlock (fun hstalls => ?_) agreement_nil hrun
    exact hstalls.2 (h hstalls.1)

/-- A client with one-byte credentials. -/
def shortCredentials : AuthOptions := .userpass [0x75] [0x70]

/-- With these it comes to a deadlock. -/
theorem deadlock_short : shortCredentials.Fits ∧ (Target.endpoint default).Short ∧
    ∃ s, Net.Reachable .eof
      (session .sync (Vector.replicate bufferSize 0) (.endpoint default) shortCredentials) s ∧
        s.Deadlock := by
  have hfits : shortCredentials.Fits := ⟨by decide, by decide⟩
  have hshort : (Target.endpoint default).Short := by rintro _ ⟨⟩
  exact ⟨hfits, hshort, deadlock_of_userpass hfits hshort rfl (by decide)⟩

/-- A client with credentials of full length. -/
def longCredentials : AuthOptions := .userpass (List.replicate 255 0x75) (List.replicate 255 0x70)

/-- With these it does not. -/
theorem never_deadlock_long : longCredentials.isUserpass = true ∧ ∀ s, Net.Reachable .eof
    (session .sync (Vector.replicate bufferSize 0) (.endpoint default) longCredentials) s →
      ¬s.Deadlock := by
  have huser : longCredentials.user.length = 255 := List.length_replicate
  have hpass : longCredentials.pass.length = 255 := List.length_replicate
  refine ⟨rfl, (never_deadlock_iff .sync _ ⟨?_, ?_⟩ (by rintro _ ⟨⟩)).mpr fun _ => ⟨huser, hpass⟩⟩
  · rw [huser]
  · rw [hpass]

/-! ### Agreement -/

/-- **Client and server agree on the target.** Whatever the server has asked, and whatever it is
about to ask, in any state it can get to, agrees with the target of the client. -/
theorem target_agreed (hopt : opt.Fits) (htarget : target.Short) (hscope : target.Unscoped)
    (hrun : Net.Reachable .eof (session mode memory target opt) s) :
    Agreement target s.server.log ∧
      ∀ question k, s.server.prog = .call question k → question.AgreesWith target s.server.log := by
  have hpaired : Paired (Agreement target.onWire) (opt.isUserpass = true ∧ ¬opt.Fills)
      (mode.connect memory target opt) (SocksConnection.start {}) [] := paired_session hopt htarget
  rw [hscope.onWire_eq] at hpaired
  refine ⟨hpaired.good_log agreement_nil hrun, fun question k hprog => ?_⟩
  exact hpaired.good_call agreement_nil hrun hprog {} _ question {} [] rfl

/-- A name of one letter. -/
def sampleDomain : DomainEndpoint := ⟨[0x61], 80⟩

/-- What it resolves to. -/
def sampleAnswer : ServerAnswer := { endpoint := ⟨.v4 ⟨![127, 0, 0, 1]⟩, 80⟩ }

theorem short_sampleDomain : (Target.domain sampleDomain).Short := by
  rintro _ ⟨⟩
  decide

/-- A session in which the name is resolved, and the server is about to connect. -/
theorem reachable_connect : ∃ self : SocksConnection, self.target = sampleAnswer.endpoint ∧
    Net.Reachable .eof
      (session .async (Vector.replicate bufferSize 0) (.domain sampleDomain) .none)
      (Net.between awaitReply self.doTargetConnect []
        [(.resolve sampleDomain.domain (portToString sampleDomain.port), sampleAnswer)]) := by
  obtain ⟨self, hrun⟩ := reachable_choice asyncPolicy .none (.domain sampleDomain)
  rw [session, Mode.connect_eq _ _ AuthOptions.fits_none short_sampleDomain.fits]
  refine ⟨{ self with buffer := requestBytes (.domain sampleDomain),
                      target := sampleAnswer.endpoint }, rfl, hrun.trans ?_⟩
  have hnone : AuthOptions.none.isUserpass = false := rfl
  simp only [SocksConnection.onChosen, hnone, Bool.false_eq_true, if_false]
  rw [doReadConnectRequest_eq]
  refine (Net.reachable_up (List.cons_ne_nil _ _) (frames_request short_sampleDomain)).trans ?_
  change Net.Reachable _ (Net.between awaitReply
    (parseSocksConnect { self with buffer := requestBytes (.domain sampleDomain) }) _ _) _
  rw [parseSocksConnect_request]
  dsimp only
  rw [parseConnectDomain_request self (short_sampleDomain _ rfl)]
  exact .single (.server (.call sampleAnswer))

/-- The endpoint the server then connects to is one it got for the name. -/
theorem target_agreed_domain : ∃ (s : Session) (k : ServerAnswer → Server),
    Net.Reachable .eof
        (session .async (Vector.replicate bufferSize 0) (.domain sampleDomain) .none) s ∧
      s.server.prog = .call (.connect sampleAnswer.endpoint) k ∧
      Agreement (.domain sampleDomain) s.server.log ∧
      (ServerCall.connect sampleAnswer.endpoint).AgreesWith (.domain sampleDomain)
        s.server.log := by
  obtain ⟨⟨buffer, serverChoice, _, targetSocket⟩, rfl, hrun⟩ := reachable_connect
  have hagreed := target_agreed AuthOptions.fits_none short_sampleDomain (by rintro _ _ ⟨⟩) hrun
  exact ⟨_, _, hrun, rfl, hagreed.1, hagreed.2 _ _ rfl⟩

end Socks
