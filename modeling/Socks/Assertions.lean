import Socks.Checked
import Socks.Encoders
import Socks.Exchange

/-!
# The encoders at their callers

The clients once more, with every call of an encoder replaced by the encoder of `Socks.Encoders`
that checks its assertions and its stores: it is told the size its caller tells it, and its stores
are performed on the buffer its caller passes. The clients' own assertions are checked too.

That the buffers are large enough rests on their size, 513 bytes, which no read and no encoder
changes. For `connect` the size is what each part passes on to the next (`Succeeds`); for
`connect_op` it is an invariant of the invocations (`Composed.machine_invariant`).

## Main definitions

* `Socks.assertedConnect`, `Socks.ConnectOp.assertedResume` — the clients

## Main results

* `Socks.assertedConnect_eq` — no assertion of `connect` fails
* `Socks.ConnectOp.assertedResume_eq`, `Socks.ConnectOp.started_of_run` — nor one of `connect_op`
* `Socks.encoders_write_exactly` — the encoders, and their callers
-/

namespace Socks

open Asio Storing

/-! ### The synchronous client -/

/-- `authenticate`, asserted. -/
def assertedAuthenticate (buffer : Bytes) (n : ℕ) (opt : AuthOptions) :
    CheckedClient (UInt8 × Bytes × ErrorCode) := do
  let (buffer, gn) ← check ((storeGreeting n opt).on buffer)
  check (guard (gn > 2))
  let (_, ec) ← unchecked (asioWrite buffer gn)
  if ec.failed then
    return (0, buffer, ec)
  let (rn, buffer, ec) ← unchecked (asioRead buffer 2 transferAll)
  let ec := if !ec.failed || ec == .eof then validateServerChoice buffer rn opt ec else ec
  if ec.failed then
    return (byteAt buffer 1, buffer, ec)
  let choice := byteAt buffer 1
  if choice = authMethodUserpass then
    let (buffer, n2) ← check ((storeUserpassRequest n opt).on buffer)
    let (_, ec) ← unchecked (asioWrite buffer n2)
    if ec.failed then
      return (0, buffer, ec)
    let (n, buffer, ec) ← unchecked (asioRead buffer 2 transferAll)
    let ec := if !ec.failed || ec == .eof then validateUserpassReply buffer n ec else ec
    return (byteAt buffer 1, buffer, ec)
  return (byteAt buffer 1, buffer, ec)

/-- `write_connect_request`, asserted. -/
def assertedWriteConnectRequest (buffer : Bytes) (n : ℕ) (targetHost : Target) :
    CheckedClient (ℕ × Bytes × ErrorCode) := do
  let (buffer, n) ← check ((storeRequest n targetHost).on buffer)
  let (_, ec) ← unchecked (asioWrite buffer n)
  return (n, buffer, ec)

/-- `connect` to an endpoint, asserted. -/
def assertedConnectEndpoint (memory : Vector UInt8 bufferSize) (targetHost : Endpoint)
    (opt : AuthOptions) : CheckedClient Completion := do
  let buffer := memory.toList
  let (_, buffer, ec) ← assertedAuthenticate buffer bufferSize opt
  if ec.failed then
    return (ec, default)
  let (_, buffer, ec) ← assertedWriteConnectRequest buffer bufferSize (.endpoint targetHost)
  if ec.failed then
    return (ec, default)
  let (ec, ep) ← unchecked (readConnectReply buffer)
  return (ec, ep)

/-- `connect` to a domain, asserted. -/
def assertedConnectDomain (memory : Vector UInt8 bufferSize) (target : DomainEndpoint)
    (opt : AuthOptions) : CheckedClient Completion := do
  let buffer := memory.toList
  let (_, buffer, ec) ← assertedAuthenticate buffer bufferSize opt
  if ec.failed then
    return (ec, default)
  let (_, buffer, ec) ← assertedWriteConnectRequest buffer bufferSize (.domain target)
  if ec.failed then
    return (ec, default)
  let (ec, ep) ← unchecked (readConnectReply buffer)
  if ec.failed then
    return (ec, default)
  return (ec, ep)

/-- `connect`, asserted. -/
def assertedConnect (memory : Vector UInt8 bufferSize) (target : Target) (opt : AuthOptions) :
    CheckedClient Completion :=
  match target with
  | .endpoint ep => assertedConnectEndpoint memory ep opt
  | .domain ep => assertedConnectDomain memory ep opt

variable {buffer : Bytes} {opt : AuthOptions} {target : Target}

/-- A greeting fits into the buffers of the clients. -/
theorem AuthOptions.greeting_le (opt : AuthOptions) : 2 + opt.methods.length ≤ bufferSize := by
  have hcount := opt.length_methods_le
  simp only [bufferSize]
  omega

theorem on_storeGreeting (hb : bufferSize ≤ buffer.length) :
    (storeGreeting bufferSize opt).on buffer = some (prepareGreeting buffer opt) :=
  (writesExactly_greeting opt.greeting_le).on_eq buffer hb

theorem on_storeUserpassRequest (h : opt.Fits) (hb : bufferSize ≤ buffer.length) :
    (storeUserpassRequest bufferSize opt).on buffer = some (prepareUserpassRequest buffer opt) :=
  (writesExactly_userpassRequest h h.userpass).on_eq buffer hb

theorem on_storeRequest (h : target.Fits) (hb : bufferSize ≤ buffer.length) :
    (storeRequest bufferSize target).on buffer = some (prepareRequest buffer target) :=
  (writesExactly_request h).on_eq buffer hb

/-- A greeting offers a method. -/
theorem two_lt_prepareGreeting (hb : bufferSize ≤ buffer.length) :
    2 < (prepareGreeting buffer opt).2 := by
  have h4 : 4 ≤ bufferSize := by decide
  have hmethods : 0 < opt.methods.length :=
    List.length_pos_of_mem ((opt.mem_methods_iff 0x00).mpr (Or.inr rfl))
  rw [prepareGreeting_eq opt (h4.trans hb), greetingBytes, length_greetingMethodsBytes]
  exact Nat.lt_add_of_pos_left hmethods

/-- A read does not make the buffer shorter. -/
theorem returns_asioRead {n : ℕ} (hb : n ≤ buffer.length) (cap : ℕ) (c : Cond ErrorCode) :
    (asioRead buffer cap c).Returns fun x => n ≤ x.2.1.length :=
  fun got _ => overlay_le got hb

/-- Both encoders `authenticate` calls find room, and leave it to the next part. -/
theorem succeeds_authenticate (h : opt.Fits) (hb : bufferSize ≤ buffer.length) :
    Succeeds (assertedAuthenticate buffer bufferSize opt) (authenticate buffer opt)
      fun x => bufferSize ≤ x.2.1.length := by
  have h4 : 4 ≤ bufferSize := by decide
  have hgreeting := prepareGreeting_eq opt (h4.trans hb)
  rw [assertedAuthenticate, authenticate]
  refine .check_bind (on_storeGreeting hb) ?_
  have hgn : (guard ((prepareGreeting buffer opt).2 > 2) : Option Unit) = some () :=
    if_pos (two_lt_prepareGreeting hb)
  rw [hgreeting] at hgn ⊢
  -- from here on, all that is known of the buffer is its size
  have hb := overlay_le (greetingBytes opt) hb
  generalize overlay (greetingBytes opt) buffer = buffer at hb ⊢
  refine .check_bind hgn (.bind (succeeds_unchecked (Prog.returns_true _)) ?_)
  rintro ⟨_, ec⟩ -
  refine .ite (fun _ => succeeds_pure hb) fun _ => ?_
  refine .bind (succeeds_unchecked (returns_asioRead hb _ _)) ?_
  rintro ⟨rn, buffer, ec⟩ hb
  dsimp only
  generalize (if (!ec.failed || ec == .eof) = true then validateServerChoice buffer rn opt ec
    else ec) = ec
  refine .ite (fun _ => succeeds_pure hb) fun _ => ?_
  refine .ite (fun _ => ?_) fun _ => succeeds_pure hb
  refine .check_bind (on_storeUserpassRequest h hb) ?_
  rw [prepareUserpassRequest_eq (h.userpass.trans hb)]
  have hb := overlay_le (userpassBytes opt) hb
  generalize overlay (userpassBytes opt) buffer = buffer at hb ⊢
  refine .bind (succeeds_unchecked (Prog.returns_true _)) ?_
  rintro ⟨_, ec⟩ -
  refine .ite (fun _ => succeeds_pure hb) fun _ => ?_
  refine .bind (succeeds_unchecked (returns_asioRead hb _ _)) ?_
  rintro ⟨n, buffer, ec⟩ hb
  exact succeeds_pure hb

theorem succeeds_writeConnectRequest (h : target.Fits) (hb : bufferSize ≤ buffer.length) :
    Succeeds (assertedWriteConnectRequest buffer bufferSize target)
      (writeConnectRequest buffer target) fun x => bufferSize ≤ x.2.1.length := by
  rw [assertedWriteConnectRequest, writeConnectRequest]
  refine .check_bind (on_storeRequest h hb) ?_
  rw [prepareRequest_eq (h.trans hb)]
  refine .bind (succeeds_unchecked (Prog.returns_true _)) ?_
  rintro ⟨_, ec⟩ -
  exact succeeds_pure (overlay_le _ hb)

/-- **No assertion of `connect` fails**, on whatever stream it runs, and no encoder it calls
stores outside its buffer. -/
theorem assertedConnect_eq (memory : Vector UInt8 bufferSize) (h : opt.Fits) (ht : target.Fits) :
    assertedConnect memory target opt = unchecked (connect memory target opt) := by
  have hb : bufferSize ≤ memory.toList.length := by simp
  suffices hsucceeds : Succeeds (assertedConnect memory target opt) (connect memory target opt)
      fun _ => True from hsucceeds.eq_unchecked
  cases target with
  | endpoint ep =>
    refine .bind (succeeds_authenticate h hb) ?_
    rintro ⟨_, buffer, ec⟩ hb
    refine .ite (fun _ => succeeds_pure trivial) fun _ => ?_
    refine .bind (succeeds_writeConnectRequest ht hb) ?_
    rintro ⟨_, buffer, ec⟩ -
    refine .ite (fun _ => succeeds_pure trivial) fun _ => ?_
    exact .bind (succeeds_unchecked (Prog.returns_true _)) fun _ _ => succeeds_pure trivial
  | domain ep =>
    refine .bind (succeeds_authenticate h hb) ?_
    rintro ⟨_, buffer, ec⟩ hb
    refine .ite (fun _ => succeeds_pure trivial) fun _ => ?_
    refine .bind (succeeds_writeConnectRequest ht hb) ?_
    rintro ⟨_, buffer, ec⟩ -
    refine .ite (fun _ => succeeds_pure trivial) fun _ => ?_
    refine .bind (succeeds_unchecked (Prog.returns_true _)) ?_
    rintro ⟨ec, ep⟩ -
    exact .ite (fun _ => succeeds_pure trivial) fun _ => succeeds_pure trivial

/-! ### The coroutine -/

/-- The part of `operator()` from the CONNECT request to the next suspension, asserted. -/
def ConnectOp.assertedSendRequest (op : ConnectOp) :
    Option (Suspend ErrorCode ConnectOp Completion) := do
  let (buf, n) ← (storeRequest op.buf.length op.target).on op.buf
  return .asyncWrite (buf.take n) { op with buf := buf, coro := .requestSent }

/-- `connect_op::operator()`, asserted. Four of its seven parts call no encoder. -/
def ConnectOp.assertedResume (op : ConnectOp) (ec : ErrorCode) (n : ℕ) :
    Option (Suspend ErrorCode ConnectOp Completion) :=
  match op.coro with
  | .initial => do
    let (buf, n) ← (storeGreeting op.buf.length op.opt).on op.buf
    guard (n > 2)
    return .asyncWrite (buf.take n) { op with buf := buf, coro := .greetingSent }
  | .choiceRead =>
    let ec := if !ec.failed || ec == .eof then validateServerChoice op.buf n op.opt ec else ec
    if ec.failed then return .complete (ec, default)
    else if byteAt op.buf 1 = authMethodUserpass then do
      let (buf, n) ← (storeUserpassRequest op.buf.length op.opt).on op.buf
      return .asyncWrite (buf.take n) { op with buf := buf, coro := .userpassSent }
    else op.assertedSendRequest
  | .userpassReplyRead =>
    let ec := validateUserpassReply op.buf n ec
    if ec.failed && ec != .eof then return .complete (ec, default)
    else op.assertedSendRequest
  | .greetingSent | .userpassSent | .requestSent | .replyRead => return op.resume ec n

/-- The fields of a `connect_op` that has been started for a target. -/
structure ConnectOp.Started (target : Target) (opt : AuthOptions) (op : ConnectOp) : Prop where
  length_buf : op.buf.length = bufferSize
  target_eq : op.target = target
  opt_eq : op.opt = opt

namespace ConnectOp

variable {op op' : ConnectOp} {ec : ErrorCode} {n : ℕ} {bs : Bytes}

theorem Started.le_length (hop : op.Started target opt) : bufferSize ≤ op.buf.length :=
  Nat.le_of_eq hop.length_buf.symm

theorem started_of_sendRequest (hop : op.Started target opt) (ht : target.Fits)
    (hres : op.sendRequest = .asyncWrite bs op') : op'.Started target opt := by
  cases hres
  refine ⟨?_, hop.target_eq, hop.opt_eq⟩
  rw [← hop.target_eq] at ht
  exact ((writesExactly_request ht).length_eq op.buf hop.le_length).trans hop.length_buf

theorem started_of_asyncWrite (hop : op.Started target opt) (h : opt.Fits) (ht : target.Fits)
    (hres : op.resume ec n = .asyncWrite bs op') : op'.Started target opt := by
  have hb := hop.le_length
  obtain ⟨buf, target, opt, coro⟩ := op
  obtain ⟨hlen, rfl, rfl⟩ := hop
  -- two of the invocations run into the CONNECT request
  have hrequest : ∀ {coro}, sendRequest ⟨buf, target, opt, coro⟩ = .asyncWrite bs op' →
      op'.Started target opt := fun hres => started_of_sendRequest ⟨hlen, rfl, rfl⟩ ht hres
  cases coro with
  | initial =>
    cases hres
    exact ⟨((writesExactly_greeting opt.greeting_le).length_eq buf hb).trans hlen, rfl, rfl⟩
  | greetingSent => simp only [resume] at hres; split at hres <;> cases hres
  | choiceRead =>
    simp only [resume] at hres
    generalize (if (!ec.failed || ec == .eof) = true then validateServerChoice buf n opt ec
      else ec) = ec at hres
    split at hres
    · cases hres
    split at hres
    · cases hres
      exact ⟨((writesExactly_userpassRequest h h.userpass).length_eq buf hb).trans hlen, rfl, rfl⟩
    · exact hrequest hres
  | userpassSent => simp only [resume] at hres; split at hres <;> cases hres
  | userpassReplyRead =>
    simp only [resume] at hres
    split at hres
    · cases hres
    · exact hrequest hres
  | requestSent => simp only [resume] at hres; split at hres <;> cases hres
  | replyRead => simp only [resume] at hres; split_ifs at hres

/-- The reads are of at most 22 bytes. -/
theorem started_of_asyncRead {c : Cond ErrorCode} {cap : ℕ} {next : Bytes → ConnectOp}
    (hop : op.Started target opt) (hres : op.resume ec n = .asyncRead c cap next) {got : Bytes}
    (hgot : got.length ≤ cap) : (next got).Started target opt := by
  have hsize : bufferSize = 513 := rfl
  obtain ⟨buf, target, opt, coro⟩ := op
  obtain ⟨hlen, rfl, rfl⟩ := hop
  have hlength : got.length ≤ 22 → (overlay got buf).length = bufferSize := by
    intro hgot
    rw [length_overlay]
    dsimp only at hlen
    omega
  cases coro with
  | initial => cases hres
  | greetingSent =>
    simp only [resume] at hres
    split at hres <;> cases hres
    exact ⟨hlength (by omega), rfl, rfl⟩
  | choiceRead =>
    simp only [resume, sendRequest] at hres
    split_ifs at hres
  | userpassSent =>
    simp only [resume] at hres
    split at hres <;> cases hres
    exact ⟨hlength (by omega), rfl, rfl⟩
  | userpassReplyRead =>
    simp only [resume, sendRequest] at hres
    split at hres <;> cases hres
  | requestSent =>
    simp only [resume] at hres
    split at hres <;> cases hres
    exact ⟨hlength hgot, rfl, rfl⟩
  | replyRead => simp only [resume] at hres; split_ifs at hres

/-- The buffer has its 513 bytes at every invocation. -/
theorem started_of_run {memory : Vector UInt8 bufferSize} (h : opt.Fits) (ht : target.Fits)
    {evs : List (OpEvent ErrorCode)} {i : Invocation ErrorCode ConnectOp}
    (hrun : ConnectOp.composed.machine.run
      ⟨{ buf := memory.toList, target := target, opt := opt }, .ok, 0⟩ evs = some i) :
    i.self.Started target opt :=
  Composed.machine_invariant (P := Started target opt)
    (fun hop hres => started_of_asyncWrite hop h ht hres)
    (fun hop hres _ hgot => started_of_asyncRead hop hres hgot) ⟨by simp, rfl, rfl⟩ hrun

theorem assertedSendRequest_eq (hop : op.Started target opt) (ht : target.Fits) :
    op.assertedSendRequest = some op.sendRequest := by
  have hon := on_storeRequest ht hop.le_length
  rw [← hop.length_buf, ← hop.target_eq] at hon
  rw [assertedSendRequest, hon]
  rfl

/-- **No assertion of `connect_op` fails** at an invocation that finds the fields so. -/
theorem assertedResume_eq (hop : op.Started target opt) (h : opt.Fits) (ht : target.Fits)
    (ec : ErrorCode) (n : ℕ) : op.assertedResume ec n = some (op.resume ec n) := by
  have hrequest := assertedSendRequest_eq hop ht
  have hgreeting : (storeGreeting bufferSize op.opt).on op.buf = _ := on_storeGreeting hop.le_length
  have hgn : (guard ((prepareGreeting op.buf op.opt).2 > 2) : Option Unit) = some () :=
    if_pos (two_lt_prepareGreeting hop.le_length)
  have huserpass := on_storeUserpassRequest (hop.opt_eq.symm ▸ h) hop.le_length
  rw [← hop.length_buf] at hgreeting huserpass
  cases hcoro : op.coro with
  | initial =>
    simp only [assertedResume, resume, hcoro, hgreeting, Option.bind_eq_bind, Option.bind_some,
      hgn]
    rfl
  | greetingSent => simp only [assertedResume, hcoro]; rfl
  | choiceRead =>
    simp only [assertedResume, resume, hcoro, huserpass, hrequest]
    generalize (if (!ec.failed || ec == .eof) = true then validateServerChoice op.buf n op.opt ec
      else ec) = ec
    split
    · rfl
    · split <;> rfl
  | userpassSent => simp only [assertedResume, hcoro]; rfl
  | userpassReplyRead =>
    simp only [assertedResume, resume, hcoro, hrequest]
    split <;> rfl
  | requestSent => simp only [assertedResume, hcoro]; rfl
  | replyRead => simp only [assertedResume, hcoro]; rfl

end ConnectOp

/-! ### The result -/

/-- **Encoders write exactly what they return.** Whenever its assertions hold, each of the encoders
stores to every index below what it returns and to no other, whatever the buffer held; what
`write_target_host` counts is what `dst_addr_size` has computed. And with user, password and domain
of at most 255 bytes no assertion fails in `connect`, on whatever stream it runs, nor at any
invocation of `connect_op`, whose buffer has 513 bytes throughout. -/
theorem encoders_write_exactly :
    (∀ (n : ℕ) (methods : List UInt8), methods.length ≤ 255 → 2 + methods.length ≤ n →
      WritesExactly (storeGreetingMethods n methods) (prepareGreetingMethods · methods) n
        (2 + methods.length)) ∧
    (∀ (n : ℕ) (opt : AuthOptions), 2 + opt.methods.length ≤ n →
      WritesExactly (storeGreeting n opt) (prepareGreeting · opt) n (2 + opt.methods.length)) ∧
    (∀ (n : ℕ) (opt : AuthOptions), opt.user.length ≤ 255 → opt.pass.length ≤ 255 →
      opt.user.length + opt.pass.length + 3 ≤ n →
      WritesExactly (storeUserpassRequest n opt) (prepareUserpassRequest · opt) n
        (opt.user.length + opt.pass.length + 3)) ∧
    (∀ (n : ℕ) (target : Target), 6 + dstAddrSize target ≤ n →
      WritesExactly (storeRequest n target) (prepareRequest · target) n (dstAddrSize target + 6) ∧
      ∃ stores, (storeTargetHost target).run = some (dstAddrSize target + 3, stores) ∧
        stores.map Store.index = List.range (dstAddrSize target + 3)) ∧
    (∀ (n : ℕ) (targetHost : EndpointV4) (socksUser : Bytes), 9 + socksUser.length ≤ n →
      WritesExactly (storeRequestV4 n targetHost socksUser)
        (prepareRequestV4 · targetHost socksUser) n (9 + socksUser.length)) ∧
    ∀ (memory : Vector UInt8 bufferSize) (target : Target) (opt : AuthOptions), opt.Fits →
      target.Short →
      assertedConnect memory target opt = unchecked (connect memory target opt) ∧
      ∀ (evs : List (OpEvent ErrorCode)) (i : Invocation ErrorCode ConnectOp),
        ConnectOp.composed.machine.run
          ⟨{ buf := memory.toList, target := target, opt := opt }, .ok, 0⟩ evs = some i →
        i.self.buf.length = bufferSize ∧
          i.self.assertedResume i.ec i.n = some (i.self.resume i.ec i.n) := by
  refine ⟨fun n methods => writesExactly_greetingMethods, fun n opt => writesExactly_greeting,
    fun n opt huser hpass => writesExactly_userpassRequest ⟨huser, hpass⟩, fun n target hn => ?_,
    fun n targetHost socksUser => writesExactly_requestV4 targetHost,
    fun memory target opt hopt hshort => ?_⟩
  · have hlen : (targetHostBytes target).length = dstAddrSize target + 3 := by
      have hrequest := length_requestBytes target
      simp only [requestBytes, List.length_cons] at hrequest
      omega
    refine ⟨writesExactly_request hn, _, fills_storeTargetHost target, ?_⟩
    rw [map_index_consecutive, hlen, List.range_eq_range']
  · refine ⟨assertedConnect_eq memory hopt hshort.fits, fun evs i hrun => ?_⟩
    have hstarted := ConnectOp.started_of_run hopt hshort.fits hrun
    exact ⟨hstarted.length_buf, ConnectOp.assertedResume_eq hstarted hopt hshort.fits i.ec i.n⟩

/-- The longest user and password fill the 513 bytes to the last one; the other encoders are given
buffers that they fill too. -/
theorem encoders_write_exactly_full :
    WritesExactly (storeGreetingMethods 4 [0x00, 0x02])
      (prepareGreetingMethods · [0x00, 0x02]) 4 4 ∧
    WritesExactly (storeGreeting 3 .none) (prepareGreeting · .none) 3 3 ∧
    WritesExactly
      (storeUserpassRequest 513 (.userpass (List.replicate 255 0x75) (List.replicate 255 0x70)))
      (prepareUserpassRequest · (.userpass (List.replicate 255 0x75) (List.replicate 255 0x70)))
      513 513 ∧
    WritesExactly (storeRequest 10 (.endpoint default)) (prepareRequest · (.endpoint default))
      10 10 ∧
    WritesExactly (storeRequestV4 10 ⟨⟨fun _ => 127⟩, 80⟩ [0x75])
      (prepareRequestV4 · ⟨⟨fun _ => 127⟩, 80⟩ [0x75]) 10 10 ∧
    assertedConnect (Vector.replicate bufferSize 0) (.domain ⟨List.replicate 255 0x61, 80⟩)
        (.userpass (List.replicate 255 0x75) (List.replicate 255 0x70))
      = unchecked (connect (Vector.replicate bufferSize 0)
        (.domain ⟨List.replicate 255 0x61, 80⟩)
        (.userpass (List.replicate 255 0x75) (List.replicate 255 0x70))) ∧
    ConnectOp.assertedResume ⟨(Vector.replicate bufferSize 0).toList,
        .domain ⟨List.replicate 255 0x61, 80⟩,
        .userpass (List.replicate 255 0x75) (List.replicate 255 0x70), .initial⟩ .ok 0
      = some (ConnectOp.resume ⟨(Vector.replicate bufferSize 0).toList,
        .domain ⟨List.replicate 255 0x61, 80⟩,
        .userpass (List.replicate 255 0x75) (List.replicate 255 0x70), .initial⟩ .ok 0) := by
  obtain ⟨hmethods, hgreeting, huserpass, hrequest, hrequestV4, hclients⟩ :=
    encoders_write_exactly
  have hlongest : ∀ user pass : Bytes, user.length = 255 → pass.length = 255 →
      WritesExactly (storeUserpassRequest 513 (.userpass user pass))
        (prepareUserpassRequest · (.userpass user pass)) 513 513 := by
    intro user pass huser hpass
    have hexact := huserpass 513 (.userpass user pass) (Nat.le_of_eq huser) (Nat.le_of_eq hpass)
    simp only [AuthOptions.userpass, huser, hpass] at hexact
    exact hexact (Nat.le_refl 513)
  obtain ⟨hconnect, hconnectOp⟩ := hclients (Vector.replicate bufferSize 0)
    (.domain ⟨List.replicate 255 0x61, 80⟩)
    (.userpass (List.replicate 255 0x75) (List.replicate 255 0x70))
    ⟨Nat.le_of_eq List.length_replicate, Nat.le_of_eq List.length_replicate⟩
    fun ep hep => by cases hep; exact Nat.le_of_eq List.length_replicate
  exact ⟨hmethods 4 [0x00, 0x02] (by decide) (by decide), hgreeting 3 .none (by decide),
    hlongest _ _ List.length_replicate List.length_replicate,
    (hrequest 10 (.endpoint default) (by decide)).1,
    hrequestV4 10 ⟨⟨fun _ => 127⟩, 80⟩ [0x75] (by decide), hconnect, (hconnectOp [] _ rfl).2⟩

end Socks
