import Socks.Handshake

/-!
# The clients refine the handshake

`connect` and `connect_op` were written out separately, each with its own copy of the branches
and its own buffer. Each is equal, as a program, to the handshake with its policy. The equality
is of trees: every message, every size asked for, every completion condition and every decision
agree after every possible answer of the stream, so the two behave alike on any stream and in
any composition, and what the buffer held to begin with cannot matter.

The hypotheses are the encoders' own assertions. Each lemma of a coroutine is about the program
that is left at one of its suspension points, from the last to the first.

## Main definitions

* `Socks.Mode`, `Socks.Mode.connect` — the two clients, started with any buffer content

## Main results

* `Socks.connect_eq_handshake`, `Socks.connectOp_eq_handshake`
* `Socks.Mode.connect_eq` — both at once
-/

namespace Socks

open Asio

variable {opt : AuthOptions} {target : Target}

/-! ### The synchronous client -/

/-- The user/pass request fits into the buffers of the clients. -/
theorem AuthOptions.Fits.userpass (h : opt.Fits) :
    opt.user.length + opt.pass.length + 3 ≤ bufferSize := by
  have := h.user_le
  have := h.pass_le
  simp only [bufferSize]
  omega

theorem readConnectReply_eq (buffer : Bytes) :
    readConnectReply buffer = .read (replyCond []) 22 fun got ec => .pure (decodeReply got ec) := by
  simp only [readConnectReply, asioRead, Prog.read_bind, Prog.pure_bind, Prog.monad_pure,
    replyCond_eq buffer]
  congr 1
  funext got ec
  rw [← decodeReply_overlay got buffer]
  split_ifs <;> rfl

theorem writeConnectRequest_bind {buffer : Bytes} (h : target.Fits)
    (hb : bufferSize ≤ buffer.length) (f : ℕ × Bytes × ErrorCode → Client Completion) :
    (writeConnectRequest buffer target >>= f) = .write (requestBytes target) fun _ ec =>
      f ((requestBytes target).length, overlay (requestBytes target) buffer, ec) := by
  simp only [writeConnectRequest, prepareRequest_eq (h.trans hb), asioWrite, take_overlay,
    Prog.write_bind, Prog.pure_bind, Prog.monad_pure]

theorem syncPolicy_verdict (got : Bytes) (ec : ErrorCode) : syncPolicy.verdict got ec =
    if (if !ec.failed || ec == .eof then
        validateUserpassReply got got.length ec else ec).failed then
      some (if !ec.failed || ec == .eof then validateUserpassReply got got.length ec else ec)
    else none := rfl

/-- **`authenticate`, then a continuation** that stops on a failure and otherwise goes on to the
request phase, is the handshake. -/
theorem authenticate_bind {buffer : Bytes} (h : opt.Fits) (hb : bufferSize ≤ buffer.length)
    {f : UInt8 × Bytes × ErrorCode → Client Completion}
    (hfail : ∀ c b ec, ec.failed = true → f (c, b, ec) = .pure (ec, default))
    (hnext : ∀ c b ec, ec.failed = false → bufferSize ≤ b.length →
      f (c, b, ec) = requestPhase target) :
    (authenticate buffer opt >>= f) = handshake syncPolicy opt target := by
  have h4 : 4 ≤ bufferSize := by decide
  simp only [authenticate, prepareGreeting_eq opt (h4.trans hb), asioWrite, asioRead, take_overlay,
    Prog.write_bind, Prog.read_bind, Prog.pure_bind, Prog.monad_pure, Prog.ite_bind, handshake]
  congr 1
  funext _ ec
  split_ifs with hec
  · exact hfail _ _ _ hec
  congr 1
  funext got ec
  have hb' := overlay_le got (overlay_le (greetingBytes opt) hb)
  generalize overlay (greetingBytes opt) buffer = buffer' at hb' ⊢
  simp only [choiceError_overlay]
  by_cases hec : (choiceError opt got ec).failed = true
  · rw [if_pos hec, if_pos hec, hfail _ _ _ hec]
  rw [if_neg hec, if_neg hec,
    byteAt_overlay _ (two_le_of_choiceError (Bool.not_eq_true _ ▸ hec))]
  split_ifs with hm
  · rw [prepareUserpassRequest_eq (h.userpass.trans hb'), userpassPhase]
    have hb'' := overlay_le (userpassBytes opt) hb'
    generalize overlay got buffer' = buffer at hb'' ⊢
    dsimp only
    rw [take_overlay]
    congr 1
    funext _ ec
    split_ifs with hec
    · exact hfail _ _ _ hec
    congr 1
    funext got ec
    rw [validateUserpassReply_overlay, syncPolicy_verdict]
    split_ifs with hread hec hec
    · exact hfail _ _ _ hec
    · exact hnext _ _ _ (Bool.not_eq_true _ ▸ hec) (overlay_le got hb'')
    · exact hfail _ _ _ hec
    · exact hnext _ _ _ (Bool.not_eq_true _ ▸ hec) (overlay_le got hb'')
  · exact hnext _ _ _ (Bool.not_eq_true _ ▸ hec) hb'

theorem connectEndpoint_eq (memory : Vector UInt8 bufferSize) (ep : Endpoint) (h : opt.Fits) :
    connectEndpoint memory ep opt = handshake syncPolicy opt (.endpoint ep) := by
  refine authenticate_bind h (by simp) (fun _ _ _ hec => by simp [hec]) fun _ b ec hec hb => ?_
  simp only [hec, Bool.false_eq_true, if_false,
    writeConnectRequest_bind (Target.fits_of_endpoint ep) hb, readConnectReply_eq]
  rfl

/-- The second look this overload takes at the error changes nothing. -/
theorem connectDomain_eq (memory : Vector UInt8 bufferSize) (ep : DomainEndpoint) (h : opt.Fits)
    (ht : (Target.domain ep).Fits) :
    connectDomain memory ep opt = handshake syncPolicy opt (.domain ep) := by
  refine authenticate_bind h (by simp) (fun _ _ _ hec => by simp [hec]) fun _ b ec hec hb => ?_
  simp only [hec, Bool.false_eq_true, if_false, writeConnectRequest_bind ht hb,
    readConnectReply_eq, requestPhase]
  congr 1
  funext _ ec
  split_ifs with hec
  · rfl
  · rw [Prog.read_bind]
    congr 1
    funext got ec
    rw [Prog.pure_bind]
    split_ifs with hfail
    · rw [← decodeReply_of_failed hfail]
      rfl
    · rfl

/-- **`connect` is the handshake** with the synchronous policy. -/
theorem connect_eq_handshake (memory : Vector UInt8 bufferSize) (h : opt.Fits) (ht : target.Fits) :
    connect memory target opt = handshake syncPolicy opt target := by
  cases target with
  | endpoint ep => exact connectEndpoint_eq memory ep h
  | domain ep => exact connectDomain_eq memory ep h ht

/-! ### The asynchronous client -/

/-- An invocation that runs into `sendRequest` leaves the request phase. -/
theorem prog_sendRequest {op : ConnectOp} (h : op.target.Fits) (hb : bufferSize ≤ op.buf.length)
    {ec : ErrorCode} {n : ℕ} (hres : op.resume ec n = op.sendRequest) :
    ConnectOp.composed.prog op ec n = requestPhase op.target := by
  rw [ConnectOp.sendRequest, prepareRequest_eq (h.trans hb)] at hres
  rw [Composed.prog_of_asyncWrite hres, take_overlay, requestPhase]
  refine congrArg _ (funext fun _ => funext fun ec => ?_)
  by_cases hec : ec.failed = true
  · rw [if_pos hec, Composed.prog_of_complete (if_pos hec)]
  rw [if_neg hec, Composed.prog_of_asyncRead (if_neg hec), replyCond_eq]
  refine congrArg _ (funext fun got => funext fun ec => ?_)
  rw [← decodeReply_overlay got (overlay (requestBytes op.target) op.buf)]
  refine Composed.prog_of_complete ?_
  simp only [ConnectOp.composed, ConnectOp.resume]
  split_ifs <;> rfl

theorem prog_userpassReplyRead {buffer : Bytes} (ht : target.Fits)
    (hb : bufferSize ≤ buffer.length) (got : Bytes) (ec : ErrorCode) :
    ConnectOp.composed.prog ⟨overlay got buffer, target, opt, .userpassReplyRead⟩ ec got.length
      = match asyncPolicy.verdict got ec with
        | some e => .pure (e, default)
        | none => requestPhase target := by
  have hresume :
      ConnectOp.resume ⟨overlay got buffer, target, opt, .userpassReplyRead⟩ ec got.length
      = if (validateUserpassReply got got.length ec).failed &&
            validateUserpassReply got got.length ec != .eof then
          .complete (validateUserpassReply got got.length ec, default)
        else ConnectOp.sendRequest ⟨overlay got buffer, target, opt, .userpassReplyRead⟩ := by
    rw [← validateUserpassReply_overlay got buffer]
    rfl
  simp only [asyncPolicy]
  split_ifs at hresume ⊢ with hstop
  · exact Composed.prog_of_complete hresume
  · exact prog_sendRequest ht (overlay_le got hb) hresume

theorem prog_userpassPhase {op : ConnectOp} (ht : op.target.Fits)
    (hb : bufferSize ≤ op.buf.length)
    {ec : ErrorCode} {n : ℕ} (hres : op.resume ec n = .asyncWrite (userpassBytes op.opt)
      { op with buf := overlay (userpassBytes op.opt) op.buf, coro := .userpassSent }) :
    ConnectOp.composed.prog op ec n
      = userpassPhase asyncPolicy op.opt (requestPhase op.target) := by
  rw [Composed.prog_of_asyncWrite hres, userpassPhase]
  refine congrArg _ (funext fun _ => funext fun ec => ?_)
  by_cases hec : ec.failed = true
  · rw [if_pos hec, Composed.prog_of_complete (if_pos hec)]
  rw [if_neg hec, Composed.prog_of_asyncRead (if_neg hec)]
  refine congrArg _ (funext fun got => funext fun ec => ?_)
  exact prog_userpassReplyRead ht (overlay_le _ hb) got ec

theorem prog_choiceRead {buffer : Bytes} (h : opt.Fits) (ht : target.Fits)
    (hb : bufferSize ≤ buffer.length) (got : Bytes) (ec : ErrorCode) :
    ConnectOp.composed.prog ⟨overlay got buffer, target, opt, .choiceRead⟩ ec got.length
      = if (choiceError opt got ec).failed then .pure (choiceError opt got ec, default)
        else if byteAt got 1 = authMethodUserpass then
          userpassPhase asyncPolicy opt (requestPhase target)
        else requestPhase target := by
  have hb' := overlay_le got hb
  have hresume : ConnectOp.resume ⟨overlay got buffer, target, opt, .choiceRead⟩ ec got.length
      = if (choiceError opt got ec).failed then .complete (choiceError opt got ec, default)
        else if byteAt (overlay got buffer) 1 = authMethodUserpass then
          .asyncWrite (userpassBytes opt)
            ⟨overlay (userpassBytes opt) (overlay got buffer), target, opt, .userpassSent⟩
        else ConnectOp.sendRequest ⟨overlay got buffer, target, opt, .choiceRead⟩ := by
    simp only [ConnectOp.resume, choiceError_overlay,
      prepareUserpassRequest_eq (h.userpass.trans hb'), take_overlay]
  by_cases hec : (choiceError opt got ec).failed = true
  · rw [if_pos hec] at hresume ⊢
    exact Composed.prog_of_complete hresume
  rw [if_neg hec, byteAt_overlay _ (two_le_of_choiceError (Bool.not_eq_true _ ▸ hec))] at hresume
  rw [if_neg hec]
  split_ifs at hresume ⊢ with hm
  · exact prog_userpassPhase ht hb' hresume
  · exact prog_sendRequest ht hb' hresume

/-- **`connect_op` is the handshake** with the asynchronous policy. -/
theorem connectOp_eq_handshake (memory : Vector UInt8 bufferSize) (h : opt.Fits)
    (ht : target.Fits) :
    connectOp memory target opt = handshake asyncPolicy opt target := by
  have h4 : 4 ≤ bufferSize := by decide
  have hb : bufferSize ≤ memory.toList.length := by simp
  have hresume : ConnectOp.resume ⟨memory.toList, target, opt, .initial⟩ .ok 0
      = .asyncWrite (greetingBytes opt)
          ⟨overlay (greetingBytes opt) memory.toList, target, opt, .greetingSent⟩ := by
    simp only [ConnectOp.resume, prepareGreeting_eq opt (h4.trans hb), take_overlay]
  rw [connectOp, Composed.prog_of_asyncWrite hresume, handshake]
  refine congrArg _ (funext fun _ => funext fun ec => ?_)
  by_cases hec : ec.failed = true
  · rw [if_pos hec, Composed.prog_of_complete (if_pos hec)]
  rw [if_neg hec, Composed.prog_of_asyncRead (if_neg hec)]
  refine congrArg _ (funext fun got => funext fun ec => ?_)
  exact prog_choiceRead h ht (overlay_le _ hb) got ec

/-! ### Both clients -/

/-- The two clients. -/
inductive Mode
  | sync
  | async

/-- The client of a mode, with its buffer holding `memory`. The buffer of `connect` holds
whatever its stack frame did; that of `asyncConnect` holds zeros. -/
def Mode.connect : Mode → Vector UInt8 bufferSize → Target → AuthOptions → Client Completion
  | .sync => Socks.connect
  | .async => connectOp

/-- The policy of a mode. -/
def Mode.policy : Mode → UserpassPolicy
  | .sync => syncPolicy
  | .async => asyncPolicy

/-- **Both clients are the handshake with their policy.** -/
theorem Mode.connect_eq (mode : Mode) (memory : Vector UInt8 bufferSize) (h : opt.Fits)
    (ht : target.Fits) : mode.connect memory target opt = handshake mode.policy opt target := by
  cases mode with
  | sync => exact connect_eq_handshake memory h ht
  | async => exact connectOp_eq_handshake memory h ht

theorem asyncConnect_eq (target : Target) (opt : AuthOptions) :
    asyncConnect target opt = Mode.async.connect (Vector.replicate bufferSize 0) target opt := rfl

end Socks
