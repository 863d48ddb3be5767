import Socks.Safety

/-!
# Transport errors, and whether the two clients agree

A stream may fail in the middle of any operation. This file is about what the clients make of
that: whether the error a user gets is the error the stream reported, and whether it is the same
one from both clients.

It nearly always is. The exception is the user/pass reply. Before it checks that reply, the
synchronous client tests whether the read failed; the coroutine checks first, and on a short
reply the check replaces the error of the read by its own. `CutsUserpassReply` says exactly when
that shows, and each theorem here holds on every stream that does not do that, and fails on every
stream that does.

SOCKS4 has no such reply, and its two clients are the same program.

## Main definitions

* `Socks.FullReadsOk` — a read that fills its buffer reports no error
* `Socks.CutsUserpassReply` — the stream breaks off inside the user/pass reply
* `Socks.Agree`, `Socks.ErrorsUnchanged` — what is to be shown

## Main results

* `Socks.connect_agree_iff` — when the two SOCKS5 clients agree
* `Socks.errors_unchanged_iff` — when errors come out unchanged, for all four operations
* `Socks.connectV4_contract` — what the SOCKS4 clients do, on any stream
-/

namespace Socks

open Asio

variable {σ : Type} {policy policy' : UserpassPolicy} {opt : AuthOptions} {target : Target}

/-! ### The user/pass reply -/

/-- A composed read that filled its buffer reported no error. -/
def FullReadOk : IoStep → Prop
  | .read cap got ec => got.length = cap → ec.failed = false
  | _ => True

instance : DecidablePred FullReadOk
  | .read _ _ _ => inferInstanceAs (Decidable (_ → _))
  | .write _ _ _ => .isTrue trivial
  | .call q _ => nomatch q

/-- No read of these operations reported an error along with a full buffer. -/
def FullReadsOk (t : List IoStep) : Prop := ∀ x ∈ t, FullReadOk x

instance (t : List IoStep) : Decidable (FullReadsOk t) :=
  inferInstanceAs (Decidable (∀ x ∈ t, FullReadOk x))

/-- The stream lets a client with these options get as far as the user/pass reply, and breaks off
inside that reply with an error that is not the end of the file (nor, by coincidence, the one the
check of a short reply reports). -/
def CutsUserpassReply (st : Asio.Stream ErrorCode σ) (opt : AuthOptions) (s : σ) : Prop :=
  ∃ got e, userpassReply st opt s = some (got, e) ∧ got.length < 2 ∧ e.failed = true ∧
    e ≠ .eof ∧ e ≠ makeErrorCode .badReplySize

theorem userpassReply_length_le {st : Asio.Stream ErrorCode σ} {s : σ} {got : Bytes}
    {e : ErrorCode} (h : userpassReply st opt s = some (got, e)) : got.length ≤ 2 := by
  simp only [userpassReply] at h
  split_ifs at h
  cases h
  exact st.read_length_le _ _ _

/-- On a reply that was read without a failure, or that the end of the file cut short, the two
policies agree. -/
theorem verdict_eq {got : Bytes} {e : ErrorCode}
    (h : e.failed = false ∨ (e = .eof ∧ got.length ≠ 2)) :
    syncPolicy.verdict got e = asyncPolicy.verdict got e := by
  have hread : e.failed = false ∨ e = .eof := h.imp_right And.left
  rcases validateUserpassReply_eq_or got e with ⟨hgot, hval⟩ | ⟨x, hx, hval⟩
  · rcases h with h | ⟨-, hlen⟩
    · simp [syncPolicy, asyncPolicy, hval, h]
    · exact absurd (congrArg List.length hgot) hlen
  · simp [syncPolicy, asyncPolicy, hval, hread, hx, makeErrorCode_ne_eof]

/-- On a reply that a failure cut short, the synchronous client reports the failure and the
asynchronous one the size. -/
theorem verdict_cut {got : Bytes} {e : ErrorCode} (hlen : got.length < 2) (he : e.failed = true)
    (hne : e ≠ .eof) :
    syncPolicy.verdict got e = some e ∧
      asyncPolicy.verdict got e = some (makeErrorCode .badReplySize) := by
  have hval : validateUserpassReply got got.length e = makeErrorCode .badReplySize :=
    if_pos (Nat.ne_of_lt hlen)
  have hsize : (makeErrorCode .badReplySize).failed = true := rfl
  constructor
  · simp [syncPolicy, he, hne]
  · simp [asyncPolicy, hval, hsize, makeErrorCode_ne_eof]

/-- A run depends on the policy only in its verdict on the user/pass reply, if it gets there. -/
theorem handshake_run_policy_congr (st : Asio.Stream ErrorCode σ) {ans : Empty → σ → Empty × σ}
    (s : σ) (h : ∀ got e, userpassReply st opt s = some (got, e) →
      policy.verdict got e = policy'.verdict got e) :
    (handshake policy opt target).run st ans s = (handshake policy' opt target).run st ans s := by
  simp only [handshake, Prog.run, userpassReply] at h ⊢
  split_ifs with he
  · rfl
  simp only [Prog.run]
  have hlen := st.read_length_le transferAll 2 (st.write (greetingBytes opt) s).rest
  generalize st.read transferAll 2 (st.write (greetingBytes opt) s).rest = r at hlen h ⊢
  by_cases hc : (choiceError opt r.got r.ec).failed = true
  · rw [if_pos hc, if_pos hc]
  rw [if_neg hc, if_neg hc]
  obtain ⟨m, hm, hgot, he'⟩ := choice_of_choiceError hlen (Bool.not_eq_true _ ▸ hc)
  split_ifs with hchoice
  · obtain rfl : m = 0x02 := by simpa [hgot] using hchoice
    have hopt := opt.isUserpass_of_mem_methods hm
    simp only [userpassPhase, Prog.run]
    split_ifs with hu
    · rfl
    · have hv := h _ _ (if_pos ⟨Bool.not_eq_true _ ▸ he, hgot, he', hopt, Bool.not_eq_true _ ▸ hu⟩)
      simp only [Prog.run, hv]
  · rfl

/-- What the stream has reported when the user/pass reply is read. -/
theorem exists_of_userpassReply {st : Asio.Stream ErrorCode σ} {s : σ} {got : Bytes}
    {e : ErrorCode} (h : userpassReply st opt s = some (got, e)) :
    opt.isUserpass = true ∧ ∃ e₁ s₁ e₂ s₂ e₃ s₃ s₄,
      st.write (greetingBytes opt) s = ⟨(greetingBytes opt).length, e₁, s₁⟩ ∧ e₁.failed = false ∧
      st.read transferAll 2 s₁ = ⟨[0x05, 0x02], e₂, s₂⟩ ∧ e₂.failed = false ∧
      st.write (userpassBytes opt) s₂ = ⟨(userpassBytes opt).length, e₃, s₃⟩ ∧
      e₃.failed = false ∧ st.read transferAll 2 s₃ = ⟨got, e, s₄⟩ := by
  rcases hw : st.write (greetingBytes opt) s with ⟨n₁, e₁, s₁⟩
  rcases hr : st.read transferAll 2 s₁ with ⟨choice, e₂, s₂⟩
  rcases hw' : st.write (userpassBytes opt) s₂ with ⟨n₃, e₃, s₃⟩
  rcases hr' : st.read transferAll 2 s₃ with ⟨reply, e₄, s₄⟩
  simp only [userpassReply, hw, hr, hw', hr'] at h
  split_ifs at h with hcond
  obtain ⟨he, rfl, he', hopt, hu⟩ := hcond
  cases h
  have hn₁ := st.write_complete (greetingBytes opt) s (by rw [hw]; exact he)
  have hn₃ := st.write_complete (userpassBytes opt) s₂ (by rw [hw']; exact hu)
  rw [hw] at hn₁
  rw [hw'] at hn₃
  exact ⟨hopt, e₁, s₁, e₂, s₂, e₃, s₃, s₄, by rw [← hn₁], he, hr, he', by rw [hw', ← hn₃], hu, hr'⟩

/-- A run that stops at the user/pass reply. -/
theorem handshake_run_of_userpassReply {st : Asio.Stream ErrorCode σ}
    {ans : Empty → σ → Empty × σ} {s : σ} {got : Bytes} {e x : ErrorCode}
    (h : userpassReply st opt s = some (got, e)) (hv : policy.verdict got e = some x) :
    ∃ e₁ e₂ e₃ : ErrorCode, e₁.failed = false ∧ e₂.failed = false ∧ e₃.failed = false ∧
      ((handshake policy opt target).run st ans s).trace
        = [.write (greetingBytes opt) (greetingBytes opt).length e₁, .read 2 [0x05, 0x02] e₂,
          .write (userpassBytes opt) (userpassBytes opt).length e₃, .read 2 got e] ∧
      ((handshake policy opt target).run st ans s).result = (x, default) := by
  obtain ⟨hopt, e₁, s₁, e₂, s₂, e₃, s₃, s₄, hw, he, hr, he', hw', hu, hr'⟩ :=
    exists_of_userpassReply h
  refine ⟨e₁, e₂, e₃, he, he', hu, ?_⟩
  rw [handshake_run_userpass hopt hw he hr he' hw' hu hr', hv]
  exact ⟨rfl, rfl⟩

/-- Every policy gets to see the user/pass reply. -/
theorem read_mem_trace_of_userpassReply {st : Asio.Stream ErrorCode σ}
    {ans : Empty → σ → Empty × σ} {s : σ} {got : Bytes} {e : ErrorCode}
    (h : userpassReply st opt s = some (got, e)) :
    .read 2 got e ∈ ((handshake policy opt target).run st ans s).trace := by
  obtain ⟨hopt, e₁, s₁, e₂, s₂, e₃, s₃, s₄, hw, he, hr, he', hw', hu, hr'⟩ :=
    exists_of_userpassReply h
  rw [handshake_run_userpass hopt hw he hr he' hw' hu hr']
  simp

/-! ### Whether the clients agree -/

/-- Two runs that issue the same bytes, consume the same bytes and finish alike, leaving the
stream in the same state. -/
def Agree (r r' : ClientRun σ) : Prop :=
  started r.trace = started r'.trace ∧ written r.trace = written r'.trace ∧
    received r.trace = received r'.trace ∧ r.rest = r'.rest ∧ r.result = r'.result

/-- **When the SOCKS5 clients agree.** If no read of the run reports an error along with a full
buffer, the synchronous and the asynchronous client behave alike unless the stream breaks off
inside the user/pass reply; and then they do not. -/
theorem connect_agree_iff (memory : Vector UInt8 bufferSize) (h : opt.Fits) (ht : target.Fits)
    (st : Asio.Stream ErrorCode σ) (s : σ)
    (hfull : FullReadsOk ((connect memory target opt).runOn st s).trace) :
    Agree ((connect memory target opt).runOn st s) ((asyncConnect target opt).runOn st s) ↔
      ¬CutsUserpassReply st opt s := by
  rw [connect_eq_handshake memory h ht] at hfull ⊢
  rw [asyncConnect, connectOp_eq_handshake _ h ht]
  constructor
  · rintro ⟨-, -, -, -, hresult⟩ ⟨got, e, hreply, hlen, he, hne, hsize⟩
    obtain ⟨hsync, hasync⟩ := verdict_cut hlen he hne
    obtain ⟨_, _, _, -, -, -, -, hrun⟩ := handshake_run_of_userpassReply hreply hsync
    obtain ⟨_, _, _, -, -, -, -, hrun'⟩ := handshake_run_of_userpassReply hreply hasync
    have hcodes := (hrun.symm.trans hresult).trans hrun'
    exact hsize (congrArg Prod.fst hcodes)
  · intro hcut
    have hrun : (handshake syncPolicy opt target).runOn st s
        = (handshake asyncPolicy opt target).runOn st s := by
      refine handshake_run_policy_congr st s fun got e hreply => ?_
      by_cases he : e.failed = false
      · exact verdict_eq (Or.inl he)
      have hlen : got.length < 2 :=
        Nat.lt_of_le_of_ne (userpassReply_length_le hreply) fun h2 =>
          he (hfull _ (read_mem_trace_of_userpassReply hreply) h2)
      by_cases heof : e = .eof
      · exact verdict_eq (Or.inr ⟨heof, Nat.ne_of_lt hlen⟩)
      rw [Bool.not_eq_false] at he
      by_cases hsize : e = makeErrorCode .badReplySize
      · obtain ⟨hsync, hasync⟩ := verdict_cut hlen he heof
        rw [hsync, hasync, hsize]
      · exact absurd ⟨got, e, hreply, hlen, he, heof, hsize⟩ hcut
    rw [hrun]
    exact ⟨rfl, rfl, rfl, rfl, rfl⟩

/-- A server that chooses user/pass and resets the connection instead of replying to it. -/
def resetScript : Script ErrorCode where
  reads := [⟨[0x05, 0x02], .ok, nofun⟩, ⟨[], ⟨.system, 104⟩, fun _ => rfl⟩]
  writes := []

/-- A client with credentials against that server. -/
def resetRun (p : Client Completion) : ClientRun (Script ErrorCode) :=
  p.runOn (Script.stream .eof ErrorCode.failed_eof) resetScript

/-- There the synchronous client reports the reset, and the asynchronous one a bad size. -/
theorem connect_disagree_reset :
    let r := resetRun (connect (Vector.replicate bufferSize 0) (.endpoint default)
      (.userpass [0x75] [0x70]))
    let r' := resetRun (asyncConnect (.endpoint default) (.userpass [0x75] [0x70]))
    FullReadsOk r.trace ∧ r.result = (⟨.system, 104⟩, default) ∧
      r'.result = (makeErrorCode .badReplySize, default) ∧ ¬Agree r r' := by
  intro r r'
  have hresult : r.result = (⟨.system, 104⟩, default) := by decide +kernel
  have hresult' : r'.result = (makeErrorCode .badReplySize, default) := by decide +kernel
  refine ⟨by decide +kernel, hresult, hresult', ?_⟩
  rintro ⟨-, -, -, -, h⟩
  rw [hresult, hresult'] at h
  exact absurd h (by decide)

/-- They agree against a server that chooses no authentication. -/
theorem connect_agree_plain :
    Agree (plainRun .sync (.userpass [0x75] [0x70]))
      (plainRun .async (.userpass [0x75] [0x70])) := by
  have h : (AuthOptions.userpass [0x75] [0x70]).Fits := ⟨by decide, by decide⟩
  have ht : (Target.domain ⟨[0x61], 80⟩).Fits := by decide
  have hreply : userpassReply (Script.stream .eof ErrorCode.failed_eof) (.userpass [0x75] [0x70])
      plainScript = none := by decide +kernel
  refine (connect_agree_iff (Vector.replicate bufferSize 0) h ht
    (Script.stream .eof ErrorCode.failed_eof) plainScript (by decide +kernel)).mpr ?_
  rintro ⟨got, e, hsome, -⟩
  rw [hreply] at hsome
  cases hsome

/-! ### Whether errors come out unchanged -/

/-- The operations of the library. -/
inductive Operation
  | connect (memory : Vector UInt8 bufferSize) (target : Target) (opt : AuthOptions)
  | asyncConnect (target : Target) (opt : AuthOptions)
  | connectV4 (target : EndpointV4) (user : Bytes)
  | asyncConnectV4 (target : EndpointV4) (user : Bytes)

/-- The program of an operation. -/
def Operation.prog : Operation → Client Completion
  | .connect memory target opt => Socks.connect memory target opt
  | .asyncConnect target opt => Socks.asyncConnect target opt
  | .connectV4 target user => Socks.connectV4 target user
  | .asyncConnectV4 target user => Socks.asyncConnectV4 target user

/-- The inputs an operation may be called with. -/
def Operation.Valid : Operation → Prop
  | .connect _ target opt | .asyncConnect target opt => opt.Fits ∧ target.Fits
  | .connectV4 _ _ | .asyncConnectV4 _ _ => True

/-- The operation is the asynchronous SOCKS5 client, and the stream breaks off inside the user/pass
reply. -/
def Operation.CutsUserpassReply (op : Operation) (st : Asio.Stream ErrorCode σ) (s : σ) : Prop :=
  match op with
  | .asyncConnect _ opt => Socks.CutsUserpassReply st opt s
  | _ => False

/-- An operation that transferred less than it asked for and ended with a failure other than the
end of the file. -/
def CutShort : IoStep → Prop
  | .write bs n ec => n < bs.length ∧ ec.failed = true ∧ ec ≠ .eof
  | .read cap got ec => got.length < cap ∧ ec.failed = true ∧ ec ≠ .eof
  | .call q _ => nomatch q

/-- If everything up to some operation succeeded and that one was cut short, the run ends there,
with the error as it was reported and the default endpoint. -/
def ErrorsUnchanged (r : ClientRun σ) : Prop :=
  ∀ (pre post : List IoStep) (x : IoStep), r.trace = pre ++ x :: post →
    (∀ y ∈ pre, (ioError y).failed = false) → CutShort x →
      post = [] ∧ r.result = (ioError x, default)

theorem CutShort.failed {x : IoStep} (h : CutShort x) :
    (ioError x).failed = true ∧ ioError x ≠ .eof := by
  match x with
  | .write _ _ _ => exact h.2
  | .read _ _ _ => exact h.2

theorem CutShort.not_goesOn {x : IoStep} (h : CutShort x) : ¬GoesOn x := by
  intro hx
  rcases hx.ioError with hok | heof
  · exact absurd (hok.symm.trans h.failed.1) (by decide)
  · exact h.failed.2 heof

/-- An error the reply decoders are not asked about. -/
theorem decodeReply_of_cut {got : Bytes} {e : ErrorCode} (he : e.failed = true) (hne : e ≠ .eof) :
    decodeReply got e = (e, default) :=
  if_pos (by simp [he, hne])

theorem decodeReplyV4_of_cut {got : Bytes} {e : ErrorCode} (he : e.failed = true)
    (hne : e ≠ .eof) : decodeReplyV4 got e = (e, default) :=
  if_pos (by simp [he, hne])

theorem choiceError_of_cut {got : Bytes} {e : ErrorCode} (he : e.failed = true) (hne : e ≠ .eof) :
    choiceError opt got e = e :=
  if_neg (by simp [he, hne])

/-- **The last operation of a run, cut short, gives the run its error**, unless it is the read of
the user/pass reply; there the policy has the last word. -/
theorem Transcript.result_of_cut {reply : Option (Bytes × ErrorCode)} {t pre : List IoStep}
    {c : Completion} {x : IoStep} (h : Transcript policy opt target reply t c)
    (ht : t = pre ++ [x]) (hx : CutShort x) :
    c = (ioError x, default) ∨
      ∃ got e y, x = .read 2 got e ∧ reply = some (got, e) ∧ policy.verdict got e = some y ∧
        c = (y, default) := by
  have hlast : t.getLast? = some x := by rw [ht, List.getLast?_concat]
  obtain ⟨hfailed, hne⟩ := hx.failed
  cases h with
  | greetingFailed =>
    obtain rfl : _ = x := by simpa using hlast
    exact Or.inl rfl
  | choiceRejected =>
    obtain rfl : _ = x := by simpa using hlast
    exact Or.inl (congrArg (·, default) (choiceError_of_cut hfailed hne))
  | userpassFailed =>
    obtain rfl : _ = x := by simpa using hlast
    exact Or.inl rfl
  | userpassRejected hopt he he' hu hlen hreply hv =>
    obtain rfl : _ = x := by simpa using hlast
    exact Or.inr ⟨_, _, _, rfl, hreply, hv, rfl⟩
  | requestFailed =>
    obtain rfl : _ = x := by simpa using hlast
    exact Or.inl rfl
  | replied =>
    obtain rfl : _ = x := by simpa using hlast
    exact Or.inl (decodeReply_of_cut hfailed hne)

theorem TranscriptV4.result_of_cut {target : EndpointV4} {user : Bytes} {t pre : List IoStep}
    {c : Completion} {x : IoStep} (h : TranscriptV4 target user t c) (ht : t = pre ++ [x])
    (hx : CutShort x) : c = (ioError x, default) := by
  have hlast : t.getLast? = some x := by rw [ht, List.getLast?_concat]
  obtain ⟨hfailed, hne⟩ := hx.failed
  cases h with
  | requestFailed =>
    obtain rfl : _ = x := by simpa using hlast
    rfl
  | replied =>
    obtain rfl : _ = x := by simpa using hlast
    exact decodeReplyV4_of_cut hfailed hne

/-- SOCKS4 leaves every error as it is. -/
theorem handshakeV4_errorsUnchanged (target : EndpointV4) (user : Bytes)
    (st : Asio.Stream ErrorCode σ) (s : σ) :
    ErrorsUnchanged ((handshakeV4 target user).runOn st s) := by
  intro pre post x hsplit _ hx
  have htr := handshakeV4_transcript st target user s
  obtain rfl : post = [] := eq_nil_of_goesOn htr.goesOn hsplit hx.not_goesOn
  exact ⟨rfl, htr.result_of_cut hsplit hx⟩

/-- A SOCKS5 client leaves an error as it is if its policy does so with the user/pass reply. -/
theorem handshake_errorsUnchanged (st : Asio.Stream ErrorCode σ) (s : σ)
    (hpolicy : ∀ got e x, userpassReply st opt s = some (got, e) → got.length < 2 →
      e.failed = true → e ≠ .eof → policy.verdict got e = some x → x = e) :
    ErrorsUnchanged ((handshake policy opt target).runOn st s) := by
  intro pre post x hsplit _ hx
  have htr : Transcript policy opt target (userpassReply st opt s)
      ((handshake policy opt target).runOn st s).trace
      ((handshake policy opt target).runOn st s).result := handshake_transcript st s
  obtain rfl : post = [] := eq_nil_of_goesOn htr.goesOn hsplit hx.not_goesOn
  refine ⟨rfl, ?_⟩
  rcases htr.result_of_cut hsplit hx with hresult | ⟨got, e, y, rfl, hreply, hv, hresult⟩
  · exact hresult
  · rw [hresult, hpolicy got e y hreply hx.1 hx.2.1 hx.2.2 hv]
    rfl

/-- **When errors come out unchanged.** Each of the four operations, cut short at any of its steps
by a failure other than the end of the file, completes with that very failure and does nothing
more, on every stream, except that the asynchronous SOCKS5 client does not when the stream breaks
off inside the user/pass reply. -/
theorem errors_unchanged_iff (op : Operation) (hop : op.Valid) (st : Asio.Stream ErrorCode σ)
    (s : σ) : ErrorsUnchanged (op.prog.runOn st s) ↔ ¬op.CutsUserpassReply st s := by
  cases op with
  | connect memory target opt =>
    obtain ⟨h, ht⟩ := hop
    refine iff_of_true ?_ not_false
    rw [Operation.prog, connect_eq_handshake memory h ht]
    refine handshake_errorsUnchanged st s fun got e x hreply hlen he hne hv => ?_
    rw [(verdict_cut hlen he hne).1] at hv
    exact (Option.some_inj.mp hv).symm
  | connectV4 target user =>
    refine iff_of_true ?_ not_false
    rw [Operation.prog, connectV4_eq_handshakeV4]
    exact handshakeV4_errorsUnchanged target user st s
  | asyncConnectV4 target user =>
    refine iff_of_true ?_ not_false
    rw [Operation.prog, asyncConnectV4_eq_handshakeV4]
    exact handshakeV4_errorsUnchanged target user st s
  | asyncConnect target opt =>
    obtain ⟨h, ht⟩ := hop
    rw [Operation.prog, asyncConnect, connectOp_eq_handshake _ h ht]
    constructor
    · rintro hunchanged ⟨got, e, hreply, hlen, he, hne, hsize⟩
      have hv := (verdict_cut hlen he hne).2
      obtain ⟨e₁, e₂, e₃, he₁, he₂, he₃, htrace, hresult⟩ :=
        handshake_run_of_userpassReply hreply hv
      have hend := (hunchanged [_, _, _] [] (.read 2 got e) htrace
        (by simp [ioError, he₁, he₂, he₃]) ⟨hlen, he, hne⟩).2
      exact hsize (congrArg Prod.fst (hresult.symm.trans hend)).symm
    · intro hcut
      refine handshake_errorsUnchanged st s fun got e x hreply hlen he hne hv => ?_
      by_cases hsize : e = makeErrorCode .badReplySize
      · rw [(verdict_cut hlen he hne).2] at hv
        rw [hsize]
        exact (Option.some_inj.mp hv).symm
      · exact absurd ⟨got, e, hreply, hlen, he, hne, hsize⟩ hcut

/-- The reset that `connect_disagree_reset` is about does not come out of the asynchronous client,
though the two messages before it were written and the choice was read. -/
theorem errors_changed_reset :
    ¬ErrorsUnchanged (resetRun
      (Operation.asyncConnect (.endpoint default) (.userpass [0x75] [0x70])).prog) := by
  intro h
  have hend := (h [.write [0x05, 0x02, 0x00, 0x02] 4 .ok, .read 2 [0x05, 0x02] .ok,
    .write [0x01, 0x01, 0x75, 0x01, 0x70] 5 .ok] [] (.read 2 [] ⟨.system, 104⟩)
    (by decide +kernel) (by decide) ⟨by decide, by decide, by decide⟩).2
  have hresult : (resetRun
      (Operation.asyncConnect (.endpoint default) (.userpass [0x75] [0x70])).prog).result
      = (makeErrorCode .badReplySize, default) := by decide +kernel
  rw [hresult] at hend
  exact absurd hend (by decide)

/-- It does come out of the synchronous one. -/
theorem errors_unchanged_reset :
    ErrorsUnchanged (resetRun (Operation.connect (Vector.replicate bufferSize 0)
      (.endpoint default) (.userpass [0x75] [0x70])).prog) := by
  have h : (AuthOptions.userpass [0x75] [0x70]).Fits := ⟨by decide, by decide⟩
  exact (errors_unchanged_iff (.connect _ _ _) ⟨h, Target.fits_of_endpoint default⟩
    (Script.stream .eof ErrorCode.failed_eof) resetScript).mpr not_false

/-! ### The SOCKS4 clients -/

/-- **What the SOCKS4 clients do.** They are one and the same on every stream. They write the
bytes of `prepare_request_v4`, or, when that write fails, a prefix of them; they read at most eight
bytes, and on a scripted stream everything after those is still there; and they succeed only if
the request was written in full and eight bytes came back that grant it. -/
theorem connectV4_contract (target : EndpointV4) (user : Bytes) :
    let request := (prepareRequestV4 (List.replicate (9 + user.length) 0) target user).1
    (∀ {σ : Type} (st : Asio.Stream ErrorCode σ) (s : σ),
      let r := (connectV4 target user).runOn st s
      r = (asyncConnectV4 target user).runOn st s ∧
      (written r.trace = request ∨
        written r.trace <+: request ∧ ∃ n e, r.trace = [.write request n e] ∧ e.failed = true) ∧
      (received r.trace).flatten.length ≤ 8 ∧
      (r.result.1.failed = false → written r.trace = request ∧
        ∃ reply, received r.trace = [reply] ∧ reply.length = 8 ∧
          (byteAt reply 0 = 0x00 ∨ byteAt reply 0 = 0x04) ∧ byteAt reply 1 = 90)) ∧
    ∀ (eof : ErrorCode) (heof : eof.failed = true) (s : Script ErrorCode),
      let r := (connectV4 target user).runOn (Script.stream eof heof) s
      bytesOf s.reads = (received r.trace).flatten ++ bytesOf r.rest.reads := by
  have hrequest : (prepareRequestV4 (List.replicate (9 + user.length) 0) target user).1
      = requestV4Bytes target user := by
    rw [prepareRequestV4_eq target List.length_replicate]
  intro request
  refine ⟨fun st s => ?_, fun eof heof s =>
    Script.run_conserves heof (fun q => nomatch q) _ s⟩
  intro r
  have hr : r = (handshakeV4 target user).runOn st s :=
    congrArg (fun p => Client.runOn p st s) (connectV4_eq_handshakeV4 target user)
  refine ⟨by rw [asyncConnectV4_eq_handshakeV4, hr], ?_⟩
  have htr := handshakeV4_transcript st target user s
  rw [← hr] at htr
  simp only [request, hrequest]
  generalize r.trace = t at htr ⊢
  generalize r.result = c at htr ⊢
  cases htr with
  | requestFailed hn he =>
    refine ⟨Or.inr ⟨?_, _, _, rfl, he⟩, by simp [received], fun hok => ?_⟩
    · simpa [written] using List.take_prefix _ _
    · exact absurd (hok.symm.trans he) (by decide)
  | replied he hlen =>
    refine ⟨Or.inl (by simp [written]), by simpa [received] using hlen, fun hok => ?_⟩
    exact ⟨by simp [written], _, rfl, grant_of_decodeReplyV4 hok⟩

/-- A SOCKS4 server that grants the request in two chunks, and relays one more byte. -/
def grantScript : Script ErrorCode where
  reads := [⟨[0x00, 90, 0x1F], .ok, nofun⟩, ⟨[0x90, 127, 0, 0, 1, 0x48], .ok, nofun⟩]
  writes := []

/-- The client gets its grant, and the byte behind it is still there. -/
theorem connectV4_contract_granted :
    let r := (connectV4 ⟨⟨![127, 0, 0, 1]⟩, 0x1F90⟩ [0x75]).runOn
      (Script.stream .eof ErrorCode.failed_eof) grantScript
    (∃ reply, received r.trace = [reply] ∧ reply.length = 8 ∧
      (byteAt reply 0 = 0x00 ∨ byteAt reply 0 = 0x04) ∧ byteAt reply 1 = 90) ∧
    bytesOf grantScript.reads = (received r.trace).flatten ++ bytesOf r.rest.reads := by
  intro r
  obtain ⟨hstream, hscript⟩ := connectV4_contract ⟨⟨![127, 0, 0, 1]⟩, 0x1F90⟩ [0x75]
  obtain ⟨-, -, -, hgrant⟩ := hstream (Script.stream .eof ErrorCode.failed_eof) grantScript
  exact ⟨(hgrant (by decide +kernel)).2, hscript .eof ErrorCode.failed_eof grantScript⟩

end Socks
