import Socks.Refinement
import Socks.ConnectV4
import Socks.Asio.Stream

/-!
# Transcripts

Every run of a handshake, against any stream, as one of six lists of operations: where it ended,
and what must have gone before. The stream may do anything its type allows, so this is the
inversion lemma of the whole client, and the theorems about runs are case analyses over it.

A transcript that gets to the request phase has a `Negotiated` prefix. It is there that the two
clients' policies are forgotten: whatever the policy, the prefix ends with a choice of no
authentication, or with access granted.

## Main definitions

* `Socks.Client.runOn` — a client against a stream
* `Socks.Negotiated`, `Socks.Transcript`, `Socks.TranscriptV4`

## Main results

* `Socks.Mode.transcript` — every run of either client has a transcript
* `Socks.Mode.transcriptV4` — the same for SOCKS4
* `Socks.eq_nil_of_goesOn` — nothing follows an operation that failed
-/

namespace Socks

open Asio

variable {σ : Type} {policy : UserpassPolicy} {opt : AuthOptions} {target : Target}

/-- One operation of a client. -/
abbrev IoStep : Type := Step ErrorCode Empty Empty

/-- A finished run of a client. -/
abbrev ClientRun (σ : Type) : Type := Run ErrorCode Empty Empty Completion σ

/-- Run a client against a stream. A client asks nothing. -/
def Client.runOn (p : Client Completion) (st : Asio.Stream ErrorCode σ) (s : σ) : ClientRun σ :=
  Prog.run st (fun q => nomatch q) p s

/-- The error an operation reported. -/
def ioError : IoStep → ErrorCode
  | .write _ _ ec => ec
  | .read _ _ ec => ec
  | .call q _ => nomatch q

/-- What the stream has for the user/pass reply, if a client with these options gets to read it:
the greeting goes out, the choice is user/pass, and so does the user/pass request. -/
def userpassReply (st : Asio.Stream ErrorCode σ) (opt : AuthOptions) (s : σ) :
    Option (Bytes × ErrorCode) :=
  let greeting := st.write (greetingBytes opt) s
  let choice := st.read transferAll 2 greeting.rest
  let request := st.write (userpassBytes opt) choice.rest
  let reply := st.read transferAll 2 request.rest
  if greeting.ec.failed = false ∧ choice.got = [0x05, 0x02] ∧ choice.ec.failed = false ∧
      opt.isUserpass = true ∧ request.ec.failed = false then
    some (reply.got, reply.ec)
  else none

/-! ### Transcripts -/

/-- What a run has done when it has negotiated: greeted, been offered no authentication or been
granted access, with every message written in full. -/
inductive Negotiated (policy : UserpassPolicy) (opt : AuthOptions) : List IoStep → Prop
  | noAuth {e e' : ErrorCode} (he : e.failed = false) (he' : e'.failed = false) :
      Negotiated policy opt [.write (greetingBytes opt) (greetingBytes opt).length e,
        .read 2 [0x05, 0x00] e']
  | userpass {e e' u u' : ErrorCode} (hopt : opt.isUserpass = true) (he : e.failed = false)
      (he' : e'.failed = false) (hu : u.failed = false)
      (hu' : policy.verdict [0x01, 0x00] u' = none) :
      Negotiated policy opt [.write (greetingBytes opt) (greetingBytes opt).length e,
        .read 2 [0x05, 0x02] e', .write (userpassBytes opt) (userpassBytes opt).length u,
        .read 2 [0x01, 0x00] u']

/-- The runs of a handshake, by where they end; `reply` is what the stream has for the user/pass
reply. -/
inductive Transcript (policy : UserpassPolicy) (opt : AuthOptions) (target : Target)
    (reply : Option (Bytes × ErrorCode)) : List IoStep → Completion → Prop
  | greetingFailed {n : ℕ} {e : ErrorCode} (he : e.failed = true) :
      Transcript policy opt target reply [.write (greetingBytes opt) n e] (e, default)
  | choiceRejected {e e' : ErrorCode} {got : Bytes} (he : e.failed = false)
      (hlen : got.length ≤ 2) (hc : (choiceError opt got e').failed = true) :
      Transcript policy opt target reply
        [.write (greetingBytes opt) (greetingBytes opt).length e, .read 2 got e']
        (choiceError opt got e', default)
  | userpassFailed {e e' u : ErrorCode} {n : ℕ} (hopt : opt.isUserpass = true)
      (he : e.failed = false) (he' : e'.failed = false) (hu : u.failed = true) :
      Transcript policy opt target reply
        [.write (greetingBytes opt) (greetingBytes opt).length e, .read 2 [0x05, 0x02] e',
          .write (userpassBytes opt) n u]
        (u, default)
  | userpassRejected {e e' u u' x : ErrorCode} {got : Bytes} (hopt : opt.isUserpass = true)
      (he : e.failed = false) (he' : e'.failed = false) (hu : u.failed = false)
      (hlen : got.length ≤ 2) (hreply : reply = some (got, u'))
      (hv : policy.verdict got u' = some x) :
      Transcript policy opt target reply
        [.write (greetingBytes opt) (greetingBytes opt).length e, .read 2 [0x05, 0x02] e',
          .write (userpassBytes opt) (userpassBytes opt).length u, .read 2 got u']
        (x, default)
  | requestFailed {t : List IoStep} {n : ℕ} {e : ErrorCode} (ht : Negotiated policy opt t)
      (he : e.failed = true) :
      Transcript policy opt target reply (t ++ [.write (requestBytes target) n e]) (e, default)
  | replied {t : List IoStep} {e e' : ErrorCode} {got : Bytes} (ht : Negotiated policy opt t)
      (he : e.failed = false) (hlen : got.length ≤ 22) :
      Transcript policy opt target reply
        (t ++ [.write (requestBytes target) (requestBytes target).length e, .read 22 got e'])
        (decodeReply got e')

/-- The runs of the SOCKS4 handshake. -/
inductive TranscriptV4 (target : EndpointV4) (user : Bytes) : List IoStep → Completion → Prop
  | requestFailed {n : ℕ} {e : ErrorCode} (hn : n ≤ (requestV4Bytes target user).length)
      (he : e.failed = true) :
      TranscriptV4 target user [.write (requestV4Bytes target user) n e] (e, default)
  | replied {e e' : ErrorCode} {got : Bytes} (he : e.failed = false) (hlen : got.length ≤ 8) :
      TranscriptV4 target user
        [.write (requestV4Bytes target user) (requestV4Bytes target user).length e,
          .read 8 got e']
        (decodeReplyV4 got e')

/-! ### Every run has one -/

variable (st : Asio.Stream ErrorCode σ) {ans : Empty → σ → Empty × σ}

theorem write_n_eq {bs : Bytes} {s : σ} (h : ¬(st.write bs s).ec.failed = true) :
    (st.write bs s).n = bs.length :=
  st.write_complete bs s (Bool.not_eq_true _ ▸ h)

/-- The request phase, behind a negotiated prefix. -/
theorem requestPhase_transcript {reply : Option (Bytes × ErrorCode)} {t : List IoStep}
    (ht : Negotiated policy opt t) (s : σ) :
    Transcript policy opt target reply (t ++ ((requestPhase target).run st ans s).trace)
      ((requestPhase target).run st ans s).result := by
  simp only [requestPhase, Prog.run]
  split_ifs with he
  · exact .requestFailed ht he
  · simp only [Prog.run]
    rw [Run.after_trace, Run.after_trace, write_n_eq st he]
    exact .replied ht (Bool.not_eq_true _ ▸ he) (st.read_length_le _ _ _)

/-- The sub-negotiation and the request phase, behind a choice of user/pass. -/
theorem userpassPhase_transcript {reply : Option (Bytes × ErrorCode)} {e e' : ErrorCode}
    (hopt : opt.isUserpass = true) (he : e.failed = false) (he' : e'.failed = false) (s : σ)
    (hreply : (st.write (userpassBytes opt) s).ec.failed = false →
      reply = some ((st.read transferAll 2 (st.write (userpassBytes opt) s).rest).got,
        (st.read transferAll 2 (st.write (userpassBytes opt) s).rest).ec)) :
    Transcript policy opt target reply
      (.write (greetingBytes opt) (greetingBytes opt).length e :: .read 2 [0x05, 0x02] e' ::
        ((userpassPhase policy opt (requestPhase target)).run st ans s).trace)
      ((userpassPhase policy opt (requestPhase target)).run st ans s).result := by
  simp only [userpassPhase, Prog.run]
  split_ifs with hu
  · exact .userpassFailed hopt he he' hu
  · simp only [Prog.run]
    rw [Run.after_trace, Run.after_trace, write_n_eq st hu]
    rw [Bool.not_eq_true] at hu
    replace hreply := hreply hu
    have hlen := st.read_length_le transferAll 2 (st.write (userpassBytes opt) s).rest
    generalize st.read transferAll 2 (st.write (userpassBytes opt) s).rest = r at hlen hreply ⊢
    cases hv : policy.verdict r.got r.ec with
    | some x => exact .userpassRejected hopt he he' hu hlen hreply hv
    | none =>
      have hgot := policy.granted hv
      rw [hgot] at hv ⊢
      exact requestPhase_transcript st (.userpass hopt he he' hu hv) _

/-- **Every run of a handshake has a transcript.** -/
theorem handshake_transcript (s : σ) :
    Transcript policy opt target (userpassReply st opt s)
      ((handshake policy opt target).run st ans s).trace
      ((handshake policy opt target).run st ans s).result := by
  have hreply : ∀ w r, st.write (greetingBytes opt) s = w → st.read transferAll 2 w.rest = r →
      w.ec.failed = false → r.got = [0x05, 0x02] → r.ec.failed = false →
      opt.isUserpass = true → (st.write (userpassBytes opt) r.rest).ec.failed = false →
      userpassReply st opt s
        = some ((st.read transferAll 2 (st.write (userpassBytes opt) r.rest).rest).got,
          (st.read transferAll 2 (st.write (userpassBytes opt) r.rest).rest).ec) := by
    rintro w r rfl rfl he hgot he' hopt hu
    exact if_pos ⟨he, hgot, he', hopt, hu⟩
  generalize userpassReply st opt s = reply at hreply ⊢
  simp only [handshake, Prog.run]
  replace hreply := hreply _ _ rfl rfl
  split_ifs with he
  · exact .greetingFailed he
  simp only [Prog.run]
  rw [Run.after_trace, Run.after_trace, write_n_eq st he]
  rw [Bool.not_eq_true] at he
  have hlen := st.read_length_le transferAll 2 (st.write (greetingBytes opt) s).rest
  generalize st.read transferAll 2 (st.write (greetingBytes opt) s).rest = r at hlen hreply ⊢
  by_cases hc : (choiceError opt r.got r.ec).failed = true
  · rw [if_pos hc]
    exact .choiceRejected he hlen hc
  rw [if_neg hc]
  obtain ⟨m, hm, hgot, he'⟩ := choice_of_choiceError hlen (Bool.not_eq_true _ ▸ hc)
  rw [hgot]
  split_ifs with hchoice
  · obtain rfl : m = 0x02 := hchoice
    have hopt := opt.isUserpass_of_mem_methods hm
    exact userpassPhase_transcript st hopt he he' _ (hreply he hgot he' hopt)
  · obtain rfl : m = 0x00 := opt.eq_zero_of_mem_methods hm hchoice
    exact requestPhase_transcript st (.noAuth he he') _

/-- **Every run of either client has a transcript.** -/
theorem Mode.transcript (mode : Mode) (memory : Vector UInt8 bufferSize) (h : opt.Fits)
    (ht : target.Fits) (s : σ) :
    Transcript mode.policy opt target (userpassReply st opt s)
      ((mode.connect memory target opt).runOn st s).trace
      ((mode.connect memory target opt).runOn st s).result := by
  rw [mode.connect_eq memory h ht]
  exact handshake_transcript st s

theorem handshakeV4_transcript (target : EndpointV4) (user : Bytes) (s : σ) :
    TranscriptV4 target user ((handshakeV4 target user).runOn st s).trace
      ((handshakeV4 target user).runOn st s).result := by
  simp only [Client.runOn, handshakeV4, Prog.run]
  split_ifs with he
  · exact .requestFailed (st.write_le_length _ _) he
  · simp only [Prog.run]
    rw [Run.after_trace, Run.after_trace, write_n_eq st he]
    exact .replied (Bool.not_eq_true _ ▸ he) (st.read_length_le _ _ _)

/-- Either SOCKS4 client. -/
def Mode.connectV4 : Mode → EndpointV4 → Bytes → Client Completion
  | .sync => Socks.connectV4
  | .async => asyncConnectV4

theorem Mode.connectV4_eq (mode : Mode) (targetHost : EndpointV4) (socksUser : Bytes) :
    mode.connectV4 targetHost socksUser = handshakeV4 targetHost socksUser := by
  cases mode with
  | sync => exact connectV4_eq_handshakeV4 targetHost socksUser
  | async => exact asyncConnectV4_eq_handshakeV4 targetHost socksUser

theorem Mode.transcriptV4 (mode : Mode) (targetHost : EndpointV4) (socksUser : Bytes) (s : σ) :
    TranscriptV4 targetHost socksUser ((mode.connectV4 targetHost socksUser).runOn st s).trace
      ((mode.connectV4 targetHost socksUser).runOn st s).result := by
  rw [mode.connectV4_eq]
  exact handshakeV4_transcript st targetHost socksUser s

/-! ### Runs from what the stream reports -/

variable {st} {s s₁ s₂ s₃ s₄ : σ} {n : ℕ} {e e' u u' : ErrorCode} {got : Bytes}

theorem choiceError_of_mem {m : UInt8} (hm : m ∈ opt.methods) (he : e.failed = false) :
    choiceError opt [0x05, m] e = e := by
  have hval : validateServerChoice [0x05, m] 2 opt e = e := by
    rw [validateServerChoice_of_two, if_pos hm]
  simp [choiceError, he, hval]

/-- Up to the choice. -/
theorem handshake_run_choice (hw : st.write (greetingBytes opt) s = ⟨n, e, s₁⟩)
    (he : e.failed = false) (hr : st.read transferAll 2 s₁ = ⟨got, e', s₂⟩) :
    (handshake policy opt target).run st ans s
      = (((if (choiceError opt got e').failed then .pure (choiceError opt got e', default)
          else if byteAt got 1 = authMethodUserpass then
            userpassPhase policy opt (requestPhase target)
          else requestPhase target : Client Completion).run st ans s₂).after
            (.read 2 got e')).after (.write (greetingBytes opt) n e) := by
  rw [handshake, Prog.run_write hw, if_neg (by simp [he]), Prog.run_read hr]

/-- From a choice of no authentication on. -/
theorem handshake_run_noAuth (hw : st.write (greetingBytes opt) s = ⟨n, e, s₁⟩)
    (he : e.failed = false) (hr : st.read transferAll 2 s₁ = ⟨[0x05, 0x00], e', s₂⟩)
    (he' : e'.failed = false) :
    (handshake policy opt target).run st ans s
      = (((requestPhase target).run st ans s₂).after (.read 2 [0x05, 0x00] e')).after
          (.write (greetingBytes opt) n e) := by
  have hm : (0x00 : UInt8) ∈ opt.methods := (opt.mem_methods_iff _).mpr (Or.inr rfl)
  rw [handshake_run_choice hw he hr, choiceError_of_mem hm he', if_neg (by simp [he']),
    if_neg (by decide)]

/-- From a choice of user/pass on, up to the user/pass reply. -/
theorem handshake_run_userpass (hopt : opt.isUserpass = true)
    (hw : st.write (greetingBytes opt) s = ⟨n, e, s₁⟩)
    (he : e.failed = false) (hr : st.read transferAll 2 s₁ = ⟨[0x05, 0x02], e', s₂⟩)
    (he' : e'.failed = false) {n' : ℕ} (hw' : st.write (userpassBytes opt) s₂ = ⟨n', u, s₃⟩)
    (hu : u.failed = false) (hr' : st.read transferAll 2 s₃ = ⟨got, u', s₄⟩) :
    (handshake policy opt target).run st ans s
      = (((((match policy.verdict got u' with
          | some x => .pure (x, default)
          | none => requestPhase target : Client Completion).run st ans s₄).after
            (.read 2 got u')).after (.write (userpassBytes opt) n' u)).after
              (.read 2 [0x05, 0x02] e')).after (.write (greetingBytes opt) n e) := by
  have hm : (0x02 : UInt8) ∈ opt.methods :=
    (opt.mem_methods_iff _).mpr (Or.inl (if_pos hopt).symm)
  have hphase : (userpassPhase policy opt (requestPhase target)).run st ans s₂
      = (((match policy.verdict got u' with
          | some x => .pure (x, default)
          | none => requestPhase target : Client Completion).run st ans s₄).after
            (.read 2 got u')).after (.write (userpassBytes opt) n' u) := by
    rw [userpassPhase, Prog.run_write hw', if_neg (by simp [hu])]
    exact congrArg (Run.after _) (Prog.run_read hr')
  rw [handshake_run_choice hw he hr, choiceError_of_mem hm he', if_neg (by simp [he']),
    if_pos (by decide), hphase]

/-- The request phase, when the request goes out. -/
theorem requestPhase_run (hw : st.write (requestBytes target) s = ⟨n, e, s₁⟩)
    (he : e.failed = false) (hr : st.read (replyCond []) 22 s₁ = ⟨got, e', s₂⟩) :
    (requestPhase target).run st ans s
      = ⟨decodeReply got e', [.write (requestBytes target) n e, .read 22 got e'], s₂⟩ := by
  rw [requestPhase, Prog.run_write hw, if_neg (by simp [he]), Prog.run_read hr]
  rfl

/-! ### What follows an operation -/

/-- The outcomes of an operation after which a client may go on. -/
def GoesOn : IoStep → Prop
  | .write _ _ ec => ec.failed = false
  | .read _ _ ec => ec.failed = false ∨ ec = .eof
  | .call q _ => nomatch q

theorem GoesOn.ioError {x : IoStep} (h : GoesOn x) :
    (ioError x).failed = false ∨ ioError x = .eof := by
  match x with
  | .write _ _ _ => exact Or.inl h
  | .read _ _ _ => exact h

theorem Negotiated.goesOn {t : List IoStep} (h : Negotiated policy opt t) : ∀ x ∈ t, GoesOn x := by
  cases h with
  | noAuth he he' => simp [GoesOn, he, he']
  | userpass hopt he he' hu hu' => simp [GoesOn, he, he', hu, policy.readOk hu']

/-- **A client goes on only after an operation that lets it.** -/
theorem Transcript.goesOn {reply : Option (Bytes × ErrorCode)} {t : List IoStep} {c : Completion}
    (h : Transcript policy opt target reply t c) : ∀ x ∈ t.dropLast, GoesOn x := by
  cases h with
  | greetingFailed he => simp
  | choiceRejected he hlen hc => simp [GoesOn, he]
  | userpassFailed hopt he he' hu => simp [GoesOn, he, he']
  | userpassRejected hopt he he' hu hlen hreply hv => simp [GoesOn, he, he', hu]
  | requestFailed ht he =>
    rw [List.dropLast_concat]
    exact ht.goesOn
  | replied ht he hlen =>
    rw [List.dropLast_append_of_ne_nil (List.cons_ne_nil _ _)]
    intro x hx
    rcases List.mem_append.mp hx with hx | hx
    · exact ht.goesOn x hx
    · obtain rfl : x = _ := by simpa using hx
      exact he

theorem TranscriptV4.goesOn {target : EndpointV4} {user : Bytes} {t : List IoStep} {c : Completion}
    (h : TranscriptV4 target user t c) : ∀ x ∈ t.dropLast, GoesOn x := by
  cases h with
  | requestFailed hn he => simp
  | replied he hlen => simp [GoesOn, he]

/-- What comes before something else is not last. -/
theorem eq_nil_of_goesOn {t pre post : List IoStep} {x : IoStep} (h : ∀ y ∈ t.dropLast, GoesOn y)
    (ht : t = pre ++ x :: post) (hx : ¬GoesOn x) : post = [] := by
  by_contra hpost
  refine hx (h x ?_)
  rw [ht, List.dropLast_append_of_ne_nil (List.cons_ne_nil _ _),
    List.dropLast_cons_of_ne_nil hpost]
  exact List.mem_append_right _ (List.mem_cons_self ..)

end Socks
