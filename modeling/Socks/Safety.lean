import Socks.Transcript
import Socks.Asio.Script

/-!
# What the SOCKS5 clients never do

Three properties of every run of either client against every stream, however its bytes are cut
and wherever it fails.

* A client never reports a success it was not given: what it received is a choice it offered, a
  grant if that choice asks for one, and a successful reply, whose endpoint it returns.
* A client sends nothing before it may: the credentials only to a server that chose them, the
  request only to one that let it in, and nothing at all after a write that failed.
* What a run does depends neither on what the buffer held before it, nor on the credentials unless
  the server asked for them.

The first two are read off the transcript of the run. The third compares two runs, and rests on
the clients being equal to a handshake that has no buffer.

## Main results

* `Socks.no_false_success`, `Socks.authentication_gates_messages`, `Socks.run_noninterference`
-/

namespace Socks

open Asio

variable {σ : Type} {policy : UserpassPolicy} {opt opt' : AuthOptions} {target : Target}

/-! ### No false success -/

/-- **No false success.** A run that ends without a failure wrote the greeting and the request in
full, was told to use a method it had offered, was granted access if that method is user/pass, and
then received a successful reply, whose endpoint it returns. A run that ends with a failure
returns the default endpoint. -/
theorem no_false_success (mode : Mode) (memory : Vector UInt8 bufferSize) (h : opt.Fits)
    (ht : target.Fits) (st : Asio.Stream ErrorCode σ) (s : σ) :
    let r := (mode.connect memory target opt).runOn st s
    (r.result.1.failed = false →
      ∃ m ∈ opt.methods, ∃ (negotiation : List IoStep) (reply : Bytes) (e e' u u' : ErrorCode),
        r.trace = [.write (greetingBytes opt) (greetingBytes opt).length e, .read 2 [0x05, m] e']
          ++ negotiation
          ++ [.write (requestBytes target) (requestBytes target).length u, .read 22 reply u'] ∧
        (m = authMethodUserpass → ∃ v v', negotiation =
          [.write (userpassBytes opt) (userpassBytes opt).length v, .read 2 [0x01, 0x00] v']) ∧
        (m ≠ authMethodUserpass → negotiation = []) ∧
        SuccessReply reply r.result.2) ∧
    (r.result.1.failed = true → r.result.2 = default) := by
  intro r
  have htr := mode.transcript st memory h ht s
  change Transcript _ _ _ _ r.trace r.result at htr
  generalize r.trace = t at htr ⊢
  generalize r.result = c at htr ⊢
  cases htr with
  | greetingFailed he => simp [he]
  | choiceRejected he hlen hc => simp [hc]
  | userpassFailed hopt he he' hu => simp [hu]
  | userpassRejected hopt he he' hu hlen hreply hv => simp [mode.policy.failed hv]
  | requestFailed ht he => simp [he]
  | replied ht he hlen =>
    refine ⟨fun hok => ?_, decodeReply_of_failed⟩
    have hreply := successReply_of_decodeReply hok
    cases ht with
    | noAuth =>
      exact ⟨0x00, (opt.mem_methods_iff _).mpr (Or.inr rfl), [], _, _, _, _, _, rfl,
        fun h => absurd h (by decide), fun _ => rfl, hreply⟩
    | userpass hopt =>
      refine ⟨0x02, (opt.mem_methods_iff _).mpr (Or.inl ?_), _, _, _, _, _, _, rfl,
        fun _ => ⟨_, _, rfl⟩, fun h => absurd rfl h, hreply⟩
      exact (if_pos hopt).symm

/-- The choice of no authentication, in one chunk. -/
def noAuthChoice : ReadEvent ErrorCode := ⟨[0x05, 0x00], .ok, nofun⟩

/-- A server that asks for no authentication, and whose reply arrives in two chunks. -/
def plainScript : Script ErrorCode where
  reads := [noAuthChoice, ⟨[0x05, 0x00, 0x00], .ok, nofun⟩,
    ⟨[0x01, 10, 0, 0, 1, 0x1F, 0x90], .ok, nofun⟩]
  writes := []

/-- A run of either client against that server. -/
def plainRun (mode : Mode) (opt : AuthOptions) : ClientRun (Script ErrorCode) :=
  (mode.connect (Vector.replicate bufferSize 0) (.domain ⟨[0x61], 80⟩) opt).runOn
    (Script.stream .eof ErrorCode.failed_eof) plainScript

theorem no_false_success_plain :
    ∃ reply, received (plainRun .async .none).trace = [[0x05, 0x00], reply] ∧
      SuccessReply reply (plainRun .async .none).result.2 := by
  have ht : (Target.domain ⟨[0x61], 80⟩).Fits := by decide
  obtain ⟨m, hm, negotiation, reply, e, e', u, u', htrace, -, hother, hreply⟩ :=
    (no_false_success .async (Vector.replicate bufferSize 0) AuthOptions.fits_none ht
      (Script.stream .eof ErrorCode.failed_eof) plainScript).1 (by decide +kernel)
  obtain rfl : m = 0x00 := List.mem_singleton.mp hm
  obtain rfl := hother (by decide)
  exact ⟨reply, by rw [plainRun, htrace]; rfl, hreply⟩

/-! ### What is written, and when -/

/-- `P` holds of every message a trace starts to write, given what was received and what was
started before it. -/
def EachWrite (P : List Bytes → List Bytes → Bytes → Prop) :
    List Bytes → List Bytes → List IoStep → Prop
  | _, _, [] => True
  | recv, sent, .write bs _ _ :: t => P recv sent bs ∧ EachWrite P recv (sent ++ [bs]) t
  | recv, sent, .read _ got _ :: t => EachWrite P (recv ++ [got]) sent t
  | _, _, .call q _ :: _ => nomatch q

theorem EachWrite.of_split {P : List Bytes → List Bytes → Bytes → Prop} {bs : Bytes} {n : ℕ}
    {e : ErrorCode} {post : List IoStep} :
    ∀ {pre : List IoStep} {recv sent : List Bytes},
      EachWrite P recv sent (pre ++ .write bs n e :: post) →
        P (recv ++ received pre) (sent ++ started pre) bs := by
  intro pre
  induction pre with
  | nil =>
    intro recv sent h
    simpa [received, started] using h.1
  | cons x pre ih =>
    intro recv sent h
    match x with
    | .write bs' n' e' => simpa [received, started] using ih h.2
    | .read cap got e' => simpa [received, started] using ih h

/-- The three messages of a client are different. -/
theorem greetingBytes_ne_requestBytes (opt : AuthOptions) (target : Target) :
    greetingBytes opt ≠ requestBytes target := by
  intro h
  have hlen := congrArg List.length h
  have := length_greetingBytes_le opt
  rw [length_requestBytes] at hlen
  omega

theorem userpassBytes_ne_greetingBytes (opt : AuthOptions) :
    userpassBytes opt ≠ greetingBytes opt := by
  intro h
  exact absurd (List.cons.inj h).1 (by decide)

theorem userpassBytes_ne_requestBytes (opt : AuthOptions) (target : Target) :
    userpassBytes opt ≠ requestBytes target := by
  intro h
  exact absurd (List.cons.inj h).1 (by decide)

/-- The messages a run starts to write. -/
theorem Transcript.started_order {reply : Option (Bytes × ErrorCode)} {t : List IoStep}
    {c : Completion} (h : Transcript policy opt target reply t c) :
    started t <+: [greetingBytes opt, requestBytes target] ∨
      started t <+: [greetingBytes opt, userpassBytes opt, requestBytes target] := by
  cases h with
  | greetingFailed => simp [started]
  | choiceRejected => simp [started]
  | userpassFailed => simp [started]
  | userpassRejected => simp [started]
  | requestFailed ht => cases ht <;> simp [started]
  | replied ht => cases ht <;> simp [started]

/-- When a client may start to write a message. -/
def MayStart (opt : AuthOptions) (target : Target) (recv sent : List Bytes) (bs : Bytes) : Prop :=
  (bs = userpassBytes opt → opt.isUserpass = true ∧ recv = [[0x05, 0x02]]) ∧
  (bs = requestBytes target →
    recv = [[0x05, 0x00]] ∨
      recv = [[0x05, 0x02], [0x01, 0x00]] ∧ sent = [greetingBytes opt, userpassBytes opt])

/-- A run writes no message before it may. -/
theorem Transcript.eachWrite {reply : Option (Bytes × ErrorCode)} {t : List IoStep}
    {c : Completion} (h : Transcript policy opt target reply t c) :
    EachWrite (MayStart opt target) [] [] t := by
  have hgu := (userpassBytes_ne_greetingBytes opt).symm
  have hgr := greetingBytes_ne_requestBytes opt target
  have hur := userpassBytes_ne_requestBytes opt target
  have hru := hur.symm
  cases h with
  | greetingFailed => simp [EachWrite, MayStart, hgu, hgr]
  | choiceRejected => simp [EachWrite, MayStart, hgu, hgr]
  | userpassFailed hopt => simp [EachWrite, MayStart, hgu, hgr, hur, hopt]
  | userpassRejected hopt => simp [EachWrite, MayStart, hgu, hgr, hur, hopt]
  | requestFailed ht =>
    cases ht with
    | noAuth => simp [EachWrite, MayStart, hgu, hgr, hru]
    | userpass hopt => simp [EachWrite, MayStart, hgu, hgr, hur, hru, hopt]
  | replied ht =>
    cases ht with
    | noAuth => simp [EachWrite, MayStart, hgu, hgr, hru]
    | userpass hopt => simp [EachWrite, MayStart, hgu, hgr, hur, hru, hopt]

/-- **Authentication gates every later message.** The messages a run starts are the greeting and
then the request, or the user/pass request between the two, cut short anywhere. The user/pass
request is started only with credentials to send, to a server that chose them; the request only
after a choice of no authentication, or after a grant in reply to the user/pass request. After a
write that failed, nothing is started. -/
theorem authentication_gates_messages (mode : Mode) (memory : Vector UInt8 bufferSize)
    (h : opt.Fits) (ht : target.Fits) (st : Asio.Stream ErrorCode σ) (s : σ) :
    let t := ((mode.connect memory target opt).runOn st s).trace
    (started t <+: [greetingBytes opt, requestBytes target] ∨
      started t <+: [greetingBytes opt, userpassBytes opt, requestBytes target]) ∧
    ∀ (pre post : List IoStep) (bs : Bytes) (n : ℕ) (e : ErrorCode),
      t = pre ++ .write bs n e :: post →
        (bs = userpassBytes opt → opt.isUserpass = true ∧ received pre = [[0x05, 0x02]]) ∧
        (bs = requestBytes target →
          received pre = [[0x05, 0x00]] ∨
            received pre = [[0x05, 0x02], [0x01, 0x00]] ∧
              started pre = [greetingBytes opt, userpassBytes opt]) ∧
        (e.failed = true → started post = []) := by
  intro t
  have htr := mode.transcript st memory h ht s
  refine ⟨htr.started_order, fun pre post bs n e hsplit => ?_⟩
  have hwrite := htr.eachWrite
  have hlast := htr.goesOn
  change EachWrite _ _ _ t at hwrite
  rw [hsplit] at hwrite
  obtain ⟨huserpass, hrequest⟩ := hwrite.of_split
  refine ⟨huserpass, hrequest, fun he => ?_⟩
  rw [eq_nil_of_goesOn hlast hsplit (by simp [GoesOn, he])]
  rfl

theorem authentication_gates_messages_plain :
    started (plainRun .sync .none).trace <+:
        [greetingBytes .none, requestBytes (.domain ⟨[0x61], 80⟩)] ∨
      started (plainRun .sync .none).trace <+:
        [greetingBytes .none, userpassBytes .none, requestBytes (.domain ⟨[0x61], 80⟩)] := by
  have ht : (Target.domain ⟨[0x61], 80⟩).Fits := by decide
  exact (authentication_gates_messages .sync (Vector.replicate bufferSize 0)
    AuthOptions.fits_none ht (Script.stream .eof ErrorCode.failed_eof) plainScript).1

/-! ### What a run does not depend on -/

/-- The greeting, and what passes for a choice, depend on the credentials only in whether there
are any. -/
theorem greetingBytes_congr (h : opt.isUserpass = opt'.isUserpass) :
    greetingBytes opt = greetingBytes opt' := by
  rw [greetingBytes, greetingBytes, AuthOptions.methods, AuthOptions.methods, AuthOptions.code,
    AuthOptions.code, h]

theorem choiceError_congr (h : opt.isUserpass = opt'.isUserpass) (got : Bytes) (ec : ErrorCode) :
    choiceError opt got ec = choiceError opt' got ec := by
  rw [choiceError, choiceError, validateServerChoice, validateServerChoice, AuthOptions.code,
    AuthOptions.code, h]

/-- **A run that is not told to use credentials does not depend on them.** -/
theorem handshake_run_congr (h : opt.isUserpass = opt'.isUserpass) (st : Asio.Stream ErrorCode σ)
    {ans : Empty → σ → Empty × σ} (s : σ)
    (hchoice : (received ((handshake policy opt target).run st ans s).trace).head?
      ≠ some [0x05, 0x02]) :
    (handshake policy opt target).run st ans s = (handshake policy opt' target).run st ans s := by
  simp only [handshake, Prog.run, ← greetingBytes_congr h] at hchoice ⊢
  split_ifs with he
  · rfl
  rw [if_neg he] at hchoice
  simp only [Prog.run, Run.after_trace, received, List.head?_cons, ← choiceError_congr h]
    at hchoice ⊢
  have hlen := st.read_length_le transferAll 2 (st.write (greetingBytes opt) s).rest
  generalize st.read transferAll 2 (st.write (greetingBytes opt) s).rest = r at hlen hchoice ⊢
  by_cases hc : (choiceError opt r.got r.ec).failed = true
  · rw [if_pos hc, if_pos hc]
  · obtain ⟨m, -, hgot, -⟩ := choice_of_choiceError hlen (Bool.not_eq_true _ ▸ hc)
    have hm : byteAt r.got 1 ≠ authMethodUserpass := by
      rw [hgot] at hchoice ⊢
      rintro rfl
      exact hchoice rfl
    rw [if_neg hc, if_neg hc, if_neg hm, if_neg hm]

/-- **Neither the buffer nor unused credentials show.** Two runs of one client with the same
target and stream, both with credentials or both without, are the same run, whatever the two
buffers hold, if the server does not choose user/pass; and if it does, they are the same run when
the credentials are. -/
theorem run_noninterference (mode : Mode) (memory memory' : Vector UInt8 bufferSize)
    (h : opt.Fits) (h' : opt'.Fits) (ht : target.Fits) (hflag : opt.isUserpass = opt'.isUserpass)
    (st : Asio.Stream ErrorCode σ) (s : σ) :
    let r := (mode.connect memory target opt).runOn st s
    let r' := (mode.connect memory' target opt').runOn st s
    ((received r.trace).head? ≠ some [0x05, 0x02] → r = r') ∧
    ((received r.trace).head? = some [0x05, 0x02] →
      opt.user = opt'.user → opt.pass = opt'.pass → r = r') := by
  intro r r'
  constructor
  · intro hchoice
    simp only [r, r', mode.connect_eq _ h ht, mode.connect_eq _ h' ht] at hchoice ⊢
    exact handshake_run_congr hflag st s hchoice
  · intro _ huser hpass
    have hopt : opt = opt' := by
      obtain ⟨flag, user, pass⟩ := opt
      obtain ⟨flag', user', pass'⟩ := opt'
      simp_all
    simp only [r, r', hopt, mode.connect_eq _ h' ht]

theorem run_noninterference_plain :
    plainRun .sync (.userpass [0x75] [0x70]) = plainRun .sync (.userpass [] [0x71, 0x72]) := by
  have h : (AuthOptions.userpass [0x75] [0x70]).Fits := ⟨by decide, by decide⟩
  have h' : (AuthOptions.userpass [] [0x71, 0x72]).Fits := ⟨by decide, by decide⟩
  have ht : (Target.domain ⟨[0x61], 80⟩).Fits := by decide
  exact (run_noninterference .sync (Vector.replicate bufferSize 0)
    (Vector.replicate bufferSize 0) h h' ht rfl (Script.stream .eof ErrorCode.failed_eof)
    plainScript).1 (by decide +kernel)

end Socks
