import Socks.Refinement
import Socks.Asio.Checked
import Socks.Asio.Turns

/-!
# What the clients inspect

The functions that look at received bytes, and the clients that call them, once more, with every
inspection checked: a byte is only there if the current read has delivered it, an assertion must
hold, and a subtraction of `std::size_t` must not wrap. Where a check fails the result is `none`.

The checked functions repeat the source statement by statement. That no check ever fails is then
one equation for each: the checked function gives what the unchecked one gives. For the
synchronous client the equation is one of programs, so it covers every run on every stream; for
the coroutine it is one for every invocation in every state.

## Main definitions

* `Socks.checkedReadReplyCond`, `Socks.checkedServerChoice`, `Socks.checkedUserpassReply`,
  `Socks.checkedParseReplyV5` — the functions
* `Socks.checkedConnect`, `Socks.ConnectOp.checkedResume` — the clients
* `Socks.ReplyRead` — what is promised of a read with `read_reply_cond`

## Main results

* `Socks.checkedConnect_eq`, `Socks.ConnectOp.checkedResume_eq` — no check fails
* `Socks.reply_side_checked` — every read of every run, and both clients
-/

namespace Socks

open Asio

/-! ### The functions -/

/-- `read_reply_cond`, checked. -/
def checkedReadReplyCond (buffer : Bytes) (ec : ErrorCode) (n : ℕ) : Option ℕ := do
  let ipV4 ← if n = 10 then
      (inspect buffer n 3).map fun atyp => decide (toAddressType atyp = .ipV4)
    else pure false
  if ipV4 || ec.failed then
    return 0
  guard (n ≤ 22)
  return 22 - n

/-- `validate_server_choice`, checked. -/
def checkedServerChoice (buffer : Bytes) (n : ℕ) (opt : AuthOptions) (ec : ErrorCode) :
    Option ErrorCode := do
  if n < 2 then
    return makeErrorCode .badReplySize
  let ver ← inspect buffer n 0
  if ver ≠ 0x05 then
    return makeErrorCode .badReplyVersion
  let choice ← inspect buffer n 1
  if choice ≠ opt.code ∧ choice ≠ 0x00 then
    return makeErrorCode .badServerChoice
  return ec

/-- `validate_userpass_reply`, checked. -/
def checkedUserpassReply (buffer : Bytes) (n : ℕ) (ec : ErrorCode) : Option ErrorCode := do
  if n ≠ 2 then
    return makeErrorCode .badReplySize
  let ver ← inspect buffer n 0
  if ver ≠ 0x01 then
    return makeErrorCode .badReplyVersion
  let status ← inspect buffer n 1
  if status ≠ 0x00 then
    return makeErrorCode .accessDenied
  return ec

/-- `parse_reply_v5`, checked. -/
def checkedParseReplyV5 (buffer : Bytes) (n : ℕ) : Option (Endpoint × ErrorCode) := do
  guard (n = 10 ∨ n = 22)
  let ver ← inspect buffer n 0
  if ver ≠ 0x05 then
    return (default, makeErrorCode .badReplyVersion)
  let rep ← inspect buffer n 1
  let ec := makeErrorCode (.ofReplyCode (toReplyCode rep))
  if !ec.isSucceeded then
    return (default, ec)
  let atyp ← inspect buffer n 3
  match toAddressType atyp with
  | .ipV4 =>
    if n ≠ 10 then
      return (default, makeErrorCode .badReplySize)
    let ip := (← inspect buffer n 4).toUInt32
    let ip := (ip <<< 8) ||| (← inspect buffer n 5).toUInt32
    let ip := (ip <<< 8) ||| (← inspect buffer n 6).toUInt32
    let ip := (ip <<< 8) ||| (← inspect buffer n 7).toUInt32
    let port := (← inspect buffer n 8).toUInt16
    let port := port <<< 8
    let port := port ||| (← inspect buffer n 9).toUInt16
    return (⟨.v4 (makeAddressV4 ip), port⟩, ec)
  | .ipV6 =>
    if n ≠ 22 then
      return (default, makeErrorCode .badReplySize)
    let bytes ← inspectRange buffer n 4 16
    let ip : AddressV6 := ⟨fun i => byteAt bytes i, 0⟩
    let port := (← inspect buffer n 20).toUInt16
    let port := port <<< 8
    let port := port ||| (← inspect buffer n 21).toUInt16
    return (⟨.v6 ip, port⟩, ec)
  | _ => return (default, makeErrorCode .badAddressType)

variable (buffer : Bytes) (ec : ErrorCode) {n : ℕ}

theorem checkedReadReplyCond_eq (h : n ≤ 22) :
    checkedReadReplyCond buffer ec n = some (readReplyCond buffer ec n) := by
  rw [checkedReadReplyCond, readReplyCond]
  by_cases h10 : n = 10
  · rw [if_pos h10, inspect_of_lt buffer (by omega)]
    cases hat : decide (toAddressType (byteAt buffer 3) = .ipV4) <;> cases hec : ec.failed <;>
      simp_all
  · cases hec : ec.failed <;> simp [h10, h]

theorem checkedServerChoice_eq (n : ℕ) (opt : AuthOptions) :
    checkedServerChoice buffer n opt ec = some (validateServerChoice buffer n opt ec) := by
  rw [checkedServerChoice, validateServerChoice, validateServerChoiceCode]
  split_ifs with hsize hver hchoice
  · rfl
  all_goals
    have h0 := inspect_of_lt buffer (show 0 < n by omega)
    have h1 := inspect_of_lt buffer (show 1 < n by omega)
    simp_all

theorem checkedUserpassReply_eq (n : ℕ) :
    checkedUserpassReply buffer n ec = some (validateUserpassReply buffer n ec) := by
  rw [checkedUserpassReply, validateUserpassReply]
  split_ifs with hsize hver hstatus
  · rfl
  all_goals
    have h0 := inspect_of_lt buffer (show 0 < n by omega)
    have h1 := inspect_of_lt buffer (show 1 < n by omega)
    simp_all

theorem checkedParseReplyV5_eq (h : n = 10 ∨ n = 22) :
    checkedParseReplyV5 buffer n = some (parseReplyV5 buffer n) := by
  have hin : ∀ {i}, i < 10 → inspect buffer n i = some (byteAt buffer i) :=
    fun hi => inspect_of_lt buffer (by omega)
  rw [checkedParseReplyV5, parseReplyV5, hin (show 0 < 10 by decide), hin (show 1 < 10 by decide),
    hin (show 3 < 10 by decide)]
  simp only [guard, h, if_true, Option.pure_def, Option.bind_eq_bind, Option.bind_some]
  split
  · rfl
  split
  · rfl
  cases toAddressType (byteAt buffer 3) with
  | ipV4 =>
    by_cases h10 : n = 10
    · subst h10
      rw [inspect_of_lt buffer (show 4 < 10 by decide),
        inspect_of_lt buffer (show 5 < 10 by decide),
        inspect_of_lt buffer (show 6 < 10 by decide), inspect_of_lt buffer (show 7 < 10 by decide),
        inspect_of_lt buffer (show 8 < 10 by decide), inspect_of_lt buffer (show 9 < 10 by decide)]
      rfl
    · simp only [ne_eq, h10, not_false_eq_true, if_true]
  | ipV6 =>
    by_cases h22 : n = 22
    · subst h22
      rw [inspectRange_of_le buffer (show 4 + 16 ≤ 22 by decide),
        inspect_of_lt buffer (show 20 < 22 by decide),
        inspect_of_lt buffer (show 21 < 22 by decide)]
      have hip : (fun i : Fin 16 => byteAt (List.ofFn fun j : Fin 16 => byteAt buffer (4 + j)) i)
          = fun i : Fin 16 => byteAt buffer (4 + i) := funext fun i => byteAt_ofFn _ i
      simp only [Option.bind_some, hip]
      rfl
    · simp only [ne_eq, h22, not_false_eq_true, if_true]
  | domainName => rfl
  | unknown => rfl

/-! ### The synchronous client -/

/-- Programs of a client in which a check can fail. -/
abbrev CheckedClient (α : Type) : Type := CheckedProg ErrorCode Empty Empty α

/-- `authenticate`, checked. -/
def checkedAuthenticate (buffer : Bytes) (opt : AuthOptions) :
    CheckedClient (UInt8 × Bytes × ErrorCode) := do
  let (buffer, gn) := prepareGreeting buffer opt
  let (_, ec) ← unchecked (asioWrite buffer gn)
  if ec.failed then
    return (0, buffer, ec)
  let (rn, buffer, ec) ← unchecked (asioRead buffer 2 transferAll)
  let ec ← check
    (if !ec.failed || ec == .eof then checkedServerChoice buffer rn opt ec else some ec)
  if ec.failed then
    return (byteAt buffer 1, buffer, ec)
  let choice := byteAt buffer 1
  if choice = authMethodUserpass then
    let (buffer, n2) := prepareUserpassRequest buffer opt
    let (_, ec) ← unchecked (asioWrite buffer n2)
    if ec.failed then
      return (0, buffer, ec)
    let (n, buffer, ec) ← unchecked (asioRead buffer 2 transferAll)
    let ec ← check
      (if !ec.failed || ec == .eof then checkedUserpassReply buffer n ec else some ec)
    return (byteAt buffer 1, buffer, ec)
  return (byteAt buffer 1, buffer, ec)

/-- `read_connect_reply`, checked. -/
def checkedReadConnectReply (buffer : Bytes) : CheckedClient Completion := do
  let (n, buffer, ec) ← unchecked (asioRead buffer 22 (replyCond buffer))
  if ec.failed && ec != .eof then
    return (ec, default)
  if n ≠ 10 ∧ n ≠ 22 then
    return (makeErrorCode .badReplySize, default)
  let (ep, ec) ← check (checkedParseReplyV5 buffer n)
  return (ec, ep)

/-- `connect` to an endpoint, checked. -/
def checkedConnectEndpoint (memory : Vector UInt8 bufferSize) (targetHost : Endpoint)
    (opt : AuthOptions) : CheckedClient Completion := do
  let buffer := memory.toList
  let (_, buffer, ec) ← checkedAuthenticate buffer opt
  if ec.failed then
    return (ec, default)
  let (_, buffer, ec) ← unchecked (writeConnectRequest buffer (.endpoint targetHost))
  if ec.failed then
    return (ec, default)
  let (ec, ep) ← checkedReadConnectReply buffer
  return (ec, ep)

/-- `connect` to a domain, checked. -/
def checkedConnectDomain (memory : Vector UInt8 bufferSize) (target : DomainEndpoint)
    (opt : AuthOptions) : CheckedClient Completion := do
  let buffer := memory.toList
  let (_, buffer, ec) ← checkedAuthenticate buffer opt
  if ec.failed then
    return (ec, default)
  let (_, buffer, ec) ← unchecked (writeConnectRequest buffer (.domain target))
  if ec.failed then
    return (ec, default)
  let (ec, ep) ← checkedReadConnectReply buffer
  if ec.failed then
    return (ec, default)
  return (ec, ep)

/-- `connect`, checked. -/
def checkedConnect (memory : Vector UInt8 bufferSize) (target : Target) (opt : AuthOptions) :
    CheckedClient Completion :=
  match target with
  | .endpoint ep => checkedConnectEndpoint memory ep opt
  | .domain ep => checkedConnectDomain memory ep opt

theorem checkedAuthenticate_eq (opt : AuthOptions) :
    checkedAuthenticate buffer opt = unchecked (authenticate buffer opt) := by
  simp only [checkedAuthenticate, authenticate, checkedServerChoice_eq, checkedUserpassReply_eq,
    ← apply_ite some, check_some, unchecked_bind, unchecked_ite, Prog.monad_pure, unchecked_pure,
    checked_pure_bind]

theorem checkedReadConnectReply_eq :
    checkedReadConnectReply buffer = unchecked (readConnectReply buffer) := by
  simp only [checkedReadConnectReply, readConnectReply, unchecked_bind, unchecked_ite,
    Prog.monad_pure, unchecked_pure]
  refine congrArg _ (funext fun x => ?_)
  split_ifs with hstop hsize
  · rfl
  · rfl
  · rw [checkedParseReplyV5_eq _ (by omega)]
    rfl

/-- **No check of `connect` fails**, on whatever stream it runs. -/
theorem checkedConnect_eq (memory : Vector UInt8 bufferSize) (target : Target)
    (opt : AuthOptions) :
    checkedConnect memory target opt = unchecked (connect memory target opt) := by
  cases target with
  | endpoint ep =>
    simp only [checkedConnect, checkedConnectEndpoint, connect, connectEndpoint,
      checkedAuthenticate_eq, checkedReadConnectReply_eq, unchecked_bind, unchecked_ite,
      Prog.monad_pure, unchecked_pure]
  | domain ep =>
    simp only [checkedConnect, checkedConnectDomain, connect, connectDomain,
      checkedAuthenticate_eq, checkedReadConnectReply_eq, unchecked_bind, unchecked_ite,
      Prog.monad_pure, unchecked_pure]

/-! ### The coroutine -/

/-- `connect_op::operator()`, checked. -/
def ConnectOp.checkedResume (op : ConnectOp) (ec : ErrorCode) (n : ℕ) :
    Option (Suspend ErrorCode ConnectOp Completion) :=
  match op.coro with
  | .initial =>
    let (buf, n) := prepareGreeting op.buf op.opt
    return .asyncWrite (buf.take n) { op with buf := buf, coro := .greetingSent }
  | .greetingSent =>
    if ec.failed then return .complete (ec, default)
    else return .asyncRead transferAll 2 fun got =>
      { op with buf := overlay got op.buf, coro := .choiceRead }
  | .choiceRead => do
    let ec ← if !ec.failed || ec == .eof then checkedServerChoice op.buf n op.opt ec else some ec
    if ec.failed then return .complete (ec, default)
    else if byteAt op.buf 1 = authMethodUserpass then
      let (buf, n) := prepareUserpassRequest op.buf op.opt
      return .asyncWrite (buf.take n) { op with buf := buf, coro := .userpassSent }
    else return op.sendRequest
  | .userpassSent =>
    if ec.failed then return .complete (ec, default)
    else return .asyncRead transferAll 2 fun got =>
      { op with buf := overlay got op.buf, coro := .userpassReplyRead }
  | .userpassReplyRead => do
    let ec ← checkedUserpassReply op.buf n ec
    if ec.failed && ec != .eof then return .complete (ec, default)
    else return op.sendRequest
  | .requestSent =>
    if ec.failed then return .complete (ec, default)
    else return .asyncRead (replyCond op.buf) 22 fun got =>
      { op with buf := overlay got op.buf, coro := .replyRead }
  | .replyRead =>
    if ec.failed && ec != .eof then return .complete (ec, default)
    else if n ≠ 10 ∧ n ≠ 22 then return .complete (makeErrorCode .badReplySize, default)
    else do
      let (ep, ec) ← checkedParseReplyV5 op.buf n
      return .complete (ec, ep)

/-- **No check of `connect_op` fails**, whatever state it is invoked in and with whatever it is
invoked. -/
theorem ConnectOp.checkedResume_eq (op : ConnectOp) (ec : ErrorCode) (n : ℕ) :
    op.checkedResume ec n = some (op.resume ec n) := by
  obtain ⟨buf, target, opt, coro⟩ := op
  cases coro with
  | initial => rfl
  | greetingSent =>
    simp only [checkedResume, resume]
    split <;> rfl
  | choiceRead =>
    simp only [checkedResume, resume, checkedServerChoice_eq, Option.bind_eq_bind,
      Option.bind_some]
    split
    · split
      · rfl
      · split <;> rfl
    · split
      · rfl
      · split <;> rfl
  | userpassSent =>
    simp only [checkedResume, resume]
    split <;> rfl
  | userpassReplyRead =>
    simp only [checkedResume, resume, checkedUserpassReply_eq, Option.bind_eq_bind,
      Option.bind_some]
    split <;> rfl
  | requestSent =>
    simp only [checkedResume, resume]
    split <;> rfl
  | replyRead =>
    simp only [checkedResume, resume]
    split_ifs with hstop hsize
    · rfl
    · rfl
    · rw [checkedParseReplyV5_eq _ (by omega)]
      rfl

/-! ### The reads -/

/-- What is promised of a read of a CONNECT reply: `read_reply_cond` is called with at most 22
bytes received and inspects only those; there are at most 22 `read_some`, each of which delivers
a byte or fails; what they deliver is what the read delivers; and without a failure the read ends
with 22 bytes, or with 10 of which the fourth says IPv4. -/
structure ReplyRead (x : ComposedRead ErrorCode) : Prop where
  cap_eq : x.cap = 22
  length_le : ∀ t ∈ x.turns, t.got.length ≤ 22
  checked : ∀ t ∈ x.turns, ∀ buffer,
    checkedReadReplyCond (overlay t.got buffer) t.e t.got.length = some (x.cond.ask t.got t.e)
  answered_le : (x.turns.filter Turn.answered).length ≤ 22
  progress : ∀ t ∈ x.turns, ∀ bs ec, t.answer = some (bs, ec) → bs ≠ [] ∨ ec.failed = true
  got_eq : x.got = (x.turns.filterMap fun t => t.answer.map Prod.fst).flatten
  complete : x.ec.failed = false →
    x.got.length = 22 ∨ x.got.length = 10 ∧ byteAt x.got 3 = 0x01

theorem replyRead_of_replyCond {σ : Type} (st : Asio.Stream ErrorCode σ) (memory : Bytes) (s : σ) :
    ReplyRead (st.composedRead (replyCond memory) 22 s) where
  cap_eq := rfl
  length_le t ht := Nat.le_of_lt (st.turns_length_lt t ht)
  checked t ht buffer := by
    have hlen : t.got.length < 22 := st.turns_length_lt t ht
    rw [checkedReadReplyCond_eq _ _ (Nat.le_of_lt hlen), readReplyCond_overlay]
    change _ = some ((replyCond memory).ask t.got t.e)
    rw [replyCond, Cond.onBuffer_ask, readReplyCond_overlay]
  answered_le := st.answered_turns_le
  progress := st.turns_progress
  got_eq := (st.readLoop_got_eq).trans (List.nil_append _)
  complete h := by
    have hle := st.read_length_le (replyCond memory) 22 s
    change (st.read (replyCond memory) 22 s).got.length = 22 ∨ _
    rcases st.read_complete (replyCond memory) 22 s with hfull | hstop
    · exact Or.inl (Nat.le_antisymm hle hfull)
    · change (st.read (replyCond memory) 22 s).ec.failed = false at h
      rw [replyCond, Cond.onBuffer_ask, readReplyCond_overlay, readReplyCond] at hstop
      split_ifs at hstop with hend
      · rcases hend with ⟨h10, hat⟩ | hfail
        · exact Or.inr ⟨h10, (toAddressType_eq_ipV4_iff _).mp hat⟩
        · exact absurd (h.symm.trans hfail) (by decide)
      · exact Or.inl (Nat.le_antisymm hle (Nat.le_of_sub_eq_zero hstop))

/-- The two kinds of reads the clients make. -/
def ClientRead (c : Cond ErrorCode) (cap : ℕ) : Prop :=
  c = transferAll ∧ cap = 2 ∨ ∃ buffer, c = replyCond buffer ∧ cap = 22

theorem clientRead_transferAll : ClientRead transferAll 2 := Or.inl ⟨rfl, rfl⟩

theorem clientRead_replyCond (buffer : Bytes) : ClientRead (replyCond buffer) 22 :=
  Or.inr ⟨buffer, rfl, rfl⟩

theorem readsIn_asioRead {buffer : Bytes} {cap : ℕ} {c : Cond ErrorCode} (h : ClientRead c cap) :
    (asioRead buffer cap c).ReadsIn ClientRead :=
  ⟨h, fun _ _ => trivial⟩

theorem readsIn_asioWrite (buffer : Bytes) (n : ℕ) : (asioWrite buffer n).ReadsIn ClientRead :=
  fun _ _ => trivial

theorem readsIn_writeConnectRequest (buffer : Bytes) (target : Target) :
    (writeConnectRequest buffer target).ReadsIn ClientRead :=
  (readsIn_asioWrite _ _).bind fun _ => trivial

theorem readsIn_authenticate (buffer : Bytes) (opt : AuthOptions) :
    (authenticate buffer opt).ReadsIn ClientRead := by
  rw [authenticate]
  refine (readsIn_asioWrite _ _).bind ?_
  rintro ⟨_, ec⟩
  refine .ite trivial ?_
  refine (readsIn_asioRead clientRead_transferAll).bind ?_
  rintro ⟨n, buffer, ec⟩
  refine .ite trivial (.ite ?_ trivial)
  refine (readsIn_asioWrite _ _).bind ?_
  rintro ⟨_, ec⟩
  refine .ite trivial ?_
  refine (readsIn_asioRead clientRead_transferAll).bind ?_
  intro _
  trivial

theorem readsIn_readConnectReply (buffer : Bytes) :
    (readConnectReply buffer).ReadsIn ClientRead := by
  rw [readConnectReply]
  refine (readsIn_asioRead (clientRead_replyCond buffer)).bind ?_
  rintro ⟨n, buffer, ec⟩
  exact .ite trivial (.ite trivial trivial)

theorem readsIn_connect (memory : Vector UInt8 bufferSize) (target : Target) (opt : AuthOptions) :
    (connect memory target opt).ReadsIn ClientRead := by
  cases target with
  | endpoint ep =>
    refine (readsIn_authenticate memory.toList opt).bind ?_
    rintro ⟨_, buffer, ec⟩
    refine .ite trivial ?_
    refine (readsIn_writeConnectRequest _ _).bind ?_
    rintro ⟨_, buffer, ec⟩
    refine .ite trivial ?_
    refine (readsIn_readConnectReply _).bind ?_
    intro _
    trivial
  | domain ep =>
    refine (readsIn_authenticate memory.toList opt).bind ?_
    rintro ⟨_, buffer, ec⟩
    refine .ite trivial ?_
    refine (readsIn_writeConnectRequest _ _).bind ?_
    rintro ⟨_, buffer, ec⟩
    refine .ite trivial ?_
    refine (readsIn_readConnectReply _).bind ?_
    rintro ⟨ec, ep⟩
    exact .ite trivial trivial

theorem readsIn_connectOp (memory : Vector UInt8 bufferSize) (target : Target)
    (opt : AuthOptions) : (connectOp memory target opt).ReadsIn ClientRead := by
  refine Composed.readsIn (fun op e n c cap next h => ?_) _ _ _
  obtain ⟨buf, target, opt, coro⟩ := op
  cases coro <;> simp only [ConnectOp.composed, ConnectOp.resume, ConnectOp.sendRequest] at h <;>
    (try split_ifs at h) <;> cases h
  · exact clientRead_transferAll
  · exact clientRead_transferAll
  · exact clientRead_replyCond buf

/-! ### The result -/

/-- **Nothing is inspected that has not been received.** In every run of either client, on any
stream, every read either is of two bytes without a condition of its own or keeps what is promised
of a read of a CONNECT reply; and with every inspection, assertion and subtraction checked, the
clients are what they are without the checks. -/
theorem reply_side_checked {σ : Type} (memory : Vector UInt8 bufferSize) (target : Target)
    (opt : AuthOptions) (st : Asio.Stream ErrorCode σ) (ans : Empty → σ → Empty × σ) (s : σ) :
    (∀ mode : Mode, ∀ x ∈ (mode.connect memory target opt).composedReads st ans s,
      (x.cond = transferAll ∧ x.cap = 2) ∨ ReplyRead x) ∧
    checkedConnect memory target opt = unchecked (connect memory target opt) ∧
    ∀ (op : ConnectOp) (ec : ErrorCode) (n : ℕ), op.checkedResume ec n = some (op.resume ec n) := by
  refine ⟨fun mode x hx => ?_, checkedConnect_eq memory target opt, ConnectOp.checkedResume_eq⟩
  have hreads : (mode.connect memory target opt).ReadsIn ClientRead := by
    cases mode with
    | sync => exact readsIn_connect memory target opt
    | async => exact readsIn_connectOp memory target opt
  obtain ⟨c, cap, s', h, rfl⟩ := hreads.composedReads st ans s x hx
  rcases h with ⟨rfl, rfl⟩ | ⟨buffer, rfl, rfl⟩
  · exact Or.inl ⟨rfl, rfl⟩
  · exact Or.inr (replyRead_of_replyCond st buffer s')

end Socks
