import Socks.ConnectOp

/-!
# The handshake

What both clients are for, without a buffer: a greeting, a choice, possibly a sub-negotiation, a
request, a reply. The messages are values, each reply is looked at as the bytes that were
received, and nothing is stored anywhere.

The clients differ from each other in one decision, what to make of the user/pass reply, so the
handshake takes that decision as a parameter, a `UserpassPolicy`. A policy may stop with any
failure it likes; what makes it a policy is that it goes on after a grant only.

Both clients are equal *as programs* to the handshake with their policy, whatever their buffer
holds to begin with: that is `Socks.Refinement`. Everything proved about the handshake below, and
later, is thereby proved about the code.

## Main definitions

* `Socks.UserpassPolicy`, `Socks.syncPolicy`, `Socks.asyncPolicy`
* `Socks.handshake` — the handshake

## Main results

* `Socks.choice_of_choiceError`, `Socks.verdict_granted` — what a client goes on after
* `Socks.successReply_of_decodeReply` — only a successful reply is decoded to a success
-/

namespace Socks

open Asio

/-! ### The decisions of a client -/

/-- What a client makes of the read of the server choice: the error it goes on with. The end of
the file alone does not keep it from looking at the bytes. -/
def choiceError (opt : AuthOptions) (got : Bytes) (ec : ErrorCode) : ErrorCode :=
  if !ec.failed || ec == .eof then validateServerChoice got got.length opt ec else ec

/-- What a client makes of the read of the user/pass reply: the error it stops with, or `none` if
it goes on. It goes on only if access was granted, and no error but the end of the file was
reported along with that. -/
structure UserpassPolicy where
  verdict : Bytes → ErrorCode → Option ErrorCode
  granted : ∀ {got ec}, verdict got ec = none → got = [0x01, 0x00]
  readOk : ∀ {got ec}, verdict got ec = none → ec.failed = false ∨ ec = .eof
  failed : ∀ {got ec e}, verdict got ec = some e → e.failed = true

/-- What a client makes of the read of the CONNECT reply. -/
def decodeReply (got : Bytes) (ec : ErrorCode) : Completion :=
  if ec.failed && ec != .eof then (ec, default)
  else if got.length ≠ 10 ∧ got.length ≠ 22 then (makeErrorCode .badReplySize, default)
  else ((parseReplyV5 got got.length).2, (parseReplyV5 got got.length).1)

/-- The synchronous client checks the reply if it was read without an error, or up to the end of
the file, and stops at any failure. -/
def syncPolicy : UserpassPolicy where
  verdict got ec :=
    let ec := if !ec.failed || ec == .eof then validateUserpassReply got got.length ec else ec
    if ec.failed then some ec else none
  granted {got ec} h := by
    rcases validateUserpassReply_eq_or got ec with ⟨hgot, -⟩ | ⟨e, he, hval⟩
    · exact hgot
    · cases hread : (!ec.failed || ec == .eof) with
      | true => simp [hread, hval, he] at h
      | false =>
        have hfailed : ec.failed = false := by simpa [hread] using h
        simp [hfailed] at hread
  readOk {got ec} h := by
    cases hread : (!ec.failed || ec == .eof) with
    | true => simpa using hread
    | false => exact Or.inl (by simpa [hread] using h)
  failed {got ec e} h := by
    dsimp only at h
    split_ifs at h <;> cases h <;> assumption

/-- The asynchronous client checks the reply whatever the read reported, and goes on if what is
left is the end of the file. -/
def asyncPolicy : UserpassPolicy where
  verdict got ec :=
    let ec := validateUserpassReply got got.length ec
    if ec.failed && ec != .eof then some ec else none
  granted {got ec} h := by
    rcases validateUserpassReply_eq_or got ec with ⟨hgot, -⟩ | ⟨e, he, hval⟩
    · exact hgot
    · simp [hval, he, makeErrorCode_ne_eof] at h
  readOk {got ec} h := by
    rcases validateUserpassReply_eq_or got ec with ⟨-, hval⟩ | ⟨e, he, hval⟩
    · rw [hval] at h
      by_contra hec
      rw [not_or, Bool.not_eq_false] at hec
      simp [hec] at h
    · simp [hval, he, makeErrorCode_ne_eof] at h
  failed {got ec e} h := by
    dsimp only at h
    split_ifs at h with hstop
    cases h
    exact (Bool.and_eq_true_iff.mp hstop).1

/-- A grant that was read without a failure is enough for either. -/
theorem verdict_granted {ec : ErrorCode} (h : ec.failed = false) :
    syncPolicy.verdict [0x01, 0x00] ec = none ∧ asyncPolicy.verdict [0x01, 0x00] ec = none := by
  simp [syncPolicy, asyncPolicy, validateUserpassReply, h]

/-- A refusal is reported by either, whether or not the end of the file came with it. -/
theorem verdict_refused {status : UInt8} (hs : status ≠ 0x00) {ec : ErrorCode}
    (h : ec.failed = false ∨ ec = .eof) :
    syncPolicy.verdict [0x01, status] ec = some (makeErrorCode .accessDenied) ∧
      asyncPolicy.verdict [0x01, status] ec = some (makeErrorCode .accessDenied) := by
  have hval : validateUserpassReply [0x01, status] 2 ec = makeErrorCode .accessDenied := by
    simp [validateUserpassReply, hs]
  have hdenied : (makeErrorCode .accessDenied).failed = true := rfl
  have hne := makeErrorCode_ne_eof .accessDenied
  constructor
  · simp [syncPolicy, hval, h, hdenied]
  · simp [asyncPolicy, hval, hdenied, hne]

/-! ### The handshake -/

/-- The request phase: the CONNECT request, and what is read in reply. -/
def requestPhase (target : Target) : Client Completion :=
  .write (requestBytes target) fun _ ec =>
    if ec.failed then .pure (ec, default)
    else .read (replyCond []) 22 fun got ec => .pure (decodeReply got ec)

/-- The user/pass sub-negotiation, and then `next`. -/
def userpassPhase (policy : UserpassPolicy) (opt : AuthOptions) (next : Client Completion) :
    Client Completion :=
  .write (userpassBytes opt) fun _ ec =>
    if ec.failed then .pure (ec, default)
    else .read transferAll 2 fun got ec =>
      match policy.verdict got ec with
      | some e => .pure (e, default)
      | none => next

/-- The handshake of a client with the given policy. -/
def handshake (policy : UserpassPolicy) (opt : AuthOptions) (target : Target) :
    Client Completion :=
  .write (greetingBytes opt) fun _ ec =>
    if ec.failed then .pure (ec, default)
    else .read transferAll 2 fun got ec =>
      if (choiceError opt got ec).failed then .pure (choiceError opt got ec, default)
      else if byteAt got 1 = authMethodUserpass then
        userpassPhase policy opt (requestPhase target)
      else requestPhase target

/-! ### What the decisions look at -/

theorem choiceError_overlay (got buffer : Bytes) (opt : AuthOptions) (ec : ErrorCode) :
    (if !ec.failed || ec == .eof then
      validateServerChoice (overlay got buffer) got.length opt ec else ec)
      = choiceError opt got ec := by
  rw [validateServerChoice_overlay, choiceError]

/-- A choice that passes has two bytes. -/
theorem two_le_of_choiceError {got : Bytes} {opt : AuthOptions} {ec : ErrorCode}
    (h : (choiceError opt got ec).failed = false) : 2 ≤ got.length := by
  by_contra hlt
  have hval : validateServerChoice got got.length opt ec = makeErrorCode .badReplySize :=
    if_pos (Nat.lt_of_not_le hlt)
  rw [choiceError, hval] at h
  split_ifs at h with hread
  · exact absurd h (by decide)
  · simp [h] at hread

/-- **A choice that passes was offered.** -/
theorem choice_of_choiceError {got : Bytes} {opt : AuthOptions} {ec : ErrorCode}
    (hlen : got.length ≤ 2) (h : (choiceError opt got ec).failed = false) :
    ∃ m ∈ opt.methods, got = [0x05, m] ∧ ec.failed = false := by
  rw [choiceError] at h
  split_ifs at h with hread
  · exact validateServerChoice_not_failed hlen h
  · simp [h] at hread

/-- Whatever is decoded with a failure is the default endpoint. -/
theorem decodeReply_of_failed {got : Bytes} {ec : ErrorCode}
    (h : (decodeReply got ec).1.failed = true) : (decodeReply got ec).2 = default := by
  rw [decodeReply] at h ⊢
  split_ifs at h ⊢
  · rfl
  · rfl
  · exact parseReplyV5_of_failed h

/-- **Only a successful reply is decoded to a success**, and to its own endpoint. -/
theorem successReply_of_decodeReply {got : Bytes} {ec : ErrorCode}
    (h : (decodeReply got ec).1.failed = false) : SuccessReply got (decodeReply got ec).2 := by
  rw [decodeReply] at h ⊢
  split_ifs at h ⊢ with hstop hsize
  · rw [(Bool.and_eq_true_iff.mp hstop).1] at h
    exact absurd h (by decide)
  · exact absurd h (by decide)
  · exact successReply_of_parseReplyV5 h

theorem decodeReply_of_successReply {got : Bytes} {ep : Endpoint} {ec : ErrorCode}
    (h : SuccessReply got ep) (hec : ec.failed = false ∨ ec = .eof) :
    decodeReply got ec = (makeErrorCode .succeeded, ep) := by
  have hlen := h.length
  rw [decodeReply, if_neg (by rcases hec with hec | rfl <;> simp [*]), if_neg (by omega),
    parseReplyV5_of_successReply h]

/-- The decision about the CONNECT reply, on the buffer it was read into. -/
theorem decodeReply_overlay (got buffer : Bytes) (ec : ErrorCode) :
    (if ec.failed && ec != .eof then (ec, default)
      else if got.length ≠ 10 ∧ got.length ≠ 22 then (makeErrorCode .badReplySize, default)
      else ((parseReplyV5 (overlay got buffer) got.length).2,
        (parseReplyV5 (overlay got buffer) got.length).1)) = decodeReply got ec := by
  rw [decodeReply]
  by_cases hsize : got.length ≠ 10 ∧ got.length ≠ 22
  · simp only [if_pos hsize]
  · rw [parseReplyV5_overlay buffer (by omega)]

end Socks
