import Socks.FirstMessage
import Socks.Transcript

/-!
# Error conditions

A user who wants to know what went wrong compares the code with a condition: `succeeded`,
`reply_error` or `io_error`. This file is about what that tells.

It tells what the last operation of the handshake was. `reply_error` is a CONNECT reply that
refuses, and nothing else; a server that refuses the method or the credentials is an `io_error`,
like one that sends something else than SOCKS. An error of the stream is none of the three.

## Main definitions

* `Socks.ErrorCode.equivalent` — comparison with a condition
* `Socks.Reads`, `Socks.SuccessRead`, `Socks.RefusalRead`, `Socks.GrantRead`, `Socks.RejectionRead`
* `Socks.NegotiationRefused` — a method or the credentials are refused
* `Socks.Classified` — what a comparison tells

## Main results

* `Socks.conditions_classify`, `Socks.Classified.ioError_iff`
-/

namespace Socks

open Asio

/-! ### Comparison -/

/-- `ec == c`. -/
def ErrorCode.equivalent (ec : ErrorCode) (c : Condition) : Bool :=
  ec.defaultErrorCondition = .condition c

variable {ec : ErrorCode} {c : Condition} {e : Error}

@[simp] theorem equivalent_makeErrorCode :
    (makeErrorCode e).equivalent c = true ↔ e.condition = c := by
  rw [ErrorCode.equivalent, ErrorCode.defaultErrorCondition, makeErrorCode, Error.ofValue_value]
  simp

theorem equivalent_of_foreign (h : ec.category ≠ .socks) : ec.equivalent c = false := by
  rw [ErrorCode.equivalent, ErrorCode.defaultErrorCondition]
  split
  · exact absurd ‹_› h
  · simp

/-- A code is equivalent to one condition at most. -/
theorem equivalent_unique {c' : Condition} (h : ec.equivalent c = true)
    (h' : ec.equivalent c' = true) : c = c' := by
  rw [ErrorCode.equivalent, decide_eq_true_eq] at h h'
  exact ErrorCondition.condition.inj (h.symm.trans h')

theorem condition_eq_succeeded_iff :
    e.condition = .succeeded ↔ (makeErrorCode e).failed = false := by
  cases e <;> decide

theorem condition_ofReplyCode (q : ReplyCode) :
    (Error.ofReplyCode q).condition = .replyError ↔ q ≠ .succeeded := by
  cases q <;> decide

theorem condition_ofReplyCodeV4 (q : ReplyCodeV4) :
    (Error.ofReplyCodeV4 q).condition = .replyError ↔ q ≠ .requestGranted := by
  cases q <;> decide

/-! ### The last operation -/

variable {t t' : List IoStep}

/-- The last thing that is done is of this kind. -/
def EndsWith (t : List IoStep) (P : IoStep → Prop) : Prop := ∃ x, t.getLast? = some x ∧ P x

section EndsWith

variable {P : IoStep → Prop} {x y : IoStep}

theorem endsWith_iff (h : t.getLast? = some x) : EndsWith t P ↔ P x := by simp [EndsWith, h]

@[simp] theorem not_endsWith_nil : ¬EndsWith [] P := by simp [EndsWith]

@[simp] theorem endsWith_concat_iff : EndsWith (t ++ [x]) P ↔ P x := by simp [EndsWith]

@[simp] theorem endsWith_singleton_iff : EndsWith [x] P ↔ P x := by simp [EndsWith]

@[simp] theorem endsWith_cons_cons_iff : EndsWith (x :: y :: t) P ↔ EndsWith (y :: t) P := by
  simp [EndsWith]

theorem endsWith_append_iff (h : t' ≠ []) : EndsWith (t ++ t') P ↔ EndsWith t' P := by
  simp [EndsWith, List.getLast?_append_of_ne_nil _ h]

end EndsWith

/-- This is a read into `cap` bytes that gets a message that is `P`, whether or not the end of the
file comes with it. -/
def Reads (cap : ℕ) (P : Bytes → Prop) (x : IoStep) : Prop :=
  ∃ got e, x = .read cap got e ∧ (e.failed = false ∨ e = .eof) ∧ P got

section Reads

variable {cap cap' n : ℕ} {P : Bytes → Prop} {bs got : Bytes}

@[simp] theorem not_reads_write : ¬Reads cap P (.write bs n ec) := by simp [Reads]

@[simp] theorem reads_read_iff :
    Reads cap P (.read cap' got ec) ↔ cap' = cap ∧ (ec.failed = false ∨ ec = .eof) ∧ P got := by
  constructor
  · rintro ⟨_, _, ⟨⟩, h⟩
    exact ⟨rfl, h⟩
  · rintro ⟨rfl, h⟩
    exact ⟨got, ec, rfl, h⟩

end Reads

/-- A successful reply is read. -/
abbrev SuccessRead : IoStep → Prop := Reads 22 fun got => ∃ ep, SuccessReply got ep

/-- A reply that refuses is read. -/
abbrev RefusalRead : IoStep → Prop := Reads 22 fun got =>
  (got.length = 10 ∨ got.length = 22) ∧ byteAt got 0 = 0x05 ∧ byteAt got 1 ≠ 0x00

/-- A server choice of a method that was not offered, or a user/pass reply that denies access. -/
def Refuses (opt : AuthOptions) (got : Bytes) : Prop :=
  (∃ method, method ∉ opt.methods ∧ got = [0x05, method]) ∨
    ∃ status, status ≠ 0x00 ∧ got = [0x01, status]

/-- Such a message is read. -/
abbrev NegotiationRefused (opt : AuthOptions) : IoStep → Prop := Reads 2 (Refuses opt)

/-- A SOCKS4 reply that grants is read. -/
abbrev GrantRead : IoStep → Prop := Reads 8 fun got =>
  got.length = 8 ∧ (byteAt got 0 = 0x00 ∨ byteAt got 0 = 0x04) ∧ byteAt got 1 = 90

/-- A SOCKS4 reply that rejects is read. -/
abbrev RejectionRead : IoStep → Prop := Reads 8 fun got =>
  got.length = 8 ∧ (byteAt got 0 = 0x00 ∨ byteAt got 0 = 0x04) ∧ byteAt got 1 ≠ 90

/-! ### Success -/

variable {done : Completion} {got : Bytes}

theorem decodeReply_not_failed_iff :
    (decodeReply got ec).1.failed = false ↔
      (ec.failed = false ∨ ec = .eof) ∧ ∃ ep, SuccessReply got ep := by
  constructor
  · intro h
    refine ⟨?_, _, successReply_of_decodeReply h⟩
    by_contra hnot
    rw [not_or, Bool.not_eq_false] at hnot
    rw [decodeReply, if_pos (by simp [hnot]), hnot.1] at h
    exact absurd h (by decide)
  · rintro ⟨hread, ep, hreply⟩
    rw [decodeReply_of_successReply hreply hread]
    rfl

theorem decodeReplyV4_not_failed_iff :
    (decodeReplyV4 got ec).1.failed = false ↔ (ec.failed = false ∨ ec = .eof) ∧
      got.length = 8 ∧ (byteAt got 0 = 0x00 ∨ byteAt got 0 = 0x04) ∧ byteAt got 1 = 90 := by
  constructor
  · intro h
    refine ⟨?_, grant_of_decodeReplyV4 h⟩
    by_contra hnot
    rw [not_or, Bool.not_eq_false] at hnot
    rw [decodeReplyV4, if_pos (by simp [hnot]), hnot.1] at h
    exact absurd h (by decide)
  · rintro ⟨hread, hlen, hver, hrep⟩
    have hstop : ¬(ec.failed && ec != .eof) = true := by
      rcases hread with h | h
      · simp [h]
      · simp [h]
    have hversion : ¬(byteAt got 0 ≠ 0x00 ∧ byteAt got 0 ≠ 0x04) := by tauto
    rw [decodeReplyV4, if_neg hstop, if_neg (not_not_intro hlen), parseReplyV4, if_neg hversion,
      hrep]
    rfl

/-- A handshake succeeds exactly if a successful reply is the last thing that is read. -/
theorem Transcript.not_failed_iff {policy : UserpassPolicy} {opt : AuthOptions} {target : Target}
    {reply : Option (Bytes × ErrorCode)} (h : Transcript policy opt target reply t done) :
    done.1.failed = false ↔ EndsWith t SuccessRead := by
  cases h with
  | greetingFailed he => exact iff_of_false (by simp [he]) (by simp)
  | choiceRejected he hlen hc => exact iff_of_false (by simp [hc]) (by simp)
  | userpassFailed hopt he he' hu => exact iff_of_false (by simp [hu]) (by simp)
  | userpassRejected hopt he he' hu hlen hreply hv =>
    exact iff_of_false (by simp [policy.failed hv]) (by simp)
  | requestFailed ht he => exact iff_of_false (by simp [he]) (by simp)
  | replied ht he hlen =>
    rw [decodeReply_not_failed_iff, endsWith_append_iff (List.cons_ne_nil _ _)]
    simp

/-- A SOCKS4 handshake succeeds exactly if a grant is. -/
theorem TranscriptV4.not_failed_iff {targetHost : EndpointV4} {socksUser : Bytes}
    (h : TranscriptV4 targetHost socksUser t done) :
    done.1.failed = false ↔ EndsWith t GrantRead := by
  cases h with
  | requestFailed hn he => exact iff_of_false (by simp [he]) (by simp)
  | replied he hlen =>
    rw [decodeReplyV4_not_failed_iff]
    simp

/-! ### What is made of a reply -/

/-- What a comparison with the conditions tells: whether the last operation was one of the two
kinds; and if it is none of the three, the code is the code of the last operation. -/
structure Classified (granted refused : IoStep → Prop) (t : List IoStep) (ec : ErrorCode) :
    Prop where
  succeeded : ec.equivalent .succeeded = true ↔ EndsWith t granted
  replyError : ec.equivalent .replyError = true ↔ EndsWith t refused
  none : (∀ c, ec.equivalent c = false) ↔ EndsWith t fun x => ioError x = ec

section Classified

variable {granted refused : IoStep → Prop} {x : IoStep}

/-- What is left is `io_error`. -/
theorem Classified.ioError_iff (h : Classified granted refused t ec) :
    ec.equivalent .ioError = true ↔ ¬EndsWith t granted ∧ ¬EndsWith t refused ∧
      ¬EndsWith t fun x => ioError x = ec := by
  rw [← h.succeeded, ← h.replyError, ← h.none]
  constructor
  · intro hio
    refine ⟨fun hs => ?_, fun hr => ?_, fun hn => absurd (hn .ioError) (by simp [hio])⟩
    · cases equivalent_unique hio hs
    · cases equivalent_unique hio hr
  · rintro ⟨hs, hr, hn⟩
    by_contra hio
    rw [Bool.not_eq_true] at hs hr hio
    refine hn fun c => ?_
    cases c <;> assumption

/-- The client reports the error of the last operation. -/
theorem Classified.own (hlast : t.getLast? = some x) (hx : (ioError x).category ≠ .socks)
    (hg : ¬granted x) (hr : ¬refused x) : Classified granted refused t (ioError x) where
  succeeded := by simp [endsWith_iff hlast, equivalent_of_foreign hx, hg]
  replyError := by simp [endsWith_iff hlast, equivalent_of_foreign hx, hr]
  none := by simp [endsWith_iff hlast, equivalent_of_foreign hx]

/-- The client reports an error of its own. -/
theorem Classified.check (hlast : t.getLast? = some x) (hx : (ioError x).category ≠ .socks)
    (hg : e.condition = .succeeded ↔ granted x) (hr : e.condition = .replyError ↔ refused x) :
    Classified granted refused t (makeErrorCode e) where
  succeeded := by rw [equivalent_makeErrorCode, hg, endsWith_iff hlast]
  replyError := by rw [equivalent_makeErrorCode, hr, endsWith_iff hlast]
  none := by
    rw [endsWith_iff hlast]
    refine iff_of_false (fun h => ?_) fun h => hx (congrArg ErrorCode.category h)
    have hself : (makeErrorCode e).equivalent e.condition = true := equivalent_makeErrorCode.mpr rfl
    exact absurd (h e.condition) (by simp [hself])

end Classified

theorem parseReplyV5_condition (got : Bytes) (n : ℕ) :
    ∃ e, (parseReplyV5 got n).2 = makeErrorCode e ∧
      (e.condition = .replyError ↔ byteAt got 0 = 0x05 ∧ byteAt got 1 ≠ 0x00) := by
  rw [parseReplyV5]
  by_cases hver : byteAt got 0 = 0x05
  · rw [if_neg (not_not_intro hver)]
    have hcode := isSucceeded_ofReplyCode_iff (byteAt got 1)
    dsimp only
    by_cases hq : byteAt got 1 = 0x00
    · have hno : ∀ e : Error, e.condition ≠ .replyError →
          (e.condition = .replyError ↔ byteAt got 0 = 0x05 ∧ byteAt got 1 ≠ 0x00) :=
        fun e he => iff_of_false he fun h => h.2 hq
      rw [if_neg (by simp [hcode.mpr hq])]
      split
      · split_ifs
        · exact ⟨.badReplySize, rfl, hno _ (by decide)⟩
        · exact ⟨.ofReplyCode (toReplyCode (byteAt got 1)), rfl, hno _ (by rw [hq]; decide)⟩
      · split_ifs
        · exact ⟨.badReplySize, rfl, hno _ (by decide)⟩
        · exact ⟨.ofReplyCode (toReplyCode (byteAt got 1)), rfl, hno _ (by rw [hq]; decide)⟩
      · exact ⟨.badAddressType, rfl, hno _ (by decide)⟩
    · have hfail := mt hcode.mp hq
      rw [if_pos (by simpa using hfail)]
      refine ⟨_, rfl, iff_of_true ?_ ⟨hver, hq⟩⟩
      rw [condition_ofReplyCode]
      intro hsucc
      exact hq (hcode.mp (by rw [hsucc]; rfl))
  · rw [if_pos hver]
    exact ⟨.badReplyVersion, rfl, iff_of_false (by decide) fun h => hver h.1⟩

theorem parseReplyV4_condition (got : Bytes) :
    ∃ e, (parseReplyV4 got).2 = makeErrorCode e ∧
      (e.condition = .replyError ↔
        (byteAt got 0 = 0x00 ∨ byteAt got 0 = 0x04) ∧ byteAt got 1 ≠ 90) := by
  rw [parseReplyV4]
  by_cases hver : byteAt got 0 ≠ 0x00 ∧ byteAt got 0 ≠ 0x04
  · rw [if_pos hver]
    exact ⟨.badReplyVersion, rfl, iff_of_false (by decide) (by tauto)⟩
  · rw [if_neg hver]
    refine ⟨.ofReplyCodeV4 (toReplyCodeV4 (byteAt got 1)), ?_, ?_⟩
    · dsimp only
      split_ifs <;> rfl
    · have hver' : byteAt got 0 = 0x00 ∨ byteAt got 0 = 0x04 := by tauto
      rw [condition_ofReplyCodeV4, and_iff_right hver']
      have hcode := isSucceeded_ofReplyCodeV4_iff (byteAt got 1)
      constructor
      · intro hq h90
        exact hq (by rw [h90]; rfl)
      · intro h90 hq
        exact h90 (hcode.mp (by rw [hq]; rfl))

/-- A client that takes the code of a read as it is if the read failed, and checks what was read
if not. -/
theorem classified_of_read {cap : ℕ} {granted refused : Bytes → Prop} {code : ErrorCode}
    (hlast : t.getLast? = some (.read cap got ec)) (hec : ec.category ≠ .socks)
    (hown : ¬(ec.failed = false ∨ ec = .eof) → code = ec)
    (hcheck : ec.failed = false ∨ ec = .eof → ∃ e, code = makeErrorCode e ∧
      (e.condition = .succeeded ↔ granted got) ∧ (e.condition = .replyError ↔ refused got)) :
    Classified (Reads cap granted) (Reads cap refused) t code := by
  by_cases hread : ec.failed = false ∨ ec = .eof
  · obtain ⟨e, rfl, hg, hr⟩ := hcheck hread
    exact Classified.check hlast hec (by simp [hread, hg]) (by simp [hread, hr])
  · rw [hown hread]
    exact Classified.own hlast hec (by simp [hread]) (by simp [hread])

theorem stops_iff : (ec.failed && ec != .eof) = true ↔ ¬(ec.failed = false ∨ ec = .eof) := by
  simp

theorem decodeReply_classified (hlast : t.getLast? = some (.read 22 got ec))
    (hec : ec.category ≠ .socks) :
    Classified SuccessRead RefusalRead t (decodeReply got ec).1 := by
  refine classified_of_read hlast hec (fun hnot => ?_) fun hread => ?_
  · rw [decodeReply, if_pos (stops_iff.mpr hnot)]
  · obtain ⟨e, he, hrefused⟩ : ∃ e, (decodeReply got ec).1 = makeErrorCode e ∧
        (e.condition = .replyError ↔
          (got.length = 10 ∨ got.length = 22) ∧ byteAt got 0 = 0x05 ∧ byteAt got 1 ≠ 0x00) := by
      rw [decodeReply, if_neg (mt stops_iff.mp (not_not_intro hread))]
      split_ifs with hsize
      · exact ⟨.badReplySize, rfl, iff_of_false (by decide) fun h => by omega⟩
      · obtain ⟨e, he, hcond⟩ := parseReplyV5_condition got got.length
        exact ⟨e, he, hcond.trans (and_iff_right (by omega)).symm⟩
    refine ⟨e, he, ?_, hrefused⟩
    rw [condition_eq_succeeded_iff, ← he, decodeReply_not_failed_iff,
      and_iff_right hread]

theorem decodeReplyV4_classified (hlast : t.getLast? = some (.read 8 got ec))
    (hec : ec.category ≠ .socks) :
    Classified GrantRead RejectionRead t (decodeReplyV4 got ec).1 := by
  refine classified_of_read hlast hec (fun hnot => ?_) fun hread => ?_
  · rw [decodeReplyV4, if_pos (stops_iff.mpr hnot)]
  · obtain ⟨e, he, hrejected⟩ : ∃ e, (decodeReplyV4 got ec).1 = makeErrorCode e ∧
        (e.condition = .replyError ↔ got.length = 8 ∧
          (byteAt got 0 = 0x00 ∨ byteAt got 0 = 0x04) ∧ byteAt got 1 ≠ 90) := by
      rw [decodeReplyV4, if_neg (mt stops_iff.mp (not_not_intro hread))]
      split_ifs with hsize
      · exact ⟨.badReplySize, rfl, iff_of_false (by decide) fun h => hsize h.1⟩
      · obtain ⟨e, he, hcond⟩ := parseReplyV4_condition got
        exact ⟨e, he, hcond.trans (and_iff_right (not_not.mp hsize)).symm⟩
    refine ⟨e, he, ?_, hrejected⟩
    rw [condition_eq_succeeded_iff, ← he, decodeReplyV4_not_failed_iff,
      and_iff_right hread]

/-! ### What is made of the other messages -/

/-- The code of the read, or an `io_error` of the client's own. -/
def OwnOrIoError (u x : ErrorCode) : Prop :=
  x = u ∨ ∃ e : Error, e.condition = .ioError ∧ x = makeErrorCode e

theorem choiceError_ownOrIoError (opt : AuthOptions) (got : Bytes) (u : ErrorCode) :
    OwnOrIoError u (choiceError opt got u) := by
  rw [choiceError, validateServerChoice, validateServerChoiceCode]
  split_ifs
  · exact Or.inr ⟨.badReplySize, rfl, rfl⟩
  · exact Or.inr ⟨.badReplyVersion, rfl, rfl⟩
  · exact Or.inr ⟨.badServerChoice, rfl, rfl⟩
  · exact Or.inl rfl
  · exact Or.inl rfl

theorem validateUserpassReply_ownOrIoError (got : Bytes) (u : ErrorCode) :
    OwnOrIoError u (validateUserpassReply got got.length u) := by
  rw [validateUserpassReply]
  split_ifs
  · exact Or.inr ⟨.badReplySize, rfl, rfl⟩
  · exact Or.inr ⟨.badReplyVersion, rfl, rfl⟩
  · exact Or.inr ⟨.accessDenied, rfl, rfl⟩
  · exact Or.inl rfl

theorem Mode.verdict_ownOrIoError (mode : Mode) {got : Bytes} {u x : ErrorCode}
    (h : mode.policy.verdict got u = some x) : OwnOrIoError u x := by
  have hval := validateUserpassReply_ownOrIoError got u
  cases mode with
  | sync =>
    simp only [Mode.policy, syncPolicy] at h
    split_ifs at h
    · cases h
      exact hval
    · cases h
      exact Or.inl rfl
  | async =>
    simp only [Mode.policy, asyncPolicy] at h
    split_ifs at h
    cases h
    exact hval

/-- A message that refuses, where a server choice is expected. -/
theorem Refuses.choiceError {opt : AuthOptions} {got : Bytes} {u : ErrorCode}
    (h : Refuses opt got) (hread : u.failed = false ∨ u = .eof) :
    (Socks.choiceError opt got u).equivalent .ioError = true := by
  obtain ⟨e, he, hcode⟩ : ∃ e : Error, e.condition = .ioError ∧
      validateServerChoice got got.length opt u = makeErrorCode e := by
    obtain ⟨method, hmethod, rfl⟩ | ⟨status, -, rfl⟩ := h
    · refine ⟨.badServerChoice, rfl, ?_⟩
      change validateServerChoice _ 2 _ _ = _
      rw [validateServerChoice_of_two, if_neg hmethod]
    · exact ⟨.badReplyVersion, rfl, by simp [validateServerChoice, validateServerChoiceCode]⟩
  rw [Socks.choiceError, if_pos (by simpa using hread), hcode]
  exact equivalent_makeErrorCode.mpr he

/-- A message that refuses, where a user/pass reply is expected. -/
theorem Refuses.verdict {mode : Mode} {opt : AuthOptions} {got : Bytes} {u x : ErrorCode}
    (h : Refuses opt got) (hread : u.failed = false ∨ u = .eof)
    (hv : mode.policy.verdict got u = some x) : x.equivalent .ioError = true := by
  obtain ⟨e, he, hcode⟩ : ∃ e : Error, e.condition = .ioError ∧
      validateUserpassReply got got.length u = makeErrorCode e := by
    obtain ⟨method, -, rfl⟩ | ⟨status, hstatus, rfl⟩ := h
    · exact ⟨.badReplyVersion, rfl, by simp [validateUserpassReply]⟩
    · exact ⟨.accessDenied, rfl, by simp [validateUserpassReply, hstatus]⟩
  have hfailed : (makeErrorCode e).failed = true := by
    rw [← Bool.not_eq_false, ← condition_eq_succeeded_iff, he]
    decide
  have hverdict : mode.policy.verdict got u = some (makeErrorCode e) := by
    cases mode with
    | sync => simp [Mode.policy, syncPolicy, hcode, hread, hfailed]
    | async => simp [Mode.policy, asyncPolicy, hcode, hfailed, makeErrorCode_ne_eof]
  obtain rfl := Option.some.inj (hv.symm.trans hverdict)
  exact equivalent_makeErrorCode.mpr he

theorem OwnOrIoError.classified {got : Bytes} {u x : ErrorCode} (h : OwnOrIoError u x)
    (hlast : t.getLast? = some (.read 2 got u)) (hu : u.category ≠ .socks) :
    Classified SuccessRead RefusalRead t x := by
  have hg : ¬SuccessRead (.read 2 got u) := by simp
  have hr : ¬RefusalRead (.read 2 got u) := by simp
  obtain rfl | ⟨e, he, rfl⟩ := h
  · exact Classified.own hlast hu hg hr
  · exact Classified.check hlast hu (iff_of_false (by simp [he]) hg)
      (iff_of_false (by simp [he]) hr)

/-! ### What is made of a run -/

section Runs

variable {σ : Type} {mode : Mode} {opt : AuthOptions} {target : Target}

/-- No operation reported a code of the library's category. -/
def Foreign (t : List IoStep) : Prop := ∀ x ∈ t, (ioError x).category ≠ .socks

theorem Foreign.last {x : IoStep} (h : Foreign t) (hlast : t.getLast? = some x) :
    (ioError x).category ≠ .socks :=
  h x (List.mem_of_getLast? hlast)

theorem Transcript.classified {reply : Option (Bytes × ErrorCode)}
    (h : Transcript mode.policy opt target reply t done) (ht : Foreign t) :
    Classified SuccessRead RefusalRead t done.1 := by
  cases h with
  | greetingFailed he =>
    exact Classified.own rfl (ht.last rfl) (by simp) (by simp)
  | choiceRejected he hlen hc =>
    exact (choiceError_ownOrIoError _ _ _).classified rfl (ht.last rfl)
  | userpassFailed hopt he he' hu =>
    exact Classified.own rfl (ht.last rfl) (by simp) (by simp)
  | userpassRejected hopt he he' hu hlen hreply hv =>
    exact (mode.verdict_ownOrIoError hv).classified rfl (ht.last rfl)
  | requestFailed hn he =>
    exact Classified.own List.getLast?_concat (ht.last List.getLast?_concat)
      (by simp) (by simp)
  | replied hn he hlen =>
    rw [List.append_cons] at ht ⊢
    exact decodeReply_classified List.getLast?_concat (ht.last List.getLast?_concat)

theorem TranscriptV4.classified {targetHost : EndpointV4} {socksUser : Bytes}
    (h : TranscriptV4 targetHost socksUser t done) (ht : Foreign t) :
    Classified GrantRead RejectionRead t done.1 := by
  cases h with
  | requestFailed hn he =>
    exact Classified.own rfl (ht.last rfl) (by simp) (by simp)
  | replied he hlen => exact decodeReplyV4_classified rfl (ht.last rfl)

/-- A server that refuses the methods or the credentials is reported as an `io_error`. -/
theorem Transcript.ioError_of_refused {reply : Option (Bytes × ErrorCode)}
    (h : Transcript mode.policy opt target reply t done)
    (hlast : EndsWith t (NegotiationRefused opt)) : done.1.equivalent .ioError = true := by
  cases h with
  | greetingFailed he => simp at hlast
  | choiceRejected he hlen hc =>
    simp only [endsWith_cons_cons_iff, endsWith_singleton_iff, reads_read_iff, true_and] at hlast
    exact hlast.2.choiceError hlast.1
  | userpassFailed hopt he he' hu => simp at hlast
  | userpassRejected hopt he he' hu hlen hreply hv =>
    simp only [endsWith_cons_cons_iff, endsWith_singleton_iff, reads_read_iff, true_and] at hlast
    exact hlast.2.verdict hlast.1 hv
  | requestFailed hn he => simp at hlast
  | replied hn he hlen =>
    rw [endsWith_append_iff (List.cons_ne_nil _ _)] at hlast
    simp at hlast

variable {σ' : Type}

end Runs

/-- A server that accepts none of the methods. -/
def refusedMethods : Script ErrorCode := ⟨[.chunk 0x05 [0xFF]], []⟩

/-- The client reads the refusal. -/
theorem trace_refusedMethods :
    ((Mode.sync.connect (Vector.replicate bufferSize 0) (.endpoint default) .none).runOn
      clientStream refusedMethods).trace =
      [.write (greetingBytes .none) (greetingBytes .none).length .ok,
        .read 2 [0x05, 0xFF] .ok] := by
  have hwrite : clientStream.write (greetingBytes .none) refusedMethods =
      ⟨(greetingBytes .none).length, .ok, refusedMethods⟩ :=
    Script.write_nil ErrorCode.failed_eof _ _
  have hread : clientStream.read transferAll 2 refusedMethods = ⟨[0x05, 0xFF], .ok, ⟨[], []⟩⟩ :=
    Script.read_chunk ErrorCode.failed_eof 0x05 [0xFF] (by decide) [] []
  rw [Mode.connect_eq _ _ AuthOptions.fits_none (Target.fits_of_endpoint _), Client.runOn,
    handshake_run_choice hwrite ErrorCode.failed_ok hread, if_pos (by decide)]
  rfl

/-- Eight bytes that come in one chunk are read as the reply. -/
theorem handshakeV4_runOn_chunk (targetHost : EndpointV4) (socksUser : Bytes) {b : UInt8}
    {bs : Bytes} (hlen : (b :: bs).length = 8) (evs : List (ReadEvent ErrorCode)) :
    (handshakeV4 targetHost socksUser).runOn clientStream ⟨.chunk b bs :: evs, []⟩ =
      ⟨decodeReplyV4 (b :: bs) .ok,
        [.write (requestV4Bytes targetHost socksUser)
          (requestV4Bytes targetHost socksUser).length .ok, .read 8 (b :: bs) .ok],
        ⟨evs, []⟩⟩ := by
  have hwrite := Script.write_nil ErrorCode.failed_eof (requestV4Bytes targetHost socksUser)
    (.chunk b bs :: evs)
  have hread : clientStream.read transferAll 8 ⟨.chunk b bs :: evs, []⟩ =
      ⟨b :: bs, .ok, ⟨evs, []⟩⟩ :=
    hlen ▸ Script.read_chunk ErrorCode.failed_eof b bs
      (by rw [hlen, defaultMaxTransferSize]; omega) evs []
  rw [Client.runOn, handshakeV4, Prog.run_write hwrite, if_neg (by decide), Prog.run_read hread]
  rfl

/-- A server that rejects the request. -/
def rejectedV4 : Script ErrorCode := ⟨[.chunk 0x00 [91, 0, 0, 0, 0, 0, 0]], []⟩

/-- The client reads the rejection. -/
theorem trace_rejectedV4 (targetHost : EndpointV4) (socksUser : Bytes) :
    ((Mode.sync.connectV4 targetHost socksUser).runOn clientStream rejectedV4).trace =
      [.write (requestV4Bytes targetHost socksUser) (requestV4Bytes targetHost socksUser).length
        .ok, .read 8 [0x00, 91, 0, 0, 0, 0, 0, 0] .ok] := by
  rw [Mode.connectV4_eq, rejectedV4, handshakeV4_runOn_chunk _ _ rfl]

end Socks
