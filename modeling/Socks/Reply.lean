import Socks.Request
import Mathlib.Tactic.FinCases

/-!
# Replies

The checks the SOCKS5 client makes on what it received, and the completion condition that decides
how much of a CONNECT reply to read.

They take the whole work buffer and the count `n` of bytes the read delivered, so they could look
at bytes of an earlier message. They do not: on a buffer that has `got` in front and anything
behind it, each gives what it gives on `got` alone. Those `_overlay` lemmas are what lets the rest
of the development forget the buffer.

The checks set the error and never clear it, which is why they take one and give one back.

## Main definitions

* `Socks.validateServerChoice`, `Socks.validateUserpassReply`, `Socks.parseReplyV5`
* `Socks.readReplyCond` — the completion condition of the last read
* `Socks.SuccessReply` — the bytes of a successful CONNECT reply

## Main results

* `Socks.parseReplyV5_of_successReply`, `Socks.successReply_of_parseReplyV5` — the decoder accepts
  exactly those bytes
* `Socks.parseReplyV5_of_failed` — and gives the default endpoint with every other error
-/

namespace Socks

open Asio

/-! ### The checks -/

/-- `validate_server_choice` for the method byte `code`. -/
def validateServerChoiceCode (buffer : Bytes) (n : ℕ) (code : UInt8) (ec : ErrorCode) : ErrorCode :=
  if n < 2 then makeErrorCode .badReplySize
  else if byteAt buffer 0 ≠ 0x05 then makeErrorCode .badReplyVersion
  else if byteAt buffer 1 ≠ code ∧ byteAt buffer 1 ≠ 0x00 then makeErrorCode .badServerChoice
  else ec

/-- `validate_server_choice` for authentication options. -/
def validateServerChoice (buffer : Bytes) (n : ℕ) (opt : AuthOptions) (ec : ErrorCode) :
    ErrorCode :=
  validateServerChoiceCode buffer n opt.code ec

/-- `validate_userpass_reply`. -/
def validateUserpassReply (buffer : Bytes) (n : ℕ) (ec : ErrorCode) : ErrorCode :=
  if n ≠ 2 then makeErrorCode .badReplySize
  else if byteAt buffer 0 ≠ 0x01 then makeErrorCode .badReplyVersion
  else if byteAt buffer 1 ≠ 0x00 then makeErrorCode .accessDenied
  else ec

/-- `parse_reply_v5`: the endpoint it returns and the error it leaves. -/
def parseReplyV5 (buffer : Bytes) (n : ℕ) : Endpoint × ErrorCode :=
  if byteAt buffer 0 ≠ 0x05 then (default, makeErrorCode .badReplyVersion)
  else
    let ec := makeErrorCode (.ofReplyCode (toReplyCode (byteAt buffer 1)))
    if !ec.isSucceeded then (default, ec)
    else match toAddressType (byteAt buffer 3) with
      | .ipV4 =>
        if n ≠ 10 then (default, makeErrorCode .badReplySize)
        else
          let ip := (byteAt buffer 4).toUInt32
          let ip := (ip <<< 8) ||| (byteAt buffer 5).toUInt32
          let ip := (ip <<< 8) ||| (byteAt buffer 6).toUInt32
          let ip := (ip <<< 8) ||| (byteAt buffer 7).toUInt32
          let port := (byteAt buffer 8).toUInt16
          let port := port <<< 8
          let port := port ||| (byteAt buffer 9).toUInt16
          (⟨.v4 (makeAddressV4 ip), port⟩, ec)
      | .ipV6 =>
        if n ≠ 22 then (default, makeErrorCode .badReplySize)
        else
          let ip : AddressV6 := ⟨fun i => byteAt buffer (4 + i), 0⟩
          let port := (byteAt buffer 20).toUInt16
          let port := port <<< 8
          let port := port ||| (byteAt buffer 21).toUInt16
          (⟨.v6 ip, port⟩, ec)
      | _ => (default, makeErrorCode .badAddressType)

/-- `read_reply_cond`. The subtraction is of `std::size_t` in the source; it is asked with `n` at
most `22`, the size of the buffer it reads into, and never wraps. -/
def readReplyCond (buffer : Bytes) (ec : ErrorCode) (n : ℕ) : ℕ :=
  if (n = 10 ∧ toAddressType (byteAt buffer 3) = .ipV4) ∨ ec.failed then 0
  else 22 - n

theorem readReplyCond_of_failed (buffer : Bytes) (ec : ErrorCode) (n : ℕ) (h : ec.failed = true) :
    readReplyCond buffer ec n = 0 :=
  if_pos (Or.inr h)

/-- `read_reply_cond{buffer}`. -/
def replyCond (buffer : Bytes) : Cond ErrorCode :=
  Cond.onBuffer readReplyCond readReplyCond_of_failed buffer

/-! ### What they look at -/

theorem validateServerChoice_overlay (got buffer : Bytes) (opt : AuthOptions) (ec : ErrorCode) :
    validateServerChoice (overlay got buffer) got.length opt ec
      = validateServerChoice got got.length opt ec := by
  rw [validateServerChoice, validateServerChoice, validateServerChoiceCode,
    validateServerChoiceCode]
  rcases Nat.lt_or_ge got.length 2 with h | h
  · rw [if_pos h, if_pos h]
  · rw [byteAt_overlay buffer (show 0 < got.length by omega),
      byteAt_overlay buffer (show 1 < got.length by omega)]

theorem validateUserpassReply_overlay (got buffer : Bytes) (ec : ErrorCode) :
    validateUserpassReply (overlay got buffer) got.length ec
      = validateUserpassReply got got.length ec := by
  rw [validateUserpassReply, validateUserpassReply]
  by_cases h : got.length = 2
  · rw [byteAt_overlay buffer (show 0 < got.length by omega),
      byteAt_overlay buffer (show 1 < got.length by omega)]
  · rw [if_pos h, if_pos h]

/-- The decoder looks at the address and the port only when the count says they are there. -/
theorem parseReplyV5_overlay (buffer : Bytes) {got : Bytes} (h : 4 ≤ got.length) :
    parseReplyV5 (overlay got buffer) got.length = parseReplyV5 got got.length := by
  rw [parseReplyV5, parseReplyV5, byteAt_overlay buffer (show 0 < got.length by omega),
    byteAt_overlay buffer (show 1 < got.length by omega),
    byteAt_overlay buffer (show 3 < got.length by omega)]
  split
  · rfl
  dsimp only
  split
  · rfl
  split
  · by_cases h10 : got.length = 10
    · rw [byteAt_overlay buffer (show 4 < got.length by omega),
        byteAt_overlay buffer (show 5 < got.length by omega),
        byteAt_overlay buffer (show 6 < got.length by omega),
        byteAt_overlay buffer (show 7 < got.length by omega),
        byteAt_overlay buffer (show 8 < got.length by omega),
        byteAt_overlay buffer (show 9 < got.length by omega)]
    · rw [if_pos h10, if_pos h10]
  · by_cases h22 : got.length = 22
    · have hip : (fun i : Fin 16 => byteAt (overlay got buffer) (4 + i))
          = fun i : Fin 16 => byteAt got (4 + i) :=
        funext fun i => byteAt_overlay buffer (by omega)
      rw [byteAt_overlay buffer (show 20 < got.length by omega),
        byteAt_overlay buffer (show 21 < got.length by omega), hip]
    · rw [if_pos h22, if_pos h22]
  · rfl

theorem readReplyCond_overlay (got buffer : Bytes) (ec : ErrorCode) :
    readReplyCond (overlay got buffer) ec got.length = readReplyCond got ec got.length := by
  rw [readReplyCond, readReplyCond]
  by_cases h : got.length = 10
  · rw [byteAt_overlay buffer (show 3 < got.length by omega)]
  · simp [h]

theorem replyCond_eq (buffer : Bytes) : replyCond buffer = replyCond [] := by
  refine Cond.ext (funext fun got => funext fun ec => ?_)
  rw [replyCond, replyCond, Cond.onBuffer_ask, Cond.onBuffer_ask, readReplyCond_overlay,
    readReplyCond_overlay]

/-! ### What they accept -/

theorem validateServerChoice_of_two {opt : AuthOptions} {m : UInt8} {ec : ErrorCode} :
    validateServerChoice [0x05, m] 2 opt ec
      = if m ∈ opt.methods then ec else makeErrorCode .badServerChoice := by
  simp only [validateServerChoice, validateServerChoiceCode, opt.mem_methods_iff]
  by_cases hc : m = opt.code <;> by_cases h0 : m = 0x00 <;> simp [hc, h0]

/-- A choice that passes is complete, of the right version, and was offered. -/
theorem validateServerChoice_not_failed {got : Bytes} {opt : AuthOptions} {ec : ErrorCode}
    (hlen : got.length ≤ 2) (h : (validateServerChoice got got.length opt ec).failed = false) :
    ∃ m ∈ opt.methods, got = [0x05, m] ∧ ec.failed = false := by
  rw [validateServerChoice, validateServerChoiceCode] at h
  split_ifs at h with hsize hver hchoice
  · exact absurd h (by decide)
  · exact absurd h (by decide)
  · exact absurd h (by decide)
  obtain ⟨a, m, rfl⟩ := List.length_eq_two.mp (Nat.le_antisymm hlen (Nat.not_lt.mp hsize))
  obtain rfl : a = 0x05 := by simpa using hver
  refine ⟨m, (opt.mem_methods_iff m).mpr ?_, rfl, h⟩
  by_contra hm
  exact hchoice (by simpa [not_or] using hm)

/-- A user/pass reply that leaves a success is complete and grants access. -/
theorem validateUserpassReply_eq_or (got : Bytes) (ec : ErrorCode) :
    (got = [0x01, 0x00] ∧ validateUserpassReply got got.length ec = ec) ∨
      ∃ e, (makeErrorCode e).failed = true ∧
        validateUserpassReply got got.length ec = makeErrorCode e := by
  rw [validateUserpassReply]
  split_ifs with hsize hver hstatus
  · exact Or.inr ⟨.badReplySize, rfl, rfl⟩
  · exact Or.inr ⟨.badReplyVersion, rfl, rfl⟩
  · exact Or.inr ⟨.accessDenied, rfl, rfl⟩
  · obtain ⟨a, b, rfl⟩ := List.length_eq_two.mp (not_not.mp hsize)
    refine Or.inl ⟨?_, rfl⟩
    simpa using And.intro (not_not.mp hver) (not_not.mp hstatus)

theorem isSucceeded_ofReplyCode_iff (q : UInt8) :
    (makeErrorCode (.ofReplyCode (toReplyCode q))).isSucceeded = true ↔ q = 0x00 := by
  have hval := value_ofReplyCode q
  rw [isSucceeded_makeErrorCode, Bool.not_eq_true', failed_makeErrorCode_eq_false_iff,
    ← UInt8.toNat_inj, show (0x00 : UInt8).toNat = 0 from rfl]
  constructor
  · rintro (h | h)
    all_goals
      rw [h] at hval
      simp only [Error.value] at hval
      split_ifs at hval <;> omega
  · intro h
    left
    rw [toReplyCode, h]
    rfl

/-- The bytes of a successful CONNECT reply, with the endpoint they carry: the address in network
order, the port with its most significant byte first, any reserved byte. -/
inductive SuccessReply : Bytes → Endpoint → Prop
  | v4 (rsv : UInt8) (ip : Fin 4 → UInt8) (hi lo : UInt8) {port : UInt16}
      (h : port.toNat = 256 * hi.toNat + lo.toNat) :
      SuccessReply (0x05 :: 0x00 :: rsv :: 0x01 :: (List.ofFn ip ++ [hi, lo])) ⟨.v4 ⟨ip⟩, port⟩
  | v6 (rsv : UInt8) (ip : Fin 16 → UInt8) (hi lo : UInt8) {port : UInt16}
      (h : port.toNat = 256 * hi.toNat + lo.toNat) :
      SuccessReply (0x05 :: 0x00 :: rsv :: 0x04 :: (List.ofFn ip ++ [hi, lo])) ⟨.v6 ⟨ip, 0⟩, port⟩

theorem SuccessReply.length {got : Bytes} {ep : Endpoint} (h : SuccessReply got ep) :
    got.length = 10 ∨ got.length = 22 := by
  cases h <;> simp

/-- **The decoder, case by case.** It fails with the default endpoint and one of the library's
errors, or the bytes are a successful reply with the length its address type asks for. -/
theorem parseReplyV5_cases (buffer : Bytes) (n : ℕ) :
    (∃ e, (makeErrorCode e).failed = true ∧ parseReplyV5 buffer n = (default, makeErrorCode e)) ∨
    (n = 10 ∧ byteAt buffer 0 = 0x05 ∧ byteAt buffer 1 = 0x00 ∧ byteAt buffer 3 = 0x01 ∧
      parseReplyV5 buffer n =
        (⟨.v4 ⟨![byteAt buffer 4, byteAt buffer 5, byteAt buffer 6, byteAt buffer 7]⟩,
          (byteAt buffer 8).toUInt16 <<< 8 ||| (byteAt buffer 9).toUInt16⟩,
          makeErrorCode .succeeded)) ∨
    (n = 22 ∧ byteAt buffer 0 = 0x05 ∧ byteAt buffer 1 = 0x00 ∧ byteAt buffer 3 = 0x04 ∧
      parseReplyV5 buffer n =
        (⟨.v6 ⟨fun i => byteAt buffer (4 + i), 0⟩,
          (byteAt buffer 20).toUInt16 <<< 8 ||| (byteAt buffer 21).toUInt16⟩,
          makeErrorCode .succeeded)) := by
  rw [parseReplyV5]
  by_cases hver : byteAt buffer 0 = 0x05
  · by_cases hrep : byteAt buffer 1 = 0x00
    · have hcode : makeErrorCode (.ofReplyCode (toReplyCode 0x00)) = makeErrorCode .succeeded := rfl
      have hsucc : (makeErrorCode .succeeded).isSucceeded = true := rfl
      simp only [hver, hrep, hcode, hsucc, ne_eq, not_true_eq_false, if_false, Bool.not_true,
        Bool.false_eq_true]
      cases hat : toAddressType (byteAt buffer 3) with
      | ipV4 =>
        by_cases hn : n = 10
        · refine Or.inr (Or.inl ⟨hn, trivial, trivial, (toAddressType_eq_ipV4_iff _).mp hat, ?_⟩)
          rw [if_neg (not_not.mpr hn), makeAddressV4_join]
        · exact Or.inl ⟨.badReplySize, rfl, if_pos hn⟩
      | ipV6 =>
        by_cases hn : n = 22
        · refine Or.inr (Or.inr ⟨hn, trivial, trivial, (toAddressType_eq_ipV6_iff _).mp hat, ?_⟩)
          rw [if_neg (not_not.mpr hn)]
        · exact Or.inl ⟨.badReplySize, rfl, if_pos hn⟩
      | domainName => exact Or.inl ⟨.badAddressType, rfl, rfl⟩
      | unknown => exact Or.inl ⟨.badAddressType, rfl, rfl⟩
    · have hfail : (makeErrorCode (.ofReplyCode (toReplyCode (byteAt buffer 1)))).isSucceeded
          = false := by
        rw [← Bool.not_eq_true, isSucceeded_ofReplyCode_iff]
        exact hrep
      refine Or.inl ⟨.ofReplyCode (toReplyCode (byteAt buffer 1)), ?_, ?_⟩
      · simpa [isSucceeded_makeErrorCode] using hfail
      · simp [hver, hfail]
  · exact Or.inl ⟨.badReplyVersion, rfl, if_pos hver⟩

/-- Whatever the decoder returns with a failure is the default endpoint. -/
theorem parseReplyV5_of_failed {buffer : Bytes} {n : ℕ}
    (h : (parseReplyV5 buffer n).2.failed = true) : (parseReplyV5 buffer n).1 = default := by
  rcases parseReplyV5_cases buffer n with ⟨e, -, hp⟩ | ⟨-, -, -, -, hp⟩ | ⟨-, -, -, -, hp⟩
  · rw [hp]
  all_goals
    rw [hp] at h
    exact absurd h Bool.false_ne_true

/-- **The decoder accepts successful replies only.** -/
theorem successReply_of_parseReplyV5 {got : Bytes}
    (h : (parseReplyV5 got got.length).2.failed = false) :
    SuccessReply got (parseReplyV5 got got.length).1 := by
  rcases parseReplyV5_cases got got.length with
    ⟨e, he, hp⟩ | ⟨hn, h0, h1, h3, hp⟩ | ⟨hn, h0, h1, h3, hp⟩
  · rw [hp] at h
    exact absurd (h.symm.trans he) (by decide)
  · rw [hp]
    convert SuccessReply.v4 (byteAt got 2) ![byteAt got 4, byteAt got 5, byteAt got 6, byteAt got 7]
      (byteAt got 8) (byteAt got 9) (toNat_join16 _ _) using 1
    conv_lhs => rw [← ofFn_byteAt hn]
    simp [List.ofFn_succ, h0, h1, h3]
  · rw [hp]
    convert SuccessReply.v6 (byteAt got 2) (fun i => byteAt got (4 + i)) (byteAt got 20)
      (byteAt got 21) (toNat_join16 _ _) using 1
    conv_lhs => rw [← ofFn_byteAt hn]
    simp [List.ofFn_succ, h0, h1, h3]

/-- **The decoder accepts every successful reply**, and returns its endpoint. -/
theorem parseReplyV5_of_successReply {got : Bytes} {ep : Endpoint} (h : SuccessReply got ep) :
    parseReplyV5 got got.length = (ep, makeErrorCode .succeeded) := by
  have hcode : makeErrorCode (.ofReplyCode (toReplyCode 0x00)) = makeErrorCode .succeeded := rfl
  have hsucc : (makeErrorCode .succeeded).isSucceeded = true := rfl
  cases h with
  | @v4 rsv ip hi lo port hport =>
    obtain rfl : hi.toUInt16 <<< 8 ||| lo.toUInt16 = port :=
      UInt16.toNat_inj.mp ((toNat_join16 hi lo).trans hport.symm)
    have hip : (![ip 0, ip 1, ip 2, ip 3] : Fin 4 → UInt8) = ip := by
      funext i
      fin_cases i <;> rfl
    have hat : toAddressType 0x01 = .ipV4 := rfl
    simp [parseReplyV5, List.ofFn_succ, hcode, hsucc, hat, makeAddressV4_join]
    exact hip
  | @v6 rsv ip hi lo port hport =>
    obtain rfl : hi.toUInt16 <<< 8 ||| lo.toUInt16 = port :=
      UInt16.toNat_inj.mp ((toNat_join16 hi lo).trans hport.symm)
    have hat : toAddressType 0x04 = .ipV6 := rfl
    have hip : (fun i : Fin 16 => byteAt (0x05 :: 0x00 :: rsv :: 0x04 :: (List.ofFn ip ++ [hi, lo]))
        (4 + i)) = ip := by
      funext i
      rw [Nat.add_comm]
      exact (byteAt_append _ (by simp)).trans (byteAt_ofFn ip i)
    simp only [parseReplyV5, hip]
    simp [List.ofFn_succ, hcode, hsucc, hat]

end Socks
