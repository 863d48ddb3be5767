import Socks.Connect
import Socks.Asio.Compose

/-!
# The SOCKS4 clients

SOCKS4 has no negotiation: one request, which carries the user id, and one reply of eight bytes.
The synchronous client builds the request in a vector it allocates in the call; the coroutine
fills its vector in its constructor, writes all of it, and reads the reply over its front. Both
are the same program, `handshakeV4`.

A SOCKS4 target is an IPv4 endpoint. For any other the source throws before it writes anything,
and such a target is not representable here.

## Main definitions

* `Socks.prepareRequestV4`, `Socks.parseReplyV4` — encoder and decoder
* `Socks.connectV4`, `Socks.ConnectV4Op`, `Socks.asyncConnectV4` — the clients
* `Socks.handshakeV4` — what they do

## Main results

* `Socks.connectV4_eq_handshakeV4`, `Socks.asyncConnectV4_eq_handshakeV4`
* `Socks.parseReplyV4_cases` — the decoder, case by case
-/

namespace Socks

open Asio

/-! ### The messages -/

/-- An endpoint whose address is an IPv4 address. -/
structure EndpointV4 where
  address : AddressV4
  port : UInt16
  deriving DecidableEq

/-- `prepare_request_v4`: VER, CMD, DSTPORT, DSTIP, USERID, NULL. -/
def prepareRequestV4 (buffer : Bytes) (targetHost : EndpointV4) (socksUser : Bytes) : Bytes × ℕ :=
  let buffer := buffer.set 0 Version.socks4.byte
  let buffer := buffer.set 1 commandConnect
  let buffer := buffer.set 2 (targetHost.port >>> 8).toUInt8
  let buffer := buffer.set 3 (targetHost.port &&& 0xFF).toUInt8
  let ipBytes := targetHost.address.bytes
  let buffer := buffer.set 4 (ipBytes 0)
  let buffer := buffer.set 5 (ipBytes 1)
  let buffer := buffer.set 6 (ipBytes 2)
  let buffer := buffer.set 7 (ipBytes 3)
  let (buffer, _) := putBytes buffer 8 socksUser
  let buffer := buffer.set (8 + socksUser.length) 0x00
  (buffer, 9 + socksUser.length)

/-- The SOCKS4 request. -/
def requestV4Bytes (targetHost : EndpointV4) (socksUser : Bytes) : Bytes :=
  Version.socks4.byte :: commandConnect ::
    (portBytes targetHost.port ++ targetHost.address.toBytes ++ socksUser ++ [0x00])

theorem length_requestV4Bytes (targetHost : EndpointV4) (socksUser : Bytes) :
    (requestV4Bytes targetHost socksUser).length = 9 + socksUser.length := by
  simp only [requestV4Bytes, portBytes, List.length_cons, List.length_append, List.length_nil,
    AddressV4.length_toBytes]
  omega

/-- The encoder puts the request in front of whatever the buffer holds. -/
theorem prepareRequestV4_overlay {buffer : Bytes} (targetHost : EndpointV4) {socksUser : Bytes}
    (h : 9 + socksUser.length ≤ buffer.length) :
    prepareRequestV4 buffer targetHost socksUser
      = (overlay (requestV4Bytes targetHost socksUser) buffer, 9 + socksUser.length) := by
  rw [prepareRequestV4, set_zero (by omega)]
  iterate 7 rw [overlay_set (by simp) (by simp; omega)]
  rw [putBytes_overlay (by simp) (by simp; omega)]
  dsimp only
  rw [overlay_set (by simp; omega) (by simp; omega)]
  refine Prod.ext ?_ rfl
  have hfront : ([Version.socks4.byte] ++ [commandConnect] ++ [(targetHost.port >>> 8).toUInt8] ++
      [(targetHost.port &&& 0xFF).toUInt8] ++ [targetHost.address.bytes 0] ++
      [targetHost.address.bytes 1] ++ [targetHost.address.bytes 2] ++
      [targetHost.address.bytes 3] ++ socksUser ++ [0x00])
      = requestV4Bytes targetHost socksUser := by
    simp [requestV4Bytes, portBytes, AddressV4.toBytes, List.ofFn_succ]
  rw [hfront]

/-- A buffer of the exact size holds the request and nothing else. -/
theorem prepareRequestV4_eq {buffer : Bytes} (targetHost : EndpointV4) {socksUser : Bytes}
    (h : buffer.length = 9 + socksUser.length) :
    prepareRequestV4 buffer targetHost socksUser
      = (requestV4Bytes targetHost socksUser, 9 + socksUser.length) := by
  have hlen : (requestV4Bytes targetHost socksUser).length = buffer.length := by
    rw [length_requestV4Bytes, h]
  rw [prepareRequestV4_overlay targetHost (Nat.le_of_eq h.symm), overlay, hlen, List.drop_length,
    List.append_nil]

/-- `parse_reply_v4`: the endpoint it returns and the error it leaves. The address is taken from
bytes 3 to 6, one before where the reply has it. -/
def parseReplyV4 (buffer : Bytes) : Endpoint × ErrorCode :=
  if byteAt buffer 0 ≠ 0x00 ∧ byteAt buffer 0 ≠ 0x04 then (default, makeErrorCode .badReplyVersion)
  else
    let ec := makeErrorCode (.ofReplyCodeV4 (toReplyCodeV4 (byteAt buffer 1)))
    if !ec.isSucceeded then (default, ec)
    else
      let port := (byteAt buffer 2).toUInt16
      let port := (port <<< 8) ||| (byteAt buffer 3).toUInt16
      let ip := (byteAt buffer 3).toUInt32
      let ip := (ip <<< 8) ||| (byteAt buffer 4).toUInt32
      let ip := (ip <<< 8) ||| (byteAt buffer 5).toUInt32
      let ip := (ip <<< 8) ||| (byteAt buffer 6).toUInt32
      (⟨.v4 (makeAddressV4 ip), port⟩, ec)

theorem parseReplyV4_overlay (buffer : Bytes) {got : Bytes} (h : got.length = 8) :
    parseReplyV4 (overlay got buffer) = parseReplyV4 got := by
  simp only [parseReplyV4, byteAt_overlay buffer (show 0 < got.length by omega),
    byteAt_overlay buffer (show 1 < got.length by omega),
    byteAt_overlay buffer (show 2 < got.length by omega),
    byteAt_overlay buffer (show 3 < got.length by omega),
    byteAt_overlay buffer (show 4 < got.length by omega),
    byteAt_overlay buffer (show 5 < got.length by omega),
    byteAt_overlay buffer (show 6 < got.length by omega)]

/-- Of the SOCKS4 reply codes, only `request_granted` is a success. -/
theorem isSucceeded_ofReplyCodeV4_iff (q : UInt8) :
    (makeErrorCode (.ofReplyCodeV4 (toReplyCodeV4 q))).isSucceeded = true ↔ q = 90 := by
  have hval := value_ofReplyCodeV4 q
  rw [isSucceeded_makeErrorCode, Bool.not_eq_true', failed_makeErrorCode_eq_false_iff,
    ← UInt8.toNat_inj, show (90 : UInt8).toNat = 90 from rfl]
  constructor
  · rintro (h | h)
    all_goals
      rw [h] at hval
      simp only [Error.value] at hval
      split_ifs at hval <;> omega
  · intro h
    right
    rw [toReplyCodeV4, h]
    rfl

/-- **The decoder, case by case.** A failure comes with the default endpoint; a success has one
of the two versions and the one code that grants. -/
theorem parseReplyV4_cases (got : Bytes) :
    (∃ e, (makeErrorCode e).failed = true ∧ parseReplyV4 got = (default, makeErrorCode e)) ∨
    ((byteAt got 0 = 0x00 ∨ byteAt got 0 = 0x04) ∧ byteAt got 1 = 90 ∧
      (parseReplyV4 got).2 = makeErrorCode .requestGranted) := by
  rw [parseReplyV4]
  by_cases hver : byteAt got 0 ≠ 0x00 ∧ byteAt got 0 ≠ 0x04
  · exact Or.inl ⟨.badReplyVersion, rfl, if_pos hver⟩
  rw [if_neg hver]
  by_cases hrep : byteAt got 1 = 90
  · have hver' : byteAt got 0 = 0x00 ∨ byteAt got 0 = 0x04 := by
      rwa [not_and_or, not_not, not_not] at hver
    refine Or.inr ⟨hver', hrep, ?_⟩
    rw [hrep]
    rfl
  · have hfail : (makeErrorCode (.ofReplyCodeV4 (toReplyCodeV4 (byteAt got 1)))).isSucceeded
        = false := by
      rw [← Bool.not_eq_true, isSucceeded_ofReplyCodeV4_iff]
      exact hrep
    refine Or.inl ⟨.ofReplyCodeV4 (toReplyCodeV4 (byteAt got 1)), ?_, ?_⟩
    · simpa [isSucceeded_makeErrorCode] using hfail
    · simp [hfail]

/-! ### The clients -/

/-- `connect_v4`. -/
def connectV4 (targetHost : EndpointV4) (socksUser : Bytes) : Client Completion := do
  let buffer := List.replicate (9 + socksUser.length) 0
  let (buffer, n) := prepareRequestV4 buffer targetHost socksUser
  let (_, ec) ← asioWrite buffer n
  if ec.failed then
    return (ec, default)
  let (n, buffer, ec) ← asioRead buffer 8 transferAll
  if ec.failed && ec != .eof then
    return (ec, default)
  if n ≠ 8 then
    return (makeErrorCode .badReplySize, default)
  let (ep, ec) := parseReplyV4 buffer
  return (ec, ep)

/-- Where `connect_v4_op` is suspended. -/
inductive ConnectV4Point
  | initial
  | requestSent
  | replyRead

/-- The fields of `connect_v4_op`. -/
structure ConnectV4Op where
  buf : Bytes
  coro : ConnectV4Point := .initial

/-- The constructor of `connect_v4_op`. -/
def ConnectV4Op.create (targetHost : EndpointV4) (socksUser : Bytes) : ConnectV4Op where
  buf := (prepareRequestV4 (List.replicate (9 + socksUser.length) 0) targetHost socksUser).1

/-- `connect_v4_op::operator()`. -/
def ConnectV4Op.resume (op : ConnectV4Op) (ec : ErrorCode) (n : ℕ) :
    Suspend ErrorCode ConnectV4Op Completion :=
  match op.coro with
  | .initial => .asyncWrite op.buf { op with coro := .requestSent }
  | .requestSent =>
    if ec.failed then .complete (ec, default)
    else .asyncRead transferAll 8 fun got => { buf := overlay got op.buf, coro := .replyRead }
  | .replyRead =>
    if ec.failed && ec != .eof then .complete (ec, default)
    else if n ≠ 8 then .complete (makeErrorCode .badReplySize, default)
    else
      let (ep, ec) := parseReplyV4 op.buf
      .complete (ec, ep)

/-- How many suspension points are still ahead. -/
def ConnectV4Point.rank : ConnectV4Point → ℕ
  | .initial => 2
  | .requestSent => 1
  | .replyRead => 0

/-- The coroutine as a composed operation. -/
def ConnectV4Op.composed : Composed ErrorCode ConnectV4Op Completion where
  resume := ConnectV4Op.resume
  rank op := op.coro.rank
  rank_write {op e n bs op'} h := by
    obtain ⟨buf, coro⟩ := op
    cases coro with
    | initial =>
      cases h
      exact Nat.one_lt_two
    | requestSent => simp only [ConnectV4Op.resume] at h; split_ifs at h
    | replyRead => simp only [ConnectV4Op.resume] at h; split_ifs at h
  rank_read {op e n c cap next} h got := by
    obtain ⟨buf, coro⟩ := op
    cases coro with
    | initial => cases h
    | requestSent =>
      simp only [ConnectV4Op.resume] at h
      split_ifs at h
      cases h
      exact Nat.zero_lt_one
    | replyRead => simp only [ConnectV4Op.resume] at h; split_ifs at h

/-- `async_connect_v4`. -/
def asyncConnectV4 (targetHost : EndpointV4) (socksUser : Bytes) : Client Completion :=
  ConnectV4Op.composed.prog (.create targetHost socksUser) .ok 0

/-! ### What they do -/

/-- What a SOCKS4 client makes of the read of the reply. -/
def decodeReplyV4 (got : Bytes) (ec : ErrorCode) : Completion :=
  if ec.failed && ec != .eof then (ec, default)
  else if got.length ≠ 8 then (makeErrorCode .badReplySize, default)
  else ((parseReplyV4 got).2, (parseReplyV4 got).1)

/-- The SOCKS4 handshake. -/
def handshakeV4 (targetHost : EndpointV4) (socksUser : Bytes) : Client Completion :=
  .write (requestV4Bytes targetHost socksUser) fun _ ec =>
    if ec.failed then .pure (ec, default)
    else .read transferAll 8 fun got ec => .pure (decodeReplyV4 got ec)

/-- The decision about the reply, on the buffer it was read into. -/
theorem decodeReplyV4_overlay (got buffer : Bytes) (ec : ErrorCode) :
    (if ec.failed && ec != .eof then (ec, default)
      else if got.length ≠ 8 then (makeErrorCode .badReplySize, default)
      else ((parseReplyV4 (overlay got buffer)).2, (parseReplyV4 (overlay got buffer)).1))
      = decodeReplyV4 got ec := by
  rw [decodeReplyV4]
  by_cases hsize : got.length ≠ 8
  · simp only [if_pos hsize]
  · rw [parseReplyV4_overlay buffer (not_not.mp hsize)]

/-- **Only a grant is decoded to a success.** -/
theorem grant_of_decodeReplyV4 {got : Bytes} {ec : ErrorCode}
    (h : (decodeReplyV4 got ec).1.failed = false) :
    got.length = 8 ∧ (byteAt got 0 = 0x00 ∨ byteAt got 0 = 0x04) ∧ byteAt got 1 = 90 := by
  rw [decodeReplyV4] at h
  split_ifs at h with hstop hsize
  · rw [(Bool.and_eq_true_iff.mp hstop).1] at h
    exact absurd h (by decide)
  · exact absurd h (by decide)
  · rcases parseReplyV4_cases got with ⟨e, he, hp⟩ | ⟨hver, hrep, -⟩
    · rw [hp] at h
      exact absurd (h.symm.trans he) (by decide)
    · exact ⟨not_not.mp hsize, hver, hrep⟩

/-- **`connect_v4` is the SOCKS4 handshake.** -/
theorem connectV4_eq_handshakeV4 (targetHost : EndpointV4) (socksUser : Bytes) :
    connectV4 targetHost socksUser = handshakeV4 targetHost socksUser := by
  have hlen : (List.replicate (9 + socksUser.length) (0 : UInt8)).length = 9 + socksUser.length :=
    List.length_replicate
  have htake : (requestV4Bytes targetHost socksUser).take (9 + socksUser.length)
      = requestV4Bytes targetHost socksUser := by
    rw [← length_requestV4Bytes, List.take_length]
  simp only [connectV4, prepareRequestV4_eq targetHost hlen, asioWrite, asioRead, htake,
    Prog.write_bind, Prog.read_bind, Prog.pure_bind, Prog.monad_pure, handshakeV4]
  congr 1
  funext _ ec
  split_ifs with hec
  · rfl
  congr 1
  funext got ec
  rw [← decodeReplyV4_overlay got (requestV4Bytes targetHost socksUser)]
  split_ifs <;> rfl

/-- **`connect_v4_op` is the SOCKS4 handshake.** -/
theorem asyncConnectV4_eq_handshakeV4 (targetHost : EndpointV4) (socksUser : Bytes) :
    asyncConnectV4 targetHost socksUser = handshakeV4 targetHost socksUser := by
  have hbuf : ConnectV4Op.create targetHost socksUser
      = ⟨requestV4Bytes targetHost socksUser, .initial⟩ := by
    rw [ConnectV4Op.create, prepareRequestV4_eq targetHost List.length_replicate]
  have hresume : ConnectV4Op.resume ⟨requestV4Bytes targetHost socksUser, .initial⟩ .ok 0
      = .asyncWrite (requestV4Bytes targetHost socksUser)
          ⟨requestV4Bytes targetHost socksUser, .requestSent⟩ := rfl
  rw [asyncConnectV4, hbuf, Composed.prog_of_asyncWrite hresume, handshakeV4]
  refine congrArg _ (funext fun _ => funext fun ec => ?_)
  by_cases hec : ec.failed = true
  · rw [if_pos hec, Composed.prog_of_complete (if_pos hec)]
  rw [if_neg hec, Composed.prog_of_asyncRead (if_neg hec)]
  refine congrArg _ (funext fun got => funext fun ec => ?_)
  rw [← decodeReplyV4_overlay got (requestV4Bytes targetHost socksUser)]
  refine Composed.prog_of_complete ?_
  simp only [ConnectV4Op.composed, ConnectV4Op.resume]
  split_ifs <;> rfl

end Socks
