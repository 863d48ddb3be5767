import Socks.Grammar
import Socks.Exchange

/-!
# Encoders against decoders

An address and a port travel both ways in one layout: the client writes them into its request,
the server into its reply. So the decoder of a reply, given what the encoder of a request has
written, should return what was encoded. For SOCKS5 it does, and in the other direction the
endpoint of an accepted reply encodes to the bytes it was decoded from.

`parse_reply_v4` does not. It takes the address from one byte too early, so the low byte of the
port comes in as the first byte of the address and the last byte of the address is never looked
at.

## Main definitions

* `Socks.AcceptedReply` — the replies of 10 or 22 bytes that are a success
* `Socks.replyV4Bytes` — a SOCKS4 reply that grants

## Main results

* `Socks.address_codec` — SOCKS5, both directions
* `Socks.parseReplyV4_replyV4Bytes` — what the SOCKS4 decoder makes of a reply
* `Socks.replyV4_round_trip_iff` — when that is the endpoint of the reply
-/

namespace Socks

open Asio

/-! ### SOCKS5 -/

theorem toNat_port (port : UInt16) :
    port.toNat = 256 * (port >>> 8).toUInt8.toNat + (port &&& 0xFF).toUInt8.toNat := by
  rw [← toNat_join16, join16_split]

theorem portBytes_of_toNat {port : UInt16} {hi lo : UInt8}
    (h : port.toNat = 256 * hi.toNat + lo.toNat) : portBytes port = [hi, lo] := by
  obtain rfl : hi.toUInt16 <<< 8 ||| lo.toUInt16 = port :=
    UInt16.toNat_inj.mp ((toNat_join16 hi lo).trans h.symm)
  exact portBytes_join hi lo

/-- A request whose CMD is replaced by a REP of zero is a successful reply. -/
theorem successReply_of_request {ep : Endpoint} (h : (Target.endpoint ep).Unscoped) :
    SuccessReply ((requestBytes (.endpoint ep)).set 1 0x00) ep := by
  obtain ⟨a | ⟨ip, scopeId⟩, port⟩ := ep
  · exact .v4 0x00 a.bytes _ _ (toNat_port port)
  · obtain rfl : scopeId = 0 := h _ _ rfl
    exact .v6 0x00 ip _ _ (toNat_port port)

/-- The endpoint of a successful reply encodes to the bytes it came from. -/
theorem requestBytes_of_successReply {got : Bytes} {ep : Endpoint} (h : SuccessReply got ep) :
    requestBytes (.endpoint ep) = 0x05 :: 0x01 :: 0x00 :: got.drop 3 := by
  cases h with
  | v4 rsv ip hi lo hport =>
    simp only [requestBytes, targetHostBytes, portBytes_of_toNat hport]
    rfl
  | v6 rsv ip hi lo hport =>
    simp only [requestBytes, targetHostBytes, portBytes_of_toNat hport]
    rfl

/-- `05 00 x 01` with 10 bytes, or `05 00 x 04` with 22. -/
def AcceptedReply (got : Bytes) : Prop :=
  byteAt got 0 = 0x05 ∧ byteAt got 1 = 0x00 ∧
    (byteAt got 3 = 0x01 ∧ got.length = 10 ∨ byteAt got 3 = 0x04 ∧ got.length = 22)

theorem SuccessReply.accepted {got : Bytes} {ep : Endpoint} (h : SuccessReply got ep) :
    AcceptedReply got := by
  cases h with
  | v4 => exact ⟨rfl, rfl, Or.inl ⟨rfl, by simp⟩⟩
  | v6 => exact ⟨rfl, rfl, Or.inr ⟨rfl, by simp⟩⟩

theorem AcceptedReply.exists_successReply {got : Bytes} (h : AcceptedReply got) :
    ∃ ep, SuccessReply got ep := by
  obtain ⟨h0, h1, ⟨h3, hlen⟩ | ⟨h3, hlen⟩⟩ := h
  · have hgot := ofFn_byteAt hlen
    have hreply := SuccessReply.v4 (byteAt got 2) (fun i => byteAt got (4 + i)) (byteAt got 8)
      (byteAt got 9) (toNat_join16 _ _)
    rw [← hgot]
    simp only [List.ofFn_succ, List.ofFn_zero, ← h0, ← h1, ← h3] at hreply ⊢
    exact ⟨_, hreply⟩
  · have hgot := ofFn_byteAt hlen
    have hreply := SuccessReply.v6 (byteAt got 2) (fun i => byteAt got (4 + i)) (byteAt got 20)
      (byteAt got 21) (toNat_join16 _ _)
    rw [← hgot]
    simp only [List.ofFn_succ, List.ofFn_zero, ← h0, ← h1, ← h3] at hreply ⊢
    exact ⟨_, hreply⟩

theorem parseReplyV5_not_failed_iff (got : Bytes) :
    (parseReplyV5 got got.length).2.failed = false ↔ AcceptedReply got := by
  constructor
  · intro h
    exact (successReply_of_parseReplyV5 h).accepted
  · intro h
    obtain ⟨ep, hep⟩ := h.exists_successReply
    rw [parseReplyV5_of_successReply hep]
    rfl

/-- **The SOCKS5 address codec, both directions.** A request with CMD replaced by a REP of zero is
decoded to the endpoint it was encoded from. A reply is accepted exactly when it is one of the two
kinds of success, and then its endpoint encodes to what it was decoded from; otherwise the
endpoint is the default one. -/
theorem address_codec :
    (∀ (ep : Endpoint) (buffer : Bytes), (Target.endpoint ep).Unscoped →
      6 + dstAddrSize (.endpoint ep) ≤ buffer.length →
      parseReplyV5 ((sentBytes (prepareRequest buffer (.endpoint ep))).set 1 0x00)
          (prepareRequest buffer (.endpoint ep)).2 = (ep, makeErrorCode .succeeded)) ∧
    ∀ got : Bytes, got.length = 10 ∨ got.length = 22 →
      ((parseReplyV5 got got.length).2.failed = false ↔ AcceptedReply got) ∧
      ((parseReplyV5 got got.length).2.failed = false → ∀ buffer : Bytes,
        6 + dstAddrSize (.endpoint (parseReplyV5 got got.length).1) ≤ buffer.length →
        (prepareRequest buffer (.endpoint (parseReplyV5 got got.length).1)).2 = got.length ∧
        (sentBytes (prepareRequest buffer (.endpoint (parseReplyV5 got got.length).1))).drop 3
          = got.drop 3) ∧
      ((parseReplyV5 got got.length).2.failed = true →
        (parseReplyV5 got got.length).1 = default) := by
  constructor
  · intro ep buffer hscope hsize
    rw [sentBytes_prepareRequest hsize, prepareRequest_eq hsize]
    have hlen : ((requestBytes (.endpoint ep)).set 1 0x00).length
        = (requestBytes (.endpoint ep)).length := List.length_set
    rw [← hlen]
    exact parseReplyV5_of_successReply (successReply_of_request hscope)
  · intro got hsize
    refine ⟨parseReplyV5_not_failed_iff got, fun h buffer hbuf => ?_, parseReplyV5_of_failed⟩
    have hbytes := requestBytes_of_successReply (successReply_of_parseReplyV5 h)
    rw [sentBytes_prepareRequest hbuf, prepareRequest_eq hbuf, hbytes]
    refine ⟨?_, rfl⟩
    simp only [List.length_cons, List.length_drop]
    omega

/-- An endpoint that no other order of bytes gives back. -/
def sampleEndpoint : Endpoint := ⟨.v4 ⟨![10, 20, 30, 40]⟩, 0x1F90⟩

/-- A reply that carries it. -/
def sampleReply : Bytes := [0x05, 0x00, 0x00, 0x01, 10, 20, 30, 40, 0x1F, 0x90]

theorem address_codec_sample :
    parseReplyV5 ((sentBytes (prepareRequest (List.replicate 10 0xFF)
      (.endpoint sampleEndpoint))).set 1 0x00) 10 = (sampleEndpoint, makeErrorCode .succeeded) ∧
    (sentBytes (prepareRequest (List.replicate 10 0xFF)
      (.endpoint (parseReplyV5 sampleReply 10).1))).drop 3 = sampleReply.drop 3 := by
  have hreply := address_codec.2 sampleReply (by decide)
  have haccepted : AcceptedReply sampleReply := by
    rw [AcceptedReply]
    decide
  refine ⟨address_codec.1 sampleEndpoint _ (by rintro _ _ ⟨⟩) (by decide), ?_⟩
  exact (hreply.2.1 (hreply.1.mpr haccepted) _ (by decide)).2

/-! ### SOCKS4 -/

/-- The SOCKS4 reply that grants, with version `ver`: the port and the address where the request
has them. -/
def replyV4Bytes (ver : UInt8) (ep : EndpointV4) : Bytes :=
  ver :: 90 :: (portBytes ep.port ++ ep.address.toBytes)

/-- The request has the port and the address in bytes 2 to 7, as the reply does. -/
theorem requestV4Bytes_layout (ver : UInt8) (ep : EndpointV4) (socksUser : Bytes) :
    ((requestV4Bytes ep socksUser).drop 2).take 6 = (replyV4Bytes ver ep).drop 2 := by
  have hlen : (portBytes ep.port ++ ep.address.toBytes).length = 6 := by simp [portBytes]
  simp only [requestV4Bytes, replyV4Bytes, List.drop_succ_cons, List.drop_zero, List.append_assoc]
  rw [← List.append_assoc, ← hlen, List.take_left]

/-- What the reference server writes when it has connected. -/
theorem connectReplyV4_granted (buffer : Bytes) (ep : EndpointV4) :
    SocksConnection.connectReplyV4 buffer 90 ⟨.v4 ep.address, ep.port⟩ = replyV4Bytes 0x04 ep := by
  have hsize := length_resize buffer 8
  have hport : ((ep.port >>> 8) &&& 0xFF).toUInt8 = (ep.port >>> 8).toUInt8 := by
    refine UInt8.toNat_inj.mp ?_
    simp only [UInt16.toNat_toUInt8, UInt16.toNat_and,
      show (0xFF : UInt16).toNat = 2 ^ 8 - 1 from rfl, Nat.and_two_pow_sub_one_eq_mod, Nat.mod_mod]
  rw [SocksConnection.connectReplyV4, ← overlay_nil (resize buffer 8),
    putBytes_overlay (by simp) (by simp [hsize])]
  dsimp only
  rw [hport, if_neg (by decide), putBytes_overlay (by simp) (by simp [hsize])]
  dsimp only
  rw [putBytes_overlay (by simp) (by simp [hsize]), overlay,
    List.drop_of_length_le (by simp [hsize])]
  simp [replyV4Bytes, portBytes]

variable {ver ver' : UInt8}

/-- **What the decoder makes of a reply**: the port is right; the address is the low byte of the
port and the first three bytes of the address. -/
theorem parseReplyV4_replyV4Bytes (hver : ver = 0x00 ∨ ver = 0x04) (ep : EndpointV4) :
    parseReplyV4 (replyV4Bytes ver ep)
      = (⟨.v4 ⟨![(ep.port &&& 0xFF).toUInt8, ep.address.bytes 0, ep.address.bytes 1,
          ep.address.bytes 2]⟩, ep.port⟩, makeErrorCode .requestGranted) := by
  have hbytes : replyV4Bytes ver ep = [ver, 90, (ep.port >>> 8).toUInt8, (ep.port &&& 0xFF).toUInt8,
      ep.address.bytes 0, ep.address.bytes 1, ep.address.bytes 2, ep.address.bytes 3] := by
    simp [replyV4Bytes, portBytes, AddressV4.toBytes, List.ofFn_succ]
  have hgo : ¬(ver ≠ 0x00 ∧ ver ≠ 0x04) := by tauto
  have hcode : makeErrorCode (.ofReplyCodeV4 (toReplyCodeV4 90)) = makeErrorCode .requestGranted :=
    rfl
  have hsucc : (makeErrorCode .requestGranted).isSucceeded = true := rfl
  simp only [parseReplyV4, hbytes, byteAt_cons_zero, byteAt_cons_succ, if_neg hgo, hcode, hsucc,
    makeAddressV4_join, join16_split, Bool.not_true, Bool.false_eq_true, if_false]

/-- The address is the right one only if the low byte of the port runs through it. -/
theorem shifted_eq_iff {a : AddressV4} {b : UInt8} :
    (⟨![b, a.bytes 0, a.bytes 1, a.bytes 2]⟩ : AddressV4) = a ↔ ∀ i, a.bytes i = b := by
  constructor
  · intro h
    have hb := congrArg AddressV4.bytes h
    have h0 : b = a.bytes 0 := congrFun hb 0
    have h1 : a.bytes 0 = a.bytes 1 := congrFun hb 1
    have h2 : a.bytes 1 = a.bytes 2 := congrFun hb 2
    have h3 : a.bytes 2 = a.bytes 3 := congrFun hb 3
    intro i
    fin_cases i
    · exact h0.symm
    · exact (h0.trans h1).symm
    · exact (h0.trans (h1.trans h2)).symm
    · exact (h0.trans (h1.trans (h2.trans h3))).symm
  · intro h
    obtain ⟨bytes⟩ := a
    refine congrArg AddressV4.mk (funext fun i => ?_)
    fin_cases i
    · exact (h 0).symm
    · exact (h 0).trans (h 1).symm
    · exact (h 1).trans (h 2).symm
    · exact (h 2).trans (h 3).symm

/-- Two addresses are decoded alike if their first three bytes are the same. -/
theorem shifted_inj_iff {a a' : AddressV4} {b b' : UInt8} :
    (⟨![b, a.bytes 0, a.bytes 1, a.bytes 2]⟩ : AddressV4)
        = ⟨![b', a'.bytes 0, a'.bytes 1, a'.bytes 2]⟩ ↔
      b = b' ∧ ∀ i, i ≠ 3 → a.bytes i = a'.bytes i := by
  constructor
  · intro h
    have hb := congrArg AddressV4.bytes h
    refine ⟨congrFun hb 0, fun i hi => ?_⟩
    fin_cases i
    · exact congrFun hb 1
    · exact congrFun hb 2
    · exact congrFun hb 3
    · exact absurd rfl hi
  · rintro ⟨rfl, h⟩
    rw [h 0 (by decide), h 1 (by decide), h 2 (by decide)]

/-- **The SOCKS4 decoder returns the endpoint of the reply exactly when all four bytes of the
address are the low byte of the port, and takes two endpoints for the same exactly when they
agree in the port and in the first three bytes of the address.** -/
theorem replyV4_round_trip_iff (hver : ver = 0x00 ∨ ver = 0x04) (ep : EndpointV4) :
    (parseReplyV4 (replyV4Bytes ver ep)
        = (⟨.v4 ep.address, ep.port⟩, makeErrorCode .requestGranted) ↔
      ∀ i, ep.address.bytes i = (ep.port &&& 0xFF).toUInt8) ∧
    ∀ (ver' : UInt8) (ep' : EndpointV4), ver' = 0x00 ∨ ver' = 0x04 →
      (parseReplyV4 (replyV4Bytes ver ep) = parseReplyV4 (replyV4Bytes ver' ep') ↔
        ep.port = ep'.port ∧ ∀ i, i ≠ 3 → ep.address.bytes i = ep'.address.bytes i) := by
  rw [parseReplyV4_replyV4Bytes hver]
  constructor
  · rw [Prod.mk_inj, Endpoint.mk.injEq, Address.v4.injEq, shifted_eq_iff]
    tauto
  · intro ver' ep' hver'
    rw [parseReplyV4_replyV4Bytes hver', Prod.mk_inj, Endpoint.mk.injEq, Address.v4.injEq,
      shifted_inj_iff]
    constructor
    · rintro ⟨⟨⟨-, h⟩, hport⟩, -⟩
      exact ⟨hport, h⟩
    · rintro ⟨hport, h⟩
      exact ⟨⟨⟨by rw [hport], h⟩, hport⟩, rfl⟩

/-- An endpoint of which nothing is seen. -/
theorem replyV4_round_trip_flat :
    parseReplyV4 (replyV4Bytes 0x00 ⟨⟨fun _ => 0x50⟩, 80⟩)
      = (⟨.v4 ⟨fun _ => 0x50⟩, 80⟩, makeErrorCode .requestGranted) :=
  (replyV4_round_trip_iff (Or.inl rfl) _).1.mpr fun _ => rfl

/-- The reply for 127.0.0.1 and port 80 is decoded to 80.127.0.0, and not told from the one for
127.0.0.2. -/
theorem replyV4_shifted :
    parseReplyV4 (replyV4Bytes 0x00 ⟨⟨![127, 0, 0, 1]⟩, 80⟩)
      = (⟨.v4 ⟨![80, 127, 0, 0]⟩, 80⟩, makeErrorCode .requestGranted) ∧
    parseReplyV4 (replyV4Bytes 0x00 ⟨⟨![127, 0, 0, 1]⟩, 80⟩)
      ≠ (⟨.v4 ⟨![127, 0, 0, 1]⟩, 80⟩, makeErrorCode .requestGranted) ∧
    parseReplyV4 (replyV4Bytes 0x00 ⟨⟨![127, 0, 0, 1]⟩, 80⟩)
      = parseReplyV4 (replyV4Bytes 0x00 ⟨⟨![127, 0, 0, 2]⟩, 80⟩) := by
  have hlow : ((80 : UInt16) &&& 0xFF).toUInt8 = 80 := by decide
  have hread : ∀ a, parseReplyV4 (replyV4Bytes 0x00 ⟨a, 80⟩)
      = (⟨.v4 ⟨![80, a.bytes 0, a.bytes 1, a.bytes 2]⟩, 80⟩, makeErrorCode .requestGranted) := by
    intro a
    rw [parseReplyV4_replyV4Bytes (Or.inl rfl), hlow]
  refine ⟨by simp [hread], fun h => ?_, by simp [hread]⟩
  rw [hread, Prod.mk_inj, Endpoint.mk.injEq, Address.v4.injEq, shifted_eq_iff] at h
  exact absurd (h.1.1 0) (by decide)

end Socks
