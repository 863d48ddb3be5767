import Socks.ConnectV4
import Socks.Asio.Wire

/-!
# Requests against their grammars

The formats of three requests, as readers that name the fields in the order the documents give
them, and what they make of the bytes the encoders produce.

An encoder leaves its message in a buffer and returns its size; what goes out is the buffer up to
that size (`sentBytes`). The specifications of the encoders say which bytes these are, so each
question here is whether one byte string is what a format spells for one value.

For none of the three is the answer always yes. `prepare_userpass_request` stores the length of
the user where the format has the length of the password; the length of a domain name is cut to
one byte; and nothing keeps a zero out of a SOCKS4 user id. In each case what follows is exact:
the request is read back if and only if the defect does not show.

## Main definitions

* `Socks.sentBytes` — the bytes of a buffer that are sent
* `Socks.decodeUserpassRequest`, `Socks.decodeDomainRequest`, `Socks.decodeRequestV4` — the formats

## Main results

* `Socks.userpass_round_trip_iff`, `Socks.domain_round_trip_iff`, `Socks.requestV4_round_trip_iff`
-/

namespace Socks

open Asio

/-- The bytes `[0, r)` of the buffer an encoder has left, `r` being what it has returned. -/
def sentBytes (encoded : Bytes × ℕ) : Bytes := encoded.1.take encoded.2

theorem sentBytes_overlay (front buffer : Bytes) :
    sentBytes (overlay front buffer, front.length) = front :=
  take_overlay front buffer

/-- The bytes of a port that was joined from two bytes. -/
theorem portBytes_join (hi lo : UInt8) :
    portBytes ((hi.toUInt16 <<< 8) ||| lo.toUInt16) = [hi, lo] := by
  rw [portBytes, (split_join16 hi lo).1, (split_join16 hi lo).2]

/-- One length byte tells apart lengths of at most 255. -/
theorem ofNat_inj_of_le {m n : ℕ} (hm : m ≤ 255) (hn : n ≤ 255) :
    UInt8.ofNat m = UInt8.ofNat n ↔ m = n := by
  constructor
  · intro h
    have hnat := congrArg UInt8.toNat h
    rwa [UInt8.toNat_ofNat_of_lt' (Nat.lt_of_le_of_lt hm (by decide)),
      UInt8.toNat_ofNat_of_lt' (Nat.lt_of_le_of_lt hn (by decide))] at hnat
  · rintro rfl
    rfl

/-! ### The user/pass request -/

/-- VER, IDLEN, ID, PWLEN, PW. -/
def decodeUserpassRequest : Reader (Bytes × Bytes) := do
  expect 0x01
  let user ← takePrefixed
  let pass ← takePrefixed
  return (user, pass)

theorem decodeUserpassRequest_eq_some_iff {bs user pass rest : Bytes} :
    decodeUserpassRequest bs = some ((user, pass), rest) ↔
      user.length ≤ 255 ∧ pass.length ≤ 255 ∧
        bs = 0x01 :: UInt8.ofNat user.length :: (user ++
          UInt8.ofNat pass.length :: (pass ++ rest)) := by
  simp only [decodeUserpassRequest, Reader.bind_eq_some_iff, expect_eq_some_iff,
    takePrefixed_eq_some_iff, Reader.pure_eq_some_iff]
  constructor
  · rintro ⟨_, _, rfl, _, _, ⟨huser, rfl⟩, _, _, ⟨hpass, rfl⟩, h, rfl⟩
    obtain ⟨rfl, rfl⟩ := Prod.mk.inj h
    exact ⟨huser, hpass, rfl⟩
  · rintro ⟨huser, hpass, rfl⟩
    exact ⟨(), _, rfl, user, _, ⟨huser, rfl⟩, pass, _, ⟨hpass, rfl⟩, rfl, rfl⟩

variable {opt : AuthOptions} {buffer : Bytes}

theorem sentBytes_prepareUserpassRequest
    (h : opt.user.length + opt.pass.length + 3 ≤ buffer.length) :
    sentBytes (prepareUserpassRequest buffer opt) = userpassBytes opt := by
  rw [prepareUserpassRequest_eq h, sentBytes_overlay]

/-- The request is read back if and only if the length of the user is that of the password. -/
theorem decodeUserpassRequest_userpassBytes_iff (hopt : opt.Fits) :
    decodeUserpassRequest (userpassBytes opt) = some ((opt.user, opt.pass), []) ↔
      opt.user.length = opt.pass.length := by
  rw [decodeUserpassRequest_eq_some_iff, userpassBytes, List.append_nil]
  constructor
  · rintro ⟨-, -, h⟩
    have htail := List.append_cancel_left (List.cons_eq_cons.mp (List.cons_eq_cons.mp h).2).2
    exact (ofNat_inj_of_le hopt.user_le hopt.pass_le).mp (List.cons_eq_cons.mp htail).1
  · intro h
    refine ⟨hopt.user_le, hopt.pass_le, ?_⟩
    rw [h]
    rfl

/-- Whatever stands for PWLEN, the request determines the credentials: IDLEN says where the user
ends, and the password is all that comes after the byte that follows. -/
theorem userpassBytes_inj {opt' : AuthOptions} (hopt : opt.Fits) (hopt' : opt'.Fits)
    (h : userpassBytes opt = userpassBytes opt') :
    opt.user = opt'.user ∧ opt.pass = opt'.pass := by
  rw [userpassBytes, userpassBytes] at h
  obtain ⟨hlen, htail⟩ := List.cons_eq_cons.mp (List.cons_eq_cons.mp h).2
  have hlen' := (ofNat_inj_of_le hopt.user_le hopt'.user_le).mp hlen
  obtain ⟨huser, hpass⟩ := List.append_inj htail hlen'
  exact ⟨huser, (List.cons_eq_cons.mp hpass).2⟩

/-- **The user/pass request is read back as its credentials, and tells them from all others,
exactly when user and password have the same length.** -/
theorem userpass_round_trip_iff (hopt : opt.Fits)
    (h : opt.user.length + opt.pass.length + 3 ≤ buffer.length) :
    (decodeUserpassRequest (sentBytes (prepareUserpassRequest buffer opt))
        = some ((opt.user, opt.pass), []) ∧
      ∀ (opt' : AuthOptions) (buffer' : Bytes), opt'.Fits →
        opt'.user.length + opt'.pass.length + 3 ≤ buffer'.length →
        sentBytes (prepareUserpassRequest buffer opt)
          = sentBytes (prepareUserpassRequest buffer' opt') →
        opt.user = opt'.user ∧ opt.pass = opt'.pass) ↔
      opt.user.length = opt.pass.length := by
  rw [sentBytes_prepareUserpassRequest h, decodeUserpassRequest_userpassBytes_iff hopt]
  refine and_iff_left fun opt' buffer' hopt' h' hsent => ?_
  rw [sentBytes_prepareUserpassRequest h'] at hsent
  exact userpassBytes_inj hopt hopt' hsent

/-- Credentials of equal length are read back. -/
theorem userpass_round_trip_equal :
    decodeUserpassRequest (sentBytes (prepareUserpassRequest (List.replicate 7 0)
      (.userpass [0x75, 0x73] [0x70, 0x77]))) = some (([0x75, 0x73], [0x70, 0x77]), []) :=
  ((userpass_round_trip_iff ⟨by decide, by decide⟩ (by decide)).mpr rfl).1

/-- With a password one byte longer than the user, one byte is left over. -/
theorem userpass_left_over :
    decodeUserpassRequest (sentBytes (prepareUserpassRequest (List.replicate 7 0)
      (.userpass [0x75] [0x70, 0x77]))) = some (([0x75], [0x70]), [0x77]) ∧
    decodeUserpassRequest (sentBytes (prepareUserpassRequest (List.replicate 7 0)
      (.userpass [0x75] [0x70, 0x77]))) ≠ some (([0x75], [0x70, 0x77]), []) := by
  decide +kernel

/-! ### The CONNECT request for a domain -/

/-- VER, CMD, RSV and ATYP, then the name behind its length, then the port. -/
def decodeDomainRequest : Reader DomainEndpoint := do
  expect 0x05
  expect 0x01
  expect 0x00
  expect 0x03
  let domain ← takePrefixed
  let port ← takeUInt16
  return ⟨domain, port⟩

theorem decodeDomainRequest_eq_some_iff {bs rest : Bytes} {ep : DomainEndpoint} :
    decodeDomainRequest bs = some (ep, rest) ↔
      ep.domain.length ≤ 255 ∧
        bs = 0x05 :: 0x01 :: 0x00 :: 0x03 :: UInt8.ofNat ep.domain.length :: (ep.domain ++
          (portBytes ep.port ++ rest)) := by
  simp only [decodeDomainRequest, Reader.bind_eq_some_iff, expect_eq_some_iff,
    takePrefixed_eq_some_iff, takeUInt16_eq_some_iff, Reader.pure_eq_some_iff]
  constructor
  · rintro ⟨_, _, rfl, _, _, rfl, _, _, rfl, _, _, rfl, _, _, ⟨hdomain, rfl⟩, _, _, rfl, rfl, rfl⟩
    exact ⟨hdomain, rfl⟩
  · rintro ⟨hdomain, rfl⟩
    exact ⟨(), _, rfl, (), _, rfl, (), _, rfl, (), _, rfl, _, _, ⟨hdomain, rfl⟩, _, _, rfl, rfl,
      rfl⟩

variable {ep : DomainEndpoint}

/-- The bytes are those of the format whatever the length. That the length byte holds the length
is what fails. -/
theorem decodeDomainRequest_requestBytes_iff :
    decodeDomainRequest (requestBytes (.domain ep)) = some (ep, []) ↔ ep.domain.length ≤ 255 := by
  rw [decodeDomainRequest_eq_some_iff]
  refine and_iff_left ?_
  rw [List.append_nil]
  rfl

theorem sentBytes_prepareRequest {target : Target}
    (h : 6 + dstAddrSize target ≤ buffer.length) :
    sentBytes (prepareRequest buffer target) = requestBytes target := by
  rw [prepareRequest_eq h, sentBytes_overlay]

/-- **The request for a domain is read back exactly when the name has at most 255 bytes.** -/
theorem domain_round_trip_iff (memory : Vector UInt8 bufferSize) (h : (Target.domain ep).Fits) :
    decodeDomainRequest (sentBytes (prepareRequest memory.toList (.domain ep))) = some (ep, []) ↔
      ep.domain.length ≤ 255 := by
  rw [sentBytes_prepareRequest (by rw [Vector.length_toList]; exact h)]
  exact decodeDomainRequest_requestBytes_iff

/-- A name of the greatest length that is read back. -/
def fullDomain : DomainEndpoint := ⟨List.replicate 255 0x61, 80⟩

theorem domain_round_trip_full :
    decodeDomainRequest (sentBytes (prepareRequest (Vector.replicate bufferSize 0xFF).toList
      (.domain fullDomain))) = some (fullDomain, []) := by
  have hlen : fullDomain.domain.length ≤ 255 := by
    rw [fullDomain, List.length_replicate]
  exact (domain_round_trip_iff _ (Target.fits_of_domain hlen)).mpr hlen

/-- A name of one byte more. The assertion still holds for it. -/
def longDomain : DomainEndpoint := ⟨List.replicate 256 0x61, 80⟩

/-- Its length byte is zero: the server reads an empty name, and the name as port and data. -/
theorem domain_left_over : (Target.domain longDomain).Fits ∧
    decodeDomainRequest (sentBytes (prepareRequest (List.replicate bufferSize 0)
      (.domain longDomain))) = some (⟨[], 0x6161⟩, List.replicate 254 0x61 ++ [0, 80]) ∧
    decodeDomainRequest (sentBytes (prepareRequest (List.replicate bufferSize 0)
      (.domain longDomain))) ≠ some (longDomain, []) := by
  have hfits : (Target.domain longDomain).Fits := by decide +kernel
  have hread : decodeDomainRequest (requestBytes (.domain longDomain))
      = some (⟨[], 0x6161⟩, List.replicate 254 0x61 ++ [0, 80]) := by decide +kernel
  have hroom : 6 + dstAddrSize (.domain longDomain)
      ≤ (List.replicate bufferSize (0 : UInt8)).length := by
    rw [List.length_replicate]
    exact hfits
  rw [sentBytes_prepareRequest hroom]
  exact ⟨hfits, hread, by rw [hread]; decide +kernel⟩

/-! ### The SOCKS4 request -/

/-- VER and CMD, then the port, the address, and the user id with the zero that ends it. -/
def decodeRequestV4 : Reader (EndpointV4 × Bytes) := do
  expect 0x04
  expect 0x01
  let port ← takeUInt16
  let address ← takeAddressV4
  let user ← takeNull
  return (⟨address, port⟩, user)

theorem decodeRequestV4_eq_some_iff {bs user rest : Bytes} {targetHost : EndpointV4} :
    decodeRequestV4 bs = some ((targetHost, user), rest) ↔
      0 ∉ user ∧
        bs = 0x04 :: 0x01 :: (portBytes targetHost.port ++ (targetHost.address.toBytes ++
          (user ++ 0x00 :: rest))) := by
  simp only [decodeRequestV4, Reader.bind_eq_some_iff, expect_eq_some_iff, takeUInt16_eq_some_iff,
    takeAddressV4_eq_some_iff, takeNull_eq_some_iff, Reader.pure_eq_some_iff]
  constructor
  · rintro ⟨_, _, rfl, _, _, rfl, _, _, rfl, _, _, rfl, _, _, ⟨huser, rfl⟩, h, rfl⟩
    obtain ⟨rfl, rfl⟩ := Prod.mk.inj h
    exact ⟨huser, rfl⟩
  · rintro ⟨huser, rfl⟩
    exact ⟨(), _, rfl, (), _, rfl, _, _, rfl, _, _, rfl, _, _, ⟨huser, rfl⟩, rfl, rfl⟩

variable {socksUser : Bytes}

/-- The bytes are those of the format whatever the user id. That the first zero is the one at
the end is what fails. -/
theorem decodeRequestV4_requestV4Bytes_iff (targetHost : EndpointV4) :
    decodeRequestV4 (requestV4Bytes targetHost socksUser) = some ((targetHost, socksUser), []) ↔
      0 ∉ socksUser := by
  rw [decodeRequestV4_eq_some_iff]
  refine and_iff_left ?_
  simp only [requestV4Bytes, Version.byte, commandConnect, List.append_assoc]

/-- **The SOCKS4 request is read back exactly when the user id has no zero.** -/
theorem requestV4_round_trip_iff (targetHost : EndpointV4)
    (h : buffer.length = 9 + socksUser.length) :
    decodeRequestV4 (sentBytes (prepareRequestV4 buffer targetHost socksUser))
        = some ((targetHost, socksUser), []) ↔
      0 ∉ socksUser := by
  rw [prepareRequestV4_eq targetHost h, sentBytes, ← length_requestV4Bytes targetHost,
    List.take_length]
  exact decodeRequestV4_requestV4Bytes_iff targetHost

theorem requestV4_round_trip_plain :
    decodeRequestV4 (sentBytes (prepareRequestV4 (List.replicate 10 0)
      ⟨⟨![127, 0, 0, 1]⟩, 80⟩ [0x61])) = some ((⟨⟨![127, 0, 0, 1]⟩, 80⟩, [0x61]), []) :=
  (requestV4_round_trip_iff _ (by decide)).mpr (by decide)

/-- What follows a zero in the user id is left to be taken as the beginning of the data. -/
theorem requestV4_left_over :
    decodeRequestV4 (sentBytes (prepareRequestV4 (List.replicate 12 0)
      ⟨⟨![127, 0, 0, 1]⟩, 80⟩ [0x61, 0x00, 0x47]))
        = some ((⟨⟨![127, 0, 0, 1]⟩, 80⟩, [0x61]), [0x47, 0x00]) ∧
    decodeRequestV4 (sentBytes (prepareRequestV4 (List.replicate 12 0)
      ⟨⟨![127, 0, 0, 1]⟩, 80⟩ [0x61, 0x00, 0x47]))
        ≠ some ((⟨⟨![127, 0, 0, 1]⟩, 80⟩, [0x61, 0x00, 0x47]), []) := by
  have hread : decodeRequestV4 (sentBytes (prepareRequestV4 (List.replicate 12 0)
      ⟨⟨![127, 0, 0, 1]⟩, 80⟩ [0x61, 0x00, 0x47]))
        = some ((⟨⟨![127, 0, 0, 1]⟩, 80⟩, [0x61]), [0x47, 0x00]) :=
    decodeRequestV4_eq_some_iff.mpr ⟨by decide, by decide +kernel⟩
  refine ⟨hread, fun h => ?_⟩
  have huser : ([0x61] : Bytes) = [0x61, 0x00, 0x47] :=
    congrArg (fun x => x.1.2) (Option.some.inj (hread.symm.trans h))
  exact absurd huser (by decide)

end Socks
