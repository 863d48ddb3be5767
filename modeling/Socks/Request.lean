import Socks.Error
import Socks.Asio.Ip

/-!
# Requests

The encoders of the SOCKS5 client. Each stores a message at the front of a buffer that already
holds something else, byte by byte at computed indices, and returns how many bytes the message
has; the caller then writes that many bytes from the front.

Next to each encoder stands the message as a value, and its specification says that the encoder
puts exactly that value in front of whatever was there (`overlay`) and returns its length. After
this file nothing looks inside an encoder again.

The size argument `n` of the encoders only occurs in their assertions. It is the length of the
buffer here, and the assertions are the hypotheses of the specifications: `AuthOptions.Fits` and
`Target.Fits` say that they hold for the 513-byte buffers the client uses.

## Main definitions

* `Socks.AuthOptions`, `Socks.Target` — what a client is asked for
* `Socks.prepareGreeting`, `Socks.prepareUserpassRequest`, `Socks.prepareRequest` — the encoders
* `Socks.greetingBytes`, `Socks.userpassBytes`, `Socks.requestBytes` — the messages

## Main results

* `Socks.prepareGreeting_eq`, `Socks.prepareUserpassRequest_eq`, `Socks.prepareRequest_eq`
-/

namespace Socks

open Asio

/-! ### Constants of the protocol -/

/-- `detail::version`. -/
inductive Version
  | socks4
  | socks5

/-- The byte of a version. -/
@[simp] def Version.byte : Version → UInt8
  | .socks4 => 0x04
  | .socks5 => 0x05

/-- `detail::command::connect`, the only command the client sends. -/
abbrev commandConnect : UInt8 := 0x01

/-- `detail::auth_method::userpass`. -/
abbrev authMethodUserpass : UInt8 := 0x02

/-- `detail::address_type`. -/
inductive AddressType
  | ipV4
  | domainName
  | ipV6
  | unknown
  deriving DecidableEq

/-- The byte of an address type. -/
@[simp] def AddressType.byte : AddressType → UInt8
  | .ipV4 => 0x01
  | .domainName => 0x03
  | .ipV6 => 0x04
  | .unknown => 0xFF

/-- `to_address_type`. -/
def toAddressType (v : UInt8) : AddressType :=
  match v.toNat with
  | 0x01 => .ipV4
  | 0x03 => .domainName
  | 0x04 => .ipV6
  | _ => .unknown

theorem toAddressType_eq_ipV4_iff (v : UInt8) : toAddressType v = .ipV4 ↔ v = 0x01 := by
  rw [← UInt8.toNat_inj, toAddressType]
  generalize v.toNat = n
  split <;> simp_all

theorem toAddressType_eq_ipV6_iff (v : UInt8) : toAddressType v = .ipV6 ↔ v = 0x04 := by
  rw [← UInt8.toNat_inj, toAddressType]
  generalize v.toNat = n
  split <;> simp_all

/-! ### What a client is asked for -/

/-- `auth_options`. -/
structure AuthOptions where
  isUserpass : Bool := false
  user : Bytes := []
  pass : Bytes := []
  deriving DecidableEq

/-- `auth_options::none`. -/
def AuthOptions.none : AuthOptions := {}

/-- `auth_options::userpass`. -/
def AuthOptions.userpass (user pass : Bytes) : AuthOptions := ⟨true, user, pass⟩

/-- `auth_options::code`. -/
def AuthOptions.code (opt : AuthOptions) : UInt8 := if opt.isUserpass then 0x02 else 0x00

/-- `detail::domain_endpoint`. -/
structure DomainEndpoint where
  domain : Bytes
  port : UInt16
  deriving DecidableEq

/-- The target of a CONNECT request: the two overloads of `connect` and the two instances of
`connect_op` differ in nothing else. -/
inductive Target
  | endpoint (ep : Endpoint)
  | domain (ep : DomainEndpoint)
  deriving DecidableEq

/-- `dst_addr_size`. -/
def dstAddrSize : Target → ℕ
  | .endpoint ⟨.v6 _, _⟩ => 16
  | .endpoint ⟨.v4 _, _⟩ => 4
  | .domain ep => 1 + ep.domain.length

/-- The size of the buffers `connect` and `connect_op` work in. -/
def bufferSize : ℕ := 513

/-- The assertions of `prepare_userpass_request`. -/
structure AuthOptions.Fits (opt : AuthOptions) : Prop where
  user_le : opt.user.length ≤ 255
  pass_le : opt.pass.length ≤ 255

theorem AuthOptions.fits_none : AuthOptions.none.Fits := ⟨Nat.zero_le _, Nat.zero_le _⟩

/-- The assertion of `prepare_request`, for a buffer of `bufferSize` bytes. -/
def Target.Fits (target : Target) : Prop := 6 + dstAddrSize target ≤ bufferSize

instance (target : Target) : Decidable target.Fits := inferInstanceAs (Decidable (_ ≤ _))

/-- A domain name of at most 255 bytes fits with room to spare. -/
theorem Target.fits_of_domain {ep : DomainEndpoint} (h : ep.domain.length ≤ 255) :
    (Target.domain ep).Fits := by
  simp only [Target.Fits, dstAddrSize, bufferSize]
  omega

theorem Target.fits_of_endpoint (ep : Endpoint) : (Target.endpoint ep).Fits := by
  obtain ⟨_ | _, _⟩ := ep <;> simp [Target.Fits, dstAddrSize, bufferSize]

/-! ### The greeting -/

/-- `prepare_greeting` for a list of methods: VER, NMETHODS, METHODS. -/
def prepareGreetingMethods (buffer : Bytes) (methods : List UInt8) : Bytes × ℕ :=
  let buffer := buffer.set 0 Version.socks5.byte
  let buffer := buffer.set 1 (UInt8.ofNat methods.length)
  putBytes buffer 2 methods

/-- The methods `prepare_greeting` offers for `opt`. -/
def AuthOptions.methods (opt : AuthOptions) : List UInt8 :=
  if opt.code ≠ 0x00 then [0x00, opt.code] else [0x00]

/-- `prepare_greeting` for authentication options. -/
def prepareGreeting (buffer : Bytes) (opt : AuthOptions) : Bytes × ℕ :=
  prepareGreetingMethods buffer opt.methods

/-- The greeting offering `methods`. -/
def greetingMethodsBytes (methods : List UInt8) : Bytes :=
  Version.socks5.byte :: UInt8.ofNat methods.length :: methods

/-- The greeting for `opt`. -/
def greetingBytes (opt : AuthOptions) : Bytes := greetingMethodsBytes opt.methods

theorem length_greetingMethodsBytes (methods : List UInt8) :
    (greetingMethodsBytes methods).length = methods.length + 2 := by
  simp [greetingMethodsBytes]

theorem prepareGreetingMethods_eq {buffer : Bytes} {methods : List UInt8}
    (h : 2 + methods.length ≤ buffer.length) :
    prepareGreetingMethods buffer methods
      = (overlay (greetingMethodsBytes methods) buffer, (greetingMethodsBytes methods).length) := by
  rw [prepareGreetingMethods, set_zero (by omega), overlay_set (by simp) (by simp; omega),
    putBytes_overlay (by simp) (by simpa using h)]
  refine Prod.ext rfl ?_
  simp [greetingMethodsBytes]
  omega

theorem AuthOptions.length_methods_le (opt : AuthOptions) : opt.methods.length ≤ 2 := by
  rw [AuthOptions.methods]
  split <;> simp

theorem AuthOptions.mem_methods_iff (opt : AuthOptions) (m : UInt8) :
    m ∈ opt.methods ↔ m = opt.code ∨ m = 0x00 := by
  rw [AuthOptions.methods]
  split <;> simp_all [or_comm]

/-- User/pass is offered only with credentials. -/
theorem AuthOptions.isUserpass_of_mem_methods (opt : AuthOptions) (h : 0x02 ∈ opt.methods) :
    opt.isUserpass = true := by
  by_contra hopt
  simp [opt.mem_methods_iff, AuthOptions.code, hopt] at h

/-- A method offered that is not user/pass is no authentication. -/
theorem AuthOptions.eq_zero_of_mem_methods (opt : AuthOptions) {m : UInt8} (h : m ∈ opt.methods)
    (hm : m ≠ authMethodUserpass) : m = 0x00 := by
  rcases (opt.mem_methods_iff m).mp h with rfl | rfl
  · rw [AuthOptions.code] at hm ⊢
    split_ifs at hm ⊢
    · exact absurd rfl hm
    · rfl
  · rfl

theorem length_greetingBytes_le (opt : AuthOptions) : (greetingBytes opt).length ≤ 4 := by
  have := opt.length_methods_le
  simp only [greetingBytes, greetingMethodsBytes, List.length_cons]
  omega

theorem prepareGreeting_eq {buffer : Bytes} (opt : AuthOptions) (h : 4 ≤ buffer.length) :
    prepareGreeting buffer opt
      = (overlay (greetingBytes opt) buffer, (greetingBytes opt).length) :=
  prepareGreetingMethods_eq (by have := opt.length_methods_le; omega)

/-! ### The user/pass request -/

/-- `prepare_userpass_request`: VER, IDLEN, ID, PWLEN, PW. What the source stores as PWLEN is the
length of the user. -/
def prepareUserpassRequest (buffer : Bytes) (opt : AuthOptions) : Bytes × ℕ :=
  let n2 := opt.user.length + opt.pass.length + 3
  let buffer := buffer.set 0 0x01
  let buffer := buffer.set 1 (UInt8.ofNat opt.user.length)
  let (buffer, i) := putBytes buffer 2 opt.user
  let buffer := buffer.set i (UInt8.ofNat opt.user.length)
  let (buffer, _) := putBytes buffer (i + 1) opt.pass
  (buffer, n2)

/-- The user/pass request the client sends. -/
def userpassBytes (opt : AuthOptions) : Bytes :=
  0x01 :: UInt8.ofNat opt.user.length :: opt.user ++ UInt8.ofNat opt.user.length :: opt.pass

theorem length_userpassBytes (opt : AuthOptions) :
    (userpassBytes opt).length = opt.user.length + opt.pass.length + 3 := by
  simp only [userpassBytes, List.length_append, List.length_cons]
  omega

theorem prepareUserpassRequest_eq {buffer : Bytes} {opt : AuthOptions}
    (h : opt.user.length + opt.pass.length + 3 ≤ buffer.length) :
    prepareUserpassRequest buffer opt
      = (overlay (userpassBytes opt) buffer, (userpassBytes opt).length) := by
  rw [prepareUserpassRequest, set_zero (by omega), overlay_set (by simp) (by simp; omega),
    putBytes_overlay (by simp) (by simp; omega)]
  dsimp only
  rw [overlay_set (by simp; omega) (by simp; omega),
    putBytes_overlay (by simp; omega) (by simp; omega)]
  refine Prod.ext ?_ (length_userpassBytes opt).symm
  simp [userpassBytes]

/-! ### The CONNECT request -/

/-- `write_ver_cmd_rsv`: VER, CMD, RSV. -/
def writeVerCmdRsv (buffer : Bytes) : Bytes :=
  let buffer := buffer.set 0 Version.socks5.byte
  let buffer := buffer.set 1 commandConnect
  buffer.set 2 0x00

/-- `write_target_host(&buffer[o], target_host)` for an endpoint: ATYP, DST.ADDR, DSTPORT. -/
def writeTargetHostEndpoint (buffer : Bytes) (o : ℕ) (targetHost : Endpoint) : Bytes × ℕ :=
  let buffer := buffer.set o (match targetHost.address with
    | .v6 _ => AddressType.ipV6.byte
    | .v4 _ => AddressType.ipV4.byte)
  let (buffer, i) := match targetHost.address with
    | .v4 a => putBytes buffer (o + 1) a.toBytes
    | .v6 a => putBytes buffer (o + 1) a.toBytes
  let buffer := buffer.set i (targetHost.port >>> 8).toUInt8
  let buffer := buffer.set (i + 1) (targetHost.port &&& 0xFF).toUInt8
  (buffer, i + 2 - o)

/-- `write_target_host(&buffer[o], target_host)` for a domain: ATYP, the length of the name
truncated to a byte, the name, DSTPORT. -/
def writeTargetHostDomain (buffer : Bytes) (o : ℕ) (targetHost : DomainEndpoint) : Bytes × ℕ :=
  let buffer := buffer.set o AddressType.domainName.byte
  let buffer := buffer.set (o + 1) (UInt8.ofNat targetHost.domain.length)
  let (buffer, i) := putBytes buffer (o + 2) targetHost.domain
  let buffer := buffer.set i (targetHost.port >>> 8).toUInt8
  let buffer := buffer.set (i + 1) (targetHost.port &&& 0xFF).toUInt8
  (buffer, i + 2 - o)

/-- `prepare_request`: VER, CMD and RSV, then the target. -/
def prepareRequest (buffer : Bytes) (targetHost : Target) : Bytes × ℕ :=
  let nDstAddr := dstAddrSize targetHost
  let buffer := writeVerCmdRsv buffer
  let (buffer, _) := match targetHost with
    | .endpoint ep => writeTargetHostEndpoint buffer 3 ep
    | .domain ep => writeTargetHostDomain buffer 3 ep
  (buffer, nDstAddr + 6)

/-- A port, most significant byte first. -/
def portBytes (port : UInt16) : Bytes := [(port >>> 8).toUInt8, (port &&& 0xFF).toUInt8]

/-- ATYP, DST.ADDR and DSTPORT of a target. -/
def targetHostBytes : Target → Bytes
  | .endpoint ⟨.v4 a, port⟩ => AddressType.ipV4.byte :: a.toBytes ++ portBytes port
  | .endpoint ⟨.v6 a, port⟩ => AddressType.ipV6.byte :: a.toBytes ++ portBytes port
  | .domain ⟨domain, port⟩ =>
    AddressType.domainName.byte :: UInt8.ofNat domain.length :: domain ++ portBytes port

/-- The CONNECT request for a target. -/
def requestBytes (target : Target) : Bytes :=
  Version.socks5.byte :: commandConnect :: 0x00 :: targetHostBytes target

theorem length_requestBytes (target : Target) :
    (requestBytes target).length = dstAddrSize target + 6 := by
  obtain ⟨_ | _, _⟩ | ⟨_, _⟩ := target <;>
    simp only [requestBytes, targetHostBytes, portBytes, dstAddrSize, List.length_cons,
      List.length_append, List.length_nil, AddressV4.length_toBytes, AddressV6.length_toBytes]
  omega

theorem writeVerCmdRsv_eq {buffer : Bytes} (h : 3 ≤ buffer.length) :
    writeVerCmdRsv buffer = overlay [Version.socks5.byte, commandConnect, 0x00] buffer := by
  rw [writeVerCmdRsv, set_zero (by omega), overlay_set (by simp) (by simp; omega),
    overlay_set (by simp) (by simp; omega)]
  rfl

/-- Two port bytes stored behind the front. -/
theorem set_port_overlay {front buffer : Bytes} {i : ℕ} (hi : i = front.length)
    (h : front.length + 2 ≤ buffer.length) (port : UInt16) :
    ((overlay front buffer).set i (port >>> 8).toUInt8).set (i + 1) (port &&& 0xFF).toUInt8
      = overlay (front ++ portBytes port) buffer := by
  rw [overlay_set hi (by omega), overlay_set (by simp [hi]) (by simp; omega), List.append_assoc]
  rfl

theorem writeTargetHostEndpoint_eq {front buffer : Bytes} {o : ℕ} (ho : o = front.length)
    (targetHost : Endpoint)
    (h : o + dstAddrSize (.endpoint targetHost) + 3 ≤ buffer.length) :
    writeTargetHostEndpoint (overlay front buffer) o targetHost
      = (overlay (front ++ targetHostBytes (.endpoint targetHost)) buffer,
        dstAddrSize (.endpoint targetHost) + 3) := by
  obtain ⟨a | a, port⟩ := targetHost
  all_goals
    simp only [dstAddrSize] at h
    rw [writeTargetHostEndpoint]
    dsimp only
    rw [overlay_set ho (by omega), putBytes_overlay (by simp [ho]) (by simp; omega)]
    dsimp only
    rw [set_port_overlay (by simp [ho]) (by simp; omega)]
    refine Prod.ext ?_ ?_
    · simp [targetHostBytes]
    · simp only [dstAddrSize, AddressV4.length_toBytes, AddressV6.length_toBytes]
      omega

theorem writeTargetHostDomain_eq {front buffer : Bytes} {o : ℕ} (ho : o = front.length)
    (targetHost : DomainEndpoint)
    (h : o + dstAddrSize (.domain targetHost) + 3 ≤ buffer.length) :
    writeTargetHostDomain (overlay front buffer) o targetHost
      = (overlay (front ++ targetHostBytes (.domain targetHost)) buffer,
        dstAddrSize (.domain targetHost) + 3) := by
  obtain ⟨domain, port⟩ := targetHost
  simp only [dstAddrSize] at h
  rw [writeTargetHostDomain]
  dsimp only
  rw [overlay_set ho (by omega), overlay_set (by simp [ho]) (by simp; omega),
    putBytes_overlay (by simp [ho]) (by simp; omega)]
  dsimp only
  rw [set_port_overlay (by simp [ho]; omega) (by simp; omega)]
  refine Prod.ext ?_ ?_
  · simp [targetHostBytes]
  · simp only [dstAddrSize]
    omega

theorem prepareRequest_eq {buffer : Bytes} {target : Target}
    (h : 6 + dstAddrSize target ≤ buffer.length) :
    prepareRequest buffer target
      = (overlay (requestBytes target) buffer, (requestBytes target).length) := by
  rw [length_requestBytes]
  cases target with
  | endpoint ep =>
    simp only [prepareRequest]
    rw [writeVerCmdRsv_eq (by omega), writeTargetHostEndpoint_eq (by simp) ep (by omega)]
    rfl
  | domain ep =>
    simp only [prepareRequest]
    rw [writeVerCmdRsv_eq (by omega), writeTargetHostDomain_eq (by simp) ep (by omega)]
    rfl

end Socks
