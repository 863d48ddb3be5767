import Socks.ConnectV4
import Socks.Asio.Stores

/-!
# What the encoders store

The encoders once more, statement by statement, as routines whose stores are recorded: with the
size `n` the caller passes, with every assertion checked, and with `&buffer[3]` for the part of a
request that another function stores. Each fills the front of its buffer with the message that
stands next to it in `Socks.Request` and `Socks.ConnectV4`, so each stores to exactly the indices
below what it returns.

The size an encoder returns is computed before the bytes are stored, except for the greeting,
whose loop index it is. `write_target_host` returns an index too, which `prepare_request` ignores;
`fills_storeTargetHost` says that it would have been the right one.

## Main definitions

* `Socks.storeGreetingMethods`, `Socks.storeGreeting`, `Socks.storeUserpassRequest`,
  `Socks.storeRequest`, `Socks.storeRequestV4` — the encoders

## Main results

* `Socks.fills_storeGreetingMethods`, `Socks.fills_storeUserpassRequest`,
  `Socks.fills_storeRequest`, `Socks.fills_storeRequestV4` — each stores its message
* `Socks.writesExactly_greeting`, `Socks.writesExactly_userpassRequest`,
  `Socks.writesExactly_request`, `Socks.writesExactly_requestV4` — and keeps its promise
-/

namespace Socks

open Asio Storing

/-! ### The greeting -/

/-- `prepare_greeting` for a list of methods. -/
def storeGreetingMethods (n : ℕ) (methods : List UInt8) : Storing ℕ := do
  boostAssert (methods.length ≤ 255)
  boostAssert (n ≥ 2 + methods.length)
  store 0 Version.socks5.byte
  store 1 (UInt8.ofNat methods.length)
  let i ← storeBytes 2 methods
  return i

/-- `prepare_greeting` for authentication options. -/
def storeGreeting (n : ℕ) (opt : AuthOptions) : Storing ℕ :=
  let authCode := opt.code
  if authCode ≠ 0x00 then storeGreetingMethods n [0x00, authCode]
  else storeGreetingMethods n [0x00]

theorem storeGreeting_eq (n : ℕ) (opt : AuthOptions) :
    storeGreeting n opt = storeGreetingMethods n opt.methods := by
  rw [storeGreeting, AuthOptions.methods]
  split <;> rfl

theorem fills_storeGreetingMethods {n : ℕ} {methods : List UInt8} (hcount : methods.length ≤ 255)
    (hn : 2 + methods.length ≤ n) :
    (storeGreetingMethods n methods).Fills 0 (greetingMethodsBytes methods)
      (2 + methods.length) := by
  refine .boostAssert_bind hcount (.boostAssert_bind hn ?_)
  exact .store_bind rfl (.store_bind rfl (fills_storeBytes methods))

/-- One byte too few. -/
example : (storeGreetingMethods 3 [0x00, 0x02]).run = none := rfl

/-! ### The user/pass request -/

/-- `prepare_userpass_request`. -/
def storeUserpassRequest (n : ℕ) (opt : AuthOptions) : Storing ℕ := do
  boostAssert (opt.user.length ≤ 255)
  boostAssert (opt.pass.length ≤ 255)
  let n2 := opt.user.length + opt.pass.length + 3
  boostAssert (n ≥ n2)
  store 0 0x01
  store 1 (UInt8.ofNat opt.user.length)
  let i ← storeBytes 2 opt.user
  store i (UInt8.ofNat opt.user.length)
  let i ← storeBytes (i + 1) opt.pass
  boostAssert (i = n2)
  return n2

theorem fills_storeUserpassRequest {n : ℕ} {opt : AuthOptions} (hopt : opt.Fits)
    (hn : opt.user.length + opt.pass.length + 3 ≤ n) :
    (storeUserpassRequest n opt).Fills 0 (userpassBytes opt)
      (opt.user.length + opt.pass.length + 3) := by
  have hbytes : userpassBytes opt = 0x01 :: UInt8.ofNat opt.user.length ::
      (opt.user ++ UInt8.ofNat opt.user.length :: (opt.pass ++ [])) := by
    rw [List.append_nil]
    rfl
  rw [hbytes]
  refine .boostAssert_bind hopt.user_le (.boostAssert_bind hopt.pass_le (.boostAssert_bind hn ?_))
  refine .store_bind rfl (.store_bind rfl (.storeBytes_bind rfl (.store_bind rfl ?_)))
  refine .storeBytes_bind rfl (.boostAssert_bind ?_ (fills_pure _))
  -- the loops end at the size that was computed before the first store
  omega

/-! ### The CONNECT request -/

/-- `write_ver_cmd_rsv`. -/
def storeVerCmdRsv : Storing Unit := do
  store 0 Version.socks5.byte
  store 1 commandConnect
  store 2 0x00

/-- `write_target_host` for an endpoint. -/
def storeTargetHostEndpoint (targetHost : Endpoint) : Storing ℕ := do
  store 0 (match targetHost.address with
    | .v6 _ => AddressType.ipV6.byte
    | .v4 _ => AddressType.ipV4.byte)
  let i ← match targetHost.address with
    | .v4 a => storeBytes 1 a.toBytes
    | .v6 a => storeBytes 1 a.toBytes
  store i (targetHost.port >>> 8).toUInt8
  store (i + 1) (targetHost.port &&& 0xFF).toUInt8
  return i + 2

/-- `write_target_host` for a domain. -/
def storeTargetHostDomain (targetHost : DomainEndpoint) : Storing ℕ := do
  store 0 AddressType.domainName.byte
  store 1 (UInt8.ofNat targetHost.domain.length)
  let i ← storeBytes 2 targetHost.domain
  store i (targetHost.port >>> 8).toUInt8
  store (i + 1) (targetHost.port &&& 0xFF).toUInt8
  return i + 2

/-- `write_target_host`, either overload. -/
def storeTargetHost : Target → Storing ℕ
  | .endpoint ep => storeTargetHostEndpoint ep
  | .domain ep => storeTargetHostDomain ep

/-- `prepare_request`. -/
def storeRequest (n : ℕ) (targetHost : Target) : Storing ℕ := do
  let nDstAddr := dstAddrSize targetHost
  boostAssert (n ≥ 6 + nDstAddr)
  storeVerCmdRsv
  let _ ← (storeTargetHost targetHost).shift 3
  return nDstAddr + 6

theorem fills_storeVerCmdRsv :
    storeVerCmdRsv.Fills 0 [Version.socks5.byte, commandConnect, 0x00] () :=
  .store_bind rfl (.store_bind rfl (fills_store rfl _))

/-- Both overloads of `write_target_host` end with the port, and return the index behind it. -/
theorem fills_storePort {i o r : ℕ} (hi : i = o) (hr : i + 2 = r) (port : UInt16) :
    (do store i (port >>> 8).toUInt8
        store (i + 1) (port &&& 0xFF).toUInt8
        return i + 2 : Storing ℕ).Fills o (portBytes port) r := by
  subst hr
  exact .store_bind hi (.store_bind (congrArg (· + 1) hi) (fills_pure _))

/-- **The index `write_target_host` returns** is the number of bytes it stores, and `dst_addr_size`
has computed it. -/
theorem fills_storeTargetHost (target : Target) :
    (storeTargetHost target).Fills 0 (targetHostBytes target) (dstAddrSize target + 3) := by
  obtain ⟨a | a, port⟩ | ⟨domain, port⟩ := target
  · refine .store_bind rfl (.storeBytes_bind rfl (fills_storePort rfl ?_ port))
    simp only [dstAddrSize, AddressV4.length_toBytes]
  · refine .store_bind rfl (.storeBytes_bind rfl (fills_storePort rfl ?_ port))
    simp only [dstAddrSize, AddressV6.length_toBytes]
  · refine .store_bind rfl (.store_bind rfl (.storeBytes_bind rfl (fills_storePort rfl ?_ port)))
    simp only [dstAddrSize]
    omega

theorem fills_storeRequest {n : ℕ} {target : Target} (hn : 6 + dstAddrSize target ≤ n) :
    (storeRequest n target).Fills 0 (requestBytes target) (dstAddrSize target + 6) := by
  have hbytes : requestBytes target
      = [Version.socks5.byte, commandConnect, 0x00] ++ (targetHostBytes target ++ []) := by
    rw [List.append_nil]
    rfl
  rw [hbytes]
  refine .boostAssert_bind hn (fills_storeVerCmdRsv.bind ?_)
  exact (fills_storeTargetHost target).shift.bind (fills_pure _)

/-! ### The SOCKS4 request -/

/-- `prepare_request_v4`. -/
def storeRequestV4 (n : ℕ) (targetHost : EndpointV4) (socksUser : Bytes) : Storing ℕ := do
  boostAssert (n ≥ 9 + socksUser.length)
  store 0 Version.socks4.byte
  store 1 commandConnect
  store 2 (targetHost.port >>> 8).toUInt8
  store 3 (targetHost.port &&& 0xFF).toUInt8
  let ipBytes := targetHost.address.toBytes
  store 4 (byteAt ipBytes 0)
  store 5 (byteAt ipBytes 1)
  store 6 (byteAt ipBytes 2)
  store 7 (byteAt ipBytes 3)
  let _ ← storeBytes 8 socksUser
  store (8 + socksUser.length) 0x00
  return 9 + socksUser.length

theorem fills_storeRequestV4 {n : ℕ} (targetHost : EndpointV4) {socksUser : Bytes}
    (hn : 9 + socksUser.length ≤ n) :
    (storeRequestV4 n targetHost socksUser).Fills 0 (requestV4Bytes targetHost socksUser)
      (9 + socksUser.length) := by
  have haddress : targetHost.address.toBytes
      = [byteAt targetHost.address.toBytes 0, byteAt targetHost.address.toBytes 1,
        byteAt targetHost.address.toBytes 2, byteAt targetHost.address.toBytes 3] :=
    (ofFn_byteAt targetHost.address.length_toBytes).symm
  have hbytes : requestV4Bytes targetHost socksUser
      = Version.socks4.byte :: commandConnect ::
        (portBytes targetHost.port ++ (targetHost.address.toBytes ++ (socksUser ++ [0x00]))) := by
    simp only [requestV4Bytes, List.append_assoc]
  rw [hbytes, haddress]
  refine .boostAssert_bind hn ?_
  -- the eight bytes in front of the user id
  refine .store_bind rfl (.store_bind rfl (.store_bind rfl (.store_bind rfl ?_)))
  refine .store_bind rfl (.store_bind rfl (.store_bind rfl (.store_bind rfl ?_)))
  exact .storeBytes_bind rfl (.store_bind rfl (fills_pure _))

/-! ### The encoders keep their promise -/

variable {n : ℕ} {opt : AuthOptions}

theorem writesExactly_greetingMethods {methods : List UInt8} (hcount : methods.length ≤ 255)
    (hn : 2 + methods.length ≤ n) :
    WritesExactly (storeGreetingMethods n methods) (prepareGreetingMethods · methods) n
      (2 + methods.length) := by
  have hlen : (greetingMethodsBytes methods).length = 2 + methods.length := by
    rw [length_greetingMethodsBytes, Nat.add_comm]
  refine .of_fills hlen hn (fills_storeGreetingMethods hcount hn) fun buffer hb => ?_
  rw [prepareGreetingMethods_eq (by omega), hlen]

theorem writesExactly_greeting (hn : 2 + opt.methods.length ≤ n) :
    WritesExactly (storeGreeting n opt) (prepareGreeting · opt) n (2 + opt.methods.length) := by
  have hcount := opt.length_methods_le
  rw [storeGreeting_eq]
  exact writesExactly_greetingMethods (by omega) hn

theorem writesExactly_userpassRequest (hopt : opt.Fits)
    (hn : opt.user.length + opt.pass.length + 3 ≤ n) :
    WritesExactly (storeUserpassRequest n opt) (prepareUserpassRequest · opt) n
      (opt.user.length + opt.pass.length + 3) := by
  have hlen := length_userpassBytes opt
  refine .of_fills hlen hn (fills_storeUserpassRequest hopt hn) fun buffer hb => ?_
  rw [prepareUserpassRequest_eq (by omega), hlen]

theorem writesExactly_request {target : Target} (hn : 6 + dstAddrSize target ≤ n) :
    WritesExactly (storeRequest n target) (prepareRequest · target) n
      (dstAddrSize target + 6) := by
  have hlen := length_requestBytes target
  refine .of_fills hlen (by omega) (fills_storeRequest hn) fun buffer hb => ?_
  rw [prepareRequest_eq (by omega), hlen]

theorem writesExactly_requestV4 (targetHost : EndpointV4) {socksUser : Bytes}
    (hn : 9 + socksUser.length ≤ n) :
    WritesExactly (storeRequestV4 n targetHost socksUser)
      (prepareRequestV4 · targetHost socksUser) n (9 + socksUser.length) := by
  refine .of_fills (length_requestV4Bytes targetHost socksUser) hn
    (fills_storeRequestV4 targetHost hn) fun buffer hb => ?_
  rw [prepareRequestV4_overlay targetHost (by omega)]

end Socks
