import Socks.Server
import Socks.Refinement
import Socks.Asio.Dialogue

/-!
# The client's messages, at the reference server

Each message of the handshake against the two functions of the server that deal with it: the
completion condition of the read it arrives in, and the parser.

The conditions are compared with the messages through `Frames`: before the end of the message the
condition asks for more, at the end it stops, whatever the chunks. The conditions look at the
bytes received so far, which are a prefix of the message, so at a prefix of any length what they
see of a byte is that byte of the message, and at no later byte do they look.

The greeting and the CONNECT request are framed. The user/pass request is not: its condition never
stops at the end of a message, so the read ends only when the buffer is full.

## Main definitions

* `Socks.Target.Short`, `Socks.Target.Unscoped` — the targets a request can carry
* `Socks.chosenMethod` — the method the server chooses

## Main results

* `Socks.frames_greeting`, `Socks.frames_request` — where the reads end
* `Socks.frames_userpass`, `Socks.endless_userpass` — where the user/pass read does, and does not
* `Socks.parseSocksGreeting_greeting`, `Socks.parseUserpassGreeting_userpass`,
  `Socks.parseSocksConnect_request` — what the parsers make of the messages
-/

namespace Socks

open Asio SocksConnection

variable {buffer x : Bytes} {opt : AuthOptions} {target : Target}

/-! ### Targets -/

/-- A domain name, if the target is one, has at most 255 bytes. -/
def Target.Short (target : Target) : Prop :=
  ∀ ep, target = .domain ep → ep.domain.length ≤ 255

/-- An IPv6 address, if the target has one, has no scope id. -/
def Target.Unscoped (target : Target) : Prop :=
  ∀ a port, target = .endpoint ⟨.v6 a, port⟩ → a.scopeId = 0

/-- The target as a request carries it: without a scope id. -/
def Target.onWire : Target → Target
  | .endpoint ⟨.v6 a, port⟩ => .endpoint ⟨.v6 ⟨a.bytes, 0⟩, port⟩
  | target => target

theorem Target.Short.fits (h : target.Short) : target.Fits := by
  cases target with
  | endpoint ep => exact Target.fits_of_endpoint ep
  | domain ep => exact Target.fits_of_domain (h ep rfl)

theorem Target.Unscoped.onWire_eq (h : target.Unscoped) : target.onWire = target := by
  obtain ⟨a | ⟨bytes, scopeId⟩, port⟩ | ep := target
  · rfl
  · have hscope : scopeId = 0 := h _ _ rfl
    rw [Target.onWire, hscope]
  · rfl

/-! ### Framing -/

/-- What a condition sees of a message that is still arriving. -/
theorem byteAt_overlay_part {bs : Bytes} (hx : x <+: bs) {i : ℕ} (h : i < x.length) :
    byteAt (overlay x buffer) i = byteAt bs i := by
  rw [byteAt_overlay buffer h, byteAt_of_prefix_lt hx h]

/-- The condition of the first read, on a greeting. -/
theorem greetingAsk_of_socks5 {n : ℕ} (h : byteAt buffer 0 = 0x05) :
    greetingAsk buffer .ok n
      = if 2 ≤ n then 2 + (byteAt buffer 1).toNat - n else 258 - n := by
  have hgo : ¬(ErrorCode.ok.failed = true ∨ (0 < n ∧ byteAt buffer 0 ≠ 0x05 ∧
      byteAt buffer 0 ≠ 0x04)) := by
    rw [ErrorCode.failed_ok, h]
    tauto
  rw [greetingAsk, if_neg hgo, h, if_neg (by decide)]
  dsimp only
  split_ifs <;> omega

/-- The condition of the first read, on what has arrived of a greeting: it asks for the rest of
the greeting, once it knows how much that is. -/
theorem greetingCond_greeting {methods : List UInt8} (h : methods.length ≤ 255)
    (hbuf : byteAt buffer 0 ≠ 0x04) (hx : x <+: greetingMethodsBytes methods) :
    (greetingCond buffer).ask x ok
      = if 2 ≤ x.length then methods.length + 2 - x.length else 258 - x.length := by
  rw [greetingCond, Cond.onBuffer_ask, errorLike_ok]
  rcases Nat.eq_zero_or_pos x.length with hn | hn
  · obtain rfl := List.length_eq_zero_iff.mp hn
    simp [greetingAsk, hbuf]
  · have h0 : byteAt (overlay x buffer) 0 = 0x05 := by
      rw [byteAt_overlay_part hx hn]
      rfl
    rw [greetingAsk_of_socks5 h0]
    split_ifs with h2
    · have h1 : byteAt (overlay x buffer) 1 = UInt8.ofNat methods.length := by
        rw [byteAt_overlay_part hx h2]
        rfl
      rw [h1, UInt8.toNat_ofNat_of_lt' (Nat.lt_of_le_of_lt h (by decide)), Nat.add_comm]
    · rfl

/-- **The first read ends with the greeting.** -/
theorem frames_greeting {methods : List UInt8} (h : methods.length ≤ 255)
    (hbuf : byteAt buffer 0 ≠ 0x04) :
    Frames (greetingCond buffer) 258 (greetingMethodsBytes methods) := by
  refine frames_of fun x hx => ?_
  have hle := hx.length_le
  rw [greetingCond_greeting h hbuf hx]
  rw [length_greetingMethodsBytes] at hle ⊢
  split_ifs <;> omega

/-- The condition of the user/pass read never stops a message that begins like one. -/
theorem userpassAsk_pos {n : ℕ} (h : 1 ≤ n → byteAt buffer 0 = 0x01) :
    0 < userpassAsk buffer .ok n := by
  have hgo : ¬(1 ≤ n ∧ byteAt buffer 0 ≠ 0x01) := fun hbad => hbad.2 (h hbad.1)
  rw [userpassAsk, if_neg (by simp), if_neg hgo]
  dsimp only
  split_ifs <;> omega

theorem userpassCond_pos (hx : x <+: userpassBytes opt) : 0 < (userpassCond buffer).ask x ok := by
  rw [userpassCond, Cond.onBuffer_ask, errorLike_ok]
  refine userpassAsk_pos fun hn => ?_
  rw [byteAt_overlay_part hx hn]
  rfl

/-- **The user/pass read ends with the message only if the message fills the buffer.** -/
theorem frames_userpass (h : (userpassBytes opt).length = 513) :
    Frames (userpassCond buffer) 513 (userpassBytes opt) :=
  frames_of fun _ hx => by rw [h, and_iff_left (userpassCond_pos hx)]

theorem endless_userpass (h : (userpassBytes opt).length < 513) :
    Endless (userpassCond buffer) 513 (userpassBytes opt) :=
  endless_of h fun _ hx => userpassCond_pos hx

/-- The condition of the CONNECT read, on what has arrived of a message that begins with a
CONNECT request's VER, CMD and RSV. -/
theorem requestAsk_of_connect {n : ℕ} (h0 : 1 ≤ n → byteAt buffer 0 = 0x05)
    (h1 : 2 ≤ n → byteAt buffer 1 = 0x01) (h2 : 3 ≤ n → byteAt buffer 2 = 0x00) :
    requestAsk buffer .ok n = if n < 4 then 263 - n else
      (if byteAt buffer 3 = 0x01 then 10
        else if byteAt buffer 3 = 0x03 then 7 + if 4 < n then (byteAt buffer 4).toNat else 256
        else if byteAt buffer 3 = 0x04 then 22 else 0) - n := by
  have hgo : ¬(ErrorCode.ok.failed = true ∨ (1 ≤ n ∧ byteAt buffer 0 ≠ 0x05) ∨
      (2 ≤ n ∧ byteAt buffer 1 ≠ 0x01) ∨ (3 ≤ n ∧ byteAt buffer 2 ≠ 0x00)) := by
    rw [ErrorCode.failed_ok]
    tauto
  rw [requestAsk, if_neg hgo]
  dsimp only
  split_ifs <;> omega

/-- **The CONNECT read ends with the request.** -/
theorem frames_request (h : target.Short) :
    Frames (requestCond buffer) 263 (requestBytes target) := by
  refine frames_of fun x hx => ?_
  have hle := hx.length_le
  have hbyte : ∀ {i}, i < x.length → byteAt (overlay x buffer) i = byteAt (requestBytes target) i :=
    byteAt_overlay_part hx
  rw [length_requestBytes] at hle ⊢
  rw [requestCond, Cond.onBuffer_ask, errorLike_ok,
    requestAsk_of_connect (fun h => hbyte h) (fun h => hbyte h) (fun h => hbyte h)]
  by_cases hn : x.length < 4
  · rw [if_pos hn]
    omega
  rw [if_neg hn, hbyte (by omega)]
  obtain ⟨a | a, port⟩ | ⟨domain, port⟩ := target
  · have h3 : byteAt (requestBytes (.endpoint ⟨.v4 a, port⟩)) 3 = 0x01 := rfl
    simp only [dstAddrSize, h3, if_true] at hle ⊢
    omega
  · have h3 : byteAt (requestBytes (.endpoint ⟨.v6 a, port⟩)) 3 = 0x04 := rfl
    rw [h3, if_neg (by decide), if_neg (by decide), if_pos rfl]
    simp only [dstAddrSize] at hle ⊢
    omega
  · have h3 : byteAt (requestBytes (.domain ⟨domain, port⟩)) 3 = 0x03 := rfl
    have hlen : domain.length ≤ 255 := h _ rfl
    rw [h3, if_neg (by decide), if_pos rfl]
    simp only [dstAddrSize] at hle ⊢
    split_ifs with h4
    · have h4' : byteAt (overlay x buffer) 4 = UInt8.ofNat domain.length := hbyte h4
      rw [h4', UInt8.toNat_ofNat_of_lt' (Nat.lt_of_le_of_lt hlen (by decide))]
      omega
    · omega

/-! ### The reads of the server -/

/-- The first read. -/
theorem start_eq : SocksConnection.start {} = .read (greetingCond (List.replicate 258 0x00)) 258
    fun got ec =>
      if !ec.failed && byteAt got 0 == 0x05 then parseSocksGreeting { buffer := got }
      else if !ec.failed && byteAt got 0 == 0x04 then parseSocksConnectV4 { buffer := got }
      else returnFail ec "Failure to read SOCKS greeting" := by
  simp only [start, List.length_replicate, resize_overlay]

/-- The read of the CONNECT request, whatever the buffer held. -/
theorem doReadConnectRequest_eq (self : SocksConnection) :
    self.doReadConnectRequest = .read (requestCond (resize self.buffer 263)) 263 fun got ec =>
      if !ec.failed then parseSocksConnect { self with buffer := got }
      else returnFail ec "Failure to read SOCKS connect" := by
  simp only [doReadConnectRequest, length_resize, resize_overlay]

/-- The read of the user/pass request, whatever the buffer held. -/
theorem doUserpassGreet_eq (self : SocksConnection) :
    self.doUserpassGreet = .read (userpassCond (resize self.buffer 513)) 513 fun got ec =>
      if !ec.failed then parseUserpassGreeting { self with buffer := got }
      else returnFail ec "Failure to read SOCKS userpass greeting" := by
  simp only [doUserpassGreet, length_resize, resize_overlay]

/-! ### The server's side of each message -/

/-- The method the server chooses for a list of methods. -/
def chosenMethod (methods : List UInt8) : UInt8 :=
  if 0x02 ∈ methods then 0x02 else if 0x00 ∈ methods then 0x00 else 0xFF

theorem chosenMethod_methods (opt : AuthOptions) : chosenMethod opt.methods = opt.code := by
  obtain ⟨_ | _, user, pass⟩ := opt <;> rfl

/-- **A greeting is answered with the chosen method.** -/
theorem parseSocksGreeting_greeting (self : SocksConnection) {methods : List UInt8}
    (h : methods.length ≤ 255) :
    parseSocksGreeting { self with buffer := greetingMethodsBytes methods }
      = doServerChoice { self with serverChoice := chosenMethod methods } := by
  have hn : (UInt8.ofNat methods.length).toNat = methods.length :=
    UInt8.toNat_ofNat_of_lt' (Nat.lt_of_le_of_lt h (by decide))
  have hmem : ∀ m : UInt8, methods.any (· == m) = true ↔ m ∈ methods := by simp
  simp only [parseSocksGreeting, greetingMethodsBytes, byteAt_cons_zero, byteAt_cons_succ, hn,
    List.length_cons, List.drop_succ_cons, List.drop_zero, hmem, chosenMethod]
  rw [if_neg (List.cons_ne_nil _ _), if_neg (show ¬Version.socks5.byte ≠ 0x05 by decide),
    if_neg (by omega), if_neg (by omega)]
  split_ifs <;> rfl

/-- A user/pass request whose password is as long as the user is granted. -/
theorem parseUserpassGreeting_userpass (self : SocksConnection) (hopt : opt.Fits)
    (h : opt.user.length ≤ opt.pass.length) :
    parseUserpassGreeting { self with buffer := userpassBytes opt }
      = .write [0x01, 0x00] fun _ ec =>
          if ec.failed then returnFail ec "Cannot write userpass response"
          else doReadConnectRequest { self with buffer := [0x01, 0x00] } := by
  have hn : (UInt8.ofNat opt.user.length).toNat = opt.user.length :=
    UInt8.toNat_ofNat_of_lt' (Nat.lt_of_le_of_lt hopt.user_le (by decide))
  have hid : byteAt (userpassBytes opt) 1 = UInt8.ofNat opt.user.length := rfl
  have hpw : byteAt (userpassBytes opt) (2 + opt.user.length) = UInt8.ofNat opt.user.length := by
    rw [Nat.add_comm]
    exact byteAt_append_length _ _ _
  have hne : userpassBytes opt ≠ [] := List.cons_ne_nil _ _
  have hver : byteAt (userpassBytes opt) 0 = 0x01 := rfl
  have hlen := length_userpassBytes opt
  simp only [parseUserpassGreeting, hver, hid, hn, hpw]
  rw [if_neg hne, if_neg (not_not.mpr rfl), if_neg (by omega), if_neg (by omega),
    if_neg (by omega), if_neg (by omega)]

/-- What `parse_socks_connect` does with the header of a request. -/
theorem parseSocksConnect_request (self : SocksConnection) (target : Target) :
    parseSocksConnect { self with buffer := requestBytes target }
      = match target with
        | .endpoint ⟨.v4 _, _⟩ => parseConnectIpV4 { self with buffer := requestBytes target }
        | .endpoint ⟨.v6 _, _⟩ => parseConnectIpV6 { self with buffer := requestBytes target }
        | .domain _ => parseConnectDomain { self with buffer := requestBytes target } := by
  have hlen : 7 ≤ (requestBytes target).length := by
    obtain ⟨a | a, port⟩ | ⟨domain, port⟩ := target <;> simp [length_requestBytes, dstAddrSize]
  have hne : requestBytes target ≠ [] := List.cons_ne_nil _ _
  have hver : byteAt (requestBytes target) 0 = 0x05 := rfl
  have hcmd : byteAt (requestBytes target) 1 = 0x01 := rfl
  have hrsv : byteAt (requestBytes target) 2 = 0x00 := rfl
  simp only [parseSocksConnect, hver, hcmd, hrsv]
  rw [if_neg hne, if_neg (not_not.mpr rfl), if_neg (by omega), if_neg (not_not.mpr rfl),
    if_neg (by omega), if_neg (not_not.mpr rfl), if_neg (by omega)]
  obtain ⟨a | a, port⟩ | ⟨domain, port⟩ := target <;> rfl

theorem parseConnectIpV4_request (self : SocksConnection) (a : AddressV4) (port : UInt16) :
    parseConnectIpV4 { self with buffer := requestBytes (.endpoint ⟨.v4 a, port⟩) }
      = doTargetConnect { self with
          buffer := requestBytes (.endpoint ⟨.v4 a, port⟩), target := ⟨.v4 a, port⟩ } := by
  have hbytes : requestBytes (.endpoint ⟨.v4 a, port⟩) = [0x05, 0x01, 0x00, 0x01, a.bytes 0,
      a.bytes 1, a.bytes 2, a.bytes 3, (port >>> 8).toUInt8, (port &&& 0xFF).toUInt8] := by
    simp [requestBytes, targetHostBytes, portBytes, AddressV4.toBytes, List.ofFn_succ]
  have hip : (![a.bytes 0, a.bytes 1, a.bytes 2, a.bytes 3] : Fin 4 → UInt8) = a.bytes := by
    funext i
    fin_cases i <;> rfl
  rw [hbytes, parseConnectIpV4]
  simp only [List.length_cons, List.length_nil, if_true, byteAt_cons_zero, byteAt_cons_succ, hip,
    join16_split]

theorem parseConnectIpV6_request (self : SocksConnection) (a : AddressV6) (port : UInt16) :
    parseConnectIpV6 { self with buffer := requestBytes (.endpoint ⟨.v6 a, port⟩) }
      = doTargetConnect { self with
          buffer := requestBytes (.endpoint ⟨.v6 a, port⟩),
          target := ⟨.v6 ⟨a.bytes, 0⟩, port⟩ } := by
  have hip : (fun i : Fin 16 => byteAt (requestBytes (.endpoint ⟨.v6 a, port⟩)) (4 + i))
      = a.bytes := by
    funext i
    rw [Nat.add_comm]
    change byteAt (a.toBytes ++ portBytes port) i = a.bytes i
    rw [byteAt_append _ (by rw [AddressV6.length_toBytes]; exact i.isLt), AddressV6.toBytes,
      byteAt_ofFn]
  have hhi : byteAt (requestBytes (.endpoint ⟨.v6 a, port⟩)) 20 = (port >>> 8).toUInt8 := by
    simp [requestBytes, targetHostBytes, portBytes, AddressV6.toBytes, List.ofFn_succ]
  have hlo : byteAt (requestBytes (.endpoint ⟨.v6 a, port⟩)) 21 = (port &&& 0xFF).toUInt8 := by
    simp [requestBytes, targetHostBytes, portBytes, AddressV6.toBytes, List.ofFn_succ]
  simp only [parseConnectIpV6, length_requestBytes, dstAddrSize, if_true, hip, hhi, hlo,
    join16_split]

theorem parseConnectDomain_request (self : SocksConnection) {ep : DomainEndpoint}
    (h : ep.domain.length ≤ 255) :
    parseConnectDomain { self with buffer := requestBytes (.domain ep) }
      = .call (.resolve ep.domain (portToString ep.port)) fun answer =>
          if answer.ec.failed then
            fail answer.ec "Cannot resolve domain name" (some (.host ep.domain))
              (doConnectReply { self with buffer := requestBytes (.domain ep) } 0x04)
          else doTargetConnect { self with
            buffer := requestBytes (.domain ep), target := answer.endpoint } := by
  obtain ⟨domain, port⟩ := ep
  have hn : (UInt8.ofNat domain.length).toNat = domain.length :=
    UInt8.toNat_ofNat_of_lt' (Nat.lt_of_le_of_lt h (by decide))
  have hdomain : byteAt (requestBytes (.domain ⟨domain, port⟩)) 4 = UInt8.ofNat domain.length := rfl
  have hlen : (requestBytes (.domain ⟨domain, port⟩)).length = 7 + domain.length := by
    rw [length_requestBytes]
    simp only [dstAddrSize]
    omega
  have hhost : ((requestBytes (.domain ⟨domain, port⟩)).drop 5).take domain.length = domain :=
    List.take_left
  have hhi : byteAt (requestBytes (.domain ⟨domain, port⟩)) (domain.length + 5)
      = (port >>> 8).toUInt8 := byteAt_append_length domain _ _
  have hlo : byteAt (requestBytes (.domain ⟨domain, port⟩)) (domain.length + 6)
      = (port &&& 0xFF).toUInt8 := by
    have hlast := byteAt_append_length (domain ++ [(port >>> 8).toUInt8]) [] (port &&& 0xFF).toUInt8
    rwa [List.length_append, List.append_assoc] at hlast
  simp only [parseConnectDomain, hlen, hdomain, hn, hhost, if_true,
    show 7 + domain.length - 2 = domain.length + 5 by omega,
    show 7 + domain.length - 1 = domain.length + 6 by omega, hhi, hlo, join16_split]

end Socks
