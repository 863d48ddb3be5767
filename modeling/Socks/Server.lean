import Socks.Request

/-!
# The reference server

One `socks_connection` of the example server, from `start` to the moment a relay begins or the
connection is over. A handler that starts an asynchronous operation on the client's socket is a
`read` or `write` of the program, and the handler passed to it is what the program continues
with. The resolver, the target socket and the error stream are asked by `call`.

The handlers share their connection object through `this`; here each takes the object as it is
when it runs, and passes on the object as it leaves it. A completion condition also runs on the
shared buffer, so what it inspects is what has been received so far over whatever the buffer held
when the read began (`Cond.onBuffer`).

What the server prints on its standard output is left out; what it reports to `fail` is not. The
relay is left out here as well: a connection that reaches it ends with `Ending.relay`.

## Main definitions

* `Socks.ServerCall`, `Socks.ServerAnswer`, `Socks.Ending` — what a server asks, and how it ends
* `Socks.SocksConnection` — the connection object, `Socks.SocksConnection.start` its program
* `Socks.greetingAsk`, `Socks.userpassAsk`, `Socks.requestAsk` — the completion conditions
-/

namespace Socks

open Asio

/-- The third argument of `fail`, printed after the message. -/
inductive Subject
  | host (name : Bytes)
  | endpoint (ep : Endpoint)
  deriving DecidableEq

/-- What a server asks for. -/
inductive ServerCall
  /-- `fail(ec, what)` and `fail(ec, what, t)`: one line on the error stream. -/
  | fail (ec : ErrorCode) (what : String) (t : Option Subject)
  /-- `resolver_.async_resolve(host, service)`. -/
  | resolve (host : Bytes) (service : String)
  /-- `target_socket_.async_connect(target)`. -/
  | connect (target : Endpoint)
  deriving DecidableEq

/-- An answer: the error, the first endpoint a name resolved to, and the local endpoint the target
socket has afterwards, if it is open. Each question uses what concerns it. -/
structure ServerAnswer where
  ec : ErrorCode := .ok
  endpoint : Endpoint := default
  localEndpoint : Option Endpoint := none
  deriving DecidableEq

/-- How the handlers of a connection end. -/
inductive Ending
  /-- `do_relay` is called. -/
  | relay
  /-- `socket_.close()` is called. -/
  | closed
  /-- No handler holds the connection any more. -/
  | dropped
  /-- An exception leaves a handler. -/
  | thrown
  deriving DecidableEq

/-- Programs of a server. -/
abbrev Server : Type := Prog ErrorCode ServerCall ServerAnswer Ending

/-- `asio::error::message_size`, `EMSGSIZE`. -/
def messageSize : ErrorCode := ⟨.system, 90⟩

/-- `asio::error::no_protocol_option`, `ENOPROTOOPT`. -/
def noProtocolOption : ErrorCode := ⟨.system, 92⟩

/-- `to_string`. -/
def portToString (v : UInt16) : String := toString v.toNat

/-! ### Completion conditions -/

/-- The condition of the read in `start`. -/
def greetingAsk (buffer : Bytes) (ec : ErrorCode) (n : ℕ) : ℕ :=
  if ec.failed = true ∨ (0 < n ∧ byteAt buffer 0 ≠ 0x05 ∧ byteAt buffer 0 ≠ 0x04) then 0
  else if byteAt buffer 0 = 0x04 then
    let maxn := buffer.length
    if 1 ≤ n ∧ byteAt buffer 1 ≠ 0x01 then 0
    else if 9 ≤ n ∧ (List.range' 8 (n - 8)).any (byteAt buffer · == 0x00) then 0
    else maxn - n
  else if 2 ≤ n then
    let nmethods := (byteAt buffer 1).toNat
    let greetN := 2 + nmethods
    if n < greetN then greetN - n else 0
  else 258 - n

/-- The condition of the read in `do_userpass_greet`. It asks for the size of the whole message,
whatever part of it has been received. -/
def userpassAsk (buffer : Bytes) (ec : ErrorCode) (n : ℕ) : ℕ :=
  let nmax := 513
  if ec.failed then 0
  else if 1 ≤ n ∧ byteAt buffer 0 ≠ 0x01 then 0
  else if n < 2 then nmax
  else
    let idlen := (byteAt buffer 1).toNat
    let pwlen := if 2 + idlen < n then (byteAt buffer (2 + idlen)).toNat else 256
    3 + idlen + pwlen

/-- The condition of the read in `do_read_connect_request`. -/
def requestAsk (buffer : Bytes) (ec : ErrorCode) (n : ℕ) : ℕ :=
  let nmax := 263
  if ec.failed = true ∨ (1 ≤ n ∧ byteAt buffer 0 ≠ 0x05) ∨ (2 ≤ n ∧ byteAt buffer 1 ≠ 0x01)
      ∨ (3 ≤ n ∧ byteAt buffer 2 ≠ 0x00) then 0
  else if n < 4 then nmax - n
  else
    let reqN :=
      if byteAt buffer 3 = 0x01 then 10
      else if byteAt buffer 3 = 0x03 then
        let addrN := if 4 < n then (byteAt buffer 4).toNat else 256
        7 + addrN
      else if byteAt buffer 3 = 0x04 then 22
      else 0
    if n < reqN then reqN - n else 0

theorem greetingAsk_of_failed (buffer : Bytes) (ec : ErrorCode) (n : ℕ) (h : failed ec = true) :
    greetingAsk buffer ec n = 0 := if_pos (Or.inl h)

theorem userpassAsk_of_failed (buffer : Bytes) (ec : ErrorCode) (n : ℕ) (h : failed ec = true) :
    userpassAsk buffer ec n = 0 := if_pos h

theorem requestAsk_of_failed (buffer : Bytes) (ec : ErrorCode) (n : ℕ) (h : failed ec = true) :
    requestAsk buffer ec n = 0 := if_pos (Or.inl h)

/-- `greetingAsk` as a condition, on the buffer the read begins with. -/
def greetingCond (buffer : Bytes) : Cond ErrorCode :=
  .onBuffer greetingAsk greetingAsk_of_failed buffer

/-- `userpassAsk` as a condition. -/
def userpassCond (buffer : Bytes) : Cond ErrorCode :=
  .onBuffer userpassAsk userpassAsk_of_failed buffer

/-- `requestAsk` as a condition. -/
def requestCond (buffer : Bytes) : Cond ErrorCode :=
  .onBuffer requestAsk requestAsk_of_failed buffer

/-! ### The connection -/

/-- `socks_connection`. Of the target socket only its local endpoint matters, which it has while
it is open. -/
structure SocksConnection where
  buffer : Bytes := List.replicate 258 0x00
  serverChoice : UInt8 := 0x00
  target : Endpoint := default
  targetSocket : Option Endpoint := none

namespace SocksConnection

/-- `fail`, and what follows it. -/
def fail (ec : ErrorCode) (what : String) (t : Option Subject) (next : Server) : Server :=
  .call (.fail ec what t) fun _ => next

/-- `return fail(ec, what)`: nothing follows. -/
def returnFail (ec : ErrorCode) (what : String) : Server := fail ec what none (.pure .dropped)

/-! ### Replies -/

/-- What `do_connect_reply` puts into the buffer. -/
def connectReply (buffer : Bytes) (rep : UInt8) (bndEp : Endpoint) : Bytes :=
  if rep ≠ 0x00 then
    (putBytes (resize buffer 10) 0 [0x05, rep, 0x00, 0x01, 0x00, 0x00, 0x00, 0x00, 0x00, 0x00]).1
  else
    match bndEp with
    | ⟨.v4 a, p⟩ =>
      let (buffer, i) := putBytes (resize buffer 10) 0 [0x05, rep, 0x00, 0x01]
      let (buffer, i) := putBytes buffer i a.toBytes
      (putBytes buffer i [((p >>> 8) &&& 0xFF).toUInt8, (p &&& 0xFF).toUInt8]).1
    | ⟨.v6 a, p⟩ =>
      let (buffer, i) := putBytes (resize buffer 22) 0 [0x05, rep, 0x00, 0x04]
      let (buffer, i) := putBytes buffer i a.toBytes
      (putBytes buffer i [((p >>> 8) &&& 0xFF).toUInt8, (p &&& 0xFF).toUInt8]).1

/-- `do_connect_reply`. `local_endpoint` throws if the target socket is not open. -/
def doConnectReply (self : SocksConnection) (rep : UInt8) : Server :=
  match self.targetSocket with
  | none => .pure .thrown
  | some bndEp =>
    let buffer := connectReply self.buffer rep bndEp
    .write buffer fun _ ec =>
      if ec.failed then returnFail ec "Cannot write connect reply"
      else
        let rep := byteAt buffer 1
        if rep = 0x00 then .pure .relay else .pure .closed

/-- What `do_connect_reply_v4` puts into the buffer. -/
def connectReplyV4 (buffer : Bytes) (rep : UInt8) (bndEp : Endpoint) : Bytes :=
  let (buffer, i) := putBytes (resize buffer 8) 0 [0x04, rep]
  if rep ≠ 90 then (putBytes buffer i [0x00, 0x00, 0x00, 0x00, 0x00, 0x00]).1
  else
    let p := bndEp.port
    let (buffer, i) := putBytes buffer i [((p >>> 8) &&& 0xFF).toUInt8, (p &&& 0xFF).toUInt8]
    match bndEp.address with
    | .v4 a => (putBytes buffer i a.toBytes).1
    | .v6 _ => (putBytes buffer i [0x00, 0x00, 0x00, 0x00]).1

/-- `do_connect_reply_v4`. -/
def doConnectReplyV4 (self : SocksConnection) (rep : UInt8) : Server :=
  match self.targetSocket with
  | none => .pure .thrown
  | some bndEp =>
    let buffer := connectReplyV4 self.buffer rep bndEp
    .write buffer fun _ ec =>
      if ec.failed then returnFail ec "Cannot write connect reply"
      else
        let v := byteAt buffer 0
        let rep := byteAt buffer 1
        if (v = 0x05 ∧ rep = 0x00) ∨ (v = 0x04 ∧ rep = 90) then .pure .relay else .pure .closed

/-! ### The target connection -/

/-- `do_target_connect`. -/
def doTargetConnect (self : SocksConnection) : Server :=
  .call (.connect self.target) fun answer =>
    let self := { self with targetSocket := answer.localEndpoint }
    if answer.ec.failed then
      fail answer.ec "Cannot connect to target" (some (.endpoint self.target))
        (self.doConnectReply 0x04)
    else self.doConnectReply 0x00

/-- `do_target_connect_v4`. -/
def doTargetConnectV4 (self : SocksConnection) : Server :=
  .call (.connect self.target) fun answer =>
    let self := { self with targetSocket := answer.localEndpoint }
    if answer.ec.failed then
      fail answer.ec "Cannot connect to target" (some (.endpoint self.target))
        (self.doConnectReplyV4 91)
    else self.doConnectReplyV4 90

/-! ### The CONNECT request -/

/-- The branches of `parse_socks_connect` that reject: report, and reply `rep`. -/
def rejectConnect (self : SocksConnection) (ec : ErrorCode) (what : String) (rep : UInt8) :
    Server :=
  fail ec what none (self.doConnectReply rep)

/-- `parse_socks_connect`, the address type being IPv4. -/
def parseConnectIpV4 (self : SocksConnection) : Server :=
  let buffer := self.buffer
  if buffer.length = 10 then
    let ip : AddressV4 := ⟨![byteAt buffer 4, byteAt buffer 5, byteAt buffer 6, byteAt buffer 7]⟩
    let port := (byteAt buffer 8).toUInt16
    let port := (port <<< 8) ||| (byteAt buffer 9).toUInt16
    doTargetConnect { self with target := ⟨.v4 ip, port⟩ }
  else self.rejectConnect messageSize "Invalid SOCKS ipv4 address" 0x08

/-- `parse_socks_connect`, the address type being IPv6. -/
def parseConnectIpV6 (self : SocksConnection) : Server :=
  let buffer := self.buffer
  if buffer.length = 22 then
    let ip : AddressV6 := ⟨fun i => byteAt buffer (4 + i), 0⟩
    let port := (byteAt buffer 20).toUInt16
    let port := (port <<< 8) ||| (byteAt buffer 21).toUInt16
    doTargetConnect { self with target := ⟨.v6 ip, port⟩ }
  else self.rejectConnect messageSize "Invalid SOCKS ipv6 address" 0x08

/-- `parse_socks_connect`, the address type being a domain name. -/
def parseConnectDomain (self : SocksConnection) : Server :=
  let buffer := self.buffer
  if buffer.length = 7 + (byteAt buffer 4).toNat then
    let host := (buffer.drop 5).take (byteAt buffer 4).toNat
    let port := (byteAt buffer (buffer.length - 2)).toUInt16
    let port := (port <<< 8) ||| (byteAt buffer (buffer.length - 1)).toUInt16
    .call (.resolve host (portToString port)) fun answer =>
      if answer.ec.failed then
        let host := (buffer.drop 5).take (byteAt buffer 4).toNat
        fail answer.ec "Cannot resolve domain name" (some (.host host)) (self.doConnectReply 0x04)
      else doTargetConnect { self with target := answer.endpoint }
  else self.rejectConnect messageSize "Invalid SOCKS domain address" 0x08

/-- `parse_socks_connect`. -/
def parseSocksConnect (self : SocksConnection) : Server :=
  let buffer := self.buffer
  if buffer = [] then returnFail messageSize "Empty SOCKS connect"
  else if byteAt buffer 0 ≠ 0x05 then
    self.rejectConnect noProtocolOption "Bad SOCKS request version" 0x02
  else if buffer.length = 1 then self.rejectConnect messageSize "Missing SOCKS command" 0x02
  else if byteAt buffer 1 ≠ 0x01 then
    self.rejectConnect messageSize "Invalid SOCKS connect command" 0x07
  else if buffer.length = 2 then self.rejectConnect messageSize "Missing SOCKS reserved byte" 0x02
  else if byteAt buffer 2 ≠ 0x00 then
    self.rejectConnect messageSize "Invalid SOCKS reserved byte" 0x02
  else if buffer.length = 3 then self.rejectConnect messageSize "Missing SOCKS address type" 0x02
  else if byteAt buffer 3 ≠ 0x01 ∧ byteAt buffer 3 ≠ 0x03 ∧ byteAt buffer 3 ≠ 0x04 then
    self.rejectConnect messageSize "Invalid SOCKS address type" 0x08
  else if byteAt buffer 3 = 0x01 then self.parseConnectIpV4
  else if byteAt buffer 3 = 0x04 then self.parseConnectIpV6
  else self.parseConnectDomain

/-- `do_read_connect_request`. -/
def doReadConnectRequest (self : SocksConnection) : Server :=
  let buffer := resize self.buffer 263
  .read (requestCond buffer) buffer.length fun got ec =>
    if !ec.failed then
      parseSocksConnect { self with buffer := resize (overlay got buffer) got.length }
    else returnFail ec "Failure to read SOCKS connect"

/-- The branches of `parse_socks_connect_v4` that reject: report, and reply 91. -/
def rejectConnectV4 (self : SocksConnection) (ec : ErrorCode) (what : String) : Server :=
  fail ec what none (self.doConnectReplyV4 91)

/-- `parse_socks_connect_v4`. -/
def parseSocksConnectV4 (self : SocksConnection) : Server :=
  let buffer := self.buffer
  if buffer = [] then returnFail messageSize "Empty SOCKS connect"
  else if byteAt buffer 0 ≠ 0x04 then
    self.rejectConnectV4 noProtocolOption "Bad request version"
  else if buffer.length = 1 then self.rejectConnectV4 messageSize "Missing SOCKS command"
  else if byteAt buffer 1 ≠ 0x01 then
    self.rejectConnectV4 messageSize "Invalid SOCKS connect command"
  else if 8 ≤ buffer.length then
    let port := (byteAt buffer 2).toUInt16
    let port := (port <<< 8) ||| (byteAt buffer 3).toUInt16
    let ip : AddressV4 := ⟨![byteAt buffer 4, byteAt buffer 5, byteAt buffer 6, byteAt buffer 7]⟩
    doTargetConnectV4 { self with target := ⟨.v4 ip, port⟩ }
  else self.rejectConnectV4 messageSize "Invalid SOCKS ipv4 address"

/-! ### Authentication -/

/-- `parse_userpass_greeting`. The user and the password are only printed. -/
def parseUserpassGreeting (self : SocksConnection) : Server :=
  let buffer := self.buffer
  let idlen := (byteAt buffer 1).toNat
  let passlen := (byteAt buffer (2 + idlen)).toNat
  if buffer = [] then returnFail messageSize "Empty userpass greeting"
  else if byteAt buffer 0 ≠ 0x01 then returnFail noProtocolOption "Bad userpass version"
  else if buffer.length = 1 then returnFail messageSize "Missing SOCKS username"
  else if buffer.length < idlen + 2 then returnFail messageSize "Incomplete SOCKS username"
  else if buffer.length < idlen + 3 then returnFail messageSize "Missing SOCKS password"
  else if buffer.length < idlen + 3 + passlen then
    returnFail messageSize "Incomplete SOCKS password"
  else
    let buffer := [0x01, 0x00]
    .write buffer fun _ ec =>
      if ec.failed then returnFail ec "Cannot write userpass response"
      else doReadConnectRequest { self with buffer := buffer }

/-- `do_userpass_greet`. -/
def doUserpassGreet (self : SocksConnection) : Server :=
  let buffer := resize self.buffer 513
  .read (userpassCond buffer) buffer.length fun got ec =>
    if !ec.failed then
      parseUserpassGreeting { self with buffer := resize (overlay got buffer) got.length }
    else returnFail ec "Failure to read SOCKS userpass greeting"

/-- `do_server_choice`. -/
def doServerChoice (self : SocksConnection) : Server :=
  let self := { self with buffer := [0x05, self.serverChoice] }
  .write self.buffer fun _ ec =>
    if ec.failed then returnFail ec "Cannot write greeting response"
    else if self.serverChoice = 0xFF then returnFail ec "No compatible client auth method"
    else if self.serverChoice = 0x02 then self.doUserpassGreet
    else self.doReadConnectRequest

/-- `parse_socks_greeting`. -/
def parseSocksGreeting (self : SocksConnection) : Server :=
  let buffer := self.buffer
  if buffer = [] then returnFail messageSize "Empty SOCKS greeting"
  else if byteAt buffer 0 ≠ 0x05 then returnFail noProtocolOption "Bad SOCKS version"
  else if buffer.length = 1 then returnFail messageSize "Empty SOCKS auth methods"
  else if (byteAt buffer 1).toNat ≠ buffer.length - 2 then
    returnFail messageSize "Missing SOCKS auth methods"
  else if (buffer.drop 2).any (· == 0x02) then doServerChoice { self with serverChoice := 0x02 }
  else if (buffer.drop 2).any (· == 0x00) then doServerChoice { self with serverChoice := 0x00 }
  else doServerChoice { self with serverChoice := 0xFF }

/-- `start`. -/
def start (self : SocksConnection) : Server :=
  .read (greetingCond self.buffer) self.buffer.length fun got ec =>
    let self := { self with buffer := resize (overlay got self.buffer) got.length }
    if !ec.failed && byteAt self.buffer 0 == 0x05 then self.parseSocksGreeting
    else if !ec.failed && byteAt self.buffer 0 == 0x04 then self.parseSocksConnectV4
    else returnFail ec "Failure to read SOCKS greeting"

end SocksConnection

end Socks
