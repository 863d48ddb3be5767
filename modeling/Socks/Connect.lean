import Socks.Reply

/-!
# The synchronous client

`connect`, with the functions it calls, statement by statement. The stream is what the program
runs against; everything else the source passes by reference is passed and returned here: the
work buffer, and the `error_code`.

The buffer is an array on the stack that nothing initialises. What it holds on entry is the
argument `memory`, and no theorem below assumes anything of it.

## Main definitions

* `Socks.authenticate`, `Socks.writeConnectRequest`, `Socks.readConnectReply`
* `Socks.connectEndpoint`, `Socks.connectDomain` — the two overloads of `connect`
* `Socks.connect` — either of them, by the kind of target
-/

namespace Socks

open Asio

/-- Programs of a client: it has a stream and nothing else. -/
abbrev Client (α : Type) : Type := Prog ErrorCode Empty Empty α

/-- What a handshake completes with: the error, and the endpoint the server is bound to. -/
abbrev Completion : Type := ErrorCode × Endpoint

/-- `asio::write(stream, asio::buffer(buffer, n), ec)`. -/
def asioWrite (buffer : Bytes) (n : ℕ) : Client (ℕ × ErrorCode) :=
  .write (buffer.take n) fun n ec => .pure (n, ec)

/-- `asio::read(stream, asio::buffer(buffer, cap), cond, ec)`, with the buffer after it. -/
def asioRead (buffer : Bytes) (cap : ℕ) (cond : Cond ErrorCode) :
    Client (ℕ × Bytes × ErrorCode) :=
  .read cond cap fun got ec => .pure (got.length, overlay got buffer, ec)

/-- `authenticate`: the byte it returns, the buffer and the error it leaves. -/
def authenticate (buffer : Bytes) (opt : AuthOptions) : Client (UInt8 × Bytes × ErrorCode) := do
  let (buffer, gn) := prepareGreeting buffer opt
  let (_, ec) ← asioWrite buffer gn
  if ec.failed then
    return (0, buffer, ec)
  let (rn, buffer, ec) ← asioRead buffer 2 transferAll
  let ec := if !ec.failed || ec == .eof then validateServerChoice buffer rn opt ec else ec
  if ec.failed then
    return (byteAt buffer 1, buffer, ec)
  let choice := byteAt buffer 1
  if choice = authMethodUserpass then
    let (buffer, n2) := prepareUserpassRequest buffer opt
    let (_, ec) ← asioWrite buffer n2
    if ec.failed then
      return (0, buffer, ec)
    let (n, buffer, ec) ← asioRead buffer 2 transferAll
    let ec := if !ec.failed || ec == .eof then validateUserpassReply buffer n ec else ec
    return (byteAt buffer 1, buffer, ec)
  return (byteAt buffer 1, buffer, ec)

/-- `write_connect_request`, both overloads. -/
def writeConnectRequest (buffer : Bytes) (targetHost : Target) :
    Client (ℕ × Bytes × ErrorCode) := do
  let (buffer, n) := prepareRequest buffer targetHost
  let (_, ec) ← asioWrite buffer n
  return (n, buffer, ec)

/-- `read_connect_reply`. The end of the file is let through: it is how a server closes after a
refusal, and the refusal is what should be reported. -/
def readConnectReply (buffer : Bytes) : Client Completion := do
  let (n, buffer, ec) ← asioRead buffer 22 (replyCond buffer)
  if ec.failed && ec != .eof then
    return (ec, default)
  if n ≠ 10 ∧ n ≠ 22 then
    return (makeErrorCode .badReplySize, default)
  let (ep, ec) := parseReplyV5 buffer n
  return (ec, ep)

/-- `connect` to an endpoint. -/
def connectEndpoint (memory : Vector UInt8 bufferSize) (targetHost : Endpoint)
    (opt : AuthOptions) : Client Completion := do
  let buffer := memory.toList
  let (_, buffer, ec) ← authenticate buffer opt
  if ec.failed then
    return (ec, default)
  let (_, buffer, ec) ← writeConnectRequest buffer (.endpoint targetHost)
  if ec.failed then
    return (ec, default)
  let (ec, ep) ← readConnectReply buffer
  return (ec, ep)

/-- `connect` to a domain. Unlike the other overload it looks at the error once more before it
returns the endpoint. -/
def connectDomain (memory : Vector UInt8 bufferSize) (target : DomainEndpoint)
    (opt : AuthOptions) : Client Completion := do
  let buffer := memory.toList
  let (_, buffer, ec) ← authenticate buffer opt
  if ec.failed then
    return (ec, default)
  let (_, buffer, ec) ← writeConnectRequest buffer (.domain target)
  if ec.failed then
    return (ec, default)
  let (ec, ep) ← readConnectReply buffer
  if ec.failed then
    return (ec, default)
  return (ec, ep)

/-- `connect`. -/
def connect (memory : Vector UInt8 bufferSize) (target : Target) (opt : AuthOptions) :
    Client Completion :=
  match target with
  | .endpoint ep => connectEndpoint memory ep opt
  | .domain ep => connectDomain memory ep opt

end Socks
