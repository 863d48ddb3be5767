import Socks.Connect
import Socks.Asio.Compose

/-!
# The asynchronous client

`connect_op`, the coroutine behind `async_connect`. Its fields survive a suspension, and so does
the place it is suspended at (`coro_`); `ConnectOp.resume` is one invocation of its
`operator()`, from the place it was suspended at to the next `BOOST_ASIO_CORO_YIELD` or to
`complete`. The endpoint it completes with is a local of that invocation and starts out empty.

## Main definitions

* `Socks.ConnectOp`, `Socks.ConnectOp.resume` — the fields and one invocation
* `Socks.connectOp` — the coroutine as a composed operation
* `Socks.asyncConnect` — `async_connect`, either overload
-/

namespace Socks

open Asio

/-- Where `connect_op` is suspended. -/
inductive ConnectPoint
  | initial
  | greetingSent
  | choiceRead
  | userpassSent
  | userpassReplyRead
  | requestSent
  | replyRead

/-- The fields of `connect_op`. -/
structure ConnectOp where
  buf : Bytes
  target : Target
  opt : AuthOptions
  coro : ConnectPoint := .initial

/-- The part of `operator()` from the CONNECT request to the next suspension. Both branches of
the sub-negotiation run into it. -/
def ConnectOp.sendRequest (op : ConnectOp) : Suspend ErrorCode ConnectOp Completion :=
  let (buf, n) := prepareRequest op.buf op.target
  .asyncWrite (buf.take n) { op with buf := buf, coro := .requestSent }

/-- `connect_op::operator()`. -/
def ConnectOp.resume (op : ConnectOp) (ec : ErrorCode) (n : ℕ) :
    Suspend ErrorCode ConnectOp Completion :=
  match op.coro with
  | .initial =>
    let (buf, n) := prepareGreeting op.buf op.opt
    .asyncWrite (buf.take n) { op with buf := buf, coro := .greetingSent }
  | .greetingSent =>
    if ec.failed then .complete (ec, default)
    else .asyncRead transferAll 2 fun got =>
      { op with buf := overlay got op.buf, coro := .choiceRead }
  | .choiceRead =>
    let ec := if !ec.failed || ec == .eof then validateServerChoice op.buf n op.opt ec else ec
    if ec.failed then .complete (ec, default)
    else if byteAt op.buf 1 = authMethodUserpass then
      let (buf, n) := prepareUserpassRequest op.buf op.opt
      .asyncWrite (buf.take n) { op with buf := buf, coro := .userpassSent }
    else op.sendRequest
  | .userpassSent =>
    if ec.failed then .complete (ec, default)
    else .asyncRead transferAll 2 fun got =>
      { op with buf := overlay got op.buf, coro := .userpassReplyRead }
  | .userpassReplyRead =>
    -- unlike in `authenticate`, the reply is checked whatever the read reported
    let ec := validateUserpassReply op.buf n ec
    if ec.failed && ec != .eof then .complete (ec, default)
    else op.sendRequest
  | .requestSent =>
    if ec.failed then .complete (ec, default)
    else .asyncRead (replyCond op.buf) 22 fun got =>
      { op with buf := overlay got op.buf, coro := .replyRead }
  | .replyRead =>
    if ec.failed && ec != .eof then .complete (ec, default)
    else if n ≠ 10 ∧ n ≠ 22 then .complete (makeErrorCode .badReplySize, default)
    else
      let (ep, ec) := parseReplyV5 op.buf n
      .complete (ec, ep)

/-- How many suspension points are still ahead. -/
def ConnectPoint.rank : ConnectPoint → ℕ
  | .initial => 6
  | .greetingSent => 5
  | .choiceRead => 4
  | .userpassSent => 3
  | .userpassReplyRead => 2
  | .requestSent => 1
  | .replyRead => 0

/-- The coroutine as a composed operation. -/
def ConnectOp.composed : Composed ErrorCode ConnectOp Completion where
  resume := ConnectOp.resume
  rank op := op.coro.rank
  rank_write {op e n bs op'} h := by
    obtain ⟨buf, target, opt, coro⟩ := op
    cases coro <;> simp only [ConnectOp.resume, ConnectOp.sendRequest] at h <;>
      (try split_ifs at h) <;> cases h <;> simp [ConnectPoint.rank]
  rank_read {op e n c cap next} h got := by
    obtain ⟨buf, target, opt, coro⟩ := op
    cases coro <;> simp only [ConnectOp.resume, ConnectOp.sendRequest] at h <;>
      (try split_ifs at h) <;> cases h <;> simp [ConnectPoint.rank]

/-- `connect_op`, started with its buffer holding `memory`. -/
def connectOp (memory : Vector UInt8 bufferSize) (target : Target) (opt : AuthOptions) :
    Client Completion :=
  ConnectOp.composed.prog { buf := memory.toList, target := target, opt := opt } .ok 0

/-- `async_connect`. The constructor of `connect_op` fills the buffer with zeros. -/
def asyncConnect (target : Target) (opt : AuthOptions) : Client Completion :=
  connectOp (Vector.replicate bufferSize 0) target opt

end Socks
