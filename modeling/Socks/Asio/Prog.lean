import Mathlib.Logic.Basic
import Mathlib.Tactic.Common

/-!
# Programs over composed byte-stream operations

A program that talks to one byte stream is a tree: at each node it asks for one composed
operation and continues with whatever that operation reports. Two kinds of node are I/O,
`write` and `read`, and a third, `call`, asks a question of something else (a resolver, another
socket). A leaf is a result.

The tree says nothing about how the stream behaves. `Socks.Asio.Stream` runs one against a
stream that answers `read_some` and `write_some`; `Socks.Asio.Channel` runs two against each
other. Because the answers are the only thing a program can depend on, two programs that are
equal as trees behave alike on every stream, in every composition.

## The completion condition

`asio::read` asks a completion condition, before every `read_some`, how much it may still
transfer; zero means stop. Here the condition sees the bytes this operation has received so far
and the last error. That it stops at a failure is part of the type `Cond`, because a condition
without that property makes the composed read spin on a broken stream.

## Main definitions

* `Asio.ErrorLike` — error codes: which of them are failures, and the one operations start from
* `Asio.Cond` — completion conditions, `Asio.transferAll` the default one
* `Asio.Prog` — programs, with their monad
-/

namespace Asio

/-- Bytes on a stream. -/
abbrev Bytes := List UInt8

/-- Error codes. A code need not be zero to be a success, so `failed` is a predicate of its own
rather than `· ≠ ok`. -/
class ErrorLike (ε : Type) where
  /-- The code a composed operation starts from. -/
  ok : ε
  /-- `error_code::failed`. -/
  failed : ε → Bool
  failed_ok : failed ok = false

export ErrorLike (ok failed)

attribute [simp] ErrorLike.failed_ok

variable {ε : Type} [ErrorLike ε] {Q A α β γ : Type}

/-- A completion condition: given what the operation has received and the last error, how many
bytes the next `read_some` may ask for. -/
@[ext] structure Cond (ε : Type) [ErrorLike ε] where
  /-- The number of bytes to ask for next; zero stops the operation. -/
  ask : Bytes → ε → ℕ
  /-- A failure stops the operation. -/
  ask_of_failed : ∀ got e, failed e = true → ask got e = 0

theorem Cond.not_failed {c : Cond ε} {got : Bytes} {e : ε} (h : 0 < c.ask got e) :
    failed e = false := by
  by_contra hf
  rw [c.ask_of_failed got e (by simpa using hf)] at h
  exact Nat.lt_irrefl 0 h

/-- `asio::detail::default_max_transfer_size`. -/
def defaultMaxTransferSize : ℕ := 65536

/-- `asio::transfer_all`: keep going until the buffer is full or an error occurs. -/
def transferAll : Cond ε where
  ask _ e := if failed e then 0 else defaultMaxTransferSize
  ask_of_failed _ _ h := if_pos h

@[simp] theorem transferAll_ask_ok (got : Bytes) :
    (transferAll : Cond ε).ask got ok = defaultMaxTransferSize := by
  simp [transferAll]

/-- Programs that return an `α`, over composed reads and writes of one stream and over
questions `Q` with answers `A`. -/
inductive Prog (ε : Type) [ErrorLike ε] (Q A α : Type) : Type
  /-- Finish with a result. -/
  | pure (a : α)
  /-- `asio::write` all of `bs`; continue with the count transferred and the error. -/
  | write (bs : Bytes) (k : ℕ → ε → Prog ε Q A α)
  /-- `asio::read` at most `cap` bytes under `c`; continue with the bytes received and the
  error. -/
  | read (c : Cond ε) (cap : ℕ) (k : Bytes → ε → Prog ε Q A α)
  /-- Ask `q`; continue with the answer. -/
  | call (q : Q) (k : A → Prog ε Q A α)

namespace Prog

/-- Run `p`, then what `f` makes of its result. -/
def bind : Prog ε Q A α → (α → Prog ε Q A β) → Prog ε Q A β
  | .pure a, f => f a
  | .write bs k, f => .write bs fun n e => (k n e).bind f
  | .read c cap k, f => .read c cap fun got e => (k got e).bind f
  | .call q k, f => .call q fun a => (k a).bind f

instance : Monad (Prog ε Q A) where
  pure := Prog.pure
  bind := Prog.bind

@[simp] theorem monad_pure (a : α) : (Pure.pure a : Prog ε Q A α) = .pure a := rfl

@[simp] theorem pure_bind (a : α) (f : α → Prog ε Q A β) : (.pure a >>= f) = f a := rfl

@[simp] theorem write_bind (bs : Bytes) (k : ℕ → ε → Prog ε Q A α) (f : α → Prog ε Q A β) :
    (.write bs k >>= f) = .write bs fun n e => k n e >>= f := rfl

@[simp] theorem read_bind (c : Cond ε) (cap : ℕ) (k : Bytes → ε → Prog ε Q A α)
    (f : α → Prog ε Q A β) : (.read c cap k >>= f) = .read c cap fun got e => k got e >>= f := rfl

@[simp] theorem call_bind (q : Q) (k : A → Prog ε Q A α) (f : α → Prog ε Q A β) :
    (.call q k >>= f) = .call q fun a => k a >>= f := rfl

/-- A branch taken before the rest of a program is the same as one taken around it. -/
theorem ite_bind (b : Prop) [Decidable b] (p q : Prog ε Q A α) (f : α → Prog ε Q A β) :
    ((if b then p else q) >>= f) = if b then p >>= f else q >>= f := by
  split <;> rfl

end Prog

end Asio
