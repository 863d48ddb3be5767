import Socks.Asio.Prog
import Mathlib.Data.List.Basic

/-!
# Streams, and running a program against one

A stream is anything that answers `read_some` and `write_some`. Nothing else is assumed of it:
it may answer with any bytes, in any chunks, with any error at any point, and may choose its
answers from everything that happened before, because the state `σ` it threads is arbitrary.
What an answer can *be* is fixed by its type: a read delivers at most what was asked for, and an
answer that transfers nothing reports a failure.

## The composed operations

`Stream.read` and `Stream.write` are the loops of `asio::read` and `asio::write`; the
asynchronous `async_read` and `async_write` call the same `read_some` and `write_some` in the
same order, so both are modelled by one loop. A failing read may still deliver bytes, and those
bytes count.

## Main definitions

* `Asio.Stream`, `Asio.ReadResult`, `Asio.WriteResult` — a stream and its answers
* `Asio.Stream.read`, `Asio.Stream.write` — the composed operations
* `Asio.Prog.run` — a program against a stream, with the trace of its operations

## Main results

* `Asio.Stream.read_length_le`, `Asio.Stream.read_complete` — a composed read stays within its
  capacity, and one that ends without a failure ended because it was complete
* `Asio.Stream.write_le_length`, `Asio.Stream.write_complete` — the same for a composed write
-/

namespace Asio

variable {ε Q A α σ : Type}

/-! ### Traces -/

/-- One composed operation of a run, with what it reported. -/
inductive Step (ε Q A : Type)
  | write (bs : Bytes) (n : ℕ) (ec : ε)
  | read (cap : ℕ) (got : Bytes) (ec : ε)
  | call (q : Q) (a : A)
  deriving DecidableEq

/-- A finished run: the result, the operations in order, and the state the stream is left in. -/
structure Run (ε Q A α σ : Type) where
  result : α
  trace : List (Step ε Q A)
  rest : σ

/-- Put one more operation in front. -/
def Run.after (x : Step ε Q A) (r : Run ε Q A α σ) : Run ε Q A α σ :=
  { r with trace := x :: r.trace }

@[simp] theorem Run.after_result (x : Step ε Q A) (r : Run ε Q A α σ) :
    (r.after x).result = r.result := rfl

@[simp] theorem Run.after_trace (x : Step ε Q A) (r : Run ε Q A α σ) :
    (r.after x).trace = x :: r.trace := rfl

@[simp] theorem Run.after_rest (x : Step ε Q A) (r : Run ε Q A α σ) :
    (r.after x).rest = r.rest := rfl

/-- The messages whose writing a trace starts, in order. -/
def started : List (Step ε Q A) → List Bytes
  | [] => []
  | .write bs _ _ :: t => bs :: started t
  | _ :: t => started t

theorem started_append (t t' : List (Step ε Q A)) :
    started (t ++ t') = started t ++ started t' := by
  induction t with
  | nil => rfl
  | cons x t ih =>
    cases x with
    | write bs n e => exact congrArg (bs :: ·) ih
    | read cap got e => exact ih
    | call q a => exact ih

/-- What each read of a trace received, in order. -/
def received : List (Step ε Q A) → List Bytes
  | [] => []
  | .read _ got _ :: t => got :: received t
  | _ :: t => received t

/-- The bytes that went out over a trace. -/
def written : List (Step ε Q A) → Bytes
  | [] => []
  | .write bs n _ :: t => bs.take n ++ written t
  | _ :: t => written t

@[simp] theorem received_write (bs : Bytes) (n : ℕ) (ec : ε) (t : List (Step ε Q A)) :
    received (.write bs n ec :: t) = received t := rfl

@[simp] theorem received_read (cap : ℕ) (got : Bytes) (ec : ε) (t : List (Step ε Q A)) :
    received (.read cap got ec :: t) = got :: received t := rfl

@[simp] theorem received_call (q : Q) (a : A) (t : List (Step ε Q A)) :
    received (.call q a :: t) = received t := rfl

variable [ErrorLike ε]

/-! ### Answers of a stream -/

/-- What a `read_some` of at most `m` bytes reports. -/
structure ReadResult (ε : Type) [ErrorLike ε] (m : ℕ) where
  bytes : Bytes
  ec : ε
  length_le : bytes.length ≤ m
  progress : 0 < m → bytes = [] → failed ec = true

/-- What a `write_some` of `bs` reports: how many bytes were taken, from the front. -/
structure WriteResult (ε : Type) [ErrorLike ε] (bs : Bytes) where
  n : ℕ
  ec : ε
  le_length : n ≤ bs.length
  progress : bs ≠ [] → n = 0 → failed ec = true

/-- A stream with state `σ`. -/
structure Stream (ε σ : Type) [ErrorLike ε] where
  readSome : (m : ℕ) → σ → ReadResult ε m × σ
  writeSome : (bs : Bytes) → σ → WriteResult ε bs × σ

/-! ### Composed operations -/

/-- How a composed read ended. -/
structure ReadDone (ε σ : Type) where
  got : Bytes
  ec : ε
  rest : σ

/-- How a composed write ended. -/
structure WriteDone (ε σ : Type) where
  n : ℕ
  ec : ε
  rest : σ

namespace Stream

variable (st : Stream ε σ)

/-- The loop of `asio::read`, having received `got` with last error `e`. -/
def readLoop (c : Cond ε) (cap : ℕ) (got : Bytes) (e : ε) (s : σ) : ReadDone ε σ :=
  if _h : got.length < cap ∧ 0 < c.ask got e then
    let r := st.readSome (min (c.ask got e) (cap - got.length)) s
    readLoop c cap (got ++ r.1.bytes) r.1.ec r.2
  else ⟨got, e, s⟩
-- Each turn but the last receives a byte; a turn that receives none reports a failure, and the
-- condition stops there.
termination_by 2 * (cap - got.length) + if failed e then 0 else 1
decreasing_by
  have hcur := c.not_failed _h.2
  by_cases hb : (st.readSome (min (c.ask got e) (cap - got.length)) s).1.bytes = []
  · have hf := (st.readSome (min (c.ask got e) (cap - got.length)) s).1.progress (by omega) hb
    simp [hb, hf, hcur]
  · have := List.length_pos_iff.mpr hb
    simp only [hcur, List.length_append]
    split <;> simp <;> omega

/-- `asio::read` of at most `cap` bytes under `c`. -/
def read (c : Cond ε) (cap : ℕ) (s : σ) : ReadDone ε σ := st.readLoop c cap [] ok s

/-- The loop of `asio::write`, having written `n` bytes of `bs` with last error `e`. -/
def writeLoop (bs : Bytes) (n : ℕ) (e : ε) (s : σ) : WriteDone ε σ :=
  if _h : n < bs.length ∧ failed e = false then
    let r := st.writeSome ((bs.drop n).take defaultMaxTransferSize) s
    writeLoop bs (n + r.1.n) r.1.ec r.2
  else ⟨n, e, s⟩
termination_by 2 * (bs.length - n) + if failed e then 0 else 1
decreasing_by
  have hne : (bs.drop n).take defaultMaxTransferSize ≠ [] := by
    simp [defaultMaxTransferSize, _h.1]
  by_cases hz : (st.writeSome ((bs.drop n).take defaultMaxTransferSize) s).1.n = 0
  · have hf := (st.writeSome ((bs.drop n).take defaultMaxTransferSize) s).1.progress hne hz
    simp [hz, hf, _h.2]
  · simp only [_h.2]
    split <;> simp <;> omega

/-- `asio::write` of all of `bs`. -/
def write (bs : Bytes) (s : σ) : WriteDone ε σ := st.writeLoop bs 0 ok s

/-! ### What a composed operation guarantees -/

theorem readLoop_of_stop {c : Cond ε} {cap : ℕ} {got : Bytes} {e : ε} {s : σ}
    (h : cap ≤ got.length ∨ c.ask got e = 0) : st.readLoop c cap got e s = ⟨got, e, s⟩ := by
  rw [readLoop, dif_neg]
  omega

theorem readLoop_of_ask {c : Cond ε} {cap : ℕ} {got : Bytes} {e : ε} {s : σ}
    (hcap : got.length < cap) (hask : 0 < c.ask got e) :
    st.readLoop c cap got e s =
      st.readLoop c cap
        (got ++ (st.readSome (min (c.ask got e) (cap - got.length)) s).1.bytes)
        (st.readSome (min (c.ask got e) (cap - got.length)) s).1.ec
        (st.readSome (min (c.ask got e) (cap - got.length)) s).2 := by
  rw [readLoop, dif_pos ⟨hcap, hask⟩]

theorem readLoop_length_le (c : Cond ε) (cap : ℕ) (got : Bytes) (e : ε) (s : σ)
    (h : got.length ≤ cap) : (st.readLoop c cap got e s).got.length ≤ cap := by
  fun_induction st.readLoop c cap got e s with
  | case1 got e s hgo r ih =>
    refine ih ?_
    have := r.1.length_le
    rw [List.length_append]
    omega
  | case2 got e s hstop => exact h

/-- A composed read that ends without a failure has filled its buffer or was stopped by its
condition. -/
theorem readLoop_complete (c : Cond ε) (cap : ℕ) (got : Bytes) (e : ε) (s : σ) :
    cap ≤ (st.readLoop c cap got e s).got.length ∨
      c.ask (st.readLoop c cap got e s).got (st.readLoop c cap got e s).ec = 0 := by
  fun_induction st.readLoop c cap got e s with
  | case1 got e s hgo r ih => exact ih
  | case2 got e s hstop =>
    dsimp only
    omega

theorem read_length_le (c : Cond ε) (cap : ℕ) (s : σ) : (st.read c cap s).got.length ≤ cap :=
  st.readLoop_length_le c cap [] ok s (Nat.zero_le _)

theorem read_complete (c : Cond ε) (cap : ℕ) (s : σ) :
    cap ≤ (st.read c cap s).got.length ∨ c.ask (st.read c cap s).got (st.read c cap s).ec = 0 :=
  st.readLoop_complete c cap [] ok s

theorem writeLoop_le_length (bs : Bytes) (n : ℕ) (e : ε) (s : σ) (h : n ≤ bs.length) :
    (st.writeLoop bs n e s).n ≤ bs.length := by
  fun_induction st.writeLoop bs n e s with
  | case1 n e s hgo r ih =>
    refine ih ?_
    have := r.1.le_length
    simp only [List.length_take, List.length_drop] at this
    omega
  | case2 n e s hstop => exact h

theorem writeLoop_complete (bs : Bytes) (n : ℕ) (e : ε) (s : σ) :
    bs.length ≤ (st.writeLoop bs n e s).n ∨ failed (st.writeLoop bs n e s).ec = true := by
  fun_induction st.writeLoop bs n e s with
  | case1 n e s hgo r ih => exact ih
  | case2 n e s hstop =>
    cases hf : failed e with
    | true => exact Or.inr rfl
    | false => exact Or.inl (Nat.le_of_not_lt fun hlt => hstop ⟨hlt, hf⟩)

theorem write_le_length (bs : Bytes) (s : σ) : (st.write bs s).n ≤ bs.length :=
  st.writeLoop_le_length bs 0 ok s (Nat.zero_le _)

/-- A composed write that does not fail has written everything. -/
theorem write_complete (bs : Bytes) (s : σ) (h : failed (st.write bs s).ec = false) :
    (st.write bs s).n = bs.length := by
  refine Nat.le_antisymm (st.write_le_length bs s) ?_
  rcases st.writeLoop_complete bs 0 ok s with hc | hc
  · exact hc
  · exact absurd (h.symm.trans hc) (by decide)

end Stream

/-! ### Running a program -/

/-- Run a program against a stream; `ans` answers its questions. -/
def Prog.run (st : Stream ε σ) (ans : Q → σ → A × σ) : Prog ε Q A α → σ → Run ε Q A α σ
  | .pure a, s => ⟨a, [], s⟩
  | .write bs k, s =>
    let w := st.write bs s
    ((k w.n w.ec).run st ans w.rest).after (.write bs w.n w.ec)
  | .read c cap k, s =>
    let r := st.read c cap s
    ((k r.got r.ec).run st ans r.rest).after (.read cap r.got r.ec)
  | .call q k, s =>
    let a := ans q s
    ((k a.1).run st ans a.2).after (.call q a.1)

theorem Prog.run_write {st : Stream ε σ} {ans : Q → σ → A × σ} {bs : Bytes}
    {k : ℕ → ε → Prog ε Q A α} {s s' : σ} {n : ℕ} {e : ε} (h : st.write bs s = ⟨n, e, s'⟩) :
    (Prog.write bs k).run st ans s = ((k n e).run st ans s').after (.write bs n e) := by
  rw [Prog.run, h]

theorem Prog.run_read {st : Stream ε σ} {ans : Q → σ → A × σ} {c : Cond ε} {cap : ℕ}
    {k : Bytes → ε → Prog ε Q A α} {s s' : σ} {got : Bytes} {e : ε}
    (h : st.read c cap s = ⟨got, e, s'⟩) :
    (Prog.read c cap k).run st ans s = ((k got e).run st ans s').after (.read cap got e) := by
  rw [Prog.run, h]

/-- One program after the other. -/
theorem Prog.run_bind {β : Type} (st : Stream ε σ) (ans : Q → σ → A × σ) (p : Prog ε Q A α)
    (f : α → Prog ε Q A β) (s : σ) :
    (p >>= f).run st ans s =
      ⟨((f (p.run st ans s).result).run st ans (p.run st ans s).rest).result,
        (p.run st ans s).trace ++
          ((f (p.run st ans s).result).run st ans (p.run st ans s).rest).trace,
        ((f (p.run st ans s).result).run st ans (p.run st ans s).rest).rest⟩ := by
  induction p generalizing s with
  | pure a => rfl
  | write bs k ih =>
    rw [Prog.write_bind, Prog.run, Prog.run, ih]
    rfl
  | read c cap k ih =>
    rw [Prog.read_bind, Prog.run, Prog.run, ih]
    rfl
  | call q k ih =>
    rw [Prog.call_bind, Prog.run, Prog.run, ih]
    rfl

end Asio
