import Socks.Asio.Machine
import Socks.Asio.Prog

/-!
# Composed asynchronous operations

`asio::async_compose` turns a function object into an asynchronous operation. The object is
invoked once to start and again each time an operation it started completes, with the error and
the count that operation reported; each invocation either starts one more operation or completes.
Between invocations only the object's own fields survive, which is what makes a stackless
coroutine a state machine.

`Composed` is such an object with the one thing Asio does not check: a rank that drops at each
suspension. A coroutine without a loop has one, its distance from the last suspension point, and
with it the whole operation is a program (`Composed.prog`).

The invocations themselves are the states of a machine, whose events are the completions of the
operations they start (`Composed.machine`).

## Main definitions

* `Asio.Suspend` — how an invocation ends
* `Asio.Composed`, `Asio.Composed.prog` — the function object, and the program it amounts to
* `Asio.Composed.machine` — its invocations

## Main results

* `Asio.Composed.machine_invariant` — what every invocation preserves, all of them find
-/

namespace Asio

variable {ε : Type} [ErrorLike ε] {Q A κ α : Type}

/-- How one invocation of the function object ends: an operation is started, and `next` is the
object to be invoked when it completes, or the whole operation completes. -/
inductive Suspend (ε : Type) [ErrorLike ε] (κ α : Type)
  | asyncWrite (bs : Bytes) (next : κ)
  | asyncRead (c : Cond ε) (cap : ℕ) (next : Bytes → κ)
  | complete (a : α)

/-- A function object with fields `κ` and completion signature `α`. -/
structure Composed (ε : Type) [ErrorLike ε] (κ α : Type) where
  /-- Invoke the object with the error and the count of the operation that completed. -/
  resume : κ → ε → ℕ → Suspend ε κ α
  /-- The number of suspension points still ahead. -/
  rank : κ → ℕ
  rank_write : ∀ {s e n bs s'}, resume s e n = .asyncWrite bs s' → rank s' < rank s
  rank_read : ∀ {s e n c cap next}, resume s e n = .asyncRead c cap next →
    ∀ got, rank (next got) < rank s

/-- Drive the object until it completes. -/
def Composed.prog (op : Composed ε κ α) (s : κ) (e : ε) (n : ℕ) : Prog ε Q A α :=
  match _h : op.resume s e n with
  | .asyncWrite bs s' => .write bs fun n' e' => op.prog s' e' n'
  | .asyncRead c cap next => .read c cap fun got e' => op.prog (next got) e' got.length
  | .complete a => .pure a
termination_by op.rank s
decreasing_by
  · exact op.rank_write _h
  · exact op.rank_read _h got

namespace Composed

variable {op : Composed ε κ α} {s : κ} {e : ε} {n : ℕ}

theorem prog_of_asyncWrite {bs : Bytes} {s' : κ} (h : op.resume s e n = .asyncWrite bs s') :
    (op.prog s e n : Prog ε Q A α) = .write bs fun n' e' => op.prog s' e' n' := by
  rw [prog]
  split <;> rename_i heq <;> rw [h] at heq <;> cases heq
  rfl

theorem prog_of_asyncRead {c : Cond ε} {cap : ℕ} {next : Bytes → κ}
    (h : op.resume s e n = .asyncRead c cap next) :
    (op.prog s e n : Prog ε Q A α)
      = .read c cap fun got e' => op.prog (next got) e' got.length := by
  rw [prog]
  split <;> rename_i heq <;> rw [h] at heq <;> cases heq
  rfl

theorem prog_of_complete {a : α} (h : op.resume s e n = .complete a) :
    (op.prog s e n : Prog ε Q A α) = .pure a := by
  rw [prog]
  split <;> rename_i heq <;> rw [h] at heq <;> cases heq
  rfl

end Composed

/-! ### The invocations -/

/-- One invocation of the function object: its fields, and what it is invoked with. -/
structure Invocation (ε κ : Type) where
  self : κ
  ec : ε
  n : ℕ

/-- How an operation completes that an invocation has started. -/
inductive OpEvent (ε : Type)
  | written (e : ε) (n : ℕ)
  | received (e : ε) (got : Bytes)

/-- The invocations, each brought about by the completion of the operation that the one before has
started. A read receives no more than its buffer takes. -/
def Composed.machine (op : Composed ε κ α) : Machine (Invocation ε κ) (OpEvent ε) where
  step i ev :=
    match op.resume i.self i.ec i.n, ev with
    | .asyncWrite _ s', .written e n => some ⟨s', e, n⟩
    | .asyncRead _ cap next, .received e got =>
      if got.length ≤ cap then some ⟨next got, e, got.length⟩ else none
    | _, _ => none

/-- **What no invocation breaks, every invocation finds.** -/
theorem Composed.machine_invariant {op : Composed ε κ α} {P : κ → Prop}
    (hwrite : ∀ {s e n bs s'}, P s → op.resume s e n = .asyncWrite bs s' → P s')
    (hread : ∀ {s e n c cap next}, P s → op.resume s e n = .asyncRead c cap next →
      ∀ got, got.length ≤ cap → P (next got))
    {i j : Invocation ε κ} {evs : List (OpEvent ε)} (hi : P i.self)
    (hrun : op.machine.run i evs = some j) : P j.self := by
  refine Machine.invariant (P := fun i => P i.self) (fun r ev t hr hstep => ?_) hi hrun
  simp only [machine] at hstep
  cases hres : op.resume r.self r.ec r.n with
  | asyncWrite bs s' =>
    cases ev with
    | written e n =>
      rw [hres] at hstep
      cases hstep
      exact hwrite hr hres
    | received e got =>
      rw [hres] at hstep
      cases hstep
  | asyncRead c cap next =>
    cases ev with
    | written e n =>
      rw [hres] at hstep
      cases hstep
    | received e got =>
      rw [hres] at hstep
      obtain ⟨hgot, hstep⟩ := Option.ite_none_right_eq_some.mp hstep
      cases hstep
      exact hread hr hres got hgot
  | complete a =>
    rw [hres] at hstep
    cases hstep

end Asio
