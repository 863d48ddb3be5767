import Socks.Asio.Stream

/-!
# Monitors

A property of a run that depends on the order of its steps is what a monitor checks: it reads the
trace one step after the other, in a state of its own, may refuse a step, and at the end may
refuse the result.

Whether every run of a program passes is a question about the program's nodes, in the order in
which a run meets them: `Prog.Meets` asks it, without a stream, for every answer a stream could
give. Of those answers it may be used what a composed read guarantees, and of answers to
questions whatever is assumed of who answers them (`R`).

## Main definitions

* `Asio.Monitor`, `Asio.Monitor.Passes` — monitors, and the traces that pass one
* `Asio.Monitor.Keeps` — a step that a monitor does not mind
* `Asio.Prog.Meets` — every run of the program passes

## Main results

* `Asio.Prog.Meets.passes` — from the program to its runs
-/

namespace Asio

variable {ε Q A α σ M : Type} [ErrorLike ε]

/-- A monitor with state `M` for runs that return an `α`. -/
structure Monitor (ε Q A α M : Type) where
  /-- The step is allowed in this state. -/
  Allows : M → Step ε Q A → Prop
  /-- The state after it. -/
  next : M → Step ε Q A → M
  /-- The run may end with this result in this state. -/
  Accepts : M → α → Prop

/-- The monitor, in state `m`, has no objection to the steps and the result. -/
def Monitor.Passes (mon : Monitor ε Q A α M) : M → List (Step ε Q A) → α → Prop
  | m, [], a => mon.Accepts m a
  | m, x :: t, a => mon.Allows m x ∧ mon.Passes (mon.next m x) t a

/-- Every run of the program passes the monitor in state `m`, if questions are answered as `R`
says. -/
def Prog.Meets (mon : Monitor ε Q A α M) (R : Q → A → Prop) : M → Prog ε Q A α → Prop
  | m, .pure a => mon.Accepts m a
  | m, .write bs k => ∀ n e, mon.Allows m (.write bs n e) ∧
      (k n e).Meets mon R (mon.next m (.write bs n e))
  | m, .read c cap k => ∀ got e, got.length ≤ cap → (cap ≤ got.length ∨ c.ask got e = 0) →
      mon.Allows m (.read cap got e) ∧ (k got e).Meets mon R (mon.next m (.read cap got e))
  | m, .call q k => ∀ a, R q a → mon.Allows m (.call q a) ∧
      (k a).Meets mon R (mon.next m (.call q a))

variable {mon : Monitor ε Q A α M} {R : Q → A → Prop}

/-- In every state in `I`, the monitor allows the step, and stays in `I`. -/
def Monitor.Keeps (mon : Monitor ε Q A α M) (I : M → Prop) (x : Step ε Q A) : Prop :=
  ∀ m, I m → mon.Allows m x ∧ I (mon.next m x)

/-- **From the program to its runs.** -/
theorem Prog.Meets.passes {p : Prog ε Q A α} {m : M} (h : p.Meets mon R m) (st : Stream ε σ)
    {ans : Q → σ → A × σ} (hans : ∀ q s, R q (ans q s).1) (s : σ) :
    mon.Passes m (p.run st ans s).trace (p.run st ans s).result := by
  induction p generalizing m s with
  | pure a => exact h
  | write bs k ih =>
    obtain ⟨hallows, hrest⟩ := h (st.write bs s).n (st.write bs s).ec
    exact ⟨hallows, ih _ _ hrest _⟩
  | read c cap k ih =>
    obtain ⟨hallows, hrest⟩ := h (st.read c cap s).got (st.read c cap s).ec
      (st.read_length_le c cap s) (st.read_complete c cap s)
    exact ⟨hallows, ih _ _ hrest _⟩
  | call q k ih =>
    obtain ⟨hallows, hrest⟩ := h (ans q s).1 (hans q s)
    exact ⟨hallows, ih _ hrest _⟩

end Asio
