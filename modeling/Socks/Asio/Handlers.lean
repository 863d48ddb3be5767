import Socks.Asio.Machine
import Socks.Asio.Monitor

/-!
# Programs as machines

Against a stream, a program runs to its end in one go. In a process that has several of them under
way, each is at one of its operations, and its handler runs when that operation completes: the
program is a machine, and its events are the steps of a trace.

Some questions are answered at once, without an operation: a line is printed. A handler goes on
after them, so they are no events; `Prog.settle` takes a program through them, to its next
operation.

What a monitor has been proved to make of every run of a program holds while the run is still
under way, too, and in whatever way it is interleaved with others: `Watched` is an invariant.

## Main definitions

* `Asio.Prog.resume` — what a program makes of what its operation reports
* `Asio.Prog.settle` — up to the next operation
* `Asio.handlers` — a program as a machine, `Asio.Running` its states
* `Asio.Monitor.Follows` — a monitor allows a trace that may not be finished

## Main results

* `Asio.Watched.step` — a monitor watches a program on its way
* `Asio.completions_step` — the events of the machine, read off the trace
* `Asio.run_handlers` — against a stream, the machine does what the program does
-/

namespace Asio

variable {ε Q A α M σ : Type}

/-! ### Traces on the way -/

/-- The monitor allows the steps, one after the other, and they take it from one state to
another. -/
inductive Monitor.Follows (mon : Monitor ε Q A α M) : M → List (Step ε Q A) → M → Prop
  | nil {m} : mon.Follows m [] m
  | cons {m x t m'} (h : mon.Allows m x) (rest : mon.Follows (mon.next m x) t m') :
      mon.Follows m (x :: t) m'

namespace Monitor

variable {mon : Monitor ε Q A α M} {m m' m'' : M} {t t' : List (Step ε Q A)} {x : Step ε Q A}

theorem Follows.append (h : mon.Follows m t m') (h' : mon.Follows m' t' m'') :
    mon.Follows m (t ++ t') m'' := by
  induction h with
  | nil => exact h'
  | cons hallows _ ih => exact .cons hallows (ih h')

/-- **What holds of the empty trace, and is kept by every step that is allowed, holds of every
trace that is followed.** -/
theorem Follows.invariant {P : List (Step ε Q A) → M → Prop} (h : mon.Follows m t m')
    (hnil : P [] m) (hsnoc : ∀ t m x, P t m → mon.Allows m x → P (t ++ [x]) (mon.next m x)) :
    P t m' := by
  -- The steps done so far go with the state, so that the induction can be on those still to come.
  suffices hfrom : ∀ done, P done m → P (done ++ t) m' from hfrom [] hnil
  clear hnil
  induction h with
  | nil =>
    intro done hdone
    rwa [List.append_nil]
  | @cons m x t m' hallows _ ih =>
    intro done hdone
    rw [List.append_cons]
    exact ih (done ++ [x]) (hsnoc done m x hdone hallows)

end Monitor

variable [ErrorLike ε]

/-! ### Completions -/

namespace Prog

variable [DecidableEq Q]

/-- What a program makes of what its operation reports, if that is a report of this operation. -/
def resume : Prog ε Q A α → Step ε Q A → Option (Prog ε Q A α)
  | .write bs k, .write bs' n e =>
    if bs' = bs ∧ n ≤ bs.length ∧ (failed e = false → n = bs.length) then some (k n e) else none
  | .read c cap k, .read cap' got e =>
    if cap' = cap ∧ got.length ≤ cap ∧ (cap ≤ got.length ∨ c.ask got e = 0) then some (k got e)
    else none
  | .call q k, .call q' a => if q' = q then some (k a) else none
  | _, _ => none

theorem resume_write {bs : Bytes} {k : ℕ → ε → Prog ε Q A α} {n : ℕ} {e : ε} (hn : n ≤ bs.length)
    (he : failed e = false → n = bs.length) :
    (Prog.write bs k).resume (.write bs n e) = some (k n e) := if_pos ⟨rfl, hn, he⟩

theorem resume_read {c : Cond ε} {cap : ℕ} {k : Bytes → ε → Prog ε Q A α} {got : Bytes} {e : ε}
    (hlen : got.length ≤ cap) (hends : cap ≤ got.length ∨ c.ask got e = 0) :
    (Prog.read c cap k).resume (.read cap got e) = some (k got e) := if_pos ⟨rfl, hlen, hends⟩

theorem resume_call {q : Q} {k : A → Prog ε Q A α} {a : A} :
    (Prog.call q k).resume (.call q a) = some (k a) := if_pos rfl

/-- What there is to resume. -/
theorem resume_cases {p p' : Prog ε Q A α} {x : Step ε Q A} (h : p.resume x = some p') :
    (∃ bs k n e, p = .write bs k ∧ x = .write bs n e ∧ p' = k n e ∧ n ≤ bs.length ∧
      (failed e = false → n = bs.length)) ∨
    (∃ c cap k got e, p = .read c cap k ∧ x = .read cap got e ∧ p' = k got e ∧
      got.length ≤ cap ∧ (cap ≤ got.length ∨ c.ask got e = 0)) ∨
    (∃ q k a, p = .call q k ∧ x = .call q a ∧ p' = k a) := by
  cases p with
  | pure a => cases x <;> cases h
  | write bs k =>
    cases x with
    | write bs' n e =>
      obtain ⟨⟨rfl, hn, he⟩, hp'⟩ := Option.ite_none_right_eq_some.mp h
      exact Or.inl ⟨_, k, n, e, rfl, rfl, (Option.some.inj hp').symm, hn, he⟩
    | read cap got e => cases h
    | call q a => cases h
  | read c cap k =>
    cases x with
    | write bs n e => cases h
    | read cap' got e =>
      obtain ⟨⟨rfl, hlen, hends⟩, hp'⟩ := Option.ite_none_right_eq_some.mp h
      exact Or.inr (Or.inl ⟨c, _, k, got, e, rfl, rfl, (Option.some.inj hp').symm, hlen, hends⟩)
    | call q a => cases h
  | call q k =>
    cases x with
    | write bs n e => cases h
    | read cap got e => cases h
    | call q' a =>
      obtain ⟨rfl, hp'⟩ := Option.ite_none_right_eq_some.mp h
      exact Or.inr (Or.inr ⟨_, k, a, rfl, rfl, (Option.some.inj hp').symm⟩)

end Prog

/-- The program goes on through the questions that are answered at once, up to its next operation:
the steps it takes, and the program there. -/
def Prog.settle (now : Q → Option A) : Prog ε Q A α → List (Step ε Q A) × Prog ε Q A α
  | .call q k =>
    match now q with
    | some a => (.call q a :: ((k a).settle now).1, ((k a).settle now).2)
    | none => ([], .call q k)
  | .pure a => ([], .pure a)
  | .write bs k => ([], .write bs k)
  | .read c cap k => ([], .read c cap k)

/-- There is nothing left to settle. -/
theorem Prog.settle_settle (now : Q → Option A) (p : Prog ε Q A α) :
    ((p.settle now).2.settle now).2 = (p.settle now).2 := by
  induction p with
  | pure a => rfl
  | write bs k => rfl
  | read c cap k => rfl
  | call q k ih =>
    cases hq : now q with
    | none => simp only [settle, hq]
    | some a =>
      simp only [settle, hq]
      exact ih a

/-- It does not stop at a question that is answered at once. -/
theorem Prog.now_eq_none_of_settle {now : Q → Option A} {p : Prog ε Q A α} {q : Q}
    {k : A → Prog ε Q A α} (h : (p.settle now).2 = .call q k) : now q = none := by
  induction p with
  | pure a => cases h
  | write bs k => cases h
  | read c cap k => cases h
  | call q' k' ih =>
    cases hq' : now q' with
    | none =>
      simp only [settle, hq'] at h
      cases h
      exact hq'
    | some a =>
      simp only [settle, hq'] at h
      exact ih a h

/-- A program on its way: the steps it has taken, and what is left of it. -/
structure Running (ε Q A α : Type) [ErrorLike ε] where
  trace : List (Step ε Q A)
  prog : Prog ε Q A α

/-- The program is called, and goes on up to its next operation. -/
def Running.goOn (now : Q → Option A) (trace : List (Step ε Q A)) (p : Prog ε Q A α) :
    Running ε Q A α := ⟨trace ++ (p.settle now).1, (p.settle now).2⟩

/-- A program as a machine: an operation completes, and its handler is called. -/
def handlers [DecidableEq Q] (now : Q → Option A) :
    Machine (Running ε Q A α) (Step ε Q A) where
  step r x := (r.prog.resume x).map fun p => .goOn now (r.trace ++ [x]) p

/-! ### Monitors -/

section Watched

variable {mon : Monitor ε Q A α M} {R : Q → A → Prop} {now : Q → Option A} {m m₀ : M}

/-- The monitor has followed the steps, and will have no objection to what is left. -/
def Watched (mon : Monitor ε Q A α M) (R : Q → A → Prop) (m₀ : M) (r : Running ε Q A α) : Prop :=
  ∃ m, mon.Follows m₀ r.trace m ∧ r.prog.Meets mon R m

/-- **From the program to what it has done on its way to the next operation.** -/
theorem Prog.Meets.settle {p : Prog ε Q A α} (h : p.Meets mon R m)
    (hnow : ∀ q a, now q = some a → R q a) :
    ∃ m', mon.Follows m (p.settle now).1 m' ∧ (p.settle now).2.Meets mon R m' := by
  induction p generalizing m with
  | pure a => exact ⟨m, .nil, h⟩
  | write bs k => exact ⟨m, .nil, h⟩
  | read c cap k => exact ⟨m, .nil, h⟩
  | call q k ih =>
    rw [Prog.settle]
    split
    · rename_i a ha
      obtain ⟨hallows, hrest⟩ := h a (hnow q a ha)
      obtain ⟨m', hfollows, hmeets⟩ := ih a hrest
      exact ⟨m', .cons hallows hfollows, hmeets⟩
    · exact ⟨m, .nil, h⟩

theorem watched_goOn {trace : List (Step ε Q A)} {p : Prog ε Q A α} (ht : mon.Follows m₀ trace m)
    (h : p.Meets mon R m) (hnow : ∀ q a, now q = some a → R q a) :
    Watched mon R m₀ (.goOn now trace p) := by
  obtain ⟨m', hfollows, hmeets⟩ := h.settle hnow
  exact ⟨m', ht.append hfollows, hmeets⟩

variable [DecidableEq Q] {r r' : Running ε Q A α} {x : Step ε Q A} {evs : List (Step ε Q A)}

/-- What an operation reports is allowed, and the rest goes on being watched. -/
theorem Prog.Meets.resume {p p' : Prog ε Q A α} (h : p.Meets mon R m)
    (hx : ∀ q a, x = .call q a → R q a) (hp' : p.resume x = some p') :
    mon.Allows m x ∧ p'.Meets mon R (mon.next m x) := by
  obtain ⟨bs, k, n, e, rfl, rfl, rfl, -, -⟩ | ⟨c, cap, k, got, e, rfl, rfl, rfl, hlen, hends⟩ |
    ⟨q, k, a, rfl, rfl, rfl⟩ := Prog.resume_cases hp'
  · exact h n e
  · exact h got e hlen hends
  · exact h a (hx q a rfl)

/-- One completion. -/
theorem Watched.step (h : Watched mon R m₀ r) (hnow : ∀ q a, now q = some a → R q a)
    (hx : ∀ q a, x = .call q a → R q a) (hstep : (handlers now).step r x = some r') :
    Watched mon R m₀ r' := by
  obtain ⟨m, hfollows, hmeets⟩ := h
  obtain ⟨p, hp, rfl⟩ := Option.map_eq_some_iff.mp hstep
  obtain ⟨hallows, hrest⟩ := hmeets.resume hx hp
  exact watched_goOn (hfollows.append (.cons hallows .nil)) hrest hnow

end Watched

/-! ### What completes -/

variable {now : Q → Option A}

/-- The steps of a trace that are completions. -/
def completions (now : Q → Option A) : List (Step ε Q A) → List (Step ε Q A)
  | [] => []
  | .write bs n e :: t => .write bs n e :: completions now t
  | .read cap got e :: t => .read cap got e :: completions now t
  | .call q a :: t => if (now q).isSome then completions now t else .call q a :: completions now t

omit [ErrorLike ε] in
theorem completions_append (t t' : List (Step ε Q A)) :
    completions now (t ++ t') = completions now t ++ completions now t' := by
  induction t with
  | nil => rfl
  | cons x t ih =>
    cases x with
    | write bs n e => exact congrArg _ ih
    | read cap got e => exact congrArg _ ih
    | call q a =>
      rw [List.cons_append, completions, completions, ih]
      split_ifs <;> rfl

omit [ErrorLike ε] in
theorem mem_of_mem_completions {x : Step ε Q A} {t : List (Step ε Q A)}
    (h : x ∈ completions now t) : x ∈ t := by
  induction t with
  | nil => exact h
  | cons y t ih =>
    cases y with
    | write bs n e => exact (List.mem_cons.mp h).elim (· ▸ List.mem_cons_self) (.tail _ <| ih ·)
    | read cap got e => exact (List.mem_cons.mp h).elim (· ▸ List.mem_cons_self) (.tail _ <| ih ·)
    | call q a =>
      rw [completions] at h
      split_ifs at h
      · exact .tail _ (ih h)
      · exact (List.mem_cons.mp h).elim (· ▸ List.mem_cons_self) (.tail _ <| ih ·)

theorem completions_settle (p : Prog ε Q A α) : completions now (p.settle now).1 = [] := by
  induction p with
  | pure a => rfl
  | write bs k => rfl
  | read c cap k => rfl
  | call q k ih =>
    cases hq : now q with
    | none => simp only [Prog.settle, hq, completions]
    | some a => simp only [Prog.settle, hq, completions, Option.isSome_some, if_true, ih]

variable [DecidableEq Q]

/-- **The completions of a program's trace are the events of the machine.** -/
theorem completions_step {r r' : Running ε Q A α} {x : Step ε Q A}
    (hsettled : (r.prog.settle now).2 = r.prog) (hstep : (handlers now).step r x = some r') :
    completions now r'.trace = completions now r.trace ++ [x] := by
  obtain ⟨p, hp, rfl⟩ := Option.map_eq_some_iff.mp hstep
  have hx : completions now [x] = [x] := by
    obtain ⟨bs, k, n, e, -, rfl, -⟩ | ⟨c, cap, k, got, e, -, rfl, -⟩ | ⟨q, k, a, hcall, rfl, -⟩ :=
      Prog.resume_cases hp
    · rfl
    · rfl
    · have hq : now q = none := Prog.now_eq_none_of_settle (hsettled.trans hcall)
      simp only [completions, hq, Option.isSome_none, Bool.false_eq_true, if_false]
  rw [Running.goOn, completions_append, completions_append, completions_settle, List.append_nil,
    hx]

/-- **Against a stream, the machine does what the program does.** -/
theorem run_handlers (st : Stream ε σ) {ans : Q → σ → A × σ}
    (hans : ∀ q a, now q = some a → ∀ s, (ans q s).1 = a) (p : Prog ε Q A α) (s : σ)
    (done : List (Step ε Q A)) :
    (handlers now).run (.goOn now done p) (completions now (p.run st ans s).trace)
      = some ⟨done ++ (p.run st ans s).trace, .pure (p.run st ans s).result⟩ := by
  induction p generalizing s done with
  | pure a => simp [Running.goOn, Prog.settle, Prog.run, completions]
  | write bs k ih =>
    rw [Prog.run, Run.after_trace, Run.after_result, completions, List.append_cons,
      Machine.run_cons, ← ih _ _ (st.write bs s).rest]
    simp [handlers, Running.goOn, Prog.settle, Prog.resume_write (st.write_le_length bs s)
      (st.write_complete bs s)]
  | read c cap k ih =>
    rw [Prog.run, Run.after_trace, Run.after_result, completions, List.append_cons,
      Machine.run_cons, ← ih _ _ (st.read c cap s).rest]
    simp [handlers, Running.goOn, Prog.settle, Prog.resume_read (st.read_length_le c cap s)
      (st.read_complete c cap s)]
  | call q k ih =>
    rw [Prog.run, Run.after_trace, Run.after_result, completions, List.append_cons,
      ← ih _ (ans q s).2]
    cases hq : now q with
    | none => simp [Machine.run_cons, handlers, Running.goOn, Prog.settle, hq, Prog.resume_call]
    | some a => simp [Running.goOn, Prog.settle, hq, hans q a hq s]

end Asio
