import Socks.Asio.Buffer

/-!
# Checks that can fail

A buffer that is written from the front holds, behind what the last read delivered, bytes of
earlier messages or of nothing at all. A program should not look at those. To say so, a byte is
inspected together with the count of bytes delivered, and the inspection gives `none` behind it;
assertions give `none` where they do not hold.

Programs with such checks are programs with a second way to end. A program without any is one of
them (`unchecked`), and since `unchecked` respects the structure of programs, a checked program
whose checks all succeed is the program without them.

## Main definitions

* `Asio.inspect`, `Asio.inspectRange` — reading bytes that must have been delivered
* `Asio.CheckedProg`, `Asio.check`, `Asio.unchecked` — programs in which a check can fail
* `Asio.Succeeds` — none does, and what is returned satisfies a predicate

## Main results

* `Asio.inspectRange_of_le` — a range of delivered bytes
* `Asio.unchecked_bind` — `unchecked` respects sequencing
* `Asio.Succeeds.bind` — a check may rest on what an earlier part returned
-/

namespace Asio

/-! ### Inspection -/

/-- `buffer[i]`, when the current read has delivered the first `n` bytes of the buffer: to inspect
a byte behind them fails. -/
def inspect (buffer : Bytes) (n i : ℕ) : Option UInt8 :=
  if i < n then some (byteAt buffer i) else none

/-- `std::memcpy` of `k` bytes from `buffer + i`. -/
def inspectRange (buffer : Bytes) (n i k : ℕ) : Option Bytes :=
  (List.range' i k).mapM (inspect buffer n)

theorem inspect_of_lt {n i : ℕ} (buffer : Bytes) (h : i < n) :
    inspect buffer n i = some (byteAt buffer i) := if_pos h

theorem inspectRange_of_le {n k : ℕ} (buffer : Bytes) : ∀ {i : ℕ}, i + k ≤ n →
    inspectRange buffer n i k = some (List.ofFn fun j : Fin k => byteAt buffer (i + j)) := by
  induction k with
  | zero => intro i _; rfl
  | succ k ih =>
    intro i h
    have hrest := ih (show i + 1 + k ≤ n by omega)
    rw [inspectRange] at hrest
    rw [inspectRange, List.range'_succ, List.mapM_cons, inspect_of_lt buffer (by omega), hrest,
      List.ofFn_succ]
    simp only [Fin.val_succ, Nat.add_assoc, Nat.add_comm 1]
    rfl

/-! ### Programs -/

variable {ε Q A α β : Type} [ErrorLike ε]

/-- Programs in which a check can fail. -/
abbrev CheckedProg (ε : Type) [ErrorLike ε] (Q A α : Type) : Type := OptionT (Prog ε Q A) α

/-- The result of something that can fail. -/
def check (x : Option α) : CheckedProg ε Q A α := OptionT.mk (.pure x)

/-- A program in which no check can fail. -/
def unchecked (p : Prog ε Q A α) : CheckedProg ε Q A α :=
  OptionT.mk (p >>= fun a => .pure (some a))

theorem check_some (a : α) : (check (some a) : CheckedProg ε Q A α) = pure a := rfl

theorem checked_pure_bind (a : α) (f : α → CheckedProg ε Q A β) : (pure a >>= f) = f a := rfl

theorem unchecked_pure (a : α) : (unchecked (.pure a) : CheckedProg ε Q A α) = pure a := rfl

theorem unchecked_ite (b : Prop) [Decidable b] (p q : Prog ε Q A α) :
    unchecked (if b then p else q) = if b then unchecked p else unchecked q := by
  split <;> rfl

/-- **`unchecked` respects sequencing.** -/
theorem unchecked_bind (p : Prog ε Q A α) (f : α → Prog ε Q A β) :
    unchecked (p >>= f) = unchecked p >>= fun a => unchecked (f a) := by
  induction p with
  | pure a => rfl
  | write bs k ih => exact congrArg (Prog.write bs) (funext fun n => funext fun e => ih n e)
  | read c cap k ih => exact congrArg (Prog.read c cap) (funext fun got => funext fun e => ih got e)
  | call q k ih => exact congrArg (Prog.call q) (funext fun a => ih a)

/-! ### Checks that rest on what came before -/

/-- Whatever the program returns satisfies `P`. -/
def Prog.Returns (P : α → Prop) : Prog ε Q A α → Prop
  | .pure a => P a
  | .write _ k => ∀ n e, (k n e).Returns P
  | .read _ _ k => ∀ got e, (k got e).Returns P
  | .call _ k => ∀ a, (k a).Returns P

theorem Prog.returns_true (p : Prog ε Q A α) : p.Returns fun _ => True := by
  induction p with
  | pure a => trivial
  | write bs k ih => exact ih
  | read c cap k ih => exact ih
  | call q k ih => exact ih

theorem Prog.Returns.bind {P : α → Prop} {R : β → Prop} {p : Prog ε Q A α}
    {f : α → Prog ε Q A β} (hp : p.Returns P) (hf : ∀ a, P a → (f a).Returns R) :
    (p >>= f).Returns R := by
  induction p with
  | pure a => exact hf a hp
  | write bs k ih => exact fun n e => ih n e (hp n e)
  | read c cap k ih => exact fun got e => ih got e (hp got e)
  | call q k ih => exact fun a => ih a (hp a)

/-- Two continuations that agree on what a program returns. -/
theorem unchecked_bind_congr {P : α → Prop} {p : Prog ε Q A α} (hp : p.Returns P)
    {f g : α → CheckedProg ε Q A β} (h : ∀ a, P a → f a = g a) :
    (unchecked p >>= f) = unchecked p >>= g := by
  induction p with
  | pure a => exact h a hp
  | write bs k ih =>
    exact congrArg (Prog.write bs) (funext fun n => funext fun e => ih n e (hp n e))
  | read c cap k ih =>
    exact congrArg (Prog.read c cap) (funext fun got => funext fun e => ih got e (hp got e))
  | call q k ih => exact congrArg (Prog.call q) (funext fun a => ih a (hp a))

/-- No check of `p'` fails, without its checks it is `p`, and what it returns satisfies `P`. -/
structure Succeeds (p' : CheckedProg ε Q A α) (p : Prog ε Q A α) (P : α → Prop) : Prop where
  eq_unchecked : p' = unchecked p
  returns : p.Returns P

variable {P : α → Prop} {R : β → Prop} {p : Prog ε Q A α} {p' : CheckedProg ε Q A α}

theorem succeeds_unchecked (h : p.Returns P) : Succeeds (unchecked p) p P := ⟨rfl, h⟩

theorem succeeds_pure {a : α} (h : P a) : Succeeds (pure a) (.pure a : Prog ε Q A α) P := ⟨rfl, h⟩

theorem Succeeds.bind {f' : α → CheckedProg ε Q A β} {f : α → Prog ε Q A β}
    (hp : Succeeds p' p P) (hf : ∀ a, P a → Succeeds (f' a) (f a) R) :
    Succeeds (p' >>= f') (p >>= f) R where
  eq_unchecked := by
    rw [hp.eq_unchecked, unchecked_bind]
    exact unchecked_bind_congr hp.returns fun a ha => (hf a ha).eq_unchecked
  returns := hp.returns.bind fun a ha => (hf a ha).returns

/-- A check that succeeds. -/
theorem Succeeds.check_bind {x : Option β} {b : β} (hx : x = some b)
    {f' : β → CheckedProg ε Q A α} (hf : Succeeds (f' b) p P) :
    Succeeds (check x >>= f') p P := by
  subst hx
  exact hf

theorem Succeeds.ite {b : Prop} [Decidable b] {q : Prog ε Q A α} {q' : CheckedProg ε Q A α}
    (hp : b → Succeeds p' p P) (hq : ¬b → Succeeds q' q P) :
    Succeeds (if b then p' else q') (if b then p else q) P := by
  by_cases h : b
  · rw [if_pos h, if_pos h]
    exact hp h
  · rw [if_neg h, if_neg h]
    exact hq h

end Asio
