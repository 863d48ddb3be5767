import Socks.Asio.Stream
import Socks.Asio.Compose

/-!
# Inside a composed read

`Stream.readLoop` says what a composed read delivers. Here is what it calls on the way: the
completion condition before every `read_some`, and the `read_some` if the condition asks for
more. The turns of the loop are the list of these calls, by the same recursion as the loop
itself.

A run of a program makes several composed reads, each with the condition and the capacity that
its program node has. So a fact about every turn of every read of a run is a fact about the nodes
of the program (`Prog.ReadsIn`) and one about the loop.

## Main definitions

* `Asio.Turn`, `Asio.Stream.turns` — the turns of the loop of a composed read
* `Asio.ComposedRead`, `Asio.Prog.composedReads` — the composed reads of a run
* `Asio.Prog.ReadsIn` — what conditions and capacities the reads of a program have

## Main results

* `Asio.Stream.turns_length_lt` — the condition is only called while the buffer is not full
* `Asio.Stream.answered_turns_le` — how many `read_some` there are
* `Asio.Stream.readLoop_of_turn`, `Asio.Stream.eq_or_exists_turn` — the last turn
* `Asio.Prog.ReadsIn.composedReads` — from the nodes of a program to the reads of a run
-/

namespace Asio

variable {ε Q A α σ : Type} [ErrorLike ε]

/-! ### The turns of a read -/

/-- One turn of the loop: the bytes received so far and the last error, with which the condition
is called, and what `read_some` reports if it is called. -/
structure Turn (ε : Type) where
  got : Bytes
  e : ε
  answer : Option (Bytes × ε)

/-- A `read_some` is called in this turn. -/
def Turn.answered (t : Turn ε) : Bool := t.answer.isSome

namespace Stream

variable (st : Stream ε σ)

/-- The turns of the loop of `asio::read`, from where `got` has been received with last error
`e`. -/
def turns (c : Cond ε) (cap : ℕ) (got : Bytes) (e : ε) (s : σ) : List (Turn ε) :=
  if _hcap : got.length < cap then
    if _hask : 0 < c.ask got e then
      let r := st.readSome (min (c.ask got e) (cap - got.length)) s
      ⟨got, e, some (r.1.bytes, r.1.ec)⟩ :: turns c cap (got ++ r.1.bytes) r.1.ec r.2
    else [⟨got, e, none⟩]
  else []
termination_by 2 * (cap - got.length) + if failed e then 0 else 1
decreasing_by
  have hcur := c.not_failed _hask
  by_cases hb : (st.readSome (min (c.ask got e) (cap - got.length)) s).1.bytes = []
  · have hf := (st.readSome (min (c.ask got e) (cap - got.length)) s).1.progress (by omega) hb
    simp [hb, hf, hcur]
  · have := List.length_pos_iff.mpr hb
    simp only [hcur, List.length_append]
    split <;> simp <;> omega

variable {c : Cond ε} {cap : ℕ} {got : Bytes} {e : ε} {s : σ}

theorem turns_of_failed (h : failed e = true) :
    ∀ t ∈ st.turns c cap got e s, t.answer = none := by
  intro t ht
  have hask : ¬0 < c.ask got e := by rw [c.ask_of_failed got e h]; exact Nat.lt_irrefl 0
  rw [turns] at ht
  split_ifs at ht with hcap
  · rw [List.mem_singleton.mp ht]
  · cases ht

/-- What the turns deliver is what the read delivers. -/
theorem readLoop_got_eq : (st.readLoop c cap got e s).got
    = got ++ ((st.turns c cap got e s).filterMap fun t => t.answer.map Prod.fst).flatten := by
  fun_induction st.turns c cap got e s with
  | case1 got e s hcap hask r ih =>
    rw [readLoop_of_ask st hcap hask]
    simp only [List.filterMap_cons, Option.map_some, List.flatten_cons, ← List.append_assoc]
    exact ih
  | case2 got e s hcap hask =>
    rw [readLoop_of_stop st (Or.inr (Nat.eq_zero_of_not_pos hask))]
    simp
  | case3 got e s hcap =>
    rw [readLoop_of_stop st (Or.inl (Nat.le_of_not_lt hcap))]
    simp

/-- **The condition is only called while there is room in the buffer.** -/
theorem turns_length_lt : ∀ t ∈ st.turns c cap got e s, t.got.length < cap := by
  fun_induction st.turns c cap got e s with
  | case1 got e s hcap hask r ih =>
    intro t ht
    rcases List.mem_cons.mp ht with rfl | ht
    · exact hcap
    · exact ih t ht
  | case2 got e s hcap hask =>
    intro t ht
    rw [List.mem_singleton.mp ht]
    exact hcap
  | case3 got e s hcap =>
    intro t ht
    cases ht

/-- **Each `read_some` delivers a byte or reports a failure.** -/
theorem turns_progress : ∀ t ∈ st.turns c cap got e s, ∀ bs ec, t.answer = some (bs, ec) →
    bs ≠ [] ∨ failed ec = true := by
  fun_induction st.turns c cap got e s with
  | case1 got e s hcap hask r ih =>
    intro t ht bs ec hanswer
    rcases List.mem_cons.mp ht with rfl | ht
    · obtain ⟨rfl, rfl⟩ := Prod.mk.inj (Option.some.inj hanswer)
      by_cases hb : r.1.bytes = []
      · exact Or.inr (r.1.progress (by omega) hb)
      · exact Or.inl hb
    · exact ih t ht bs ec hanswer
  | case2 got e s hcap hask =>
    intro t ht bs ec hanswer
    rw [List.mem_singleton.mp ht] at hanswer
    cases hanswer
  | case3 got e s hcap =>
    intro t ht
    cases ht

/-- **There are at most as many `read_some` as there is room for bytes.** All but the last
deliver one. -/
theorem answered_turns_le :
    ((st.turns c cap got e s).filter Turn.answered).length ≤ cap - got.length := by
  fun_induction st.turns c cap got e s with
  | case1 got e s hcap hask r ih =>
    rw [List.filter_cons_of_pos rfl, List.length_cons]
    by_cases hb : r.1.bytes = []
    · have hf : failed r.1.ec = true := r.1.progress (by omega) hb
      have hnone : (st.turns c cap (got ++ r.1.bytes) r.1.ec r.2).filter Turn.answered = [] := by
        refine List.filter_eq_nil_iff.mpr fun t ht => ?_
        rw [Turn.answered, st.turns_of_failed hf t ht]
        exact Bool.false_ne_true
      rw [hnone, List.length_nil]
      omega
    · have hpos := List.length_pos_iff.mpr hb
      rw [List.length_append] at ih
      omega
  | case2 got e s hcap hask => exact Nat.zero_le _
  | case3 got e s hcap => exact Nat.zero_le _

/-- A turn after which the loop has no reason to go on is its last. -/
theorem readLoop_of_turn : ∀ t ∈ st.turns c cap got e s, ∀ bs ec, t.answer = some (bs, ec) →
    cap ≤ (t.got ++ bs).length ∨ c.ask (t.got ++ bs) ec = 0 →
    (st.readLoop c cap got e s).got = t.got ++ bs ∧ (st.readLoop c cap got e s).ec = ec := by
  fun_induction st.turns c cap got e s with
  | case1 got e s hcap hask r ih =>
    intro t ht bs ec hanswer hstop
    rw [readLoop_of_ask st hcap hask]
    rcases List.mem_cons.mp ht with rfl | ht
    · obtain ⟨rfl, rfl⟩ := Prod.mk.inj (Option.some.inj hanswer)
      rw [readLoop_of_stop st hstop]
      exact ⟨rfl, rfl⟩
    · exact ih t ht bs ec hanswer hstop
  | case2 got e s hcap hask =>
    intro t ht bs ec hanswer
    rw [List.mem_singleton.mp ht] at hanswer
    cases hanswer
  | case3 got e s hcap =>
    intro t ht
    cases ht

/-- A loop that calls `read_some` at all ends with the answer of one of its turns. -/
theorem eq_or_exists_turn : st.readLoop c cap got e s = ⟨got, e, s⟩ ∨
    ∃ t ∈ st.turns c cap got e s, ∃ bs,
      t.answer = some (bs, (st.readLoop c cap got e s).ec) ∧
      t.got ++ bs = (st.readLoop c cap got e s).got := by
  fun_induction st.turns c cap got e s with
  | case1 got e s hcap hask r ih =>
    right
    rw [readLoop_of_ask st hcap hask]
    rcases ih with hlast | ⟨t, ht, bs, hanswer, hgot⟩
    · rw [hlast]
      exact ⟨_, List.mem_cons_self, _, rfl, rfl⟩
    · exact ⟨t, List.mem_cons_of_mem _ ht, bs, hanswer, hgot⟩
  | case2 got e s hcap hask =>
    exact Or.inl (readLoop_of_stop st (Or.inr (Nat.eq_zero_of_not_pos hask)))
  | case3 got e s hcap =>
    exact Or.inl (readLoop_of_stop st (Or.inl (Nat.le_of_not_lt hcap)))

end Stream

/-! ### The reads of a run -/

/-- A composed read that was made: its condition and capacity, its turns, and how it ended. -/
structure ComposedRead (ε : Type) [ErrorLike ε] where
  cond : Cond ε
  cap : ℕ
  turns : List (Turn ε)
  got : Bytes
  ec : ε

/-- The composed read of a stream in state `s`. -/
def Stream.composedRead (st : Stream ε σ) (c : Cond ε) (cap : ℕ) (s : σ) : ComposedRead ε :=
  ⟨c, cap, st.turns c cap [] ok s, (st.read c cap s).got, (st.read c cap s).ec⟩

namespace Prog

/-- The composed reads of a run, in order. -/
def composedReads (st : Stream ε σ) (ans : Q → σ → A × σ) : Prog ε Q A α → σ →
    List (ComposedRead ε)
  | .pure _, _ => []
  | .write bs k, s =>
    let w := st.write bs s
    (k w.n w.ec).composedReads st ans w.rest
  | .read c cap k, s =>
    let r := st.read c cap s
    st.composedRead c cap s :: (k r.got r.ec).composedReads st ans r.rest
  | .call q k, s =>
    let a := ans q s
    (k a.1).composedReads st ans a.2

/-- Every read of the program has a condition and a capacity that satisfy `P`. -/
def ReadsIn (P : Cond ε → ℕ → Prop) : Prog ε Q A α → Prop
  | .pure _ => True
  | .write _ k => ∀ n e, (k n e).ReadsIn P
  | .read c cap k => P c cap ∧ ∀ got e, (k got e).ReadsIn P
  | .call _ k => ∀ a, (k a).ReadsIn P

variable {P : Cond ε → ℕ → Prop} {β : Type}

theorem ReadsIn.bind {p : Prog ε Q A α} {f : α → Prog ε Q A β} (hp : p.ReadsIn P)
    (hf : ∀ a, (f a).ReadsIn P) : (p >>= f).ReadsIn P := by
  induction p with
  | pure a => exact hf a
  | write bs k ih => exact fun n e => ih n e (hp n e)
  | read c cap k ih => exact ⟨hp.1, fun got e => ih got e (hp.2 got e)⟩
  | call q k ih => exact fun a => ih a (hp a)

theorem ReadsIn.ite {b : Prop} [Decidable b] {p q : Prog ε Q A α} (hp : p.ReadsIn P)
    (hq : q.ReadsIn P) : (if b then p else q).ReadsIn P := by
  split
  · exact hp
  · exact hq

/-- **From the nodes of a program to the reads of its runs.** -/
theorem ReadsIn.composedReads {p : Prog ε Q A α} (h : p.ReadsIn P) (st : Stream ε σ)
    (ans : Q → σ → A × σ) (s : σ) :
    ∀ x ∈ p.composedReads st ans s, ∃ c cap s', P c cap ∧ x = st.composedRead c cap s' := by
  induction p generalizing s with
  | pure a =>
    intro x hx
    cases hx
  | write bs k ih => exact ih _ _ (h _ _) _
  | read c cap k ih =>
    intro x hx
    rcases List.mem_cons.mp hx with rfl | hx
    · exact ⟨c, cap, s, h.1, rfl⟩
    · exact ih _ _ (h.2 _ _) _ x hx
  | call q k ih => exact ih _ (h _) _

end Prog

/-- The reads of a composed operation are those its object starts. -/
theorem Composed.readsIn {κ : Type} {op : Composed ε κ α} {P : Cond ε → ℕ → Prop}
    (h : ∀ s e n c cap next, op.resume s e n = .asyncRead c cap next → P c cap) (s : κ) (e : ε)
    (n : ℕ) : (op.prog s e n : Prog ε Q A α).ReadsIn P := by
  induction hrank : op.rank s using Nat.strongRecOn generalizing s e n with
  | ind rank ih =>
    cases hres : op.resume s e n with
    | asyncWrite bs s' =>
      rw [prog_of_asyncWrite hres]
      exact fun n' e' => ih _ (hrank ▸ op.rank_write hres) _ _ _ rfl
    | asyncRead c cap next =>
      rw [prog_of_asyncRead hres]
      exact ⟨h _ _ _ _ _ _ hres, fun got e' => ih _ (hrank ▸ op.rank_read hres got) _ _ _ rfl⟩
    | complete a =>
      rw [prog_of_complete hres]
      trivial

end Asio
