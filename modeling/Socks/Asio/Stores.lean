import Socks.Asio.Buffer
import Mathlib.Control.Monad.Writer

/-!
# Routines that only store

An encoder is given a buffer and a size, asserts that the size is enough, stores bytes at indices
it computes, and returns how many. That it stores to every index below what it returns and to no
other cannot be seen from the buffer it leaves: a list ignores a store outside it, and a store of
the byte that was there already changes nothing. So the stores are recorded.

A `Storing` is such a routine: what it returns, with its stores in order, or nothing where an
assertion fails. It has no way to look at the buffer. `Storing.on` performs the stores on a given
buffer, and fails when one of them misses it.

`Storing.Fills` is the statement that a routine stores a given message byte after byte and does
nothing else, and there is one rule for each statement a routine can consist of. From there
`WritesExactly` says what an encoder promises its caller.

## Main definitions

* `Asio.Storing` — the routines, with `boostAssert`, `store`, `storeBytes` and `Storing.shift`
* `Asio.Storing.on` — a routine on a buffer
* `Asio.Storing.Fills` — it stores a message and nothing else
* `Asio.WritesExactly` — it stores to the indices below what it returns, and to no other

## Main results

* `Asio.Storing.Fills.bind` — messages of consecutive routines are joined
* `Asio.Storing.Fills.on_eq` — on a buffer with room, the message is put in front
* `Asio.WritesExactly.of_fills`
-/

namespace Asio

variable {α β : Type}

/-! ### Routines -/

/-- One store, `buffer[index] = value`. -/
structure Store where
  index : ℕ
  value : UInt8

/-- A routine that stores into a buffer it does not look at: what it returns and its stores, in
order, or nothing where an assertion fails. -/
abbrev Storing (α : Type) : Type := WriterT (List Store) Option α

/-- `BOOST_ASSERT(p)`. -/
def boostAssert (p : Prop) [Decidable p] : Storing Unit :=
  WriterT.mk (if p then some ((), []) else none)

/-- `buffer[i] = b`. -/
def store (i : ℕ) (b : UInt8) : Storing Unit := WriterT.mk (some ((), [⟨i, b⟩]))

/-- `for (auto c: bs) buffer[i++] = c`, with the final `i`. -/
def storeBytes (i : ℕ) : Bytes → Storing ℕ
  | [] => pure i
  | c :: bs => do
    store i c
    storeBytes (i + 1) bs

/-- The routine called with `&buffer[o]`. -/
def Storing.shift (o : ℕ) (m : Storing α) : Storing α :=
  WriterT.mk (m.run.map fun x => (x.1, x.2.map fun s => ⟨o + s.index, s.value⟩))

/-- Stores performed on a buffer, in order. -/
def perform (buffer : Bytes) (stores : List Store) : Bytes :=
  stores.foldl (fun buffer s => buffer.set s.index s.value) buffer

/-- The routine called with a buffer: a store that misses the buffer fails. -/
def Storing.on (m : Storing α) (buffer : Bytes) : Option (Bytes × α) := do
  let (a, stores) ← m.run
  guard (∀ s ∈ stores, s.index < buffer.length)
  return (perform buffer stores, a)

/-! ### Consecutive stores -/

/-- `bs` stored byte after byte, from index `o` on. -/
def consecutive (o : ℕ) : Bytes → List Store
  | [] => []
  | b :: bs => ⟨o, b⟩ :: consecutive (o + 1) bs

theorem consecutive_append (bs bs' : Bytes) : ∀ o : ℕ,
    consecutive o (bs ++ bs') = consecutive o bs ++ consecutive (o + bs.length) bs' := by
  induction bs with
  | nil => intro o; rfl
  | cons b bs ih =>
    intro o
    simp only [List.cons_append, consecutive, ih, List.length_cons, Nat.add_assoc,
      Nat.add_comm 1]

/-- Consecutive stores are to consecutive indices, one store for each. -/
theorem map_index_consecutive (bs : Bytes) : ∀ o : ℕ,
    (consecutive o bs).map Store.index = List.range' o bs.length := by
  induction bs with
  | nil => intro o; rfl
  | cons b bs ih =>
    intro o
    rw [consecutive, List.map_cons, ih, List.length_cons, List.range'_succ]

theorem map_shift_consecutive (bs : Bytes) (o : ℕ) : ∀ i : ℕ,
    (consecutive i bs).map (fun s => (⟨o + s.index, s.value⟩ : Store))
      = consecutive (o + i) bs := by
  induction bs with
  | nil => intro i; rfl
  | cons b bs ih =>
    intro i
    rw [consecutive, List.map_cons, ih, consecutive, Nat.add_assoc]

theorem index_lt_of_mem_consecutive {bs : Bytes} {o : ℕ} {s : Store}
    (h : s ∈ consecutive o bs) : s.index < o + bs.length := by
  have hmem : s.index ∈ (consecutive o bs).map Store.index := List.mem_map_of_mem h
  rw [map_index_consecutive, List.mem_range'_1] at hmem
  exact hmem.2

/-- Performing consecutive stores is the storing loop. -/
theorem perform_consecutive (bs : Bytes) : ∀ (buffer : Bytes) (i : ℕ),
    perform buffer (consecutive i bs) = (putBytes buffer i bs).1 := by
  induction bs with
  | nil => intro buffer i; rfl
  | cons b bs ih => intro buffer i; exact ih (buffer.set i b) (i + 1)

/-! ### What a routine stores -/

/-- The routine stores `bs` byte after byte from index `o` on, does nothing else, and returns
`a`. -/
def Storing.Fills (m : Storing α) (o : ℕ) (bs : Bytes) (a : α) : Prop :=
  m.run = some (a, consecutive o bs)

namespace Storing

variable {m : Storing α} {f : α → Storing β} {o i : ℕ} {bs bs' : Bytes} {a : α} {b : β}

theorem fills_pure (a : α) : (pure a : Storing α).Fills o [] a := rfl

theorem fills_boostAssert {p : Prop} [Decidable p] (h : p) : (boostAssert p).Fills o [] () :=
  if_pos h

theorem fills_store (hi : i = o) (c : UInt8) : (store i c).Fills o [c] () := by
  subst hi
  rfl

/-- **Consecutive routines store one message.** -/
theorem Fills.bind (hm : m.Fills o bs a) (hf : (f a).Fills (o + bs.length) bs' b) :
    (m >>= f).Fills o (bs ++ bs') b := by
  have hrun : (m >>= f).run
      = m.run >>= fun x => (fun y => (y.1, x.2 ++ y.2)) <$> (f x.1).run := rfl
  rw [Fills] at hm hf ⊢
  rw [hrun, hm, consecutive_append]
  exact congrArg (Option.map _) hf

/-- The storing loop, with the index it ends at. -/
theorem fills_storeBytes : ∀ {o : ℕ} (bs : Bytes),
    (storeBytes o bs).Fills o bs (o + bs.length) := by
  intro o bs
  induction bs generalizing o with
  | nil => exact fills_pure o
  | cons c bs ih =>
    have hrest : (storeBytes (o + 1) bs).Fills (o + 1) bs (o + (c :: bs).length) := by
      rw [List.length_cons, ← Nat.add_assoc, Nat.add_right_comm]
      exact ih
    exact (fills_store rfl c).bind hrest

theorem Fills.shift (h : m.Fills i bs a) : (m.shift o).Fills (o + i) bs a := by
  rw [Fills] at h ⊢
  rw [Storing.shift, WriterT.run_mk, h, Option.map_some, map_shift_consecutive]

/-! One rule for each statement a routine can begin with. -/

theorem Fills.boostAssert_bind {p : Prop} [Decidable p] {f : Unit → Storing β} (h : p)
    (hf : (f ()).Fills o bs b) : (boostAssert p >>= f).Fills o bs b :=
  (fills_boostAssert h).bind hf

theorem Fills.store_bind {c : UInt8} {f : Unit → Storing β} (hi : i = o)
    (hf : (f ()).Fills (o + 1) bs b) : (store i c >>= f).Fills o (c :: bs) b :=
  (fills_store hi c).bind hf

theorem Fills.storeBytes_bind {f : ℕ → Storing β} (hi : i = o)
    (hf : (f (i + bs.length)).Fills (o + bs.length) bs' b) :
    (storeBytes i bs >>= f).Fills o (bs ++ bs') b := by
  subst hi
  exact (fills_storeBytes bs).bind hf

/-- **On a buffer with room, the message is put in front.** -/
theorem Fills.on_eq {buffer : Bytes} (h : m.Fills 0 bs a) (hlen : bs.length ≤ buffer.length) :
    m.on buffer = some (overlay bs buffer, a) := by
  have hin : ∀ s ∈ consecutive 0 bs, s.index < buffer.length := by
    intro s hs
    have := index_lt_of_mem_consecutive hs
    omega
  have hput : perform buffer (consecutive 0 bs) = overlay bs buffer := by
    have hloop : putBytes (overlay [] buffer) 0 bs = (overlay ([] ++ bs) buffer, 0 + bs.length) :=
      putBytes_overlay rfl (by simpa using hlen)
    rw [perform_consecutive]
    exact congrArg Prod.fst hloop
  rw [Storing.on, show m.run = some (a, consecutive 0 bs) from h]
  simp only [guard, if_pos hin, hput, Option.bind_eq_bind, Option.bind_some, Option.pure_def]

end Storing

/-! ### Encoders -/

/-- What an encoder promises when it is told that its buffer has `n` bytes, where `r` is the size it
returns: `encode` is the encoder as a function of the buffer, and `m` the same encoder with its
stores recorded. -/
structure WritesExactly (m : Storing ℕ) (encode : Bytes → Bytes × ℕ) (n r : ℕ) : Prop where
  /-- No assertion fails, `r` is returned, and the stores are to every index below `r` and to no
  other. -/
  run_eq : ∃ stores, m.run = some (r, stores) ∧ stores.map Store.index = List.range r
  le : r ≤ n
  returns_eq : ∀ buffer, n ≤ buffer.length → (encode buffer).2 = r
  /-- No store misses the buffer, and performing the stores is what the encoder does. -/
  on_eq : ∀ buffer, n ≤ buffer.length → m.on buffer = some (encode buffer)
  /-- The buffer keeps its size. -/
  length_eq : ∀ buffer, n ≤ buffer.length → (encode buffer).1.length = buffer.length
  /-- The bytes below `r` do not depend on what the buffer held. -/
  take_eq : ∀ buffer buffer', n ≤ buffer.length → n ≤ buffer'.length →
    (encode buffer).1.take r = (encode buffer').1.take r
  /-- The bytes from `r` on are what the buffer held. -/
  drop_eq : ∀ buffer, n ≤ buffer.length → (encode buffer).1.drop r = buffer.drop r

/-- **An encoder that stores a message and returns its length** keeps the promise, whatever the
message. -/
theorem WritesExactly.of_fills {m : Storing ℕ} {encode : Bytes → Bytes × ℕ} {n r : ℕ} {bs : Bytes}
    (hr : bs.length = r) (hn : r ≤ n) (hm : m.Fills 0 bs r)
    (hencode : ∀ buffer, n ≤ buffer.length → encode buffer = (overlay bs buffer, r)) :
    WritesExactly m encode n r where
  run_eq := ⟨consecutive 0 bs, hm, by rw [map_index_consecutive, hr, List.range_eq_range']⟩
  le := hn
  returns_eq buffer hb := by rw [hencode buffer hb]
  on_eq buffer hb := by rw [hencode buffer hb, hm.on_eq (by omega)]
  length_eq buffer hb := by
    rw [hencode buffer hb, length_overlay]
    omega
  take_eq buffer buffer' hb hb' := by
    rw [hencode buffer hb, hencode buffer' hb', ← hr, take_overlay, take_overlay]
  drop_eq buffer hb := by
    rw [hencode buffer hb, ← hr]
    exact List.drop_left

end Asio
