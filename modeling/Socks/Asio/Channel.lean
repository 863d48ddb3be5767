import Socks.Asio.Prog
import Mathlib.Logic.Relation

/-!
# Two programs and the bytes between them

A client and a server, each a program, joined by two FIFO channels of bytes. One step is one
`write_some` or one `read_some` of one party, or the answer to a question one of them asked; any
enabled step may be taken, a write may put any piece of its message in flight, and a read may
take any piece of what is in flight that it has room for. A run is any sequence of steps, so a
property of the reachable states holds for every order of steps and every chunking.

The state of a composed operation in progress needs no extra bookkeeping: what is left of a
program in the middle of a write is a program that writes the rest, and what is left in the middle
of a read is a program that reads the rest, under the condition that remembers what it has seen
(`Cond.after`).

A party whose program has ended is free: what runs on the connection then may send and take any
bytes, and may close. A read finds the end of the file when the other party has closed and nothing
is left in flight.

## Main definitions

* `Asio.Party`, `Asio.Move` — one party, and what it can do in one step
* `Asio.Net`, `Asio.Net.Step`, `Asio.Net.Reachable` — both parties
* `Asio.Waits`, `Asio.Net.Deadlock` — a read that wants more; two of those, and nothing in flight
* `Asio.Frames`, `Asio.Endless` — how a completion condition cuts a message out of the stream

## Main results

* `Asio.Move.of_writing`, `Asio.Move.of_reading` — what a party can do in the middle of a message
* `Asio.Net.reachable_up`, `Asio.Net.reachable_down` — a message that the reader's condition
  frames gets through
* `Asio.Net.deadlock_of_endless` — one that the condition does not find the end of does not
-/

namespace Asio

variable {ε : Type} [ErrorLike ε] {Q A α Q' A' β : Type}

/-! ### Conditions in the middle of a read -/

/-- The condition that is left when a read has received `x`. -/
def Cond.after (c : Cond ε) (x : Bytes) : Cond ε where
  ask got e := c.ask (x ++ got) e
  ask_of_failed got e h := c.ask_of_failed (x ++ got) e h

@[simp] theorem Cond.after_ask (c : Cond ε) (x got : Bytes) (e : ε) :
    (c.after x).ask got e = c.ask (x ++ got) e := rfl

@[simp] theorem Cond.after_nil (c : Cond ε) : c.after [] = c := rfl

theorem Cond.after_after (c : Cond ε) (x y : Bytes) : (c.after x).after y = c.after (x ++ y) := by
  refine Cond.ext (funext fun got => funext fun e => ?_)
  simp

/-- A read under `c` with room for `cap` bytes wants more. -/
def Waits (c : Cond ε) (cap : ℕ) : Prop := 0 < cap ∧ 0 < c.ask [] ok

instance (c : Cond ε) (cap : ℕ) : Decidable (Waits c cap) := inferInstanceAs (Decidable (_ ∧ _))

theorem waits_after_iff {c : Cond ε} {cap : ℕ} {x : Bytes} :
    Waits (c.after x) (cap - x.length) ↔ x.length < cap ∧ 0 < c.ask x ok := by
  simp only [Waits, Cond.after_ask, List.append_nil]
  omega

/-- Among the prefixes of `bs`, the read wants more after all but `bs` itself: however the bytes
arrive, it ends with exactly these. -/
def Frames (c : Cond ε) (cap : ℕ) (bs : Bytes) : Prop :=
  ∀ x, x <+: bs → (Waits (c.after x) (cap - x.length) ↔ x ≠ bs)

/-- The read wants more after every prefix of `bs`, and after `bs`. -/
def Endless (c : Cond ε) (cap : ℕ) (bs : Bytes) : Prop :=
  ∀ x, x <+: bs → Waits (c.after x) (cap - x.length)

/-- A condition that asks for more before the end of the message, and at the end of it stops or
has filled the buffer, frames the message. -/
theorem frames_of {c : Cond ε} {cap : ℕ} {bs : Bytes}
    (h : ∀ x, x <+: bs → (x.length < cap ∧ 0 < c.ask x ok ↔ x.length < bs.length)) :
    Frames c cap bs := by
  intro x hx
  rw [waits_after_iff, h x hx]
  constructor
  · rintro hlt rfl
    exact Nat.lt_irrefl _ hlt
  · exact fun hne => Nat.lt_of_le_of_ne hx.length_le fun heq => hne (hx.eq_of_length heq)

/-- A read that fills its buffer frames every message of that size. -/
theorem frames_transferAll (bs : Bytes) : Frames (transferAll : Cond ε) bs.length bs := by
  refine frames_of fun x _ => ?_
  rw [transferAll_ask_ok]
  exact and_iff_left (by decide)

theorem endless_of {c : Cond ε} {cap : ℕ} {bs : Bytes} (hlen : bs.length < cap)
    (h : ∀ x, x <+: bs → 0 < c.ask x ok) : Endless c cap bs := fun x hx =>
  waits_after_iff.mpr ⟨Nat.lt_of_le_of_lt hx.length_le hlen, h x hx⟩

theorem Frames.after {c : Cond ε} {cap : ℕ} {x y : Bytes} (h : Frames c cap (x ++ y)) :
    Frames (c.after x) (cap - x.length) y := by
  intro z hz
  have hxz := h (x ++ z) ((List.prefix_append_right_inj x).mpr hz)
  rw [Cond.after_after, Nat.sub_sub, ← List.length_append, hxz, Ne, List.append_cancel_left_eq]

theorem Endless.after {c : Cond ε} {cap : ℕ} {x y : Bytes} (h : Endless c cap (x ++ y)) :
    Endless (c.after x) (cap - x.length) y := by
  intro z hz
  have hxz := h (x ++ z) ((List.prefix_append_right_inj x).mpr hz)
  rwa [Cond.after_after, Nat.sub_sub, ← List.length_append]

/-! ### One party -/

/-- A party: what is left of its program, the bytes it has sent and the other has not taken, the
questions it has had answered, and whether it has closed its side. -/
structure Party (ε : Type) [ErrorLike ε] (Q A α : Type) where
  prog : Prog ε Q A α
  out : Bytes := []
  log : List (Q × A) := []
  closed : Bool := false

/-- `Move eof p inb pc p' inb'`: with `inb` in flight towards it, and the other party closed or
not as `pc` says, the party `p` can become `p'` and leave `inb'` in flight. -/
inductive Move (eof : ε) : Party ε Q A α → Bytes → Bool → Party ε Q A α → Bytes → Prop
  | writeSome {k x y out log closed inb pc} (hx : x ≠ []) (hy : y ≠ []) :
      Move eof ⟨.write (x ++ y) k, out, log, closed⟩ inb pc
        ⟨.write y fun n e => k (x.length + n) e, out ++ x, log, closed⟩ inb
  | writeAll {k bs out log closed inb pc} :
      Move eof ⟨.write bs k, out, log, closed⟩ inb pc
        ⟨k bs.length ok, out ++ bs, log, closed⟩ inb
  | readSome {c cap k x rest out log closed pc} (hx : x ≠ [])
      (hlen : x.length ≤ min (c.ask [] ok) cap) (hw : Waits (c.after x) (cap - x.length)) :
      Move eof ⟨.read c cap k, out, log, closed⟩ (x ++ rest) pc
        ⟨.read (c.after x) (cap - x.length) fun got e => k (x ++ got) e, out, log, closed⟩ rest
  | readAll {c cap k x rest out log closed pc} (hlen : x.length ≤ min (c.ask [] ok) cap)
      (hw : ¬Waits (c.after x) (cap - x.length)) :
      Move eof ⟨.read c cap k, out, log, closed⟩ (x ++ rest) pc ⟨k x ok, out, log, closed⟩ rest
  | readEof {c cap k out log closed} (hw : Waits c cap) :
      Move eof ⟨.read c cap k, out, log, closed⟩ [] true ⟨k [] eof, out, log, closed⟩ []
  | call {q k out log closed inb pc} (a : A) :
      Move eof ⟨.call q k, out, log, closed⟩ inb pc ⟨k a, out, log ++ [(q, a)], closed⟩ inb
  | emit {a out log inb pc} (x : Bytes) :
      Move eof ⟨.pure a, out, log, false⟩ inb pc ⟨.pure a, out ++ x, log, false⟩ inb
  | drop {a x rest out log closed pc} :
      Move eof ⟨.pure a, out, log, closed⟩ (x ++ rest) pc ⟨.pure a, out, log, closed⟩ rest
  | close {a out log inb pc} :
      Move eof ⟨.pure a, out, log, false⟩ inb pc ⟨.pure a, out, log, true⟩ inb

/-- A program that is about to read and wants something. -/
inductive IsReading : Prog ε Q A α → Prop
  | mk {c : Cond ε} {cap : ℕ} {k : Bytes → ε → Prog ε Q A α} (hw : Waits c cap) :
      IsReading (.read c cap k)

/-- In the middle of writing: `ys` is what is left of a message, and `goal` what comes after it. -/
inductive Writing (goal : Prog ε Q A α) : Bytes → Prog ε Q A α → Prop
  | done : Writing goal [] goal
  | more {ys : Bytes} {k : ℕ → ε → Prog ε Q A α} (hy : ys ≠ []) (hk : k ys.length ok = goal) :
      Writing goal ys (.write ys k)

/-- In the middle of reading: `m` is what is left of a message, and `goal` what comes after it. -/
inductive Reading (goal : Prog ε Q A α) : Bytes → Prog ε Q A α → Prop
  | mk {m : Bytes} {c : Cond ε} {cap : ℕ} {k : Bytes → ε → Prog ε Q A α} (hm : m ≠ [])
      (hf : Frames c cap m) (hk : k m ok = goal) : Reading goal m (.read c cap k)

/-- In the middle of reading a message that will not end, with `m` still to come. -/
inductive Starving : Bytes → Prog ε Q A α → Prop
  | mk {m : Bytes} {c : Cond ε} {cap : ℕ} {k : Bytes → ε → Prog ε Q A α} (hm : Endless c cap m) :
      Starving m (.read c cap k)

theorem Writing.eq_of_nil {goal prog : Prog ε Q A α} (h : Writing goal [] prog) : goal = prog := by
  cases h with
  | done => rfl
  | more hy => exact absurd rfl hy

/-- A party that waits in a read has written everything. -/
theorem Writing.nil_of_isReading {goal prog : Prog ε Q A α} {ys : Bytes} (h : Writing goal ys prog)
    (hr : IsReading prog) : ys = [] := by
  cases h with
  | done => rfl
  | more => cases hr

theorem Reading.ne_nil {goal prog : Prog ε Q A α} {m : Bytes} (h : Reading goal m prog) :
    m ≠ [] := by
  cases h
  assumption

section Moves

variable {eof : ε} {p p' : Party ε Q A α} {goal : Prog ε Q A α} {inb inb' : Bytes} {pc : Bool}

/-- The fields a step on the wire leaves alone. -/
structure SameBook (p p' : Party ε Q A α) : Prop where
  log : p'.log = p.log
  closed : p'.closed = p.closed

/-- **A party that reads with nothing in flight and the other side open is stuck.** -/
theorem Move.not_of_isReading (hp : IsReading p.prog) : ¬Move eof p [] false p' inb' := by
  obtain ⟨prog, out, log, closed⟩ := p
  cases hp with
  | mk hw =>
    intro h
    generalize hinb : ([] : Bytes) = inb at h
    generalize hpc : false = pc at h
    cases h with
    | readSome hx hlen hw' => exact hx (List.append_eq_nil_iff.mp hinb.symm).1
    | readAll hlen hw' =>
      obtain ⟨rfl, -⟩ := List.append_eq_nil_iff.mp hinb.symm
      exact hw' hw
    | readEof => cases hpc

/-- **A party that writes puts a piece of its message in flight.** -/
theorem Move.of_writing {ys : Bytes} (hp : Writing goal ys p.prog) (hy : ys ≠ [])
    (h : Move eof p inb pc p' inb') :
    inb' = inb ∧ SameBook p p' ∧
      ∃ x ys', ys = x ++ ys' ∧ p'.out = p.out ++ x ∧ Writing goal ys' p'.prog := by
  obtain ⟨prog, out, log, closed⟩ := p
  cases hp with
  | done => exact absurd rfl hy
  | more _ hk =>
    cases h with
    | @writeSome _ x y _ _ _ _ _ hx hy' =>
      exact ⟨rfl, ⟨rfl, rfl⟩, x, y, rfl, rfl, .more hy' (by rw [← List.length_append]; exact hk)⟩
    | writeAll => exact ⟨rfl, ⟨rfl, rfl⟩, _, [], (List.append_nil _).symm, rfl, hk ▸ .done⟩

/-- A party that writes and then reads, with nothing in flight towards it, has at each step sent
something more, if it can take a step at all. -/
theorem Move.of_sending {ys : Bytes} (hp : Writing goal ys p.prog) (hread : IsReading goal)
    (h : Move eof p [] false p' inb') :
    inb' = [] ∧ SameBook p p' ∧ ∃ ys', p'.out ++ ys' = p.out ++ ys ∧ Writing goal ys' p'.prog := by
  by_cases hys : ys = []
  · subst hys
    rw [hp.eq_of_nil] at hread
    exact absurd h (Move.not_of_isReading hread)
  · obtain ⟨hinb, hbook, x, ys', rfl, hout, hp'⟩ := Move.of_writing hp hys h
    exact ⟨hinb, hbook, ys', by rw [hout, List.append_assoc], hp'⟩

/-- **A party that reads takes a piece of what is in flight**, and goes on when it has it all. -/
theorem Move.of_reading {y : Bytes} (hp : Reading goal (inb ++ y) p.prog)
    (h : Move eof p inb false p' inb') :
    p'.out = p.out ∧ SameBook p p' ∧
      ((inb' = [] ∧ y = [] ∧ p'.prog = goal) ∨ Reading goal (inb' ++ y) p'.prog) := by
  obtain ⟨prog, out, log, closed⟩ := p
  generalize hpc : false = pc at h
  generalize hm : inb ++ y = m at hp
  cases hp with
  | mk hne hf hk =>
    cases h with
    | @readSome _ _ _ x rest _ _ _ _ hx hlen hw =>
      rw [List.append_assoc] at hm
      subst hm
      refine ⟨rfl, ⟨rfl, rfl⟩, Or.inr ⟨fun hnil => ?_, hf.after, hk⟩⟩
      rw [hnil, List.append_nil] at hf
      exact (hf x List.prefix_rfl).mp hw rfl
    | @readAll _ _ _ x rest _ _ _ _ hlen hw =>
      rw [List.append_assoc] at hm
      subst hm
      have hx := not_imp_comm.mp (hf x (List.prefix_append ..)).mpr hw
      obtain ⟨hrest, hy⟩ := List.append_eq_nil_iff.mp (List.self_eq_append_right.mp hx)
      refine ⟨rfl, ⟨rfl, rfl⟩, Or.inl ⟨hrest, hy, ?_⟩⟩
      rw [← hk, ← hx]
    | readEof => cases hpc

/-- A party that starves takes a piece of what is in flight, and starves on. -/
theorem Move.of_starving {y : Bytes} (hp : Starving (inb ++ y) p.prog)
    (h : Move eof p inb false p' inb') :
    p'.out = p.out ∧ SameBook p p' ∧ Starving (inb' ++ y) p'.prog := by
  obtain ⟨prog, out, log, closed⟩ := p
  generalize hpc : false = pc at h
  generalize hm : inb ++ y = m at hp
  cases hp with
  | mk hf =>
    cases h with
    | readSome hx hlen hw =>
      rw [List.append_assoc] at hm
      subst hm
      exact ⟨rfl, ⟨rfl, rfl⟩, ⟨hf.after⟩⟩
    | @readAll _ _ _ x rest _ _ _ _ hlen hw =>
      rw [List.append_assoc] at hm
      subst hm
      exact absurd (hf x (List.prefix_append ..)) hw
    | readEof => cases hpc

end Moves

/-! ### Runs of one party -/

/-- Any number of steps of one party, while the other is still. -/
def Moves (eof : ε) : Party ε Q A α × Bytes → Party ε Q A α × Bytes → Prop :=
  Relation.ReflTransGen fun a b => Move eof a.1 a.2 false b.1 b.2

theorem Frames.waits {c : Cond ε} {cap : ℕ} {bs : Bytes} (h : Frames c cap bs) (hb : bs ≠ []) :
    Waits c cap :=
  (h [] List.nil_prefix).mpr hb.symm

theorem Endless.waits {c : Cond ε} {cap : ℕ} {bs : Bytes} (h : Endless c cap bs) : Waits c cap :=
  h [] List.nil_prefix

theorem Waits.one_le {c : Cond ε} {cap : ℕ} (h : Waits c cap) (b : UInt8) :
    [b].length ≤ min (c.ask [] ok) cap :=
  Nat.le_min.mpr ⟨h.2, h.1⟩

/-- A framed message that is in flight can be read, byte by byte. -/
theorem moves_read (eof : ε) {out : Bytes} {log : List (Q × A)} {closed : Bool} :
    ∀ {bs : Bytes} {c : Cond ε} {cap : ℕ} {k : Bytes → ε → Prog ε Q A α}, bs ≠ [] →
      Frames c cap bs →
      Moves eof (⟨.read c cap k, out, log, closed⟩, bs) (⟨k bs ok, out, log, closed⟩, []) := by
  intro bs
  induction bs with
  | nil => exact fun hb _ => absurd rfl hb
  | cons b bs ih =>
    intro c cap k hb hf
    have hone := (hf.waits hb).one_le b
    have hafter := hf ([b]) ((List.prefix_cons_inj b).mpr List.nil_prefix)
    by_cases hnil : bs = []
    · subst hnil
      have hlast : Move eof ⟨.read c cap k, out, log, closed⟩ ([b] ++ []) false
          ⟨k [b] ok, out, log, closed⟩ [] := .readAll hone fun hw => hafter.mp hw rfl
      exact .single hlast
    · have hw := hafter.mpr fun h => hnil (List.cons.inj h).2.symm
      have hf' : Frames (c.after [b]) (cap - [b].length) bs := Frames.after (y := bs) hf
      have hfirst : Move eof ⟨.read c cap k, out, log, closed⟩ ([b] ++ bs) false
          ⟨.read (c.after [b]) (cap - [b].length) fun got e => k ([b] ++ got) e, out, log, closed⟩
          bs := .readSome (List.cons_ne_nil b []) hone hw
      exact Relation.ReflTransGen.head (b := (_, bs)) hfirst (ih hnil hf')

/-- Out of an endless message everything in flight can be read, and the read still waits. -/
theorem moves_starve (eof : ε) {out : Bytes} {log : List (Q × A)} {closed : Bool} :
    ∀ {bs : Bytes} {c : Cond ε} {cap : ℕ} {k : Bytes → ε → Prog ε Q A α}, Endless c cap bs →
      ∃ p : Prog ε Q A α, IsReading p ∧
        Moves eof (⟨.read c cap k, out, log, closed⟩, bs) (⟨p, out, log, closed⟩, []) := by
  intro bs
  induction bs with
  | nil => exact fun h => ⟨_, ⟨h.waits⟩, .refl⟩
  | cons b bs ih =>
    intro c cap k h
    have hw := h [b] ((List.prefix_cons_inj b).mpr List.nil_prefix)
    have h' : Endless (c.after [b]) (cap - [b].length) bs := Endless.after (y := bs) h
    obtain ⟨p, hp, hmoves⟩ := ih (k := fun got e => k ([b] ++ got) e) h'
    have hfirst : Move eof ⟨.read c cap k, out, log, closed⟩ ([b] ++ bs) false
        ⟨.read (c.after [b]) (cap - [b].length) fun got e => k ([b] ++ got) e, out, log, closed⟩
        bs := .readSome (List.cons_ne_nil b []) (h.waits.one_le b) hw
    exact ⟨p, hp, Relation.ReflTransGen.head (b := (_, bs)) hfirst hmoves⟩

/-! ### Both parties -/

/-- A client and a server. -/
structure Net (ε : Type) [ErrorLike ε] (Q A α Q' A' β : Type) where
  client : Party ε Q A α
  server : Party ε Q' A' β

namespace Net

variable {s s' : Net ε Q A α Q' A' β} {eof : ε}

/-- One step of either party. -/
inductive Step (eof : ε) : Net ε Q A α Q' A' β → Net ε Q A α Q' A' β → Prop
  | client {s p inb} (h : Move eof s.client s.server.out s.server.closed p inb) :
      Step eof s ⟨p, { s.server with out := inb }⟩
  | server {s p inb} (h : Move eof s.server s.client.out s.client.closed p inb) :
      Step eof s ⟨{ s.client with out := inb }, p⟩

/-- Two programs between two messages: nothing is in flight, and both sides are open. -/
def between (p : Prog ε Q A α) (q : Prog ε Q' A' β) (l : List (Q × A)) (l' : List (Q' × A')) :
    Net ε Q A α Q' A' β :=
  ⟨⟨p, [], l, false⟩, ⟨q, [], l', false⟩⟩

/-- Two programs that have not done anything yet. -/
def start (p : Prog ε Q A α) (q : Prog ε Q' A' β) : Net ε Q A α Q' A' β := between p q [] []

/-- Any order of steps. -/
def Reachable (eof : ε) : Net ε Q A α Q' A' β → Net ε Q A α Q' A' β → Prop :=
  Relation.ReflTransGen (Step eof)

/-- Both parties wait in a read, and nothing is in flight. -/
def Deadlock (s : Net ε Q A α Q' A' β) : Prop :=
  IsReading s.client.prog ∧ IsReading s.server.prog ∧ s.client.out = [] ∧ s.server.out = []

/-- **An invariant of the steps is an invariant of the runs.** -/
theorem Reachable.invariant {I : Net ε Q A α Q' A' β → Prop}
    (hstep : ∀ {s s'}, I s → Step eof s s' → I s') (h : Reachable eof s s') (hs : I s) : I s' := by
  induction h with
  | refl => exact hs
  | tail _ hlast ih => exact hstep ih hlast

theorem reachable_of_client_moves {p p' : Party ε Q A α} {q : Party ε Q' A' β} {inb' : Bytes}
    (hq : q.closed = false) (h : Moves eof (p, q.out) (p', inb')) :
    Reachable eof ⟨p, q⟩ ⟨p', { q with out := inb' }⟩ := by
  generalize hb : (p', inb') = b at h
  induction h generalizing p' inb' with
  | refl =>
    cases hb
    exact .refl
  | @tail a b hmoves hlast ih =>
    subst hb
    refine .tail (ih rfl) ?_
    have hmove : Move eof a.1 a.2 q.closed p' inb' := hq ▸ hlast
    exact Step.client (s := ⟨a.1, { q with out := a.2 }⟩) hmove

theorem reachable_of_server_moves {p : Party ε Q A α} {q q' : Party ε Q' A' β} {inb' : Bytes}
    (hp : p.closed = false) (h : Moves eof (q, p.out) (q', inb')) :
    Reachable eof ⟨p, q⟩ ⟨{ p with out := inb' }, q'⟩ := by
  generalize hb : (q', inb') = b at h
  induction h generalizing q' inb' with
  | refl =>
    cases hb
    exact .refl
  | @tail a b hmoves hlast ih =>
    subst hb
    refine .tail (ih rfl) ?_
    have hmove : Move eof a.1 a.2 p.closed q' inb' := hp ▸ hlast
    exact Step.server (s := ⟨{ p with out := a.2 }, a.1⟩) hmove

/-! ### Exchanges -/

variable {l : List (Q × A)} {l' : List (Q' × A')} {c : Cond ε} {cap : ℕ} {bs : Bytes}

/-- **A message that the server's condition frames gets through to the server.** -/
theorem reachable_up {k : ℕ → ε → Prog ε Q A α} {k' : Bytes → ε → Prog ε Q' A' β} (hb : bs ≠ [])
    (hf : Frames c cap bs) :
    Reachable eof (between (.write bs k) (.read c cap k') l l')
      (between (k bs.length ok) (k' bs ok) l l') := by
  have hwrite : Move eof ⟨.write bs k, [], l, false⟩ [] false
      ⟨k bs.length ok, [] ++ bs, l, false⟩ [] := .writeAll
  refine .head (Step.client (s := between (.write bs k) (.read c cap k') l l') hwrite) ?_
  exact reachable_of_server_moves rfl (moves_read eof hb hf)

/-- **A message that the client's condition frames gets through to the client.** -/
theorem reachable_down {k : Bytes → ε → Prog ε Q A α} {k' : ℕ → ε → Prog ε Q' A' β} (hb : bs ≠ [])
    (hf : Frames c cap bs) :
    Reachable eof (between (.read c cap k) (.write bs k') l l')
      (between (k bs ok) (k' bs.length ok) l l') := by
  have hwrite : Move eof ⟨.write bs k', [], l', false⟩ [] false
      ⟨k' bs.length ok, [] ++ bs, l', false⟩ [] := .writeAll
  refine .head (Step.server (s := between (.read c cap k) (.write bs k') l l') hwrite) ?_
  exact reachable_of_client_moves rfl (moves_read eof hb hf)

/-- **A message after which the server still waits leads into a deadlock**, if the client waits
for an answer to it. -/
theorem deadlock_of_endless {k : ℕ → ε → Prog ε Q A α} {k' : Bytes → ε → Prog ε Q' A' β}
    (he : Endless c cap bs) (hk : IsReading (k bs.length ok)) :
    ∃ s, Reachable eof (between (.write bs k) (.read c cap k') l l') s ∧ s.Deadlock := by
  have hstarve : ∃ q : Prog ε Q' A' β, IsReading q ∧
      Moves eof (⟨.read c cap k', [], l', false⟩, bs) (⟨q, [], l', false⟩, []) :=
    moves_starve eof he
  obtain ⟨q, hq, hmoves⟩ := hstarve
  have hwrite : Move eof ⟨.write bs k, [], l, false⟩ [] false
      ⟨k bs.length ok, [] ++ bs, l, false⟩ [] := .writeAll
  refine ⟨between (k bs.length ok) q l l',
    .head (Step.client (s := between (.write bs k) (.read c cap k') l l') hwrite) ?_,
    hk, hq, rfl, rfl⟩
  exact reachable_of_server_moves rfl hmoves

end Net

end Asio
