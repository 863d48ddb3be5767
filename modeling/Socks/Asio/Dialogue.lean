import Socks.Asio.Channel

/-!
# Programs that fit together

When do two programs talk without ever getting stuck? When, at each message of the one, the other
is reading, under a condition that ends the read with that message: `Paired` says so, message by
message, along every branch the answers of the outside world can open. It is a statement about
two trees, checked by walking down both; no state of a net and no order of steps occurs in it.

From there the steps are dealt with once. In every state two paired programs can reach, one
message is on its way at most, cut at two places: what is in flight ends where the writer has
got to, and begins where the reader has (`Linked`). Each step moves one of the two cuts.

The questions the server asks are part of the pairing: `good` is what is to hold of its log, and a
pairing has to show it for each answer. A pairing may also stop at a message that the server's
condition does not find the end of, if `stalls`; with `stalls := False` it may not, and then there
is no deadlock.

## Main definitions

* `Asio.Paired` — two programs that fit together
* `Asio.Linked` — two parties in the middle of what paired programs do

## Main results

* `Asio.Linked.step` — the invariant
* `Asio.Paired.not_deadlock`, `Asio.Paired.good_log` — what it gives for every reachable state
-/

namespace Asio

variable {ε : Type} [ErrorLike ε] {Q A α Q' A' β : Type}

/-! ### The last message -/

/-- A client with one read left at most. -/
inductive Ends : Prog ε Q A α → Prop
  | pure (a : α) : Ends (.pure a)
  | read {c : Cond ε} {cap : ℕ} {k : Bytes → ε → Prog ε Q A α}
      (h : ∀ got e, ∃ a, k got e = .pure a) : Ends (.read c cap k)

/-- A server with one write left at most. -/
inductive Flushes : Prog ε Q A α → Prop
  | pure (a : α) : Flushes (.pure a)
  | write {bs : Bytes} {k : ℕ → ε → Prog ε Q A α} (h : ∃ a, k bs.length ok = .pure a) :
      Flushes (.write bs k)

theorem Flushes.not_isReading {p : Prog ε Q A α} (h : Flushes p) : ¬IsReading p := by
  rintro ⟨⟩
  cases h

section Last

variable {eof : ε} {p p' : Party ε Q A α} {inb inb' : Bytes} {pc : Bool}

theorem Move.of_ends (hp : Ends p.prog) (h : Move eof p inb pc p' inb') : Ends p'.prog := by
  obtain ⟨prog, out, log, closed⟩ := p
  cases hp with
  | pure a => cases h <;> exact .pure a
  | read hk =>
    cases h with
    | readSome => exact .read fun got e => hk _ e
    | readAll =>
      obtain ⟨a, ha⟩ := hk _ ok
      exact ha ▸ .pure a
    | readEof =>
      obtain ⟨a, ha⟩ := hk [] eof
      exact ha ▸ .pure a

theorem Move.of_flushes (hp : Flushes p.prog) (h : Move eof p inb pc p' inb') :
    Flushes p'.prog ∧ p'.log = p.log := by
  obtain ⟨prog, out, log, closed⟩ := p
  cases hp with
  | pure a => cases h <;> exact ⟨.pure a, rfl⟩
  | write hk =>
    obtain ⟨a, ha⟩ := hk
    cases h with
    | writeSome => exact ⟨.write ⟨a, by rwa [← List.length_append]⟩, rfl⟩
    | writeAll => exact ⟨ha ▸ .pure a, rfl⟩

end Last

/-! ### Pairing -/

variable (good : List (Q' × A') → Prop) (stalls : Prop)

/-- A client and a server that fit together, the server having the given log. -/
inductive Paired : Prog ε Q A α → Prog ε Q' A' β → List (Q' × A') → Prop
  /-- The client writes what the server reads, and then reads itself. -/
  | up {bs c cap k k' l} (hb : bs ≠ []) (hf : Frames c cap bs) (hk : IsReading (k bs.length ok))
      (next : Paired (k bs.length ok) (k' bs ok) l) : Paired (.write bs k) (.read c cap k') l
  /-- The server writes what the client reads, and then reads itself. -/
  | down {bs c cap k k' l} (hb : bs ≠ []) (hf : Frames c cap bs) (hk : IsReading (k' bs.length ok))
      (next : Paired (k bs ok) (k' bs.length ok) l) : Paired (.read c cap k) (.write bs k') l
  /-- The server asks while the client reads, and whatever the answer is, they go on. -/
  | call {p q k l} (hp : IsReading p) (hgood : ∀ a, good (l ++ [(q, a)]))
      (next : ∀ a, Paired p (k a) (l ++ [(q, a)])) : Paired p (.call q k) l
  /-- The server writes its last message. What the client makes of it is its own affair. -/
  | wind {p q l} (hp : Ends p) (hq : Flushes q) : Paired p q l
  /-- The client writes what the server does not find the end of, and then reads itself. -/
  | stall {bs c cap k k' l} (hs : stalls) (hb : bs ≠ []) (he : Endless c cap bs)
      (hk : IsReading (k bs.length ok)) : Paired (.write bs k) (.read c cap k') l

/-- Neither side is closed. -/
structure Open (p : Party ε Q A α) (q : Party ε Q' A' β) : Prop where
  client : p.closed = false
  server : q.closed = false

/-- A client and a server in the middle of what paired programs do. -/
inductive Linked : Net ε Q A α Q' A' β → Prop
  | up {p q p' q' ys} (hopen : Open p q) (hp : Writing p' ys p.prog)
      (hq : Reading q' (p.out ++ ys) q.prog) (hout : q.out = []) (hread : IsReading p')
      (next : Paired good stalls p' q' q.log) : Linked ⟨p, q⟩
  | down {p q p' q' ys} (hopen : Open p q) (hq : Writing q' ys q.prog)
      (hp : Reading p' (q.out ++ ys) p.prog) (hout : p.out = []) (hread : IsReading q')
      (next : Paired good stalls p' q' q.log) : Linked ⟨p, q⟩
  | call {p q x k} (hopen : Open p q) (hp : IsReading p.prog) (hq : q.prog = .call x k)
      (hpout : p.out = []) (hqout : q.out = []) (hgood : ∀ a, good (q.log ++ [(x, a)]))
      (next : ∀ a, Paired good stalls p.prog (k a) (q.log ++ [(x, a)])) : Linked ⟨p, q⟩
  | wind {p q} (hp : Ends p.prog) (hq : Flushes q.prog) : Linked ⟨p, q⟩
  | stall {p q p' ys} (hs : stalls) (hopen : Open p q) (hp : Writing p' ys p.prog)
      (hq : Starving (p.out ++ ys) q.prog) (hout : q.out = []) (hread : IsReading p') :
      Linked ⟨p, q⟩

variable {good : List (Q' × A') → Prop} {stalls : Prop} {eof : ε}
  {p : Party ε Q A α} {q : Party ε Q' A' β} {s s' : Net ε Q A α Q' A' β}

/-- Paired programs between two messages are linked. -/
theorem Linked.of_paired (h : Paired good stalls p.prog q.prog q.log) (hopen : Open p q)
    (hpout : p.out = []) (hqout : q.out = []) : Linked good stalls ⟨p, q⟩ := by
  obtain ⟨prog, out, log, closed⟩ := p
  obtain ⟨prog', out', log', closed'⟩ := q
  obtain rfl : out = [] := hpout
  obtain rfl : out' = [] := hqout
  cases h with
  | up hb hf hk next => exact .up hopen (.more hb rfl) (.mk hb hf rfl) rfl hk next
  | down hb hf hk next => exact .down hopen (.more hb rfl) (.mk hb hf rfl) rfl hk next
  | call hp hgood next => exact .call hopen hp rfl rfl rfl hgood next
  | wind hp hq => exact .wind hp hq
  | stall hs hb he hk => exact .stall hs hopen (.more hb rfl) ⟨he⟩ rfl hk

/-- A step of the client keeps the parties linked. -/
theorem Linked.of_client_move {p' : Party ε Q A α} {inb : Bytes} (h : Linked good stalls ⟨p, q⟩)
    (hmove : Move eof p q.out q.closed p' inb) :
    Linked good stalls ⟨p', { q with out := inb }⟩ := by
  cases h with
  | @up _ _ p₁ q₁ ys hopen hp hq hout hread next =>
    rw [hout, hopen.server] at hmove
    obtain ⟨rfl, hbook, ys', hrest, hp'⟩ := Move.of_sending hp hread hmove
    exact .up ⟨hbook.closed.trans hopen.client, hopen.server⟩ hp' (hrest ▸ hq) rfl hread next
  | @down _ _ p₁ q₁ ys hopen hq hp hout hread next =>
    rw [hopen.server] at hmove
    obtain ⟨hout', hbook, ⟨rfl, rfl, hp'⟩ | hp'⟩ := Move.of_reading hp hmove
    · -- The client has read the last of the message.
      subst hp'
      refine .of_paired ?_ ⟨hbook.closed.trans hopen.client, hopen.server⟩ (hout'.trans hout) rfl
      rw [hq.eq_of_nil] at next
      exact next
    · exact .down ⟨hbook.closed.trans hopen.client, hopen.server⟩ hq hp' (hout'.trans hout) hread
        next
  | call hopen hp hq hpout hqout hgood next =>
    rw [hqout, hopen.server] at hmove
    exact absurd hmove (Move.not_of_isReading hp)
  | wind hp hq => exact .wind (Move.of_ends hp hmove) hq
  | @stall _ _ p₁ ys hs hopen hp hq hout hread =>
    rw [hout, hopen.server] at hmove
    obtain ⟨rfl, hbook, ys', hrest, hp'⟩ := Move.of_sending hp hread hmove
    exact .stall hs ⟨hbook.closed.trans hopen.client, hopen.server⟩ hp' (hrest ▸ hq) rfl hread

/-- A step of the server keeps the parties linked, and the log good. -/
theorem Linked.of_server_move {q' : Party ε Q' A' β} {inb : Bytes} (h : Linked good stalls ⟨p, q⟩)
    (hlog : good q.log) (hmove : Move eof q p.out p.closed q' inb) :
    Linked good stalls ⟨{ p with out := inb }, q'⟩ ∧ good q'.log := by
  cases h with
  | @up _ _ p₁ q₁ ys hopen hp hq hout hread next =>
    rw [hopen.client] at hmove
    obtain ⟨hout', hbook, ⟨rfl, rfl, hq'⟩ | hq'⟩ := Move.of_reading hq hmove
    · -- The server has read the last of the message.
      subst hq'
      refine ⟨.of_paired ?_ ⟨hopen.client, hbook.closed.trans hopen.server⟩ rfl (hout'.trans hout),
        hbook.log ▸ hlog⟩
      rw [hp.eq_of_nil, ← hbook.log] at next
      exact next
    · exact ⟨.up ⟨hopen.client, hbook.closed.trans hopen.server⟩ hp hq' (hout'.trans hout) hread
        (hbook.log ▸ next), hbook.log ▸ hlog⟩
  | @down _ _ p₁ q₁ ys hopen hq hp hout hread next =>
    rw [hout, hopen.client] at hmove
    obtain ⟨rfl, hbook, ys', hrest, hq'⟩ := Move.of_sending hq hread hmove
    exact ⟨.down ⟨hopen.client, hbook.closed.trans hopen.server⟩ hq' (hrest ▸ hp) rfl hread
      (hbook.log ▸ next), hbook.log ▸ hlog⟩
  | @call _ _ x k hopen hp hq hpout hqout hgood next =>
    obtain ⟨prog, out, log, closed⟩ := q
    subst hq
    cases hmove with
    | call a => exact ⟨.of_paired (next a) ⟨hopen.client, hopen.server⟩ hpout hqout, hgood a⟩
  | wind hp hq =>
    obtain ⟨hq', hsame⟩ := Move.of_flushes hq hmove
    exact ⟨.wind hp hq', hsame ▸ hlog⟩
  | @stall _ _ p₁ ys hs hopen hp hq hout hread =>
    rw [hopen.client] at hmove
    obtain ⟨hout', hbook, hq'⟩ := Move.of_starving hq hmove
    exact ⟨.stall hs ⟨hopen.client, hbook.closed.trans hopen.server⟩ hp hq' (hout'.trans hout)
      hread, hbook.log ▸ hlog⟩

/-- **One step of either party, and they are still linked.** -/
theorem Linked.step (hstep : Net.Step eof s s') (h : Linked good stalls s ∧ good s.server.log) :
    Linked good stalls s' ∧ good s'.server.log := by
  cases hstep with
  | client hmove => exact ⟨h.1.of_client_move hmove, h.2⟩
  | server hmove => exact h.1.of_server_move h.2 hmove

/-- **Parties that are linked are not in a deadlock**, unless the pairing has a stall. -/
theorem Linked.not_deadlock (h : Linked good stalls s) (hs : ¬stalls) : ¬s.Deadlock := by
  rintro ⟨hclient, hserver, hcout, hsout⟩
  cases h with
  | @up p q p' q' ys hopen hp hq hout hread next =>
    rw [hcout, hp.nil_of_isReading hclient] at hq
    exact hq.ne_nil rfl
  | @down p q p' q' ys hopen hq hp hout hread next =>
    rw [hsout, hq.nil_of_isReading hserver] at hp
    exact hp.ne_nil rfl
  | call hopen hp hq hpout hqout hgood next =>
    rw [hq] at hserver
    cases hserver
  | wind hp hq => exact hq.not_isReading hserver
  | stall hstalls => exact hs hstalls

/-! ### Whole runs -/

section Runs

variable {client : Prog ε Q A α} {server : Prog ε Q' A' β}

/-- Whatever the order of steps and the chunking, paired programs stay linked. -/
theorem Paired.linked (h : Paired good stalls client server []) (hnil : good [])
    (hrun : Net.Reachable eof (Net.start client server) s) :
    Linked good stalls s ∧ good s.server.log :=
  hrun.invariant (fun h hstep => Linked.step hstep h)
    ⟨.of_paired (p := ⟨client, [], [], false⟩) (q := ⟨server, [], [], false⟩) h ⟨rfl, rfl⟩ rfl rfl,
      hnil⟩

/-- **Paired programs do not deadlock**, if the pairing has no stall. -/
theorem Paired.not_deadlock (h : Paired good stalls client server []) (hs : ¬stalls)
    (hnil : good []) (hrun : Net.Reachable eof (Net.start client server) s) : ¬s.Deadlock :=
  (h.linked hnil hrun).1.not_deadlock hs

/-- **What the pairing shows of the server's log holds in every run.** -/
theorem Paired.good_log (h : Paired good stalls client server []) (hnil : good [])
    (hrun : Net.Reachable eof (Net.start client server) s) : good s.server.log :=
  (h.linked hnil hrun).2

/-- A question the server is about to ask will be in its log. -/
theorem Paired.good_call (h : Paired good stalls client server []) (hnil : good [])
    (hrun : Net.Reachable eof (Net.start client server) s) {x : Q'} {k : A' → Prog ε Q' A' β}
    (hprog : s.server.prog = .call x k) (a : A') : good (s.server.log ++ [(x, a)]) := by
  obtain ⟨p, prog, out, log, closed⟩ := s
  subst hprog
  exact h.good_log hnil (hrun.tail (.server (.call a)))

end Runs

end Asio
