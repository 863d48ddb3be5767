import Socks.Asio.Dialogue

/-!
# How a dialogue ends

Two programs that fit together get through their messages. What do they make of it? Here the
client has one read left, its last, and the server has read what it is going to read. It asks what
it has to ask, sends one more message at most, and is done. Then either party is on its own: what
runs on the connection after the server's program may send at once, and its bytes come right
behind the last message, into the same read of the client. A server may also be done and silent.

So three questions remain: whether the result of the client agrees with the result of the server,
whichever way the last bytes come; what the server has left unread of what the client sent; and
whether they ever get stuck on the way. A `Contract` says what the answers are to be. `Leads` is
a statement about two trees, as `Paired` is: along every branch, the exchange leads to a server
that `Concludes`, with a message that is `Understood`.

The last message of the client need not be framed: the server may stop before its end, and then
the rest of it is what it has left unread.

## Main definitions

* `Asio.Net.Orderly` — steps in which a silent server sends nothing
* `Asio.Contract`, `Asio.LastRead`, `Asio.Understood`, `Asio.Concludes` — the end of a dialogue
* `Asio.Leads` — two programs that get there

## Main results

* `Asio.Leads.agreed`, `Asio.Leads.drained`, `Asio.Leads.left_over`, `Asio.Leads.good_log`,
  `Asio.Leads.not_deadlock` — what it gives for every reachable state
-/

namespace Asio

variable {ε : Type} [ErrorLike ε] {Q A α Q' A' β : Type}

/-! ### Silent servers -/

namespace Net

variable {eof : ε} {silent : β → Prop} {s s' : Net ε Q A α Q' A' β}

/-- A step in which a server that is done, and is to be silent then, sends nothing. -/
def Orderly (eof : ε) (silent : β → Prop) (s s' : Net ε Q A α Q' A' β) : Prop :=
  Step eof s s' ∧ ∀ b, s.server.prog = .pure b → silent b → s'.server.out <:+ s.server.out

/-- Any order of such steps. -/
def OrderlyReachable (eof : ε) (silent : β → Prop) :
    Net ε Q A α Q' A' β → Net ε Q A α Q' A' β → Prop :=
  Relation.ReflTransGen (Orderly eof silent)

theorem OrderlyReachable.invariant {I : Net ε Q A α Q' A' β → Prop}
    (hstep : ∀ {s s'}, I s → Orderly eof silent s s' → I s')
    (h : OrderlyReachable eof silent s s') (hs : I s) : I s' := by
  induction h with
  | refl => exact hs
  | tail _ hlast ih => exact hstep ih hlast

end Net

/-! ### The last read -/

/-- The last read of a client: whatever it gets, it is done. -/
structure LastRead (ε : Type) [ErrorLike ε] (α : Type) where
  cond : Cond ε
  cap : ℕ
  result : Bytes → ε → α

namespace LastRead

/-- The read as a program. -/
def prog (r : LastRead ε α) : Prog ε Q A α :=
  .read r.cond r.cap fun got e => .pure (r.result got e)

/-- What is left of the read when it has received `x`. -/
def after (r : LastRead ε α) (x : Bytes) : LastRead ε α :=
  ⟨r.cond.after x, r.cap - x.length, fun got e => r.result (x ++ got) e⟩

/-- The read ends with `x`. -/
def Stops (r : LastRead ε α) (x : Bytes) : Prop :=
  ¬Waits (r.cond.after x) (r.cap - x.length)

variable {r : LastRead ε α}

@[simp] theorem after_nil (r : LastRead ε α) : r.after [] = r := rfl

theorem after_after (r : LastRead ε α) (x y : Bytes) : (r.after x).after y = r.after (x ++ y) := by
  simp only [after, Cond.after_after, Nat.sub_sub, List.length_append, List.append_assoc]

theorem stops_after {x y : Bytes} : (r.after x).Stops y ↔ r.Stops (x ++ y) := by
  rw [Stops, Stops, after, Cond.after_after, Nat.sub_sub, List.length_append]

theorem isReading_prog (h : Waits r.cond r.cap) : IsReading (r.prog : Prog ε Q A α) := ⟨h⟩

theorem not_writing_pure {zs : Bytes} {a : α} :
    ¬Writing (r.prog : Prog ε Q A α) zs (.pure a) := nofun

end LastRead

/-! ### What is to hold in the end -/

/-- What a client and a server are held to. -/
structure Contract (α Q' A' β : Type) where
  /-- A server that is done so sends nothing any more. -/
  silent : β → Prop
  /-- The result of the client agrees with that of the server, and with what it has asked. -/
  agree : α → β → List (Q' × A') → Prop
  /-- A server that is done so may have left this unread. -/
  leave : β → Bytes → Prop
  /-- What the server may have asked. -/
  good : List (Q' × A') → Prop

variable (K : Contract α Q' A' β) (eof : ε) (r : LastRead ε α)

/-- The client understands the last message of a server that is done with the result `b`. What
follows it in the same read is `rest`, and nothing if the server is silent. -/
structure Understood (m : Bytes) (b : β) (l : List (Q' × A')) : Prop where
  /-- The read does not end before the message does, and what it ends with agrees. -/
  stop : ∀ rest x, (K.silent b → rest = []) → x <+: m ++ rest → x.length ≤ r.cap → r.Stops x →
    m <+: x ∧ K.agree (r.result x ok) b l
  /-- What it ends with because the server has closed agrees. -/
  eof : ∀ rest, (K.silent b → rest = []) → ¬r.Stops (m ++ rest) →
    K.agree (r.result (m ++ rest) eof) b l

/-- A server that is done with reading, and has left `left` unread: whatever the answers to its
questions, it comes to its last message, if it sends one, and is done. -/
inductive Concludes (left : Bytes) : Prog ε Q' A' β → List (Q' × A') → Prop
  | call {q k l} (hgood : ∀ a, K.good (l ++ [(q, a)]))
      (next : ∀ a, Concludes left (k a) (l ++ [(q, a)])) : Concludes left (.call q k) l
  | flush {p m b l} (hp : Writing (.pure b) m p) (hleft : K.leave b left)
      (h : Understood K eof r m b l) : Concludes left p l

/-- A server that reads the last message of the client: wherever the read ends, with whatever left
of the message, the server concludes. It does end. -/
structure Takes (bs : Bytes) (c : Cond ε) (cap : ℕ) (k : Bytes → ε → Prog ε Q' A' β)
    (l : List (Q' × A')) : Prop where
  stop : ∀ x left, x ++ left = bs → ¬Waits (c.after x) (cap - x.length) →
    Concludes K eof r left (k x ok) l
  ends : ¬Waits (c.after bs) (cap - bs.length)

variable {K eof r}

theorem Takes.after {x bs : Bytes} {c : Cond ε} {cap : ℕ} {k : Bytes → ε → Prog ε Q' A' β}
    {l : List (Q' × A')} (h : Takes K eof r (x ++ bs) c cap k l) :
    Takes K eof r bs (c.after x) (cap - x.length) (fun got e => k (x ++ got) e) l where
  stop y left hy hw := by
    refine h.stop (x ++ y) left (by rw [List.append_assoc, hy]) ?_
    rwa [Cond.after_after, Nat.sub_sub, ← List.length_append] at hw
  ends := by
    have hw := h.ends
    rwa [Cond.after_after, Nat.sub_sub, ← List.length_append]

/-! ### The end of a dialogue, step by step -/

/-- What a program that is writing has left to write. -/
def Prog.pending : Prog ε Q A α → Bytes
  | .write bs _ => bs
  | _ => []

theorem Writing.pending_eq {x zs : Bytes} {prog : Prog ε Q A α}
    (h : Writing (r.after x).prog zs prog) : prog.pending = zs := by
  cases h <;> rfl

theorem Writing.eq_of_pure {b b' : β} {ys : Bytes}
    (h : Writing (.pure b') ys (.pure b : Prog ε Q' A' β)) : b' = b := by
  cases h
  rfl

variable (K eof r)

/-- The last message is on its way, and what follows it: the client has received `x`. It may not
have written all of its own last message, `zs`, by then. -/
structure Telling (p : Party ε Q A α) (q : Party ε Q' A' β) (zs ys x m rest : Bytes) (b : β) :
    Prop where
  client : Writing (r.after x).prog zs p.prog
  server : Writing (.pure b) ys q.prog
  stream : x ++ (q.out ++ ys) = m ++ rest
  length_le : x.length ≤ r.cap
  silent : K.silent b → rest = []
  /-- What follows the message comes after it. -/
  later : ys ≠ [] → rest = []
  closed : q.closed = true → ys = []
  leave : ∃ left, K.leave b left ∧ p.out ++ zs <:+ left
  understood : Understood K eof r m b q.log

/-- A client and a server at the end of a dialogue. -/
inductive Concluding : Net ε Q A α Q' A' β → Prop
  /-- The server may have questions. -/
  | asking {p q zs} (hopen : Open p q) (hp : Writing r.prog zs p.prog)
      (hq : Concludes K eof r (p.out ++ zs) q.prog q.log) (hout : q.out = []) : Concluding ⟨p, q⟩
  /-- The last message is on its way. -/
  | telling {p q} (zs ys x m rest) (b : β) (h : Telling K eof r p q zs ys x m rest b) :
      Concluding ⟨p, q⟩
  /-- Both are done. -/
  | ended {p q a b} (hp : p.prog = .pure a) (hq : q.prog = .pure b) (h : K.agree a b q.log)
      (hout : K.silent b → q.out = []) : Concluding ⟨p, q⟩

section Ending

variable {K eof r} {p p' : Party ε Q A α} {q q' : Party ε Q' A' β} {zs ys x m rest inb : Bytes}
  {b : β}

/-- From the questions to the last message. -/
theorem Telling.of_flush (hopen : Open p q) (hp : Writing r.prog zs p.prog) (hout : q.out = [])
    (hq : Writing (.pure b) m q.prog) (hleft : K.leave b (p.out ++ zs))
    (h : Understood K eof r m b q.log) : Telling K eof r p q zs m [] m [] b where
  client := hp
  server := hq
  stream := by rw [hout, List.append_nil, List.nil_append, List.nil_append]
  length_le := Nat.zero_le _
  silent _ := rfl
  later _ := rfl
  closed hclosed := absurd (hopen.server.symm.trans hclosed) Bool.false_ne_true
  leave := ⟨_, hleft, List.suffix_rfl⟩
  understood := h

/-- A program that is done stays as it is, and asks nothing. -/
theorem Move.of_pure {a : α} {inb' : Bytes} {pc : Bool} (hp : p.prog = .pure a)
    (h : Move eof p inb pc p' inb') : p'.prog = .pure a ∧ p'.log = p.log := by
  obtain ⟨prog, out, log, closed⟩ := p
  obtain rfl : prog = .pure a := hp
  cases h <;> exact ⟨rfl, rfl⟩

/-- It sends more at most, and takes from the front of what it is sent. -/
theorem Move.suffix_of_pure {a : α} {inb' : Bytes} {pc : Bool} (hp : p.prog = .pure a)
    (h : Move eof p inb pc p' inb') : inb' <:+ inb := by
  obtain ⟨prog, out, log, closed⟩ := p
  obtain rfl : prog = .pure a := hp
  cases h with
  | emit => exact List.suffix_rfl
  | drop => exact List.suffix_append _ _
  | close => exact List.suffix_rfl

/-- A run up to where the server is not done yet is orderly. -/
theorem Net.OrderlyReachable.of_reachable {silent : β → Prop} {s s' : Net ε Q A α Q' A' β}
    (h : Net.Reachable eof s s') (hprog : ∀ b, s'.server.prog ≠ .pure b) :
    Net.OrderlyReachable eof silent s s' := by
  induction h with
  | refl => exact .refl
  | @tail u v _ hlast ih =>
    have hprog' : ∀ b, u.server.prog ≠ .pure b := by
      intro b hb
      cases hlast with
      | client => exact hprog b hb
      | server hmove => exact hprog b (Move.of_pure hb hmove).1
    exact (ih hprog').tail ⟨hlast, fun b hb => absurd hb (hprog' b)⟩

/-- The server gets `x` and `y` of a message of the client, `x` in one go, and stops there. -/
theorem Net.reachable_up_part {y left : Bytes} {c : Cond ε} {cap : ℕ} {k : ℕ → ε → Prog ε Q A α}
    {k' : Bytes → ε → Prog ε Q' A' β} {l : List (Q × A)} {l' : List (Q' × A')} (hx : x ≠ [])
    (hy : y ≠ []) (hleft : left ≠ []) (hlen : x.length ≤ min (c.ask [] ok) cap)
    (hw : Waits (c.after x) (cap - x.length)) (hf : Frames (c.after x) (cap - x.length) y) :
    Net.Reachable eof (Net.between (.write (x ++ y ++ left) k) (.read c cap k') l l')
      (Net.between (.write left fun n e => k ((x ++ y).length + n) e) (k' (x ++ y) ok) l l') := by
  have hwrite : Move eof ⟨.write (x ++ y ++ left) k, [], l, false⟩ [] false
      ⟨.write left fun n e => k ((x ++ y).length + n) e, [] ++ (x ++ y), l, false⟩ [] :=
    .writeSome (List.append_ne_nil_of_left_ne_nil hx y) hleft
  have hfirst : Move eof ⟨.read c cap k', [], l', false⟩ (x ++ y) false
      ⟨.read (c.after x) (cap - x.length) fun got e => k' (x ++ got) e, [], l', false⟩ y :=
    .readSome hx hlen hw
  have hrest : Moves eof
      (⟨.read (c.after x) (cap - x.length) fun got e => k' (x ++ got) e, [], l', false⟩, y)
      (⟨k' (x ++ y) ok, [], l', false⟩, []) := moves_read eof hy hf
  refine .head (Net.Step.client
    (s := Net.between (.write (x ++ y ++ left) k) (.read c cap k') l l') hwrite) ?_
  exact Net.reachable_of_server_moves rfl (Relation.ReflTransGen.head (b := (_, y)) hfirst hrest)

/-- The server writes its last message, in one go. -/
theorem Net.orderlyReachable_told {silent : β → Prop} {c : Prog ε Q A α} {l : List (Q × A)}
    {l' : List (Q' × A')} {k : ℕ → ε → Prog ε Q' A' β} (hk : k m.length ok = .pure b) :
    Net.OrderlyReachable eof silent (Net.between c (.write m k) l l')
      ⟨⟨c, [], l, false⟩, ⟨.pure b, m, l', false⟩⟩ := by
  have hwrite : Move eof ⟨.write m k, [], l', false⟩ [] false
      ⟨k m.length ok, [] ++ m, l', false⟩ [] := .writeAll
  rw [hk] at hwrite
  exact .single ⟨Net.Step.server (s := Net.between c (.write m k) l l') hwrite,
    fun b hb => absurd hb nofun⟩

/-- The client reads it, in one go. -/
theorem Net.orderlyReachable_heard {silent : β → Prop} {l : List (Q × A)} {l' : List (Q' × A')}
    (hlen : m.length ≤ min (r.cond.ask [] ok) r.cap) (hstop : r.Stops m) :
    Net.OrderlyReachable eof silent ⟨⟨r.prog, [], l, false⟩, ⟨.pure b, m, l', false⟩⟩
      (Net.between (.pure (r.result m ok)) (.pure b) l l') := by
  have hread : Move eof ⟨r.prog, [], l, false⟩ (m ++ []) false
      ⟨.pure (r.result m ok), [], l, false⟩ [] := .readAll hlen hstop
  rw [List.append_nil] at hread
  exact .single ⟨.client hread, fun _ _ _ => List.nil_suffix⟩

/-- The server has written the last message, if the client has received all of it. -/
theorem eq_nil_of_received {w : Bytes} (hm : m <+: x) (hstream : x ++ (w ++ ys) = m ++ rest)
    (hlater : ys ≠ [] → rest = []) : ys = [] := by
  by_contra hys
  rw [hlater hys, List.append_nil] at hstream
  have hlen := congrArg List.length hstream
  have hle := hm.length_le
  have hpos := List.length_pos_iff.mpr hys
  simp only [List.length_append] at hlen
  omega

/-- A step of the client while the last message is on its way. -/
theorem Telling.client_move (h : Telling K eof r p q zs ys x m rest b)
    (hmove : Move eof p q.out q.closed p' inb) :
    Concluding K eof r ⟨p', { q with out := inb }⟩ := by
  by_cases hzs : zs = []
  · subst hzs
    have hprog : (r.after x).prog = p.prog := h.client.eq_of_nil
    obtain ⟨prog, out, log, closed⟩ := p
    obtain rfl : (r.after x).prog = prog := hprog
    obtain ⟨prog', out', log', closed'⟩ := q
    dsimp only at hmove
    generalize hinb : out' = inb₀ at hmove
    generalize hpc : closed' = pc at hmove
    have hstream := h.stream
    dsimp only at hstream
    cases hmove with
    | @readSome _ _ _ y _ _ _ _ _ hy hlen hw =>
      subst hinb hpc
      refine .telling [] ys (x ++ y) m rest b
        { h with client := ?_, stream := ?_, length_le := ?_ }
      · rw [← LastRead.after_after]
        exact .done
      · rw [← hstream]
        simp only [List.append_assoc]
      · have hcap := (Nat.le_min.mp hlen).2
        have hle := h.length_le
        rw [List.length_append]
        change y.length ≤ r.cap - x.length at hcap
        omega
    | @readAll _ _ _ y _ _ _ _ _ hlen hw =>
      subst hinb
      have hcap : y.length ≤ r.cap - x.length := (Nat.le_min.mp hlen).2
      have hle := h.length_le
      have hstop : r.Stops (x ++ y) := LastRead.stops_after.mp hw
      have hx : x ++ y <+: m ++ rest := by
        rw [← hstream, List.append_assoc, List.prefix_append_right_inj]
        exact List.prefix_append _ _
      obtain ⟨hm, hagree⟩ := h.understood.stop rest (x ++ y) h.silent hx
        (by rw [List.length_append]; omega) hstop
      have hys : ys = [] := by
        refine eq_nil_of_received (w := inb) hm ?_ h.later
        rw [← hstream]
        simp only [List.append_assoc]
      have hserver := h.server
      rw [hys] at hserver
      refine .ended rfl hserver.eq_of_nil.symm hagree fun hb => ?_
      -- The read took the message, and a silent server has sent nothing else.
      have hle := hm.length_le
      have hlen := congrArg List.length hstream
      simp only [h.silent hb, List.length_append, List.append_nil] at hlen hle
      have hinb : inb.length = 0 := by omega
      exact List.length_eq_zero_iff.mp hinb
    | readEof hw =>
      subst hinb hpc
      have hys := h.closed rfl
      have hserver := h.server
      rw [hys] at hserver hstream
      have hx : x = m ++ rest := by simpa using hstream
      have hagree := h.understood.eof rest h.silent
        (by rw [← hx]; exact fun hstop => hstop hw)
      rw [← hx] at hagree
      refine .ended (a := r.result (x ++ []) eof) rfl hserver.eq_of_nil.symm ?_ fun _ => rfl
      rw [List.append_nil]
      exact hagree
  · obtain ⟨rfl, -, y, zs', rfl, hout, hp'⟩ := Move.of_writing h.client hzs hmove
    refine .telling zs' ys x m rest b { h with client := hp', leave := ?_ }
    obtain ⟨left, hleft, hsuffix⟩ := h.leave
    exact ⟨left, hleft, by rwa [hout, List.append_assoc]⟩

/-- A step of the server while the last message is on its way. -/
theorem Telling.server_move (h : Telling K eof r p q zs ys x m rest b)
    (hmove : Move eof q p.out p.closed q' inb)
    (hsilent : ∀ b, q.prog = .pure b → K.silent b → q'.out <:+ q.out) :
    Concluding K eof r ⟨{ p with out := inb }, q'⟩ := by
  by_cases hys : ys = []
  · subst hys
    have hprog : .pure b = q.prog := h.server.eq_of_nil
    obtain ⟨prog, out, log, closed⟩ := q
    obtain rfl : .pure b = prog := hprog
    obtain ⟨prog', out', log', closed'⟩ := p
    have hstream := h.stream
    dsimp only at hmove hsilent hstream
    generalize hinb : out' = inb₀ at hmove
    cases hmove with
    | emit y =>
      subst hinb
      have hy : K.silent b → y = [] := fun hb => by
        have hlen := (hsilent b rfl hb).length_le
        rw [List.length_append] at hlen
        exact List.length_eq_zero_iff.mp (by omega)
      refine .telling zs [] x m (rest ++ y) b
        { h with server := .done, stream := ?_, silent := ?_, later := ?_, closed := fun _ => rfl }
      · rw [← List.append_assoc m, ← hstream]
        simp only [List.append_nil, List.append_assoc]
      · exact fun hb => by rw [h.silent hb, hy hb, List.append_nil]
      · exact fun hne => absurd rfl hne
    | drop =>
      subst hinb
      refine .telling zs [] x m rest b { h with leave := ?_ }
      obtain ⟨left, hleft, hsuffix⟩ := h.leave
      refine ⟨left, hleft, List.IsSuffix.trans ?_ hsuffix⟩
      rw [List.append_assoc]
      exact List.suffix_append _ _
    | close =>
      subst hinb
      exact .telling zs [] x m rest b { h with closed := fun _ => rfl }
  · obtain ⟨rfl, hbook, y, ys', rfl, hout, hq'⟩ := Move.of_writing h.server hys hmove
    refine .telling zs ys' x m rest b
      { h with server := hq', stream := ?_, later := fun _ => h.later hys, closed := ?_,
               understood := hbook.log ▸ h.understood }
    · rw [hout, List.append_assoc, h.stream]
    · intro hclosed
      exact absurd (h.closed (hbook.closed ▸ hclosed)) hys

/-- The server asks nothing any more. -/
theorem Telling.log_server_move (h : Telling K eof r p q zs ys x m rest b)
    (hmove : Move eof q p.out p.closed q' inb) : q'.log = q.log := by
  by_cases hys : ys = []
  · have hserver := h.server
    rw [hys] at hserver
    exact (Move.of_pure hserver.eq_of_nil.symm hmove).2
  · obtain ⟨-, hbook, -⟩ := Move.of_writing h.server hys hmove
    exact hbook.log

/-- A step of the client keeps the dialogue at its end. -/
theorem Concluding.client_move (hr : Waits r.cond r.cap) (h : Concluding K eof r ⟨p, q⟩)
    (hmove : Move eof p q.out q.closed p' inb) :
    Concluding K eof r ⟨p', { q with out := inb }⟩ := by
  cases h with
  | asking hopen hp hq hout =>
    rw [hout, hopen.server] at hmove
    obtain ⟨rfl, hbook, zs', hrest, hp'⟩ := Move.of_sending hp (LastRead.isReading_prog hr) hmove
    exact .asking ⟨hbook.closed.trans hopen.client, hopen.server⟩ hp' (hrest ▸ hq) rfl
  | telling _ _ _ _ _ _ h => exact h.client_move hmove
  | ended hp hq h hout =>
    refine .ended (Move.of_pure hp hmove).1 hq h fun hb => ?_
    have hsuffix := Move.suffix_of_pure hp hmove
    rwa [hout hb, List.suffix_nil] at hsuffix

/-- A step of the server keeps the dialogue at its end, and the log good. -/
theorem Concluding.server_move (h : Concluding K eof r ⟨p, q⟩) (hlog : K.good q.log)
    (hmove : Move eof q p.out p.closed q' inb)
    (hsilent : ∀ b, q.prog = .pure b → K.silent b → q'.out <:+ q.out) :
    Concluding K eof r ⟨{ p with out := inb }, q'⟩ ∧ K.good q'.log := by
  cases h with
  | @asking _ _ zs hopen hp hq hout =>
    generalize hprog : q.prog = prog at hq
    cases hq with
    | call hgood next =>
      obtain ⟨prog', out, log, closed⟩ := q
      obtain rfl : prog' = _ := hprog
      cases hmove with
      | call a => exact ⟨.asking ⟨hopen.client, hopen.server⟩ hp (next a) hout, hgood a⟩
    | flush hq hleft h =>
      have htelling := Telling.of_flush hopen hp hout (hprog ▸ hq) hleft h
      exact ⟨htelling.server_move hmove hsilent, htelling.log_server_move hmove ▸ hlog⟩
  | telling _ _ _ _ _ _ h => exact ⟨h.server_move hmove hsilent, h.log_server_move hmove ▸ hlog⟩
  | ended hp hq h hout =>
    obtain ⟨hq', hsame⟩ := Move.of_pure hq hmove
    refine ⟨.ended hp hq' (hsame ▸ h) fun hb => ?_, hsame ▸ hlog⟩
    have hsuffix := hsilent _ hq hb
    rwa [hout hb, List.suffix_nil] at hsuffix

variable {s s' : Net ε Q A α Q' A' β}

/-- A server that is done or writes its last message does not wait in a read. -/
theorem not_isReading_of_writing {prog : Prog ε Q' A' β} (h : Writing (.pure b) ys prog) :
    ¬IsReading prog := by
  cases h <;> exact nofun

theorem Concludes.not_isReading {left : Bytes} {prog : Prog ε Q' A' β} {l : List (Q' × A')}
    (h : Concludes K eof r left prog l) : ¬IsReading prog := by
  cases h with
  | call => exact nofun
  | flush hp => exact not_isReading_of_writing hp

theorem Concluding.not_deadlock (h : Concluding K eof r s) : ¬s.Deadlock := by
  rintro ⟨-, hserver, -, -⟩
  cases h with
  | asking hopen hp hq hout => exact hq.not_isReading hserver
  | telling _ _ _ _ _ _ h => exact not_isReading_of_writing h.server hserver
  | ended hp hq h => exact absurd (hq ▸ hserver) nofun

/-- **A client that is done agrees with a server that is done.** -/
theorem Concluding.agreed {a : α} (h : Concluding K eof r s) (ha : s.client.prog = .pure a) :
    ∃ b, s.server.prog = .pure b ∧ K.agree a b s.server.log := by
  cases h with
  | asking hopen hp => exact absurd (ha ▸ hp) LastRead.not_writing_pure
  | telling _ _ _ _ _ _ h => exact absurd (ha ▸ h.client) LastRead.not_writing_pure
  | ended hp hq h =>
    obtain rfl := Prog.pure.inj (hp.symm.trans ha)
    exact ⟨_, hq, h⟩

/-- **What a silent server has sent is all taken when the client is done.** -/
theorem Concluding.drained {a : α} (h : Concluding K eof r s) (ha : s.client.prog = .pure a)
    (hb : s.server.prog = .pure b) (hsilent : K.silent b) : s.server.out = [] := by
  cases h with
  | asking hopen hp => exact absurd (ha ▸ hp) LastRead.not_writing_pure
  | telling _ _ _ _ _ _ h => exact absurd (ha ▸ h.client) LastRead.not_writing_pure
  | ended hp hq h hout =>
    obtain rfl := Prog.pure.inj (hq.symm.trans hb)
    exact hout hsilent

/-- **What a server that is done may find unread of what the client sends before it is done
too.** -/
theorem Concluding.left_over (h : Concluding K eof r s) (hb : s.server.prog = .pure b) :
    (∃ a, s.client.prog = .pure a) ∨
      ∃ left, K.leave b left ∧ s.client.out ++ s.client.prog.pending <:+ left := by
  cases h with
  | @asking p q zs hopen hp hq hout =>
    have hpending : p.prog.pending = zs := Writing.pending_eq (r := r) (x := []) hp
    have hsuffix : p.out ++ p.prog.pending <:+ p.out ++ zs := hpending ▸ List.suffix_rfl
    refine Or.inr ⟨p.out ++ zs, ?_, hsuffix⟩
    rw [hb] at hq
    cases hq with
    | flush hq hleft h => exact hq.eq_of_pure ▸ hleft
  | telling _ _ _ _ _ _ h =>
    obtain ⟨left, hleft, hsuffix⟩ := h.leave
    refine Or.inr ⟨left, ?_, by rw [h.client.pending_eq]; exact hsuffix⟩
    have hserver := h.server
    rw [hb] at hserver
    exact hserver.eq_of_pure ▸ hleft
  | ended hp => exact Or.inl ⟨_, hp⟩

end Ending

/-! ### Getting there -/

variable (stalls : Prop)

/-- A client and a server whose exchange leads to the end of a dialogue, the server having the
given log. The first three are those of `Paired`. -/
inductive Leads : Prog ε Q A α → Prog ε Q' A' β → List (Q' × A') → Prop
  | up {bs c cap k k' l} (hb : bs ≠ []) (hf : Frames c cap bs) (hk : IsReading (k bs.length ok))
      (next : Leads (k bs.length ok) (k' bs ok) l) : Leads (.write bs k) (.read c cap k') l
  | down {bs c cap k k' l} (hb : bs ≠ []) (hf : Frames c cap bs) (hk : IsReading (k' bs.length ok))
      (next : Leads (k bs ok) (k' bs.length ok) l) : Leads (.read c cap k) (.write bs k') l
  | stall {bs c cap k k' l} (hs : stalls) (hb : bs ≠ []) (he : Endless c cap bs)
      (hk : IsReading (k bs.length ok)) : Leads (.write bs k) (.read c cap k') l
  /-- The client writes its last message, and comes to its last read. -/
  | last {bs c cap k k' l} (hb : bs ≠ []) (hk : k bs.length ok = r.prog)
      (h : Takes K eof r bs c cap k' l) : Leads (.write bs k) (.read c cap k') l

/-- A client and a server on the way. -/
inductive Leading : Net ε Q A α Q' A' β → Prop
  | up {p q p' q' ys} (hopen : Open p q) (hp : Writing p' ys p.prog)
      (hq : Reading q' (p.out ++ ys) q.prog) (hout : q.out = []) (hread : IsReading p')
      (next : Leads K eof r stalls p' q' q.log) : Leading ⟨p, q⟩
  | down {p q p' q' ys} (hopen : Open p q) (hq : Writing q' ys q.prog)
      (hp : Reading p' (q.out ++ ys) p.prog) (hout : p.out = []) (hread : IsReading q')
      (next : Leads K eof r stalls p' q' q.log) : Leading ⟨p, q⟩
  | stall {p q p' ys} (hs : stalls) (hopen : Open p q) (hp : Writing p' ys p.prog)
      (hq : Starving (p.out ++ ys) q.prog) (hout : q.out = []) (hread : IsReading p') :
      Leading ⟨p, q⟩
  | last {p q c cap k ys} (hopen : Open p q) (hp : Writing r.prog ys p.prog)
      (hq : q.prog = .read c cap k) (hout : q.out = [])
      (h : Takes K eof r (p.out ++ ys) c cap k q.log) : Leading ⟨p, q⟩
  | concluding {p q} (h : Concluding K eof r ⟨p, q⟩) : Leading ⟨p, q⟩

variable {K eof r stalls} {p p' : Party ε Q A α} {q q' : Party ε Q' A' β} {inb : Bytes} {b : β}
  {s s' : Net ε Q A α Q' A' β}

/-- Between two messages. -/
theorem Leading.of_leads (h : Leads K eof r stalls p.prog q.prog q.log) (hopen : Open p q)
    (hpout : p.out = []) (hqout : q.out = []) : Leading K eof r stalls ⟨p, q⟩ := by
  obtain ⟨prog, out, log, closed⟩ := p
  obtain ⟨prog', out', log', closed'⟩ := q
  obtain rfl : out = [] := hpout
  obtain rfl : out' = [] := hqout
  cases h with
  | up hb hf hk next => exact .up hopen (.more hb rfl) (.mk hb hf rfl) rfl hk next
  | down hb hf hk next => exact .down hopen (.more hb rfl) (.mk hb hf rfl) rfl hk next
  | stall hs hb he hk => exact .stall hs hopen (.more hb rfl) ⟨he⟩ rfl hk
  | last hb hk h => exact .last hopen (.more hb hk) rfl rfl h

/-- A step of the client. -/
theorem Leading.client_move (hr : Waits r.cond r.cap) (h : Leading K eof r stalls ⟨p, q⟩)
    (hmove : Move eof p q.out q.closed p' inb) :
    Leading K eof r stalls ⟨p', { q with out := inb }⟩ := by
  cases h with
  | up hopen hp hq hout hread next =>
    rw [hout, hopen.server] at hmove
    obtain ⟨rfl, hbook, ys', hrest, hp'⟩ := Move.of_sending hp hread hmove
    exact .up ⟨hbook.closed.trans hopen.client, hopen.server⟩ hp' (hrest ▸ hq) rfl hread next
  | down hopen hq hp hout hread next =>
    rw [hopen.server] at hmove
    obtain ⟨hout', hbook, ⟨rfl, rfl, hp'⟩ | hp'⟩ := Move.of_reading hp hmove
    · subst hp'
      refine .of_leads ?_ ⟨hbook.closed.trans hopen.client, hopen.server⟩ (hout'.trans hout) rfl
      rw [hq.eq_of_nil] at next
      exact next
    · exact .down ⟨hbook.closed.trans hopen.client, hopen.server⟩ hq hp' (hout'.trans hout) hread
        next
  | stall hs hopen hp hq hout hread =>
    rw [hout, hopen.server] at hmove
    obtain ⟨rfl, hbook, ys', hrest, hp'⟩ := Move.of_sending hp hread hmove
    exact .stall hs ⟨hbook.closed.trans hopen.client, hopen.server⟩ hp' (hrest ▸ hq) rfl hread
  | last hopen hp hq hout h =>
    rw [hout, hopen.server] at hmove
    obtain ⟨rfl, hbook, ys', hrest, hp'⟩ := Move.of_sending hp (LastRead.isReading_prog hr) hmove
    exact .last ⟨hbook.closed.trans hopen.client, hopen.server⟩ hp' hq rfl (hrest ▸ h)
  | concluding h => exact .concluding (h.client_move hr hmove)

/-- A step of the server. -/
theorem Leading.server_move (h : Leading K eof r stalls ⟨p, q⟩) (hlog : K.good q.log)
    (hmove : Move eof q p.out p.closed q' inb)
    (hsilent : ∀ b, q.prog = .pure b → K.silent b → q'.out <:+ q.out) :
    Leading K eof r stalls ⟨{ p with out := inb }, q'⟩ ∧ K.good q'.log := by
  cases h with
  | up hopen hp hq hout hread next =>
    rw [hopen.client] at hmove
    obtain ⟨hout', hbook, ⟨rfl, rfl, hq'⟩ | hq'⟩ := Move.of_reading hq hmove
    · subst hq'
      refine ⟨.of_leads ?_ ⟨hopen.client, hbook.closed.trans hopen.server⟩ rfl (hout'.trans hout),
        hbook.log ▸ hlog⟩
      rw [hp.eq_of_nil, ← hbook.log] at next
      exact next
    · exact ⟨.up ⟨hopen.client, hbook.closed.trans hopen.server⟩ hp hq' (hout'.trans hout) hread
        (hbook.log ▸ next), hbook.log ▸ hlog⟩
  | down hopen hq hp hout hread next =>
    rw [hout, hopen.client] at hmove
    obtain ⟨rfl, hbook, ys', hrest, hq'⟩ := Move.of_sending hq hread hmove
    exact ⟨.down ⟨hopen.client, hbook.closed.trans hopen.server⟩ hq' (hrest ▸ hp) rfl hread
      (hbook.log ▸ next), hbook.log ▸ hlog⟩
  | stall hs hopen hp hq hout hread =>
    rw [hopen.client] at hmove
    obtain ⟨hout', hbook, hq'⟩ := Move.of_starving hq hmove
    exact ⟨.stall hs ⟨hopen.client, hbook.closed.trans hopen.server⟩ hp hq' (hout'.trans hout)
      hread, hbook.log ▸ hlog⟩
  | last hopen hp hq hout h =>
    obtain ⟨prog, out, log, closed⟩ := q
    obtain rfl : prog = _ := hq
    rw [hopen.client] at hmove
    dsimp only at hmove h hout
    generalize hinb : p.out = inb₀ at hmove h
    generalize hpc : false = pc at hmove
    cases hmove with
    | readSome =>
      rw [List.append_assoc] at h
      exact ⟨.last ⟨hopen.client, hopen.server⟩ hp rfl hout h.after, hlog⟩
    | readAll _ hw =>
      -- The server stops here, and leaves the rest.
      rw [List.append_assoc] at h
      exact ⟨.concluding (.asking ⟨hopen.client, hopen.server⟩ hp (h.stop _ _ rfl hw) hout), hlog⟩
    | readEof => cases hpc
  | concluding h =>
    obtain ⟨h', hlog'⟩ := h.server_move hlog hmove hsilent
    exact ⟨.concluding h', hlog'⟩

/-- **One step of either party.** -/
theorem Leading.step (hr : Waits r.cond r.cap) (hstep : Net.Orderly eof K.silent s s')
    (h : Leading K eof r stalls s ∧ K.good s.server.log) :
    Leading K eof r stalls s' ∧ K.good s'.server.log := by
  obtain ⟨hmove | hmove, hsilent⟩ := hstep
  · exact ⟨h.1.client_move hr hmove, h.2⟩
  · exact h.1.server_move h.2 hmove hsilent

/-- What is not yet concluding is waiting for something that is on its way. -/
theorem Leading.not_deadlock (h : Leading K eof r stalls s) (hs : ¬stalls) : ¬s.Deadlock := by
  rintro ⟨hclient, hserver, hcout, hsout⟩
  cases h with
  | @up p q p' q' ys hopen hp hq hout hread next =>
    rw [hcout, hp.nil_of_isReading hclient] at hq
    exact hq.ne_nil rfl
  | @down p q p' q' ys hopen hq hp hout hread next =>
    rw [hsout, hq.nil_of_isReading hserver] at hp
    exact hp.ne_nil rfl
  | stall hstalls => exact hs hstalls
  | @last p q c cap k ys hopen hp hq hout h =>
    have hends := h.ends
    rw [hp.nil_of_isReading hclient, hcout] at hends
    change IsReading q.prog at hserver
    rw [hq] at hserver
    cases hserver with
    | mk hw => exact hends hw
  | concluding h => exact h.not_deadlock ⟨hclient, hserver, hcout, hsout⟩

/-- A party that is done is at the end. -/
theorem Leading.concluding_of_pure (h : Leading K eof r stalls s)
    (hdone : (∃ a, s.client.prog = .pure a) ∨ ∃ b, s.server.prog = .pure b) :
    Concluding K eof r s := by
  cases h with
  | @up p q p' q' ys hopen hp hq hout hread next =>
    obtain ⟨a, ha⟩ | ⟨b, hb⟩ := hdone
    · rw [show p.prog = .pure a from ha] at hp
      cases hp
      cases hread
    · rw [show q.prog = .pure b from hb] at hq
      cases hq
  | @down p q p' q' ys hopen hq hp hout hread next =>
    obtain ⟨a, ha⟩ | ⟨b, hb⟩ := hdone
    · rw [show p.prog = .pure a from ha] at hp
      cases hp
    · rw [show q.prog = .pure b from hb] at hq
      cases hq
      cases hread
  | @stall p q p' ys hs hopen hp hq hout hread =>
    obtain ⟨a, ha⟩ | ⟨b, hb⟩ := hdone
    · rw [show p.prog = .pure a from ha] at hp
      cases hp
      cases hread
    · rw [show q.prog = .pure b from hb] at hq
      cases hq
  | @last p q c cap k ys hopen hp hq hout h =>
    obtain ⟨a, ha⟩ | ⟨b, hb⟩ := hdone
    · exact absurd (show p.prog = .pure a from ha ▸ rfl) fun hpa =>
        absurd (hpa ▸ hp) LastRead.not_writing_pure
    · exact absurd (hq.symm.trans hb) nofun
  | concluding h => exact h

/-! ### Whole runs -/

section Runs

variable {client : Prog ε Q A α} {server : Prog ε Q' A' β}
  (h : Leads K eof r stalls client server []) (hr : Waits r.cond r.cap) (hnil : K.good [])
  (hrun : Net.OrderlyReachable eof K.silent (Net.start client server) s)

include h hr hnil hrun

/-- The invariant. -/
theorem Leads.leading : Leading K eof r stalls s ∧ K.good s.server.log :=
  hrun.invariant (I := fun s => Leading K eof r stalls s ∧ K.good s.server.log)
    (fun h hstep => Leading.step hr hstep h)
    ⟨.of_leads (p := ⟨client, [], [], false⟩) (q := ⟨server, [], [], false⟩) h ⟨rfl, rfl⟩ rfl rfl,
      hnil⟩

/-- **A client that is done agrees with the server, which is done as well.** -/
theorem Leads.agreed {a : α} (ha : s.client.prog = .pure a) :
    ∃ b, s.server.prog = .pure b ∧ K.agree a b s.server.log :=
  ((h.leading hr hnil hrun).1.concluding_of_pure (Or.inl ⟨a, ha⟩)).agreed ha

/-- **What a silent server has sent is all taken when the client is done.** -/
theorem Leads.drained {a : α} (ha : s.client.prog = .pure a) (hb : s.server.prog = .pure b)
    (hsilent : K.silent b) : s.server.out = [] :=
  ((h.leading hr hnil hrun).1.concluding_of_pure (Or.inl ⟨a, ha⟩)).drained ha hb hsilent

/-- **What a server that is done may find unread**, as long as the client is not. -/
theorem Leads.left_over (hb : s.server.prog = .pure b) : (∃ a, s.client.prog = .pure a) ∨
    ∃ left, K.leave b left ∧ s.client.out ++ s.client.prog.pending <:+ left :=
  ((h.leading hr hnil hrun).1.concluding_of_pure (Or.inr ⟨b, hb⟩)).left_over hb

theorem Leads.good_log : K.good s.server.log := (h.leading hr hnil hrun).2

/-- A question the server is about to ask will be in its log. -/
theorem Leads.good_call {x : Q'} {k : A' → Prog ε Q' A' β} (hprog : s.server.prog = .call x k)
    (a : A') : K.good (s.server.log ++ [(x, a)]) := by
  obtain ⟨p, prog, out, log, closed⟩ := s
  obtain rfl : prog = _ := hprog
  refine h.good_log hr hnil (hrun.tail ⟨.server (.call a), ?_⟩)
  exact fun b hb => absurd hb nofun

/-- **They never deadlock**, if there is no stall. -/
theorem Leads.not_deadlock (hs : ¬stalls) : ¬s.Deadlock :=
  (h.leading hr hnil hrun).1.not_deadlock hs

end Runs

end Asio
