import Socks.Asio.Conclusion

/-!
# One program after another

A client that has come to the end of one program may go on with another, on the same connection,
and which one may depend on what has come of the first. Does the server notice? A run of the two
is a run of the first, up to its end; from there on, it is a run of the second, against whatever
the server has become by then.

If the server is done and silent by then, nobody answers any more. The second program may write
what it likes, and each of its reads finds the end of the file: what it returns can be read off
the tree, and `Unanswered` does so.

## Main definitions

* `Asio.Net.bind` — the client goes on with a second program
* `Asio.Unanswered` — what a program returns that gets no answers
* `Asio.Net.Alone` — a client that gets none

## Main results

* `Asio.Net.OrderlyReachable.continued`, `Asio.Net.OrderlyReachable.bind` — the runs of two
  programs are those of the first, and what follows them
* `Asio.Unanswered.returns` — a client that gets no answers returns, if the server closes
* `Asio.Leads.sequel_agreed`, `Asio.Leads.sequel_good_log`, `Asio.Leads.sequel_not_deadlock` — a
  dialogue, after which the client goes on in vain
-/

namespace Asio

variable {ε : Type} [ErrorLike ε] {Q A α Q' A' β γ : Type}

/-! ### Going on -/

/-- The party goes on with `f` when it is done. -/
def Party.bind (p : Party ε Q A α) (f : α → Prog ε Q A γ) : Party ε Q A γ :=
  ⟨p.prog >>= f, p.out, p.log, p.closed⟩

/-- The client goes on with `f` when it is done. -/
def Net.bind (s : Net ε Q A α Q' A' β) (f : α → Prog ε Q A γ) : Net ε Q A γ Q' A' β :=
  ⟨s.client.bind f, s.server⟩

section Bind

variable {eof : ε} {p p' : Party ε Q A α} {inb inb' : Bytes} {pc : Bool} {f : α → Prog ε Q A γ}

/-- Two programs are not done before the first is. -/
theorem Prog.eq_pure_of_bind {prog : Prog ε Q A α} {c : γ} (h : (prog >>= f) = .pure c) :
    ∃ a, prog = .pure a := by
  cases prog with
  | pure a => exact ⟨a, rfl⟩
  | write | read | call => cases h

/-- What they read first is what the first reads, unless it is done. -/
theorem IsReading.of_bind {prog : Prog ε Q A α} (hprog : ∀ a, prog ≠ .pure a)
    (h : IsReading (prog >>= f)) : IsReading prog := by
  cases prog with
  | pure a => exact absurd rfl (hprog a)
  | read c cap k =>
    cases h with
    | mk hw => exact ⟨hw⟩
  | write | call => cases h

/-- A party that is not done does what it would do anyway. -/
theorem Move.bind (hp : ∀ a, p.prog ≠ .pure a) (h : Move eof p inb pc p' inb') :
    Move eof (p.bind f) inb pc (p'.bind f) inb' := by
  cases h with
  | writeSome hx hy => exact .writeSome hx hy
  | writeAll => exact .writeAll
  | readSome hx hlen hw => exact .readSome hx hlen hw
  | readAll hlen hw => exact .readAll hlen hw
  | readEof hw => exact .readEof hw
  | call a => exact .call a
  | emit | drop | close => exact absurd rfl (hp _)

/-- And nothing else. -/
theorem Move.of_bind {p₁ : Party ε Q A γ} (hp : ∀ a, p.prog ≠ .pure a)
    (h : Move eof (p.bind f) inb pc p₁ inb') :
    ∃ p', Move eof p inb pc p' inb' ∧ p₁ = p'.bind f := by
  obtain ⟨prog, out, log, closed⟩ := p
  cases prog with
  | pure a => exact absurd rfl (hp a)
  | write bs k =>
    cases h with
    | writeSome hx hy => exact ⟨_, .writeSome hx hy, rfl⟩
    | writeAll => exact ⟨_, .writeAll, rfl⟩
  | read c cap k =>
    cases h with
    | readSome hx hlen hw => exact ⟨_, .readSome hx hlen hw, rfl⟩
    | readAll hlen hw => exact ⟨_, .readAll hlen hw, rfl⟩
    | readEof hw => exact ⟨_, .readEof hw, rfl⟩
  | call q k =>
    cases h with
    | call a => exact ⟨_, .call a, rfl⟩

namespace Net

variable {silent : β → Prop} {s s' : Net ε Q A α Q' A' β} {t : Net ε Q A γ Q' A' β}

theorem Orderly.bind (hs : ∀ a, s.client.prog ≠ .pure a) (h : Orderly eof silent s s') :
    Orderly eof silent (s.bind f) (s'.bind f) := by
  obtain ⟨hmove | hmove, hsilent⟩ := h
  · exact ⟨.client (s := s.bind f) (hmove.bind hs), hsilent⟩
  · exact ⟨.server (s := s.bind f) hmove, hsilent⟩

theorem Orderly.of_bind (hs : ∀ a, s.client.prog ≠ .pure a)
    (h : Orderly eof silent (s.bind f) t) : ∃ s', Orderly eof silent s s' ∧ t = s'.bind f := by
  obtain ⟨hmove | hmove, hsilent⟩ := h
  · obtain ⟨p', hmove', rfl⟩ := Move.of_bind hs hmove
    exact ⟨⟨p', { s.server with out := _ }⟩, ⟨.client hmove', hsilent⟩, rfl⟩
  · exact ⟨⟨{ s.client with out := _ }, _⟩, ⟨.server hmove, hsilent⟩, rfl⟩

/-- A client that is done stays as it is. -/
theorem Step.client_pure {a : α} (h : Step eof s s') (hs : s.client.prog = .pure a) :
    s'.client.prog = .pure a := by
  cases h with
  | client hmove => exact (Move.of_pure hs hmove).1
  | server hmove => exact hs

/-- **A run of the first program is a run of both**, up to its end. -/
theorem OrderlyReachable.bind (h : OrderlyReachable eof silent s s')
    (hs : ∀ a, s'.client.prog ≠ .pure a) :
    OrderlyReachable eof silent (s.bind f) (s'.bind f) := by
  induction h with
  | refl => exact .refl
  | @tail u v _ hlast ih =>
    have hu : ∀ a, u.client.prog ≠ .pure a := fun a ha => hs a (hlast.1.client_pure ha)
    exact (ih hu).tail (hlast.bind hu)

variable (eof f silent s)

/-- How far a run of both programs has come. -/
inductive Continued : Net ε Q A γ Q' A' β → Prop
  /-- The first program has not come to its end. -/
  | first {u} (hrun : OrderlyReachable eof silent s u) (hu : ∀ a, u.client.prog ≠ .pure a) :
      Continued (u.bind f)
  /-- It has, and the second program has gone on from there. -/
  | second {u v a} (hrun : OrderlyReachable eof silent s u) (ha : u.client.prog = .pure a)
      (hrest : OrderlyReachable eof silent (u.bind f) v) : Continued v

variable {eof f silent s}

theorem Continued.of_run (h : OrderlyReachable eof silent s s') :
    Continued eof f silent s (s'.bind f) := by
  cases hprog : s'.client.prog with
  | pure a => exact .second h hprog .refl
  | write | read | call => exact .first h fun a ha => by cases hprog.symm.trans ha

/-- **A run of both is a run of the first program**, and what follows it. -/
theorem OrderlyReachable.continued (h : OrderlyReachable eof silent (s.bind f) t) :
    Continued eof f silent s t := by
  induction h with
  | refl => exact .of_run .refl
  | tail _ hlast ih =>
    cases ih with
    | first hrun hu =>
      obtain ⟨v, hv, rfl⟩ := Orderly.of_bind hu hlast
      exact .of_run (hrun.tail hv)
    | second hrun ha hrest => exact .second hrun ha (hrest.tail hlast)

end Net

end Bind

/-! ### Nobody answers -/

/-- The program returns `a` if it can write, and each of its reads finds the end of the file. -/
inductive Unanswered (eof : ε) : Prog ε Q A α → α → Prop
  | pure (a : α) : Unanswered eof (.pure a) a
  | write {bs k a} (next : Unanswered eof (k bs.length ok) a) : Unanswered eof (.write bs k) a
  | read {c cap k a} (hw : Waits c cap) (next : Unanswered eof (k [] eof) a) :
      Unanswered eof (.read c cap k) a

namespace Unanswered

variable {eof : ε} {prog : Prog ε Q A α} {a : α}

/-- One program after the other. -/
theorem bind {f : α → Prog ε Q A γ} {c : γ} (h : Unanswered eof prog a)
    (hf : Unanswered eof (f a) c) : Unanswered eof (prog >>= f) c := by
  induction h with
  | pure a => exact hf
  | write _ ih => exact .write (ih hf)
  | read hw _ ih => exact .read hw (ih hf)

theorem eq_of_pure {a' : α} (h : Unanswered eof (.pure a' : Prog ε Q A α) a) : a' = a := by
  cases h
  rfl

/-- A step of a party to which nothing is in flight. -/
theorem move {p p' : Party ε Q A α} {inb' : Bytes} {pc : Bool} (h : Unanswered eof p.prog a)
    (hmove : Move eof p [] pc p' inb') : Unanswered eof p'.prog a ∧ inb' = [] := by
  obtain ⟨prog, out, log, closed⟩ := p
  cases h with
  | pure a =>
    exact ⟨(Move.of_pure rfl hmove).1 ▸ .pure a,
      List.suffix_nil.mp (Move.suffix_of_pure rfl hmove)⟩
  | write next =>
    cases hmove with
    | writeSome => exact ⟨.write (by rwa [← List.length_append]), rfl⟩
    | writeAll => exact ⟨next, rfl⟩
  | read hw next =>
    generalize hinb : ([] : Bytes) = inb at hmove
    cases hmove with
    | readSome hx => exact absurd (List.append_eq_nil_iff.mp hinb.symm).1 hx
    | readAll hlen hw' =>
      obtain ⟨rfl, -⟩ := List.append_eq_nil_iff.mp hinb.symm
      exact absurd hw hw'
    | readEof => exact ⟨next, rfl⟩

/-- **It does return**, when the server has closed the connection. -/
theorem returns {silent : β → Prop} {b : β} {l : List (Q × A)} {l' : List (Q' × A')}
    {closed : Bool} (h : Unanswered eof prog a) (out : Bytes) :
    ∃ out', Net.OrderlyReachable eof silent
      ⟨⟨prog, out, l, closed⟩, ⟨.pure b, [], l', true⟩⟩
      ⟨⟨.pure a, out', l, closed⟩, ⟨.pure b, [], l', true⟩⟩ := by
  induction h generalizing out with
  | pure a => exact ⟨out, .refl⟩
  | write _ ih =>
    obtain ⟨out', hrun⟩ := ih _
    exact ⟨out', .head ⟨.client .writeAll, fun _ _ _ => List.suffix_rfl⟩ hrun⟩
  | read hw _ ih =>
    obtain ⟨out', hrun⟩ := ih out
    exact ⟨out', .head ⟨.client (.readEof hw), fun _ _ _ => List.suffix_rfl⟩ hrun⟩

end Unanswered

/-- The server is done with the result `b`, and the client returns `a`: it has done so, or it will
not get an answer. -/
structure Net.Alone (eof : ε) (silent : β → Prop) (a : α) (b : β) (l : List (Q' × A'))
    (s : Net ε Q A α Q' A' β) : Prop where
  client : Unanswered eof s.client.prog a
  server : s.server.prog = .pure b
  log : s.server.log = l
  nothing : s.client.prog = .pure a ∨ silent b ∧ s.server.out = []

namespace Net.Alone

variable {eof : ε} {silent : β → Prop} {a : α} {b : β} {l : List (Q' × A')}
  {s s' : Net ε Q A α Q' A' β}

/-- **One step of either party.** -/
theorem step (h : s.Alone eof silent a b l) (hstep : Orderly eof silent s s') :
    s'.Alone eof silent a b l := by
  obtain ⟨hmove | hmove, hsilent⟩ := hstep
  · rcases h.nothing with hdone | ⟨hb, hout⟩
    · have hdone' := (Move.of_pure hdone hmove).1
      exact ⟨hdone' ▸ .pure a, h.server, h.log, Or.inl hdone'⟩
    · rw [hout] at hmove
      obtain ⟨hclient, hinb⟩ := h.client.move hmove
      exact ⟨hclient, h.server, h.log, Or.inr ⟨hb, hinb⟩⟩
  · obtain ⟨hserver, hlog⟩ := Move.of_pure h.server hmove
    refine ⟨h.client, hserver, hlog.trans h.log, h.nothing.imp_right ?_⟩
    rintro ⟨hb, hout⟩
    have hsuffix := hsilent b h.server hb
    rw [hout] at hsuffix
    exact ⟨hb, List.suffix_nil.mp hsuffix⟩

/-- **Any number of steps.** -/
theorem run (h : s.Alone eof silent a b l) (hrun : OrderlyReachable eof silent s s') :
    s'.Alone eof silent a b l :=
  hrun.invariant (fun h hstep => h.step hstep) h

end Net.Alone

/-! ### A dialogue, and going on -/

section Sequel

variable (K : Contract α Q' A' β) (eof : ε) (client : Prog ε Q A α) (server : Prog ε Q' A' β)
  (f : α → Prog ε Q A γ) (g : α → γ)

/-- Where a run can be, if the client goes on after a dialogue, in vain. -/
inductive Sequel : Net ε Q A γ Q' A' β → Prop
  | dialogue {u} (hrun : Net.OrderlyReachable eof K.silent (Net.start client server) u)
      (hu : ∀ a, u.client.prog ≠ .pure a) : Sequel (u.bind f)
  | alone {s a b l} (hagree : K.agree a b l) (hgood : K.good l)
      (h : s.Alone eof K.silent (g a) b l) : Sequel s

variable {K eof client server f g} {r : LastRead ε α} {stalls : Prop} {s : Net ε Q A γ Q' A' β}
  (h : Leads K eof r stalls client server []) (hr : Waits r.cond r.cap) (hnil : K.good [])
  (hf : ∀ a b l, K.agree a b l → f a = .pure (g a) ∨ K.silent b ∧ Unanswered eof (f a) (g a))
  (hrun : Net.OrderlyReachable eof K.silent (Net.start (client >>= f) server) s)

include h hr hnil hf hrun

/-- The invariant: the client goes on only when the server is done and silent. -/
theorem Leads.sequel : Sequel K eof client server f g s := by
  have hcontinued : Net.Continued eof f K.silent (Net.start client server) s :=
    Net.OrderlyReachable.continued hrun
  cases hcontinued with
  | first hfirst hu => exact .dialogue hfirst hu
  | @second u _ a hfirst ha hrest =>
    obtain ⟨b, hb, hagree⟩ := h.agreed hr hnil hfirst ha
    have hprog : (u.bind f).client.prog = f a := by
      change u.client.prog >>= f = f a
      rw [ha, Prog.pure_bind]
    refine .alone hagree (h.good_log hr hnil hfirst) (Net.Alone.run ?_ hrest)
    rcases hf a b _ hagree with hdone | ⟨hb', hunanswered⟩
    · exact ⟨hprog ▸ hdone ▸ .pure _, hb, rfl, Or.inl (hprog.trans hdone)⟩
    · exact ⟨hprog ▸ hunanswered, hb, rfl, Or.inr ⟨hb', h.drained hr hnil hfirst ha hb hb'⟩⟩

/-- **A client that is done has come to the end of the dialogue**, and has got no answer since. -/
theorem Leads.sequel_agreed {c : γ} (hc : s.client.prog = .pure c) :
    ∃ a b, s.server.prog = .pure b ∧ K.agree a b s.server.log ∧ c = g a := by
  cases h.sequel hr hnil hf hrun with
  | @dialogue u _ hu =>
    obtain ⟨a, ha⟩ : ∃ a, u.client.prog = .pure a := Prog.eq_pure_of_bind hc
    exact absurd ha (hu a)
  | @alone _ a b l hagree _ halone =>
    have hclient := halone.client
    rw [hc] at hclient
    exact ⟨a, b, halone.server, halone.log ▸ hagree, hclient.eq_of_pure⟩

/-- **The server is asked for nothing else.** -/
theorem Leads.sequel_good_log : K.good s.server.log := by
  cases h.sequel hr hnil hf hrun with
  | dialogue hfirst _ => exact h.good_log hr hnil hfirst
  | alone _ hgood halone => exact halone.log ▸ hgood

theorem Leads.sequel_good_call {x : Q'} {k : A' → Prog ε Q' A' β}
    (hprog : s.server.prog = .call x k) (a : A') : K.good (s.server.log ++ [(x, a)]) := by
  cases h.sequel hr hnil hf hrun with
  | dialogue hfirst _ => exact h.good_call hr hnil hfirst hprog a
  | alone _ _ halone => cases halone.server.symm.trans hprog

/-- **They never deadlock**, if there is no stall. -/
theorem Leads.sequel_not_deadlock (hs : ¬stalls) : ¬s.Deadlock := by
  rintro ⟨hclient, hserver, hcout, hsout⟩
  cases h.sequel hr hnil hf hrun with
  | dialogue hfirst hnot =>
    exact h.not_deadlock hr hnil hfirst hs ⟨hclient.of_bind hnot, hserver, hcout, hsout⟩
  | alone _ _ halone =>
    rw [halone.server] at hserver
    cases hserver

end Sequel

end Asio
