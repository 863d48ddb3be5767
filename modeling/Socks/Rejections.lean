import Socks.ServerMonitor

/-!
# Rejected requests

A request that fails should be answered with a failure reply. There are three ways for it to fail:
the parser rejects it, its name cannot be resolved, the target cannot be connected to. In the last
of them the target socket has been opened; in the first two it has not, the reply asks it for its
local endpoint all the same, and the exception that this throws leaves the handler.

## Main definitions

* `Socks.FailsEarly`, `Socks.FailsLate` — the steps that fail a request, before and after the
  target socket is opened
* `Socks.Answered` — every failed request is answered, and no exception leaves a handler
* `Socks.answerMonitor` — how a run goes on from where a request has failed

## Main results

* `Socks.answered_iff` — every failed request is answered exactly when none fails early
-/

namespace Socks

open Asio SocksConnection

/-! ### Failures -/

/-- A step that fails a request while the target socket has not been opened: a read whose bytes
the parser is going to reject (of 263 bytes at most, that of a SOCKS5 request; of 258, that of a
SOCKS4 request, if it is one), or a name resolution. -/
def FailsEarly : Asio.Step ErrorCode ServerCall ServerAnswer → Prop
  | .read cap got ec => ec.failed = false ∧
      (cap = 263 ∧ got ≠ [] ∧ ¬CompleteRequest got ∨
        cap = 258 ∧ byteAt got 0 = 0x04 ∧ ¬AcceptedV4 got)
  | .call (.resolve _ _) answer => answer.ec.failed = true
  | _ => False

/-- A step that fails a request after that: a connection to the target. -/
def FailsLate : Asio.Step ErrorCode ServerCall ServerAnswer → Prop
  | .call (.connect _) answer => answer.ec.failed = true
  | _ => False

instance : DecidablePred FailsEarly
  | .read _ _ _ => inferInstanceAs (Decidable (_ ∧ _))
  | .call (.resolve _ _) answer => inferInstanceAs (Decidable (answer.ec.failed = true))
  | .call (.connect _) _ => inferInstanceAs (Decidable False)
  | .call (.fail _ _ _) _ => inferInstanceAs (Decidable False)
  | .write _ _ _ => inferInstanceAs (Decidable False)

instance : DecidablePred FailsLate
  | .read _ _ _ => inferInstanceAs (Decidable False)
  | .call (.resolve _ _) _ => inferInstanceAs (Decidable False)
  | .call (.connect _) answer => inferInstanceAs (Decidable (answer.ec.failed = true))
  | .call (.fail _ _ _) _ => inferInstanceAs (Decidable False)
  | .write _ _ _ => inferInstanceAs (Decidable False)

/-- The request fails in this step. -/
def Fails (x : Asio.Step ErrorCode ServerCall ServerAnswer) : Prop := FailsEarly x ∨ FailsLate x

/-- A failure reply of either version. -/
def FailureReply (bs : Bytes) : Prop :=
  (∃ q, q ≠ 0x00 ∧ bs = [0x05, q, 0x00, 0x01, 0x00, 0x00, 0x00, 0x00, 0x00, 0x00]) ∨
    bs = [0x04, 91, 0x00, 0x00, 0x00, 0x00, 0x00, 0x00]

/-- After a request has failed, exactly one message is written, a failure reply, and nothing is
relayed. No exception leaves a handler. -/
def Answered (trace : ServerTrace) (e : Ending) : Prop :=
  e ≠ .thrown ∧ ∀ pre x post, trace = pre ++ x :: post → Fails x →
    e ≠ .relay ∧ ∃ reply, started post = [reply] ∧ FailureReply reply

/-! ### The monitor -/

/-- How far a run is with the request. -/
inductive Phase
  /-- Nothing has failed. -/
  | serving
  /-- A request has failed early. -/
  | refused
  /-- A request has failed late, and is to be answered. -/
  | failing
  /-- It has been. -/
  | replied

/-- How a run goes on from where a request has failed: early, an exception ends it; late, it writes
a failure reply, and nothing else. -/
def answerMonitor : ServerMonitor Phase where
  Allows
    | .serving, _ => True
    | .refused, _ => True
    | .failing, .write bs _ _ => FailureReply bs
    | .failing, x => ¬Fails x
    | .replied, .write _ _ _ => False
    | .replied, x => ¬Fails x
  next
    | .serving, x => if FailsEarly x then .refused else if FailsLate x then .failing else .serving
    | .refused, _ => .refused
    | .failing, .write _ _ _ => .replied
    | .failing, _ => .failing
    | .replied, _ => .replied
  Accepts
    | .serving, e => e ≠ .thrown
    | .refused, e => e = .thrown
    | .failing, _ => False
    | .replied, e => e ≠ .thrown ∧ e ≠ .relay

theorem next_serving (x : Asio.Step ErrorCode ServerCall ServerAnswer) :
    answerMonitor.next .serving x
      = if FailsEarly x then .refused else if FailsLate x then .failing else .serving := rfl

/-- Nothing fails in a trace. -/
abbrev NoFailure (trace : ServerTrace) : Prop := ∀ x ∈ trace, ¬Fails x

variable {t : ServerTrace} {e : Ending}

theorem passes_refused (h : answerMonitor.Passes .refused t e) : e = .thrown := by
  induction t with
  | nil => exact h
  | cons x t ih => exact ih h.2

theorem passes_replied (h : answerMonitor.Passes .replied t e) :
    started t = [] ∧ NoFailure t ∧ e ≠ .thrown ∧ e ≠ .relay := by
  induction t with
  | nil => exact ⟨rfl, List.forall_mem_nil _, h⟩
  | cons x t ih =>
    obtain ⟨hallows, hrest⟩ := h
    obtain ⟨hstarted, hnone, he⟩ := ih hrest
    cases x with
    | write bs n ec => exact hallows.elim
    | read cap got ec => exact ⟨hstarted, List.forall_mem_cons.mpr ⟨hallows, hnone⟩, he⟩
    | call q a => exact ⟨hstarted, List.forall_mem_cons.mpr ⟨hallows, hnone⟩, he⟩

theorem passes_failing (h : answerMonitor.Passes .failing t e) :
    (∃ reply, started t = [reply] ∧ FailureReply reply) ∧ NoFailure t ∧
      e ≠ .thrown ∧ e ≠ .relay := by
  induction t with
  | nil => exact h.elim
  | cons x t ih =>
    obtain ⟨hallows, hrest⟩ := h
    cases x with
    | write bs n ec =>
      obtain ⟨hstarted, hnone, he⟩ := passes_replied hrest
      have hwrite : ¬Fails (.write bs n ec) := fun hfails => hfails.elim id id
      exact ⟨⟨bs, congrArg (bs :: ·) hstarted, hallows⟩,
        List.forall_mem_cons.mpr ⟨hwrite, hnone⟩, he⟩
    | read cap got ec =>
      obtain ⟨hreply, hnone, he⟩ := ih hrest
      exact ⟨hreply, List.forall_mem_cons.mpr ⟨hallows, hnone⟩, he⟩
    | call q a =>
      obtain ⟨hreply, hnone, he⟩ := ih hrest
      exact ⟨hreply, List.forall_mem_cons.mpr ⟨hallows, hnone⟩, he⟩

theorem answered_cons_iff {x : Asio.Step ErrorCode ServerCall ServerAnswer} :
    Answered (x :: t) e ↔ Answered t e ∧
      (Fails x → e ≠ .relay ∧ ∃ reply, started t = [reply] ∧ FailureReply reply) := by
  constructor
  · rintro ⟨he, h⟩
    refine ⟨⟨he, fun pre y post ht => h (x :: pre) y post (by rw [ht, List.cons_append])⟩, ?_⟩
    exact h [] x t rfl
  · rintro ⟨⟨he, h⟩, hx⟩
    refine ⟨he, fun pre y post ht hy => ?_⟩
    cases pre with
    | nil =>
      obtain ⟨rfl, rfl⟩ := List.cons_eq_cons.mp ht
      exact hx hy
    | cons z pre =>
      obtain ⟨rfl, rfl⟩ := List.cons_eq_cons.mp ht
      exact h pre y post rfl hy

theorem answered_of_noFailure (h : NoFailure t) (he : e ≠ .thrown) : Answered t e := by
  refine ⟨he, ?_⟩
  rintro pre x post rfl hx
  exact absurd hx (h x (List.mem_append_right _ List.mem_cons_self))

/-- What the monitor means. -/
theorem passes_serving (h : answerMonitor.Passes .serving t e) :
    Answered t e ∧ (∀ x ∈ t, ¬FailsEarly x) ∨ e = .thrown ∧ ∃ x ∈ t, FailsEarly x := by
  induction t with
  | nil => exact Or.inl ⟨answered_of_noFailure (List.forall_mem_nil _) h, List.forall_mem_nil _⟩
  | cons x t ih =>
    obtain ⟨-, hrest⟩ := h
    rw [next_serving] at hrest
    split_ifs at hrest with hearly hlate
    · exact Or.inr ⟨passes_refused hrest, x, List.mem_cons_self, hearly⟩
    · obtain ⟨hreply, hnone, hthrown, hrelay⟩ := passes_failing hrest
      refine Or.inl ⟨answered_cons_iff.mpr ⟨answered_of_noFailure hnone hthrown, fun _ =>
        ⟨hrelay, hreply⟩⟩, List.forall_mem_cons.mpr ⟨hearly, ?_⟩⟩
      exact fun y hy hfails => hnone y hy (Or.inl hfails)
    · have hx : ¬Fails x := not_or.mpr ⟨hearly, hlate⟩
      rcases ih hrest with ⟨hanswered, hnone⟩ | ⟨hthrown, y, hy, hfails⟩
      · exact Or.inl ⟨answered_cons_iff.mpr ⟨hanswered, fun hfails => absurd hfails hx⟩,
          List.forall_mem_cons.mpr ⟨hearly, hnone⟩⟩
      · exact Or.inr ⟨hthrown, y, List.mem_cons_of_mem _ hy, hfails⟩

/-! ### Replies -/

/-- A failure reply of version 5. -/
theorem connectReply_of_ne (buffer : Bytes) {rep : UInt8} (h : rep ≠ 0x00) (bndEp : Endpoint) :
    connectReply buffer rep bndEp
      = [0x05, rep, 0x00, 0x01, 0x00, 0x00, 0x00, 0x00, 0x00, 0x00] := by
  have hsize := length_resize buffer 10
  rw [connectReply.eq_def, if_pos h, ← overlay_nil (resize buffer 10),
    putBytes_overlay (by simp) (by simp [hsize]), overlay,
    List.drop_of_length_le (by simp [hsize])]
  rfl

/-- A failure reply of version 4. -/
theorem connectReplyV4_of_ne (buffer : Bytes) {rep : UInt8} (h : rep ≠ 90) (bndEp : Endpoint) :
    connectReplyV4 buffer rep bndEp = [0x04, rep, 0x00, 0x00, 0x00, 0x00, 0x00, 0x00] := by
  have hsize := length_resize buffer 8
  rw [connectReplyV4, ← overlay_nil (resize buffer 8),
    putBytes_overlay (by simp) (by simp [hsize])]
  dsimp only
  rw [if_pos h, putBytes_overlay (by simp) (by simp [hsize]), overlay,
    List.drop_of_length_le (by simp [hsize])]
  rfl

/-! ### The handlers -/

/-- What the server asks opens the target socket, if it asks for a connection. -/
def OpensSocket : ServerCall → ServerAnswer → Prop
  | .connect _, answer => answer.localEndpoint ≠ none
  | _, _ => True

/-- Every run of the program passes the monitor in a phase. -/
abbrev Serves (phase : Phase) (p : Server) : Prop := p.Meets answerMonitor OpensSocket phase

variable {self : SocksConnection} {phase : Phase}

theorem serves_fail {ec : ErrorCode} {what : String} {subject : Option Subject} {next : Server}
    (h : Serves phase next) : Serves phase (fail ec what subject next) := by
  intro answer _
  have hcall : ¬Fails (.call (.fail ec what subject) answer) := fun hfails => hfails.elim id id
  cases phase with
  | serving => exact ⟨trivial, h⟩
  | refused => exact ⟨trivial, h⟩
  | failing => exact ⟨hcall, h⟩
  | replied => exact ⟨hcall, h⟩

/-- Without a target socket, the reply throws. -/
theorem serves_doConnectReply_refused (h : self.targetSocket = none) (rep : UInt8) :
    Serves .refused (self.doConnectReply rep) := by
  rw [doConnectReply, h]
  exact rfl

theorem serves_doConnectReplyV4_refused (h : self.targetSocket = none) (rep : UInt8) :
    Serves .refused (self.doConnectReplyV4 rep) := by
  rw [doConnectReplyV4, h]
  exact rfl

/-- With one, it is written, and nothing is relayed. -/
theorem serves_doConnectReply_failing (h : self.targetSocket ≠ none) {rep : UInt8}
    (hrep : rep ≠ 0x00) : Serves .failing (self.doConnectReply rep) := by
  obtain ⟨bndEp, hbnd⟩ := Option.ne_none_iff_exists'.mp h
  rw [doConnectReply, hbnd]
  dsimp only
  rw [connectReply_of_ne _ hrep]
  intro n ec
  refine ⟨Or.inl ⟨rep, hrep, rfl⟩, ?_⟩
  dsimp only
  split_ifs with hec hzero
  · exact serves_fail ⟨nofun, nofun⟩
  · exact absurd hzero hrep
  · exact ⟨nofun, nofun⟩

theorem serves_doConnectReplyV4_failing (h : self.targetSocket ≠ none) :
    Serves .failing (self.doConnectReplyV4 91) := by
  obtain ⟨bndEp, hbnd⟩ := Option.ne_none_iff_exists'.mp h
  rw [doConnectReplyV4, hbnd]
  dsimp only
  rw [connectReplyV4_of_ne _ (by decide)]
  intro n ec
  refine ⟨Or.inr rfl, ?_⟩
  dsimp only
  split_ifs with hec hgranted
  · exact serves_fail ⟨nofun, nofun⟩
  · exact absurd hgranted (by decide)
  · exact ⟨nofun, nofun⟩

/-- A success reply may be followed by anything. -/
theorem serves_doConnectReply (h : self.targetSocket ≠ none) (rep : UInt8) :
    Serves .serving (self.doConnectReply rep) := by
  obtain ⟨bndEp, hbnd⟩ := Option.ne_none_iff_exists'.mp h
  rw [doConnectReply, hbnd]
  intro n ec
  refine ⟨trivial, ?_⟩
  change Serves .serving _
  dsimp only
  split_ifs
  · exact serves_fail nofun
  · exact nofun
  · exact nofun

theorem serves_doConnectReplyV4 (h : self.targetSocket ≠ none) (rep : UInt8) :
    Serves .serving (self.doConnectReplyV4 rep) := by
  obtain ⟨bndEp, hbnd⟩ := Option.ne_none_iff_exists'.mp h
  rw [doConnectReplyV4, hbnd]
  intro n ec
  refine ⟨trivial, ?_⟩
  change Serves .serving _
  dsimp only
  split_ifs
  · exact serves_fail nofun
  · exact nofun
  · exact nofun

/-- What becomes of a connection to the target: what fails, fails late. -/
theorem next_connect (target : Endpoint) (answer : ServerAnswer) :
    answerMonitor.next .serving (.call (.connect target) answer)
      = if answer.ec.failed = true then .failing else .serving := by
  rw [next_serving]
  exact if_neg not_false

theorem serves_doTargetConnect : Serves .serving self.doTargetConnect := by
  intro answer hopen
  refine ⟨trivial, ?_⟩
  rw [next_connect]
  dsimp only
  split_ifs
  · refine serves_fail (serves_doConnectReply_failing ?_ (by decide))
    exact hopen
  · refine serves_doConnectReply ?_ _
    exact hopen

theorem serves_doTargetConnectV4 : Serves .serving self.doTargetConnectV4 := by
  intro answer hopen
  refine ⟨trivial, ?_⟩
  rw [next_connect]
  dsimp only
  split_ifs
  · refine serves_fail (serves_doConnectReplyV4_failing ?_)
    exact hopen
  · refine serves_doConnectReplyV4 ?_ _
    exact hopen

/-- What becomes of a name resolution: what fails, fails early. -/
theorem next_resolve (host : Bytes) (service : String) (answer : ServerAnswer) :
    answerMonitor.next .serving (.call (.resolve host service) answer)
      = if answer.ec.failed = true then .refused else .serving := by
  rw [next_serving]
  exact if_congr Iff.rfl rfl (if_neg not_false)

/-- What becomes of the read of a SOCKS5 request. -/
theorem next_read {got : Bytes} {ec : ErrorCode} (hec : ec.failed = false) :
    answerMonitor.next .serving (.read 263 got ec)
      = if got ≠ [] ∧ ¬CompleteRequest got then .refused else .serving := by
  have hearly : FailsEarly (.read 263 got ec) ↔ got ≠ [] ∧ ¬CompleteRequest got := by
    simp [FailsEarly, hec]
  rw [next_serving]
  exact if_congr hearly rfl (if_neg not_false)

theorem serves_parseSocksConnect (self : SocksConnection) (h : self.targetSocket = none) :
    Serves (if self.buffer ≠ [] ∧ ¬CompleteRequest self.buffer then .refused else .serving)
      self.parseSocksConnect := by
  have hcase := parseSocksConnect_cases self
  generalize self.parseSocksConnect = p at hcase
  cases hcase with
  | empty hnil =>
    rw [if_neg fun hrefused => hrefused.1 hnil]
    exact serves_fail nofun
  | reject hne hrejected ec what rep =>
    rw [if_pos ⟨hne, hrejected⟩]
    exact serves_fail (serves_doConnectReply_refused h rep)
  | address hcomplete target =>
    rw [if_neg fun hrefused => hrefused.2 hcomplete]
    exact serves_doTargetConnect
  | name hcomplete host service =>
    rw [if_neg fun hrefused => hrefused.2 hcomplete]
    intro answer _
    refine ⟨trivial, ?_⟩
    rw [next_resolve]
    dsimp only
    split_ifs
    · exact serves_fail (serves_doConnectReply_refused h _)
    · exact serves_doTargetConnect

theorem serves_doReadConnectRequest (self : SocksConnection) (h : self.targetSocket = none) :
    Serves .serving self.doReadConnectRequest := by
  rw [doReadConnectRequest_eq]
  intro got ec _ _
  refine ⟨trivial, ?_⟩
  dsimp only
  cases hec : ec.failed with
  | false =>
    rw [next_read hec]
    exact serves_parseSocksConnect { self with buffer := got } h
  | true =>
    have hearly : ¬FailsEarly (.read 263 got ec) := fun hfails =>
      Bool.false_ne_true (hfails.1.symm.trans hec)
    rw [next_serving, if_neg hearly]
    exact serves_fail nofun

theorem serves_parseSocksConnectV4 (self : SocksConnection) (h : self.targetSocket = none)
    (h4 : byteAt self.buffer 0 = 0x04) :
    Serves (if AcceptedV4 self.buffer then .serving else .refused) self.parseSocksConnectV4 := by
  have hcase := parseSocksConnectV4_cases self
  generalize self.parseSocksConnectV4 = p at hcase
  cases hcase with
  | empty hnil =>
    rw [hnil] at h4
    exact absurd h4 (by decide)
  | reject _ hrejected ec what =>
    rw [if_neg hrejected]
    exact serves_fail (serves_doConnectReplyV4_refused h 91)
  | address haccepted target =>
    rw [if_pos haccepted]
    exact serves_doTargetConnectV4

theorem answerMonitor_awaitsRequest : AwaitsRequest answerMonitor (· = .serving) where
  fail ec what t a m hm := by
    subst hm
    exact ⟨trivial, rfl⟩
  write bs n ec m hm := by
    subst hm
    exact ⟨trivial, rfl⟩
  read got ec m hm := by
    subst hm
    refine ⟨trivial, ?_⟩
    rw [next_serving, if_neg (by simp [FailsEarly])]
    exact if_neg not_false
  dropped m hm := by
    subst hm
    exact nofun

/-- What becomes of the first read. -/
theorem next_first_read {got : Bytes} {ec : ErrorCode} :
    answerMonitor.next .serving (.read 258 got ec)
      = if ec.failed = false ∧ byteAt got 0 = 0x04 ∧ ¬AcceptedV4 got then .refused
        else .serving := by
  have hearly : FailsEarly (.read 258 got ec) ↔
      ec.failed = false ∧ byteAt got 0 = 0x04 ∧ ¬AcceptedV4 got := by
    simp [FailsEarly]
  rw [next_serving]
  exact if_congr hearly rfl (if_neg not_false)

/-- **Every run of the server passes.** -/
theorem serves_start : Serves .serving (SocksConnection.start {}) := by
  rw [start_eq]
  intro got ec _ _
  refine ⟨trivial, ?_⟩
  rw [next_first_read]
  cases hec : ec.failed with
  | true =>
    rw [if_neg (by simp)]
    simp only [hec, Bool.not_true, Bool.false_and, if_neg Bool.false_ne_true]
    exact serves_fail nofun
  | false =>
    simp only [hec, Bool.not_false, Bool.true_and, beq_iff_eq, true_and]
    by_cases h5 : byteAt got 0 = 0x05
    · rw [if_pos h5, h5, if_neg fun hrefused => absurd hrefused.1 (by decide)]
      exact answerMonitor_awaitsRequest.parseSocksGreeting
        (fun m hm self h => hm ▸ serves_doReadConnectRequest self h) rfl rfl
    · rw [if_neg h5]
      by_cases h4 : byteAt got 0 = 0x04
      · have hserves := serves_parseSocksConnectV4 { buffer := got } rfl h4
        rw [if_pos h4]
        simpa only [h4, true_and, ite_not] using hserves
      · rw [if_neg h4, if_neg fun hrefused => h4 hrefused.1]
        exact serves_fail nofun

variable {σ : Type}

/-- **Every failed request is answered, and no exception leaves a handler, exactly as long as no
request is rejected by a parser and no name resolution fails**: of failures, only those of the
connection to the target are answered. -/
theorem answered_iff (st : Asio.Stream ErrorCode σ) (ans : ServerCall → σ → ServerAnswer × σ)
    (hopen : ∀ target s, (ans (.connect target) s).1.localEndpoint ≠ none) (s : σ) :
    Answered ((SocksConnection.start {}).run st ans s).trace
        ((SocksConnection.start {}).run st ans s).result ↔
      ∀ x ∈ ((SocksConnection.start {}).run st ans s).trace, ¬FailsEarly x := by
  have hans : ∀ q s, OpensSocket q (ans q s).1 := by
    intro q s
    cases q with
    | fail ec what t => trivial
    | resolve host service => trivial
    | connect target => exact hopen target s
  have hpasses := passes_serving (serves_start.passes st hans s)
  rcases hpasses with ⟨hanswered, hnone⟩ | ⟨hthrown, x, hx, hfails⟩
  · exact iff_of_true hanswered hnone
  · exact iff_of_false (fun h => h.1 hthrown) fun h => h x hx hfails

/-- A target that refuses connections, and a resolver that knows no name. -/
def unreachable (q : ServerCall) (s : Script ErrorCode) : ServerAnswer × Script ErrorCode :=
  match q with
  | .fail _ _ _ => ({}, s)
  | .resolve _ _ => ({ ec := ⟨.other 0, 1⟩ }, s)
  | .connect _ => ({ ec := ⟨.system, 111⟩, localEndpoint := some default }, s)

theorem unreachable_opens (target : Endpoint) (s : Script ErrorCode) :
    (unreachable (.connect target) s).1.localEndpoint ≠ none := nofun

/-- A greeting, and the request for 127.0.0.1:80. -/
def connecting : List (ReadEvent ErrorCode) :=
  [.chunk 0x05 [0x01, 0x00], .chunk 0x05 [0x01, 0x00, 0x01, 127, 0, 0, 1, 0x00, 0x50]]

theorem answered_connecting :
    Answered (serverRun unreachable ⟨connecting, []⟩).trace
      (serverRun unreachable ⟨connecting, []⟩).result :=
  (answered_iff clientStream unreachable unreachable_opens ⟨connecting, []⟩).mpr
    (by decide +kernel)

/-- A greeting, and a request with the command BIND. -/
def binding : List (ReadEvent ErrorCode) :=
  [.chunk 0x05 [0x01, 0x00], .chunk 0x05 [0x02, 0x00, 0x01, 127, 0, 0, 1, 0x00, 0x50]]

/-- A SOCKS4 request with the command BIND. -/
def bindingV4 : List (ReadEvent ErrorCode) :=
  [.chunk 0x04 [0x02, 0x00, 0x50, 127, 0, 0, 1, 0x00]]

/-- A greeting, and the request for port 80 of the host `a`. -/
def resolving : List (ReadEvent ErrorCode) :=
  [.chunk 0x05 [0x01, 0x00], .chunk 0x05 [0x01, 0x00, 0x03, 0x01, 0x61, 0x00, 0x50]]

/-- None of the three is answered: an exception leaves the handler, and nothing has been written
but the answer to the greeting. -/
theorem answered_unopened :
    (¬Answered (serverRun unreachable ⟨binding, []⟩).trace
        (serverRun unreachable ⟨binding, []⟩).result ∧
      started (serverRun unreachable ⟨binding, []⟩).trace = [[0x05, 0x00]]) ∧
    (¬Answered (serverRun unreachable ⟨bindingV4, []⟩).trace
        (serverRun unreachable ⟨bindingV4, []⟩).result ∧
      started (serverRun unreachable ⟨bindingV4, []⟩).trace = []) ∧
    (¬Answered (serverRun unreachable ⟨resolving, []⟩).trace
        (serverRun unreachable ⟨resolving, []⟩).result ∧
      started (serverRun unreachable ⟨resolving, []⟩).trace = [[0x05, 0x00]]) := by
  have hbinding : (serverRun unreachable ⟨binding, []⟩).result = .thrown := by decide +kernel
  have hbindingV4 : (serverRun unreachable ⟨bindingV4, []⟩).result = .thrown := by decide +kernel
  have hresolving : (serverRun unreachable ⟨resolving, []⟩).result = .thrown := by decide +kernel
  exact ⟨⟨fun h => h.1 hbinding, by decide +kernel⟩, ⟨fun h => h.1 hbindingV4, by decide +kernel⟩,
    ⟨fun h => h.1 hresolving, by decide +kernel⟩⟩

end Socks
