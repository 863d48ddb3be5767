import Socks.ServerMonitor
import Socks.Asio.Turns

/-!
# The server connects on complete requests

Whenever the server resolves a name or connects to a target, the bytes of its last read should be
one complete CONNECT request: fewer, and what is still to come of the request would be relayed as
data; more, and data would be lost.

For SOCKS5 the parser makes sure of it. For SOCKS4 only the first read could, and it ends in two
ways in which it does not: with bytes behind the zero that ends the user id, if one chunk brings
both, and with the buffer full and no such zero. Both are visible in the turn of the read in which
they happen.

## Main definitions

* `Socks.OnlyComplete` — the property of a trace
* `Socks.Overlong` — the SOCKS4 messages that the first read should not end with
* `Socks.requestMonitor` — the property as a monitor

## Main results

* `Socks.only_complete_iff` — when it holds of a run
-/

namespace Socks

open Asio SocksConnection

/-- A question that starts a target connection, or a name resolution. -/
def ServerCall.Connects : ServerCall → Prop
  | .fail _ _ _ => False
  | .resolve _ _ => True
  | .connect _ => True

/-- Exactly one complete CONNECT request, of either version. -/
def Complete (bs : Bytes) : Prop := CompleteRequest bs ∨ CompleteRequestV4 bs

/-- Whenever the server connects or resolves, the bytes of its last read are a complete request. -/
def OnlyComplete (trace : ServerTrace) : Prop :=
  ∀ pre q a post, trace = pre ++ .call q a :: post → q.Connects →
    Complete ((received pre).getLastD [])

/-! ### The monitor -/

/-- The property as a monitor, whose state is what the last read has received. -/
def requestMonitor : ServerMonitor Bytes where
  Allows last
    | .call q _ => q.Connects → Complete last
    | _ => True
  next last
    | .read _ got _ => got
    | _ => last
  Accepts _ _ := True

/-- Nothing is assumed of answers. -/
abbrev AnyAnswer : ServerCall → ServerAnswer → Prop := fun _ _ => True

theorem requestMonitor_passes_iff {trace : ServerTrace} {last : Bytes} {e : Ending} :
    requestMonitor.Passes last trace e ↔
      ∀ pre q a post, trace = pre ++ .call q a :: post → q.Connects →
        Complete ((received pre).getLastD last) := by
  induction trace generalizing last with
  | nil =>
    refine iff_of_true trivial ?_
    intro pre q a post h
    exact absurd h.symm (by simp)
  | cons x t ih =>
    rw [Monitor.Passes, ih]
    constructor
    · rintro ⟨hallows, hrest⟩ pre q a post h hq
      cases pre with
      | nil =>
        obtain ⟨rfl, rfl⟩ := List.cons_eq_cons.mp h
        exact hallows hq
      | cons y pre =>
        obtain ⟨rfl, rfl⟩ := List.cons_eq_cons.mp h
        have hlast := hrest pre q a post rfl hq
        cases x with
        | write bs n ec => exact hlast
        | call q' a' => exact hlast
        | read cap got ec =>
          rw [received_read, List.getLastD_cons]
          exact hlast
    · intro h
      constructor
      · cases x with
        | write bs n ec => trivial
        | read cap got ec => trivial
        | call q a => exact h [] q a t rfl
      · intro pre q a post ht hq
        have hlast := h (x :: pre) q a post (by rw [ht, List.cons_append]) hq
        cases x with
        | write bs n ec => exact hlast
        | call q' a' => exact hlast
        | read cap got ec =>
          rw [received_read, List.getLastD_cons] at hlast
          exact hlast

/-! ### The handlers -/

variable {last : Bytes} {self : SocksConnection}

/-- No run of the program connects or resolves but on a complete request. -/
abbrev Careful (last : Bytes) (p : Server) : Prop := p.Meets requestMonitor AnyAnswer last

theorem careful_fail {ec : ErrorCode} {what : String} {t : Option Subject} {next : Server}
    (h : Careful last next) : Careful last (fail ec what t next) :=
  fun _ _ => ⟨False.elim, h⟩

theorem careful_returnFail (ec : ErrorCode) (what : String) : Careful last (returnFail ec what) :=
  careful_fail trivial

theorem careful_doConnectReply (rep : UInt8) : Careful last (self.doConnectReply rep) := by
  rw [doConnectReply]
  cases self.targetSocket with
  | none => trivial
  | some bndEp =>
    intro n ec
    refine ⟨trivial, ?_⟩
    dsimp only
    split_ifs
    · exact careful_returnFail _ _
    · trivial
    · trivial

theorem careful_doConnectReplyV4 (rep : UInt8) : Careful last (self.doConnectReplyV4 rep) := by
  rw [doConnectReplyV4]
  cases self.targetSocket with
  | none => trivial
  | some bndEp =>
    intro n ec
    refine ⟨trivial, ?_⟩
    dsimp only
    split_ifs
    · exact careful_returnFail _ _
    · trivial
    · trivial

theorem careful_doTargetConnect (h : Complete last) : Careful last self.doTargetConnect := by
  intro answer _
  refine ⟨fun _ => h, ?_⟩
  dsimp only
  split_ifs
  · exact careful_fail (careful_doConnectReply _)
  · exact careful_doConnectReply _

theorem careful_doTargetConnectV4 (h : Complete last) : Careful last self.doTargetConnectV4 := by
  intro answer _
  refine ⟨fun _ => h, ?_⟩
  dsimp only
  split_ifs
  · exact careful_fail (careful_doConnectReplyV4 _)
  · exact careful_doConnectReplyV4 _

theorem careful_parseSocksConnect (self : SocksConnection) :
    Careful self.buffer self.parseSocksConnect := by
  have hcase := parseSocksConnect_cases self
  generalize self.parseSocksConnect = p at hcase
  cases hcase with
  | empty => exact careful_returnFail _ _
  | reject => exact careful_fail (careful_doConnectReply _)
  | address h => exact careful_doTargetConnect (Or.inl h)
  | name h =>
    intro answer _
    refine ⟨fun _ => Or.inl h, ?_⟩
    dsimp only
    split_ifs
    · exact careful_fail (careful_doConnectReply _)
    · exact careful_doTargetConnect (Or.inl h)

/-- The SOCKS4 parser is careful if what it accepts is complete. -/
theorem careful_parseSocksConnectV4 (self : SocksConnection)
    (h : AcceptedV4 self.buffer → Complete self.buffer) :
    Careful self.buffer self.parseSocksConnectV4 := by
  have hcase := parseSocksConnectV4_cases self
  generalize self.parseSocksConnectV4 = p at hcase
  cases hcase with
  | empty => exact careful_returnFail _ _
  | reject => exact careful_fail (careful_doConnectReplyV4 _)
  | address haccepted => exact careful_doTargetConnectV4 (h haccepted)

theorem careful_doReadConnectRequest : Careful last self.doReadConnectRequest := by
  rw [doReadConnectRequest_eq]
  intro got ec _ _
  refine ⟨trivial, ?_⟩
  dsimp only
  split_ifs
  · exact careful_parseSocksConnect { self with buffer := got }
  · exact careful_returnFail _ _

theorem requestMonitor_awaitsRequest : AwaitsRequest requestMonitor fun _ => True where
  fail _ _ _ _ _ _ := ⟨False.elim, trivial⟩
  write _ _ _ _ _ := ⟨trivial, trivial⟩
  read _ _ _ _ := ⟨trivial, trivial⟩
  dropped _ _ := trivial

/-! ### The first read -/

/-- A message that begins like a SOCKS4 request but does not end with the zero of its user id:
there is one before its end, or the buffer is full and there is none. -/
def Overlong (bs : Bytes) : Prop :=
  byteAt bs 0 = 0x04 ∧ byteAt bs 1 = 0x01 ∧
    (Terminated bs (bs.length - 1) ∨ bs.length = 258 ∧ ¬Terminated bs bs.length)

/-- In this turn, without an error, a message has become one of these. -/
def BecomesOverlong (t : Turn ErrorCode) : Prop :=
  ∃ bs ec, t.answer = some (bs, ec) ∧ ec.failed = false ∧ Overlong (t.got ++ bs)

theorem Overlong.nine_le {bs : Bytes} (h : Overlong bs) : 9 ≤ bs.length := by
  obtain ⟨-, -, ⟨i, h8, hi, -⟩ | ⟨hlen, -⟩⟩ := h <;> omega

theorem Overlong.accepted {bs : Bytes} (h : Overlong bs) : AcceptedV4 bs :=
  ⟨h.1, h.2.1, by have := h.nine_le; omega⟩

/-- Such a message ends the first read. -/
theorem Overlong.ends {bs : Bytes} (h : Overlong bs) {ec : ErrorCode} (hec : ec.failed = false) :
    258 ≤ bs.length ∨ (greetingCond freshBuffer).ask bs ec = 0 := by
  have hnine := h.nine_le
  have hfresh : freshBuffer.length = 258 := List.length_replicate
  rcases Nat.lt_or_ge bs.length 258 with hlt | hge
  · obtain ⟨h0, h1, ⟨i, h8, hi, hzero⟩ | ⟨hlen, -⟩⟩ := h
    · have hterm : Terminated bs bs.length := ⟨i, h8, by omega, hzero⟩
      rw [greetingCond_of_socks4 hec h0 h1 (by omega) (by omega), if_pos hterm]
      exact Or.inr rfl
    · omega
  · exact Or.inl hge

/-- It is not complete. -/
theorem Overlong.not_complete {bs : Bytes} (h : Overlong bs) : ¬Complete bs := by
  rintro (h5 | h4)
  · exact absurd (h.1.symm.trans h5.1) (by decide)
  · obtain ⟨-, -, hterm, hearly⟩ := completeRequestV4_iff.mp h4
    obtain ⟨-, -, hlong | ⟨-, hfull⟩⟩ := h
    · exact hearly hlong
    · exact hfull hterm

/-- What ends the first read, and begins like a SOCKS4 request, is complete otherwise. -/
theorem complete_of_not_overlong {got : Bytes} {ec : ErrorCode} (h : AcceptedV4 got)
    (hec : ec.failed = false) (hle : got.length ≤ 258)
    (hend : 258 ≤ got.length ∨ (greetingCond freshBuffer).ask got ec = 0) (hover : ¬Overlong got) :
    CompleteRequestV4 got := by
  obtain ⟨h0, h1, h8⟩ := h
  have hfresh : freshBuffer.length = 258 := List.length_replicate
  have hterm : Terminated got got.length := by
    by_contra hterm
    by_cases hlen : got.length = 258
    · exact hover ⟨h0, h1, Or.inr ⟨hlen, hterm⟩⟩
    · rcases hend with hfull | hask
      · omega
      · rw [greetingCond_of_socks4 hec h0 h1 (by omega) (by omega), if_neg hterm] at hask
        omega
  exact completeRequestV4_iff.mpr ⟨h0, h1, hterm, fun hearly => hover ⟨h0, h1, Or.inl hearly⟩⟩

/-! ### The server -/

variable {σ : Type}

/-- The server connects on whatever begins like a SOCKS4 request and has eight bytes. -/
theorem connects_of_accepted {st : Asio.Stream ErrorCode σ}
    (ans : ServerCall → σ → ServerAnswer × σ) {s rest : σ} {bs : Bytes} {ec : ErrorCode}
    (hread : st.read (greetingCond freshBuffer) 258 s = ⟨bs, ec, rest⟩)
    (hec : ec.failed = false) (h : AcceptedV4 bs) :
    ∃ target answer tail, ((SocksConnection.start {}).run st ans s).trace
      = .read 258 bs ec :: .call (.connect target) answer :: tail := by
  have h5 : byteAt bs 0 ≠ 0x05 := by
    rw [h.1]
    decide
  have hcase := parseSocksConnectV4_cases { buffer := bs }
  rw [start_eq, Prog.run_read hread]
  simp only [hec, Bool.not_false, Bool.true_and, beq_iff_eq, if_neg h5, if_pos h.1,
    Run.after_trace]
  generalize parseSocksConnectV4 { buffer := bs } = p at hcase
  cases hcase with
  | empty hnil =>
    rw [show bs = [] from hnil] at h
    exact absurd h (by decide)
  | reject hne hnot => exact absurd h hnot
  | address _ target => exact ⟨_, _, _, rfl⟩

/-- So it does on one that is overlong. -/
theorem not_onlyComplete_of_read {st : Asio.Stream ErrorCode σ}
    {ans : ServerCall → σ → ServerAnswer × σ} {s rest : σ} {bs : Bytes} {ec : ErrorCode}
    (hread : st.read (greetingCond freshBuffer) 258 s = ⟨bs, ec, rest⟩)
    (hec : ec.failed = false) (h : Overlong bs) :
    ¬OnlyComplete ((SocksConnection.start {}).run st ans s).trace := by
  obtain ⟨target, answer, tail, htrace⟩ := connects_of_accepted ans hread hec h.accepted
  intro hsafe
  exact h.not_complete (hsafe [.read 258 bs ec] _ _ _ htrace trivial)

/-- The read ends with the turn in which the message becomes overlong. -/
theorem overlong_of_turn {st : Asio.Stream ErrorCode σ} {s : σ} {t : Turn ErrorCode}
    (ht : t ∈ st.turns (greetingCond freshBuffer) 258 [] .ok s) (h : BecomesOverlong t) :
    (st.read (greetingCond freshBuffer) 258 s).ec.failed = false ∧
      Overlong (st.read (greetingCond freshBuffer) 258 s).got := by
  obtain ⟨bs, ec, hanswer, hec, hover⟩ := h
  obtain ⟨hgot, hec'⟩ := st.readLoop_of_turn t ht bs ec hanswer (hover.ends hec)
  exact ⟨hec'.symm ▸ hec, hgot.symm ▸ hover⟩

/-- **The server connects on complete requests only, exactly as long as no SOCKS4 request of the
client's becomes overlong**, whatever the client sends, and however its bytes come. -/
theorem only_complete_iff (st : Asio.Stream ErrorCode σ)
    (ans : ServerCall → σ → ServerAnswer × σ) (s : σ) :
    OnlyComplete ((SocksConnection.start {}).run st ans s).trace ↔
      ∀ t ∈ st.turns (greetingCond freshBuffer) 258 [] .ok s, ¬BecomesOverlong t := by
  constructor
  · intro hsafe t ht hbecomes
    obtain ⟨hec, hover⟩ := overlong_of_turn ht hbecomes
    exact not_onlyComplete_of_read rfl hec hover hsafe
  · intro hturns
    rw [start_eq]
    refine requestMonitor_passes_iff.mp ⟨trivial, Prog.Meets.passes (R := AnyAnswer) ?_ st
      (fun _ _ => trivial) _⟩
    have hle := st.read_length_le (greetingCond freshBuffer) 258 s
    have hend := st.read_complete (greetingCond freshBuffer) 258 s
    have hover : (st.read (greetingCond freshBuffer) 258 s).ec.failed = false →
        9 ≤ (st.read (greetingCond freshBuffer) 258 s).got.length →
        ¬Overlong (st.read (greetingCond freshBuffer) 258 s).got := by
      intro hec hnine
      rcases st.eq_or_exists_turn with hnone | ⟨t, ht, bs, hanswer, hgot⟩
      · rw [Asio.Stream.read, hnone] at hnine
        exact absurd hnine (Nat.not_succ_le_zero 8)
      · rw [Asio.Stream.read, ← hgot]
        exact fun hover => hturns t ht ⟨bs, _, hanswer, hec, hover⟩
    change Careful (st.read (greetingCond freshBuffer) 258 s).got _
    generalize st.read (greetingCond freshBuffer) 258 s = r at hle hend hover
    cases hec : r.ec.failed with
    | true =>
      simp only [hec, Bool.not_true, Bool.false_and, if_neg Bool.false_ne_true]
      exact careful_returnFail _ _
    | false =>
      simp only [hec, Bool.not_false, Bool.true_and, beq_iff_eq]
      split_ifs
      · exact requestMonitor_awaitsRequest.parseSocksGreeting
          (fun _ _ _ _ => careful_doReadConnectRequest) trivial rfl
      · refine careful_parseSocksConnectV4 { buffer := r.got } fun haccepted => Or.inr ?_
        exact complete_of_not_overlong haccepted hec hle hend fun h => hover hec h.nine_le h
      · exact careful_returnFail _ _

/-- A request in two pieces, on which the server connects. -/
theorem only_complete_iff_cutAfterTwo :
    OnlyComplete (serverRun agreeable ⟨cutAfterTwo ++ [], []⟩).trace ∧
      ∃ target answer tail, (serverRun agreeable ⟨cutAfterTwo ++ [], []⟩).trace =
        .read 258 sampleRequestV4.bytes .ok :: .call (.connect target) answer :: tail := by
  have hread : clientStream.read (greetingCond freshBuffer) 258 ⟨cutAfterTwo ++ [], []⟩ =
      ⟨sampleRequestV4.bytes, .ok, ⟨[], []⟩⟩ :=
    read_requestV4 [] [] valid_sampleRequestV4.1 valid_sampleRequestV4.2 cuts_cutAfterTwo
      (by decide)
  have hcomplete : Complete sampleRequestV4.bytes :=
    Or.inr ⟨_, _, decodeRequestV4_eq_some_iff.mpr ⟨valid_sampleRequestV4.2, rfl⟩⟩
  refine ⟨(only_complete_iff clientStream agreeable _).mpr fun t ht hbecomes => ?_,
    connects_of_accepted agreeable hread ErrorCode.failed_ok ⟨rfl, rfl, by decide⟩⟩
  have hover := (overlong_of_turn ht hbecomes).2
  rw [hread] at hover
  exact hover.not_complete hcomplete

/-- A chunk with an overlong message is read as a whole. -/
theorem read_overlong {b : UInt8} {bs : Bytes} (h : Overlong (b :: bs))
    (hle : (b :: bs).length ≤ 258) (evs : List (ReadEvent ErrorCode))
    (ws : List (WriteEvent ErrorCode)) :
    clientStream.read (greetingCond freshBuffer) 258 ⟨.chunk b bs :: evs, ws⟩
      = ⟨b :: bs, .ok, ⟨evs, ws⟩⟩ := by
  have hnil : (greetingCond freshBuffer).ask [] ok = 258 := by decide
  rw [Asio.Stream.read, Script.readLoop_cons ErrorCode.failed_eof (by decide)
    (by rw [hnil]; decide) (by rw [hnil]; exact hle), List.nil_append]
  exact Asio.Stream.readLoop_of_stop _ (h.ends ErrorCode.failed_ok)

/-- A SOCKS4 request for 127.0.0.1:80 without a user id, and with the first byte of what the
client has for the target right behind it. -/
def pipelined : List (ReadEvent ErrorCode) :=
  [.chunk 0x04 [0x01, 0x00, 0x50, 127, 0, 0, 1, 0x00, 0x47]]

/-- A SOCKS4 request for 127.0.0.1:80 whose user id of 251 bytes does not fit into the buffer. -/
def unterminated : List (ReadEvent ErrorCode) :=
  [.chunk 0x04 ([0x01, 0x00, 0x50, 127, 0, 0, 1] ++ List.replicate 250 0x61),
    .chunk 0x61 [0x00]]

/-- The byte behind the first is read with it, and lost; the end of the second is left unread, and
relayed. -/
theorem only_complete_overlong :
    ¬OnlyComplete (serverRun agreeable ⟨pipelined, []⟩).trace ∧
      ¬OnlyComplete (serverRun agreeable ⟨unterminated, []⟩).trace := by
  have hpipelined : Overlong [0x04, 0x01, 0x00, 0x50, 127, 0, 0, 1, 0x00, 0x47] :=
    ⟨rfl, rfl, Or.inl ⟨8, by decide, by decide, rfl⟩⟩
  have hlength : (0x04 :: ([0x01, 0x00, 0x50, 127, 0, 0, 1] ++
      List.replicate 250 0x61) : Bytes).length = 258 := by
    rw [List.length_cons, List.length_append, List.length_replicate]
    rfl
  have hunterminated : Overlong (0x04 ::
      ([0x01, 0x00, 0x50, 127, 0, 0, 1] ++ List.replicate 250 0x61)) := by
    refine ⟨rfl, rfl, Or.inr ⟨hlength, ?_⟩⟩
    rintro ⟨i, h8, hi, hzero⟩
    rw [← List.cons_append, byteAt, List.getD_append_right _ _ _ _ h8,
      List.getD_replicate _ (by rw [hlength] at hi; exact Nat.sub_lt_left_of_lt_add h8 hi)] at hzero
    exact absurd hzero (by decide)
  exact ⟨not_onlyComplete_of_read (read_overlong hpipelined (by decide) _ _)
      ErrorCode.failed_ok hpipelined,
    not_onlyComplete_of_read (read_overlong hunterminated hlength.le _ _)
      ErrorCode.failed_ok hunterminated⟩

end Socks
