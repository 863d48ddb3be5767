import Socks.Stages
import Socks.Rejections

/-!
# What a connection has done by then

A connection that has come to a stage has a history, and the stages say which. On the way to a
relay it is a straight line: a greeting, the method, perhaps a user/pass message, the request,
perhaps a name resolution, one connection, one reply. Nothing fails on this line, and a connection
that leaves it does not come back: it may report, and reply that it refuses.

## Main definitions

* `Socks.Admitted`, `Socks.Asked`, `Socks.Relays` — the traces on the way to a relay
* `Socks.Conversation` — the messages that are written, in order
* `Socks.Throws` — the steps after which an exception leaves a handler

## Main results

* `Socks.follows_history` — the history of each stage
* `Socks.conversation_of_follows`, `Socks.completions_le_of_follows` — what is written, and how
  many operations there are
* `Socks.dooms_iff` — where the exceptions come from
-/

namespace Socks

open Asio SocksConnection

/-! ### On the way to a relay -/

/-- A greeting has been answered with a method, and if that is user/pass, a user/pass message has
been accepted. -/
inductive Admitted : ServerTrace → Prop
  | noAuth {methods : List UInt8} {n : ℕ} {e e' : ErrorCode} (hlen : methods.length ≤ 255)
      (hchosen : chosenMethod methods = 0x00) (he : e.failed = false) (he' : e'.failed = false) :
      Admitted [.read 258 (greetingMethodsBytes methods) e, .write [0x05, 0x00] n e']
  | userpass {methods : List UInt8} {got : Bytes} {n n' : ℕ} {e e' u u' : ErrorCode}
      (hlen : methods.length ≤ 255) (hchosen : chosenMethod methods = 0x02)
      (he : e.failed = false) (he' : e'.failed = false) (hid : Identifies got)
      (hu : u.failed = false) (hu' : u'.failed = false) :
      Admitted [.read 258 (greetingMethodsBytes methods) e, .write [0x05, 0x02] n e',
        .read 513 got u, .write [0x01, 0x00] n' u']

/-- A client that may do so has requested a target: with a SOCKS4 request, or by its address, or
by a name that has been resolved. -/
inductive Asked : ServerTrace → Version → Endpoint → Prop
  | socks4 {targetHost : EndpointV4} {got : Bytes} {e : ErrorCode} (h : AsksV4 targetHost got)
      (he : e.failed = false) : Asked [.read 258 got e] .socks4 targetHost.toEndpoint
  | address {t : ServerTrace} {ep : Endpoint} {e : ErrorCode} (ht : Admitted t)
      (he : e.failed = false) :
      Asked (t ++ [.read 263 (requestBytes (.endpoint ep)) e]) .socks5 ep
  | name {t : ServerTrace} {ep : DomainEndpoint} {e : ErrorCode} {answer : ServerAnswer}
      (ht : Admitted t) (hlen : ep.domain.length ≤ 255) (he : e.failed = false)
      (hec : answer.ec.failed = false) :
      Asked (t ++ [.read 263 (requestBytes (.domain ep)) e,
        .call (.resolve ep.domain (portToString ep.port)) answer]) .socks5 answer.endpoint

/-- The target has been connected to, and the client has been told where the target socket is
bound. -/
inductive Relays : ServerTrace → Prop
  | mk {t : ServerTrace} {version : Version} {target bndEp : Endpoint} {answer : ServerAnswer}
      {n : ℕ} {e : ErrorCode} (ht : Asked t version target) (hec : answer.ec.failed = false)
      (hbnd : answer.localEndpoint = some bndEp) (he : e.failed = false) :
      Relays (t ++ [.call (.connect target) answer, .write (version.grant bndEp) n e])

namespace Stage

/-- A connection that is off the way to a relay. -/
def Failing : Stage → Prop
  | .reporting _ next => next.Failing
  | .refusing _ => True
  | .ended e => e ≠ .relay
  | _ => False

/-- How a connection has come to a stage. -/
inductive History : Stage → ServerTrace → Prop
  | opening : History .opening []
  | choosing {methods : List UInt8} {e : ErrorCode} (hlen : methods.length ≤ 255)
      (he : e.failed = false) :
      History (.choosing (chosenMethod methods)) [.read 258 (greetingMethodsBytes methods) e]
  | identifying {methods : List UInt8} {n : ℕ} {e e' : ErrorCode} (hlen : methods.length ≤ 255)
      (hchosen : chosenMethod methods = 0x02) (he : e.failed = false) (he' : e'.failed = false) :
      History .identifying
        [.read 258 (greetingMethodsBytes methods) e, .write [0x05, 0x02] n e']
  | accepting {methods : List UInt8} {got : Bytes} {n : ℕ} {e e' u : ErrorCode}
      (hlen : methods.length ≤ 255) (hchosen : chosenMethod methods = 0x02)
      (he : e.failed = false) (he' : e'.failed = false) (hid : Identifies got)
      (hu : u.failed = false) :
      History .accepting
        [.read 258 (greetingMethodsBytes methods) e, .write [0x05, 0x02] n e', .read 513 got u]
  | awaiting {t : ServerTrace} (h : Admitted t) : History .awaiting t
  | resolving {t : ServerTrace} {ep : DomainEndpoint} {e : ErrorCode} (h : Admitted t)
      (hlen : ep.domain.length ≤ 255) (he : e.failed = false) :
      History (.resolving ep) (t ++ [.read 263 (requestBytes (.domain ep)) e])
  | connecting {t : ServerTrace} {version : Version} {target : Endpoint}
      (h : Asked t version target) : History (.connecting version target) t
  | granting {t : ServerTrace} {version : Version} {target bndEp : Endpoint}
      {answer : ServerAnswer} (h : Asked t version target) (hec : answer.ec.failed = false)
      (hbnd : answer.localEndpoint = some bndEp) :
      History (.granting version bndEp) (t ++ [.call (.connect target) answer])
  | relaying {t : ServerTrace} (h : Relays t) : History (.ended .relay) t
  | failing {stage : Stage} {t : ServerTrace} (h : stage.Failing) : History stage t

end Stage

/-! ### Where a message leads -/

section Leads

variable {motive : Stage → Prop} {got : Bytes}

theorem Stage.opened_induction (hgreeting : ∀ methods : List UInt8, methods.length ≤ 255 →
      got = greetingMethodsBytes methods → motive (.choosing (chosenMethod methods)))
    (hv4 : ∀ targetHost, AsksV4 targetHost got → motive (.connecting .socks4 targetHost.toEndpoint))
    (hrefuse : byteAt got 0 = 0x04 → ¬AcceptedV4 got → motive .refuse)
    (hreject : (byteAt got 0 = 0x04 → AcceptedV4 got) → motive .reject) :
    motive (.opened got) := by
  rw [Stage.opened]
  split_ifs with h h' h0
  · exact hgreeting _ h.choose_spec.1 h.choose_spec.2
  · exact hv4 _ h'.choose_spec
  · exact hrefuse h0 fun haccepted => h' (acceptedV4_iff.mp haccepted)
  · exact hreject fun h4 => absurd h4 h0

theorem Stage.requested_induction
    (haddress : ∀ ep, got = requestBytes (.endpoint ep) → motive (.connecting .socks5 ep))
    (hname : ∀ ep : DomainEndpoint, ep.domain.length ≤ 255 → got = requestBytes (.domain ep) →
      motive (.resolving ep))
    (hreject : got = [] → motive .reject)
    (hrefuse : got ≠ [] → ¬CompleteRequest got → motive .refuse) : motive (.requested got) := by
  rw [Stage.requested]
  split_ifs with h hnil
  · obtain ⟨hshort, -, hgot⟩ := h.choose_spec
    generalize h.choose = target at hshort hgot
    cases target with
    | endpoint ep => exact haddress ep hgot
    | domain ep => exact hname ep (Target.short_domain_iff.mp hshort) hgot
  · exact hreject hnil
  · refine hrefuse hnil fun hcomplete => h ?_
    obtain ⟨target, hshort, hbytes⟩ := completeRequest_iff.mp hcomplete
    obtain ⟨target', hshort', hunscoped', heq⟩ := exists_requested hshort
    exact ⟨target', hshort', hunscoped', hbytes.trans heq⟩

end Leads

/-! ### Histories -/

variable {t : ServerTrace} {stage : Stage} {x : Asio.Step ErrorCode ServerCall ServerAnswer}

theorem Stage.History.drop (t : ServerTrace) (ec : ErrorCode) : (Stage.drop ec).History t :=
  .failing (show Ending.dropped ≠ .relay by simp)

theorem Stage.History.reject (t : ServerTrace) : Stage.reject.History t :=
  .failing (show Ending.dropped ≠ .relay by simp)

theorem Stage.History.refuse (t : ServerTrace) : Stage.refuse.History t :=
  .failing (show Ending.thrown ≠ .relay by simp)

/-- Off the way to a relay, there is no way back. -/
theorem Stage.Failing.next (h : stage.Failing) (hx : stage.Does x) :
    (stageMonitor.next stage x).Failing := by
  cases hx with
  | reporting => exact h
  | refusing version n ec =>
    change Stage.Failing (if ec.failed then .drop ec else .ended .closed)
    split_ifs
    · exact show Ending.dropped ≠ .relay by simp
    · exact show Ending.closed ≠ .relay by simp
  | _ => exact h.elim

/-- One step. -/
theorem Stage.History.step (h : stage.History t) (hx : stage.Does x) :
    (stageMonitor.next stage x).History (t ++ [x]) := by
  by_cases hfailing : stage.Failing
  · exact .failing (hfailing.next hx)
  cases hx with
  | opening got ec =>
    change Stage.History (if ec.failed then .drop ec else .opened got) _
    cases h with
    | failing h => exact absurd h hfailing
    | opening =>
      split_ifs with hec
      · exact .drop _ _
      · have hec' : ec.failed = false := Bool.not_eq_true _ ▸ hec
        refine Stage.opened_induction (motive := fun stage => stage.History _) ?_ ?_ ?_ ?_
        · rintro methods hlen rfl
          exact .choosing hlen hec'
        · exact fun targetHost hasks => .connecting (.socks4 hasks hec')
        · exact fun _ _ => .refuse _
        · exact fun _ => .reject _
  | choosing method n ec =>
    change Stage.History (if ec.failed then .drop ec else if method = 0xFF then .drop ec
      else if method = 0x02 then .identifying else .awaiting) _
    cases h with
    | failing h => exact absurd h hfailing
    | @choosing methods e hlen he =>
      split_ifs with hec hff huser
      · exact .drop _ _
      · exact .drop _ _
      · rw [huser]
        exact .identifying hlen huser he (Bool.not_eq_true _ ▸ hec)
      · have hnone : chosenMethod methods = 0x00 := by
          rw [chosenMethod] at hff huser ⊢
          split_ifs at hff huser ⊢ <;> tauto
        rw [hnone]
        exact .awaiting (.noAuth hlen hnone he (Bool.not_eq_true _ ▸ hec))
  | identifying got ec =>
    change Stage.History (if ec.failed then .drop ec else .identified got) _
    cases h with
    | failing h => exact absurd h hfailing
    | identifying hlen hchosen he he' =>
      rw [Stage.identified]
      split_ifs with hec hid
      · exact .drop _ _
      · exact .accepting hlen hchosen he he' hid (Bool.not_eq_true _ ▸ hec)
      · exact .reject _
  | accepting n ec =>
    change Stage.History (if ec.failed then .drop ec else .awaiting) _
    cases h with
    | failing h => exact absurd h hfailing
    | accepting hlen hchosen he he' hid hu =>
      split_ifs with hec
      · exact .drop _ _
      · exact .awaiting (.userpass hlen hchosen he he' hid hu (Bool.not_eq_true _ ▸ hec))
  | awaiting got ec =>
    change Stage.History (if ec.failed then .drop ec else .requested got) _
    cases h with
    | failing h => exact absurd h hfailing
    | awaiting h =>
      split_ifs with hec
      · exact .drop _ _
      · have hec' : ec.failed = false := Bool.not_eq_true _ ▸ hec
        refine Stage.requested_induction (motive := fun stage => stage.History _) ?_ ?_ ?_ ?_
        · rintro ep rfl
          exact .connecting (.address h hec')
        · rintro ep hlen rfl
          exact .resolving h hlen hec'
        · exact fun _ => .reject _
        · exact fun _ _ => .refuse _
  | resolving ep answer =>
    change Stage.History (if answer.ec.failed then .reporting (some answer.ec) (.ended .thrown)
      else .connecting .socks5 answer.endpoint) _
    cases h with
    | failing h => exact absurd h hfailing
    | resolving h hlen he =>
      split_ifs with hec
      · exact .failing (show Ending.thrown ≠ .relay by simp)
      · rw [List.append_assoc]
        exact .connecting (.name h hlen he (Bool.not_eq_true _ ▸ hec))
  | connecting version target answer =>
    change Stage.History (.connected version answer) _
    cases h with
    | failing h => exact absurd h hfailing
    | connecting h =>
      rw [Stage.connected, Stage.replied]
      cases hbnd : answer.localEndpoint with
      | none =>
        split_ifs
        · exact .failing (show Ending.thrown ≠ .relay by simp)
        · exact .failing (show Ending.thrown ≠ .relay by simp)
      | some bndEp =>
        dsimp only
        split_ifs with hec
        · exact .failing trivial
        · exact .granting h (Bool.not_eq_true _ ▸ hec) hbnd
  | granting version bndEp n ec =>
    change Stage.History (if ec.failed then .drop ec else .ended .relay) _
    cases h with
    | failing h => exact absurd h hfailing
    | granting h hec hbnd =>
      split_ifs with hec'
      · exact .drop _ _
      · rw [List.append_assoc]
        exact .relaying (.mk h hec hbnd (Bool.not_eq_true _ ▸ hec'))
  | refusing version n ec => exact absurd trivial hfailing
  | reporting =>
    cases h with
    | failing h => exact absurd h hfailing

/-- **The history of each stage.** -/
theorem follows_history (h : stageMonitor.Follows .opening t stage) : stage.History t :=
  h.invariant (P := fun t stage => stage.History t) .opening
    fun _ _ _ hhistory hx => hhistory.step hx

/-! ### What is written -/

/-- What is written before the reply. -/
inductive Introduced : Version → List Bytes → Prop
  | socks4 : Introduced .socks4 []
  | noAuth : Introduced .socks5 [[0x05, 0x00]]
  | userpass : Introduced .socks5 [[0x05, 0x02], [0x01, 0x00]]

/-- The two kinds of replies. -/
def Version.Replies (version : Version) (reply : Bytes) : Prop :=
  reply = version.refusal ∨ ∃ bndEp, reply = version.grant bndEp

/-- All that is written on a connection. -/
inductive Conversation : List Bytes → Prop
  /-- No method is acceptable. -/
  | unacceptable : Conversation [[0x05, 0xFF]]
  | replied {version : Version} {ms : List Bytes} {reply : Bytes} (h : Introduced version ms)
      (hreply : version.Replies reply) : Conversation (ms ++ [reply])

/-- What has been written by each stage. -/
inductive Stage.Said : Stage → List Bytes → Prop
  | opening : Said .opening []
  | choosing {method : UInt8} (h : method = 0x02 ∨ method = 0x00 ∨ method = 0xFF) :
      Said (.choosing method) []
  | identifying : Said .identifying [[0x05, 0x02]]
  | accepting : Said .accepting [[0x05, 0x02]]
  | awaiting {ms : List Bytes} (h : Introduced .socks5 ms) : Said .awaiting ms
  | resolving {ep : DomainEndpoint} {ms : List Bytes} (h : Introduced .socks5 ms) :
      Said (.resolving ep) ms
  | connecting {version : Version} {target : Endpoint} {ms : List Bytes}
      (h : Introduced version ms) : Said (.connecting version target) ms
  | granting {version : Version} {bndEp : Endpoint} {ms : List Bytes}
      (h : Introduced version ms) : Said (.granting version bndEp) ms
  | refusing {version : Version} {ms : List Bytes} (h : Introduced version ms) :
      Said (.refusing version) ms
  | reporting {ec : Option ErrorCode} {next : Stage} {ms : List Bytes} (h : next.Said ms) :
      Said (.reporting ec next) ms
  | ended {e : Ending} {ms all : List Bytes} (h : Conversation all) (hpre : ms <+: all) :
      Said (.ended e) ms

theorem chosenMethod_cases (methods : List UInt8) :
    chosenMethod methods = 0x02 ∨ chosenMethod methods = 0x00 ∨ chosenMethod methods = 0xFF := by
  rw [chosenMethod]
  split_ifs <;> simp

theorem Introduced.conversation {version : Version} {ms : List Bytes}
    (h : Introduced version ms) : Conversation (ms ++ [version.refusal]) := .replied h (Or.inl rfl)

/-- What is said at a stage is the beginning of a conversation. -/
theorem Stage.Said.conversation {ms : List Bytes} (h : stage.Said ms) :
    ∃ all, Conversation all ∧ ms <+: all := by
  induction h with
  | opening => exact ⟨_, .unacceptable, List.nil_prefix⟩
  | choosing => exact ⟨_, .unacceptable, List.nil_prefix⟩
  | identifying => exact ⟨_, Introduced.userpass.conversation, [[0x01, 0x00], _], rfl⟩
  | accepting => exact ⟨_, Introduced.userpass.conversation, [[0x01, 0x00], _], rfl⟩
  | awaiting h => exact ⟨_, h.conversation, List.prefix_append _ _⟩
  | resolving h => exact ⟨_, h.conversation, List.prefix_append _ _⟩
  | connecting h => exact ⟨_, h.conversation, List.prefix_append _ _⟩
  | granting h => exact ⟨_, h.conversation, List.prefix_append _ _⟩
  | refusing h => exact ⟨_, h.conversation, List.prefix_append _ _⟩
  | reporting _ ih => exact ih
  | ended h hpre => exact ⟨_, h, hpre⟩

/-- A connection that is dropped has said what it has said. -/
theorem Stage.Said.drop {ms all : List Bytes} (ec : ErrorCode) (h : Conversation all)
    (hpre : ms <+: all) : (Stage.drop ec).Said ms := .reporting (.ended h hpre)

/-- One step. -/
theorem Stage.Said.step {ms : List Bytes} (h : stage.Said ms) (hx : stage.Does x) :
    (stageMonitor.next stage x).Said (ms ++ started [x]) := by
  obtain ⟨all, hall, hpre⟩ := h.conversation
  have hsame : ms ++ [] = ms := List.append_nil ms
  cases hx with
  | opening got ec =>
    change Stage.Said (if ec.failed then .drop ec else .opened got) (ms ++ [])
    cases h
    split_ifs
    · exact .drop ec hall hpre
    · refine Stage.opened_induction (motive := fun stage => stage.Said _) ?_ ?_ ?_ ?_
      · exact fun methods _ _ => .choosing (chosenMethod_cases methods)
      · exact fun _ _ => .connecting .socks4
      · exact fun _ _ => .reporting (.ended hall hpre)
      · exact fun _ => .reporting (.ended hall hpre)
  | choosing method n ec =>
    change Stage.Said (if ec.failed then .drop ec else if method = 0xFF then .drop ec
      else if method = 0x02 then .identifying else .awaiting) (ms ++ [[0x05, method]])
    cases h with
    | choosing hmethod =>
      have hcut : ∃ all, Conversation all ∧ [] ++ [[0x05, method]] <+: all := by
        rcases hmethod with rfl | rfl | rfl
        · exact ⟨_, Introduced.userpass.conversation, [[0x01, 0x00], _], rfl⟩
        · exact ⟨_, Introduced.noAuth.conversation, List.prefix_append _ _⟩
        · exact ⟨_, .unacceptable, List.prefix_rfl⟩
      obtain ⟨all', hall', hpre'⟩ := hcut
      split_ifs with hec hff huser
      · exact .drop ec hall' hpre'
      · exact .drop ec hall' hpre'
      · subst huser
        exact .identifying
      · obtain rfl : method = 0x00 := by tauto
        exact .awaiting .noAuth
  | identifying got ec =>
    change Stage.Said (if ec.failed then .drop ec else .identified got) (ms ++ [])
    cases h
    rw [Stage.identified]
    split_ifs
    · exact .drop ec hall hpre
    · exact .accepting
    · exact .reporting (.ended hall hpre)
  | accepting n ec =>
    change Stage.Said (if ec.failed then .drop ec else .awaiting) (ms ++ [[0x01, 0x00]])
    cases h
    split_ifs
    · exact .drop ec Introduced.userpass.conversation (List.prefix_append _ _)
    · exact .awaiting .userpass
  | awaiting got ec =>
    change Stage.Said (if ec.failed then .drop ec else .requested got) (ms ++ [])
    rw [hsame]
    cases h with
    | awaiting h =>
      split_ifs
      · exact .drop ec hall hpre
      · refine Stage.requested_induction (motive := fun stage => stage.Said _) ?_ ?_ ?_ ?_
        · exact fun _ _ => .connecting h
        · exact fun _ _ _ => .resolving h
        · exact fun _ => .reporting (.ended hall hpre)
        · exact fun _ _ => .reporting (.ended hall hpre)
  | resolving ep answer =>
    change Stage.Said (if answer.ec.failed then .reporting (some answer.ec) (.ended .thrown)
      else .connecting .socks5 answer.endpoint) (ms ++ [])
    rw [hsame]
    cases h with
    | resolving h =>
      split_ifs
      · exact .reporting (.ended hall hpre)
      · exact .connecting h
  | connecting version target answer =>
    change Stage.Said (.connected version answer) (ms ++ [])
    rw [hsame, Stage.connected]
    cases h with
    | connecting h =>
      have hreplied : (Stage.replied version answer).Said ms := by
        rw [Stage.replied]
        cases answer.localEndpoint with
        | none => exact .ended hall hpre
        | some bndEp =>
          dsimp only
          split_ifs
          · exact .refusing h
          · exact .granting h
      split_ifs
      · exact .reporting hreplied
      · exact hreplied
  | granting version bndEp n ec =>
    change Stage.Said (if ec.failed then .drop ec else .ended .relay) (ms ++ [version.grant bndEp])
    cases h with
    | granting h =>
      have hwhole := Conversation.replied h (Or.inr ⟨bndEp, rfl⟩)
      split_ifs
      · exact .drop ec hwhole List.prefix_rfl
      · exact .ended hwhole List.prefix_rfl
  | refusing version n ec =>
    change Stage.Said (if ec.failed then .drop ec else .ended .closed) (ms ++ [version.refusal])
    cases h with
    | refusing h =>
      split_ifs
      · exact .drop ec h.conversation List.prefix_rfl
      · exact .ended h.conversation List.prefix_rfl
  | reporting =>
    change Stage.Said _ (ms ++ [])
    rw [hsame]
    cases h with
    | reporting h => exact h

/-- **What is written by then is the beginning of a conversation.** -/
theorem conversation_of_follows (h : stageMonitor.Follows .opening t stage) :
    ∃ all, Conversation all ∧ started t <+: all := by
  have hsaid : stage.Said (started t) := by
    refine h.invariant (P := fun t stage => stage.Said (started t)) .opening ?_
    intro t stage x hsaid hx
    rw [started_append]
    exact hsaid.step hx
  exact hsaid.conversation

/-! ### How long it takes -/

/-- What is answered at once: a report. -/
def printed : ServerCall → Option ServerAnswer
  | .fail _ _ _ => some {}
  | _ => none

/-- How many operations are still to come, at most. -/
@[simp] def Stage.left : Stage → ℕ
  | .opening => 8
  | .choosing _ => 7
  | .identifying => 6
  | .accepting => 5
  | .awaiting => 4
  | .resolving _ => 3
  | .connecting _ _ => 2
  | .granting _ _ => 1
  | .refusing _ => 1
  | .reporting _ next => next.left
  | .ended _ => 0

namespace Stage

@[simp] theorem left_drop (ec : ErrorCode) : (drop ec).left = 0 := rfl

@[simp] theorem left_reject : reject.left = 0 := rfl

@[simp] theorem left_refuse : refuse.left = 0 := rfl

theorem left_opened_le (got : Bytes) : (opened got).left ≤ 7 := by
  refine opened_induction (motive := fun stage => stage.left ≤ 7) ?_ ?_ ?_ ?_ <;> intros <;> simp

theorem left_requested_le (got : Bytes) : (requested got).left ≤ 3 := by
  refine requested_induction (motive := fun stage => stage.left ≤ 3) ?_ ?_ ?_ ?_ <;> intros <;> simp

theorem left_connected_le (version : Version) (answer : ServerAnswer) :
    (connected version answer).left ≤ 1 := by
  rw [connected, replied]
  cases answer.localEndpoint with
  | none => split_ifs <;> simp
  | some bndEp =>
    dsimp only
    split_ifs <;> simp

/-- Every operation is one of these; a report is none. -/
theorem left_next_le (hx : stage.Does x) :
    (stageMonitor.next stage x).left + (completions printed [x]).length ≤ stage.left := by
  cases hx with
  | opening got ec =>
    refine Nat.succ_le_succ (show left (if ec.failed then .drop ec else .opened got) ≤ 7 from ?_)
    split_ifs
    · simp
    · exact left_opened_le got
  | choosing method n ec =>
    refine Nat.succ_le_succ (show left (if ec.failed then .drop ec else if method = 0xFF then
      .drop ec else if method = 0x02 then .identifying else .awaiting) ≤ 6 from ?_)
    split_ifs <;> simp
  | identifying got ec =>
    refine Nat.succ_le_succ
      (show left (if ec.failed then .drop ec else .identified got) ≤ 5 from ?_)
    rw [identified]
    split_ifs <;> simp
  | accepting n ec =>
    refine Nat.succ_le_succ (show left (if ec.failed then .drop ec else .awaiting) ≤ 4 from ?_)
    split_ifs <;> simp
  | awaiting got ec =>
    refine Nat.succ_le_succ
      (show left (if ec.failed then .drop ec else .requested got) ≤ 3 from ?_)
    split_ifs
    · simp
    · exact left_requested_le got
  | resolving ep answer =>
    refine Nat.succ_le_succ (show left (if answer.ec.failed then
      .reporting (some answer.ec) (.ended .thrown) else .connecting .socks5 answer.endpoint) ≤ 2
      from ?_)
    split_ifs <;> simp
  | connecting version target answer =>
    exact Nat.succ_le_succ (left_connected_le version answer)
  | granting version bndEp n ec =>
    refine Nat.succ_le_succ (show left (if ec.failed then .drop ec else .ended .relay) ≤ 0 from ?_)
    split_ifs <;> simp
  | refusing version n ec =>
    refine Nat.succ_le_succ (show left (if ec.failed then .drop ec else .ended .closed) ≤ 0 from ?_)
    split_ifs <;> simp
  | reporting => exact Nat.le_refl _

end Stage

/-- **There are eight operations at most**: three reads, three writes, a name resolution and a
connection. -/
theorem completions_le_of_follows (h : stageMonitor.Follows .opening t stage) :
    (completions printed t).length + stage.left ≤ 8 := by
  refine h.invariant (P := fun t stage => (completions printed t).length + stage.left ≤ 8)
    (Nat.le_refl _) ?_
  intro t stage x hle hx
  have hnext := Stage.left_next_le hx
  rw [completions_append, List.length_append]
  omega

/-! ### Where the exceptions come from -/

/-- A step after which an exception leaves a handler: the request fails before the target socket
is opened, or the target socket is not opened. -/
def Throws (x : Asio.Step ErrorCode ServerCall ServerAnswer) : Prop :=
  FailsEarly x ∨ ∃ target answer, x = .call (.connect target) answer ∧ answer.localEndpoint = none

/-- An exception is going to leave the handler. -/
@[simp] def Stage.Doomed : Stage → Prop
  | .reporting _ next => next.Doomed
  | .ended e => e = .thrown
  | _ => False

@[simp] theorem Stage.not_doomed_drop (ec : ErrorCode) : ¬(drop ec).Doomed := by simp [drop]

@[simp] theorem Stage.not_doomed_reject : ¬reject.Doomed := by simp [reject]

theorem not_throws_write (bs : Bytes) (n : ℕ) (ec : ErrorCode) : ¬Throws (.write bs n ec) := by
  rintro (h | ⟨_, _, h, -⟩)
  · exact h
  · cases h

theorem throws_read_iff (cap : ℕ) (got : Bytes) (ec : ErrorCode) :
    Throws (.read cap got ec) ↔ FailsEarly (.read cap got ec) := by
  refine or_iff_left ?_
  rintro ⟨_, _, h, -⟩
  cases h

theorem throws_connect_iff (target : Endpoint) (answer : ServerAnswer) :
    Throws (.call (.connect target) answer) ↔ answer.localEndpoint = none := by
  constructor
  · rintro (h | ⟨_, _, h, hnone⟩)
    · exact h.elim
    · cases h
      exact hnone
  · exact fun hnone => Or.inr ⟨target, answer, rfl, hnone⟩

theorem throws_resolve_iff (host : Bytes) (service : String) (answer : ServerAnswer) :
    Throws (.call (.resolve host service) answer) ↔ answer.ec.failed = true := by
  refine or_iff_left ?_
  rintro ⟨_, _, h, -⟩
  cases h

theorem Stage.doomed_connected_iff (version : Version) (answer : ServerAnswer) :
    (Stage.connected version answer).Doomed ↔ answer.localEndpoint = none := by
  rw [connected, replied]
  cases answer.localEndpoint with
  | none => split_ifs <;> exact iff_of_true rfl rfl
  | some bndEp =>
    dsimp only
    split_ifs <;> simp

/-- **Where the exceptions come from**: an operation dooms a connection exactly if it throws. -/
theorem dooms_iff (hx : stage.Does x) (h : ¬stage.Doomed) :
    (stageMonitor.next stage x).Doomed ↔ Throws x := by
  cases hx with
  | opening got ec =>
    change Stage.Doomed (if ec.failed then .drop ec else .opened got) ↔ _
    have hearly : Throws (.read 258 got ec) ↔
        ec.failed = false ∧ byteAt got 0 = 0x04 ∧ ¬AcceptedV4 got := by
      rw [throws_read_iff]
      simp [FailsEarly]
    rw [hearly]
    split_ifs with hec
    · exact iff_of_false (Stage.not_doomed_drop ec) fun h =>
        absurd (h.1.symm.trans hec) Bool.false_ne_true
    · rw [and_iff_right (Bool.not_eq_true _ ▸ hec)]
      refine Stage.opened_induction (motive := fun stage => stage.Doomed ↔ _) ?_ ?_ ?_ ?_
      · rintro methods - rfl
        exact iff_of_false id fun h => absurd h.1 (by decide : (0x05 : UInt8) ≠ 0x04)
      · exact fun targetHost hasks =>
          iff_of_false id fun h => h.2 (acceptedV4_iff.mpr ⟨targetHost, hasks⟩)
      · exact fun h4 hnot => iff_of_true rfl ⟨h4, hnot⟩
      · exact fun haccepted => iff_of_false Stage.not_doomed_reject fun h => h.2 (haccepted h.1)
  | choosing method n ec =>
    change Stage.Doomed (if ec.failed then .drop ec else if method = 0xFF then .drop ec
      else if method = 0x02 then .identifying else .awaiting) ↔ _
    refine iff_of_false ?_ (not_throws_write _ _ _)
    split_ifs <;> simp
  | identifying got ec =>
    change Stage.Doomed (if ec.failed then .drop ec else .identified got) ↔ _
    rw [Stage.identified]
    refine iff_of_false ?_ ?_
    · split_ifs <;> simp
    · rw [throws_read_iff]
      simp [FailsEarly]
  | accepting n ec =>
    change Stage.Doomed (if ec.failed then .drop ec else .awaiting) ↔ _
    refine iff_of_false ?_ (not_throws_write _ _ _)
    split_ifs <;> simp
  | awaiting got ec =>
    change Stage.Doomed (if ec.failed then .drop ec else .requested got) ↔ _
    have hearly : Throws (.read 263 got ec) ↔
        ec.failed = false ∧ got ≠ [] ∧ ¬CompleteRequest got := by
      rw [throws_read_iff]
      simp [FailsEarly]
    rw [hearly]
    split_ifs with hec
    · exact iff_of_false (Stage.not_doomed_drop ec) fun h =>
        absurd (h.1.symm.trans hec) Bool.false_ne_true
    · rw [and_iff_right (Bool.not_eq_true _ ▸ hec)]
      refine Stage.requested_induction (motive := fun stage => stage.Doomed ↔ _) ?_ ?_ ?_ ?_
      · exact fun ep hgot =>
          iff_of_false id fun h => h.2 (completeRequest_iff.mpr ⟨_, Target.short_endpoint ep, hgot⟩)
      · exact fun ep hlen hgot => iff_of_false id fun h =>
          h.2 (completeRequest_iff.mpr ⟨_, Target.short_domain_iff.mpr hlen, hgot⟩)
      · exact fun hnil => iff_of_false Stage.not_doomed_reject fun h => h.1 hnil
      · exact fun hne hnot => iff_of_true rfl ⟨hne, hnot⟩
  | resolving ep answer =>
    change Stage.Doomed (if answer.ec.failed then .reporting (some answer.ec) (.ended .thrown)
      else .connecting .socks5 answer.endpoint) ↔ _
    rw [throws_resolve_iff]
    split_ifs with hec
    · exact iff_of_true rfl hec
    · exact iff_of_false id hec
  | connecting version target answer =>
    rw [throws_connect_iff]
    exact Stage.doomed_connected_iff version answer
  | granting version bndEp n ec =>
    change Stage.Doomed (if ec.failed then .drop ec else .ended .relay) ↔ _
    refine iff_of_false ?_ (not_throws_write _ _ _)
    split_ifs <;> simp
  | refusing version n ec =>
    change Stage.Doomed (if ec.failed then .drop ec else .ended .closed) ↔ _
    refine iff_of_false ?_ (not_throws_write _ _ _)
    split_ifs <;> simp
  | reporting hec next what t a =>
    refine iff_of_false h ?_
    rintro (h | ⟨_, _, h, -⟩)
    · exact h
    · cases h

/-- An exception that is going to leave the handler does. -/
theorem Stage.Doomed.next (h : stage.Doomed) (hx : stage.Does x) :
    (stageMonitor.next stage x).Doomed ∧ ¬Throws x := by
  cases hx with
  | reporting =>
    refine ⟨h, ?_⟩
    rintro (h | ⟨_, _, h, -⟩)
    · exact h
    · cases h
  | _ => exact h.elim

/-- **A handler throws at the end of a trace exactly if a step of it throws.** -/
theorem doomed_iff_of_follows (h : stageMonitor.Follows .opening t stage) :
    stage.Doomed ↔ ∃ x ∈ t, Throws x := by
  refine h.invariant (P := fun t stage => stage.Doomed ↔ ∃ x ∈ t, Throws x)
    (iff_of_false id (by simp)) ?_
  intro t stage x hdoomed hx
  have hlast : (∃ y ∈ t ++ [x], Throws y) ↔ stage.Doomed ∨ Throws x := by
    simp only [hdoomed, List.mem_append, List.mem_singleton, or_and_right, exists_or,
      exists_eq_left]
  rw [hlast]
  by_cases hstage : stage.Doomed
  · exact iff_of_true (hstage.next hx).1 (Or.inl hstage)
  · rw [dooms_iff hx hstage, or_iff_right hstage]

/-- A stage at which an operation is to be done does not doom. -/
theorem Stage.Does.not_doomed (hx : stage.Does x) (hprinted : ∀ q a, x = .call q a →
    printed q = none) : ¬stage.Doomed := by
  cases hx with
  | reporting hec next what t a => exact absurd (hprinted _ a rfl) (by simp [printed])
  | _ => exact id

/-- **A program at a doomed stage goes on to an exception, and no other does.** -/
theorem settle_thrown_iff {p : Server} (h : Performs stage p) :
    (p.settle printed).2 = .pure .thrown ↔ stage.Doomed := by
  induction p generalizing stage with
  | pure e =>
    obtain rfl : stage = .ended e := h
    change Prog.pure e = .pure .thrown ↔ e = .thrown
    exact ⟨Prog.pure.inj, congrArg _⟩
  | write bs k =>
    have hdoes : stage.Does (.write bs 0 .ok) := (h 0 .ok).1
    exact iff_of_false (fun heq : Prog.write bs k = .pure .thrown => by cases heq)
      (hdoes.not_doomed fun _ _ heq => by cases heq)
  | read c cap k =>
    have hstops : c.ask [] .eof = 0 := c.ask_of_failed _ _ ErrorCode.failed_eof
    have hdoes : stage.Does (.read cap [] .eof) := (h [] .eof (Nat.zero_le _) (Or.inr hstops)).1
    exact iff_of_false (fun heq : Prog.read c cap k = .pure .thrown => by cases heq)
      (hdoes.not_doomed fun _ _ heq => by cases heq)
  | call q k ih =>
    obtain ⟨hdoes, hrest⟩ := h {} trivial
    cases q with
    | fail ec what t =>
      cases hdoes with
      | reporting hec next =>
        have hnext : ((k {}).settle printed).2 = .pure .thrown ↔ next.Doomed := ih {} hrest
        exact hnext
    | resolve host service =>
      exact iff_of_false
        (fun heq : Prog.call (.resolve host service) k = .pure .thrown => by cases heq)
        (Stage.Does.not_doomed hdoes fun _ _ heq => by cases heq; rfl)
    | connect target =>
      exact iff_of_false (fun heq : Prog.call (.connect target) k = .pure .thrown => by cases heq)
        (Stage.Does.not_doomed hdoes fun _ _ heq => by cases heq; rfl)

end Socks
