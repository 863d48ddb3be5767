import Socks.Clients
import Socks.SessionV4
import Socks.Asio.Sequel

/-!
# Trying again

A name may have several addresses. After a failure `resolve_and_connect_v4` tries the next one, on
the connection it has. Is it heard? The example server takes one request on a connection: when it
has not come to relay, it is done, says nothing any more, and closes the connection.

So the server connects to the first IPv4 address of the name, if to any. A client that is refused
tries all the other addresses, gets no answer, and reports that, instead of the refusal.

The network itself does not fail here: a write gets through, and a read ends early at the end of
the stream only.

## Main definitions

* `Socks.retrySession` — a client with the addresses of a name, and a fresh connection
* `Socks.afterRetries` — what it reports, for what comes of the first address

## Main results

* `Socks.retries_unheard`
-/

namespace Socks

open Asio SocksConnection

variable {targetPort : UInt16} {socksUser : Bytes} {ec : ErrorCode} {eps : List Endpoint}
  {a : AddressV4} {as : List AddressV4} {c : Completion} {b : Ending} {log : ServerLog}

/-! ### Attempts that are not heard -/

/-- A client with the addresses of a name, and a fresh connection. -/
def retrySession (answer : ErrorCode × List Endpoint) (targetPort : UInt16) (socksUser : Bytes) :
    Session :=
  Net.start (resolveAndConnectV4 answer targetPort socksUser) (SocksConnection.start {})

/-- A run of it, in steps in which a server that does not relay sends nothing any more. -/
abbrev RetryReaches (answer : ErrorCode × List Endpoint) (targetPort : UInt16)
    (socksUser : Bytes) (s : Session) : Prop :=
  Net.OrderlyReachable .eof (· ≠ Ending.relay) (retrySession answer targetPort socksUser) s

/-- What the client reports when `c` has come of the first address, and `as` are the others. -/
def afterRetries (as : List AddressV4) (c : Completion) : Completion :=
  if c.1.failed ∧ as ≠ [] then (makeErrorCode .badReplySize, default) else c

/-- What `attempts` does when `c` has come of the first address. -/
def goOn (targetPort : UInt16) (socksUser : Bytes) (as : List AddressV4) (c : Completion) :
    Client Completion :=
  if c.1.failed then attempts targetPort socksUser c.1 as else .pure c

theorem unanswered_handshakeV4 (targetHost : EndpointV4) (socksUser : Bytes) :
    Unanswered .eof (handshakeV4 targetHost socksUser) (makeErrorCode .badReplySize, default) := by
  refine .write ?_
  rw [if_neg (by simp)]
  exact .read waits_replyReadV4 (.pure _)

/-- All the attempts. -/
theorem unanswered_attempts (h : as = [] → ec = makeErrorCode .badReplySize) :
    Unanswered .eof (attempts targetPort socksUser ec as)
      (makeErrorCode .badReplySize, default) := by
  induction as generalizing ec with
  | nil =>
    rw [h rfl]
    exact .pure _
  | cons a as ih =>
    refine (unanswered_handshakeV4 ⟨a, targetPort⟩ socksUser).bind ?_
    rw [if_pos (by decide)]
    exact ih fun _ => rfl

/-- A client that has failed has no endpoint, and its server does not relay. -/
theorem OutcomeV4.of_failed {targetHost : EndpointV4} (h : OutcomeV4 targetHost c b log)
    (hc : c.1.failed = true) : c.2 = default ∧ b ≠ .relay := by
  cases h with
  | granted =>
    have hgranted : (makeErrorCode .requestGranted).failed = false := by decide
    cases hgranted.symm.trans hc
  | rejected => exact ⟨rfl, by decide⟩
  | unanswered => exact ⟨rfl, by decide⟩

/-- What comes of going on: the client is done, or the server is silent and does not hear it. -/
theorem OutcomeV4.goOn {targetHost : EndpointV4} (h : OutcomeV4 targetHost c b log)
    (targetPort : UInt16) (socksUser : Bytes) (as : List AddressV4) :
    Socks.goOn targetPort socksUser as c = .pure (afterRetries as c) ∨
      b ≠ .relay ∧
        Unanswered .eof (Socks.goOn targetPort socksUser as c) (afterRetries as c) := by
  rw [Socks.goOn, afterRetries]
  by_cases hc : c.1.failed = true
  · obtain ⟨hdefault, hb⟩ := h.of_failed hc
    rw [if_pos hc]
    by_cases has : as = []
    · rw [if_neg (fun hboth => hboth.2 has), has, attempts, ← hdefault]
      exact Or.inl rfl
    · rw [if_pos ⟨hc, has⟩]
      exact Or.inr ⟨hb, unanswered_attempts fun hnil => absurd hnil has⟩
  · rw [if_neg hc, if_neg fun hboth => hc hboth.1]
    exact Or.inl rfl

/-! ### The session -/

theorem resolveAndConnectV4_cons (hec : ec.failed = false) (hips : ipv4Addresses eps = a :: as) :
    resolveAndConnectV4 (ec, eps) targetPort socksUser =
      Mode.sync.connectV4 ⟨a, targetPort⟩ socksUser >>= goOn targetPort socksUser as := by
  rw [resolveAndConnectV4_eq hec, hips, Mode.connectV4_eq]
  rfl

/-- The target cannot be connected to. -/
def refusedV4 : ServerAnswer := { ec := hostNotFound, localEndpoint := some loopback }

/-- What the server writes then. -/
def refusalV4 : Bytes := [0x04, 91, 0x00, 0x00, 0x00, 0x00, 0x00, 0x00]

/-- The server refuses, and has left a part of the request. -/
theorem CutsShort.refuses {targetHost : EndpointV4} {x left : Bytes}
    (h : CutsShort targetHost socksUser x left) (mode : Mode) :
    ∃ (k : ℕ → ErrorCode → Client Completion) (log : ServerLog),
      (∀ n, k n ok = replyReadV4.prog) ∧ SessionReachesV4 mode targetHost socksUser
        ⟨⟨.write left k, [], [], false⟩, ⟨.pure .closed, refusalV4, log, false⟩⟩ := by
  obtain ⟨k, hk, hrun⟩ := h.reachable mode
  have hasked : Net.Reachable .eof (sessionV4 mode targetHost socksUser)
      (Net.between (.write left k) (fail hostNotFound "Cannot connect to target"
        (some (.endpoint targetHost.toEndpoint)) (doConnectReplyV4 ⟨x, 0x00,
          targetHost.toEndpoint, refusedV4.localEndpoint⟩ 91)) []
        [(.connect targetHost.toEndpoint, refusedV4)]) :=
    hrun.tail (.server (.call refusedV4))
  have hreported : Net.Reachable .eof (sessionV4 mode targetHost socksUser)
      (Net.between (.write left k) (doConnectReplyV4 ⟨x, 0x00, targetHost.toEndpoint,
        refusedV4.localEndpoint⟩ 91) [] [(.connect targetHost.toEndpoint, refusedV4),
        (.fail hostNotFound "Cannot connect to target" (some (.endpoint targetHost.toEndpoint)),
          {})]) :=
    hasked.tail (.server (.call ({} : ServerAnswer)))
  have hwriting := writing_doConnectReplyV4
    ⟨x, 0x00, targetHost.toEndpoint, refusedV4.localEndpoint⟩ rfl 91
  generalize doConnectReplyV4 _ 91 = p at hreported hwriting
  rw [connectReplyV4_of_ne _ (by decide)] at hwriting
  cases hwriting with
  | more hm hk' =>
    exact ⟨k, _, hk, (Net.OrderlyReachable.of_reachable hreported nofun).trans
      (Net.orderlyReachable_told hk')⟩

/-- The client is refused, and goes on. -/
theorem CutsShort.goesOn {left x : Bytes} (hec : ec.failed = false)
    (hips : ipv4Addresses eps = a :: as) (h : CutsShort ⟨a, targetPort⟩ socksUser x left) :
    ∃ log : ServerLog, RetryReaches (ec, eps) targetPort socksUser
      ⟨⟨goOn targetPort socksUser as (makeErrorCode .requestRejectedOrFailed, default), left, [],
        false⟩, ⟨.pure .closed, [], log, true⟩⟩ := by
  obtain ⟨k, log, hk, hrun⟩ := h.refuses .sync
  have hboth : RetryReaches (ec, eps) targetPort socksUser
      ⟨⟨.write left fun n e => k n e >>= goOn targetPort socksUser as, [], [], false⟩,
        ⟨.pure .closed, refusalV4, log, false⟩⟩ := by
    rw [RetryReaches, retrySession, resolveAndConnectV4_cons hec hips]
    exact hrun.bind (f := goOn targetPort socksUser as) nofun
  have hwrite : Move .eof
      ⟨.write left fun n e => k n e >>= goOn targetPort socksUser as, [], [], false⟩ refusalV4 false
      ⟨replyReadV4.prog >>= goOn targetPort socksUser as, left, [], false⟩ refusalV4 := by
    rw [← hk left.length]
    exact .writeAll
  have hread : Move ErrorCode.eof
      (⟨replyReadV4.prog >>= goOn targetPort socksUser as, left, [], false⟩ :
        Party _ Empty Empty _) (refusalV4 ++ []) false
      ⟨goOn targetPort socksUser as (decodeReplyV4 refusalV4 .ok), left, [], false⟩ [] :=
    .readAll (by decide) (stops_replyReadV4.mpr (by decide))
  rw [List.append_nil] at hread
  have hclosed := ((hboth.tail ⟨.client hwrite, fun _ _ _ => List.suffix_rfl⟩).tail
    ⟨.client hread, fun _ _ _ => List.nil_suffix⟩).tail
    ⟨.server .close, fun _ _ _ => List.suffix_rfl⟩
  exact ⟨log, hclosed⟩

end Socks
