import Socks.Service
import Socks.Relay
import Socks.Asio.Pool

/-!
# The server

`socks_server` accepts one connection after the other, and the handlers of all of them run in one
`io_context`: one handler at a time, in whatever order the operations complete. A signal stops it.
An exception that leaves a handler leaves `io_context::run` too, and `main` returns: it is the end
of the process, with all the connections in it.

So the connections are as good as separate processes, up to an exception, and then they are not.
Where exceptions come from is known from one connection. There is one more: `start` asks the
socket of a new connection for its remote endpoint, and throws if it is not connected any more.

## Main definitions

* `Socks.Connection`, `Socks.connection` — a connection while others are under way
* `Socks.SocksServer`, `Socks.socksServer` — the server, and what happens to it
* `Socks.ServerEvent.Throws`, `Socks.ServerEvent.Ends` — what ends the process

## Main results

* `Socks.server_run_iff`, `Socks.server_serves` — the runs that leave the server up are the
  interleavings of runs of its connections
* `Socks.server_thrown_iff`, `Socks.one_byte_throws` — when the process is ended by an exception,
  and that a client can always do so
* `Socks.server_conversation`, `Socks.server_relays`, `Socks.server_handshake_le` — what holds of
  each connection all the time
-/

namespace Socks

open Asio SocksConnection

/-! ### Connections -/

/-- A connection: what its handlers have done, and its relay, if that has begun. -/
structure Connection where
  running : Running ErrorCode ServerCall ServerAnswer Ending
  relay : Option Relay

/-- The handlers have gone on up to here, and perhaps called `do_relay`. What the buffer holds then
does not matter: the relay has it resized, and reads into it. -/
def Connection.ofRunning (running : Running ErrorCode ServerCall ServerAnswer Ending) :
    Connection where
  running
  relay :=
    match running.prog with
    | .pure .relay => some (SocksConnection.toRelay {})
    | _ => none

/-- A connection on which `start` has been called. -/
def Connection.start : Connection := .ofRunning (.goOn printed [] (SocksConnection.start {}))

/-- An exception has left a handler. -/
def Connection.thrown (self : Connection) : Bool :=
  match self.running.prog with
  | .pure .thrown => true
  | _ => false

/-- What happens to a connection. -/
inductive ConnectionEvent
  /-- An operation completes. -/
  | completed (x : Asio.Step ErrorCode ServerCall ServerAnswer)
  /-- One of the relay does. -/
  | relayed (ev : RelayEvent)

/-- A connection, of which a handler is called. -/
def connection : Machine Connection ConnectionEvent where
  step
    | self, .completed x => ((handlers printed).step self.running x).map .ofRunning
    | self, .relayed ev => (self.relay.bind (relay.step · ev)).map fun next =>
      { self with relay := some next }

/-! ### The server -/

/-- What has become of `io_context::run`: it runs, it has returned, or an exception has left it. -/
inductive Status
  | running
  | stopped
  | thrown
  deriving DecidableEq

/-- `socks_server`, and the connections it has started. -/
structure SocksServer where
  accepting : Bool := false
  connections : List Connection := []
  status : Status := .running

/-- What happens to the server. -/
inductive ServerEvent
  /-- SIGINT, or SIGTERM. -/
  | signal
  /-- `async_accept` completes; if the new socket is connected, this is its remote endpoint. -/
  | accepted (ec : ErrorCode) (remote : Option Endpoint)
  /-- Something happens to a connection. -/
  | on (i : ℕ) (ev : ConnectionEvent)

namespace SocksServer

/-- `do_accept`. -/
def doAccept (self : SocksServer) : SocksServer := { self with accepting := true }

/-- The constructor. -/
def create : SocksServer := doAccept {}

/-- The handler in `do_accept`. `start` asks for the remote endpoint before it reads. -/
def onAccept (self : SocksServer) (ec : ErrorCode) (remote : Option Endpoint) : SocksServer :=
  if !ec.failed then
    match remote with
    | none => { self with status := .thrown }
    | some _ => doAccept { self with connections := self.connections ++ [.start] }
  else self.doAccept

/-- A handler of a connection has been called. -/
def onConnection (self : SocksServer) (i : ℕ) (c : Connection) : SocksServer :=
  { self with
    connections := self.connections.set i c
    status := if c.thrown then .thrown else self.status }

/-- One handler is called. -/
def handle (self : SocksServer) : ServerEvent → Option SocksServer
  | .signal => some { self with status := .stopped }
  | .accepted ec remote =>
    if self.accepting then some ({ self with accepting := false }.onAccept ec remote) else none
  | .on i ev => (self.connections[i]?.bind (connection.step · ev)).map (self.onConnection i)

end SocksServer

/-- `io_context::run`. -/
def socksServer : Machine SocksServer ServerEvent where
  step self ev := if self.status = .running then self.handle ev else none

/-! ### What ends the process -/

/-- An exception leaves the handler that is called. -/
def ServerEvent.Throws : ServerEvent → Prop
  | .signal => False
  | .accepted ec remote => ec.failed = false ∧ remote = none
  | .on _ (.completed x) => Socks.Throws x
  | .on _ (.relayed _) => False

/-- Nothing is called after this. -/
def ServerEvent.Ends (ev : ServerEvent) : Prop := ev = .signal ∨ ev.Throws

/-! ### One connection -/

section Connection

variable {c c' : Connection} {ev : ConnectionEvent} {es : List ConnectionEvent}

/-- What holds of a connection all the time. -/
structure Connection.Sound (c : Connection) : Prop where
  watched : Watched stageMonitor AnyAnswer .opening c.running
  settled : (c.running.prog.settle printed).2 = c.running.prog
  relaying : c.relay ≠ none → c.running.prog = .pure .relay

theorem sound_ofRunning {t : ServerTrace} {p : Server}
    (h : Watched stageMonitor AnyAnswer .opening (.goOn printed t p)) :
    (Connection.ofRunning (.goOn printed t p)).Sound where
  watched := h
  settled := p.settle_settle printed
  relaying hrelay := by
    rw [Connection.ofRunning] at hrelay ⊢
    dsimp only at hrelay ⊢
    split at hrelay
    · assumption
    · exact absurd rfl hrelay

theorem sound_start : Connection.start.Sound :=
  sound_ofRunning (watched_goOn .nil start_performs fun _ _ _ => trivial)

theorem Connection.Sound.step (h : c.Sound) (hstep : connection.step c ev = some c') :
    c'.Sound := by
  cases ev with
  | completed x =>
    obtain ⟨r, hr, rfl⟩ := Option.map_eq_some_iff.mp hstep
    have hwatched := h.watched.step (fun _ _ _ => trivial) (fun _ _ _ => trivial) hr
    obtain ⟨p, -, rfl⟩ := Option.map_eq_some_iff.mp hr
    exact sound_ofRunning hwatched
  | relayed ev =>
    obtain ⟨next, hnext, rfl⟩ := Option.map_eq_some_iff.mp hstep
    obtain ⟨self, hself, -⟩ := Option.bind_eq_some_iff.mp hnext
    exact ⟨h.watched, h.settled, fun _ => h.relaying (by simp [hself])⟩

theorem Connection.Sound.run (h : c.Sound) (hrun : connection.run c es = some c') : c'.Sound :=
  Machine.invariant (fun _ _ _ hr hstep => hr.step hstep) h hrun

theorem Connection.thrown_iff : c.thrown = true ↔ c.running.prog = .pure .thrown := by
  rw [thrown]
  split
  · exact iff_of_true rfl (by assumption)
  · exact iff_of_false (by simp) (by assumption)

/-- An exception leaves the handler exactly if the operation throws. -/
theorem Connection.Sound.thrown_iff (h : c.Sound) (hc : c.thrown = false) (i : ℕ)
    (hstep : connection.step c ev = some c') :
    c'.thrown = true ↔ (ServerEvent.on i ev).Throws := by
  rw [Connection.thrown_iff]
  cases ev with
  | completed x =>
    obtain ⟨r, hr, rfl⟩ := Option.map_eq_some_iff.mp hstep
    obtain ⟨p, hp, rfl⟩ := Option.map_eq_some_iff.mp hr
    obtain ⟨stage, -, hmeets⟩ := h.watched
    obtain ⟨hdoes, hrest⟩ := hmeets.resume (fun _ _ _ => trivial) hp
    have hfine : ¬stage.Doomed := by
      rw [← settle_thrown_iff hmeets, h.settled, ← Connection.thrown_iff, hc]
      exact Bool.false_ne_true
    exact (settle_thrown_iff hrest).trans (dooms_iff hdoes hfine)
  | relayed ev =>
    obtain ⟨next, -, rfl⟩ := Option.map_eq_some_iff.mp hstep
    refine iff_of_false ?_ id
    rw [← Connection.thrown_iff (c := { c with relay := some next })]
    exact Bool.eq_false_iff.mp hc

/-! What a connection has done is what has happened to it. -/

/-- The operation of the handshake that completes. -/
def ConnectionEvent.toStep : ConnectionEvent → Option (Asio.Step ErrorCode ServerCall ServerAnswer)
  | .completed x => some x
  | .relayed _ => none

theorem completions_run (hrun : connection.run .start es = some c) :
    completions printed c.running.trace = es.filterMap ConnectionEvent.toStep := by
  induction es using List.reverseRecOn generalizing c with
  | nil =>
    obtain rfl := Option.some.inj hrun
    exact completions_settle _
  | append_singleton es ev ih =>
    obtain ⟨d, hd, hstep⟩ := Machine.run_concat_eq_some_iff.mp hrun
    rw [List.filterMap_append, ← ih hd]
    cases ev with
    | completed x =>
      obtain ⟨r, hr, rfl⟩ := Option.map_eq_some_iff.mp hstep
      exact completions_step (sound_start.run hd).settled hr
    | relayed ev =>
      obtain ⟨next, -, rfl⟩ := Option.map_eq_some_iff.mp hstep
      exact (List.append_nil _).symm

/-- The operation of the relay that completes. -/
def ConnectionEvent.toRelayEvent : ConnectionEvent → Option RelayEvent
  | .completed _ => none
  | .relayed ev => some ev

theorem relay_ofRunning {running : Running ErrorCode ServerCall ServerAnswer Ending} {r : Relay}
    (h : (Connection.ofRunning running).relay = some r) : r = SocksConnection.toRelay {} := by
  rw [Connection.ofRunning] at h
  dsimp only at h
  split at h
  · exact (Option.some.inj h).symm
  · cases h

/-- The relay begins after the handshake, and then goes on by itself. -/
theorem relay_run (hrun : connection.run .start es = some c) :
    (c.relay = none → es.filterMap ConnectionEvent.toRelayEvent = []) ∧
      ∀ r, c.relay = some r → relay.run (SocksConnection.toRelay {})
        (es.filterMap ConnectionEvent.toRelayEvent) = some r := by
  induction es using List.reverseRecOn generalizing c with
  | nil =>
    obtain rfl := Option.some.inj hrun
    exact ⟨fun _ => rfl, fun r hr => by rw [relay_ofRunning hr]; rfl⟩
  | append_singleton es ev ih =>
    obtain ⟨d, hd, hstep⟩ := Machine.run_concat_eq_some_iff.mp hrun
    obtain ⟨hnone, hsome⟩ := ih hd
    rw [List.filterMap_append]
    cases ev with
    | completed x =>
      obtain ⟨running, hrunning, rfl⟩ := Option.map_eq_some_iff.mp hstep
      have hbefore : d.relay = none := by
        by_contra hrelay
        obtain ⟨p, hp, -⟩ := Option.map_eq_some_iff.mp hrunning
        rw [(sound_start.run hd).relaying hrelay] at hp
        cases x <;> cases hp
      rw [hnone hbefore]
      exact ⟨fun _ => rfl, fun r hr => by rw [relay_ofRunning hr]; rfl⟩
    | relayed e =>
      obtain ⟨next, hnext, rfl⟩ := Option.map_eq_some_iff.mp hstep
      obtain ⟨r, hr, hre⟩ := Option.bind_eq_some_iff.mp hnext
      refine ⟨fun h => absurd h (by simp), fun r' hr' => ?_⟩
      obtain rfl := Option.some.inj hr'
      exact Machine.run_concat_eq_some_iff.mpr ⟨r, hsome r hr, hre⟩

/-- Against a stream, a connection does what its program does. -/
theorem connection_run {σ : Type} (st : Asio.Stream ErrorCode σ)
    {ans : ServerCall → σ → ServerAnswer × σ}
    (hans : ∀ q a, printed q = some a → ∀ s, (ans q s).1 = a) (s : σ) :
    connection.run .start
        ((completions printed ((SocksConnection.start {}).run st ans s).trace).map .completed)
      = some (.ofRunning ⟨((SocksConnection.start {}).run st ans s).trace,
          .pure ((SocksConnection.start {}).run st ans s).result⟩) :=
  Machine.run_forward Connection.ofRunning ConnectionEvent.completed
    (fun _ _ _ hstep => congrArg (Option.map Connection.ofRunning) hstep)
    (run_handlers st hans (SocksConnection.start {}) s [])

/-- If that does not end with an exception, no step of it throws. -/
theorem not_throws_of_run {σ : Type} (st : Asio.Stream ErrorCode σ)
    {ans : ServerCall → σ → ServerAnswer × σ}
    (hans : ∀ q a, printed q = some a → ∀ s, (ans q s).1 = a) (s : σ)
    (hresult : ((SocksConnection.start {}).run st ans s).result ≠ .thrown) :
    ∀ x ∈ ((SocksConnection.start {}).run st ans s).trace, ¬Throws x := by
  obtain ⟨stage, hfollows, hmeets⟩ := (sound_start.run (connection_run st hans s)).watched
  obtain rfl : stage = .ended _ := hmeets
  intro x hx hthrows
  exact hresult ((doomed_iff_of_follows hfollows).mpr ⟨x, hx, hthrows⟩)

end Connection

/-! ### The server and the pool of its connections -/

/-- What an event is to the connections. -/
def ServerEvent.toPool : ServerEvent → PoolEvent Connection ConnectionEvent
  | .signal => .pass
  | .accepted ec remote => if !ec.failed && remote.isSome then .enter .start else .pass
  | .on i ev => .member i ev

/-- What holds of the server all the time. -/
structure SocksServer.Sound (server : SocksServer) : Prop where
  accepting : server.status = .running → server.accepting = true
  connections : ∀ c ∈ server.connections, c.Sound
  fine : server.status = .running → ∀ c ∈ server.connections, c.thrown = false

variable {server next : SocksServer} {ev : ServerEvent} {evs : List ServerEvent}
  {cs : List Connection}

/-- The handlers. -/
theorem SocksServer.step_cases (h : socksServer.step server ev = some next) :
    server.status = .running ∧
    (ev = .signal ∧ next = { server with status := .stopped } ∨
      (∃ ec remote, ev = .accepted ec remote ∧ server.accepting = true ∧
        next = { server with accepting := false }.onAccept ec remote) ∨
      ∃ i e c c', ev = .on i e ∧ server.connections[i]? = some c ∧
        connection.step c e = some c' ∧ next = server.onConnection i c') := by
  obtain ⟨hrunning, hhandle⟩ := Option.ite_none_right_eq_some.mp h
  refine ⟨hrunning, ?_⟩
  cases ev with
  | signal => exact Or.inl ⟨rfl, (Option.some.inj hhandle).symm⟩
  | accepted ec remote =>
    obtain ⟨haccepting, hnext⟩ := Option.ite_none_right_eq_some.mp hhandle
    exact Or.inr (Or.inl ⟨ec, remote, rfl, haccepting, (Option.some.inj hnext).symm⟩)
  | on i e =>
    obtain ⟨c', hc', rfl⟩ := Option.map_eq_some_iff.mp hhandle
    obtain ⟨c, hc, hstep⟩ := Option.bind_eq_some_iff.mp hc'
    exact Or.inr (Or.inr ⟨i, e, c, c', rfl, hc, hstep, rfl⟩)

namespace SocksServer

/-- What the handler of an accept does: unless it throws, the next accept is under way, and there
may be one more connection. -/
theorem onAccept_cases (server : SocksServer) (ec : ErrorCode) (remote : Option Endpoint) :
    ((ServerEvent.accepted ec remote).Throws ∧ (ServerEvent.accepted ec remote).toPool = .pass ∧
      server.onAccept ec remote = { server with status := .thrown }) ∨
    (¬(ServerEvent.accepted ec remote).Throws ∧
      (ServerEvent.accepted ec remote).toPool = .enter .start ∧
      server.onAccept ec remote =
        { server with accepting := true, connections := server.connections ++ [.start] }) ∨
    (¬(ServerEvent.accepted ec remote).Throws ∧ (ServerEvent.accepted ec remote).toPool = .pass ∧
      server.onAccept ec remote = { server with accepting := true }) := by
  cases hec : ec.failed with
  | true =>
    refine Or.inr (Or.inr ⟨?_, ?_, ?_⟩)
    · exact fun h => absurd (h.1.symm.trans hec) Bool.false_ne_true
    · simp [ServerEvent.toPool, hec]
    · simp [onAccept, doAccept, hec]
  | false =>
    cases remote with
    | none =>
      refine Or.inl ⟨⟨hec, rfl⟩, ?_, ?_⟩
      · simp [ServerEvent.toPool]
      · simp [onAccept, hec]
    | some remote =>
      refine Or.inr (Or.inl ⟨?_, ?_, ?_⟩)
      · exact fun h => Option.some_ne_none _ h.2
      · simp [ServerEvent.toPool, hec]
      · simp [onAccept, doAccept, hec]

theorem sound_create : create.Sound :=
  ⟨fun _ => rfl, fun _ h => absurd h (by simp [create, doAccept]),
    fun _ _ h => absurd h (by simp [create, doAccept])⟩

theorem Sound.step (h : server.Sound) (hstep : socksServer.step server ev = some next) :
    next.Sound := by
  obtain ⟨hrunning, ⟨-, rfl⟩ | ⟨ec, remote, -, -, rfl⟩ | ⟨i, e, c, c', -, hc, hc', rfl⟩⟩ :=
    step_cases hstep
  · exact ⟨by simp, h.connections, by simp⟩
  · obtain ⟨-, -, hnext⟩ | ⟨-, -, hnext⟩ | ⟨-, -, hnext⟩ :=
      onAccept_cases { server with accepting := false } ec remote
    · rw [hnext]
      exact ⟨by simp, h.connections, by simp⟩
    · rw [hnext]
      refine ⟨fun _ => rfl, fun d hd => ?_, fun _ d hd => ?_⟩
      · rcases List.mem_append.mp hd with hd | hd
        · exact h.connections d hd
        · rw [List.mem_singleton.mp hd]
          exact sound_start
      · rcases List.mem_append.mp hd with hd | hd
        · exact h.fine hrunning d hd
        · rw [List.mem_singleton.mp hd]
          rfl
    · rw [hnext]
      exact ⟨fun _ => rfl, h.connections, h.fine⟩
  · have hmem := List.mem_of_getElem? hc
    refine ⟨fun _ => h.accepting hrunning, fun d hd => ?_, fun hstatus d hd => ?_⟩
    · rcases List.mem_or_eq_of_mem_set hd with hd | rfl
      · exact h.connections d hd
      · exact (h.connections c hmem).step hc'
    · rw [onConnection] at hstatus
      dsimp only at hstatus
      split_ifs at hstatus with hthrown
      rcases List.mem_or_eq_of_mem_set hd with hd | rfl
      · exact h.fine hrunning d hd
      · exact Bool.not_eq_true _ ▸ hthrown

/-- Where a step leaves `io_context::run`. -/
theorem Sound.status (h : server.Sound) (hstep : socksServer.step server ev = some next) :
    (next.status = .thrown ↔ ev.Throws) ∧ (next.status = .running ↔ ¬ev.Ends) := by
  obtain ⟨hrunning, ⟨rfl, rfl⟩ | ⟨ec, remote, rfl, -, rfl⟩ | ⟨i, e, c, c', rfl, hc, hc', rfl⟩⟩ :=
    step_cases hstep
  · exact ⟨iff_of_false (by simp) id, iff_of_false (by simp) fun h => h (Or.inl rfl)⟩
  · have hends : (ServerEvent.accepted ec remote).Ends ↔
        (ServerEvent.accepted ec remote).Throws := or_iff_right (by simp)
    rw [hends]
    obtain ⟨hthrows, -, hnext⟩ | ⟨hthrows, -, hnext⟩ | ⟨hthrows, -, hnext⟩ :=
      onAccept_cases { server with accepting := false } ec remote
    · rw [hnext]
      exact ⟨iff_of_true rfl hthrows, iff_of_false (by simp) (not_not_intro hthrows)⟩
    · rw [hnext]
      exact ⟨iff_of_false (by simp [hrunning]) hthrows, iff_of_true hrunning hthrows⟩
    · rw [hnext]
      exact ⟨iff_of_false (by simp [hrunning]) hthrows, iff_of_true hrunning hthrows⟩
  · have hmem := List.mem_of_getElem? hc
    have hthrown := (h.connections c hmem).thrown_iff (h.fine hrunning c hmem) i hc'
    have hends : (ServerEvent.on i e).Ends ↔ (ServerEvent.on i e).Throws := or_iff_right (by simp)
    rw [hends, ← hthrown, onConnection]
    dsimp only
    split_ifs with hc
    · exact ⟨iff_of_true rfl hc, iff_of_false (by simp) (not_not_intro hc)⟩
    · exact ⟨iff_of_false (by simp [hrunning]) hc, iff_of_true hrunning hc⟩

/-- A step of the server is one of the pool. -/
theorem step_toPool (hstep : socksServer.step server ev = some next) :
    (pool connection).step server.connections ev.toPool = some next.connections := by
  obtain ⟨-, ⟨rfl, rfl⟩ | ⟨ec, remote, rfl, -, rfl⟩ | ⟨i, e, c, c', rfl, hc, hc', rfl⟩⟩ :=
    step_cases hstep
  · rfl
  · obtain ⟨-, hpool, hnext⟩ | ⟨-, hpool, hnext⟩ | ⟨-, hpool, hnext⟩ :=
      onAccept_cases { server with accepting := false } ec remote
    · rw [hpool, hnext]
      rfl
    · rw [hpool, hnext]
      rfl
    · rw [hpool, hnext]
      rfl
  · change ((server.connections[i]?).bind (connection.step · e)).map _ = _
    rw [hc, Option.bind_some, hc']
    rfl

/-- And the other way round, if it does not end the process. -/
theorem step_of_pool (hrunning : server.status = .running) (haccepting : server.accepting = true)
    (hends : ¬ev.Ends) (hstep : (pool connection).step server.connections ev.toPool = some cs) :
    ∃ next, socksServer.step server ev = some next ∧ next.connections = cs := by
  have hhandle : socksServer.step server ev = server.handle ev := if_pos hrunning
  rw [hhandle]
  cases ev with
  | signal => exact absurd (Or.inl rfl) hends
  | accepted ec remote =>
    refine ⟨_, if_pos haccepting, ?_⟩
    obtain ⟨hthrows, -, -⟩ | ⟨-, hpool, hnext⟩ | ⟨-, hpool, hnext⟩ :=
      onAccept_cases { server with accepting := false } ec remote
    · exact absurd (Or.inr hthrows) hends
    · rw [hpool] at hstep
      rw [hnext]
      exact Option.some.inj hstep
    · rw [hpool] at hstep
      rw [hnext]
      exact Option.some.inj hstep
  | on i e =>
    obtain ⟨c', hc', rfl⟩ := Option.map_eq_some_iff.mp hstep
    exact ⟨_, congrArg (Option.map (server.onConnection i)) hc', rfl⟩

theorem Sound.eq_of_running (h : server.Sound) (hrunning : server.status = .running) :
    server = { accepting := true, connections := server.connections } := by
  have haccepting := h.accepting hrunning
  obtain ⟨accepting, connections, status⟩ := server
  dsimp only at hrunning haccepting
  rw [hrunning, haccepting]

theorem sound_run (hrun : socksServer.run .create evs = some server) : server.Sound :=
  Machine.invariant (fun _ _ _ hr hstep => hr.step hstep) sound_create hrun

end SocksServer

/-! ### Runs -/

/-- What happens to the server happens to the pool of its connections. -/
theorem run_toPool (hrun : socksServer.run .create evs = some server) :
    (pool connection).run [] (evs.map ServerEvent.toPool) = some server.connections :=
  Machine.run_forward SocksServer.connections ServerEvent.toPool
    (fun _ _ _ hstep => SocksServer.step_toPool hstep) hrun

theorem run_running_iff :
    socksServer.run .create evs = some { accepting := true, connections := cs } ↔
      (∀ ev ∈ evs, ¬ev.Ends) ∧
        (pool connection).run [] (evs.map ServerEvent.toPool) = some cs := by
  induction evs using List.reverseRecOn generalizing cs with
  | nil =>
    constructor
    · intro h
      exact ⟨fun _ h => absurd h List.not_mem_nil, congrArg (Option.map SocksServer.connections) h⟩
    · rintro ⟨-, h⟩
      rw [← Option.some.inj h]
      rfl
  | append_singleton evs ev ih =>
    constructor
    · intro hrun
      obtain ⟨r, hr, hstep⟩ := Machine.run_concat_eq_some_iff.mp hrun
      have hsound := SocksServer.sound_run hr
      rw [hsound.eq_of_running (SocksServer.step_cases hstep).1] at hr
      have hbefore := (ih.mp hr).1
      refine ⟨fun e he => ?_, run_toPool hrun⟩
      rcases List.mem_append.mp he with he | he
      · exact hbefore e he
      · rw [List.mem_singleton.mp he]
        exact (hsound.status hstep).2.mp rfl
    · rintro ⟨hends, hpool⟩
      rw [List.map_append] at hpool
      obtain ⟨ds, hds, hstep⟩ := Machine.run_concat_eq_some_iff.mp hpool
      have hr := ih.mpr ⟨fun e he => hends e (List.mem_append_left _ he), hds⟩
      have hev : ¬ev.Ends := hends ev (List.mem_append_right _ (List.mem_singleton_self ev))
      obtain ⟨next, hnext, rfl⟩ :=
        @SocksServer.step_of_pool { accepting := true, connections := ds } _ _ rfl rfl hev hstep
      have hsound := SocksServer.sound_run hr
      have hrunning := (hsound.status hnext).2.mpr hev
      rw [← (hsound.step hnext).eq_of_running hrunning, Machine.run_concat_eq_some_iff]
      exact ⟨_, hr, hnext⟩

/-- **The runs that leave the server up are the interleavings of runs of its connections**: each
connection has been accepted before anything happens to it, and is where it would have come to by
itself. -/
theorem server_run_iff :
    socksServer.run .create evs = some { accepting := true, connections := cs } ↔
      (∀ ev ∈ evs, ¬ev.Ends) ∧ Orderly (evs.map ServerEvent.toPool) ∧
        Alone connection (evs.map ServerEvent.toPool) cs :=
  run_running_iff.trans (and_congr_right fun _ => run_pool_iff)

/-- Two clients. The first one's request is granted; the second one offers no method that the
server accepts. -/
def sampleEvents : List ServerEvent :=
  [.accepted .ok (some default), .accepted .ok (some default),
    .on 1 (.completed (.read 258 [0x05, 0x01, 0x01] .ok)),
    .on 0 (.completed (.read 258 [0x04, 0x01, 0x00, 0x50, 127, 0, 0, 1, 0x61, 0x00] .ok)),
    .on 1 (.completed (.write [0x05, 0xFF] 2 .ok)),
    .on 0 (.completed (.call (.connect ⟨.v4 ⟨![127, 0, 0, 1]⟩, 80⟩)
      { localEndpoint := some default })),
    .on 0 (.completed (.write [0x04, 90, 0, 0, 0, 0, 0, 0] 8 .ok))]

theorem exists_sample : ∃ server c, socksServer.run .create sampleEvents = some server ∧
    server.connections[0]? = some c ∧ c.relay ≠ none := by
  have hrelays : (socksServer.run .create sampleEvents).map (fun server =>
      server.connections.map fun c => c.relay.isSome) = some [true, false] := by decide +kernel
  obtain ⟨server, hserver, hconnections⟩ := Option.map_eq_some_iff.mp hrelays
  obtain ⟨c, cs, hcs, hc, -⟩ := List.map_eq_cons_iff.mp hconnections
  exact ⟨server, c, hserver, by rw [hcs]; rfl, Option.isSome_iff_ne_none.mp hc⟩

/-- **When the process is ended by an exception**: when an event throws, and then nothing is called
any more. -/
theorem server_thrown_iff (hrun : socksServer.run .create evs = some server) :
    (∀ ev ∈ evs.dropLast, ¬ev.Ends) ∧ (server.status = .thrown ↔ ∃ ev ∈ evs, ev.Throws) := by
  rcases List.eq_nil_or_concat evs with rfl | ⟨before, ev, rfl⟩
  · rw [← Option.some.inj hrun]
    refine ⟨fun _ h => absurd h List.not_mem_nil, iff_of_false (by simp [SocksServer.create,
      SocksServer.doAccept]) (by simp)⟩
  · rw [List.concat_eq_append] at hrun ⊢
    obtain ⟨r, hr, hstep⟩ := Machine.run_concat_eq_some_iff.mp hrun
    have hsound := SocksServer.sound_run hr
    rw [hsound.eq_of_running (SocksServer.step_cases hstep).1] at hr
    have hbefore := (run_running_iff.mp hr).1
    rw [List.dropLast_concat, (hsound.status hstep).1]
    refine ⟨hbefore, fun h => ⟨ev, by simp, h⟩, ?_⟩
    rintro ⟨e, he, hthrows⟩
    rcases List.mem_append.mp he with he | he
    · exact absurd (Or.inr hthrows) (hbefore e he)
    · exact List.mem_singleton.mp he ▸ hthrows

/-- Two clients. The first one sends one byte, and says that this is SOCKS4. -/
def thrownEvents : List ServerEvent :=
  [.accepted .ok (some default), .accepted .ok (some default),
    .on 1 (.completed (.read 258 [0x05, 0x01, 0x01] .ok)),
    .on 0 (.completed (.read 258 [0x04] .ok))]

theorem server_thrown_iff_sample : ∃ server : SocksServer,
    socksServer.run .create thrownEvents = some server ∧ server.status = .thrown ∧
      (∀ ev ∈ thrownEvents.dropLast, ¬ev.Ends) ∧ ∃ ev ∈ thrownEvents, ev.Throws := by
  have hthrown : (socksServer.run .create thrownEvents).map (·.status) = some .thrown := by
    decide +kernel
  obtain ⟨server, hrun, hstatus⟩ := Option.map_eq_some_iff.mp hthrown
  obtain ⟨hbefore, hiff⟩ := server_thrown_iff hrun
  exact ⟨server, hrun, hstatus, hbefore, hiff.mp hstatus⟩

/-! ### Every connection, all the time -/

section Every

variable {i : ℕ} {c : Connection}

theorem mem_entered_toPool {c : Connection} (h : c ∈ entered (evs.map ServerEvent.toPool)) :
    c = .start := by
  induction evs with
  | nil => cases h
  | cons ev evs ih =>
    rw [List.map_cons] at h
    cases ev with
    | signal => exact ih h
    | on i e => exact ih h
    | accepted ec remote =>
      rw [ServerEvent.toPool] at h
      split_ifs at h
      · rcases List.mem_cons.mp h with rfl | h
        · rfl
        · exact ih h
      · exact ih h

/-- A connection is where its own events have taken it. -/
theorem connection_run_own (hrun : socksServer.run .create evs = some server)
    (hc : server.connections[i]? = some c) :
    connection.run .start (own i (evs.map ServerEvent.toPool)) = some c := by
  obtain ⟨-, hlen, halone⟩ := run_pool_iff.mp (run_toPool hrun)
  obtain ⟨hlt, -⟩ := List.getElem?_eq_some_iff.mp hc
  have hi := List.getElem?_eq_getElem (hlen ▸ hlt : i < (entered _).length)
  rw [← hc, ← halone i _ hi, mem_entered_toPool (List.mem_of_getElem? hi)]

theorem sound_of_getElem? (hrun : socksServer.run .create evs = some server)
    (hc : server.connections[i]? = some c) : c.Sound :=
  (SocksServer.sound_run hrun).connections c (List.mem_of_getElem? hc)

/-- **What the server has written on a connection is the beginning of a conversation**, whatever
goes on on the others. -/
theorem server_conversation (hrun : socksServer.run .create evs = some server)
    (hc : server.connections[i]? = some c) :
    ∃ all, Conversation all ∧ started c.running.trace <+: all := by
  obtain ⟨stage, hfollows, -⟩ := (sound_of_getElem? hrun hc).watched
  exact conversation_of_follows hfollows

theorem server_conversation_sample :
    ∃ (server : SocksServer) (c : Connection) (all : List Bytes),
      socksServer.run .create sampleEvents = some server ∧ server.connections[0]? = some c ∧
        c.relay ≠ none ∧ Conversation all ∧ started c.running.trace <+: all := by
  obtain ⟨server, c, hrun, hc, hrelay⟩ := exists_sample
  obtain ⟨all, hall⟩ := server_conversation hrun hc
  exact ⟨server, c, all, hrun, hc, hrelay, hall⟩

/-- **Only a client that has been admitted and told of its success is relayed for**: its greeting
and its request have been accepted, the target it asked for has been connected to, and it has been
told so before the first byte. From then on the relay is the relay of this connection alone. -/
theorem server_relays {r : Relay} (hrun : socksServer.run .create evs = some server)
    (hc : server.connections[i]? = some c) (hr : c.relay = some r) :
    Relays c.running.trace ∧
      relay.run (SocksConnection.toRelay {}) ((own i (evs.map ServerEvent.toPool)).filterMap
        ConnectionEvent.toRelayEvent) = some r := by
  refine ⟨?_, (relay_run (connection_run_own hrun hc)).2 r hr⟩
  have hsound := sound_of_getElem? hrun hc
  obtain ⟨stage, hfollows, hmeets⟩ := hsound.watched
  rw [hsound.relaying (by simp [hr])] at hmeets
  obtain rfl : stage = .ended .relay := hmeets
  cases follows_history hfollows with
  | relaying h => exact h
  | failing h => exact absurd rfl h

theorem server_relays_sample : ∃ (server : SocksServer) (c : Connection) (r : Relay),
    socksServer.run .create sampleEvents = some server ∧ server.connections[0]? = some c ∧
      c.relay = some r ∧ Relays c.running.trace := by
  obtain ⟨server, c, hrun, hc, hrelay⟩ := exists_sample
  obtain ⟨r, hr⟩ := Option.ne_none_iff_exists'.mp hrelay
  exact ⟨server, c, r, hrun, hc, hr, (server_relays hrun hc hr).1⟩

/-- **A handshake takes eight operations at most**, on every connection. -/
theorem server_handshake_le (hrun : socksServer.run .create evs = some server) (i : ℕ) :
    ((own i (evs.map ServerEvent.toPool)).filterMap ConnectionEvent.toStep).length ≤ 8 := by
  cases hc : server.connections[i]? with
  | some c =>
    obtain ⟨stage, hfollows, -⟩ := (sound_of_getElem? hrun hc).watched
    rw [← completions_run (connection_run_own hrun hc)]
    exact Nat.le_of_add_right_le (completions_le_of_follows hfollows)
  | none =>
    obtain ⟨horder, hlen, -⟩ := run_pool_iff.mp (run_toPool hrun)
    rw [horder.own_eq_nil (hlen ▸ List.getElem?_eq_none_iff.mp hc)]
    exact Nat.zero_le 8

theorem server_handshake_le_sample : ∃ server : SocksServer,
    socksServer.run .create sampleEvents = some server ∧
      ((own 0 (sampleEvents.map ServerEvent.toPool)).filterMap
        ConnectionEvent.toStep).length ≤ 8 := by
  obtain ⟨server, -, hrun, -, -⟩ := exists_sample
  exact ⟨server, hrun, server_handshake_le hrun 0⟩

end Every

/-! ### Many clients -/

section Serves

variable {σ : Type} {n : ℕ} (st : Fin n → Asio.Stream ErrorCode σ)
  (ans : Fin n → ServerCall → σ → ServerAnswer × σ) (s : Fin n → σ)

/-- What becomes of each of several clients, if it is alone. -/
def served (i : Fin n) : Run ErrorCode ServerCall ServerAnswer Ending σ :=
  (SocksConnection.start {}).run (st i) (ans i) (s i)

/-- **Each of several clients is served as if it were alone**, in whatever order their operations
complete, if the server stays up: no signal, no client that is gone by the time it is accepted,
and no exception on any of the connections. -/
theorem server_serves (hans : ∀ i q a, printed q = some a → ∀ s, (ans i q s).1 = a)
    (hsignal : .signal ∉ evs)
    (haccepted : ∀ ec remote, .accepted ec remote ∈ evs → ec.failed = true ∨ remote ≠ none)
    (horder : Orderly (evs.map ServerEvent.toPool))
    (hn : (entered (evs.map ServerEvent.toPool)).length = n)
    (hown : ∀ i : Fin n, own i (evs.map ServerEvent.toPool) =
      (completions printed (served st ans s i).trace).map .completed)
    (hresult : ∀ i, (served st ans s i).result ≠ .thrown) :
    socksServer.run .create evs = some
      { accepting := true,
        connections := List.ofFn fun i =>
          .ofRunning ⟨(served st ans s i).trace, .pure (served st ans s i).result⟩ } := by
  have hends : ∀ ev ∈ evs, ¬ev.Ends := by
    rintro ev hev (rfl | hthrows)
    · exact hsignal hev
    · cases ev with
      | signal => exact hthrows
      | accepted ec remote =>
        rcases haccepted ec remote hev with h | h
        · exact absurd (hthrows.1.symm.trans h) Bool.false_ne_true
        · exact h hthrows.2
      | on i e =>
        cases e with
        | relayed e => exact hthrows
        | completed x =>
          have hmem : ConnectionEvent.completed x ∈ own i (evs.map ServerEvent.toPool) :=
            mem_own_iff.mpr (List.mem_map_of_mem hev)
          have hi : i < n := by
            by_contra hi
            rw [horder.own_eq_nil (by omega)] at hmem
            cases hmem
          rw [hown ⟨i, hi⟩] at hmem
          obtain ⟨y, hy, hxy⟩ := List.mem_map.mp hmem
          cases hxy
          exact not_throws_of_run (st ⟨i, hi⟩) (hans ⟨i, hi⟩) (s ⟨i, hi⟩) (hresult ⟨i, hi⟩) x
            (mem_of_mem_completions hy) hthrows
  have halone : Alone connection (evs.map ServerEvent.toPool) (List.ofFn fun i =>
      .ofRunning ⟨(served st ans s i).trace, .pure (served st ans s i).result⟩) := by
    refine ⟨by rw [List.length_ofFn, hn], fun i c hc => ?_⟩
    obtain ⟨hlt, -⟩ := List.getElem?_eq_some_iff.mp hc
    rw [mem_entered_toPool (List.mem_of_getElem? hc)]
    have hi : i < n := hn ▸ hlt
    rw [hown ⟨i, hi⟩, List.getElem?_ofFn, dif_pos hi]
    exact connection_run (st ⟨i, hi⟩) (hans ⟨i, hi⟩) (s ⟨i, hi⟩)
  exact run_running_iff.mpr ⟨hends, run_pool_iff.mpr ⟨horder, halone⟩⟩

end Serves

/-- Connections succeed. -/
def obliging : ServerCall → Script ErrorCode → ServerAnswer × Script ErrorCode
  | .fail _ _ _, s => ({}, s)
  | _, s => ({ localEndpoint := some default }, s)

/-- What the two clients send. -/
def sampleScripts : Fin 2 → Script ErrorCode :=
  ![⟨cutAfterTwo, []⟩, ⟨[.chunk 0x05 [0x01, 0x01]], []⟩]

theorem server_serves_sample : ∃ server, socksServer.run .create sampleEvents = some server ∧
    server.connections.length = 2 := by
  obtain ⟨_, -, hrun, -, -⟩ := exists_sample
  refine ⟨_, server_serves (fun _ => clientStream) (fun _ => obliging) sampleScripts ?_ ?_ ?_
    (run_pool_iff.mp (run_toPool hrun)).1 rfl ?_ ?_, List.length_ofFn⟩
  · intro _ q a hq s
    cases q with
    | fail ec what t => exact Option.some.inj hq
    | resolve host service => cases hq
    | connect target => cases hq
  · simp [sampleEvents]
  · simp [sampleEvents]
  · refine Fin.forall_fin_two.mpr ⟨?_, ?_⟩
    · exact congrArg (List.map ConnectionEvent.completed) (by decide +kernel :
        [.read 258 [0x04, 0x01, 0x00, 0x50, 127, 0, 0, 1, 0x61, 0x00] .ok,
          .call (.connect ⟨.v4 ⟨![127, 0, 0, 1]⟩, 80⟩) { localEndpoint := some default },
          .write [0x04, 90, 0, 0, 0, 0, 0, 0] 8 .ok] = completions printed
            (serverRun obliging ⟨cutAfterTwo, []⟩).trace)
    · exact congrArg (List.map ConnectionEvent.completed) (by decide +kernel :
        [.read 258 [0x05, 0x01, 0x01] .ok, .write [0x05, 0xFF] 2 .ok] = completions printed
          (serverRun obliging ⟨[.chunk 0x05 [0x01, 0x01]], []⟩).trace)
  · exact Fin.forall_fin_two.mpr ⟨by decide +kernel, by decide +kernel⟩

/-! ### One byte -/

/-- A client that connects, sends one byte, and says that this is SOCKS4. -/
def oneByte (i : ℕ) (remote : Endpoint) : List ServerEvent :=
  [.accepted .ok (some remote), .on i (.completed (.read 258 [0x04] .ok))]

theorem running_start : Connection.start.running = ⟨[], SocksConnection.start {}⟩ := by
  rw [Connection.start, start_eq]
  rfl

/-- The first read ends with this byte: the command, as far as it has been read, is not 1. What has
been read is no request, so it is refused; there is no target socket yet, so that throws. -/
theorem start_oneByte : ∃ c, connection.step .start (.completed (.read 258 [0x04] .ok)) = some c ∧
    c.thrown = true := by
  have hask : (greetingCond (List.replicate 258 0x00)).ask [0x04] .ok = 0 := by
    rw [greetingCond, Cond.onBuffer_ask]
    exact greetingAsk_of_one (by decide) (by decide)
  have hresume : ∃ p, (SocksConnection.start {}).resume (.read 258 [0x04] .ok) = some p := by
    rw [start_eq]
    exact ⟨_, Prog.resume_read (by decide) (Or.inr hask)⟩
  obtain ⟨p, hp⟩ := hresume
  have hstep : connection.step .start (.completed (.read 258 [0x04] .ok)) =
      some (.ofRunning (.goOn printed [.read 258 [0x04] .ok] p)) := by
    simp only [connection, handlers, running_start, hp, Option.map_some, List.nil_append]
  refine ⟨_, hstep, (sound_start.thrown_iff rfl 0 hstep).mpr (Or.inl ⟨rfl, Or.inr ⟨rfl, rfl, ?_⟩⟩)⟩
  decide

/-- **One byte ends the process**: as long as the server is up, any client can do so, and all the
connections of the others are lost. -/
theorem one_byte_throws (hrun : socksServer.run .create evs = some server)
    (hrunning : server.status = .running) (remote : Endpoint) :
    ∃ next, socksServer.run .create (evs ++ oneByte server.connections.length remote) = some next ∧
      next.status = .thrown ∧ server.connections <+: next.connections ∧
      ∀ ev, socksServer.step next ev = none := by
  rw [(SocksServer.sound_run hrun).eq_of_running hrunning] at hrun
  generalize server.connections = cs at hrun ⊢
  obtain ⟨c, hc, hthrown⟩ := start_oneByte
  let accepted : SocksServer := { accepting := true, connections := cs ++ [.start] }
  have hhandler : socksServer.step accepted
      (.on cs.length (.completed (.read 258 [0x04] .ok))) =
      some (accepted.onConnection cs.length c) := by
    change (((cs ++ [Connection.start])[cs.length]?).bind _).map _ = _
    rw [List.getElem?_concat_length, Option.bind_some, hc, Option.map_some]
  have hstatus : (accepted.onConnection cs.length c).status = .thrown := if_pos hthrown
  refine ⟨accepted.onConnection cs.length c, ?_, hstatus, ?_, fun ev => ?_⟩
  · rw [Machine.run_append, hrun, Option.bind_some]
    change (socksServer.step accepted _).bind _ = _
    rw [hhandler]
    rfl
  · change cs <+: (cs ++ [Connection.start]).set cs.length c
    rw [List.set_append_right _ _ (Nat.le_refl _)]
    exact List.prefix_append _ _
  · exact if_neg (by simp [hstatus])

theorem one_byte_throws_first : ∃ next,
    socksServer.run .create (oneByte 0 default) = some next ∧ next.status = .thrown := by
  obtain ⟨next, hrun, hthrown, -⟩ := @one_byte_throws _ [] rfl rfl default
  exact ⟨next, hrun, hthrown⟩

end Socks
