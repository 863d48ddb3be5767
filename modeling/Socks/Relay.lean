import Socks.Server
import Socks.Asio.Pump

/-!
# The relay

After a successful reply the server relays: what it reads from the client it writes to the target,
and the other way round. Each direction has a buffer of its own and a loop of two handlers, which
read into the buffer and write from it by turns. The loops take their turns in any order.

A write may be short. The handler of a write is told how many bytes were written, and does not
look: it reads into the buffer again, and what had not been written is gone. So each direction is
a pump, and whether the relay loses anything is a question about its schedule.

## Main definitions

* `Socks.Direction`, `Socks.Relay` — the connection object while it relays
* `Socks.Relay.doRelay` — where a relay begins, `Socks.relay` how it goes on
* `Socks.Relay.Intact` — nothing is lost, nor in the wrong place
* `Socks.Relay.InTime` — a write delivers nothing, or nothing has been lost before
* `Socks.Side`, `Socks.Relay.direction` — one direction or the other

## Main results

* `Socks.relay_step_toPumps` — the relay is two pumps
* `Socks.relay_intact_iff` — when nothing is lost
* `Socks.what_mem_reportTexts` — what is reported
* `Socks.relay_goes_on_iff` — each direction goes on until it is
-/

namespace Socks

open Asio

/-! ### The connection -/

/-- An operation on a buffer. -/
inductive Transfer
  | readSome
  | writeSome
  deriving DecidableEq

/-- One direction of a relay: the buffer, the operation outstanding on it, and the bytes that have
been read and delivered. -/
structure Direction where
  buffer : Bytes
  outstanding : Option Transfer := none
  read : Bytes := []
  delivered : Bytes := []

/-- `socks_connection`, while it relays: from the client to the target with `buffer_`, from the
target to the client with `target_buffer_`. -/
structure Relay where
  client : Direction
  target : Direction
  reports : List (ErrorCode × String) := []

namespace Direction

/-- Resize the buffer, and start to read into it. -/
def startRead (d : Direction) : Direction :=
  { d with buffer := resize d.buffer 1024, outstanding := some .readSome }

/-- Start to write the buffer. -/
def startWrite (d : Direction) : Direction := { d with outstanding := some .writeSome }

/-- `async_read_some` completes: as many bytes as there is room for at most, and at least one if it
does not fail. -/
def completeRead (d : Direction) (bs : Bytes) (ec : ErrorCode) : Option Direction :=
  if d.outstanding = some .readSome ∧ bs.length ≤ d.buffer.length ∧
      (bs.length = 0 → ec.failed = true) then
    some { d with buffer := overlay bs d.buffer, outstanding := none, read := d.read ++ bs }
  else none

/-- `async_write_some` completes: as many bytes as were offered at most, and at least one if it
does not fail. -/
def completeWrite (d : Direction) (n : ℕ) (ec : ErrorCode) : Option Direction :=
  if d.outstanding = some .writeSome ∧ n ≤ d.buffer.length ∧ (n = 0 → ec.failed = true) then
    some { d with outstanding := none, delivered := d.delivered ++ d.buffer.take n }
  else none

end Direction

namespace Relay

/-- `fail`: one line on the error stream. -/
def fail (self : Relay) (ec : ErrorCode) (what : String) : Relay :=
  { self with reports := self.reports ++ [(ec, what)] }

/-- `do_relay_from_client`. -/
def doRelayFromClient (self : Relay) : Relay := { self with client := self.client.startRead }

/-- `do_relay_to_target`. -/
def doRelayToTarget (self : Relay) : Relay := { self with client := self.client.startWrite }

/-- `do_relay_from_target`. -/
def doRelayFromTarget (self : Relay) : Relay := { self with target := self.target.startRead }

/-- `do_relay_to_client`. -/
def doRelayToClient (self : Relay) : Relay := { self with target := self.target.startWrite }

/-- `do_relay`. -/
def doRelay (self : Relay) : Relay := self.doRelayFromClient.doRelayFromTarget

/-- The handler of the read in `do_relay_from_client`. -/
def onReadFromClient (self : Relay) (ec : ErrorCode) (n : ℕ) : Relay :=
  if ec = .eof then self.fail ec "Client disconnected"
  else if ec.failed then self.fail ec "Cannot read from client"
  else
    { self with client.buffer := resize self.client.buffer n }.doRelayToTarget

/-- The handler of the write in `do_relay_to_target`. It does not look at the size. -/
def onWriteToTarget (self : Relay) (ec : ErrorCode) (_ : ℕ) : Relay :=
  if ec.failed then self.fail ec "Cannot write to target" else self.doRelayFromClient

/-- The handler of the read in `do_relay_from_target`. The second branch is there twice. -/
def onReadFromTarget (self : Relay) (ec : ErrorCode) (n : ℕ) : Relay :=
  if ec.failed then self.fail ec "Application server disconnected"
  else if ec.failed then self.fail ec "Cannot read from target"
  else
    { self with target.buffer := resize self.target.buffer n }.doRelayToClient

/-- The handler of the write in `do_relay_to_client`. It does not look at the size. -/
def onWriteToClient (self : Relay) (ec : ErrorCode) (_ : ℕ) : Relay :=
  if ec.failed then self.fail ec "Cannot write to client" else self.doRelayFromTarget

end Relay

/-- What happens to a relay: an operation on the one buffer completes, or one on the other. -/
abbrev RelayEvent : Type := PumpEvent ErrorCode UInt8 ⊕ PumpEvent ErrorCode UInt8

namespace RelayEvent

/-- `socket_.async_read_some` completes. -/
@[match_pattern] abbrev fromClient (bs : Bytes) (ec : ErrorCode) : RelayEvent := .inl (.took bs ec)

/-- `target_socket_.async_write_some` completes. -/
@[match_pattern] abbrev toTarget (n : ℕ) (ec : ErrorCode) : RelayEvent := .inl (.gave n ec)

/-- `target_socket_.async_read_some` completes. -/
@[match_pattern] abbrev fromTarget (bs : Bytes) (ec : ErrorCode) : RelayEvent := .inr (.took bs ec)

/-- `socket_.async_write_some` completes. -/
@[match_pattern] abbrev toClient (n : ℕ) (ec : ErrorCode) : RelayEvent := .inr (.gave n ec)

end RelayEvent

/-- The relay: an outstanding operation completes, and its handler is called. -/
def relay : Machine Relay RelayEvent where
  step
    | self, .fromClient bs ec => (self.client.completeRead bs ec).map fun client =>
      { self with client }.onReadFromClient ec bs.length
    | self, .toTarget n ec => (self.client.completeWrite n ec).map fun client =>
      { self with client }.onWriteToTarget ec n
    | self, .fromTarget bs ec => (self.target.completeRead bs ec).map fun target =>
      { self with target }.onReadFromTarget ec bs.length
    | self, .toClient n ec => (self.target.completeWrite n ec).map fun target =>
      { self with target }.onWriteToClient ec n

/-- The relay of a connection. -/
def SocksConnection.toRelay (self : SocksConnection) : Relay :=
  Relay.doRelay { client := { buffer := self.buffer }, target := { buffer := [] } }

/-! ### The relay as two pumps -/

namespace Direction

/-- The direction as a pump. -/
def toPump (d : Direction) : Pump UInt8 where
  phase :=
    match d.outstanding with
    | none => .done
    | some .readSome => .taking
    | some .writeSome => .giving d.buffer
  taken := d.read
  given := d.delivered

/-- There is room for 1024 bytes to be read. -/
def Ready (d : Direction) : Prop := d.outstanding = some .readSome → d.buffer.length = 1024

theorem ready_startRead (d : Direction) : d.startRead.Ready := fun _ => length_resize _ _

/-- What the handler of a read does with its direction. -/
def afterRead (d : Direction) (ec : ErrorCode) (n : ℕ) : Direction :=
  if ec.failed then d else { d with buffer := resize d.buffer n }.startWrite

/-- What the handler of a write does with its direction. -/
def afterWrite (d : Direction) (ec : ErrorCode) : Direction := if ec.failed then d else d.startRead

variable {d d' : Direction} {bs : Bytes} {n : ℕ} {ec : ErrorCode}

theorem ready_afterRead (h : d.completeRead bs ec = some d') : (d'.afterRead ec n).Ready := by
  obtain ⟨-, hd'⟩ := Option.ite_none_right_eq_some.mp h
  obtain rfl := Option.some.inj hd'
  rw [afterRead]
  split_ifs <;> exact nofun

theorem ready_afterWrite (h : d.completeWrite n ec = some d') : (d'.afterWrite ec).Ready := by
  obtain ⟨-, hd'⟩ := Option.ite_none_right_eq_some.mp h
  obtain rfl := Option.some.inj hd'
  rw [afterWrite]
  split_ifs
  · exact nofun
  · exact ready_startRead _

/-- A read, and its handler, are a step of the pump. -/
theorem toPump_read (h : d.Ready) (bs : Bytes) (ec : ErrorCode) :
    (d.completeRead bs ec).map (fun d' => (d'.afterRead ec bs.length).toPump)
      = (pump ErrorCode UInt8 1024).step d.toPump (.took bs ec) := by
  obtain ⟨buffer, outstanding, read, delivered⟩ := d
  cases outstanding with
  | none => rfl
  | some transfer =>
    cases transfer with
    | writeSome => rfl
    | readSome =>
      have hlen : buffer.length = 1024 := h rfl
      simp only [completeRead, pump, toPump, hlen, true_and, errorLike_failed]
      split_ifs with hgo hec
      · simp [afterRead, hec]
      · simp [afterRead, startWrite, hec, resize_overlay]
      · rfl

/-- A write, and its handler, are a step of the pump. -/
theorem toPump_write (d : Direction) (n : ℕ) (ec : ErrorCode) :
    (d.completeWrite n ec).map (fun d' => (d'.afterWrite ec).toPump)
      = (pump ErrorCode UInt8 1024).step d.toPump (.gave n ec) := by
  obtain ⟨buffer, outstanding, read, delivered⟩ := d
  cases outstanding with
  | none => rfl
  | some transfer =>
    cases transfer with
    | readSome => rfl
    | writeSome =>
      simp only [completeWrite, pump, toPump, true_and, errorLike_failed]
      split_ifs with hgo hec
      · simp [afterWrite, hec]
      · simp [afterWrite, startRead, hec]
      · rfl

end Direction

namespace Relay

variable {self next : Relay} {ev : RelayEvent}

/-- The relay as two pumps. -/
def toPumps (self : Relay) : Pump UInt8 × Pump UInt8 := (self.client.toPump, self.target.toPump)

/-- Both directions have room. -/
def Ready (self : Relay) : Prop := self.client.Ready ∧ self.target.Ready

theorem ready_toRelay (self : SocksConnection) : self.toRelay.Ready :=
  ⟨Direction.ready_startRead _, Direction.ready_startRead _⟩

/-! What the handlers do, up to what they report: each leaves the other direction alone. -/

theorem onReadFromClient_eq (self : Relay) (ec : ErrorCode) (n : ℕ) :
    ∃ reports, self.onReadFromClient ec n
      = { self with client := self.client.afterRead ec n, reports } := by
  rw [onReadFromClient, Direction.afterRead]
  split_ifs with heof hfailed hfailed
  · exact ⟨_, rfl⟩
  · exact absurd (heof ▸ ErrorCode.failed_eof) hfailed
  · exact ⟨_, rfl⟩
  · exact ⟨_, rfl⟩

theorem onWriteToTarget_eq (self : Relay) (ec : ErrorCode) (n : ℕ) :
    ∃ reports, self.onWriteToTarget ec n
      = { self with client := self.client.afterWrite ec, reports } := by
  rw [onWriteToTarget, Direction.afterWrite]
  split_ifs
  · exact ⟨_, rfl⟩
  · exact ⟨_, rfl⟩

theorem onReadFromTarget_eq (self : Relay) (ec : ErrorCode) (n : ℕ) :
    ∃ reports, self.onReadFromTarget ec n
      = { self with target := self.target.afterRead ec n, reports } := by
  rw [onReadFromTarget, Direction.afterRead]
  split_ifs
  · exact ⟨_, rfl⟩
  · exact ⟨_, rfl⟩

theorem onWriteToClient_eq (self : Relay) (ec : ErrorCode) (n : ℕ) :
    ∃ reports, self.onWriteToClient ec n
      = { self with target := self.target.afterWrite ec, reports } := by
  rw [onWriteToClient, Direction.afterWrite]
  split_ifs
  · exact ⟨_, rfl⟩
  · exact ⟨_, rfl⟩

/-- A step is a step of one direction. -/
theorem step_cases (h : relay.step self ev = some next) :
    (∃ bs ec client reports, ev = .fromClient bs ec ∧ self.client.completeRead bs ec = some client ∧
      next = { self with client := client.afterRead ec bs.length, reports }) ∨
    (∃ n ec client reports, ev = .toTarget n ec ∧ self.client.completeWrite n ec = some client ∧
      next = { self with client := client.afterWrite ec, reports }) ∨
    (∃ bs ec target reports, ev = .fromTarget bs ec ∧ self.target.completeRead bs ec = some target ∧
      next = { self with target := target.afterRead ec bs.length, reports }) ∨
    (∃ n ec target reports, ev = .toClient n ec ∧ self.target.completeWrite n ec = some target ∧
      next = { self with target := target.afterWrite ec, reports }) := by
  obtain (⟨bs, ec⟩ | ⟨n, ec⟩) | (⟨bs, ec⟩ | ⟨n, ec⟩) := ev
  · obtain ⟨client, hclient, rfl⟩ := Option.map_eq_some_iff.mp h
    obtain ⟨reports, hreports⟩ := onReadFromClient_eq { self with client } ec bs.length
    exact Or.inl ⟨bs, ec, client, reports, rfl, hclient, hreports⟩
  · obtain ⟨client, hclient, rfl⟩ := Option.map_eq_some_iff.mp h
    obtain ⟨reports, hreports⟩ := onWriteToTarget_eq { self with client } ec n
    exact Or.inr (Or.inl ⟨n, ec, client, reports, rfl, hclient, hreports⟩)
  · obtain ⟨target, htarget, rfl⟩ := Option.map_eq_some_iff.mp h
    obtain ⟨reports, hreports⟩ := onReadFromTarget_eq { self with target } ec bs.length
    exact Or.inr (Or.inr (Or.inl ⟨bs, ec, target, reports, rfl, htarget, hreports⟩))
  · obtain ⟨target, htarget, rfl⟩ := Option.map_eq_some_iff.mp h
    obtain ⟨reports, hreports⟩ := onWriteToClient_eq { self with target } ec n
    exact Or.inr (Or.inr (Or.inr ⟨n, ec, target, reports, rfl, htarget, hreports⟩))

theorem ready_step (hself : self.Ready) (h : relay.step self ev = some next) : next.Ready := by
  obtain ⟨bs, ec, d, reports, -, hd, rfl⟩ | ⟨n, ec, d, reports, -, hd, rfl⟩ |
    ⟨bs, ec, d, reports, -, hd, rfl⟩ | ⟨n, ec, d, reports, -, hd, rfl⟩ := step_cases h
  · exact ⟨Direction.ready_afterRead hd, hself.2⟩
  · exact ⟨Direction.ready_afterWrite hd, hself.2⟩
  · exact ⟨hself.1, Direction.ready_afterRead hd⟩
  · exact ⟨hself.1, Direction.ready_afterWrite hd⟩

end Relay

/-- **The relay is two pumps.** -/
theorem relay_step_toPumps {self : Relay} (h : self.Ready) (ev : RelayEvent) :
    (relay.step self ev).map Relay.toPumps
      = (Pump.pumps ErrorCode UInt8 1024).step self.toPumps ev := by
  obtain (⟨bs, ec⟩ | ⟨n, ec⟩) | (⟨bs, ec⟩ | ⟨n, ec⟩) := ev
  · change Option.map _ (Option.map _ _) = Option.map _ ((pump _ _ _).step self.client.toPump _)
    rw [← Direction.toPump_read h.1, Option.map_map, Option.map_map]
    refine congrArg (Option.map · _) (funext fun client => ?_)
    obtain ⟨reports, hreports⟩ := Relay.onReadFromClient_eq { self with client } ec bs.length
    exact congrArg Relay.toPumps hreports
  · change Option.map _ (Option.map _ _) = Option.map _ ((pump _ _ _).step self.client.toPump _)
    rw [← Direction.toPump_write, Option.map_map, Option.map_map]
    refine congrArg (Option.map · _) (funext fun client => ?_)
    obtain ⟨reports, hreports⟩ := Relay.onWriteToTarget_eq { self with client } ec n
    exact congrArg Relay.toPumps hreports
  · change Option.map _ (Option.map _ _) = Option.map _ ((pump _ _ _).step self.target.toPump _)
    rw [← Direction.toPump_read h.2, Option.map_map, Option.map_map]
    refine congrArg (Option.map · _) (funext fun target => ?_)
    obtain ⟨reports, hreports⟩ := Relay.onReadFromTarget_eq { self with target } ec bs.length
    exact congrArg Relay.toPumps hreports
  · change Option.map _ (Option.map _ _) = Option.map _ ((pump _ _ _).step self.target.toPump _)
    rw [← Direction.toPump_write, Option.map_map, Option.map_map]
    refine congrArg (Option.map · _) (funext fun target => ?_)
    obtain ⟨reports, hreports⟩ := Relay.onWriteToClient_eq { self with target } ec n
    exact congrArg Relay.toPumps hreports

/-! ### What a relay delivers -/

/-- What has been delivered is what has been read, as far as it goes, in both directions. -/
def Relay.Intact (self : Relay) : Prop :=
  self.client.delivered <+: self.client.read ∧ self.target.delivered <+: self.target.read

/-- All that had been read before what the buffer holds has been delivered. -/
def Direction.CaughtUp (d : Direction) : Prop :=
  d.read.length = d.delivered.length + d.buffer.length

instance decidableCaughtUp (d : Direction) : Decidable d.CaughtUp :=
  inferInstanceAs (Decidable (_ = _))

/-- A write delivers nothing, or the direction is caught up: nothing has been lost. -/
def Relay.InTime (self : Relay) : RelayEvent → Prop
  | .toTarget n _ => 0 < n → self.client.CaughtUp
  | .toClient n _ => 0 < n → self.target.CaughtUp
  | _ => True

instance decidableInTime : ∀ (self : Relay) (ev : RelayEvent), Decidable (self.InTime ev)
  | self, .toTarget n _ => inferInstanceAs (Decidable (0 < n → self.client.CaughtUp))
  | self, .toClient n _ => inferInstanceAs (Decidable (0 < n → self.target.CaughtUp))
  | _, .fromClient _ _ => inferInstanceAs (Decidable True)
  | _, .fromTarget _ _ => inferInstanceAs (Decidable True)

/-- The same schedule: the same sizes and errors, in the same order. -/
def SameSchedule (evs evs' : List RelayEvent) : Prop :=
  evs.map Pump.bothSized = evs'.map Pump.bothSized

variable {self : Relay} {evs : List RelayEvent}

theorem run_toPumps (h : self.Ready) (evs : List RelayEvent) :
    (relay.run self evs).map Relay.toPumps
      = (Pump.pumps ErrorCode UInt8 1024).run self.toPumps evs := by
  have hrun : (relay.run self evs).map Relay.toPumps
      = (Pump.pumps ErrorCode UInt8 1024).run self.toPumps (evs.map id) :=
    Machine.run_map _ _ (fun _ ev hself => relay_step_toPumps hself ev)
      (fun _ _ _ hself hstep => Relay.ready_step hself hstep) h
  rwa [List.map_id] at hrun

/-- A direction that can complete a write is a pump that can give. -/
theorem Direction.level_iff {d d' : Direction} {n : ℕ} {ec : ErrorCode}
    (h : d.completeWrite n ec = some d') :
    (0 < n → d.CaughtUp) ↔ d.toPump.Level (.gave n ec : PumpEvent ErrorCode UInt8) := by
  obtain ⟨⟨houtstanding, -⟩, -⟩ := Option.ite_none_right_eq_some.mp h
  obtain ⟨buffer, outstanding, read, delivered⟩ := d
  obtain rfl : outstanding = some .writeSome := houtstanding
  constructor
  · rintro hcaught chunk n' ec' hphase he
    obtain ⟨rfl, rfl⟩ := PumpEvent.gave.inj he
    obtain rfl := PumpPhase.giving.inj hphase
    exact hcaught
  · exact fun hlevel => hlevel buffer n ec rfl rfl

theorem along_toPumps_iff (h : self.Ready) :
    relay.Along Relay.InTime self evs ↔
      (Pump.pumps ErrorCode UInt8 1024).Along Pump.BothLevel self.toPumps evs := by
  have halong : relay.Along Relay.InTime self evs ↔
      (Pump.pumps ErrorCode UInt8 1024).Along Pump.BothLevel self.toPumps (evs.map id) := by
    refine Machine.along_map_iff _ _ (fun _ ev hself => relay_step_toPumps hself ev)
      (fun _ _ _ hself hstep => Relay.ready_step hself hstep) ?_ h
    rintro self ((⟨bs, ec⟩ | ⟨n, ec⟩) | (⟨bs, ec⟩ | ⟨n, ec⟩)) next hstep
    · exact iff_of_true trivial nofun
    · obtain ⟨d, hd, -⟩ := Option.map_eq_some_iff.mp hstep
      exact Direction.level_iff hd
    · exact iff_of_true trivial nofun
    · obtain ⟨d, hd, -⟩ := Option.map_eq_some_iff.mp hstep
      exact Direction.level_iff hd
  rwa [List.map_id] at halong

instance nontrivialUInt8 : Nontrivial UInt8 := ⟨0x00, 0x01, by decide⟩

/-- **A schedule loses nothing if and only if every step is in time**: whatever bytes come, in
every state on the way what has been delivered is a prefix of what has been read, in both
directions. -/
theorem relay_intact_iff (connection : SocksConnection) (evs : List RelayEvent) :
    (∀ evs', SameSchedule evs' evs → ∀ pre self, pre <+: evs' →
      relay.run connection.toRelay pre = some self → self.Intact) ↔
      relay.Along Relay.InTime connection.toRelay evs := by
  have hready := Relay.ready_toRelay connection
  have hrun := run_toPumps hready
  rw [along_toPumps_iff hready]
  refine Iff.trans ?_ (Pump.pumps_intact_iff evs)
  refine forall_congr' fun evs' => forall_congr' fun hsame => forall_congr' fun pre => ?_
  constructor
  · intro h q hpre hq
    obtain ⟨self, hself, rfl⟩ := Option.map_eq_some_iff.mp ((hrun pre).trans hq)
    exact h self hpre hself
  · intro h self hpre hself
    exact h self.toPumps hpre ((hrun pre).symm.trans (by rw [hself, Option.map_some]))

/-- Both directions in turn. The one is written in full but for its last write, and then the client
is gone. -/
def lastWriteShort : List RelayEvent :=
  [.fromClient [0x61, 0x62] .ok, .fromTarget [0x63] .ok, .toTarget 2 .ok, .toClient 1 .ok,
    .fromClient [0x64, 0x65] .ok, .toTarget 1 .ok, .fromClient [] .eof]

/-- Every write is in time, and nothing is lost on the way. -/
theorem relay_intact_iff_lastWriteShort :
    ∃ self, relay.run (SocksConnection.toRelay {}) lastWriteShort = some self ∧ self.Intact ∧
      self.client.delivered = [0x61, 0x62, 0x64] := by
  have hrun : (relay.run (SocksConnection.toRelay {}) lastWriteShort).map
      (fun self => self.client.delivered) = some [0x61, 0x62, 0x64] := by decide +kernel
  have hintime : relay.Along Relay.InTime (SocksConnection.toRelay {}) lastWriteShort := by
    decide +kernel
  obtain ⟨self, hself, hdelivered⟩ := Option.map_eq_some_iff.mp hrun
  exact ⟨self, hself, (relay_intact_iff {} lastWriteShort).mpr hintime _ rfl _ _ List.prefix_rfl
    hself, hdelivered⟩

/-- Three bytes for the target, the second of which is not written with the first. -/
def shortWrite : List RelayEvent :=
  [.fromClient [0x61, 0x62] .ok, .toTarget 1 .ok, .fromClient [0x63] .ok, .toTarget 1 .ok]

/-- It is not written at all. -/
theorem relay_shortWrite : ∃ self, relay.run (SocksConnection.toRelay {}) shortWrite = some self ∧
    self.client.read = [0x61, 0x62, 0x63] ∧ self.client.delivered = [0x61, 0x63] ∧
    ¬self.Intact := by
  have hrun : (relay.run (SocksConnection.toRelay {}) shortWrite).map
      (fun self => (self.client.read, self.client.delivered))
      = some ([0x61, 0x62, 0x63], [0x61, 0x63]) := by decide +kernel
  obtain ⟨self, hself, hbytes⟩ := Option.map_eq_some_iff.mp hrun
  obtain ⟨hread, hdelivered⟩ := Prod.mk.inj hbytes
  refine ⟨self, hself, hread, hdelivered, ?_⟩
  rw [Relay.Intact, hread, hdelivered]
  exact fun h => absurd h.1 (by decide)

/-! ### What a relay reports -/

/-- What is reported. Of the two messages of `do_relay_from_target` the second is not among them:
its branch is never reached. -/
def reportTexts : List String :=
  ["Client disconnected", "Cannot read from client", "Cannot write to target",
    "Application server disconnected", "Cannot write to client"]

/-- From one state to the next, nothing is reported, or one of the texts. -/
def Relay.Reports (self next : Relay) : Prop :=
  next.reports = self.reports ∨
    ∃ ec what, what ∈ reportTexts ∧ next.reports = self.reports ++ [(ec, what)]

theorem reports_step {next : Relay} {ev : RelayEvent} (h : relay.step self ev = some next) :
    self.Reports next := by
  obtain (⟨bs, ec⟩ | ⟨n, ec⟩) | (⟨bs, ec⟩ | ⟨n, ec⟩) := ev
  · obtain ⟨client, -, rfl⟩ := Option.map_eq_some_iff.mp h
    rw [Relay.onReadFromClient]
    split_ifs
    · exact Or.inr ⟨_, _, by decide, rfl⟩
    · exact Or.inr ⟨_, _, by decide, rfl⟩
    · exact Or.inl rfl
  · obtain ⟨client, -, rfl⟩ := Option.map_eq_some_iff.mp h
    rw [Relay.onWriteToTarget]
    split_ifs
    · exact Or.inr ⟨_, _, by decide, rfl⟩
    · exact Or.inl rfl
  · obtain ⟨target, -, rfl⟩ := Option.map_eq_some_iff.mp h
    rw [Relay.onReadFromTarget]
    split_ifs
    · exact Or.inr ⟨_, _, by decide, rfl⟩
    · exact Or.inl rfl
  · obtain ⟨target, -, rfl⟩ := Option.map_eq_some_iff.mp h
    rw [Relay.onWriteToClient]
    split_ifs
    · exact Or.inr ⟨_, _, by decide, rfl⟩
    · exact Or.inl rfl

/-- **Every report of a relay is one of five texts.** -/
theorem what_mem_reportTexts (connection : SocksConnection)
    (hrun : relay.run connection.toRelay evs = some self) :
    ∀ report ∈ self.reports, report.2 ∈ reportTexts := by
  refine Machine.invariant (P := fun self => ∀ report ∈ self.reports, report.2 ∈ reportTexts) ?_
    (List.forall_mem_nil _) hrun
  rintro self ev next hself hstep report hreport
  rcases reports_step hstep with heq | ⟨ec, what, hwhat, heq⟩
  · exact hself report (heq ▸ hreport)
  · rw [heq, List.mem_append, List.mem_singleton] at hreport
    rcases hreport with hold | rfl
    · exact hself report hold
    · exact hwhat

/-! ### How a relay ends -/

/-- What is reported when nothing more is relayed from the client. -/
def clientTexts : List String :=
  ["Client disconnected", "Cannot read from client", "Cannot write to target"]

/-- What is reported when nothing more is relayed from the target. -/
def targetTexts : List String := ["Application server disconnected", "Cannot write to client"]

/-- The reports with these texts. -/
def reportsWith (texts : List String) (reports : List (ErrorCode × String)) :
    List (ErrorCode × String) := reports.filter (·.2 ∈ texts)

/-- A direction has reported its end once if it has come to it, and not before. -/
def Direction.Accounted (d : Direction) (texts : List String)
    (reports : List (ErrorCode × String)) : Prop :=
  (reportsWith texts reports).length = if d.outstanding = none then 1 else 0

/-- One operation of a direction: it starts another one, or reports why not. -/
def Direction.Turns (d d' : Direction) (texts : List String)
    (reports reports' : List (ErrorCode × String)) : Prop :=
  d.outstanding ≠ none ∧ (d'.outstanding ≠ none ∧ reports' = reports ∨
    ∃ ec what, ec.failed = true ∧ what ∈ texts ∧ d'.outstanding = none ∧
      reports' = reports ++ [(ec, what)])

section Turns

variable {d d' other : Direction} {texts texts' : List String}
  {reports reports' : List (ErrorCode × String)}

theorem Direction.Turns.accounted (h : d.Turns d' texts reports reports')
    (hd : d.Accounted texts reports) : d'.Accounted texts reports' := by
  obtain ⟨hout, ⟨hout', rfl⟩ | ⟨ec, what, -, hwhat, hout', rfl⟩⟩ := h
  · rw [Direction.Accounted, if_neg hout] at hd
    rw [Direction.Accounted, if_neg hout', hd]
  · rw [Direction.Accounted, if_neg hout] at hd
    rw [Direction.Accounted, if_pos hout', reportsWith, List.filter_append, List.length_append,
      List.filter_cons_of_pos (by simpa using hwhat)]
    exact congrArg (· + 1) hd

/-- The other direction does not notice. -/
theorem Direction.Turns.accounted_other (h : d.Turns d' texts reports reports')
    (hdisjoint : ∀ what ∈ texts, what ∉ texts') (hother : other.Accounted texts' reports) :
    other.Accounted texts' reports' := by
  obtain ⟨-, ⟨-, rfl⟩ | ⟨ec, what, -, hwhat, -, rfl⟩⟩ := h
  · exact hother
  · have hnot : what ∉ texts' := hdisjoint what hwhat
    rw [Direction.Accounted, reportsWith, List.filter_append,
      List.filter_cons_of_neg (by simpa using hnot), List.filter_nil, List.append_nil]
    exact hother

theorem Direction.Turns.failed (h : d.Turns d' texts reports reports')
    (hfailed : ∀ report ∈ reports, report.1.failed = true) :
    ∀ report ∈ reports', report.1.failed = true := by
  obtain ⟨-, ⟨-, rfl⟩ | ⟨ec, what, hec, -, -, rfl⟩⟩ := h
  · exact hfailed
  · intro report hreport
    rcases List.mem_append.mp hreport with hreport | hreport
    · exact hfailed report hreport
    · rwa [List.mem_singleton.mp hreport]

end Turns

/-! The two directions, by the side that is read from. -/

/-- The client, or the target. -/
inductive Side
  | client
  | target

namespace Side

/-- What is reported when nothing more is relayed from this side. -/
def texts : Side → List String
  | client => clientTexts
  | target => targetTexts

/-- An operation of the direction from this side completes. -/
def event (e : PumpEvent ErrorCode UInt8) : Side → RelayEvent
  | client => .inl e
  | target => .inr e

theorem not_mem_texts {side side' : Side} (h : side' ≠ side) :
    ∀ what ∈ side.texts, what ∉ side'.texts := by
  cases side with
  | client =>
    cases side' with
    | client => exact absurd rfl h
    | target => decide
  | target =>
    cases side' with
    | client => decide
    | target => exact absurd rfl h

end Side

/-- The direction from a side. -/
def Relay.direction (self : Relay) : Side → Direction
  | .client => self.client
  | .target => self.target

/-- An operation of a direction completes. -/
def Direction.complete (d : Direction) : PumpEvent ErrorCode UInt8 → Option Direction
  | .took bs ec => d.completeRead bs ec
  | .gave n ec => d.completeWrite n ec

section Complete

variable {d d' d'' : Direction} {e : PumpEvent ErrorCode UInt8} {texts : List String}
  {reports : List (ErrorCode × String)}

theorem Direction.outstanding_of_complete (h : d.complete e = some d') :
    d.outstanding ≠ none ∧ d'.outstanding = none := by
  cases e with
  | took bs ec =>
    obtain ⟨⟨hout, -, -⟩, hd'⟩ := Option.ite_none_right_eq_some.mp h
    obtain rfl := Option.some.inj hd'
    exact ⟨by simp [hout], rfl⟩
  | gave n ec =>
    obtain ⟨⟨hout, -, -⟩, hd'⟩ := Option.ite_none_right_eq_some.mp h
    obtain rfl := Option.some.inj hd'
    exact ⟨by simp [hout], rfl⟩

/-- An operation that is outstanding can complete: it can fail. -/
theorem Direction.exists_complete_iff :
    (∃ e d', d.complete e = some d') ↔ d.outstanding ≠ none := by
  constructor
  · rintro ⟨e, d', h⟩
    exact (outstanding_of_complete h).1
  · intro hout
    obtain ⟨transfer, htransfer⟩ := Option.ne_none_iff_exists'.mp hout
    cases transfer with
    | readSome =>
      exact ⟨.took [] .eof, _, if_pos ⟨htransfer, Nat.zero_le _, fun _ => ErrorCode.failed_eof⟩⟩
    | writeSome =>
      exact ⟨.gave 0 .eof, _, if_pos ⟨htransfer, Nat.zero_le _, fun _ => ErrorCode.failed_eof⟩⟩

/-- The handler reports a failure. -/
theorem Direction.Turns.ends {ec : ErrorCode} {what : String} (h : d.complete e = some d')
    (hec : ec.failed = true) (hwhat : what ∈ texts) :
    d.Turns d' texts reports (reports ++ [(ec, what)]) :=
  ⟨(outstanding_of_complete h).1,
    Or.inr ⟨ec, what, hec, hwhat, (outstanding_of_complete h).2, rfl⟩⟩

/-- The handler starts another operation. -/
theorem Direction.Turns.goesOn (h : d.complete e = some d') (hd'' : d''.outstanding ≠ none) :
    d.Turns d'' texts reports reports :=
  ⟨(outstanding_of_complete h).1, Or.inl ⟨hd'', rfl⟩⟩

end Complete

variable {next : Relay} {side : Side} {e : PumpEvent ErrorCode UInt8}

/-- The handler of an operation. -/
def Relay.handle (self : Relay) : Side → PumpEvent ErrorCode UInt8 → Relay
  | .client, .took bs ec => self.onReadFromClient ec bs.length
  | .client, .gave n ec => self.onWriteToTarget ec n
  | .target, .took bs ec => self.onReadFromTarget ec bs.length
  | .target, .gave n ec => self.onWriteToClient ec n

/-- The relay with another direction from a side. -/
def Relay.withDirection (self : Relay) (d : Direction) : Side → Relay
  | .client => { self with client := d }
  | .target => { self with target := d }

/-- A step is the completion of an operation, and then its handler. -/
theorem relay_step_eq (self : Relay) (side : Side) (e : PumpEvent ErrorCode UInt8) :
    relay.step self (side.event e) =
      ((self.direction side).complete e).map fun d =>
        (self.withDirection d side).handle side e := by
  cases side with
  | client => cases e <;> rfl
  | target => cases e <;> rfl

theorem exists_step_iff : (∃ e next, relay.step self (side.event e) = some next) ↔
    (self.direction side).outstanding ≠ none := by
  rw [← Direction.exists_complete_iff]
  refine exists_congr fun e => ?_
  rw [relay_step_eq]
  constructor
  · rintro ⟨next, h⟩
    obtain ⟨d', hd', -⟩ := Option.map_eq_some_iff.mp h
    exact ⟨d', hd'⟩
  · rintro ⟨d', hd'⟩
    exact ⟨_, Option.map_eq_some_iff.mpr ⟨d', hd', rfl⟩⟩

/-- A handler of the one direction leaves the other as it is. -/
theorem direction_handle {side' : Side} (h : side' ≠ side) (d : Direction) :
    ((self.withDirection d side).handle side e).direction side' = self.direction side' := by
  cases side with
  | client =>
    cases side' with
    | client => exact absurd rfl h
    | target =>
      cases e with
      | took bs ec =>
        obtain ⟨_, heq⟩ := Relay.onReadFromClient_eq { self with client := d } ec bs.length
        exact (congrArg Relay.target heq :)
      | gave n ec =>
        obtain ⟨_, heq⟩ := Relay.onWriteToTarget_eq { self with client := d } ec n
        exact (congrArg Relay.target heq :)
  | target =>
    cases side' with
    | client =>
      cases e with
      | took bs ec =>
        obtain ⟨_, heq⟩ := Relay.onReadFromTarget_eq { self with target := d } ec bs.length
        exact (congrArg Relay.client heq :)
      | gave n ec =>
        obtain ⟨_, heq⟩ := Relay.onWriteToClient_eq { self with target := d } ec n
        exact (congrArg Relay.client heq :)
    | target => exact absurd rfl h

/-- What a handler does with its own direction: it starts an operation, or reports a failure. -/
theorem turns_handle (self : Relay) (side : Side) {d d' : Direction} (h : d.complete e = some d') :
    d.Turns (((self.withDirection d' side).handle side e).direction side) side.texts self.reports
      ((self.withDirection d' side).handle side e).reports := by
  cases side with
  | client =>
    cases e with
    | took bs ec =>
      dsimp only [Relay.handle, Relay.onReadFromClient]
      split_ifs with heof hec
      · exact .ends h (heof ▸ ErrorCode.failed_eof) (by decide)
      · exact .ends h hec (by decide)
      · exact .goesOn h nofun
    | gave n ec =>
      dsimp only [Relay.handle, Relay.onWriteToTarget]
      split_ifs with hec
      · exact .ends h hec (by decide)
      · exact .goesOn h nofun
  | target =>
    cases e with
    | took bs ec =>
      dsimp only [Relay.handle, Relay.onReadFromTarget]
      split_ifs with hec
      · exact .ends h hec (by decide)
      · exact .goesOn h nofun
    | gave n ec =>
      dsimp only [Relay.handle, Relay.onWriteToClient]
      split_ifs with hec
      · exact .ends h hec (by decide)
      · exact .goesOn h nofun

/-- What has been reported accounts for what has ended. -/
structure Relay.Accounted (r : Relay) : Prop where
  texts : ∀ side, (r.direction side).Accounted side.texts r.reports
  failed : ∀ report ∈ r.reports, report.1.failed = true

theorem accounted_toRelay (connection : SocksConnection) : connection.toRelay.Accounted where
  texts
    | .client => rfl
    | .target => rfl
  failed := List.forall_mem_nil _

theorem Relay.Accounted.step {ev : RelayEvent} (h : self.Accounted)
    (hstep : relay.step self ev = some next) : next.Accounted := by
  obtain ⟨side, e, rfl⟩ : ∃ side e, ev = Side.event e side := by
    cases ev with
    | inl e => exact ⟨.client, e, rfl⟩
    | inr e => exact ⟨.target, e, rfl⟩
  rw [relay_step_eq] at hstep
  obtain ⟨d, hd, rfl⟩ := Option.map_eq_some_iff.mp hstep
  have hturns := turns_handle self side hd
  refine ⟨fun side' => ?_, hturns.failed h.failed⟩
  by_cases hne : side' = side
  · subst hne
    exact hturns.accounted (h.texts side')
  · rw [direction_handle hne]
    exact hturns.accounted_other (Side.not_mem_texts hne) (h.texts side')

theorem Direction.Accounted.outstanding_iff {d : Direction} {texts : List String}
    {reports : List (ErrorCode × String)} (h : d.Accounted texts reports) :
    d.outstanding ≠ none ↔ reportsWith texts reports = [] := by
  rw [← List.length_eq_zero_iff, h]
  split_ifs with hout
  · exact iff_of_false (not_not_intro hout) (by simp)
  · exact iff_of_true hout rfl

theorem Direction.Accounted.length_le {d : Direction} {texts : List String}
    {reports : List (ErrorCode × String)} (h : d.Accounted texts reports) :
    (reportsWith texts reports).length ≤ 1 := by
  rw [h]
  split_ifs <;> decide

/-- **Each direction goes on until it has reported why it does not**, whatever has become of the
other one; it reports once, and only an error. -/
theorem relay_goes_on_iff (connection : SocksConnection)
    (hrun : relay.run connection.toRelay evs = some self) :
    ((∃ e next, relay.step self (.inl e) = some next) ↔
        reportsWith clientTexts self.reports = []) ∧
      ((∃ e next, relay.step self (.inr e) = some next) ↔
        reportsWith targetTexts self.reports = []) ∧
      (reportsWith clientTexts self.reports).length ≤ 1 ∧
      (reportsWith targetTexts self.reports).length ≤ 1 ∧
      ∀ report ∈ self.reports, report.1.failed = true := by
  have h : self.Accounted := Machine.invariant (P := Relay.Accounted)
    (fun _ _ _ hr hstep => hr.step hstep) (accounted_toRelay connection) hrun
  have hgoesOn : ∀ side, (∃ e next, relay.step self (Side.event e side) = some next) ↔
      reportsWith side.texts self.reports = [] := fun side =>
    exists_step_iff.trans (h.texts side).outstanding_iff
  exact ⟨hgoesOn .client, hgoesOn .target, (h.texts .client).length_le, (h.texts .target).length_le,
    h.failed⟩

/-- The client shuts down its side, and what comes from the target is still relayed. -/
theorem relay_goes_on_halfClosed : ∃ self e next,
    relay.run (SocksConnection.toRelay {}) [.fromClient [] .eof] = some self ∧
      relay.step self (.inr e) = some next := by
  have hrun : (relay.run (SocksConnection.toRelay {}) [.fromClient [] .eof]).map
      (·.reports) = some [(.eof, "Client disconnected")] := by decide +kernel
  obtain ⟨self, hself, hreports⟩ := Option.map_eq_some_iff.mp hrun
  obtain ⟨-, ⟨-, htarget⟩, -⟩ := relay_goes_on_iff {} hself
  obtain ⟨e, next, hstep⟩ := htarget (by rw [hreports]; decide)
  exact ⟨self, e, next, hself, hstep⟩

end Socks
