import Socks.ConnectV4
import Socks.Exchange
import Socks.Asio.Script

/-!
# The first message, at the reference server

The server does not know what it is going to read first: a SOCKS5 greeting, or a SOCKS4 request.
One condition serves both. It is called after every chunk, and looks at the second byte of the
buffer as soon as one byte has come, when what stands there is still a zero of the buffer's own.
A greeting does not suffer from this. A SOCKS4 request whose first chunk is a single byte does:
the zero is not the command the condition expects, so it ends the read.

## Main definitions

* `Socks.FirstMessage` — a greeting, or a SOCKS4 request
* `Socks.FirstMessage.Answered` — the first read holds it, and the server does what it asks

## Main results

* `Socks.greetingAsk_of_socks4` — the condition of the first read, on a SOCKS4 request
* `Socks.first_message_iff` — when a first message is answered
-/

namespace Socks

open Asio SocksConnection

variable {buffer : Bytes}

/-! ### The condition on a SOCKS4 request -/

/-- Among the first `n` bytes of the buffer, a zero that ends a user id. -/
def Terminated (buffer : Bytes) (n : ℕ) : Prop := ∃ i, 8 ≤ i ∧ i < n ∧ byteAt buffer i = 0x00

theorem any_range_iff (buffer : Bytes) (n : ℕ) :
    (List.range' 8 (n - 8)).any (byteAt buffer · == 0x00) = true ↔ Terminated buffer n := by
  simp only [Terminated, List.any_eq_true, List.mem_range'_1, beq_iff_eq]
  constructor
  · rintro ⟨i, ⟨h8, hi⟩, hzero⟩
    exact ⟨i, h8, by omega, hzero⟩
  · rintro ⟨i, h8, hi, hzero⟩
    exact ⟨i, ⟨h8, by omega⟩, hzero⟩

instance (buffer : Bytes) (n : ℕ) : Decidable (Terminated buffer n) :=
  decidable_of_iff _ (any_range_iff buffer n)

/-- The condition of the first read, once VER and CMD are there. -/
theorem greetingAsk_of_socks4 {n : ℕ} (h0 : byteAt buffer 0 = 0x04) (h1 : byteAt buffer 1 = 0x01) :
    greetingAsk buffer .ok n = if Terminated buffer n then 0 else buffer.length - n := by
  have hgo : ¬(ErrorCode.ok.failed = true ∨ (0 < n ∧ byteAt buffer 0 ≠ 0x05 ∧
      byteAt buffer 0 ≠ 0x04)) := by
    rw [ErrorCode.failed_ok, h0]
    tauto
  have hcmd : ¬(1 ≤ n ∧ byteAt buffer 1 ≠ 0x01) := fun h => h.2 h1
  have hnine : 9 ≤ n ∧ Terminated buffer n ↔ Terminated buffer n := by
    refine and_iff_right_of_imp ?_
    rintro ⟨i, h8, hi, -⟩
    omega
  rw [greetingAsk, if_neg hgo, if_pos h0]
  dsimp only
  rw [if_neg hcmd]
  simp only [any_range_iff, hnine]

/-- One byte of a SOCKS4 request ends the first read: what follows it in the buffer is a zero. -/
theorem greetingAsk_of_one (h0 : byteAt buffer 0 = 0x04) (h1 : byteAt buffer 1 = 0x00) :
    greetingAsk buffer .ok 1 = 0 := by
  have hgo : ¬(ErrorCode.ok.failed = true ∨ (0 < 1 ∧ byteAt buffer 0 ≠ 0x05 ∧
      byteAt buffer 0 ≠ 0x04)) := by
    rw [ErrorCode.failed_ok, h0]
    tauto
  have hcmd : 1 ≤ 1 ∧ byteAt buffer 1 ≠ 0x01 := ⟨Nat.le_refl _, by rw [h1]; decide⟩
  rw [greetingAsk, if_neg hgo, if_pos h0]
  dsimp only
  rw [if_pos hcmd]

variable {targetHost : EndpointV4} {socksUser x : Bytes}

/-- Byte 8 and what follows it: the user id, and the zero that ends it. -/
theorem byteAt_requestV4Bytes (i : ℕ) :
    byteAt (requestV4Bytes targetHost socksUser) (8 + i) = byteAt (socksUser ++ [0x00]) i := by
  have hsplit : requestV4Bytes targetHost socksUser = (Version.socks4.byte :: commandConnect ::
      (portBytes targetHost.port ++ targetHost.address.toBytes)) ++ (socksUser ++ [0x00]) := by
    simp [requestV4Bytes]
  have hlen : (Version.socks4.byte :: commandConnect ::
      (portBytes targetHost.port ++ targetHost.address.toBytes)).length = 8 := by simp [portBytes]
  rw [hsplit, byteAt, byteAt, List.getD_append_right _ _ _ _ (by omega), hlen,
    Nat.add_sub_cancel_left]

/-- Nothing short of the whole request is terminated. -/
theorem terminated_iff (huser : 0 ∉ socksUser)
    (hx : x <+: requestV4Bytes targetHost socksUser) :
    Terminated x x.length ↔ x.length = (requestV4Bytes targetHost socksUser).length := by
  have hlen := length_requestV4Bytes targetHost socksUser
  have hle := hx.length_le
  constructor
  · rintro ⟨i, h8, hi, hzero⟩
    obtain ⟨j, rfl⟩ := Nat.exists_eq_add_of_le h8
    rw [byteAt_of_prefix_lt hx hi, byteAt_requestV4Bytes] at hzero
    by_contra hne
    have hj : j < socksUser.length := by omega
    rw [byteAt_append _ hj, byteAt_eq_getElem hj] at hzero
    exact huser (hzero ▸ List.getElem_mem hj)
  · intro heq
    refine ⟨8 + socksUser.length, by omega, by omega, ?_⟩
    rw [byteAt_of_prefix_lt hx (by omega), byteAt_requestV4Bytes]
    exact byteAt_append_length _ _ _

theorem terminated_overlay (x buffer : Bytes) :
    Terminated (overlay x buffer) x.length ↔ Terminated x x.length := by
  refine exists_congr fun i => and_congr_right fun _ => and_congr_right fun hi => ?_
  rw [byteAt_overlay buffer hi]

theorem greetingAsk_congr {ec ec' : ErrorCode} (h : ec.failed = ec'.failed) (n : ℕ) :
    greetingAsk buffer ec n = greetingAsk buffer ec' n := by
  simp only [greetingAsk, h]

/-- The condition of the first read, on bytes that begin like a SOCKS4 request: it asks for the
rest of the buffer until the user id is terminated. -/
theorem greetingCond_of_socks4 {ec : ErrorCode} (hec : ec.failed = false)
    (h0 : byteAt x 0 = 0x04) (h1 : byteAt x 1 = 0x01) (h2 : 2 ≤ x.length)
    (hbuf : x.length ≤ buffer.length) :
    (greetingCond buffer).ask x ec
      = if Terminated x x.length then 0 else buffer.length - x.length := by
  have h0' : byteAt (overlay x buffer) 0 = 0x04 := (byteAt_overlay buffer (by omega)).trans h0
  have h1' : byteAt (overlay x buffer) 1 = 0x01 := (byteAt_overlay buffer (by omega)).trans h1
  rw [greetingCond, Cond.onBuffer_ask, greetingAsk_congr (hec.trans ErrorCode.failed_ok.symm),
    greetingAsk_of_socks4 h0' h1', length_overlay, Nat.max_eq_right hbuf]
  simp only [terminated_overlay]

/-- The condition of the first read, on what has come of a SOCKS4 request. -/
theorem greetingCond_requestV4 (huser : 0 ∉ socksUser)
    (hx : x <+: requestV4Bytes targetHost socksUser) (h2 : 2 ≤ x.length)
    (hbuf : x.length ≤ buffer.length) :
    (greetingCond buffer).ask x ok
      = if x.length = (requestV4Bytes targetHost socksUser).length then 0
        else buffer.length - x.length := by
  rw [errorLike_ok, greetingCond_of_socks4 ErrorCode.failed_ok (byteAt_of_prefix_lt hx (by omega))
    (byteAt_of_prefix_lt hx (by omega)) h2 hbuf]
  simp only [terminated_iff huser hx]

/-! ### Reading the message -/

variable {evs rest : List (ReadEvent ErrorCode)} {ws : List (WriteEvent ErrorCode)}

/-- The buffer of a new connection. -/
abbrev freshBuffer : Bytes := List.replicate 258 0x00

/-- The stream of a client that sends what a script says. -/
abbrev clientStream : Asio.Stream ErrorCode (Script ErrorCode) :=
  Script.stream .eof ErrorCode.failed_eof

/-- **A greeting is read, wherever its chunks end.** -/
theorem read_greeting {methods : List UInt8} (h : methods.length ≤ 255)
    (hcut : Cuts evs (greetingMethodsBytes methods)) :
    clientStream.read (greetingCond freshBuffer) 258 ⟨evs ++ rest, ws⟩
      = ⟨greetingMethodsBytes methods, .ok, ⟨rest, ws⟩⟩ := by
  have hbuf : byteAt freshBuffer 0 ≠ 0x04 := by decide
  have hask := fun x => greetingCond_greeting (x := x) h hbuf
  have hlen := length_greetingMethodsBytes methods
  refine Script.read_cuts ErrorCode.failed_eof (fun x hx hlt => ?_) (by omega) (Or.inr ?_) hcut
    rest ws
  · rw [hask x hx]
    split_ifs <;> omega
  · rw [hask _ List.prefix_rfl, if_pos (by omega)]
    omega

/-- **A SOCKS4 request is read if its first chunk has more than one byte**, wherever the others
end. -/
theorem read_requestV4 (rest : List (ReadEvent ErrorCode)) (ws : List (WriteEvent ErrorCode))
    (hsize : socksUser.length ≤ 249) (huser : 0 ∉ socksUser)
    {ev : ReadEvent ErrorCode} (hcut : Cuts (ev :: evs) (requestV4Bytes targetHost socksUser))
    (hfirst : 2 ≤ ev.bytes.length) :
    clientStream.read (greetingCond freshBuffer) 258 ⟨ev :: evs ++ rest, ws⟩
      = ⟨requestV4Bytes targetHost socksUser, .ok, ⟨rest, ws⟩⟩ := by
  have hlen := length_requestV4Bytes targetHost socksUser
  have hbytes : ev.bytes ++ bytesOf evs = requestV4Bytes targetHost socksUser := hcut.bytes
  have hle : ev.bytes.length ≤ (requestV4Bytes targetHost socksUser).length := by
    rw [← hbytes, List.length_append]
    omega
  have hfresh : freshBuffer.length = 258 := List.length_replicate
  have hask : ∀ x, ev.bytes <+: x → x <+: requestV4Bytes targetHost socksUser →
      (greetingCond freshBuffer).ask x ok
        = if x.length = (requestV4Bytes targetHost socksUser).length then 0
          else freshBuffer.length - x.length := by
    intro x hev hx
    have hevx := hev.length_le
    have hxle := hx.length_le
    exact greetingCond_requestV4 huser hx (by omega) (by omega)
  have hnil : (greetingCond freshBuffer).ask [] ok = 258 := by decide
  rw [Asio.Stream.read, List.cons_append, Script.readLoop_cons ErrorCode.failed_eof (by decide)
    (by rw [hnil]; decide) (by rw [hnil]; simp only [List.length_nil]; omega),
    hcut.ec_ok ev List.mem_cons_self, List.nil_append]
  refine Script.readLoop_cuts_from ErrorCode.failed_eof (by omega) (Or.inr ?_) rest ws ?_
    ⟨fun x hx => hcut.ec_ok x (List.mem_cons_of_mem _ hx), rfl⟩ hbytes
  · rw [hask _ ⟨_, hbytes⟩ List.prefix_rfl, if_pos rfl]
  · intro x hev hx hlt
    rw [hask x hev hx, if_neg (by omega)]
    omega

/-- A first chunk of one byte ends the read. -/
theorem read_one {ev : ReadEvent ErrorCode} (hev : ev.bytes = [0x04]) (hok : ev.ec = .ok) :
    clientStream.read (greetingCond freshBuffer) 258 ⟨ev :: evs, ws⟩
      = ⟨[0x04], .ok, ⟨evs, ws⟩⟩ := by
  have hnil : (greetingCond freshBuffer).ask [] ok = 258 := by decide
  rw [Asio.Stream.read, Script.readLoop_cons ErrorCode.failed_eof (by decide)
    (by rw [hnil]; decide) (by rw [hnil, hev]; decide), hok, hev]
  refine Asio.Stream.readLoop_of_stop _ (Or.inr ?_)
  rw [List.nil_append, greetingCond, Cond.onBuffer_ask]
  exact greetingAsk_of_one (by decide) (by decide)

/-! ### The answer -/

/-- A first message. -/
inductive FirstMessage
  /-- The greeting that offers `methods`. -/
  | greeting (methods : List UInt8)
  /-- The SOCKS4 request for a target and a user id. -/
  | requestV4 (targetHost : EndpointV4) (socksUser : Bytes)

/-- The bytes of a first message. -/
def FirstMessage.bytes : FirstMessage → Bytes
  | .greeting methods => greetingMethodsBytes methods
  | .requestV4 targetHost socksUser => requestV4Bytes targetHost socksUser

/-- A first message the server has room for, and whose user id, if it has one, can be told from
its end. -/
def FirstMessage.Valid : FirstMessage → Prop
  | .greeting methods => methods.length ≤ 255
  | .requestV4 _ socksUser => socksUser.length ≤ 249 ∧ 0 ∉ socksUser

/-- A trace of the server's begins with a read of exactly this message, and goes on with what the
message asks for: the choice of a method, or the connection to the target. -/
def FirstMessage.Answered (m : FirstMessage)
    (trace : List (Asio.Step ErrorCode ServerCall ServerAnswer)) : Prop :=
  match m with
  | .greeting methods => ∃ n ec tail,
      trace = .read 258 (greetingMethodsBytes methods) .ok ::
        .write [0x05, chosenMethod methods] n ec :: tail
  | .requestV4 targetHost socksUser => ∃ answer tail,
      trace = .read 258 (requestV4Bytes targetHost socksUser) .ok ::
        .call (.connect ⟨.v4 targetHost.address, targetHost.port⟩) answer :: tail

/-- The condition does not see the zeros of a fresh buffer for the beginning of the message: a
SOCKS4 request has a first chunk of at least two bytes. -/
def FirstMessage.Heard (m : FirstMessage) (evs : List (ReadEvent ErrorCode)) : Prop :=
  match m with
  | .greeting _ => True
  | .requestV4 _ _ => ∀ ev ∈ evs.head?, 2 ≤ ev.bytes.length

/-- `parse_socks_connect_v4` on a request. -/
theorem parseSocksConnectV4_requestV4 (self : SocksConnection) :
    parseSocksConnectV4 { self with buffer := requestV4Bytes targetHost socksUser }
      = doTargetConnectV4 { self with
          buffer := requestV4Bytes targetHost socksUser,
          target := ⟨.v4 targetHost.address, targetHost.port⟩ } := by
  have hlen := length_requestV4Bytes targetHost socksUser
  have hne : requestV4Bytes targetHost socksUser ≠ [] := List.cons_ne_nil _ _
  have hbytes : requestV4Bytes targetHost socksUser = (0x04 : UInt8) :: 0x01 ::
      (targetHost.port >>> 8).toUInt8 :: (targetHost.port &&& 0xFF).toUInt8 ::
      targetHost.address.bytes 0 :: targetHost.address.bytes 1 :: targetHost.address.bytes 2 ::
      targetHost.address.bytes 3 :: (socksUser ++ [0x00]) := by
    simp [requestV4Bytes, portBytes, AddressV4.toBytes, List.ofFn_succ]
  have hip : (![targetHost.address.bytes 0, targetHost.address.bytes 1,
      targetHost.address.bytes 2, targetHost.address.bytes 3] : Fin 4 → UInt8)
      = targetHost.address.bytes := by
    funext i
    fin_cases i <;> rfl
  simp only [parseSocksConnectV4, hlen]
  rw [if_neg hne]
  simp only [hbytes, byteAt_cons_zero, byteAt_cons_succ, hip, join16_split]
  rw [if_neg (not_not.mpr rfl), if_neg (by omega), if_neg (not_not.mpr rfl), if_pos (by omega)]

/-- A run of a new connection. -/
abbrev serverRun (ans : ServerCall → Script ErrorCode → ServerAnswer × Script ErrorCode)
    (s : Script ErrorCode) : Run ErrorCode ServerCall ServerAnswer Ending (Script ErrorCode) :=
  (SocksConnection.start {}).run clientStream ans s

/-- **The first message is answered exactly when it is a greeting, or a SOCKS4 request whose first
chunk has more than one byte**, wherever its other chunks end and whatever comes after it. -/
theorem first_message_iff (m : FirstMessage) (hm : m.Valid) (hcut : Cuts evs m.bytes)
    (rest : List (ReadEvent ErrorCode)) (ws : List (WriteEvent ErrorCode))
    (ans : ServerCall → Script ErrorCode → ServerAnswer × Script ErrorCode) :
    m.Answered (serverRun ans ⟨evs ++ rest, ws⟩).trace ↔ m.Heard evs := by
  cases m with
  | greeting methods =>
    refine iff_of_true ?_ trivial
    have hgreeting := parseSocksGreeting_greeting {} hm
    rw [serverRun, start_eq, Prog.run_read (read_greeting hm hcut)]
    change FirstMessage.Answered _ (.read 258 (greetingMethodsBytes methods) .ok ::
      ((parseSocksGreeting { buffer := greetingMethodsBytes methods }).run
        clientStream ans _).trace)
    rw [hgreeting]
    exact ⟨_, _, _, rfl⟩
  | requestV4 targetHost socksUser =>
    obtain ⟨hsize, huser⟩ := hm
    obtain ⟨ev, evs, rfl⟩ : ∃ ev evs', evs = ev :: evs' := by
      cases evs with
      | nil => exact absurd hcut.bytes.symm (List.cons_ne_nil _ _)
      | cons ev evs => exact ⟨ev, evs, rfl⟩
    have hbytes : ev.bytes ++ bytesOf evs = requestV4Bytes targetHost socksUser := hcut.bytes
    have hok : ev.ec = .ok := hcut.ec_ok ev List.mem_cons_self
    constructor
    · rintro ⟨answer, tail, htrace⟩ ev' hev'
      obtain rfl : ev = ev' := Option.some.inj hev'
      by_contra hlt
      have hpos := List.length_pos_iff.mpr (ReadEvent.bytes_ne_nil hok)
      obtain ⟨b, hb⟩ := List.length_eq_one_iff.mp (show ev.bytes.length = 1 by omega)
      rw [hb] at hbytes
      obtain rfl : b = 0x04 := (List.cons_eq_cons.mp hbytes).1
      rw [serverRun, start_eq, List.cons_append, Prog.run_read (read_one hb hok)] at htrace
      have hgot : [0x04] = requestV4Bytes targetHost socksUser :=
        (Asio.Step.read.inj (List.cons_eq_cons.mp htrace).1).2.1
      have hlen := congrArg List.length hgot
      rw [length_requestV4Bytes, List.length_singleton] at hlen
      omega
    · intro hfirst
      have hread := read_requestV4 rest ws hsize huser hcut (hfirst ev rfl)
      rw [serverRun, start_eq, Prog.run_read hread]
      change FirstMessage.Answered _ (.read 258 (requestV4Bytes targetHost socksUser) .ok ::
        ((parseSocksConnectV4 { buffer := requestV4Bytes targetHost socksUser }).run
          clientStream ans _).trace)
      rw [parseSocksConnectV4_requestV4 {}]
      exact ⟨_, _, rfl⟩

/-- A resolver and a target socket that always succeed. -/
def agreeable (_ : ServerCall) (s : Script ErrorCode) : ServerAnswer × Script ErrorCode :=
  ({ localEndpoint := some default }, s)

/-- A SOCKS4 request. -/
def sampleRequestV4 : FirstMessage := .requestV4 ⟨⟨![127, 0, 0, 1]⟩, 80⟩ [0x61]

theorem valid_sampleRequestV4 : sampleRequestV4.Valid := ⟨by decide, by decide⟩

/-- It comes in two pieces, of two and eight bytes. -/
def cutAfterTwo : List (ReadEvent ErrorCode) :=
  [.chunk 0x04 [0x01], .chunk 0x00 [0x50, 127, 0, 0, 1, 0x61, 0x00]]

theorem cuts_cutAfterTwo : Cuts cutAfterTwo sampleRequestV4.bytes :=
  ⟨by simp [cutAfterTwo, ReadEvent.chunk], by decide⟩

theorem first_message_cutAfterTwo :
    sampleRequestV4.Answered (serverRun agreeable ⟨cutAfterTwo ++ [], []⟩).trace :=
  (first_message_iff sampleRequestV4 valid_sampleRequestV4 cuts_cutAfterTwo [] [] agreeable).mpr
    (by rintro ev ⟨⟩; decide)

/-- It comes in two pieces, of one and nine bytes. -/
def cutAfterOne : List (ReadEvent ErrorCode) :=
  [.chunk 0x04 [], .chunk 0x01 [0x00, 0x50, 127, 0, 0, 1, 0x61, 0x00]]

/-- The server reads the first piece only, and an exception leaves its handler. -/
theorem first_message_cutAfterOne : sampleRequestV4.Valid ∧
    Cuts cutAfterOne sampleRequestV4.bytes ∧
    ¬sampleRequestV4.Answered (serverRun agreeable ⟨cutAfterOne, []⟩).trace ∧
    received (serverRun agreeable ⟨cutAfterOne, []⟩).trace = [[0x04]] ∧
    (serverRun agreeable ⟨cutAfterOne, []⟩).result = .thrown := by
  have hgot : received (serverRun agreeable ⟨cutAfterOne, []⟩).trace = [[0x04]] := by
    decide +kernel
  refine ⟨valid_sampleRequestV4, ⟨by simp [cutAfterOne, ReadEvent.chunk], by decide⟩, ?_, hgot,
    by decide +kernel⟩
  rintro ⟨answer, tail, htrace⟩
  rw [htrace, received_read] at hgot
  exact absurd (List.cons_eq_cons.mp hgot).1 (by decide)

end Socks
