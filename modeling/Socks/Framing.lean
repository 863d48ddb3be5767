import Socks.Transport

/-!
# What arrives, however it is cut

The clients on scripted streams, where a server's messages arrive in chunks of any size.

A reply that the server's close follows is read whole, whatever the chunks, and so a refusal is
always reported as what it is. A reply that more bytes follow is another matter. The client asks
for 22 bytes, the length of a reply with an IPv6 address, before it can know that the address is
an IPv4 one; it stops at ten bytes only if a chunk happens to end there. If none does, the client
swallows bytes of the application's own stream and then takes the reply to have the wrong size.

## Main definitions

* `Socks.AuthEvents` — a server's side of a successful negotiation
* `Socks.RefusalReply` — the bytes of a reply that refuses

## Main results

* `Socks.reply_framing_iff` — when a successful reply is read exactly
* `Socks.refusal_reported` — a refusal is reported as the refusal
-/

namespace Socks

open Asio

variable {policy : UserpassPolicy} {opt : AuthOptions} {target : Target}

/-! ### The reads -/

/-- The stream of a script, at whose end the peer has closed. -/
abbrev scriptStream : Asio.Stream ErrorCode (Script ErrorCode) :=
  Script.stream .eof ErrorCode.failed_eof

theorem replyCond_ask (got : Bytes) (e : ErrorCode) :
    (replyCond []).ask got e
      = if (got.length = 10 ∧ toAddressType (byteAt got 3) = .ipV4) ∨ e.failed = true then 0
        else 22 - got.length := by
  rw [replyCond, Cond.onBuffer_ask, readReplyCond_overlay, readReplyCond]

/-- While the reply may still be one with an IPv6 address, the rest of the buffer is asked for. -/
theorem replyCond_ask_of_ne {got : Bytes} (h : got.length = 10 → byteAt got 3 ≠ 0x01) :
    (replyCond []).ask got .ok = 22 - got.length := by
  rw [replyCond_ask, if_neg]
  rintro (⟨hlen, hat⟩ | hf)
  · exact h hlen ((toAddressType_eq_ipV4_iff _).mp hat)
  · exact Bool.false_ne_true hf

theorem replyCond_ask_ten {got : Bytes} (hlen : got.length = 10) (hat : byteAt got 3 = 0x01)
    (e : ErrorCode) : (replyCond []).ask got e = 0 := by
  rw [replyCond_ask, if_pos (Or.inl ⟨hlen, (toAddressType_eq_ipV4_iff _).mpr hat⟩)]

/-- The condition of a reply of `bs`: it asks for enough after every proper prefix. -/
theorem replyCond_asks {bs : Bytes} (h22 : bs.length ≤ 22)
    (hat : 10 < bs.length → byteAt bs 3 ≠ 0x01) (hten : 10 ≤ bs.length) :
    ∀ x, x <+: bs → x.length < bs.length → bs.length - x.length ≤ (replyCond []).ask x .ok := by
  intro x hx hlt
  rw [replyCond_ask_of_ne]
  · omega
  · intro hlen
    rw [byteAt_of_prefix_lt hx (by omega)]
    exact hat (by omega)

theorem transferAll_asks (bs : Bytes) (h : bs.length ≤ 8) :
    ∀ x, x <+: bs → x.length < bs.length →
      bs.length - x.length ≤ (transferAll : Cond ErrorCode).ask x .ok := by
  intro x _ _
  have hask : (transferAll : Cond ErrorCode).ask x .ok = defaultMaxTransferSize :=
    transferAll_ask_ok x
  rw [hask, defaultMaxTransferSize]
  omega

/-- Two bytes that arrive are read. -/
theorem read_two {a b : UInt8} {evs : List (ReadEvent ErrorCode)} (h : Cuts evs [a, b])
    (rest : List (ReadEvent ErrorCode)) (ws : List (WriteEvent ErrorCode)) :
    scriptStream.read transferAll 2 ⟨evs ++ rest, ws⟩ = ⟨[a, b], .ok, ⟨rest, ws⟩⟩ :=
  Script.read_cuts ErrorCode.failed_eof (transferAll_asks [a, b] (show 2 ≤ 8 by decide))
    (Nat.le_refl 2) (Or.inl rfl) h rest ws

/-- Two bytes that the end of the file follows are read. -/
theorem read_two_closes {a b : UInt8} {evs : List (ReadEvent ErrorCode)}
    (h : Closes .eof evs [a, b]) (ws : List (WriteEvent ErrorCode)) :
    ∃ e rest, scriptStream.read transferAll 2 ⟨evs, ws⟩ = ⟨[a, b], e, rest⟩ ∧
      (e = .ok ∨ e = .eof) :=
  Script.read_closes ErrorCode.failed_eof (transferAll_asks [a, b] (show 2 ≤ 8 by decide))
    (Nat.le_refl 2) (Or.inl rfl) ws h

/-! ### A successful negotiation -/

/-- What arrives from a server that lets the client in: a choice of no authentication, or a choice
of user/pass and then a grant, each in any chunks. -/
inductive AuthEvents (opt : AuthOptions) : List (ReadEvent ErrorCode) → Prop
  | noAuth {choice : List (ReadEvent ErrorCode)} (hc : Cuts choice [0x05, 0x00]) :
      AuthEvents opt choice
  | userpass {choice grant : List (ReadEvent ErrorCode)} (hopt : opt.isUserpass = true)
      (hc : Cuts choice [0x05, 0x02]) (hg : Cuts grant [0x01, 0x00]) :
      AuthEvents opt (choice ++ grant)

/-- **After a successful negotiation the request phase is left**, with the rest of the script
untouched. -/
theorem handshake_run_authEvents (hpolicy : policy.verdict [0x01, 0x00] .ok = none)
    {ans : Empty → Script ErrorCode → Empty × Script ErrorCode}
    {auth : List (ReadEvent ErrorCode)} (hauth : AuthEvents opt auth)
    (rest : List (ReadEvent ErrorCode)) {ws : List (WriteEvent ErrorCode)}
    (hws : Script.WritesOk ws) :
    ∃ ws', Script.WritesOk ws' ∧
      ((handshake policy opt target).run scriptStream ans ⟨auth ++ rest, ws⟩).result
        = ((requestPhase target).run scriptStream ans ⟨rest, ws'⟩).result ∧
      ((handshake policy opt target).run scriptStream ans ⟨auth ++ rest, ws⟩).rest
        = ((requestPhase target).run scriptStream ans ⟨rest, ws'⟩).rest := by
  obtain ⟨e, ws₁, hw, he, hws₁⟩ :=
    Script.write_ok ErrorCode.failed_eof (greetingBytes opt) (auth ++ rest) hws
  cases hauth with
  | noAuth hc =>
    have hr := read_two hc rest ws₁
    refine ⟨ws₁, hws₁, ?_⟩
    rw [handshake_run_noAuth hw he hr rfl]
    exact ⟨rfl, rfl⟩
  | @userpass choice grant hopt hc hg =>
    have hr := read_two hc (grant ++ rest) ws₁
    obtain ⟨u, ws₂, hw', hu, hws₂⟩ :=
      Script.write_ok ErrorCode.failed_eof (userpassBytes opt) (grant ++ rest) hws₁
    have hr' := read_two hg rest ws₂
    refine ⟨ws₂, hws₂, ?_⟩
    rw [List.append_assoc] at hw ⊢
    rw [handshake_run_userpass hopt hw he hr rfl hw' hu hr', hpolicy]
    exact ⟨rfl, rfl⟩

theorem Mode.verdict_granted (mode : Mode) : mode.policy.verdict [0x01, 0x00] .ok = none := by
  cases mode with
  | sync => exact (Socks.verdict_granted rfl).1
  | async => exact (Socks.verdict_granted rfl).2

/-- The same for the clients, and on to the read of the reply. -/
theorem Mode.run_authEvents (mode : Mode) (memory : Vector UInt8 bufferSize) (h : opt.Fits)
    (ht : target.Fits) {auth : List (ReadEvent ErrorCode)} (hauth : AuthEvents opt auth)
    (rest : List (ReadEvent ErrorCode)) {ws : List (WriteEvent ErrorCode)}
    (hws : Script.WritesOk ws) :
    ∃ ws', ∀ got e s', scriptStream.read (replyCond []) 22 ⟨rest, ws'⟩ = ⟨got, e, s'⟩ →
      ((mode.connect memory target opt).runOn scriptStream ⟨auth ++ rest, ws⟩).result
        = decodeReply got e ∧
      ((mode.connect memory target opt).runOn scriptStream ⟨auth ++ rest, ws⟩).rest = s' := by
  rw [mode.connect_eq memory h ht]
  obtain ⟨ws₁, hws₁, hresult, hrest⟩ :=
    handshake_run_authEvents mode.verdict_granted hauth rest hws
  obtain ⟨e, ws₂, hw, he, -⟩ := Script.write_ok ErrorCode.failed_eof (requestBytes target) rest hws₁
  refine ⟨ws₂, fun got e' s' hr => ?_⟩
  rw [requestPhase_run hw he hr] at hresult hrest
  exact ⟨hresult, hrest⟩

/-! ### Where the reply ends -/

/-- The address type of a successful reply goes with its length. -/
theorem SuccessReply.addressType {got : Bytes} {ep : Endpoint} (h : SuccessReply got ep) :
    (got.length = 10 ∧ byteAt got 3 = 0x01) ∨ (got.length = 22 ∧ byteAt got 3 = 0x04) := by
  cases h <;> simp

/-- A reply that a chunk ends with is read exactly. -/
theorem read_reply_boundary {R : Bytes} {ep : Endpoint} (hR : SuccessReply R ep)
    {pre : List (ReadEvent ErrorCode)} (hpre : Cuts pre R) (rest : List (ReadEvent ErrorCode))
    (ws : List (WriteEvent ErrorCode)) :
    scriptStream.read (replyCond []) 22 ⟨pre ++ rest, ws⟩ = ⟨R, .ok, ⟨rest, ws⟩⟩ := by
  rcases hR.addressType with ⟨hlen, hat⟩ | ⟨hlen, hat⟩
  · exact Script.read_cuts ErrorCode.failed_eof
      (replyCond_asks (by omega) (by omega) (by omega)) (by omega)
      (Or.inr (replyCond_ask_ten hlen hat _)) hpre rest ws
  · exact Script.read_cuts ErrorCode.failed_eof
      (replyCond_asks (by omega) (fun _ => by rw [hat]; decide) (by omega)) (by omega)
      (Or.inl hlen) hpre rest ws

/-- A reply with an IPv6 address is read exactly, whatever follows it. -/
theorem read_reply_v6 {R T : Bytes} (hlen : R.length = 22) (hat : byteAt R 3 = 0x04)
    {reply : List (ReadEvent ErrorCode)} (hreply : Cuts reply (R ++ T))
    (ws : List (WriteEvent ErrorCode)) :
    ∃ evs, scriptStream.read (replyCond []) 22 ⟨reply, ws⟩ = ⟨R, .ok, ⟨evs, ws⟩⟩ ∧ Cuts evs T := by
  have hask : ∀ x, x <+: R ++ T → x.length < 22 → 22 - x.length ≤ (replyCond []).ask x .ok := by
    intro x hx _
    rw [replyCond_ask_of_ne]
    intro hten
    rw [byteAt_of_prefix_lt hx (by omega), byteAt_append T (by omega), hat]
    decide
  obtain ⟨evs, hread, hevs⟩ := Script.read_cap ErrorCode.failed_eof hask
    (by rw [List.length_append]; omega) ws hreply
  rw [List.take_append_of_le_length (by omega), List.take_of_length_le (by omega)] at hread
  rw [List.drop_append_of_le_length (by omega), List.drop_of_length_le (by omega),
    List.nil_append] at hevs
  exact ⟨evs, hread, hevs⟩

/-- If no chunk ends after ten bytes, a reply with an IPv4 address is not what is read, and what is
read is no successful reply. -/
theorem read_reply_v4_overrun {R T : Bytes} (hlen : R.length = 10) (hat : byteAt R 3 = 0x01)
    {reply : List (ReadEvent ErrorCode)} (hreply : Cuts reply (R ++ T))
    (hno : ¬∃ pre, pre <+: reply ∧ (bytesOf pre).length = 10) (ws : List (WriteEvent ErrorCode))
    (ep : Endpoint) :
    ¬SuccessReply (scriptStream.read (replyCond []) 22 ⟨reply, ws⟩).got ep := by
  intro hsucc
  have hask : ∀ (x : Bytes) (e : ErrorCode),
      (replyCond []).ask x e = 0 ∨ 22 - x.length ≤ (replyCond []).ask x e := by
    intro x e
    rw [replyCond_ask]
    split_ifs
    · exact Or.inl rfl
    · exact Or.inr (Nat.le_refl _)
  have hfront : (scriptStream.read (replyCond []) 22 ⟨reply, ws⟩).got <+: R ++ T := by
    rw [← hreply.bytes]
    exact ⟨_, (Script.readLoop_conserves ErrorCode.failed_eof (replyCond []) 22 [] .ok
      ⟨reply, ws⟩).symm⟩
  rcases hsucc.addressType with ⟨hten, -⟩ | ⟨h22, hat'⟩
  · rcases Script.read_boundary ErrorCode.failed_eof hask ws reply with hfull | ⟨pre, hpre, hgot⟩
    · exact absurd (Nat.le_trans hfull (Nat.le_of_eq hten)) (by decide)
    · exact hno ⟨pre, hpre, by rw [← hgot]; exact hten⟩
  · rw [byteAt_of_prefix_lt hfront (by omega), byteAt_append T (by omega), hat] at hat'
    exact absurd hat' (by decide)

/-- **When a successful reply is read exactly.** A server lets the client in and sends a successful
reply `R`, and right behind it the bytes `T` of whatever it relays, all in any chunks. A client
completes without failure, with the endpoint of `R` and with exactly `T` left unread, if `R` has an
IPv6 address or some chunk ends after ten bytes; and not otherwise. -/
theorem reply_framing_iff (mode : Mode) (memory : Vector UInt8 bufferSize) (h : opt.Fits)
    (ht : target.Fits) {auth reply : List (ReadEvent ErrorCode)} {R T : Bytes} {ep : Endpoint}
    (hauth : AuthEvents opt auth) (hR : SuccessReply R ep) (hreply : Cuts reply (R ++ T))
    {ws : List (WriteEvent ErrorCode)} (hws : Script.WritesOk ws) :
    let r := (mode.connect memory target opt).runOn scriptStream ⟨auth ++ reply, ws⟩
    (r.result.1.failed = false ∧ r.result.2 = ep ∧ bytesOf r.rest.reads = T) ↔
      R.length = 22 ∨ ∃ pre, pre <+: reply ∧ (bytesOf pre).length = 10 := by
  intro r
  obtain ⟨ws', hrun⟩ := mode.run_authEvents memory h ht hauth reply hws
  have hdone : ∀ evs, scriptStream.read (replyCond []) 22 ⟨reply, ws'⟩ = ⟨R, .ok, ⟨evs, ws'⟩⟩ →
      bytesOf evs = T →
      r.result.1.failed = false ∧ r.result.2 = ep ∧ bytesOf r.rest.reads = T := by
    intro evs hread hevs
    obtain ⟨hresult, hrest⟩ := hrun _ _ _ hread
    rw [hresult, hrest, decodeReply_of_successReply hR (Or.inl rfl)]
    exact ⟨rfl, rfl, hevs⟩
  constructor
  · rintro ⟨hok, -, -⟩
    by_contra hno
    rw [not_or] at hno
    obtain ⟨hlen, hat⟩ := hR.addressType.resolve_right fun h22 => hno.1 h22.1
    obtain ⟨hresult, -⟩ := hrun _ _ _ rfl
    rw [hresult] at hok
    exact read_reply_v4_overrun hlen hat hreply hno.2 ws' _ (successReply_of_decodeReply hok)
  · rintro (h22 | ⟨pre, ⟨post, rfl⟩, hten⟩)
    · have hat := (hR.addressType.resolve_left fun h10 => by omega).2
      obtain ⟨evs, hread, hevs⟩ := read_reply_v6 h22 hat hreply ws'
      exact hdone evs hread hevs.bytes
    · rcases hR.addressType with ⟨hlen, -⟩ | ⟨hlen, hat⟩
      · have hbytes := hreply.bytes
        rw [bytesOf_append] at hbytes
        obtain ⟨hpre, hpost⟩ := List.append_inj hbytes (hten.trans hlen.symm)
        have hcut : Cuts pre R := ⟨fun ev hev =>
          hreply.ec_ok ev (List.mem_append_left _ hev), hpre⟩
        exact hdone post (read_reply_boundary hR hcut post ws') hpost
      · obtain ⟨evs, hread, hevs⟩ := read_reply_v6 hlen hat hreply ws'
        exact hdone evs hread hevs.bytes

/-- A successful reply of ten bytes. -/
def loopbackReply : Bytes := [0x05, 0x00, 0x00, 0x01, 127, 0, 0, 1, 0x1F, 0x90]

/-- The first bytes an application sends. -/
def bannerBytes : Bytes :=
  [0x48, 0x54, 0x54, 0x50, 0x2F, 0x31, 0x2E, 0x31, 0x20, 0x32, 0x30, 0x30]

theorem successReply_loopbackReply :
    SuccessReply loopbackReply ⟨.v4 ⟨![127, 0, 0, 1]⟩, 0x1F90⟩ :=
  .v4 0x00 ![127, 0, 0, 1] 0x1F 0x90 rfl

/-- The run of a client against a server that asks for no authentication and whose reply and
whatever follows arrive as `chunks`. -/
def relayRun (mode : Mode) (chunks : List (ReadEvent ErrorCode)) :
    ClientRun (Script ErrorCode) :=
  (mode.connect (Vector.replicate bufferSize 0) (.endpoint default) .none).runOn scriptStream
    ⟨[noAuthChoice] ++ chunks, []⟩

/-- If the reply and the application's bytes come in one chunk, both clients swallow them and
report a bad reply size. -/
theorem reply_overrun :
    let r := relayRun .sync [⟨loopbackReply ++ bannerBytes, .ok, nofun⟩]
    let r' := relayRun .async [⟨loopbackReply ++ bannerBytes, .ok, nofun⟩]
    r.result = (makeErrorCode .badReplySize, default) ∧ bytesOf r.rest.reads = [] ∧
      r'.result = (makeErrorCode .badReplySize, default) ∧ bytesOf r'.rest.reads = [] ∧
      ¬(r.result.1.failed = false ∧ r.result.2 = ⟨.v4 ⟨![127, 0, 0, 1]⟩, 0x1F90⟩ ∧
        bytesOf r.rest.reads = bannerBytes) ∧
      ¬(r'.result.1.failed = false ∧ r'.result.2 = ⟨.v4 ⟨![127, 0, 0, 1]⟩, 0x1F90⟩ ∧
        bytesOf r'.rest.reads = bannerBytes) := by
  refine ⟨?_, ?_, ?_, ?_, ?_, ?_⟩ <;> decide +kernel

/-- If the reply comes in two chunks of its own, it is read exactly. -/
theorem reply_framing_boundary :
    let r := relayRun .sync [⟨loopbackReply.take 3, .ok, nofun⟩, ⟨loopbackReply.drop 3, .ok, nofun⟩,
      ⟨bannerBytes, .ok, nofun⟩]
    r.result.1.failed = false ∧ r.result.2 = ⟨.v4 ⟨![127, 0, 0, 1]⟩, 0x1F90⟩ ∧
      bytesOf r.rest.reads = bannerBytes := by
  have hauth : AuthEvents .none [noAuthChoice] :=
    .noAuth ⟨by simp [noAuthChoice], rfl⟩
  exact (reply_framing_iff .sync (Vector.replicate bufferSize 0) AuthOptions.fits_none
    (Target.fits_of_endpoint default) hauth successReply_loopbackReply ⟨by simp, rfl⟩
    (fun _ hw => absurd hw List.not_mem_nil)).mpr
    (Or.inr ⟨[⟨loopbackReply.take 3, .ok, nofun⟩, ⟨loopbackReply.drop 3, .ok, nofun⟩],
      ⟨[_], rfl⟩, rfl⟩)

/-! ### Refusals -/

/-- The bytes of a CONNECT reply that refuses with code `q`. -/
structure RefusalReply (q : UInt8) (R : Bytes) : Prop where
  version : byteAt R 0 = 0x05
  code : byteAt R 1 = q
  refuses : q ≠ 0x00
  addressType : (R.length = 10 ∧ byteAt R 3 = 0x01) ∨ (R.length = 22 ∧ byteAt R 3 = 0x04)

/-- A reply that the end of the file follows is read. -/
theorem read_reply_closes {R : Bytes}
    (hR : (R.length = 10 ∧ byteAt R 3 = 0x01) ∨ (R.length = 22 ∧ byteAt R 3 = 0x04))
    {evs : List (ReadEvent ErrorCode)} (h : Closes .eof evs R)
    (ws : List (WriteEvent ErrorCode)) :
    ∃ e rest, scriptStream.read (replyCond []) 22 ⟨evs, ws⟩ = ⟨R, e, rest⟩ ∧
      (e = .ok ∨ e = .eof) := by
  rcases hR with ⟨hlen, hat⟩ | ⟨hlen, hat⟩
  · exact Script.read_closes ErrorCode.failed_eof
      (replyCond_asks (by omega) (by omega) (by omega)) (by omega)
      (Or.inr (replyCond_ask_ten hlen hat _)) ws h
  · exact Script.read_closes ErrorCode.failed_eof
      (replyCond_asks (by omega) (fun _ => by rw [hat]; decide) (by omega)) (by omega)
      (Or.inl hlen) ws h

theorem failed_or_eof {e : ErrorCode} (h : e = .ok ∨ e = .eof) : e.failed = false ∨ e = .eof :=
  h.imp_left (congrArg ErrorCode.failed)

theorem choiceError_of_not_mem {m : UInt8} (hm : m ∉ opt.methods) {e : ErrorCode}
    (he : e = .ok ∨ e = .eof) : choiceError opt [0x05, m] e = makeErrorCode .badServerChoice := by
  have hread : (!e.failed || e == .eof) = true := by simpa using failed_or_eof he
  have hval : validateServerChoice [0x05, m] 2 opt e = makeErrorCode .badServerChoice := by
    rw [validateServerChoice_of_two, if_neg hm]
  rw [choiceError, if_pos hread]
  exact hval

theorem decodeReply_of_refusal {q : UInt8} {R : Bytes} (hR : RefusalReply q R) {e : ErrorCode}
    (he : e = .ok ∨ e = .eof) :
    decodeReply R e = (makeErrorCode (.ofReplyCode (toReplyCode q)), default) := by
  have hlen : ¬(R.length ≠ 10 ∧ R.length ≠ 22) := by
    rcases hR.addressType with ⟨h, -⟩ | ⟨h, -⟩ <;> omega
  have hfail : (makeErrorCode (.ofReplyCode (toReplyCode q))).isSucceeded = false := by
    rw [← Bool.not_eq_true, isSucceeded_ofReplyCode_iff]
    exact hR.refuses
  have hparse : parseReplyV5 R R.length
      = (default, makeErrorCode (.ofReplyCode (toReplyCode q))) := by
    simp [parseReplyV5, hR.version, hR.code, hfail]
  rw [decodeReply, if_neg (by rcases he with rfl | rfl <;> decide), if_neg hlen, hparse]

theorem Mode.verdict_refused (mode : Mode) {status : UInt8} (hs : status ≠ 0x00) {e : ErrorCode}
    (he : e = .ok ∨ e = .eof) :
    mode.policy.verdict [0x01, status] e = some (makeErrorCode .accessDenied) := by
  have h := Socks.verdict_refused hs (failed_or_eof he)
  cases mode with
  | sync => exact h.1
  | async => exact h.2

/-- The error code of a SOCKS5 reply code that refuses. -/
theorem makeErrorCode_ofReplyCode (q : UInt8) :
    makeErrorCode (.ofReplyCode (toReplyCode q))
      = ⟨.socks, if q.toNat ≤ 8 then q.toNat else Error.unassignedReplyCode.value⟩ :=
  congrArg (ErrorCode.mk .socks) (value_ofReplyCode q)

/-- The error code of a SOCKS4 reply code that refuses. -/
theorem makeErrorCode_ofReplyCodeV4 {q : UInt8} (hq : q ≠ 90) :
    makeErrorCode (.ofReplyCodeV4 (toReplyCodeV4 q))
      = ⟨.socks, if 91 ≤ q.toNat ∧ q.toNat ≤ 93 then q.toNat
          else Error.unassignedReplyCode.value⟩ := by
  have hne : q.toNat ≠ 90 := fun h => hq (UInt8.toNat_inj.mp h)
  refine congrArg (ErrorCode.mk .socks) ((value_ofReplyCodeV4 q).trans ?_)
  congr 1
  simp only [eq_iff_iff]
  omega

theorem handshakeV4_result_of_refusal {q : UInt8} {R : Bytes} (hlen : R.length = 8)
    (hver : byteAt R 0 = 0x00 ∨ byteAt R 0 = 0x04) (hcode : byteAt R 1 = q) (hq : q ≠ 90)
    {evs : List (ReadEvent ErrorCode)} (h : Closes .eof evs R)
    {ws : List (WriteEvent ErrorCode)} (hws : Script.WritesOk ws) (target : EndpointV4)
    (user : Bytes) :
    ((handshakeV4 target user).runOn scriptStream ⟨evs, ws⟩).result
      = (makeErrorCode (.ofReplyCodeV4 (toReplyCodeV4 q)), default) := by
  obtain ⟨e, ws₁, hw, he, -⟩ :=
    Script.write_ok ErrorCode.failed_eof (requestV4Bytes target user) evs hws
  rw [errorLike_failed] at he
  obtain ⟨e', rest, hr, he'⟩ := Script.read_closes ErrorCode.failed_eof
    (transferAll_asks R (by omega)) (Nat.le_of_eq hlen) (Or.inl hlen) ws₁ h
  have hfail : (makeErrorCode (.ofReplyCodeV4 (toReplyCodeV4 q))).isSucceeded = false := by
    rw [← Bool.not_eq_true, isSucceeded_ofReplyCodeV4_iff]
    exact hq
  have hparse : parseReplyV4 R = (default, makeErrorCode (.ofReplyCodeV4 (toReplyCodeV4 q))) := by
    rcases hver with hver | hver <;> simp [parseReplyV4, hver, hcode, hfail]
  rw [Client.runOn, handshakeV4, Prog.run_write hw, if_neg (by simp [he]),
    Prog.run_read hr]
  simp only [Prog.run, Run.after_result]
  rw [decodeReplyV4, if_neg (by rcases he' with rfl | rfl <;> decide), if_neg (not_not.mpr hlen),
    hparse]

/-- **A refusal is reported as the refusal.** When all that went before succeeded and the stream
ends behind a choice that was not offered, a user/pass reply that denies, or a CONNECT reply that
refuses, in whatever chunks and with the end of the file behind the last byte or along with it,
either SOCKS5 client completes with `bad_server_choice`, `access_denied`, or the error of the
reply code, and the default endpoint. Either SOCKS4 client does so with a reply that does not
grant. -/
theorem refusal_reported (mode : Mode) (memory : Vector UInt8 bufferSize) (h : opt.Fits)
    (ht : target.Fits) {ws : List (WriteEvent ErrorCode)} (hws : Script.WritesOk ws) :
    let run := fun reads => ((mode.connect memory target opt).runOn scriptStream ⟨reads, ws⟩).result
    (∀ m evs, m ∉ opt.methods → Closes .eof evs [0x05, m] →
      run evs = (makeErrorCode .badServerChoice, default)) ∧
    (∀ status choice evs, opt.isUserpass = true → Cuts choice [0x05, 0x02] → status ≠ 0x00 →
      Closes .eof evs [0x01, status] →
      run (choice ++ evs) = (makeErrorCode .accessDenied, default)) ∧
    (∀ q R auth evs, AuthEvents opt auth → RefusalReply q R → Closes .eof evs R →
      run (auth ++ evs)
        = (⟨.socks, if q.toNat ≤ 8 then q.toNat else Error.unassignedReplyCode.value⟩, default)) ∧
    ∀ targetV4 user q R evs, R.length = 8 → byteAt R 0 = 0x00 ∨ byteAt R 0 = 0x04 →
      byteAt R 1 = q → q ≠ 90 → Closes .eof evs R →
      ((connectV4 targetV4 user).runOn scriptStream ⟨evs, ws⟩).result
        = (⟨.socks, if 91 ≤ q.toNat ∧ q.toNat ≤ 93 then q.toNat
            else Error.unassignedReplyCode.value⟩, default) ∧
      ((asyncConnectV4 targetV4 user).runOn scriptStream ⟨evs, ws⟩).result
        = (⟨.socks, if 91 ≤ q.toNat ∧ q.toNat ≤ 93 then q.toNat
            else Error.unassignedReplyCode.value⟩, default) := by
  intro run
  refine ⟨?_, ?_, ?_, ?_⟩
  · intro m evs hm hcloses
    obtain ⟨e, ws₁, hw, he, -⟩ :=
      Script.write_ok ErrorCode.failed_eof (greetingBytes opt) evs hws
    obtain ⟨e', rest, hr, he'⟩ := read_two_closes hcloses ws₁
    have hchoice := choiceError_of_not_mem hm he'
    simp only [run, mode.connect_eq memory h ht, Client.runOn]
    rw [handshake_run_choice hw he hr, if_pos (by rw [hchoice]; rfl), hchoice]
    rfl
  · intro status choice evs hopt hcut hstatus hcloses
    obtain ⟨e, ws₁, hw, he, hws₁⟩ :=
      Script.write_ok ErrorCode.failed_eof (greetingBytes opt) (choice ++ evs) hws
    have hr := read_two hcut evs ws₁
    obtain ⟨u, ws₂, hw', hu, -⟩ :=
      Script.write_ok ErrorCode.failed_eof (userpassBytes opt) evs hws₁
    obtain ⟨u', rest, hr', hu'⟩ := read_two_closes hcloses ws₂
    simp only [run, mode.connect_eq memory h ht, Client.runOn]
    rw [handshake_run_userpass hopt hw he hr rfl hw' hu hr', mode.verdict_refused hstatus hu']
    rfl
  · intro q R auth evs hauth hR hcloses
    obtain ⟨ws', hrun⟩ := mode.run_authEvents memory h ht hauth evs hws
    obtain ⟨e, rest, hr, he⟩ := read_reply_closes hR.addressType hcloses ws'
    exact (hrun _ _ _ hr).1.trans
      ((decodeReply_of_refusal hR he).trans (by rw [makeErrorCode_ofReplyCode]))
  · intro targetV4 user q R evs hlen hver hcode hq hcloses
    rw [connectV4_eq_handshakeV4, asyncConnectV4_eq_handshakeV4,
      handshakeV4_result_of_refusal hlen hver hcode hq hcloses hws, makeErrorCode_ofReplyCodeV4 hq]
    exact ⟨rfl, rfl⟩

/-- A server that refuses with a code nobody has assigned, and closes with the last byte. -/
theorem refusal_reported_unassigned :
    (relayRun .async [⟨[0x05, 0x63, 0x00, 0x01], .ok, nofun⟩,
        ⟨[0, 0, 0, 0, 0, 0], .eof, nofun⟩]).result
      = (makeErrorCode .unassignedReplyCode, default) := by
  have hauth : AuthEvents .none [noAuthChoice] :=
    .noAuth ⟨by simp [noAuthChoice], rfl⟩
  have hcloses : Closes .eof [⟨[0x05, 0x63, 0x00, 0x01], .ok, nofun⟩,
      ⟨[0, 0, 0, 0, 0, 0], ErrorCode.eof, nofun⟩] [0x05, 0x63, 0x00, 0x01, 0, 0, 0, 0, 0, 0] :=
    .cons rfl (.eof rfl)
  exact (refusal_reported .async (Vector.replicate bufferSize 0) AuthOptions.fits_none
    (Target.fits_of_endpoint default) (fun _ hw => absurd hw List.not_mem_nil)).2.2.1 0x63 _ _ _
    hauth ⟨rfl, rfl, by decide, Or.inl ⟨rfl, rfl⟩⟩ hcloses

end Socks
