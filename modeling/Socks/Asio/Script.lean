import Socks.Asio.Stream

/-!
# Scripted streams

The concrete streams: a list of what the peer's bytes arrive as, and a list of what the writes
report. Each read event holds a chunk and the error reported with its last byte; a `read_some`
that asks for less than the chunk gets the front of it. After the last event the peer has closed
the stream and every read reports the end of file.

A *cutting* of a byte string is then a list of events without errors whose chunks concatenate to
it, and everything below is about what a composed read makes of an arbitrary cutting.

## Main definitions

* `Asio.Script`, `Asio.Script.stream` — scripts, and the stream that plays one
* `Asio.bytesOf` — the bytes of a list of events
* `Asio.Cuts`, `Asio.Closes` — the events are a cutting of the bytes; the same, after which or
  with the last of which the stream ends

## Main results

* `Asio.Script.read_cuts` — a cutting of exactly what the condition wants is read exactly
* `Asio.Script.read_cap` — a condition that always asks for the rest of the buffer fills it,
  wherever the chunks end
* `Asio.Script.read_boundary` — such a read ends at the end of a chunk, or with the buffer full
* `Asio.Script.read_closes` — the end of the stream does not hide the last bytes
* `Asio.Script.run_conserves` — what a program has not received is still there
-/

namespace Asio

variable {ε : Type} [ErrorLike ε]

/-- A chunk that arrives, and the error reported with its last byte. -/
structure ReadEvent (ε : Type) [ErrorLike ε] where
  bytes : Bytes
  ec : ε
  progress : bytes = [] → failed ec = true

/-- A chunk of at least one byte that arrives without an error. -/
def ReadEvent.chunk (b : UInt8) (bs : Bytes) : ReadEvent ε := ⟨b :: bs, ok, nofun⟩

/-- A write: how many bytes it takes at most, and the error it reports. -/
structure WriteEvent (ε : Type) [ErrorLike ε] where
  n : ℕ
  ec : ε
  progress : n = 0 → failed ec = true

/-- What is still to happen on a scripted stream. Writes past the end of the list succeed. -/
structure Script (ε : Type) [ErrorLike ε] where
  reads : List (ReadEvent ε)
  writes : List (WriteEvent ε)

/-- The bytes of a list of events. -/
def bytesOf (evs : List (ReadEvent ε)) : Bytes := (evs.map ReadEvent.bytes).flatten

@[simp] theorem bytesOf_nil : bytesOf ([] : List (ReadEvent ε)) = [] := rfl

@[simp] theorem bytesOf_cons (ev : ReadEvent ε) (evs : List (ReadEvent ε)) :
    bytesOf (ev :: evs) = ev.bytes ++ bytesOf evs := rfl

@[simp] theorem bytesOf_append (evs evs' : List (ReadEvent ε)) :
    bytesOf (evs ++ evs') = bytesOf evs ++ bytesOf evs' := by
  simp [bytesOf]

/-- The events are a cutting of `bs` into chunks that arrive without error. -/
structure Cuts (evs : List (ReadEvent ε)) (bs : Bytes) : Prop where
  ec_ok : ∀ ev ∈ evs, ev.ec = ok
  bytes : bytesOf evs = bs

/-- The events are a cutting of `bs` after which the stream ends: the end of file is reported
together with the last chunk, or by an event of its own, or by the script running out. -/
inductive Closes (eof : ε) : List (ReadEvent ε) → Bytes → Prop
  | nil : Closes eof [] []
  | eof {ev : ReadEvent ε} (h : ev.ec = eof) : Closes eof [ev] ev.bytes
  | cons {ev : ReadEvent ε} {evs : List (ReadEvent ε)} {bs : Bytes} (h : ev.ec = ok) :
      Closes eof evs bs → Closes eof (ev :: evs) (ev.bytes ++ bs)

theorem ReadEvent.bytes_ne_nil {ev : ReadEvent ε} (h : ev.ec = ok) : ev.bytes ≠ [] := by
  intro hb
  have := ev.progress hb
  rw [h, ErrorLike.failed_ok] at this
  exact Bool.false_ne_true this

namespace Script

/-- The stream that plays a script; `eof` is reported when the script has run out. -/
def stream (eof : ε) (heof : failed eof = true) : Stream ε (Script ε) where
  readSome m s :=
    match s.reads with
    | [] => (⟨[], eof, Nat.zero_le m, fun _ _ => heof⟩, s)
    | ev :: evs =>
      if h : ev.bytes.length ≤ m then
        (⟨ev.bytes, ev.ec, h, fun _ => ev.progress⟩, { s with reads := evs })
      else
        (⟨ev.bytes.take m, ok, List.length_take_le .., fun hm hb => by
            rw [List.take_eq_nil_iff] at hb
            rcases hb with rfl | hb
            · exact absurd hm (Nat.lt_irrefl 0)
            · simp [hb] at h⟩,
          { s with reads := ⟨ev.bytes.drop m, ev.ec, fun hb => by
            rw [List.drop_eq_nil_iff] at hb
            exact absurd hb h⟩ :: evs })
  writeSome bs s :=
    match s.writes with
    | [] =>
      (⟨bs.length, ok, Nat.le_refl _, fun hne h0 => absurd (List.length_eq_zero_iff.mp h0) hne⟩, s)
    | ev :: evs =>
      (⟨min ev.n bs.length, ev.ec, Nat.min_le_right .., fun hne h0 => ev.progress (by
          have := List.length_pos_iff.mpr hne
          omega)⟩,
        { s with writes := evs })

variable {eof : ε} (heof : failed eof = true)

/-- An event small enough is delivered whole. -/
theorem readSome_cons {m : ℕ} {ev : ReadEvent ε} {evs : List (ReadEvent ε)}
    {ws : List (WriteEvent ε)} (h : ev.bytes.length ≤ m) :
    (stream eof heof).readSome m ⟨ev :: evs, ws⟩
      = (⟨ev.bytes, ev.ec, h, fun _ => ev.progress⟩, ⟨evs, ws⟩) := by
  simp [stream, h]

/-- An event too large is cut at what was asked for. -/
theorem readSome_cut {m : ℕ} {ev : ReadEvent ε} {evs : List (ReadEvent ε)}
    {ws : List (WriteEvent ε)} (h : m < ev.bytes.length) :
    ∃ ev' : ReadEvent ε, ev'.bytes = ev.bytes.drop m ∧ ev'.ec = ev.ec ∧
      ((stream eof heof).readSome m ⟨ev :: evs, ws⟩).1.bytes = ev.bytes.take m ∧
      ((stream eof heof).readSome m ⟨ev :: evs, ws⟩).1.ec = ok ∧
      ((stream eof heof).readSome m ⟨ev :: evs, ws⟩).2 = ⟨ev' :: evs, ws⟩ := by
  refine ⟨⟨ev.bytes.drop m, ev.ec, fun hb => ?_⟩, rfl, rfl, ?_⟩
  · rw [List.drop_eq_nil_iff] at hb
    omega
  · simp [stream, Nat.not_le.mpr h]

/-- A composed read that wants the next event whole takes it whole. -/
theorem readLoop_cons {c : Cond ε} {cap : ℕ} {got : Bytes} {e : ε} {ev : ReadEvent ε}
    {evs : List (ReadEvent ε)} {ws : List (WriteEvent ε)} (hcap : got.length < cap)
    (hask : 0 < c.ask got e) (hlen : ev.bytes.length ≤ min (c.ask got e) (cap - got.length)) :
    (stream eof heof).readLoop c cap got e ⟨ev :: evs, ws⟩
      = (stream eof heof).readLoop c cap (got ++ ev.bytes) ev.ec ⟨evs, ws⟩ := by
  rw [Stream.readLoop_of_ask _ hcap hask, readSome_cons heof hlen]

/-- A composed read that wants the rest of the buffer, from an event that holds more than that,
ends there, and the rest of the event stays. -/
theorem readLoop_cut {c : Cond ε} {cap : ℕ} {got : Bytes} {e : ε} {ev : ReadEvent ε}
    {evs : List (ReadEvent ε)} {ws : List (WriteEvent ε)} (hcap : got.length < cap)
    (hask : cap - got.length ≤ c.ask got e) (hlen : cap - got.length < ev.bytes.length) :
    ∃ ev' : ReadEvent ε, ev'.bytes = ev.bytes.drop (cap - got.length) ∧ ev'.ec = ev.ec ∧
      (stream eof heof).readLoop c cap got e ⟨ev :: evs, ws⟩
        = ⟨got ++ ev.bytes.take (cap - got.length), ok, ⟨ev' :: evs, ws⟩⟩ := by
  obtain ⟨ev', hbytes, hec, hread, hreadec, hrest⟩ :=
    readSome_cut heof hlen
  refine ⟨ev', hbytes, hec, ?_⟩
  rw [Stream.readLoop_of_ask _ hcap (by omega), Nat.min_eq_right hask, hread, hreadec, hrest]
  refine Stream.readLoop_of_stop _ (Or.inl ?_)
  rw [List.length_append, List.length_take]
  omega

/-- **A cutting of exactly what the condition wants is read exactly.** From where `got` has been
received, the condition asks for enough after every proper prefix that is left to come, and
stops, or the buffer is full, at the end. -/
theorem readLoop_cuts_from {c : Cond ε} {cap : ℕ} {total : Bytes} (hcap : total.length ≤ cap)
    (hstop : total.length = cap ∨ c.ask total ok = 0) (rest : List (ReadEvent ε))
    (ws : List (WriteEvent ε)) :
    ∀ {evs : List (ReadEvent ε)} {got bs : Bytes},
      (∀ x, got <+: x → x <+: total → x.length < total.length →
        total.length - x.length ≤ c.ask x ok) →
      Cuts evs bs → got ++ bs = total →
      (stream eof heof).readLoop c cap got ok ⟨evs ++ rest, ws⟩ = ⟨total, ok, ⟨rest, ws⟩⟩ := by
  intro evs
  induction evs with
  | nil =>
    intro got bs _ hcut htot
    obtain rfl : bs = [] := hcut.bytes.symm
    obtain rfl : got = total := by simpa using htot
    exact Stream.readLoop_of_stop _ (by omega)
  | cons ev evs ih =>
    intro got bs hask hcut htot
    have hok : ev.ec = ok := hcut.ec_ok ev (List.mem_cons_self ..)
    have hpos := List.length_pos_iff.mpr (ReadEvent.bytes_ne_nil hok)
    have hsplit : got ++ (ev.bytes ++ bytesOf evs) = total := by
      rw [← htot, ← hcut.bytes, bytesOf_cons]
    have hlen : got.length + (ev.bytes.length + (bytesOf evs).length) = total.length := by
      rw [← hsplit]; simp
    have hbound := hask got List.prefix_rfl ⟨_, htot⟩ (by omega)
    rw [List.cons_append, readLoop_cons heof (by omega) (by omega) (by omega), hok]
    exact ih (fun x hx => hask x ((List.prefix_append ..).trans hx))
      ⟨fun x hx => hcut.ec_ok x (List.mem_cons_of_mem _ hx), rfl⟩
      (by rw [List.append_assoc]; exact hsplit)

theorem readLoop_cuts {c : Cond ε} {cap : ℕ} {total : Bytes}
    (hask : ∀ x, x <+: total → x.length < total.length →
      total.length - x.length ≤ c.ask x ok)
    (hcap : total.length ≤ cap) (hstop : total.length = cap ∨ c.ask total ok = 0)
    (rest : List (ReadEvent ε)) (ws : List (WriteEvent ε)) {evs : List (ReadEvent ε)}
    {got bs : Bytes} (hcut : Cuts evs bs) (htot : got ++ bs = total) :
    (stream eof heof).readLoop c cap got ok ⟨evs ++ rest, ws⟩ = ⟨total, ok, ⟨rest, ws⟩⟩ :=
  readLoop_cuts_from heof hcap hstop rest ws (fun x _ => hask x) hcut htot

theorem read_cuts {c : Cond ε} {cap : ℕ} {total : Bytes}
    (hask : ∀ x, x <+: total → x.length < total.length → total.length - x.length ≤ c.ask x ok)
    (hcap : total.length ≤ cap) (hstop : total.length = cap ∨ c.ask total ok = 0)
    {evs : List (ReadEvent ε)} (hcut : Cuts evs total) (rest : List (ReadEvent ε))
    (ws : List (WriteEvent ε)) :
    (stream eof heof).read c cap ⟨evs ++ rest, ws⟩ = ⟨total, ok, ⟨rest, ws⟩⟩ :=
  readLoop_cuts heof hask hcap hstop rest ws hcut (List.nil_append total)

/-- One chunk fills the buffer. -/
theorem read_chunk (b : UInt8) (bs : Bytes) (hlen : (b :: bs).length ≤ defaultMaxTransferSize)
    (rest : List (ReadEvent ε)) (ws : List (WriteEvent ε)) :
    (stream eof heof).read transferAll (b :: bs).length ⟨.chunk b bs :: rest, ws⟩
      = ⟨b :: bs, ok, ⟨rest, ws⟩⟩ := by
  have hcut : Cuts [(.chunk b bs : ReadEvent ε)] (b :: bs) :=
    ⟨by simp [ReadEvent.chunk], by simp [ReadEvent.chunk]⟩
  refine read_cuts heof (fun x _ _ => ?_) (Nat.le_refl _) (Or.inl rfl) hcut rest ws
  rw [transferAll_ask_ok]
  omega

/-- **The buffer is filled wherever the chunks end**, and what does not fit stays unread, when
the condition always asks for the rest of the buffer. -/
theorem readLoop_cap {c : Cond ε} {cap : ℕ} {total : Bytes}
    (hask : ∀ x, x <+: total → x.length < cap → cap - x.length ≤ c.ask x ok)
    (hcap : cap ≤ total.length) (ws : List (WriteEvent ε)) :
    ∀ {evs : List (ReadEvent ε)} {got bs : Bytes}, Cuts evs bs → got ++ bs = total →
      got.length ≤ cap →
      ∃ evs', (stream eof heof).readLoop c cap got ok ⟨evs, ws⟩
          = ⟨total.take cap, ok, ⟨evs', ws⟩⟩ ∧ Cuts evs' (total.drop cap) := by
  intro evs
  induction evs with
  | nil =>
    intro got bs hcut htot hgot
    obtain rfl : bs = [] := hcut.bytes.symm
    obtain rfl : got = total := by simpa using htot
    obtain rfl : got.length = cap := Nat.le_antisymm hgot hcap
    refine ⟨[], ?_, by simpa using hcut⟩
    rw [Stream.readLoop_of_stop _ (Or.inl (Nat.le_refl _)), List.take_length]
  | cons ev evs ih =>
    intro got bs hcut htot hgot
    have hok : ev.ec = ok := hcut.ec_ok ev (List.mem_cons_self ..)
    have hcut' : Cuts evs (bytesOf evs) :=
      ⟨fun x hx => hcut.ec_ok x (List.mem_cons_of_mem _ hx), rfl⟩
    have hsplit : got ++ (ev.bytes ++ bytesOf evs) = total := by
      rw [← htot, ← hcut.bytes, bytesOf_cons]
    rcases Nat.lt_or_ge got.length cap with hlt | hge
    · have hbound := hask got ⟨_, htot⟩ hlt
      rcases Nat.lt_or_ge (cap - got.length) ev.bytes.length with hbig | hfit
      · obtain ⟨ev', hbytes, hec, hdrop⟩ := readLoop_cut heof hlt hbound hbig
        have htake : total.take cap = got ++ ev.bytes.take (cap - got.length) := by
          rw [← hsplit, List.take_append, List.take_of_length_le hgot,
            List.take_append_of_le_length (by omega)]
        refine ⟨ev' :: evs, by rw [hdrop, htake], ⟨?_, ?_⟩⟩
        · rintro x (_ | ⟨_, hx⟩)
          · rw [hec, hok]
          · exact hcut.ec_ok x (List.mem_cons_of_mem _ hx)
        · rw [bytesOf_cons, hbytes, ← hsplit, List.drop_append, List.drop_of_length_le hgot,
            List.nil_append, List.drop_append_of_le_length (by omega)]
      · rw [readLoop_cons heof hlt (by omega) (by omega), hok]
        exact ih hcut' (by rw [List.append_assoc]; exact hsplit)
          (by rw [List.length_append]; omega)
    · have hfull : got.length = cap := Nat.le_antisymm hgot hge
      refine ⟨ev :: evs, ?_, ⟨hcut.ec_ok, ?_⟩⟩
      · rw [Stream.readLoop_of_stop _ (Or.inl hge), ← hsplit, ← hfull, List.take_left]
      · rw [← hsplit, ← hfull, List.drop_left, bytesOf_cons]

theorem read_cap {c : Cond ε} {cap : ℕ} {total : Bytes}
    (hask : ∀ x, x <+: total → x.length < cap → cap - x.length ≤ c.ask x ok)
    (hcap : cap ≤ total.length) (ws : List (WriteEvent ε)) {evs : List (ReadEvent ε)}
    (hcut : Cuts evs total) :
    ∃ evs', (stream eof heof).read c cap ⟨evs, ws⟩ = ⟨total.take cap, ok, ⟨evs', ws⟩⟩ ∧
      Cuts evs' (total.drop cap) :=
  readLoop_cap heof hask hcap ws hcut (List.nil_append total) (Nat.zero_le _)

/-- **Where a read can end.** A condition that either stops or asks for the rest of the buffer
ends the read with the buffer full or at the end of an event. -/
theorem readLoop_boundary {c : Cond ε} {cap : ℕ}
    (hask : ∀ x e, c.ask x e = 0 ∨ cap - x.length ≤ c.ask x e) (ws : List (WriteEvent ε)) :
    ∀ (evs : List (ReadEvent ε)) (got : Bytes) (e : ε),
      cap ≤ ((stream eof heof).readLoop c cap got e ⟨evs, ws⟩).got.length ∨
      ∃ pre, pre <+: evs ∧
        ((stream eof heof).readLoop c cap got e ⟨evs, ws⟩).got = got ++ bytesOf pre := by
  intro evs
  induction evs with
  | nil =>
    intro got e
    refine Or.inr ⟨[], List.nil_prefix, ?_⟩
    by_cases hgo : got.length < cap ∧ 0 < c.ask got e
    · rw [Stream.readLoop_of_ask _ hgo.1 hgo.2]
      simp only [stream]
      rw [Stream.readLoop_of_stop _ (Or.inr (c.ask_of_failed _ _ heof))]
      simp
    · rw [Stream.readLoop_of_stop _ (by omega)]
      simp
  | cons ev evs ih =>
    intro got e
    by_cases hgo : got.length < cap ∧ 0 < c.ask got e
    · have hbound : cap - got.length ≤ c.ask got e := (hask got e).resolve_left (by omega)
      rcases Nat.lt_or_ge (cap - got.length) ev.bytes.length with hbig | hfit
      · obtain ⟨ev', -, -, hdone⟩ := readLoop_cut heof hgo.1 hbound hbig
        rw [hdone, List.length_append, List.length_take]
        exact Or.inl (by omega)
      · rw [readLoop_cons heof hgo.1 hgo.2 (by omega)]
        refine (ih (got ++ ev.bytes) ev.ec).imp_right ?_
        rintro ⟨pre, hpre, hgot⟩
        exact ⟨ev :: pre, List.cons_prefix_cons.mpr ⟨rfl, hpre⟩, by simp [hgot]⟩
    · rw [Stream.readLoop_of_stop _ (by omega)]
      exact Or.inr ⟨[], List.nil_prefix, by simp⟩

theorem read_boundary {c : Cond ε} {cap : ℕ}
    (hask : ∀ x e, c.ask x e = 0 ∨ cap - x.length ≤ c.ask x e) (ws : List (WriteEvent ε))
    (evs : List (ReadEvent ε)) :
    cap ≤ ((stream eof heof).read c cap ⟨evs, ws⟩).got.length ∨
      ∃ pre, pre <+: evs ∧ ((stream eof heof).read c cap ⟨evs, ws⟩).got = bytesOf pre :=
  (readLoop_boundary heof hask ws evs [] ok).imp_right fun ⟨pre, hpre, h⟩ =>
    ⟨pre, hpre, h.trans (List.nil_append _)⟩

/-- **The end of the stream does not hide the last bytes.** If the stream ends with the bytes the
condition wants, the read delivers them all, with or without the end of file. -/
theorem readLoop_closes {c : Cond ε} {cap : ℕ} {total : Bytes}
    (hask : ∀ x, x <+: total → x.length < total.length → total.length - x.length ≤ c.ask x ok)
    (hcap : total.length ≤ cap) (hstop : total.length = cap ∨ c.ask total ok = 0)
    (ws : List (WriteEvent ε)) {evs : List (ReadEvent ε)} {bs : Bytes} (h : Closes eof evs bs) :
    ∀ got : Bytes, got ++ bs = total →
      ∃ e rest, (stream eof heof).readLoop c cap got ok ⟨evs, ws⟩ = ⟨total, e, rest⟩ ∧
        (e = ok ∨ e = eof) := by
  induction h with
  | nil =>
    rintro got htot
    obtain rfl : got = total := by simpa using htot
    exact ⟨ok, _, Stream.readLoop_of_stop _ (by omega), Or.inl rfl⟩
  | @eof ev hev =>
    rintro got rfl
    by_cases hnil : ev.bytes = []
    · simp only [hnil, List.append_nil] at *
      exact ⟨ok, _, Stream.readLoop_of_stop _ (by omega), Or.inl rfl⟩
    · have hpos := List.length_pos_iff.mpr hnil
      rw [List.length_append] at hcap hask
      have hbound := hask got (List.prefix_append ..) (by omega)
      rw [readLoop_cons heof (by omega) (by omega) (by omega), hev]
      exact ⟨eof, _, Stream.readLoop_of_stop _ (Or.inr (c.ask_of_failed _ _ heof)), Or.inr rfl⟩
  | @cons ev evs bs hev hcl ih =>
    rintro got htot
    have hpos := List.length_pos_iff.mpr (ReadEvent.bytes_ne_nil hev)
    have hlen : got.length + (ev.bytes.length + bs.length) = total.length := by
      rw [← htot]; simp
    have hbound := hask got ⟨_, htot⟩ (by omega)
    rw [readLoop_cons heof (by omega) (by omega) (by omega), hev]
    exact ih (got ++ ev.bytes) (by rw [List.append_assoc]; exact htot)

theorem read_closes {c : Cond ε} {cap : ℕ} {total : Bytes}
    (hask : ∀ x, x <+: total → x.length < total.length → total.length - x.length ≤ c.ask x ok)
    (hcap : total.length ≤ cap) (hstop : total.length = cap ∨ c.ask total ok = 0)
    (ws : List (WriteEvent ε)) {evs : List (ReadEvent ε)} (h : Closes eof evs total) :
    ∃ e rest, (stream eof heof).read c cap ⟨evs, ws⟩ = ⟨total, e, rest⟩ ∧ (e = ok ∨ e = eof) :=
  readLoop_closes heof hask hcap hstop ws h [] (List.nil_append total)

/-! ### Writes -/

/-- Every write of the script succeeds. -/
def WritesOk (ws : List (WriteEvent ε)) : Prop := ∀ w ∈ ws, failed w.ec = false

/-- A script whose writes succeed takes the whole message, in however many pieces, and its reads
are untouched. -/
theorem writeLoop_ok (bs : Bytes) (rs : List (ReadEvent ε)) :
    ∀ (n : ℕ) (e : ε) (s : Script ε), s.reads = rs → WritesOk s.writes → failed e = false →
      failed ((stream eof heof).writeLoop bs n e s).ec = false ∧
      ((stream eof heof).writeLoop bs n e s).rest.reads = rs ∧
      WritesOk ((stream eof heof).writeLoop bs n e s).rest.writes := by
  intro n e s
  fun_induction (stream eof heof).writeLoop bs n e s with
  | case1 n e s hgo r ih =>
    intro hrs hws he
    obtain ⟨reads, writes⟩ := s
    cases writes with
    | nil => exact ih hrs hws (ErrorLike.failed_ok)
    | cons w writes =>
      exact ih hrs (fun x hx => hws x (List.mem_cons_of_mem _ hx)) (hws w (List.mem_cons_self ..))
  | case2 n e s hstop => exact fun hrs hws he => ⟨he, hrs, hws⟩

theorem write_ok (bs : Bytes) (rs : List (ReadEvent ε)) {ws : List (WriteEvent ε)}
    (hws : WritesOk ws) :
    ∃ e ws', (stream eof heof).write bs ⟨rs, ws⟩ = ⟨bs.length, e, ⟨rs, ws'⟩⟩ ∧
      failed e = false ∧ WritesOk ws' := by
  have hdone : failed ((stream eof heof).write bs ⟨rs, ws⟩).ec = false ∧
      ((stream eof heof).write bs ⟨rs, ws⟩).rest.reads = rs ∧
      WritesOk ((stream eof heof).write bs ⟨rs, ws⟩).rest.writes :=
    writeLoop_ok heof bs rs 0 ok ⟨rs, ws⟩ rfl hws ErrorLike.failed_ok
  have hn := Stream.write_complete (stream eof heof) bs ⟨rs, ws⟩ hdone.1
  generalize (stream eof heof).write bs ⟨rs, ws⟩ = w at hdone hn
  obtain ⟨n, e, rs', ws'⟩ := w
  obtain ⟨he, rfl, hws'⟩ := hdone
  exact ⟨e, ws', by rw [← hn], he, hws'⟩

/-- A script without writes takes the whole message, and reports nothing. -/
theorem writeLoop_nil (bs : Bytes) (rs : List (ReadEvent ε)) :
    ∀ (n : ℕ) (e : ε) (s : Script ε), s = ⟨rs, []⟩ → e = ok →
      ((stream eof heof).writeLoop bs n e s).ec = ok ∧
      ((stream eof heof).writeLoop bs n e s).rest = ⟨rs, []⟩ := by
  intro n e s
  fun_induction (stream eof heof).writeLoop bs n e s with
  | case1 n e s hgo r ih =>
    rintro rfl -
    exact ih rfl rfl
  | case2 n e s hstop =>
    rintro rfl rfl
    exact ⟨rfl, rfl⟩

theorem write_nil (bs : Bytes) (rs : List (ReadEvent ε)) :
    (stream eof heof).write bs ⟨rs, []⟩ = ⟨bs.length, ok, ⟨rs, []⟩⟩ := by
  obtain ⟨hec, hrest⟩ : ((stream eof heof).write bs ⟨rs, []⟩).ec = ok ∧
      ((stream eof heof).write bs ⟨rs, []⟩).rest = ⟨rs, []⟩ :=
    writeLoop_nil heof bs rs 0 ok ⟨rs, []⟩ rfl rfl
  have hn := Stream.write_complete (stream eof heof) bs ⟨rs, []⟩
    (hec ▸ ErrorLike.failed_ok)
  generalize (stream eof heof).write bs ⟨rs, []⟩ = w at hec hrest hn
  obtain ⟨n, e, rest⟩ := w
  rw [← hn, ← hec, ← hrest]

/-! ### Conservation -/

theorem readSome_conserves (m : ℕ) (s : Script ε) :
    bytesOf s.reads = ((stream eof heof).readSome m s).1.bytes ++
      bytesOf ((stream eof heof).readSome m s).2.reads := by
  obtain ⟨reads, writes⟩ := s
  cases reads with
  | nil => rfl
  | cons ev evs =>
    by_cases h : ev.bytes.length ≤ m
    · rw [readSome_cons heof h, bytesOf_cons]
    · obtain ⟨ev', hbytes, -, hread, -, hrest⟩ := readSome_cut heof (Nat.lt_of_not_le h)
      rw [hread, hrest, bytesOf_cons, bytesOf_cons, hbytes, ← List.append_assoc,
        List.take_append_drop]

theorem readLoop_conserves (c : Cond ε) (cap : ℕ) (got : Bytes) (e : ε) (s : Script ε) :
    got ++ bytesOf s.reads = ((stream eof heof).readLoop c cap got e s).got ++
      bytesOf ((stream eof heof).readLoop c cap got e s).rest.reads := by
  fun_induction (stream eof heof).readLoop c cap got e s with
  | case1 got e s hgo r ih =>
    rw [← ih, readSome_conserves heof _ s, List.append_assoc]
  | case2 got e s hstop => rfl

theorem writeLoop_reads (bs : Bytes) (n : ℕ) (e : ε) (s : Script ε) :
    ((stream eof heof).writeLoop bs n e s).rest.reads = s.reads := by
  fun_induction (stream eof heof).writeLoop bs n e s with
  | case1 n e s hgo r ih =>
    rw [ih]
    obtain ⟨reads, writes⟩ := s
    cases writes <;> rfl
  | case2 n e s hstop => rfl

/-- **No byte is lost or made up.** What the script held is what the program received, in order,
and then what the script still holds. -/
theorem run_conserves {Q A α : Type} {ans : Q → Script ε → A × Script ε}
    (hans : ∀ q s, (ans q s).2.reads = s.reads) (p : Prog ε Q A α) :
    ∀ s : Script ε, bytesOf s.reads = (received (p.run (stream eof heof) ans s).trace).flatten ++
      bytesOf (p.run (stream eof heof) ans s).rest.reads := by
  induction p with
  | pure a => exact fun s => rfl
  | write bs k ih =>
    intro s
    rw [Prog.run, Run.after_trace, Run.after_rest, received_write, ← ih]
    exact congrArg bytesOf (writeLoop_reads heof bs 0 ok s).symm
  | read c cap k ih =>
    intro s
    rw [Prog.run, Run.after_trace, Run.after_rest, received_read, List.flatten_cons,
      List.append_assoc, ← ih]
    exact (List.nil_append _).symm.trans (readLoop_conserves heof c cap [] ok s)
  | call q k ih =>
    intro s
    rw [Prog.run, Run.after_trace, Run.after_rest, received_call, ← ih, hans]

end Script

end Asio
