import Socks.Asio.Machine
import Socks.Asio.Prog

/-!
# Pumps

A pump carries things from one place to another: it takes a chunk, gives what it can of it, and
takes the next one. What it has not given of a chunk by then is lost.

How much it takes and gives at a time is not the pump's to choose. It is the schedule of a run,
and whether a run delivers what it should is a question about its schedule: what is given stays a
prefix of what has been taken, whatever that is, exactly when nothing is given after something was
lost.

## Main definitions

* `Asio.Pump`, `Asio.PumpEvent`, `Asio.pump` — pumps
* `Asio.Pump.Intact` — what it has given is a prefix of what it has taken
* `Asio.Pump.Level` — a step gives nothing, or nothing has been lost before
* `Asio.PumpEvent.sized` — an event without the things themselves

## Main results

* `Asio.Pump.intact_step` — nothing given after something was lost, nothing out of place
* `Asio.Pump.exists_not_intact` — something given after something was lost, with the same schedule
  something out of place
* `Asio.Pump.pumps_intact_iff` — both, for two pumps whose steps come in any order
-/

namespace Asio

variable {ε α β : Type}

/-- What happens to a pump: a chunk is taken, or so many things of a chunk are given. -/
inductive PumpEvent (ε α : Type)
  | took (chunk : List α) (ec : ε)
  | gave (n : ℕ) (ec : ε)

/-- What a pump is about to do. -/
inductive PumpPhase (α : Type)
  | taking
  | giving (chunk : List α)
  | done

/-- A pump: what it is about to do, what it has taken and what it has given. -/
structure Pump (α : Type) where
  phase : PumpPhase α := .taking
  taken : List α := []
  given : List α := []

variable [ErrorLike ε]

/-- The pump with chunks of at most `cap` things. It takes and gives at least one thing at a time,
or fails, and then it is done. -/
def pump (ε α : Type) [ErrorLike ε] (cap : ℕ) : Machine (Pump α) (PumpEvent ε α) where
  step
    | ⟨.taking, taken, given⟩, .took chunk ec =>
      if chunk.length ≤ cap ∧ (chunk.length = 0 → failed ec = true) then
        some ⟨if failed ec then .done else .giving chunk, taken ++ chunk, given⟩
      else none
    | ⟨.giving chunk, taken, given⟩, .gave n ec =>
      if n ≤ chunk.length ∧ (n = 0 → failed ec = true) then
        some ⟨if failed ec then .done else .taking, taken, given ++ chunk.take n⟩
      else none
    | _, _ => none

namespace Pump

variable {cap : ℕ} {p q : Pump α} {e : PumpEvent ε α} {evs : List (PumpEvent ε α)}

/-- What it has given is a prefix of what it has taken. -/
def Intact (p : Pump α) : Prop := p.given <+: p.taken

/-- The event gives nothing, or all that has been taken before the present chunk has been given. -/
def Level (p : Pump α) (e : PumpEvent ε α) : Prop :=
  ∀ chunk n ec, p.phase = .giving chunk → e = .gave n ec → 0 < n →
    p.taken.length = p.given.length + chunk.length

/-! ### Steps -/

theorem step_took {taken given chunk : List α} {ec : ε} (hle : chunk.length ≤ cap)
    (hpos : chunk.length = 0 → failed ec = true) :
    (pump ε α cap).step ⟨.taking, taken, given⟩ (.took chunk ec)
      = some ⟨if failed ec then .done else .giving chunk, taken ++ chunk, given⟩ :=
  if_pos ⟨hle, hpos⟩

theorem step_gave {taken given chunk : List α} {n : ℕ} {ec : ε} (hle : n ≤ chunk.length)
    (hpos : n = 0 → failed ec = true) :
    (pump ε α cap).step ⟨.giving chunk, taken, given⟩ (.gave n ec)
      = some ⟨if failed ec then .done else .taking, taken, given ++ chunk.take n⟩ :=
  if_pos ⟨hle, hpos⟩

/-- A step is one of these. -/
theorem step_cases (h : (pump ε α cap).step p e = some q) :
    (∃ chunk ec, e = .took chunk ec ∧ p.phase = .taking ∧
      (chunk.length ≤ cap ∧ (chunk.length = 0 → failed ec = true)) ∧
      q = ⟨if failed ec then .done else .giving chunk, p.taken ++ chunk, p.given⟩) ∨
    (∃ chunk n ec, e = .gave n ec ∧ p.phase = .giving chunk ∧
      (n ≤ chunk.length ∧ (n = 0 → failed ec = true)) ∧
      q = ⟨if failed ec then .done else .taking, p.taken, p.given ++ chunk.take n⟩) := by
  obtain ⟨phase, taken, given⟩ := p
  cases phase with
  | taking =>
    cases e with
    | took chunk ec =>
      obtain ⟨hgo, hq⟩ := Option.ite_none_right_eq_some.mp h
      exact Or.inl ⟨chunk, ec, rfl, rfl, hgo, (Option.some.inj hq).symm⟩
    | gave n ec => cases h
  | giving chunk =>
    cases e with
    | took chunk ec => cases h
    | gave n ec =>
      obtain ⟨hgo, hq⟩ := Option.ite_none_right_eq_some.mp h
      exact Or.inr ⟨chunk, n, ec, rfl, rfl, hgo, (Option.some.inj hq).symm⟩
  | done => cases e <;> cases h

/-- A chunk is what was taken last, and what has been given came before it. -/
def Fed (p : Pump α) : Prop :=
  p.given.length ≤ p.taken.length ∧ ∀ chunk, p.phase = .giving chunk →
    ∃ taken, p.taken = taken ++ chunk ∧ p.given.length ≤ taken.length

theorem fed_init : Fed ({} : Pump α) := ⟨Nat.le_refl _, nofun⟩

theorem fed_step (hp : p.Fed) (h : (pump ε α cap).step p e = some q) : q.Fed := by
  obtain ⟨chunk, ec, -, hphase, -, rfl⟩ | ⟨chunk, n, ec, -, hphase, hn, rfl⟩ := step_cases h
  · refine ⟨?_, fun chunk' hchunk => ?_⟩
    · rw [List.length_append]
      exact Nat.le_add_right_of_le hp.1
    · dsimp only at hchunk
      split_ifs at hchunk
      obtain rfl := PumpPhase.giving.inj hchunk
      exact ⟨p.taken, rfl, hp.1⟩
  · obtain ⟨taken, htaken, hle⟩ := hp.2 chunk hphase
    refine ⟨?_, fun chunk' hchunk => ?_⟩
    · dsimp only
      rw [htaken, List.length_append, List.length_append, List.length_take]
      omega
    · dsimp only at hchunk
      split_ifs at hchunk

theorem fed_run (h : (pump ε α cap).run {} evs = some p) : p.Fed :=
  Machine.invariant (fun _ _ _ hr hstep => fed_step hr hstep) fed_init h

/-- **A level step leaves nothing out of place.** -/
theorem intact_step (hfed : p.Fed) (hintact : p.Intact) (hlevel : p.Level e)
    (hstep : (pump ε α cap).step p e = some q) : q.Intact := by
  obtain ⟨chunk, ec, -, -, -, rfl⟩ | ⟨chunk, n, ec, he, hphase, -, rfl⟩ := step_cases hstep
  · exact hintact.trans (List.prefix_append _ _)
  · obtain ⟨taken, htaken, hle⟩ := hfed.2 chunk hphase
    rcases Nat.eq_zero_or_pos n with rfl | hpos
    · rw [Intact, List.take_zero, List.append_nil]
      exact hintact
    · -- all before the chunk has been given, so that the chunk is what comes next
      have hlen := hlevel chunk n ec hphase he hpos
      rw [htaken, List.length_append, Nat.add_right_cancel_iff] at hlen
      have hgiven : p.given = taken := by
        rw [Intact, htaken] at hintact
        exact (List.prefix_of_prefix_length_le hintact (List.prefix_append _ _) hle).eq_of_length
          hlen.symm
      rw [Intact, htaken, hgiven]
      exact (List.prefix_append_right_inj _).mpr (List.take_prefix _ _)

/-- What a level run preserves. -/
theorem fed_intact_step (hp : p.Fed ∧ p.Intact) (hlevel : p.Level e)
    (hstep : (pump ε α cap).step p e = some q) : q.Fed ∧ q.Intact :=
  ⟨fed_step hp.1 hstep, intact_step hp.1 hp.2 hlevel hstep⟩

theorem fed_intact_init : Fed ({} : Pump α) ∧ Intact ({} : Pump α) := ⟨fed_init, List.prefix_rfl⟩

end Pump

/-! ### Schedules -/

/-- The event with other things. -/
def PumpEvent.map (f : α → β) : PumpEvent ε α → PumpEvent ε β
  | .took chunk ec => .took (chunk.map f) ec
  | .gave n ec => .gave n ec

/-- The event without the things: how many of them. -/
def PumpEvent.sized (e : PumpEvent ε α) : PumpEvent ε Unit := e.map fun _ => ()

omit [ErrorLike ε] in
@[simp] theorem PumpEvent.sized_map (f : α → β) (e : PumpEvent ε α) :
    (e.map f).sized = e.sized := by
  cases e with
  | took chunk ec => exact congrArg (PumpEvent.took · ec) List.map_map
  | gave n ec => rfl

namespace Pump

variable {cap : ℕ} {p q : Pump α} {e : PumpEvent ε α} {evs : List (PumpEvent ε α)}

/-- The pump with other things. -/
def map (f : α → β) (p : Pump α) : Pump β :=
  ⟨match p.phase with
    | .taking => .taking
    | .giving chunk => .giving (chunk.map f)
    | .done => .done, p.taken.map f, p.given.map f⟩

/-- A pump does not look at what it carries. -/
theorem step_map (f : α → β) (p : Pump α) (e : PumpEvent ε α) :
    ((pump ε α cap).step p e).map (map f) = (pump ε β cap).step (p.map f) (e.map f) := by
  obtain ⟨phase, taken, given⟩ := p
  cases phase with
  | taking =>
    cases e with
    | took chunk ec =>
      simp only [pump, map, PumpEvent.map, List.length_map]
      split_ifs <;> simp [map]
    | gave n ec => rfl
  | giving chunk =>
    cases e with
    | took chunk ec => rfl
    | gave n ec =>
      simp only [pump, map, PumpEvent.map, List.length_map]
      split_ifs <;> simp [map]
  | done => cases e <;> rfl

theorem run_map (f : α → β) (evs : List (PumpEvent ε α)) :
    ((pump ε α cap).run p evs).map (map f) = (pump ε β cap).run (p.map f) (evs.map (·.map f)) :=
  Machine.run_map (map f) (·.map f) (P := fun _ => True) (fun p e _ => step_map f p e)
    (fun _ _ _ _ _ => trivial) trivial

omit [ErrorLike ε] in
/-- Whether a step is level is a question about the schedule. -/
theorem level_map_iff (f : α → β) (p : Pump α) (e : PumpEvent ε α) :
    p.Level e ↔ (p.map f).Level (e.map f) := by
  obtain ⟨phase, taken, given⟩ := p
  cases phase with
  | taking => exact iff_of_true nofun nofun
  | done => exact iff_of_true nofun nofun
  | giving chunk =>
    cases e with
    | took chunk ec => exact iff_of_true nofun nofun
    | gave n ec => simp [Level, map, PumpEvent.map]

/-- With something lost, what comes next is out of place, if it is not the same. -/
theorem not_prefix_replicate {a b : α} (hab : a ≠ b) {given taken n : ℕ} (hlost : given < taken)
    (hn : 0 < n) (l : List α) :
    ¬List.replicate given a ++ List.replicate n b <+: List.replicate taken a ++ l := by
  obtain ⟨k, rfl⟩ := Nat.exists_eq_add_of_lt hlost
  obtain ⟨n, rfl⟩ := Nat.exists_eq_succ_of_ne_zero (Nat.ne_of_gt hn)
  rw [Nat.add_assoc, ← List.replicate_append_replicate, List.append_assoc,
    List.prefix_append_right_inj, List.replicate_succ, List.replicate_succ, List.cons_append,
    List.cons_prefix_cons]
  exact fun h => hab h.1.symm

/-- A pump that is about to give has just taken the chunk. -/
theorem exists_took {chunk : List α} (hrun : (pump ε α cap).run {} evs = some p)
    (hphase : p.phase = .giving chunk) :
    ∃ pre ec r, evs = pre ++ [.took chunk ec] ∧ (pump ε α cap).run {} pre = some r ∧
      r.phase = .taking ∧ (chunk.length ≤ cap ∧ (chunk.length = 0 → failed ec = true)) ∧
      failed ec = false ∧ p.taken = r.taken ++ chunk ∧ p.given = r.given := by
  induction evs using List.reverseRecOn with
  | nil =>
    obtain rfl := Option.some.inj hrun
    cases hphase
  | append_singleton pre e _ =>
    obtain ⟨r, hr, hp⟩ := Machine.run_concat_eq_some_iff.mp hrun
    obtain ⟨chunk', ec, rfl, hphase', hgo, rfl⟩ | ⟨chunk', n, ec, -, -, -, rfl⟩ := step_cases hp
    · dsimp only at hphase
      split_ifs at hphase with hec
      obtain rfl := PumpPhase.giving.inj hphase
      exact ⟨pre, ec, r, rfl, hr, hphase', hgo, Bool.eq_false_iff.mpr hec, rfl, rfl⟩
    · dsimp only at hphase
      split_ifs at hphase

/-- **What is given after something was lost is out of place**, if the things that were lost are
others than those that come next. -/
theorem exists_not_intact {a b : β} (hab : a ≠ b) (hrun : (pump ε α cap).run {} evs = some p)
    (hstep : (pump ε α cap).step p e = some q) (hlevel : ¬p.Level e) :
    ∃ evs' : List (PumpEvent ε β), evs'.map PumpEvent.sized = (evs ++ [e]).map PumpEvent.sized ∧
      ∃ q', (pump ε β cap).run {} evs' = some q' ∧ ¬q'.Intact := by
  simp only [Level, not_forall] at hlevel
  obtain ⟨chunk, n, ec', hphase, rfl, hn, hlen⟩ := hlevel
  obtain ⟨pre, ec, r, rfl, hr, hrphase, hgo, hec, htaken, hgiven⟩ := exists_took hrun hphase
  have hle : n ≤ chunk.length := by
    obtain ⟨_, _, he, -⟩ | ⟨chunk', n', ec'', he, hphase', hgo', -⟩ := step_cases hstep
    · cases he
    · obtain ⟨rfl, -⟩ := PumpEvent.gave.inj he
      obtain rfl := PumpPhase.giving.inj (hphase.symm.trans hphase')
      exact hgo'.1
  rw [htaken, hgiven, List.length_append, Nat.add_right_cancel_iff] at hlen
  have hlost : r.given.length < r.taken.length := Nat.lt_of_le_of_ne (fed_run hr).1 (Ne.symm hlen)
  -- all chunks before are of `a`, the present one is of `b`
  have hpre : (pump ε β cap).run {} (pre.map (·.map fun _ => a))
      = some ⟨.taking, List.replicate r.taken.length a, List.replicate r.given.length a⟩ := by
    have hmap : ((pump ε α cap).run {} pre).map (map fun _ => a)
        = (pump ε β cap).run {} (pre.map (·.map fun _ => a)) := run_map _ pre
    rw [hr, Option.map_some, map, hrphase, List.map_const', List.map_const'] at hmap
    exact hmap.symm
  have htook : (pump ε β cap).run {}
      (pre.map (·.map fun _ => a) ++ [.took (List.replicate chunk.length b) ec])
      = some ⟨.giving (List.replicate chunk.length b),
        List.replicate r.taken.length a ++ List.replicate chunk.length b,
        List.replicate r.given.length a⟩ := by
    have hlength : (List.replicate chunk.length b).length = chunk.length := List.length_replicate
    rw [← hlength] at hgo
    rw [Machine.run_concat_eq_some_iff]
    exact ⟨_, hpre, (step_took hgo.1 hgo.2).trans (by rw [hec]; rfl)⟩
  have hgave : (pump ε β cap).step ⟨.giving (List.replicate chunk.length b),
      List.replicate r.taken.length a ++ List.replicate chunk.length b,
      List.replicate r.given.length a⟩ (.gave n ec') = _ :=
    step_gave (by rw [List.length_replicate]; exact hle) fun hzero =>
      absurd hzero (Nat.ne_of_gt hn)
  refine ⟨_, ?_, _, Machine.run_concat_eq_some_iff.mpr ⟨_, htook, hgave⟩, ?_⟩
  · have hsized : (pre.map (·.map fun _ => a)).map PumpEvent.sized
        = pre.map PumpEvent.sized := by
      rw [List.map_map]
      exact List.map_congr_left fun e _ => PumpEvent.sized_map _ e
    rw [List.map_append, List.map_append, List.map_append, List.map_append, hsized]
    simp only [List.map_cons, List.map_nil, PumpEvent.sized, PumpEvent.map, List.map_const',
      List.length_replicate]
  · rw [Intact, List.take_replicate, Nat.min_eq_left hle]
    exact not_prefix_replicate hab hlost hn _

/-! ### Two pumps -/

/-- Two pumps, side by side. -/
abbrev pumps (ε α : Type) [ErrorLike ε] (cap : ℕ) :
    Machine (Pump α × Pump α) (PumpEvent ε α ⊕ PumpEvent ε α) :=
  (pump ε α cap).beside (pump ε α cap)

/-- Each step of either is level. -/
abbrev BothLevel : Pump α × Pump α → PumpEvent ε α ⊕ PumpEvent ε α → Prop :=
  Machine.beside.Cond Level Level

/-- An event of either, without the things. -/
abbrev bothSized : PumpEvent ε α ⊕ PumpEvent ε α → PumpEvent ε Unit ⊕ PumpEvent ε Unit :=
  Sum.map PumpEvent.sized PumpEvent.sized

theorem along_bothSized_iff {evs : List (PumpEvent ε α ⊕ PumpEvent ε α)} :
    (pumps ε α cap).Along BothLevel ({}, {}) evs ↔
      (pumps ε Unit cap).Along BothLevel ({}, {}) (evs.map bothSized) := by
  refine Machine.along_map_iff (Prod.map (map fun _ => ()) (map fun _ => ())) bothSized
    (P := fun _ => True) ?_ (fun _ _ _ _ _ => trivial) ?_ trivial
  · rintro ⟨p, p'⟩ (e | e) -
    · change Option.map _ (Option.map _ _) = Option.map _ _
      rw [PumpEvent.sized, ← step_map, Option.map_map, Option.map_map]
      rfl
    · change Option.map _ (Option.map _ _) = Option.map _ _
      rw [PumpEvent.sized, ← step_map, Option.map_map, Option.map_map]
      rfl
  · rintro ⟨p, p'⟩ (e | e) - -
    · exact level_map_iff _ p e
    · exact level_map_iff _ p' e

/-- **Two pumps, whose steps come in any order, leave nothing out of place exactly when every step
is level**: a schedule is level if and only if all runs with this schedule, whatever they carry,
are intact on the way. -/
theorem pumps_intact_iff [Nontrivial α] (evs : List (PumpEvent ε α ⊕ PumpEvent ε α)) :
    (∀ evs' : List (PumpEvent ε α ⊕ PumpEvent ε α), evs'.map bothSized = evs.map bothSized →
      ∀ pre q, pre <+: evs' → (pumps ε α cap).run ({}, {}) pre = some q →
        q.1.Intact ∧ q.2.Intact) ↔
      (pumps ε α cap).Along BothLevel ({}, {}) evs := by
  constructor
  · rintro h pre e ⟨r, r'⟩ t ⟨rest, rfl⟩ hr ht
    by_contra hlevel
    obtain ⟨a, b, hab⟩ := exists_pair_ne α
    obtain ⟨hleft, hright⟩ := Machine.run_beside.mp hr
    cases e with
    | inl e =>
      obtain ⟨u, hu, rfl⟩ := Option.map_eq_some_iff.mp ht
      obtain ⟨l, hl, q, hq, hnot⟩ := exists_not_intact hab hleft hu hlevel
      rw [← Machine.lefts_concat_inl] at hl
      have hright' := congrArg (List.map PumpEvent.sized) (Machine.rights_concat_inl pre e).symm
      obtain ⟨evs', rfl, hrights, hmap⟩ :=
        Machine.exists_interleaving PumpEvent.sized PumpEvent.sized (pre ++ [.inl e]) hl hright'
      rw [← hrights] at hright
      refine hnot (h (evs' ++ rest) ?_ evs' (q, r') (List.prefix_append _ _)
        (Machine.run_beside.mpr ⟨hq, hright⟩)).1
      rw [List.map_append, List.map_append, hmap]
    | inr e =>
      obtain ⟨u, hu, rfl⟩ := Option.map_eq_some_iff.mp ht
      obtain ⟨l, hl, q, hq, hnot⟩ := exists_not_intact hab hright hu hlevel
      rw [← Machine.rights_concat_inr] at hl
      have hleft' := congrArg (List.map PumpEvent.sized) (Machine.lefts_concat_inr pre e).symm
      obtain ⟨evs', hlefts, rfl, hmap⟩ :=
        Machine.exists_interleaving PumpEvent.sized PumpEvent.sized (pre ++ [.inr e]) hleft' hl
      rw [← hlefts] at hleft
      refine hnot (h (evs' ++ rest) ?_ evs' (r, q) (List.prefix_append _ _)
        (Machine.run_beside.mpr ⟨hleft, hq⟩)).2
      rw [List.map_append, List.map_append, hmap]
  · rintro h evs' hmap pre q ⟨rest, rfl⟩ hrun
    have hlevel := along_bothSized_iff.mpr (hmap ▸ along_bothSized_iff.mp h)
    have hboth := hlevel.of_append.invariant_beside (fun _ _ _ => fed_intact_step)
      (fun _ _ _ => fed_intact_step) ⟨fed_intact_init, fed_intact_init⟩ hrun
    exact ⟨hboth.1.2, hboth.2.2⟩

end Pump

end Asio
