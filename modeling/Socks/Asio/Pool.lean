import Socks.Asio.Machine

/-!
# Pools

A pool is as many machines of one kind as have entered it. They share nothing, and each goes on
when one of its own events happens, whatever happens to the others in between: `run_pool_iff` is to
`Asio.Machine.run_beside` what many machines are to two.

Who manages a pool has more to do than the pool shows. If each of the manager's steps is a step of
the pool, the pool says of the manager's runs what becomes of each member.

## Main definitions

* `Asio.pool`, `Asio.PoolEvent` — pools and what happens to them
* `Asio.own` — the events of one member
* `Asio.Orderly` — nothing happens to a member that has not entered yet

## Main results

* `Asio.run_pool_iff` — each member runs on its own events
* `Asio.Machine.run_forward` — from the manager to the pool
-/

namespace Asio

variable {S E S' E' : Type}

/-- What happens to a pool. -/
inductive PoolEvent (S E : Type)
  /-- A machine enters, in this state. -/
  | enter (s : S)
  /-- Something happens to a member. -/
  | member (i : ℕ) (e : E)
  /-- Something happens elsewhere. -/
  | pass

/-- The machines that have entered, in order. -/
def pool (m : Machine S E) : Machine (List S) (PoolEvent S E) where
  step
    | ss, .enter s => some (ss ++ [s])
    | ss, .member i e => (ss[i]?.bind (m.step · e)).map (ss.set i)
    | ss, .pass => some ss

/-- The states in which machines have entered, in order. -/
def entered : List (PoolEvent S E) → List S
  | [] => []
  | .enter s :: evs => s :: entered evs
  | _ :: evs => entered evs

/-- The events of a member, in order. -/
def own (i : ℕ) : List (PoolEvent S E) → List E
  | [] => []
  | .member j e :: evs => if j = i then e :: own i evs else own i evs
  | _ :: evs => own i evs

/-- Nothing happens to a machine before it enters. -/
def Orderly (evs : List (PoolEvent S E)) : Prop :=
  ∀ pre i e, pre ++ [.member i e] <+: evs → i < (entered pre).length

/-- A step of one machine is a step of the other, seen through maps of the states and the
events. -/
theorem Machine.run_forward {m : Machine S E} {m' : Machine S' E'} (abs : S → S') (f : E → E')
    (hstep : ∀ s e t, m.step s e = some t → m'.step (abs s) (f e) = some (abs t)) {s t : S}
    {evs : List E} (hrun : m.run s evs = some t) : m'.run (abs s) (evs.map f) = some (abs t) := by
  induction evs generalizing s with
  | nil => exact congrArg (Option.map abs) hrun
  | cons e evs ih =>
    obtain ⟨r, hr, hrest⟩ := Option.bind_eq_some_iff.mp hrun
    rw [List.map_cons, run_cons, hstep s e r hr]
    exact ih hrest

/-! ### Lists of events -/

variable {m : Machine S E} {ss ts : List S} {evs evs' : List (PoolEvent S E)}

theorem entered_append (evs evs' : List (PoolEvent S E)) :
    entered (evs ++ evs') = entered evs ++ entered evs' := by
  induction evs with
  | nil => rfl
  | cons e evs ih => cases e <;> simp [entered, ih]

theorem own_append (i : ℕ) (evs evs' : List (PoolEvent S E)) :
    own i (evs ++ evs') = own i evs ++ own i evs' := by
  induction evs with
  | nil => rfl
  | cons e evs ih =>
    cases e with
    | enter s => exact ih
    | pass => exact ih
    | member j e =>
      rw [List.cons_append, own, own, ih]
      split_ifs <;> rfl

theorem orderly_nil : Orderly ([] : List (PoolEvent S E)) := fun pre i e h =>
  absurd (List.prefix_nil.mp h) (by simp)

theorem Orderly.of_append (h : Orderly (evs ++ evs')) : Orderly evs :=
  fun pre i e hpre => h pre i e (hpre.trans (List.prefix_append _ _))

/-- One more event. -/
theorem orderly_concat_iff {e : PoolEvent S E} : Orderly (evs ++ [e]) ↔
    Orderly evs ∧ ∀ i x, e = .member i x → i < (entered evs).length := by
  constructor
  · rintro h
    refine ⟨h.of_append, ?_⟩
    rintro i x rfl
    exact h evs i x List.prefix_rfl
  · rintro ⟨h, hlast⟩ pre i x hpre
    rcases List.prefix_concat_iff.mp hpre with heq | hpre
    · obtain ⟨rfl, hx⟩ := List.append_inj' heq rfl
      exact hlast i x (List.singleton_inj.mp hx).symm
    · exact h pre i x hpre

/-- Nothing has happened to who has not entered. -/
theorem Orderly.own_eq_nil (h : Orderly evs) {i : ℕ} (hi : (entered evs).length ≤ i) :
    own i evs = [] := by
  induction evs using List.reverseRecOn with
  | nil => rfl
  | append_singleton evs e ih =>
    obtain ⟨hevs, hlast⟩ := orderly_concat_iff.mp h
    rw [entered_append, List.length_append] at hi
    rw [own_append, ih hevs (by omega), List.nil_append]
    cases e with
    | enter s => rfl
    | pass => rfl
    | member j x =>
      have hj := hlast j x rfl
      rw [own, if_neg (by omega)]
      rfl

/-- The events of a member are those that happen to it. -/
theorem mem_own_iff {i : ℕ} {e : E} : e ∈ own i evs ↔ .member i e ∈ evs := by
  induction evs with
  | nil => simp [own]
  | cons ev evs ih =>
    cases ev with
    | enter s => simp [own, ih]
    | pass => simp [own, ih]
    | member j x =>
      rw [own]
      split_ifs with h
      · simp [h, ih]
      · simp [Ne.symm h, ih]

/-! ### Runs -/

/-- Each member is where it would have come to by itself. -/
structure Alone (m : Machine S E) (evs : List (PoolEvent S E)) (ts : List S) : Prop where
  length : ts.length = (entered evs).length
  run : ∀ i s, (entered evs)[i]? = some s → m.run s (own i evs) = ts[i]?

theorem alone_enter_iff (h : Orderly evs) {s : S} :
    Alone m (evs ++ [.enter s]) ts ↔ ∃ r, Alone m evs r ∧ (pool m).step r (.enter s) = some ts := by
  have hentered : entered (evs ++ [.enter s]) = entered evs ++ [s] := entered_append _ _
  have hown : ∀ i, own i (evs ++ [.enter s]) = own i evs := fun i =>
    (own_append _ _ _).trans (List.append_nil _)
  have hnew := h.own_eq_nil (Nat.le_refl _)
  constructor
  · rintro ⟨hlen, hrun⟩
    rw [hentered, List.length_append, List.length_singleton] at hlen
    have hlast : ts[(entered evs).length]? = some s := by
      rw [← hrun _ s (by rw [hentered, List.getElem?_concat_length]), hown, hnew, Machine.run_nil]
    have hdrop : ts.drop (entered evs).length = [s] := by
      obtain ⟨hlt, hs⟩ := List.getElem?_eq_some_iff.mp hlast
      rw [List.drop_eq_getElem_cons hlt, hs, List.drop_of_length_le (Nat.le_of_eq hlen)]
    have hsplit : ts.take (entered evs).length ++ [s] = ts := by
      rw [← hdrop, List.take_append_drop]
    refine ⟨ts.take (entered evs).length, ⟨?_, ?_⟩, congrArg some hsplit⟩
    · rw [List.length_take]
      omega
    · intro i t ht
      have hi := (List.getElem?_eq_some_iff.mp ht).1
      have ht' : (entered (evs ++ [.enter s]))[i]? = some t := by
        rw [hentered, List.getElem?_append_left hi, ht]
      rw [List.getElem?_take_of_lt hi, ← hrun i t ht', hown]
  · rintro ⟨r, ⟨hlen, hrun⟩, hr⟩
    obtain rfl := Option.some.inj hr
    refine ⟨by rw [hentered, List.length_append, List.length_append, hlen], ?_⟩
    intro i t ht
    rw [hentered] at ht
    rw [hown]
    rcases Nat.lt_or_ge i (entered evs).length with hi | hi
    · rw [List.getElem?_append_left hi] at ht
      rw [List.getElem?_append_left (by omega)]
      exact hrun i t ht
    · obtain rfl : i = (entered evs).length := by
        have := (List.getElem?_eq_some_iff.mp ht).1
        rw [List.length_append, List.length_singleton] at this
        omega
      rw [List.getElem?_concat_length] at ht
      rw [hnew, ← hlen, List.getElem?_concat_length, Machine.run_nil, ht]

theorem alone_member_iff {i : ℕ} {e : E} :
    (i < (entered evs).length ∧ Alone m (evs ++ [.member i e]) ts) ↔
      ∃ r, Alone m evs r ∧ (pool m).step r (.member i e) = some ts := by
  have hentered : entered (evs ++ [.member i e]) = entered evs :=
    (entered_append _ _).trans (List.append_nil _)
  have howni : own i (evs ++ [.member i e]) = own i evs ++ [e] := by
    rw [own_append, own, if_pos rfl, own]
  have hownj : ∀ j, j ≠ i → own j (evs ++ [.member i e]) = own j evs := by
    intro j hj
    rw [own_append, own, if_neg (Ne.symm hj), own, List.append_nil]
  constructor
  · rintro ⟨hi, hlen, hrun⟩
    rw [hentered] at hlen hrun
    have hi' : i < ts.length := hlen ▸ hi
    have hlast := hrun i _ (List.getElem?_eq_getElem hi)
    rw [howni, List.getElem?_eq_getElem hi', Machine.run_concat_eq_some_iff] at hlast
    obtain ⟨u, hu, hstep⟩ := hlast
    refine ⟨ts.set i u, ⟨by rw [List.length_set, hlen], ?_⟩, ?_⟩
    · intro j s hs
      by_cases hj : j = i
      · subst hj
        rw [List.getElem?_set_self hi', ← hu]
        rw [List.getElem?_eq_getElem hi] at hs
        rw [Option.some.inj hs]
      · rw [List.getElem?_set_ne (Ne.symm hj), ← hrun j s hs, hownj j hj]
    · change (((ts.set i u)[i]?).bind (m.step · e)).map _ = _
      rw [List.getElem?_set_self hi', Option.bind_some, hstep, Option.map_some, List.set_set,
        List.set_getElem_self]
  · rintro ⟨r, ⟨hlen, hrun⟩, hr⟩
    obtain ⟨t, ht, rfl⟩ := Option.map_eq_some_iff.mp hr
    obtain ⟨u, hu, hstep⟩ := Option.bind_eq_some_iff.mp ht
    have hi : i < r.length := (List.getElem?_eq_some_iff.mp hu).1
    refine ⟨hlen ▸ hi, by rw [hentered, List.length_set, hlen], ?_⟩
    intro j s hs
    rw [hentered] at hs
    by_cases hj : j = i
    · subst hj
      rw [howni, Machine.run_concat, hrun _ s hs, hu, Option.bind_some, hstep,
        List.getElem?_set_self hi]
    · rw [hownj j hj, hrun j s hs, List.getElem?_set_ne (Ne.symm hj)]

theorem alone_pass_iff :
    Alone m (evs ++ [.pass]) ts ↔ ∃ r, Alone m evs r ∧ (pool m).step r .pass = some ts := by
  have hentered : entered (evs ++ [.pass]) = entered evs :=
    (entered_append _ _).trans (List.append_nil _)
  have hown : ∀ i, own i (evs ++ [.pass]) = own i evs := fun i =>
    (own_append _ _ _).trans (List.append_nil _)
  constructor
  · rintro ⟨hlen, hrun⟩
    rw [hentered] at hlen hrun
    exact ⟨ts, ⟨hlen, fun i s hs => (hown i).symm ▸ hrun i s hs⟩, rfl⟩
  · rintro ⟨r, ⟨hlen, hrun⟩, hr⟩
    obtain rfl := Option.some.inj hr
    refine ⟨by rw [hentered, hlen], fun i s hs => ?_⟩
    rw [hentered] at hs
    rw [hown, hrun i s hs]

/-- **Each member of a pool runs on its own events**, and any runs of machines can be interleaved
in any order. -/
theorem run_pool_iff : (pool m).run [] evs = some ts ↔ Orderly evs ∧ Alone m evs ts := by
  induction evs using List.reverseRecOn generalizing ts with
  | nil =>
    rw [Machine.run_nil, Option.some_inj, and_iff_right orderly_nil]
    constructor
    · rintro rfl
      exact ⟨rfl, fun i s hs => absurd hs (by simp [entered])⟩
    · exact fun h => (List.length_eq_zero_iff.mp h.length).symm
  | append_singleton evs e ih =>
    have hprev : (∃ r, (pool m).run [] evs = some r ∧ (pool m).step r e = some ts) ↔
        Orderly evs ∧ ∃ r, Alone m evs r ∧ (pool m).step r e = some ts := by
      simp only [ih, and_assoc, exists_and_left]
    rw [Machine.run_concat_eq_some_iff, hprev, orderly_concat_iff, and_assoc]
    refine and_congr_right fun hevs => ?_
    cases e with
    | enter s => rw [← alone_enter_iff hevs, and_iff_right nofun]
    | pass => rw [← alone_pass_iff, and_iff_right nofun]
    | member i x =>
      rw [← alone_member_iff]
      refine and_congr_left' ⟨?_, fun h => h i x rfl⟩
      rintro hi _ _ ⟨⟩
      exact hi

end Asio
