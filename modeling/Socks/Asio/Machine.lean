import Mathlib.Data.List.Induction

/-!
# Machines

A machine takes events, one at a time, each if it can happen in the state the machine is in. Two
machines that share nothing make one machine that takes the events of both, in any order: an
interleaving of their runs. What becomes of each of them depends on its own events only, and on
their order, so a fact about the runs of one machine is a fact about every interleaving.

## Main definitions

* `Asio.Machine`, `Asio.Machine.run` — machines and their runs
* `Asio.Machine.Along` — every step on the way of a run meets a condition
* `Asio.Machine.beside` — two machines as one

## Main results

* `Asio.Machine.Along.invariant` — invariants of the runs that meet a condition
* `Asio.Machine.run_beside` — interleaving does not matter
* `Asio.Machine.run_map`, `Asio.Machine.along_map_iff` — from one machine to another that simulates
  it
-/

namespace Asio

variable {S E S' E' : Type}

/-- What an event makes of a state, if it can happen. -/
structure Machine (S E : Type) where
  step : S → E → Option S

namespace Machine

/-- What a list of events makes of a state, if they can happen in this order. -/
def run (m : Machine S E) (s : S) : List E → Option S
  | [] => some s
  | e :: evs => (m.step s e).bind fun t => m.run t evs

variable (m : Machine S E)

@[simp] theorem run_nil (s : S) : m.run s [] = some s := rfl

theorem run_cons (s : S) (e : E) (evs : List E) :
    m.run s (e :: evs) = (m.step s e).bind fun t => m.run t evs := rfl

theorem run_append (s : S) (evs evs' : List E) :
    m.run s (evs ++ evs') = (m.run s evs).bind fun t => m.run t evs' := by
  induction evs generalizing s with
  | nil => rfl
  | cons e evs ih =>
    rw [List.cons_append, run_cons, run_cons, Option.bind_assoc]
    exact Option.bind_congr fun t _ => ih t

theorem run_concat (s : S) (evs : List E) (e : E) :
    m.run s (evs ++ [e]) = (m.run s evs).bind fun t => m.step t e := by
  rw [run_append]
  refine Option.bind_congr fun t _ => ?_
  rw [run_cons]
  cases m.step t e <;> rfl

variable {m} {s t : S} {evs : List E}

theorem run_concat_eq_some_iff {e : E} :
    m.run s (evs ++ [e]) = some t ↔ ∃ r, m.run s evs = some r ∧ m.step r e = some t := by
  rw [run_concat, Option.bind_eq_some_iff]

/-! ### Conditions along a run -/

/-- Every step that is taken on the way meets the condition `C`. -/
def Along (m : Machine S E) (C : S → E → Prop) (s : S) (evs : List E) : Prop :=
  ∀ pre e r t, pre ++ [e] <+: evs → m.run s pre = some r → m.step r e = some t → C r e

theorem Along.of_append {C : S → E → Prop} {evs' : List E} (h : m.Along C s (evs ++ evs')) :
    m.Along C s evs :=
  fun pre e r t hpre => h pre e r t (hpre.trans (List.prefix_append _ _))

theorem along_nil {C : S → E → Prop} : m.Along C s [] :=
  fun pre e _ _ hpre => absurd (List.prefix_nil.mp hpre) (List.concat_ne_nil e pre)

/-- The condition is about the first step, if it is taken, and about those behind it. -/
theorem along_cons {C : S → E → Prop} {e : E} : m.Along C s (e :: evs) ↔
    ∀ t, m.step s e = some t → C s e ∧ m.Along C t evs := by
  constructor
  · intro h t ht
    refine ⟨h [] e s t ⟨evs, rfl⟩ rfl ht, fun pre x r u hpre hr => ?_⟩
    exact h (e :: pre) x r u ((List.prefix_cons_inj e).mpr hpre) (by rw [run_cons, ht]; exact hr)
  · intro h pre x r u hpre hr hu
    cases pre with
    | nil =>
      obtain ⟨rfl, -⟩ := List.cons_prefix_cons.mp hpre
      obtain rfl := Option.some.inj hr
      exact (h u hu).1
    | cons y pre =>
      obtain ⟨rfl, hrest⟩ := List.cons_prefix_cons.mp hpre
      obtain ⟨t, ht, hr⟩ := Option.bind_eq_some_iff.mp hr
      exact (h t ht).2 pre x r u hrest hr hu

instance decidableAlong {C : S → E → Prop} [∀ s e, Decidable (C s e)] :
    ∀ (s : S) (evs : List E), Decidable (m.Along C s evs)
  | _, [] => isTrue along_nil
  | s, e :: evs =>
    match h : m.step s e with
    | none => isTrue (along_cons.mpr fun t ht => absurd (h.symm.trans ht) nofun)
    | some t =>
      have := decidableAlong (C := C) t evs
      decidable_of_iff (C s e ∧ m.Along C t evs) (by simp [along_cons, h])

/-- **What every step that meets the condition preserves, every run does whose steps meet it.** -/
theorem Along.invariant {C : S → E → Prop} {P : S → Prop} (h : m.Along C s evs)
    (hstep : ∀ r e t, P r → C r e → m.step r e = some t → P t) (hs : P s)
    (hrun : m.run s evs = some t) : P t := by
  induction evs using List.reverseRecOn generalizing t with
  | nil => exact Option.some.inj hrun ▸ hs
  | append_singleton evs e ih =>
    obtain ⟨r, hr, ht⟩ := run_concat_eq_some_iff.mp hrun
    exact hstep r e t (ih h.of_append hr)
      (h evs e r t List.prefix_rfl hr ht) ht

/-- Invariants of all runs. -/
theorem invariant {P : S → Prop} (hstep : ∀ r e t, P r → m.step r e = some t → P t) (hs : P s)
    (hrun : m.run s evs = some t) : P t :=
  Along.invariant (C := fun _ _ => True) (fun _ _ _ _ _ _ _ => trivial)
    (fun r e t hr _ => hstep r e t hr) hs hrun

/-! ### Side by side -/

/-- The events of the one machine. -/
def lefts (evs : List (E ⊕ E')) : List E := evs.filterMap Sum.getLeft?

/-- The events of the other. -/
def rights (evs : List (E ⊕ E')) : List E' := evs.filterMap Sum.getRight?

theorem lefts_concat_inl (evs : List (E ⊕ E')) (e : E) :
    lefts (evs ++ [.inl e]) = lefts evs ++ [e] := List.filterMap_append

theorem lefts_concat_inr (evs : List (E ⊕ E')) (e : E') : lefts (evs ++ [.inr e]) = lefts evs := by
  rw [lefts, List.filterMap_append]
  exact List.append_nil _

theorem rights_concat_inl (evs : List (E ⊕ E')) (e : E) :
    rights (evs ++ [.inl e]) = rights evs := by
  rw [rights, List.filterMap_append]
  exact List.append_nil _

theorem rights_concat_inr (evs : List (E ⊕ E')) (e : E') :
    rights (evs ++ [.inr e]) = rights evs ++ [e] := List.filterMap_append

/-- Two machines as one, which takes the events of both. -/
def beside (m : Machine S E) (m' : Machine S' E') : Machine (S × S') (E ⊕ E') where
  step
    | (s, s'), .inl e => (m.step s e).map (·, s')
    | (s, s'), .inr e => (m'.step s' e).map (s, ·)

/-- **Interleaving does not matter**: each machine runs on its own events. -/
theorem run_beside {m' : Machine S' E'} {s t : S} {s' t' : S'} {evs : List (E ⊕ E')} :
    (m.beside m').run (s, s') evs = some (t, t') ↔
      m.run s (lefts evs) = some t ∧ m'.run s' (rights evs) = some t' := by
  induction evs generalizing s s' with
  | nil => simp [lefts, rights]
  | cons e evs ih =>
    cases e with
    | inl e =>
      change ((m.step s e).map (·, s')).bind _ = _ ↔ (m.step s e).bind _ = _ ∧ _
      cases m.step s e with
      | none => simp
      | some r => exact ih
    | inr e =>
      change ((m'.step s' e).map (s, ·)).bind _ = _ ↔ _ ∧ (m'.step s' e).bind _ = _
      cases m'.step s' e with
      | none => simp
      | some r' => exact ih

/-- A condition on the steps of each of the two. -/
def beside.Cond (C : S → E → Prop) (C' : S' → E' → Prop) : S × S' → E ⊕ E' → Prop
  | (s, _), .inl e => C s e
  | (_, s'), .inr e => C' s' e

/-- Invariants of the two machines, under conditions on their steps. -/
theorem Along.invariant_beside {m' : Machine S' E'} {C : S → E → Prop} {C' : S' → E' → Prop}
    {P : S → Prop} {P' : S' → Prop} {s t : S × S'} {evs : List (E ⊕ E')}
    (h : (m.beside m').Along (beside.Cond C C') s evs)
    (hstep : ∀ r e t, P r → C r e → m.step r e = some t → P t)
    (hstep' : ∀ r e t, P' r → C' r e → m'.step r e = some t → P' t)
    (hs : P s.1 ∧ P' s.2) (hrun : (m.beside m').run s evs = some t) : P t.1 ∧ P' t.2 := by
  refine h.invariant (P := fun s => P s.1 ∧ P' s.2) ?_ hs hrun
  rintro ⟨r, r'⟩ e t ⟨hr, hr'⟩ hC ht
  cases e with
  | inl e =>
    obtain ⟨u, hu, rfl⟩ := Option.map_eq_some_iff.mp ht
    exact ⟨hstep r e u hr hC hu, hr'⟩
  | inr e =>
    obtain ⟨u, hu, rfl⟩ := Option.map_eq_some_iff.mp ht
    exact ⟨hr, hstep' r' e u hr' hC hu⟩

/-- The events of two machines, interleaved as those of two others are. -/
theorem exists_interleaving {F F' : Type} (f : E → F) (f' : E' → F') (evs : List (E ⊕ E'))
    {l : List E} {l' : List E'} (h : l.map f = (lefts evs).map f)
    (h' : l'.map f' = (rights evs).map f') :
    ∃ evs', lefts evs' = l ∧ rights evs' = l' ∧
      evs'.map (Sum.map f f') = evs.map (Sum.map f f') := by
  induction evs generalizing l l' with
  | nil =>
    obtain rfl := List.map_eq_nil_iff.mp h
    obtain rfl := List.map_eq_nil_iff.mp h'
    exact ⟨[], rfl, rfl, rfl⟩
  | cons e evs ih =>
    cases e with
    | inl e =>
      obtain ⟨d, l, rfl, hd, hl⟩ := List.map_eq_cons_iff.mp h
      obtain ⟨evs', rfl, rfl, hmap⟩ := ih hl h'
      exact ⟨.inl d :: evs', rfl, rfl, congrArg₂ List.cons (congrArg Sum.inl hd) hmap⟩
    | inr e =>
      obtain ⟨d, l', rfl, hd, hl'⟩ := List.map_eq_cons_iff.mp h'
      obtain ⟨evs', rfl, rfl, hmap⟩ := ih h hl'
      exact ⟨.inr d :: evs', rfl, rfl, congrArg₂ List.cons (congrArg Sum.inr hd) hmap⟩

/-! ### Simulation -/

section Simulation

variable {m' : Machine S' E'} (abs : S → S') (f : E → E') {P : S → Prop}
  (hstep : ∀ s e, P s → (m.step s e).map abs = m'.step (abs s) (f e))
  (hP : ∀ s e t, P s → m.step s e = some t → P t)

include hstep hP

/-- **From one machine to another that simulates it**, through a map of the states, where an
invariant holds, and one of the events. -/
theorem run_map (hs : P s) : (m.run s evs).map abs = m'.run (abs s) (evs.map f) := by
  induction evs generalizing s with
  | nil => rfl
  | cons e evs ih =>
    rw [List.map_cons, run_cons, run_cons, ← hstep s e hs]
    cases h : m.step s e with
    | none => rfl
    | some t => exact ih (hP s e t hs h)

/-- A condition on the steps of one is met as it is by the other. -/
theorem along_map_iff {C : S → E → Prop} {C' : S' → E' → Prop}
    (hC : ∀ s e t, m.step s e = some t → (C s e ↔ C' (abs s) (f e))) (hs : P s) :
    m.Along C s evs ↔ m'.Along C' (abs s) (evs.map f) := by
  have hrun : ∀ pre, (m.run s pre).map abs = m'.run (abs s) (pre.map f) :=
    fun pre => run_map abs f hstep hP hs
  constructor
  · intro h pre' e' r' t' hpre hr' ht'
    obtain ⟨begun, hbegun, hmap⟩ := List.prefix_map_iff.mp hpre
    obtain ⟨pre, l, rfl, rfl, hl⟩ := List.map_eq_append_iff.mp hmap.symm
    obtain ⟨e, rfl, rfl⟩ := List.map_eq_singleton_iff.mp hl
    rw [← hrun] at hr'
    obtain ⟨r, hr, rfl⟩ := Option.map_eq_some_iff.mp hr'
    rw [← hstep r e (invariant hP hs hr)] at ht'
    obtain ⟨t, ht, -⟩ := Option.map_eq_some_iff.mp ht'
    exact (hC r e t ht).mp (h pre e r t hbegun hr ht)
  · intro h pre e r t hpre hr ht
    have hmap : pre.map f ++ [f e] <+: evs.map f := by
      have := hpre.map f
      rwa [List.map_append] at this
    refine (hC r e t ht).mpr (h (pre.map f) (f e) (abs r) (abs t) hmap ?_ ?_)
    · rw [← hrun, hr, Option.map_some]
    · rw [← hstep r e (invariant hP hs hr), ht, Option.map_some]

end Simulation

end Machine

end Asio
