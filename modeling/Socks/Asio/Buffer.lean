import Socks.Asio.Prog
import Mathlib.Data.List.GetD

/-!
# Buffers that are written from the front

A fixed array that a program fills over and over: encoders store bytes at increasing indices,
reads deliver bytes at its front, and whatever was stored earlier stays behind what was stored
last. `overlay front buf` is such an array: `front` at the front, the old content behind it.

Every store and every read below is an `overlay` again, so what a program can know about its
buffer is the front it has just produced.

## Main definitions

* `Asio.byteAt` — reading one byte
* `Asio.overlay` — new bytes in front of old content
* `Asio.putBytes` — the loop `for (auto c: bs) buffer[i++] = c`
* `Asio.resize` — `std::vector::resize`
* `Asio.Cond.onBuffer` — completion conditions that inspect the buffer

## Main results

* `Asio.overlay_set`, `Asio.putBytes_overlay` — storing behind the front extends the front
* `Asio.byteAt_overlay` — reading inside the front does not see the old content
-/

namespace Asio

/-- `buffer[i]`. Reading past the end, which C++ leaves undefined, gives zero. -/
def byteAt (buffer : Bytes) (i : ℕ) : UInt8 := buffer.getD i 0

/-- `front` stored at the front of `buffer`. -/
def overlay (front buffer : Bytes) : Bytes := front ++ buffer.drop front.length

/-- `for (auto c: bs) buffer[i++] = c`, with the final `i`. -/
def putBytes (buffer : Bytes) (i : ℕ) : Bytes → Bytes × ℕ
  | [] => (buffer, i)
  | c :: bs => putBytes (buffer.set i c) (i + 1) bs

/-- `std::vector::resize`: cut, or extend with zeros. -/
def resize (buffer : Bytes) (n : ℕ) : Bytes := buffer.take n ++ List.replicate (n - buffer.length) 0

/-! ### Reading -/

@[simp] theorem byteAt_cons_zero (b : UInt8) (bs : Bytes) : byteAt (b :: bs) 0 = b := rfl

@[simp] theorem byteAt_cons_succ (b : UInt8) (bs : Bytes) (i : ℕ) :
    byteAt (b :: bs) (i + 1) = byteAt bs i := rfl

theorem byteAt_append {front : Bytes} (bs : Bytes) {i : ℕ} (h : i < front.length) :
    byteAt (front ++ bs) i = byteAt front i :=
  List.getD_append _ _ _ _ h

theorem byteAt_append_length (bs bs' : Bytes) (b : UInt8) :
    byteAt (bs ++ b :: bs') bs.length = b := by
  simp [byteAt]

theorem byteAt_eq_getElem {bs : Bytes} {i : ℕ} (h : i < bs.length) : byteAt bs i = bs[i] :=
  List.getD_eq_getElem _ _ h

theorem byteAt_ofFn {n : ℕ} (f : Fin n → UInt8) (i : Fin n) : byteAt (List.ofFn f) i = f i := by
  rw [byteAt_eq_getElem (by simp), List.getElem_ofFn]

/-- A byte string is the list of its bytes. -/
theorem ofFn_byteAt {bs : Bytes} {n : ℕ} (h : bs.length = n) :
    List.ofFn (fun i : Fin n => byteAt bs i) = bs := by
  subst h
  refine List.ext_getElem (by simp) fun i _ hi => ?_
  rw [List.getElem_ofFn, byteAt_eq_getElem hi]

/-- A prefix holds the bytes of the whole. -/
theorem byteAt_of_prefix_lt {x bs : Bytes} (hx : x <+: bs) {i : ℕ} (h : i < x.length) :
    byteAt x i = byteAt bs i := by
  obtain ⟨t, rfl⟩ := hx
  exact (byteAt_append t h).symm

/-- Inside the front, the old content is not seen. -/
theorem byteAt_overlay {front : Bytes} (buffer : Bytes) {i : ℕ} (h : i < front.length) :
    byteAt (overlay front buffer) i = byteAt front i :=
  byteAt_append _ h

/-! ### Storing -/

@[simp] theorem overlay_nil (buffer : Bytes) : overlay [] buffer = buffer := rfl

theorem length_overlay (front buffer : Bytes) :
    (overlay front buffer).length = max front.length buffer.length := by
  simp only [overlay, List.length_append, List.length_drop]
  omega

/-- Storing at the front does not make a buffer shorter. -/
theorem overlay_le {n : ℕ} (front : Bytes) {buffer : Bytes} (h : n ≤ buffer.length) :
    n ≤ (overlay front buffer).length :=
  Nat.le_trans h (length_overlay front buffer ▸ Nat.le_max_right _ _)

theorem take_overlay (front buffer : Bytes) : (overlay front buffer).take front.length = front := by
  simp [overlay]

/-- Storing the next byte extends the front. -/
theorem overlay_set {front buffer : Bytes} {i : ℕ} (hi : i = front.length)
    (h : front.length < buffer.length) (b : UInt8) :
    (overlay front buffer).set i b = overlay (front ++ [b]) buffer := by
  subst hi
  rw [overlay, overlay, List.set_append_right _ _ (Nat.le_refl _), Nat.sub_self,
    List.drop_eq_getElem_cons h, List.set_cons_zero, List.length_append, List.append_assoc]
  rfl

theorem set_zero {buffer : Bytes} (h : 0 < buffer.length) (b : UInt8) :
    buffer.set 0 b = overlay [b] buffer :=
  overlay_set (by rfl : 0 = ([] : Bytes).length) h b

/-- The storing loop extends the front by what it stores. -/
theorem putBytes_overlay {buffer : Bytes} : ∀ {front bs : Bytes} {i : ℕ}, i = front.length →
    front.length + bs.length ≤ buffer.length →
    putBytes (overlay front buffer) i bs = (overlay (front ++ bs) buffer, i + bs.length) := by
  intro front bs
  induction bs generalizing front with
  | nil => intro i _ _; simp [putBytes]
  | cons b bs ih =>
    intro i hi hlen
    rw [List.length_cons] at hlen
    rw [putBytes, overlay_set hi (by omega), ih (by simp [hi]) (by simp; omega), List.append_assoc,
      List.length_cons, Nat.add_assoc, Nat.add_comm 1]
    rfl

theorem length_resize (buffer : Bytes) (n : ℕ) : (resize buffer n).length = n := by
  simp only [resize, List.length_append, List.length_take, List.length_replicate]
  omega

/-- Cutting an array down to the bytes a read has just delivered. -/
theorem resize_overlay (front buffer : Bytes) :
    resize (overlay front buffer) front.length = front := by
  rw [resize, take_overlay, length_overlay,
    Nat.sub_eq_zero_of_le (Nat.le_max_left _ _), List.replicate_zero, List.append_nil]

/-! ### Conditions on a buffer -/

variable {ε : Type} [ErrorLike ε]

/-- A completion condition that inspects the buffer being read into, as the composed read sees
it: `got` has been delivered over what `buffer` held when the read began. -/
def Cond.onBuffer (f : Bytes → ε → ℕ → ℕ) (hf : ∀ b e n, failed e = true → f b e n = 0)
    (buffer : Bytes) : Cond ε where
  ask got e := f (overlay got buffer) e got.length
  ask_of_failed _ e h := hf _ e _ h

@[simp] theorem Cond.onBuffer_ask {f : Bytes → ε → ℕ → ℕ}
    {hf : ∀ b e n, failed e = true → f b e n = 0} (buffer got : Bytes) (e : ε) :
    (Cond.onBuffer f hf buffer).ask got e = f (overlay got buffer) e got.length := rfl

end Asio
