import Socks.Asio.Ip

/-!
# Reading a message field by field

A message format is a sequence of fields, and a reader takes one field off the front of what is
left of a message: a byte that must be there, an integer, so many bytes, a string behind its
length, a string up to a zero. Readers are composed in the state monad over the bytes left, so a
format is a `do` block that names its fields in order.

Each reader comes with an equivalence that says which byte strings it takes what from. Those are
the only facts about readers that are used: with `Reader.bind_eq_some_iff` they turn the equation
`format bs = some (value, rest)` into an equation for `bs`, field by field. In particular a format
never has two readings of one message.

## Main definitions

* `Asio.Reader` — readers
* `Asio.expect`, `Asio.takeUInt16`, `Asio.takeBytes`, `Asio.takeAddressV4` — fields of fixed size
* `Asio.takePrefixed`, `Asio.takeNull` — a string behind its length, a string up to a zero

## Main results

* `Asio.takePrefixed_eq_some_iff` — one length byte says how long the string is
* `Asio.takeNull_eq_some_iff` — the first zero ends the string
-/

namespace Asio

variable {α β : Type} {bs rest : Bytes}

/-- A reader: from what is left of a message, a value and what is left after it. -/
abbrev Reader (α : Type) : Type := StateT Bytes Option α

namespace Reader

/-- Two readers, one after the other. -/
theorem bind_eq_some_iff {p : Reader α} {f : α → Reader β} {r : β × Bytes} :
    (p >>= f) bs = some r ↔ ∃ a left, p bs = some (a, left) ∧ f a left = some r := by
  change (p bs).bind (fun x => f x.1 x.2) = some r ↔ _
  rw [Option.bind_eq_some_iff, Prod.exists]

theorem pure_eq_some_iff {a b : α} :
    (pure a : Reader α) bs = some (b, rest) ↔ a = b ∧ bs = rest := by
  change some (a, bs) = some (b, rest) ↔ _
  rw [Option.some_inj, Prod.mk_inj]

end Reader

/-! ### Fields of fixed size -/

/-- The next byte. -/
def takeByte : Reader UInt8
  | [] => none
  | b :: bs => some (b, bs)

/-- The next byte, which has to be `b`. -/
def expect (b : UInt8) : Reader Unit
  | [] => none
  | c :: bs => if c = b then some ((), bs) else none

/-- The next `n` bytes. -/
def takeBytes (n : ℕ) : Reader Bytes := fun bs =>
  if n ≤ bs.length then some (bs.take n, bs.drop n) else none

/-- Two bytes, the most significant one first. -/
def takeUInt16 : Reader UInt16 := do
  let hi ← takeByte
  let lo ← takeByte
  return (hi.toUInt16 <<< 8) ||| lo.toUInt16

/-- The four bytes of an address. -/
def takeAddressV4 : Reader AddressV4 := do
  let ip ← takeBytes 4
  return ⟨fun i => byteAt ip i⟩

theorem takeByte_eq_some_iff {b : UInt8} : takeByte bs = some (b, rest) ↔ bs = b :: rest := by
  cases bs with
  | nil => simp [takeByte]
  | cons c bs => simp [takeByte]

theorem expect_eq_some_iff {b : UInt8} {u : Unit} :
    expect b bs = some (u, rest) ↔ bs = b :: rest := by
  cases bs with
  | nil => simp [expect]
  | cons c bs =>
    rw [expect]
    split_ifs with h
    · simp [h]
    · simp [h]

theorem takeBytes_eq_some_iff {n : ℕ} {x : Bytes} :
    takeBytes n bs = some (x, rest) ↔ bs = x ++ rest ∧ x.length = n := by
  rw [takeBytes]
  constructor
  · intro h
    split_ifs at h with hn
    obtain ⟨rfl, rfl⟩ := Prod.mk.inj (Option.some.inj h)
    exact ⟨(List.take_append_drop n bs).symm, List.length_take_of_le hn⟩
  · rintro ⟨rfl, rfl⟩
    rw [if_pos (by simp), List.take_left, List.drop_left]

/-- Both bytes of sixteen bits are what two bytes were joined from. -/
theorem split_join16 (hi lo : UInt8) :
    (((hi.toUInt16 <<< 8) ||| lo.toUInt16) >>> 8).toUInt8 = hi ∧
      (((hi.toUInt16 <<< 8) ||| lo.toUInt16) &&& 0xFF).toUInt8 = lo := by
  have hhi := hi.toNat_lt
  have hlo := lo.toNat_lt
  constructor
  all_goals
    refine UInt8.toNat_inj.mp ?_
    simp only [UInt16.toNat_toUInt8, UInt16.toNat_shiftRight, UInt16.toNat_and, toNat_join16]
  · rw [show (8 : UInt16).toNat % 16 = 8 from rfl, Nat.shiftRight_eq_div_pow]
    omega
  · rw [show (0xFF : UInt16).toNat = 2 ^ 8 - 1 from rfl, Nat.and_two_pow_sub_one_eq_mod]
    omega

theorem takeUInt16_eq_some_iff {n : UInt16} :
    takeUInt16 bs = some (n, rest) ↔ bs = (n >>> 8).toUInt8 :: (n &&& 0xFF).toUInt8 :: rest := by
  simp only [takeUInt16, Reader.bind_eq_some_iff, takeByte_eq_some_iff, Reader.pure_eq_some_iff]
  constructor
  · rintro ⟨hi, _, rfl, lo, _, rfl, rfl, rfl⟩
    rw [(split_join16 hi lo).1, (split_join16 hi lo).2]
  · rintro rfl
    exact ⟨_, _, rfl, _, _, rfl, join16_split n, rfl⟩

theorem takeAddressV4_eq_some_iff {a : AddressV4} :
    takeAddressV4 bs = some (a, rest) ↔ bs = a.toBytes ++ rest := by
  simp only [takeAddressV4, Reader.bind_eq_some_iff, takeBytes_eq_some_iff,
    Reader.pure_eq_some_iff]
  constructor
  · rintro ⟨ip, _, ⟨rfl, hlen⟩, rfl, rfl⟩
    rw [AddressV4.toBytes, ofFn_byteAt hlen]
  · rintro rfl
    refine ⟨a.toBytes, rest, ⟨rfl, a.length_toBytes⟩, ?_, rfl⟩
    obtain ⟨bytes⟩ := a
    exact congrArg AddressV4.mk (funext fun i => byteAt_ofFn bytes i)

/-! ### Strings -/

/-- A string behind one byte that says how long it is. -/
def takePrefixed : Reader Bytes := do
  let len ← takeByte
  takeBytes len.toNat

/-- A string up to the first zero, which is taken too. -/
def takeNull : Reader Bytes
  | [] => none
  | b :: bs =>
    if b = 0 then some ([], bs)
    else (takeNull bs).map fun x => (b :: x.1, x.2)

theorem takePrefixed_eq_some_iff {x : Bytes} :
    takePrefixed bs = some (x, rest) ↔
      x.length ≤ 255 ∧ bs = UInt8.ofNat x.length :: (x ++ rest) := by
  simp only [takePrefixed, Reader.bind_eq_some_iff, takeByte_eq_some_iff, takeBytes_eq_some_iff]
  constructor
  · rintro ⟨len, _, rfl, rfl, hlen⟩
    have hlt := len.toNat_lt
    rw [hlen, UInt8.ofNat_toNat]
    exact ⟨by omega, rfl⟩
  · rintro ⟨hle, rfl⟩
    refine ⟨_, _, rfl, rfl, (UInt8.toNat_ofNat_of_lt' ?_).symm⟩
    exact Nat.lt_of_le_of_lt hle (by decide)

theorem takeNull_eq_some_iff {x : Bytes} :
    takeNull bs = some (x, rest) ↔ 0 ∉ x ∧ bs = x ++ 0 :: rest := by
  induction bs generalizing x with
  | nil => simp [takeNull]
  | cons b bs ih =>
    rw [takeNull]
    split_ifs with hb
    · subst hb
      constructor
      · intro h
        obtain ⟨rfl, rfl⟩ := Prod.mk.inj (Option.some.inj h)
        exact ⟨List.not_mem_nil, rfl⟩
      · rintro ⟨hx, h⟩
        cases x with
        | nil => rw [(List.cons_eq_cons.mp h).2]
        | cons c x =>
          have hc : (0 : UInt8) = c := (List.cons_eq_cons.mp h).1
          exact absurd (hc ▸ List.mem_cons_self) hx
    · rw [Option.map_eq_some_iff]
      constructor
      · rintro ⟨⟨y, left⟩, hy, h⟩
        obtain ⟨rfl, rfl⟩ := Prod.mk.inj h
        obtain ⟨hmem, rfl⟩ := ih.mp hy
        refine ⟨fun h0 => ?_, rfl⟩
        rcases List.mem_cons.mp h0 with h0 | h0
        · exact hb h0.symm
        · exact hmem h0
      · rintro ⟨hx, h⟩
        cases x with
        | nil => exact absurd (List.cons_eq_cons.mp h).1 hb
        | cons c x =>
          obtain ⟨rfl, rfl⟩ := List.cons_eq_cons.mp h
          exact ⟨(x, rest), ih.mpr ⟨fun h0 => hx (List.mem_cons_of_mem _ h0), rfl⟩, rfl⟩

end Asio
