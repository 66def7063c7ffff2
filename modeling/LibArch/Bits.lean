import Mathlib

/-!
# Bits — the `u64` word and the `bit_field` accessors

A Rust `u64` is a `BitVec 64`.  Its `+` is the wrapping addition of a release build, and
`checked_sub` is the one subtraction the address code uses.  `BitField::get_bit`, `get_bits` and
`set_bits` keep the names the source calls them by.  A call that can panic is modelled by
`Option`, `none` being the panic.

Every fact the address and entry modules need reduces, through `toNat`, to a quotient and a
remainder by a power of two, where `omega` finishes:

* `toNat_getBits` / `toNat_getBits_mod` / `getBit_eq` — a bit range is a quotient, reduced, and a
  bit is its parity;
* `toNat_setBits` — `set_bits(lo..64, v)` keeps the low `lo` bits and puts `v` above them;
* `toNat_and_low`, `toNat_and_not_low`, `toNat_or_low` — the three masks an alignment uses.

A descriptor's layout is read bit by bit instead: `getLsbD_getBits` and `getLsbD_setBits` say
what each bit of a range holds, and `getBits_eq_of_getLsbD` reads a field back from its bits.
-/

namespace LibArch

/-! ## The accessors -/

/-- `BitField::get_bit`: bit `i` of a word. -/
def getBit (x : BitVec 64) (i : Nat) : Bool := x.getLsbD i

/-- `BitField::get_bits(lo..hi)`: bits `lo ≤ i < hi` of a word, moved down to bit `0`. -/
def getBits (x : BitVec 64) (lo hi : Nat) : BitVec 64 :=
  (x >>> lo) &&& BitVec.ofNat 64 (2 ^ (hi - lo) - 1)

/-- `BitField::set_bits(lo..hi, v)`: bits `lo ≤ i < hi` of a word replaced by `v`.  The crate's
assertion that `v` fits the range holds at the calls of `virt.rs` (`0` and `0xFFFF` into
`48..64`); `setBitsChecked` keeps it where it can fail. -/
def setBits (x : BitVec 64) (lo hi : Nat) (v : BitVec 64) : BitVec 64 :=
  (x &&& ~~~(BitVec.ofNat 64 (2 ^ (hi - lo) - 1) <<< lo)) ||| (v <<< lo)

/-- `u64::checked_sub`: `None` when the difference would go below zero. -/
def checkedSub (x y : BitVec 64) : Option (BitVec 64) :=
  if y ≤ x then some (x - y) else none

/-- `BitField::set_bits(lo..hi, v)` with the crate's assertion that `v` fits in `hi - lo` bits;
`none` is its panic.  (The range assertions hold at every call: the ranges are constants.) -/
def setBitsChecked (x : BitVec 64) (lo hi : Nat) (v : BitVec 64) : Option (BitVec 64) :=
  if v.toNat < 2 ^ (hi - lo) then some (setBits x lo hi v) else none

/-! ## Reading the accessors as arithmetic -/

theorem toNat_one : (1 : BitVec 64).toNat = 1 := rfl

theorem getBit_eq (x : BitVec 64) (i : Nat) : getBit x i = decide (x.toNat / 2 ^ i % 2 = 1) :=
  Nat.testBit_to_div_mod

theorem two_pow_sub_one_lt {n : Nat} (h : n ≤ 64) : 2 ^ n - 1 < 2 ^ 64 := by
  have := Nat.pow_le_pow_right (show 0 < 2 by decide) h
  omega

/-- A bit range ending at the top of the word is a quotient by a power of two. -/
theorem toNat_getBits (x : BitVec 64) {lo : Nat} (h : lo ≤ 64) :
    (getBits x lo 64).toNat = x.toNat / 2 ^ lo := by
  have hq : x.toNat / 2 ^ lo < 2 ^ (64 - lo) := by
    rw [Nat.div_lt_iff_lt_mul (Nat.two_pow_pos lo), ← Nat.pow_add, Nat.sub_add_cancel h]
    exact x.isLt
  rw [getBits, BitVec.toNat_and, BitVec.toNat_ofNat, Nat.mod_eq_of_lt (two_pow_sub_one_lt
    (Nat.sub_le 64 lo)), Nat.and_pow_two_sub_one_eq_mod, BitVec.toNat_ushiftRight,
    Nat.shiftRight_eq_div_pow, Nat.mod_eq_of_lt hq]

/-- Any bit range is a quotient by a power of two, reduced. -/
theorem toNat_getBits_mod (x : BitVec 64) {lo hi : Nat} (h : hi - lo ≤ 64) :
    (getBits x lo hi).toNat = x.toNat / 2 ^ lo % 2 ^ (hi - lo) := by
  rw [getBits, BitVec.toNat_and, BitVec.toNat_ofNat, Nat.mod_eq_of_lt (two_pow_sub_one_lt h),
    Nat.and_pow_two_sub_one_eq_mod, BitVec.toNat_ushiftRight, Nat.shiftRight_eq_div_pow]

/-- Two words with no bit in common add without carry. -/
theorem toNat_or_of_and_eq_zero {x y : BitVec 64} (h : x &&& y = 0#64) :
    (x ||| y).toNat = x.toNat + y.toNat := by
  rw [← BitVec.add_eq_or_of_and_eq_zero _ _ h, BitVec.toNat_add_of_and_eq_zero h]

/-- A word below `2^i` and a word shifted up by `i` add without carry. -/
theorem toNat_or_shiftLeft {x y : BitVec 64} {i : Nat} (hx : x.toNat < 2 ^ i)
    (hy : y.toNat * 2 ^ i < 2 ^ 64) : (x ||| y <<< i).toNat = x.toNat + y.toNat * 2 ^ i := by
  rw [BitVec.toNat_or, BitVec.toNat_shiftLeft, Nat.shiftLeft_eq, Nat.mod_eq_of_lt hy, Nat.or_comm,
    Nat.mul_comm, ← Nat.mul_add_lt_is_or hx, Nat.add_comm]

/-- Or-ing the next `m`-bit digit of `n` above its low `s` bits gives its low `s + m` bits: the
step by which a word is put back together from its fields. -/
theorem toNat_or_shiftLeft_digit {w y : BitVec 64} {n s m : Nat} (hs : s + m ≤ 64)
    (hw : w.toNat = n % 2 ^ s) (hy : y.toNat = n / 2 ^ s % 2 ^ m) :
    (w ||| y <<< s).toNat = n % 2 ^ (s + m) := by
  have hlt : y.toNat * 2 ^ s < 2 ^ 64 := calc
    y.toNat * 2 ^ s < 2 ^ m * 2 ^ s :=
      Nat.mul_lt_mul_of_pos_right (hy ▸ Nat.mod_lt _ (Nat.two_pow_pos m)) (Nat.two_pow_pos s)
    _ = 2 ^ (s + m) := by rw [← Nat.pow_add, Nat.add_comm]
    _ ≤ 2 ^ 64 := Nat.pow_le_pow_right (by decide) hs
  rw [toNat_or_shiftLeft (hw ▸ Nat.mod_lt _ (Nat.two_pow_pos s)) hlt, hw, hy, Nat.pow_add,
    Nat.mod_mul, Nat.mul_comm]

/-- `set_bits(lo..64, v)` keeps the low `lo` bits and puts `v` above them. -/
theorem toNat_setBits (x v : BitVec 64) {lo : Nat} (h : lo ≤ 64) (hv : v.toNat < 2 ^ (64 - lo)) :
    (setBits x lo 64 v).toNat = x.toNat % 2 ^ lo + v.toNat * 2 ^ lo := by
  have hpow : 2 ^ (64 - lo) * 2 ^ lo = 2 ^ 64 := by rw [← Nat.pow_add, Nat.sub_add_cancel h]
  have hlo : 0 < 2 ^ lo := Nat.two_pow_pos lo
  have hle : 2 ^ lo ≤ 2 ^ 64 := Nat.pow_le_pow_right (by decide) h
  have hmask : (BitVec.ofNat 64 (2 ^ (64 - lo) - 1) <<< lo).toNat = 2 ^ 64 - 2 ^ lo := by
    rw [BitVec.toNat_shiftLeft, BitVec.toNat_ofNat, Nat.mod_eq_of_lt (two_pow_sub_one_lt
      (Nat.sub_le 64 lo)), Nat.shiftLeft_eq, Nat.sub_mul, hpow, Nat.one_mul]
    exact Nat.mod_eq_of_lt (by omega)
  have hlow : (x &&& ~~~(BitVec.ofNat 64 (2 ^ (64 - lo) - 1) <<< lo)).toNat = x.toNat % 2 ^ lo := by
    rw [BitVec.toNat_and, BitVec.toNat_not, hmask, show 2 ^ 64 - 1 - (2 ^ 64 - 2 ^ lo) = 2 ^ lo - 1
      by omega, Nat.and_pow_two_sub_one_eq_mod]
  rw [setBits, toNat_or_shiftLeft (hlow ▸ Nat.mod_lt _ hlo)
    (hpow ▸ Nat.mul_lt_mul_of_pos_right hv hlo), hlow]

theorem checkedSub_eq_some {x y d : BitVec 64} :
    checkedSub x y = some d ↔ y.toNat ≤ x.toNat ∧ d.toNat = x.toNat - y.toNat := by
  unfold checkedSub
  by_cases h : y ≤ x
  · rw [if_pos h, Option.some.injEq, ← BitVec.toNat_sub_of_le h]
    exact ⟨fun hd => ⟨BitVec.le_def.mp h, by rw [hd]⟩,
      fun ⟨_, hd⟩ => BitVec.eq_of_toNat_eq hd.symm⟩
  · rw [if_neg h]
    exact ⟨nofun, fun ⟨hle, _⟩ => absurd (BitVec.le_def.mpr hle) h⟩

theorem checkedSub_eq_none {x y : BitVec 64} : checkedSub x y = none ↔ x.toNat < y.toNat := by
  unfold checkedSub
  by_cases h : y ≤ x
  · simp [h, BitVec.le_def.mp h]
  · simp [h, Nat.lt_of_not_le (mt BitVec.le_def.mpr h)]

/-! ## The accessors bit by bit

What a bit range holds, stated for each bit: the form a descriptor's layout table is read in. -/

theorem getLsbD_getBits (x : BitVec 64) (lo hi i : Nat) :
    (getBits x lo hi).getLsbD i = (decide (i < hi - lo) && x.getLsbD (lo + i)) := by
  unfold getBits
  rw [BitVec.getLsbD_and, BitVec.getLsbD_ushiftRight, BitVec.getLsbD_ofNat,
    Nat.testBit_two_pow_sub_one]
  by_cases hi64 : i < 64
  · simp [hi64, Bool.and_comm]
  · simp [hi64, BitVec.getLsbD_ge x (lo + i) (by omega)]

/-- A range of `hi - lo ≤ 64` bits holds less than `2 ^ (hi - lo)`. -/
theorem toNat_getBits_lt (x : BitVec 64) {lo hi : Nat} (h : hi - lo ≤ 64) :
    (getBits x lo hi).toNat < 2 ^ (hi - lo) := by
  unfold getBits
  rw [BitVec.toNat_and, BitVec.toNat_ofNat, Nat.mod_eq_of_lt (two_pow_sub_one_lt h)]
  exact lt_of_le_of_lt Nat.and_le_right (Nat.sub_lt (Nat.two_pow_pos _) Nat.one_pos)

/-- A word below `2^n` has no bit from `n` up. -/
theorem getLsbD_of_lt_two_pow {v : BitVec 64} {n j : Nat} (hv : v.toNat < 2 ^ n) (hj : n ≤ j) :
    v.getLsbD j = false :=
  Nat.testBit_lt_two_pow (lt_of_lt_of_le hv (Nat.pow_le_pow_right (by decide) hj))

/-- `set_bits(lo..hi, v)`, with `v` fitting, bit by bit: `v` inside the range, the word outside. -/
theorem getLsbD_setBits (x v : BitVec 64) {lo hi : Nat} (hhi : hi ≤ 64)
    (hv : v.toNat < 2 ^ (hi - lo)) (i : Nat) :
    (setBits x lo hi v).getLsbD i =
      if lo ≤ i ∧ i < hi then v.getLsbD (i - lo) else x.getLsbD i := by
  unfold setBits
  simp only [BitVec.getLsbD_or, BitVec.getLsbD_and, BitVec.getLsbD_not,
    BitVec.getLsbD_shiftLeft, BitVec.getLsbD_ofNat, Nat.testBit_two_pow_sub_one]
  by_cases hi64 : i < 64
  · by_cases hlo : lo ≤ i
    · by_cases hih : i < hi
      · simp [hi64, hlo, hih, Nat.not_lt.mpr hlo, show i - lo < hi - lo by omega,
          show i - lo < 64 by omega]
      · simp [hi64, hlo, hih, Nat.not_lt.mpr hlo, show ¬ i - lo < hi - lo by omega,
          getLsbD_of_lt_two_pow hv (show hi - lo ≤ i - lo by omega)]
    · simp [hi64, hlo, show i < lo by omega]
  · have hout : ¬(lo ≤ i ∧ i < hi) := by omega
    simp [hi64, hout, BitVec.getLsbD_ge x i (by omega)]

/-- Moving one word's range into another's of the same width, bit by bit. -/
theorem getLsbD_setBits_getBits (x y : BitVec 64) {lo hi lo' hi' : Nat} (h : hi - lo = hi' - lo')
    (h64 : hi' ≤ 64) (i : Nat) :
    (setBits x lo' hi' (getBits y lo hi)).getLsbD i =
      if lo' ≤ i ∧ i < hi' then y.getLsbD (lo + (i - lo')) else x.getLsbD i := by
  rw [getLsbD_setBits _ _ h64 (h ▸ toNat_getBits_lt y (by omega)), getLsbD_getBits]
  by_cases hin : lo' ≤ i ∧ i < hi'
  · rw [if_pos hin, if_pos hin, decide_eq_true (by omega), Bool.true_and]
  · rw [if_neg hin, if_neg hin]

/-- A range is determined by its bits: the word `y` it is compared with must fit the range. -/
theorem getBits_eq_of_getLsbD {x y : BitVec 64} {lo hi : Nat} (hy : y.toNat < 2 ^ (hi - lo))
    (h : ∀ j < hi - lo, x.getLsbD (lo + j) = y.getLsbD j) : getBits x lo hi = y := by
  ext i
  rw [getLsbD_getBits]
  by_cases hi : (i : Nat) < hi - lo
  · rw [decide_eq_true hi, Bool.true_and, h i hi]
  · rw [decide_eq_false hi, Bool.false_and, getLsbD_of_lt_two_pow hy (by omega)]

theorem getBits_eq_zero_of {x : BitVec 64} {lo hi : Nat}
    (h : ∀ j < hi - lo, x.getLsbD (lo + j) = false) : getBits x lo hi = 0#64 :=
  getBits_eq_of_getLsbD (Nat.two_pow_pos _) fun j hj => (h j hj).trans BitVec.getLsbD_zero.symm

theorem setBitsChecked_of_lt {x v : BitVec 64} {lo hi : Nat} (h : v.toNat < 2 ^ (hi - lo)) :
    setBitsChecked x lo hi v = some (setBits x lo hi v) :=
  if_pos h

/-- A range moved into one of the same width never fails the assertion. -/
theorem setBitsChecked_getBits (x y : BitVec 64) {lo hi lo' hi' : Nat} (h : hi - lo = hi' - lo')
    (h64 : hi - lo ≤ 64) :
    setBitsChecked x lo' hi' (getBits y lo hi) = some (setBits x lo' hi' (getBits y lo hi)) :=
  setBitsChecked_of_lt (h ▸ toNat_getBits_lt y h64)

/-! ## The three masks of an alignment

With `m = align - 1` for a power of two `align = 2^k`: `x & m` is the offset into the block,
`x & !m` the block's start, and `x | m` the block's last byte. -/

section Masks

variable (x : BitVec 64) {m : BitVec 64} {k : Nat}

theorem toNat_and_low (hm : m.toNat = 2 ^ k - 1) : (x &&& m).toNat = x.toNat % 2 ^ k := by
  rw [BitVec.toNat_and, hm, Nat.and_pow_two_sub_one_eq_mod]

theorem and_and_not_eq_zero : (x &&& m) &&& (x &&& ~~~m) = 0#64 := by
  ext i; simp only [BitVec.getLsbD_and, BitVec.getLsbD_not, BitVec.getLsbD_zero]
  cases x.getLsbD i <;> cases m.getLsbD i <;> simp

theorem and_or_and_not_eq : (x &&& m) ||| (x &&& ~~~m) = x := by
  ext i; simp only [BitVec.getLsbD_or, BitVec.getLsbD_and, BitVec.getLsbD_not]
  cases x.getLsbD i <;> cases m.getLsbD i <;> simp [i.isLt]

/-- `x & !m` is `x` rounded down to the block. -/
theorem toNat_and_not_low (hm : m.toNat = 2 ^ k - 1) :
    (x &&& ~~~m).toNat = x.toNat - x.toNat % 2 ^ k := by
  have h := congrArg BitVec.toNat (and_or_and_not_eq x (m := m))
  rw [toNat_or_of_and_eq_zero (and_and_not_eq_zero x), toNat_and_low x hm] at h
  omega

/-- `x | m` is the last byte of `x`'s block. -/
theorem toNat_or_low (hm : m.toNat = 2 ^ k - 1) :
    (x ||| m).toNat = x.toNat - x.toNat % 2 ^ k + (2 ^ k - 1) := by
  have hsplit : x ||| m = (x &&& ~~~m) ||| m := by
    ext i; simp only [BitVec.getLsbD_or, BitVec.getLsbD_and, BitVec.getLsbD_not]
    cases x.getLsbD i <;> cases m.getLsbD i <;> simp [i.isLt]
  have hdisj : (x &&& ~~~m) &&& m = 0#64 := by
    ext i; simp only [BitVec.getLsbD_and, BitVec.getLsbD_not, BitVec.getLsbD_zero]
    cases x.getLsbD i <;> cases m.getLsbD i <;> simp
  rw [hsplit, toNat_or_of_and_eq_zero hdisj, toNat_and_not_low x hm, hm]

end Masks

end LibArch
