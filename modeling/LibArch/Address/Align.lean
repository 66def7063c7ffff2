import LibArch.Bits

/-!
# Address/Align — `align_down` and `align_up` of `address/mod.rs`

Both helpers assert that `align` is a power of two, then round with the mask `align - 1`:
`align_down` clears the bits below `align`; `align_up` returns an aligned address unchanged and
any other one as the last byte of its block plus one.  For `align = 2^k`:

* `alignDown_eq` — `align_down` is `x - x % 2^k`, the greatest multiple at most `x`
  (`isGreatest_sub_mod`);
* `alignUp_eq` — `align_up` is the least multiple at least `x` (`isLeast_alignUpNat`), taken
  modulo `2^64`: the `+ 1` wraps when `x` lies, unaligned, in the top block of the word;
* `alignDown_isGreatest` / `alignUp_isLeast` — the two read as the nearest multiples.
-/

namespace LibArch

/-- `align_down(addr, align)`; `none` is the panic of its power-of-two assertion. -/
def alignDown (addr align : BitVec 64) : Option (BitVec 64) :=
  if align &&& (align - 1) = 0#64 then some (addr &&& ~~~(align - 1)) else none

/-- `align_up(addr, align)`; `none` is the panic of its power-of-two assertion.  The `+ 1` is the
wrapping addition of a release build. -/
def alignUp (addr align : BitVec 64) : Option (BitVec 64) :=
  if align &&& (align - 1) = 0#64 then
    if addr &&& (align - 1) = 0#64 then some addr else some ((addr ||| (align - 1)) + 1)
  else none

/-! ## Rounding to a multiple, over `ℕ`

What the two helpers are for, stated without words: the nearest multiples of `a` on either side
of `x`. -/

/-- The least multiple of `a` at least `x`. -/
def alignUpNat (x a : Nat) : Nat := if x % a = 0 then x else x - x % a + a

theorem isGreatest_sub_mod (x : Nat) {a : Nat} (ha : 0 < a) :
    IsGreatest {m | a ∣ m ∧ m ≤ x} (x - x % a) := by
  have hx := Nat.mod_add_div x a
  refine ⟨⟨Nat.dvd_sub_mod x, Nat.sub_le x _⟩, ?_⟩
  rintro _ ⟨⟨c, rfl⟩, hc⟩
  have : c ≤ x / a := (Nat.le_div_iff_mul_le ha).mpr (Nat.mul_comm a c ▸ hc)
  have := Nat.mul_le_mul_left a this
  omega

theorem isLeast_alignUpNat (x : Nat) {a : Nat} (ha : 0 < a) :
    IsLeast {m | a ∣ m ∧ x ≤ m} (alignUpNat x a) := by
  have hx := Nat.mod_add_div x a
  have hlt := Nat.mod_lt x ha
  unfold alignUpNat
  split
  · exact ⟨⟨Nat.dvd_of_mod_eq_zero ‹_›, le_rfl⟩, fun _ h => h.2⟩
  · refine ⟨⟨⟨x / a + 1, by rw [Nat.mul_add]; omega⟩, by omega⟩, ?_⟩
    rintro _ ⟨⟨c, rfl⟩, hc⟩
    have : x / a < c := by
      by_contra hle
      have := Nat.mul_le_mul_left a (Nat.le_of_not_lt hle)
      omega
    have := Nat.mul_le_mul_left a this
    rw [Nat.mul_succ] at this
    omega

/-! ## The helpers at a power of two -/

section PowerOfTwo

variable (addr : BitVec 64) {align : BitVec 64} {k : Nat}

theorem lt_of_toNat_eq_two_pow (h : align.toNat = 2 ^ k) : k < 64 :=
  (Nat.pow_lt_pow_iff_right (by decide)).mp (h ▸ align.isLt)

theorem toNat_sub_one_of_two_pow (h : align.toNat = 2 ^ k) : (align - 1).toNat = 2 ^ k - 1 := by
  have := Nat.two_pow_pos k
  have := align.isLt
  rw [BitVec.toNat_sub, h, toNat_one]
  omega

/-- A power of two passes the helpers' assertion. -/
theorem and_sub_one_of_two_pow (h : align.toNat = 2 ^ k) : align &&& (align - 1) = 0#64 :=
  BitVec.eq_of_toNat_eq <| by
    rw [toNat_and_low _ (toNat_sub_one_of_two_pow h), h, Nat.mod_self, BitVec.toNat_ofNat]

theorem alignDown_eq (h : align.toNat = 2 ^ k) :
    ∃ r, alignDown addr align = some r ∧ r.toNat = addr.toNat - addr.toNat % 2 ^ k :=
  ⟨_, if_pos (and_sub_one_of_two_pow h), toNat_and_not_low addr (toNat_sub_one_of_two_pow h)⟩

theorem alignUp_eq (h : align.toNat = 2 ^ k) :
    ∃ r, alignUp addr align = some r ∧ r.toNat = alignUpNat addr.toNat (2 ^ k) % 2 ^ 64 := by
  have hm := toNat_sub_one_of_two_pow h
  have := Nat.two_pow_pos k
  unfold alignUp alignUpNat
  rw [if_pos (and_sub_one_of_two_pow h)]
  by_cases ha : addr &&& (align - 1) = 0#64
  · have : addr.toNat % 2 ^ k = 0 := by rw [← toNat_and_low addr hm, ha]; rfl
    exact ⟨addr, if_pos ha, by rw [if_pos this, Nat.mod_eq_of_lt addr.isLt]⟩
  · have : addr.toNat % 2 ^ k ≠ 0 := fun h0 =>
      ha (BitVec.eq_of_toNat_eq (by rw [toNat_and_low addr hm, h0]; rfl))
    refine ⟨_, if_neg ha, ?_⟩
    rw [if_neg this, BitVec.toNat_add, toNat_or_low addr hm, toNat_one]
    congr 1
    omega

/-- `align_down` at a power of two rounds to the greatest multiple at most the address. -/
theorem alignDown_isGreatest (h : align.toNat = 2 ^ k) :
    ∃ r, alignDown addr align = some r ∧
      IsGreatest {m | align.toNat ∣ m ∧ m ≤ addr.toNat} r.toNat := by
  obtain ⟨r, hr, hrv⟩ := alignDown_eq addr h
  refine ⟨r, hr, ?_⟩
  rw [h, hrv]
  exact isGreatest_sub_mod _ (Nat.two_pow_pos k)

/-- `align_up` at a power of two rounds to the least multiple at least the address, modulo
`2^64`. -/
theorem alignUp_isLeast (h : align.toNat = 2 ^ k) :
    ∃ r, alignUp addr align = some r ∧ r.toNat = alignUpNat addr.toNat align.toNat % 2 ^ 64 ∧
      IsLeast {m | align.toNat ∣ m ∧ addr.toNat ≤ m} (alignUpNat addr.toNat align.toNat) := by
  obtain ⟨r, hr, hrv⟩ := alignUp_eq addr h
  exact ⟨r, hr, h ▸ hrv, h ▸ isLeast_alignUpNat _ (Nat.two_pow_pos k)⟩

end PowerOfTwo

end LibArch
