import LibArch.Address.Align

/-!
# Address/Phys — `PhysAddr` of `address/phys.rs`

A physical address is a `u64` whose bits 52–63 must be zero.  The constructors and the
arithmetic check that rule; `align_up` and `align_down` wrap the rounded value directly.

* `tryNew_eq_ok_iff` / `tryNew_eq_error_iff` / `new_eq_some_iff` — what the constructors accept;
* `isValid_of_new`, `add_isValid`, `sub_isValid`, `alignDown_isValid` — the operations that
  keep the rule;
* `alignUp_escapes_range` — `align_up` out of the last block below `2^52` breaks it;
* `alignment_rounds_exactly` — for a valid address both roundings are the nearest multiples, and
  `align_up`'s `+ 1` never overflows.
-/

namespace LibArch

/-- `PhysAddr(u64)`. -/
structure PhysAddr where
  raw : BitVec 64
  deriving DecidableEq, Repr

/-- `NoInvalidPhysAddr(u64)`, carrying the offending bits 52–63. -/
structure NoInvalidPhysAddr where
  bits : BitVec 64
  deriving DecidableEq, Repr

namespace PhysAddr

/-! ## The model -/

/-- `PhysAddr::new`; `none` is the panic of its assertion. -/
def new (addr : BitVec 64) : Option PhysAddr :=
  if getBits addr 52 64 = 0#64 then some ⟨addr⟩ else none

/-- `PhysAddr::try_new`. -/
def tryNew (addr : BitVec 64) : Except NoInvalidPhysAddr PhysAddr :=
  if getBits addr 52 64 = 0#64 then .ok ⟨addr⟩ else .error ⟨getBits addr 52 64⟩

/-- `as_u64` (and `as_usize`, the same word on a 64-bit target). -/
def asU64 (p : PhysAddr) : BitVec 64 := p.raw

/-- `is_null`. -/
def isNull (p : PhysAddr) : Bool := p.raw == 0#64

/-- `align_up`: the rounded word, wrapped without a range check. -/
def alignUp (p : PhysAddr) (align : BitVec 64) : Option PhysAddr :=
  (LibArch.alignUp p.raw align).map PhysAddr.mk

/-- `align_down`: the rounded word, wrapped without a range check. -/
def alignDown (p : PhysAddr) (align : BitVec 64) : Option PhysAddr :=
  (LibArch.alignDown p.raw align).map PhysAddr.mk

/-- `is_aligned`: `self.align_down(align) == self`. -/
def isAligned (p : PhysAddr) (align : BitVec 64) : Option Bool :=
  (p.alignDown align).map (· == p)

/-- `Add<u64>`: `PhysAddr::new(self.0 + rhs)`, the sum wrapping as in a release build.  `+=` and
the `usize` variants are this function (`cast::u64` is the identity on a 64-bit target). -/
def add (p : PhysAddr) (rhs : BitVec 64) : Option PhysAddr := new (p.raw + rhs)

/-- `Sub<u64>`: `PhysAddr::new(self.0.checked_sub(rhs).unwrap())`; `-=` and the `usize` variants
are this function. -/
def sub (p : PhysAddr) (rhs : BitVec 64) : Option PhysAddr := (checkedSub p.raw rhs).bind new

/-- `Sub<PhysAddr>`: the distance between two addresses. -/
def subAddr (p q : PhysAddr) : Option (BitVec 64) := checkedSub p.asU64 q.asU64

/-- The physical-address rule: bits 52–63 are zero. -/
def IsValid (p : PhysAddr) : Prop := getBits p.raw 52 64 = 0#64

instance : DecidablePred IsValid := fun p =>
  inferInstanceAs (Decidable (getBits p.raw 52 64 = 0#64))

@[simp] theorem asU64_eq (p : PhysAddr) : p.asU64 = p.raw := rfl

/-! ## The rule as a range -/

theorem getBits_eq_zero_iff (x : BitVec 64) : getBits x 52 64 = 0#64 ↔ x.toNat < 2 ^ 52 := by
  rw [BitVec.toNat_eq, toNat_getBits x (by decide), BitVec.toNat_ofNat, Nat.zero_mod,
    Nat.div_eq_zero_iff (by decide)]

theorem isValid_iff {p : PhysAddr} : p.IsValid ↔ p.raw.toNat < 2 ^ 52 :=
  getBits_eq_zero_iff p.raw

/-! ## The constructors -/

theorem tryNew_eq_ok_iff {v : BitVec 64} {p : PhysAddr} :
    tryNew v = .ok p ↔ p.raw = v ∧ v.toNat < 2 ^ 52 := by
  cases p
  unfold tryNew
  rw [← getBits_eq_zero_iff]
  split <;> simp_all [eq_comm]

theorem tryNew_eq_error_iff {v : BitVec 64} {e : NoInvalidPhysAddr} :
    tryNew v = .error e ↔ 2 ^ 52 ≤ v.toNat ∧ e.bits = getBits v 52 64 := by
  cases e
  unfold tryNew
  rw [← Nat.not_lt, ← getBits_eq_zero_iff]
  split <;> simp_all [eq_comm]

theorem new_eq_some_iff {v : BitVec 64} {p : PhysAddr} : new v = some p ↔ tryNew v = .ok p := by
  unfold new tryNew
  split <;> simp

theorem isValid_of_new {v : BitVec 64} {p : PhysAddr} (h : new v = some p) : p.IsValid := by
  obtain ⟨rfl, hv⟩ := tryNew_eq_ok_iff.mp (new_eq_some_iff.mp h)
  exact isValid_iff.mpr hv

theorem raw_of_new {v : BitVec 64} {p : PhysAddr} (h : new v = some p) : p.raw = v :=
  (tryNew_eq_ok_iff.mp (new_eq_some_iff.mp h)).1

/-! ## The arithmetic -/

theorem add_isValid {p q : PhysAddr} {n : BitVec 64} (h : p.add n = some q) : q.IsValid :=
  isValid_of_new h

/-- An addition that returns is the sum modulo `2^64`. -/
theorem toNat_add {p q : PhysAddr} {n : BitVec 64} (h : p.add n = some q) :
    q.asU64.toNat = (p.asU64.toNat + n.toNat) % 2 ^ 64 := by
  unfold asU64
  rw [raw_of_new h, BitVec.toNat_add]

theorem sub_eq_some_iff {p q : PhysAddr} {n : BitVec 64} :
    p.sub n = some q ↔ ∃ d, checkedSub p.raw n = some d ∧ new d = some q := by
  unfold sub
  cases checkedSub p.raw n <;> simp

/-- A subtraction below zero panics rather than wrapping. -/
theorem sub_eq_none_of_lt {p : PhysAddr} {n : BitVec 64} (h : p.asU64.toNat < n.toNat) :
    p.sub n = none := by
  rw [sub, (checkedSub_eq_none (x := p.raw)).mpr h]
  rfl

theorem sub_isValid {p q : PhysAddr} {n : BitVec 64} (h : p.sub n = some q) : q.IsValid := by
  obtain ⟨_, -, hq⟩ := sub_eq_some_iff.mp h
  exact isValid_of_new hq

/-- A subtraction that returns is the exact difference. -/
theorem toNat_sub {p q : PhysAddr} {n : BitVec 64} (h : p.sub n = some q) :
    n.toNat ≤ p.asU64.toNat ∧ q.asU64.toNat = p.asU64.toNat - n.toNat := by
  obtain ⟨d, hd, hq⟩ := sub_eq_some_iff.mp h
  unfold asU64
  rw [raw_of_new hq]
  exact checkedSub_eq_some.mp hd

/-! ## Alignment

The rounding helpers know nothing of the 52-bit ceiling: `align_down` cannot leave it, the `+ 1`
of `align_up` can. -/

section Alignment

variable (p : PhysAddr) {align : BitVec 64} {k : Nat}

theorem isAligned_eq (h : align.toNat = 2 ^ k) :
    p.isAligned align = some (decide (p.asU64.toNat % 2 ^ k = 0)) := by
  obtain ⟨x⟩ := p
  obtain ⟨r, hr, hrv⟩ := LibArch.alignDown_eq x h
  have := Nat.mod_le x.toNat (2 ^ k)
  have hiff : PhysAddr.mk r = ⟨x⟩ ↔ x.toNat % 2 ^ k = 0 := by
    rw [PhysAddr.mk.injEq, BitVec.toNat_eq, hrv]; omega
  rw [isAligned, alignDown, hr, Option.map_some', Option.map_some']
  exact congrArg some (Bool.eq_iff_iff.mpr (beq_iff_eq.trans (hiff.trans decide_eq_true_iff.symm)))

theorem alignDown_isValid (hp : p.IsValid) (h : align.toNat = 2 ^ k) :
    ∃ r, p.alignDown align = some r ∧ r.IsValid := by
  obtain ⟨r, hr, hrv⟩ := LibArch.alignDown_eq p.raw h
  refine ⟨⟨r⟩, by rw [alignDown, hr]; rfl, isValid_iff.mpr ?_⟩
  have := isValid_iff.mp hp
  dsimp only
  omega

/-- `align_up` out of the last 4 KiB block below `2^52`: a valid address rounds to `2^52`,
which is not one. -/
theorem alignUp_escapes_range :
    (PhysAddr.mk 0x000FFFFFFFFFF001#64).IsValid ∧
      (PhysAddr.mk 0x000FFFFFFFFFF001#64).alignUp 0x1000#64 = some ⟨0x0010000000000000#64⟩ ∧
      ¬ (PhysAddr.mk 0x0010000000000000#64).IsValid := by
  decide

/-- A valid address lies so far below `2^64` that a whole aligned block fits above it. -/
theorem toNat_add_lt (hp : p.IsValid) (h : align.toNat = 2 ^ k) :
    p.raw.toNat + 2 ^ k < 2 ^ 64 := by
  have hv := isValid_iff.mp hp
  have hk : 2 ^ k ≤ 2 ^ 63 :=
    Nat.pow_le_pow_right (by decide) (Nat.le_of_lt_succ (lt_of_toNat_eq_two_pow h))
  omega

/-- `align_up` of a valid address is the least multiple at least it: the `+ 1` does not wrap. -/
theorem alignUp_isLeast (hp : p.IsValid) (h : align.toNat = 2 ^ k) :
    ∃ r, p.alignUp align = some r ∧
      IsLeast {m | align.toNat ∣ m ∧ p.asU64.toNat ≤ m} r.asU64.toNat := by
  have hs := p.toNat_add_lt hp h
  have hmod := Nat.mod_le p.raw.toNat (2 ^ k)
  have hup : alignUpNat p.raw.toNat (2 ^ k) < 2 ^ 64 := by unfold alignUpNat; split <;> omega
  obtain ⟨u, hu, huv, hl⟩ := LibArch.alignUp_isLeast p.raw h
  refine ⟨⟨u⟩, by rw [alignUp, hu]; rfl, ?_⟩
  rw [h] at huv hl ⊢
  rw [Nat.mod_eq_of_lt hup] at huv
  simpa only [asU64, huv] using hl

/-- **Alignment of a valid address rounds to the nearest multiples.**  `align_down` is the
greatest multiple of `align` at most the address, `align_up` the least at least it, its `+ 1`
cannot overflow below the 52-bit ceiling, and `is_aligned` reads the remainder. -/
theorem alignment_rounds_exactly (hp : p.IsValid) (h : align.toNat = 2 ^ k) :
    (∃ r, p.alignDown align = some r ∧
        IsGreatest {m | align.toNat ∣ m ∧ m ≤ p.asU64.toNat} r.asU64.toNat) ∧
      (∃ r, p.alignUp align = some r ∧
        IsLeast {m | align.toNat ∣ m ∧ p.asU64.toNat ≤ m} r.asU64.toNat) ∧
      (p.asU64 ||| (align - 1)).toNat + 1 < 2 ^ 64 ∧
      p.isAligned align = some (decide (p.asU64.toNat % align.toNat = 0)) := by
  obtain ⟨d, hd, hg⟩ := LibArch.alignDown_isGreatest p.raw h
  refine ⟨⟨⟨d⟩, by rw [alignDown, hd]; rfl, hg⟩, p.alignUp_isLeast hp h, ?_, h ▸ isAligned_eq p h⟩
  have hs := p.toNat_add_lt hp h
  have hmod := Nat.mod_le p.raw.toNat (2 ^ k)
  rw [asU64, toNat_or_low _ (toNat_sub_one_of_two_pow h)]
  omega

theorem alignment_rounds_exactly_at_0x1001 :
    (∃ r, (PhysAddr.mk 0x1001#64).alignDown 0x1000#64 = some r ∧
        IsGreatest {m | (0x1000#64).toNat ∣ m ∧ m ≤ (PhysAddr.mk 0x1001#64).asU64.toNat}
          r.asU64.toNat) ∧
      (∃ r, (PhysAddr.mk 0x1001#64).alignUp 0x1000#64 = some r ∧
        IsLeast {m | (0x1000#64).toNat ∣ m ∧ (PhysAddr.mk 0x1001#64).asU64.toNat ≤ m}
          r.asU64.toNat) ∧
      ((PhysAddr.mk 0x1001#64).asU64 ||| (0x1000#64 - 1)).toNat + 1 < 2 ^ 64 ∧
      (PhysAddr.mk 0x1001#64).isAligned 0x1000#64 =
        some (decide ((PhysAddr.mk 0x1001#64).asU64.toNat % (0x1000#64).toNat = 0)) :=
  alignment_rounds_exactly _ (by decide) (k := 12) rfl

end Alignment

end PhysAddr

end LibArch
