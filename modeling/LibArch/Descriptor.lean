import LibArch.Bits

/-!
# Descriptor — segment selectors and GDT descriptors of `x64/mod.rs` and `x64/descriptor/mod.rs`

A `SegmentSelector` packs a descriptor index above the table indicator and the requested
privilege level,

    | 15 ─ 3  index | 2  TI | 1 ─ 0  RPL |

and `Descriptor::tss_segment` spreads the address and the limit of a task-state segment over
the two words of a system descriptor, by the table of its doc comment:

    low  | 63─56 base | 55─52 G,D/B,L,AVL | 51─48 limit | 47 P | 46─45 DPL | 44 0 | 43─40 type |
         | 39─16 base | 15─0 limit |
    high | 63─32 reserved | 31─0 base |

The table is read back by `systemBase` and `systemLimit`; the other fields by `getBits`.

* `selector_fields_roundtrip` — `new(index, rpl)` reads back its index modulo `2^13` and its
  privilege level, with TI clear; `rpl()` never panics; and every selector with TI clear is
  `new` of its own fields;
* `tssSegment_encodes` — `tss_segment` panics exactly when the limit does not fit 16 bits, and
  otherwise writes the segment's address as the base, `size_of - 1` as the limit, type `1001`
  (an available 64-bit TSS), the present bit, and zero in every other field.
-/

namespace LibArch

/-! ## Privilege levels and selectors -/

/-- `PrivilegedLevel`, `#[repr(u8)]` with discriminants `0` … `3`. -/
inductive PrivilegedLevel
  | Ring0
  | Ring1
  | Ring2
  | Ring3
  deriving DecidableEq, Repr

namespace PrivilegedLevel

/-- `rpl as u16`: the discriminant. -/
def toU16 : PrivilegedLevel → BitVec 16
  | Ring0 => 0#16
  | Ring1 => 1#16
  | Ring2 => 2#16
  | Ring3 => 3#16

/-- `PrivilegedLevel::from_u16`: `none` is its panic `invalid privileged level` on values from
`4` up. -/
def fromU16 (level : BitVec 16) : Option PrivilegedLevel :=
  match level.toNat with
  | 0 => some Ring0
  | 1 => some Ring1
  | 2 => some Ring2
  | 3 => some Ring3
  | _ => none

theorem toNat_toU16_lt (r : PrivilegedLevel) : r.toU16.toNat < 4 := by
  cases r <;> decide

/-- `from_u16` accepts every value below `4`, and inverts the discriminant there. -/
theorem fromU16_spec (level : BitVec 16) (h : level.toNat < 4) :
    ∃ r, fromU16 level = some r ∧ r.toU16.toNat = level.toNat := by
  obtain hl | hl | hl | hl : level.toNat = 0 ∨ level.toNat = 1 ∨ level.toNat = 2 ∨
      level.toNat = 3 := by
    omega
  all_goals exact ⟨_, by rw [fromU16, hl], by rw [hl]; rfl⟩

theorem fromU16_of_toNat (level : BitVec 16) (r : PrivilegedLevel)
    (h : level.toNat = r.toU16.toNat) : fromU16 level = some r := by
  rw [fromU16, h]
  cases r <;> rfl

end PrivilegedLevel

/-- `SegmentSelector(pub u16)`; `From<u16>` is the constructor. -/
@[ext]
structure SegmentSelector where
  raw : BitVec 16
  deriving DecidableEq, Repr

namespace SegmentSelector

/-- `SegmentSelector::new`: `index << 3 | (rpl as u16)`.  The `u16` shift drops the index's top
three bits. -/
def new (index : BitVec 16) (rpl : PrivilegedLevel) : SegmentSelector :=
  ⟨index <<< 3 ||| rpl.toU16⟩

/-- `Selector::index`: `self.0 >> 3`. -/
def index (s : SegmentSelector) : BitVec 16 := s.raw >>> 3

/-- `Selector::rpl`: `PrivilegedLevel::from_u16(self.0.get_bits(0..2))`. -/
def rpl (s : SegmentSelector) : Option PrivilegedLevel :=
  PrivilegedLevel.fromU16 (s.raw &&& 3#16)

/-- The RPL sits below the shifted index, so the two add without carry. -/
theorem toNat_new (index : BitVec 16) (rpl : PrivilegedLevel) :
    (new index rpl).raw.toNat = 2 ^ 3 * (index.toNat % 2 ^ 13) + rpl.toU16.toNat := by
  have hshift : (index <<< 3).toNat = 2 ^ 3 * (index.toNat % 2 ^ 13) := by
    rw [BitVec.toNat_shiftLeft, Nat.shiftLeft_eq]
    omega
  rw [new, BitVec.toNat_or, hshift,
    Nat.mul_add_lt_is_or (Nat.lt_of_lt_of_le rpl.toNat_toU16_lt (by decide))]

theorem toNat_index (s : SegmentSelector) : s.index.toNat = s.raw.toNat / 2 ^ 3 := by
  rw [index, BitVec.toNat_ushiftRight, Nat.shiftRight_eq_div_pow]

theorem toNat_rplBits (s : SegmentSelector) : (s.raw &&& 3#16).toNat = s.raw.toNat % 2 ^ 2 := by
  rw [BitVec.toNat_and, show (3#16).toNat = 2 ^ 2 - 1 from rfl, Nat.and_pow_two_sub_one_eq_mod]

/-- Two bits are below `4`: `rpl()` never reaches the panic of `from_u16`. -/
theorem rpl_spec (s : SegmentSelector) :
    ∃ r, s.rpl = some r ∧ r.toU16.toNat = s.raw.toNat % 2 ^ 2 := by
  obtain ⟨r, hr, hv⟩ := PrivilegedLevel.fromU16_spec (s.raw &&& 3#16)
    (by rw [toNat_rplBits]; omega)
  exact ⟨r, hr, hv.trans (toNat_rplBits s)⟩

theorem getLsbD_two (s : SegmentSelector) :
    s.raw.getLsbD 2 = decide (s.raw.toNat / 2 ^ 2 % 2 = 1) :=
  Nat.testBit_to_div_mod

/-- **The selector's fields round-trip.**  `new(index, rpl)` reads back the index modulo `2^13`
and the privilege level, with the table indicator (bit 2) clear; `rpl()` never panics; and a
selector with TI clear is `new` of its own index and privilege level. -/
theorem selector_fields_roundtrip :
    (∀ (i : BitVec 16) (r : PrivilegedLevel), (new i r).index.toNat = i.toNat % 2 ^ 13 ∧
        (new i r).rpl = some r ∧ (new i r).raw.getLsbD 2 = false) ∧
      (∀ s : SegmentSelector, s.rpl.isSome) ∧
      ∀ s : SegmentSelector, s.raw.getLsbD 2 = false → ∃ r, s.rpl = some r ∧ new s.index r = s := by
  refine ⟨fun i r => ?_, fun s => ?_, fun s hti => ?_⟩
  · have hr := r.toNat_toU16_lt
    have hraw := toNat_new i r
    refine ⟨?_, PrivilegedLevel.fromU16_of_toNat _ r ?_, ?_⟩
    · rw [toNat_index, hraw]; omega
    · rw [toNat_rplBits, hraw]; omega
    · rw [getLsbD_two, hraw, decide_eq_false_iff_not]; omega
  · obtain ⟨r, hr, -⟩ := rpl_spec s
    rw [hr]; rfl
  · obtain ⟨r, hr, hv⟩ := rpl_spec s
    refine ⟨r, hr, SegmentSelector.ext (BitVec.eq_of_toNat_eq ?_)⟩
    rw [getLsbD_two, decide_eq_false_iff_not] at hti
    have hlt := s.raw.isLt
    rw [toNat_new, toNat_index, hv]
    omega

end SegmentSelector

/-! ## Descriptors

The flags are the bits of `DescriptorFlags` that the constructors use; each descriptor word is
the union's `bits()`. -/

namespace DescriptorFlags

/-- `DescriptorFlags::WRITABLE = 1 << 41`. -/
def WRITABLE : BitVec 64 := 1#64 <<< 41

/-- `DescriptorFlags::EXECUTABLE = 1 << 43`. -/
def EXECUTABLE : BitVec 64 := 1#64 <<< 43

/-- `DescriptorFlags::USER_SEGMENT = 1 << 44`. -/
def USER_SEGMENT : BitVec 64 := 1#64 <<< 44

/-- `DescriptorFlags::PRESENT = 1 << 47`. -/
def PRESENT : BitVec 64 := 1#64 <<< 47

/-- `DescriptorFlags::LONG_MODE = 1 << 53`. -/
def LONG_MODE : BitVec 64 := 1#64 <<< 53

/-- `DescriptorFlags::DPL_RING_0 = 0 << 45`. -/
def DPL_RING_0 : BitVec 64 := 0#64 <<< 45

/-- `DescriptorFlags::DPL_RING_3 = 3 << 45`. -/
def DPL_RING_3 : BitVec 64 := 3#64 <<< 45

theorem getLsbD_PRESENT (i : Nat) : PRESENT.getLsbD i = decide (i = 47) := by
  rw [PRESENT, BitVec.getLsbD_shiftLeft, BitVec.getLsbD_ofNat]
  rcases Nat.lt_trichotomy i 47 with hlt | rfl | hgt
  · simp [hlt, Nat.ne_of_lt hlt]
  · decide
  · have h1 : Nat.testBit 1 (i - 47) = false :=
      Nat.testBit_lt_two_pow (Nat.one_lt_two_pow (by omega))
    simp [h1, Nat.ne_of_gt hgt]

end DescriptorFlags

open DescriptorFlags

/-- `Descriptor`: a code or data segment is one word, a system segment two. -/
inductive Descriptor
  | KernelSegment (bits : BitVec 64)
  | UserSegment (bits : BitVec 64)
  | SystemSegment (low high : BitVec 64)
  deriving DecidableEq, Repr

namespace Descriptor

/-- `kernel_code_segment`. -/
def kernelCodeSegment : Descriptor :=
  KernelSegment (USER_SEGMENT ||| PRESENT ||| EXECUTABLE ||| LONG_MODE ||| DPL_RING_0)

/-- `kernel_data_segment`. -/
def kernelDataSegment : Descriptor :=
  KernelSegment (USER_SEGMENT ||| PRESENT ||| DPL_RING_0 ||| WRITABLE)

/-- `kernel_thread_local_store`. -/
def kernelThreadLocalStore : Descriptor :=
  KernelSegment (USER_SEGMENT ||| PRESENT ||| LONG_MODE ||| DPL_RING_0)

/-- `user_data_segment`. -/
def userDataSegment : Descriptor :=
  UserSegment (USER_SEGMENT ||| PRESENT ||| WRITABLE ||| DPL_RING_3)

/-- `user_code_segment`. -/
def userCodeSegment : Descriptor :=
  UserSegment (USER_SEGMENT ||| PRESENT ||| EXECUTABLE ||| LONG_MODE ||| DPL_RING_3)

/-- `tss_segment`, for a segment at address `ptr`.  `size_of::<TaskStateSegment>()` is the
parameter `tssSize` (the segment's type is declared outside the sources), and `- 1` wraps as a
release build's `usize` does.  Each `set_bits` keeps the crate's assertion that the value fits:
only the limit can fail it. -/
def tssSegment (ptr tssSize : BitVec 64) : Option Descriptor := do
  let low ← setBitsChecked PRESENT 16 40 (getBits ptr 0 24)
  let low ← setBitsChecked low 56 64 (getBits ptr 24 32)
  let low ← setBitsChecked low 0 16 (tssSize - 1)
  let low ← setBitsChecked low 40 44 0b1001#64
  let high ← setBitsChecked 0#64 0 32 (getBits ptr 32 64)
  pure (.SystemSegment low high)

/-- The base address of a system descriptor, by the layout table: bits 16–39 and 56–63 of the
low word, then bits 0–31 of the high word. -/
def systemBase (low high : BitVec 64) : BitVec 64 :=
  getBits low 16 40 ||| getBits low 56 64 <<< 24 ||| getBits high 0 32 <<< 32

/-- The limit of a system descriptor, by the layout table: bits 0–15, then bits 48–51. -/
def systemLimit (low : BitVec 64) : BitVec 64 :=
  getBits low 0 16 ||| getBits low 48 52 <<< 16

/-! ## The words `tss_segment` writes -/

/-- The low word `tss_segment` builds, with limit `limit`. -/
def tssLow (ptr limit : BitVec 64) : BitVec 64 :=
  setBits (setBits (setBits (setBits PRESENT 16 40 (getBits ptr 0 24)) 56 64
    (getBits ptr 24 32)) 0 16 limit) 40 44 0b1001#64

/-- The high word `tss_segment` builds. -/
def tssHigh (ptr : BitVec 64) : BitVec 64 := setBits 0#64 0 32 (getBits ptr 32 64)

theorem tssSegment_eq (ptr tssSize : BitVec 64) (h : (tssSize - 1).toNat < 2 ^ 16) :
    tssSegment ptr tssSize = some (.SystemSegment (tssLow ptr (tssSize - 1)) (tssHigh ptr)) := by
  have hs : (tssSize - 1).toNat < 2 ^ (16 - 0) := h
  simp (disch := decide) only [tssSegment, setBitsChecked_getBits, setBitsChecked_of_lt hs,
    setBitsChecked_of_lt (show (0b1001#64).toNat < 2 ^ (44 - 40) by decide)]
  rfl

theorem tssSegment_eq_none (ptr tssSize : BitVec 64) (h : 2 ^ 16 ≤ (tssSize - 1).toNat) :
    tssSegment ptr tssSize = none := by
  have hs : setBitsChecked (setBits (setBits PRESENT 16 40 (getBits ptr 0 24)) 56 64
      (getBits ptr 24 32)) 0 16 (tssSize - 1) = none := if_neg (Nat.not_lt.mpr h)
  simp (disch := decide) only [tssSegment, setBitsChecked_getBits, Option.bind_eq_bind,
    Option.some_bind, hs, Option.none_bind]

/-- The low word bit by bit: the limit, the base's low 24 bits, its next 8 at the top, and the
constant bits — the type `1001` at 40–43 and the present bit 47. -/
theorem getLsbD_tssLow (ptr limit : BitVec 64) (h : limit.toNat < 2 ^ 16) (i : Nat) :
    (tssLow ptr limit).getLsbD i =
      if i < 16 then limit.getLsbD i
      else if i < 40 then ptr.getLsbD (i - 16)
      else if 56 ≤ i ∧ i < 64 then ptr.getLsbD (i - 32)
      else decide (i = 40 ∨ i = 43 ∨ i = 47) := by
  rw [tssLow, getLsbD_setBits _ _ (by decide) (by decide), getLsbD_setBits _ _ (by decide) h,
    getLsbD_setBits_getBits _ _ (by decide) (by decide),
    getLsbD_setBits_getBits _ _ (by decide) (by decide), getLsbD_PRESENT]
  by_cases h16 : i < 16
  · rw [if_neg (by omega), if_pos ⟨Nat.zero_le i, h16⟩, if_pos h16, Nat.sub_zero]
  by_cases h40 : i < 40
  · rw [if_neg (by omega), if_neg (by omega), if_neg (by omega), if_pos ⟨by omega, h40⟩,
      if_neg h16, if_pos h40, Nat.zero_add]
  by_cases h44 : i < 44
  · rw [if_pos ⟨by omega, h44⟩, if_neg h16, if_neg h40, if_neg (by omega)]
    obtain rfl | rfl | rfl | rfl : i = 40 ∨ i = 41 ∨ i = 42 ∨ i = 43 := by omega
    all_goals rfl
  rw [if_neg (by omega), if_neg (by omega), if_neg h16, if_neg h40]
  by_cases h64 : 56 ≤ i ∧ i < 64
  · rw [if_pos h64, if_pos h64]
    congr 1
    omega
  · rw [if_neg h64, if_neg h64, if_neg (by omega), decide_eq_decide]
    omega

theorem getLsbD_tssHigh (ptr : BitVec 64) (i : Nat) :
    (tssHigh ptr).getLsbD i = (decide (i < 32) && ptr.getLsbD (32 + i)) := by
  rw [tssHigh, getLsbD_setBits_getBits _ _ (by decide) (by decide)]
  by_cases hi : i < 32
  · simp [hi]
  · simp [hi]

/-- Each field of the low word, read back. -/
theorem tssLow_fields (ptr limit : BitVec 64) (h : limit.toNat < 2 ^ 16) :
    getBits (tssLow ptr limit) 16 40 = getBits ptr 0 24 ∧
      getBits (tssLow ptr limit) 56 64 = getBits ptr 24 32 ∧
      getBits (tssLow ptr limit) 0 16 = limit ∧ getBits (tssLow ptr limit) 40 44 = 0b1001#64 ∧
      getBits (tssLow ptr limit) 44 47 = 0#64 ∧ getBit (tssLow ptr limit) 47 = true ∧
      getBits (tssLow ptr limit) 48 52 = 0#64 ∧ getBits (tssLow ptr limit) 52 56 = 0#64 := by
  have hL := getLsbD_tssLow ptr limit h
  refine ⟨getBits_eq_of_getLsbD (toNat_getBits_lt ptr (by decide)) fun j hj => ?_,
    getBits_eq_of_getLsbD (toNat_getBits_lt ptr (by decide)) fun j hj => ?_,
    getBits_eq_of_getLsbD h fun j hj => ?_, getBits_eq_of_getLsbD (by decide) fun j hj => ?_,
    getBits_eq_zero_of fun j hj => ?_, by rw [getBit, hL]; rfl, getBits_eq_zero_of fun j hj => ?_,
    getBits_eq_zero_of fun j hj => ?_⟩
  · rw [hL, if_neg (by omega), if_pos (by omega), getLsbD_getBits, decide_eq_true (by omega),
      Bool.true_and]
    congr 1
    omega
  · rw [hL, if_neg (by omega), if_neg (by omega), if_pos (by omega), getLsbD_getBits,
      decide_eq_true (by omega), Bool.true_and]
    congr 1
    omega
  · rw [hL, if_pos (by omega), Nat.zero_add]
  · rw [hL, if_neg (by omega), if_neg (by omega), if_neg (by omega)]
    obtain rfl | rfl | rfl | rfl : j = 0 ∨ j = 1 ∨ j = 2 ∨ j = 3 := by omega
    all_goals rfl
  all_goals rw [hL, if_neg (by omega), if_neg (by omega), if_neg (by omega),
    decide_eq_false (by omega)]

theorem tssHigh_fields (ptr : BitVec 64) :
    getBits (tssHigh ptr) 0 32 = getBits ptr 32 64 ∧ getBits (tssHigh ptr) 32 64 = 0#64 := by
  refine ⟨getBits_eq_of_getLsbD (toNat_getBits_lt ptr (by decide)) fun j hj => ?_,
    getBits_eq_zero_of fun j hj => ?_⟩
  · rw [getLsbD_tssHigh, getLsbD_getBits, Nat.zero_add]
  · rw [getLsbD_tssHigh, decide_eq_false (by omega), Bool.false_and]

/-- A word is its bits 0–23, 24–31 and 32–63 put back in place: the base's three pieces. -/
theorem getBits_base_reassemble (x : BitVec 64) :
    getBits x 0 24 ||| getBits x 24 32 <<< 24 ||| getBits x 32 64 <<< 32 = x := by
  have hlo : (getBits x 0 24 ||| getBits x 24 32 <<< 24).toNat = x.toNat % 2 ^ (24 + 8) :=
    toNat_or_shiftLeft_digit (by decide)
      (by rw [toNat_getBits_mod x (by decide), Nat.pow_zero, Nat.div_one])
      (toNat_getBits_mod x (by decide))
  apply BitVec.eq_of_toNat_eq
  rw [toNat_or_shiftLeft_digit (n := x.toNat) (m := 32) (by decide) hlo
    (by rw [toNat_getBits_mod x (by decide)])]
  exact Nat.mod_eq_of_lt x.isLt

/-- **The TSS descriptor encodes the segment.**  `tss_segment` panics exactly when the limit
`size_of - 1` does not fit 16 bits.  Otherwise the descriptor, read by its layout table, has the
segment's address as its base and `size_of - 1` as its limit, type `1001`, S and DPL zero, the
present bit, bits 52–55 (AVL, L, D/B, G) zero, and the high word's reserved half zero. -/
theorem tssSegment_encodes (ptr tssSize : BitVec 64) :
    (tssSegment ptr tssSize).isSome = decide ((tssSize - 1).toNat < 2 ^ 16) ∧
      ∀ low high, tssSegment ptr tssSize = some (.SystemSegment low high) →
        systemBase low high = ptr ∧ systemLimit low = tssSize - 1 ∧
          getBits low 40 44 = 0b1001#64 ∧ getBits low 44 47 = 0#64 ∧ getBit low 47 = true ∧
          getBits low 52 56 = 0#64 ∧ getBits high 32 64 = 0#64 := by
  by_cases h : (tssSize - 1).toNat < 2 ^ 16
  · rw [tssSegment_eq ptr tssSize h]
    refine ⟨by rw [Option.isSome_some, decide_eq_true h], fun low high he => ?_⟩
    obtain ⟨rfl, rfl⟩ : tssLow ptr (tssSize - 1) = low ∧ tssHigh ptr = high := by
      simpa using he
    obtain ⟨h16, h56, hlim, hty, hdpl, hp, hlimH, hz⟩ := tssLow_fields ptr (tssSize - 1) h
    obtain ⟨hbase, hres⟩ := tssHigh_fields ptr
    refine ⟨?_, ?_, hty, hdpl, hp, hz, hres⟩
    · rw [systemBase, h16, h56, hbase, getBits_base_reassemble]
    · rw [systemLimit, hlim, hlimH, BitVec.zero_shiftLeft, BitVec.or_zero]
  · rw [tssSegment_eq_none ptr tssSize (Nat.le_of_not_lt h)]
    exact ⟨by rw [Option.isSome_none, decide_eq_false h], fun _ _ he => Option.noConfusion he⟩

/-- A 104-byte segment at `0xFFFF_8000_1234_5678`. -/
theorem tssSegment_encodes_at_104 :
    tssSegment 0xFFFF800012345678#64 104#64 =
        some (.SystemSegment 0x1200893456780067#64 0xFFFF8000#64) ∧
      systemBase 0x1200893456780067#64 0xFFFF8000#64 = 0xFFFF800012345678#64 ∧
      systemLimit 0x1200893456780067#64 = 103#64 :=
  have h := (tssSegment_encodes 0xFFFF800012345678#64 104#64).2 _ _ (by decide)
  ⟨by decide, h.1, h.2.1⟩

end Descriptor

end LibArch
