import LibArch.Paging.PageTable

/-!
# Chips/Control — the control registers `CR0`, `CR3` and `CR4` of `chips/control.rs`

The registers' `read_raw` and `write_raw` are instructions outside the core: here a register is
the `u64` it holds, a `read` a function of that word and a `write` the word it stores.

`CR3` holds the root table's frame in the entry's address field, bits 12–51, and two cache flags
in bits 3 and 4.  `CR0::write` and `CR4::write` (and `Efer::write`, over a model-specific
register) store new flags over the register's old word and keep its other bits.

* `startAddress_read` — `CR3::read` decodes its frame exactly as an entry decodes its address;
* `read_inverts_write` — reading back what `CR3::write` stores gives the frame and the flags,
  and the frame read from any word is that word's bits 12–51;
* `writeReserved_spec` — `CR0::write`, `CR4::write` and `Efer::write` read back their flags and
  keep every reserved bit.
-/

namespace LibArch

/-! ## The flag sets of `chips/flags.rs`

Each is a `bitflags!` set over its declared bits, their union `all()`; of the named constants
only those the register code tests are given. -/

namespace CR0Flags

/-- `CR0Flags::all().bits()`: `PROTECTED_MODE_ENABLE` … `TASK_SWITCHED` at `1 << 0` … `1 << 3`,
`NUMERIC_ERROR` at `1 << 5`, `WRITE_PROTECT` at `1 << 16`, `ALIGNMENT_MASK` at `1 << 18`, and
`NOT_WRITE_THROUGH`, `CACHE_DISABLE`, `PAGING` at `1 << 29` … `1 << 31`. -/
def ALL : BitVec 64 :=
  1#64 <<< 0 ||| 1#64 <<< 1 ||| 1#64 <<< 2 ||| 1#64 <<< 3 ||| 1#64 <<< 5 ||| 1#64 <<< 16 |||
    1#64 <<< 18 ||| 1#64 <<< 29 ||| 1#64 <<< 30 ||| 1#64 <<< 31

end CR0Flags

/-- `CR0Flags`. -/
abbrev CR0Flags := BitFlags CR0Flags.ALL

namespace CR0Flags

/-- `CR0Flags::PROTECTED_MODE_ENABLE = 1 << 0`. -/
def PROTECTED_MODE_ENABLE : CR0Flags := BitFlags.ofBit (1#64 <<< 0) (by decide)

/-- `CR0Flags::PAGING = 1 << 31`. -/
def PAGING : CR0Flags := BitFlags.ofBit (1#64 <<< 31) (by decide)

end CR0Flags

namespace CR3Flags

/-- `CR3Flags::all().bits()`: `PAGE_LEVEL_WRITETHROUGH = 1 << 3` and
`PAGE_LEVEL_CACHE_DISABLE = 1 << 4`. -/
def ALL : BitVec 64 := 1#64 <<< 3 ||| 1#64 <<< 4

end CR3Flags

/-- `CR3Flags`. -/
abbrev CR3Flags := BitFlags CR3Flags.ALL

namespace CR4Flags

/-- `CR4Flags::all().bits()`: `VIRTUAL_8086_MODE_EXTENSIONS` … `SAFER_MODE_EXTENSIONS` at
`1 << 0` … `1 << 14`, `FSGSBASE`, `PCID`, `OSXSAVE` at `1 << 16` … `1 << 18`, and
`SUPERVISOR_MODE_EXECUTION_PROTECTION` … `PROTECTION_KEY` at `1 << 20` … `1 << 22`. -/
def ALL : BitVec 64 :=
  1#64 <<< 0 ||| 1#64 <<< 1 ||| 1#64 <<< 2 ||| 1#64 <<< 3 ||| 1#64 <<< 4 ||| 1#64 <<< 5 |||
    1#64 <<< 6 ||| 1#64 <<< 7 ||| 1#64 <<< 8 ||| 1#64 <<< 9 ||| 1#64 <<< 10 ||| 1#64 <<< 11 |||
    1#64 <<< 12 ||| 1#64 <<< 13 ||| 1#64 <<< 14 ||| 1#64 <<< 16 ||| 1#64 <<< 17 |||
    1#64 <<< 18 ||| 1#64 <<< 20 ||| 1#64 <<< 21 ||| 1#64 <<< 22

end CR4Flags

/-- `CR4Flags`. -/
abbrev CR4Flags := BitFlags CR4Flags.ALL

namespace CR4Flags

/-- `CR4Flags::PHYSICAL_ADDRESS_EXTENSION = 1 << 5`. -/
def PHYSICAL_ADDRESS_EXTENSION : CR4Flags := BitFlags.ofBit (1#64 <<< 5) (by decide)

end CR4Flags

namespace EferFlags

/-- `EferFlags::all().bits()`: `SYSTEM_CALL_EXTENSIONS = 1 << 0`, `LONG_MODE_ENABLE = 1 << 8`, and
`LONG_MODE_ACTIVE` … `TRANSLATION_CACHE_EXTENSION` at `1 << 10` … `1 << 15`. -/
def ALL : BitVec 64 :=
  1#64 <<< 0 ||| 1#64 <<< 8 ||| 1#64 <<< 10 ||| 1#64 <<< 11 ||| 1#64 <<< 12 ||| 1#64 <<< 13 |||
    1#64 <<< 14 ||| 1#64 <<< 15

end EferFlags

/-- `EferFlags`. -/
abbrev EferFlags := BitFlags EferFlags.ALL

namespace EferFlags

/-- `EferFlags::LONG_MODE_ENABLE = 1 << 8`. -/
def LONG_MODE_ENABLE : EferFlags := BitFlags.ofBit (1#64 <<< 8) (by decide)

end EferFlags

/-! ## Writing flags over the reserved bits

`CR0::write`, `CR4::write` and `Efer::write` have one body, over their own declared bits: the old
word's bits outside them kept, the new flags written in. -/

namespace BitFlags

variable {ALL : BitVec 64}

/-- The body of `CR0::write`, `CR4::write` and `Efer::write`: `reserved = old & !all().bits()`,
then `reserved | flags.bits()`. -/
def writeReserved (old : BitVec 64) (flags : BitFlags ALL) : BitVec 64 :=
  (old &&& ~~~ALL) ||| flags.bits

/-- **Writing flags keeps the reserved bits.**  The flags of the stored word (`flags()`, which
truncates it) are those written, and its bits outside the declared ones are the old word's. -/
theorem writeReserved_spec (old : BitVec 64) (flags : BitFlags ALL) :
    fromBitsTruncate (writeReserved old flags) = flags ∧
      writeReserved old flags &&& ~~~ALL = old &&& ~~~ALL := by
  have hA : ALL &&& ~~~ALL = 0#64 := by
    ext i
    simp
  have hx : old &&& ~~~ALL &&& ALL = 0#64 := by
    rw [BitVec.and_assoc, BitVec.and_comm (~~~ALL), hA, BitVec.and_zero]
  refine ⟨fromBitsTruncate_or hx flags, ?_⟩
  rw [writeReserved, PageTableEntry.or_and_distrib, flags.bits_and_eq_zero hA, BitVec.or_zero,
    BitVec.and_assoc, BitVec.and_self]

end BitFlags

/-- `CR0::write`, over the register's old word:
`(old & !CR0Flags::all().bits()) | flags.bits()`. -/
def CR0.write (old : BitVec 64) (flags : CR0Flags) : BitVec 64 :=
  BitFlags.writeReserved old flags

/-- `CR4::write`, over the register's old word:
`(old & !CR4Flags::all().bits()) | flags.bits()`. -/
def CR4.write (old : BitVec 64) (flags : CR4Flags) : BitVec 64 :=
  BitFlags.writeReserved old flags

/-! ## `CR3`: the root table's frame -/

namespace CR3

/-- `CR3::read`, of the register's word `data`: the frame holding
`PhysAddr::new(data & 0x00F_FFFF_FFFF_F000)`, and `CR3Flags::from_bits_truncate(data)`.  The mask
is an entry's address mask: it clears bits 52–63, so the check in `PhysAddr::new` always passes
(`new_read`) and the model passes the masked word on. -/
def read (data : BitVec 64) : Frame .Page4KB × CR3Flags :=
  (Frame.includeAddress ⟨data &&& 0x000FFFFFFFFFF000#64⟩ (PageTableEntry.mk data).addr_isValid,
    BitFlags.fromBitsTruncate data)

/-- `CR3::write`: the word `frame.start_address().as_u64() | flags.bits()` it stores. -/
def write (frame : Frame .Page4KB) (flags : CR3Flags) : BitVec 64 :=
  frame.startAddress.asU64 ||| flags.bits

theorem new_read (data : BitVec 64) :
    PhysAddr.new (data &&& 0x000FFFFFFFFFF000#64) = some ⟨data &&& 0x000FFFFFFFFFF000#64⟩ :=
  (PageTableEntry.mk data).new_addr

/-- `CR3::read` decodes its frame exactly as an entry decodes its address: the masked word is
already aligned, so `include_address` keeps it. -/
theorem startAddress_read (data : BitVec 64) :
    (read data).1.startAddress = (PageTableEntry.mk data).addr :=
  Frame.startAddress_includeAddress (PageTableEntry.mk data).addr_isValid
    (PageTableEntry.mk data).addr_aligned

/-- The frame's start lies in the address field and the flags outside it, so both read back. -/
theorem read_write (f : Frame .Page4KB) (fl : CR3Flags) : read (write f fl) = (f, fl) := by
  have ha : f.startAddress.asU64.toNat % 4096 = 0 := f.aligned
  have hA := PageTableEntry.and_eq_zero_of_aligned ha f.valid (b := CR3Flags.ALL) (by decide)
  refine Prod.ext (Frame.ext ?_) (BitFlags.fromBitsTruncate_or hA fl)
  rw [startAddress_read]
  exact PageTableEntry.addr_or ha f.valid (fl.bits_and_eq_zero (by decide))

/-- **The `CR3` encoding round-trips.**  Reading back the word `CR3::write` stores gives the frame
and the flags written; and for every word, `CR3::read` does not panic and its frame starts at the
word's bits 12–51, bits 0–11 and 52–63 cleared. -/
theorem read_inverts_write :
    (∀ (f : Frame .Page4KB) (fl : CR3Flags), read (write f fl) = (f, fl)) ∧
      ∀ d : BitVec 64,
        PhysAddr.new (d &&& 0x000FFFFFFFFFF000#64) = some (read d).1.startAddress ∧
          ∀ i, (read d).1.startAddress.asU64.getLsbD i =
            (decide (12 ≤ i ∧ i < 52) && d.getLsbD i) := by
  refine ⟨read_write, fun d => ⟨?_, fun i => ?_⟩⟩ <;> rw [startAddress_read]
  · exact new_read d
  · exact PageTableEntry.getLsbD_addr _ i

end CR3

end LibArch
