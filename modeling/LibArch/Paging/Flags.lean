import LibArch.Bits

/-!
# Paging/Flags — `bitflags!` sets and `PageTableFlags`

A `bitflags!` struct is a `u64` holding only its declared bits: `from_bits_truncate` drops the
others, `bits` and `contains` read it.  `BitFlags ALL` carries that invariant as a field, so a
flag set with an undeclared bit cannot be built; `PageTableFlags` (`paging/flags.rs`) is an
instance.

* `fromBitsTruncate_or` — truncating a word whose other part lies outside the declared bits gives
  back the flag set: the decoding half of every encode/decode law;
* `PageTableFlags.ALL_eq` — the 24 declared entry bits are exactly bits 0–11 and 52–63.
-/

namespace LibArch

/-- A `bitflags!` set over the declared bits `ALL`: a word with no bit outside them. -/
@[ext] structure BitFlags (ALL : BitVec 64) where
  bits : BitVec 64
  subset : bits &&& ALL = bits

namespace BitFlags

variable {ALL : BitVec 64}

/-- `from_bits_truncate`: the declared bits of a word. -/
def fromBitsTruncate (b : BitVec 64) : BitFlags ALL :=
  ⟨b &&& ALL, by rw [BitVec.and_assoc, BitVec.and_self]⟩

/-- `contains`: every bit of `other` is set. -/
def contains (f other : BitFlags ALL) : Bool := f.bits &&& other.bits == other.bits

/-- A single declared bit, as the `const`s of a `bitflags!` block are. -/
def ofBit (b : BitVec 64) (h : b &&& ALL = b) : BitFlags ALL := ⟨b, h⟩

@[simp] theorem bits_fromBitsTruncate (b : BitVec 64) :
    (fromBitsTruncate b : BitFlags ALL).bits = b &&& ALL := rfl

/-- A flag set has no bit that the declared bits do not have. -/
theorem bits_and_eq_zero (f : BitFlags ALL) {m : BitVec 64} (h : ALL &&& m = 0#64) :
    f.bits &&& m = 0#64 := by
  rw [← f.subset, BitVec.and_assoc, h, BitVec.and_zero]

/-- Truncating `x | f.bits`, with `x` outside the declared bits, gives back `f`. -/
theorem fromBitsTruncate_or {x : BitVec 64} (hx : x &&& ALL = 0#64) (f : BitFlags ALL) :
    fromBitsTruncate (x ||| f.bits) = f := by
  ext1
  rw [bits_fromBitsTruncate]
  conv_rhs => rw [← f.subset]
  ext i
  have := congrArg (BitVec.getLsbD · i) hx
  simp only [BitVec.getLsbD_and, BitVec.getLsbD_or, BitVec.getLsbD_zero] at this ⊢
  cases hA : ALL.getLsbD i <;> simp_all

end BitFlags

/-! ## Page-table entry flags -/

namespace PageTableFlags

/-- The 24 declared bits, `PageTableFlags::all().bits()`: `PRESENT`, `WRITABLE`,
`USER_ACCESSIBLE`, `WRITE_THROUGH`, `NO_CACHE`, `ACCESSED`, `DIRTY`, `HUGE_PAGE`, `GLOBAL` and
`BIT_9`–`BIT_11` at `1 << 0` … `1 << 11`; `BIT_52`–`BIT_59`, `PROTECTION_60`–`PROTECTION_62` and
`NO_EXECUTE` at `1 << 52` … `1 << 63`. -/
def ALL : BitVec 64 :=
  1#64 <<< 0 ||| 1#64 <<< 1 ||| 1#64 <<< 2 ||| 1#64 <<< 3 ||| 1#64 <<< 4 ||| 1#64 <<< 5 |||
    1#64 <<< 6 ||| 1#64 <<< 7 ||| 1#64 <<< 8 ||| 1#64 <<< 9 ||| 1#64 <<< 10 ||| 1#64 <<< 11 |||
    1#64 <<< 52 ||| 1#64 <<< 53 ||| 1#64 <<< 54 ||| 1#64 <<< 55 ||| 1#64 <<< 56 |||
    1#64 <<< 57 ||| 1#64 <<< 58 ||| 1#64 <<< 59 ||| 1#64 <<< 60 ||| 1#64 <<< 61 |||
    1#64 <<< 62 ||| 1#64 <<< 63

/-- The declared bits cover exactly what the address mask of an entry leaves out. -/
theorem ALL_eq : ALL = ~~~0x000FFFFFFFFFF000#64 := by decide

end PageTableFlags

/-- `PageTableFlags` (`paging/flags.rs`). -/
abbrev PageTableFlags := BitFlags PageTableFlags.ALL

namespace PageTableFlags

/-- `PRESENT = 1 << 0`. -/
def PRESENT : PageTableFlags := BitFlags.ofBit (1#64 <<< 0) (by decide)

/-- `HUGE_PAGE = 1 << 7`. -/
def HUGE_PAGE : PageTableFlags := BitFlags.ofBit (1#64 <<< 7) (by decide)

end PageTableFlags

end LibArch
