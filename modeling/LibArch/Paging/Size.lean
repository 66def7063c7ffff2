import LibArch.Bits

/-!
# Paging/Size — page-size classes and the two table-index types

`paging/mod.rs`, where these are declared, is not among the sources: `virt.rs`, `page_table.rs`
and `mapper/mod.rs` only use them.  They are modelled from the spec — a closed variant of three
size classes carrying their byte size, and the truncating index types, which cannot hold an
out-of-range value.
-/

namespace LibArch

/-- Modelled from the spec: the page-size classes `Page4KB`, `Page2MB` and `Page1GB` of the
missing `paging/mod.rs`, a closed variant carrying each class's byte size. -/
inductive PageSize
  | Page4KB
  | Page2MB
  | Page1GB
  deriving DecidableEq, Repr

namespace PageSize

/-- `PageSize::P_SIZE`: the byte size of a class, a `u64`. -/
def P_SIZE : PageSize → BitVec 64
  | Page4KB => 0x1000#64
  | Page2MB => 0x200000#64
  | Page1GB => 0x40000000#64

/-- The class's size as a power of two: `P_SIZE = 2 ^ shift`. -/
def shift : PageSize → Nat
  | Page4KB => 12
  | Page2MB => 21
  | Page1GB => 30

theorem toNat_P_SIZE (S : PageSize) : S.P_SIZE.toNat = 2 ^ S.shift := by
  cases S <;> rfl

/-- Every class divides `2^48`, so rewriting bits 48–63 keeps an aligned address aligned. -/
theorem P_SIZE_dvd (S : PageSize) : S.P_SIZE.toNat ∣ 2 ^ 48 := by
  rw [toNat_P_SIZE]
  exact Nat.pow_dvd_pow 2 (by cases S <;> decide)

end PageSize

/-! ## Indices into a table and into a page -/

/-- Modelled from the spec: `PageIndex`, a 9-bit table index held in a `u16`; it cannot represent
an out-of-range value. -/
@[ext] structure PageIndex where
  val : BitVec 16
  isLt : val.toNat < 512

end LibArch
