import LibArch.Address.Virt

/-!
# Paging/Frame — frames and pages of a size class

`Frame<S>` and `Page<S>` belong to the missing `paging/mod.rs` and are modelled from the spec: a
frame is a valid physical address aligned to its class, a page a virtual address aligned to its
class.  `include_address` gives the frame, or the page, that an address lies in; on an aligned
address it is that address (`startAddress_includeAddress`).
-/

namespace LibArch

/-- Modelled from the spec: `Frame<S>`, a locator of physical memory — a valid physical address
aligned to the class `S`. -/
@[ext] structure Frame (S : PageSize) where
  startAddress : PhysAddr
  aligned : startAddress.asU64.toNat % S.P_SIZE.toNat = 0
  valid : startAddress.IsValid

/-- Modelled from the spec: `Page<S>`, a locator of virtual memory — a virtual address aligned to
the class `S`. -/
@[ext] structure Page (S : PageSize) where
  startAddress : VirtAddr
  aligned : startAddress.asU64.toNat % S.P_SIZE.toNat = 0

namespace PageSize

theorem toNat_P_SIZE_sub_one (S : PageSize) : (S.P_SIZE - 1).toNat = 2 ^ S.shift - 1 :=
  toNat_sub_one_of_two_pow S.toNat_P_SIZE

/-- The start of the block of class `S` holding `x`: `x & !(P_SIZE - 1)`. -/
theorem toNat_and_not (S : PageSize) (x : BitVec 64) :
    (x &&& ~~~(S.P_SIZE - 1)).toNat = x.toNat - x.toNat % S.P_SIZE.toNat := by
  rw [toNat_and_not_low x S.toNat_P_SIZE_sub_one, S.toNat_P_SIZE]

end PageSize

namespace Frame

variable {S : PageSize}

/-- Modelled from the spec: `Frame::include_address`, the frame holding a valid address — the
address rounded down to the class. -/
def includeAddress (addr : PhysAddr) (h : addr.IsValid) : Frame S where
  startAddress := ⟨addr.raw &&& ~~~(S.P_SIZE - 1)⟩
  aligned := by
    rw [PhysAddr.asU64_eq, S.toNat_and_not]
    exact Nat.mod_eq_zero_of_dvd (Nat.dvd_sub_mod _)
  valid := by
    have := PhysAddr.isValid_iff.mp h
    rw [PhysAddr.isValid_iff, S.toNat_and_not]
    omega

/-- On an aligned address `include_address` is that address. -/
theorem startAddress_includeAddress {addr : PhysAddr} (h : addr.IsValid)
    (ha : addr.asU64.toNat % S.P_SIZE.toNat = 0) :
    (includeAddress addr h : Frame S).startAddress = addr := by
  cases addr
  simp only [PhysAddr.asU64_eq] at ha
  exact congrArg PhysAddr.mk (BitVec.eq_of_toNat_eq (by rw [S.toNat_and_not, ha]; rfl))

theorem includeAddress_startAddress (f : Frame S) : includeAddress f.startAddress f.valid = f :=
  Frame.ext (startAddress_includeAddress f.valid f.aligned)

end Frame

namespace Page

variable {S : PageSize}

/-- Modelled from the spec: `Page::include_address`, the page holding an address — the address
rounded down to the class. -/
def includeAddress (addr : VirtAddr) : Page S where
  startAddress := ⟨addr.raw &&& ~~~(S.P_SIZE - 1)⟩
  aligned := by
    rw [VirtAddr.asU64_eq, S.toNat_and_not]
    exact Nat.mod_eq_zero_of_dvd (Nat.dvd_sub_mod _)

/-- On an aligned address `include_address` is that address. -/
theorem startAddress_includeAddress {addr : VirtAddr}
    (ha : addr.asU64.toNat % S.P_SIZE.toNat = 0) :
    (includeAddress addr : Page S).startAddress = addr := by
  cases addr
  simp only [VirtAddr.asU64_eq] at ha
  exact congrArg VirtAddr.mk (BitVec.eq_of_toNat_eq (by rw [S.toNat_and_not, ha]; rfl))

end Page

end LibArch
