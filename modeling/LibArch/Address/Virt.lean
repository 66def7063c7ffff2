import LibArch.Address.Phys
import LibArch.Paging.Size

/-!
# Address/Virt — `VirtAddr` of `address/virt.rs`

A virtual address is a `u64` whose bits 48–63 replicate bit 47.  `try_new` decides on bits
47–63: all zero or all one is accepted as it is, the single pattern `1` (bit 47 set, bits
48–63 clear) is accepted sign-extended, anything else is an error.  The arithmetic goes back
through `new`; the two alignment methods call the helpers the other way round from their names
and wrap the result directly.

* `isCanonical_iff` — the canonical rule as the two halves of the 48-bit space;
* `tryNew_accepts_sign_extensions` — what `try_new` and `new` return, for every word;
* `newUnchecked_isCanonical`, `new_isCanonical`, `add_isCanonical`, `sub_isCanonical` — the
  operations that keep the rule; `alignDown_leaves_canonical_range` — one that does not;
* `alignUp_isGreatest` / `alignDown_isLeast` — `align_up` rounds down, `align_down` rounds up;
* `indices_reconstruct` / `indices_eq_iff` — the four table indices and the page offset
  are the low 48 bits, and pin a canonical address.
-/

namespace LibArch

/-- `VirtAddr(u64)`. -/
@[ext] structure VirtAddr where
  raw : BitVec 64
  deriving DecidableEq, Repr

/-- `NoCanonicalAddr(u64)`, carrying bits 47–63 of the rejected word. -/
structure NoCanonicalAddr where
  bits : BitVec 64
  deriving DecidableEq, Repr

namespace VirtAddr

/-! ## The model -/

/-- `as_u64` (and `as_usize`, the same word on a 64-bit target). -/
def asU64 (a : VirtAddr) : BitVec 64 := a.raw

/-- `VirtAddr::new_unchecked`: bits 48–63 rewritten from bit 47, the rest kept. -/
def newUnchecked (addr : BitVec 64) : VirtAddr :=
  if getBit addr 47 then ⟨setBits addr 48 64 0xFFFF#64⟩ else ⟨setBits addr 48 64 0#64⟩

/-- `VirtAddr::try_new`: the match on bits 47–63 — `0 | 0x1FFFF` accept the word as it is, `1`
accepts it through `new_unchecked`, any other pattern is an error carrying it. -/
def tryNew (addr : BitVec 64) : Except NoCanonicalAddr VirtAddr :=
  if getBits addr 47 64 = 0#64 ∨ getBits addr 47 64 = 0x1FFFF#64 then .ok ⟨addr⟩
  else if getBits addr 47 64 = 1#64 then .ok (newUnchecked addr)
  else .error ⟨getBits addr 47 64⟩

/-- `VirtAddr::new`: `try_new(addr).expect(..)`; `none` is the panic. -/
def new (addr : BitVec 64) : Option VirtAddr :=
  match tryNew addr with
  | .ok a => some a
  | .error _ => none

/-- `VirtAddr::zero`. -/
def zero : VirtAddr := ⟨0#64⟩

/-- `from_pointer`: `Self::new(cast::u64(pointer as usize))`, the pointer's address. -/
def fromPointer (pointer : BitVec 64) : Option VirtAddr := new pointer

/-- `align_up` as the source writes it: `VirtAddr(align_down(self.0, align.into()))`. -/
def alignUp (a : VirtAddr) (align : BitVec 64) : Option VirtAddr :=
  (LibArch.alignDown a.raw align).map VirtAddr.mk

/-- `align_down` as the source writes it: `VirtAddr(align_up(self.0, align.into()))`. -/
def alignDown (a : VirtAddr) (align : BitVec 64) : Option VirtAddr :=
  (LibArch.alignUp a.raw align).map VirtAddr.mk

/-- `is_aligned`: `self.align_down(align) == self`. -/
def isAligned (a : VirtAddr) (align : BitVec 64) : Option Bool :=
  (a.alignDown align).map (· == a)

/-- `Add<u64>`: `VirtAddr::new(self.0 + rhs)`, the sum wrapping as in a release build.  `+=` and
the `usize` variants are this function (`cast::u64` is the identity on a 64-bit target). -/
def add (a : VirtAddr) (rhs : BitVec 64) : Option VirtAddr := new (a.raw + rhs)

/-- `Sub<u64>`: `VirtAddr::new(self.0.checked_sub(rhs).unwrap())`; `-=` and the `usize`
variants are this function. -/
def sub (a : VirtAddr) (rhs : BitVec 64) : Option VirtAddr := (checkedSub a.raw rhs).bind new

/-- `Sub<VirtAddr>`: the distance between two addresses. -/
def subAddr (a b : VirtAddr) : Option (BitVec 64) := checkedSub a.asU64 b.asU64

/-- The canonical rule: bits 48–63 all equal bit 47. -/
def IsCanonical (a : VirtAddr) : Prop :=
  getBits a.raw 48 64 = if getBit a.raw 47 then 0xFFFF#64 else 0#64

instance : DecidablePred IsCanonical := fun a =>
  inferInstanceAs (Decidable (getBits a.raw 48 64 = if getBit a.raw 47 then 0xFFFF#64 else 0#64))

@[simp] theorem asU64_eq (a : VirtAddr) : a.asU64 = a.raw := rfl

/-! ## The canonical rule as a range -/

theorem toNat_getBits_47 (x : BitVec 64) : (getBits x 47 64).toNat = x.toNat / 2 ^ 47 :=
  toNat_getBits x (by decide)

theorem isCanonical_iff {a : VirtAddr} :
    a.IsCanonical ↔ a.raw.toNat < 2 ^ 47 ∨ 2 ^ 64 - 2 ^ 47 ≤ a.raw.toNat := by
  have := a.raw.isLt
  unfold IsCanonical
  rw [getBit_eq, BitVec.toNat_eq, toNat_getBits _ (by decide)]
  split <;> simp_all <;> omega

/-! ## The constructors -/

theorem toNat_newUnchecked (v : BitVec 64) :
    (newUnchecked v).raw.toNat =
      v.toNat % 2 ^ 48 + if v.toNat / 2 ^ 47 % 2 = 1 then 0xFFFF * 2 ^ 48 else 0 := by
  unfold newUnchecked
  rw [getBit_eq]
  split <;> simp_all [toNat_setBits]

theorem newUnchecked_isCanonical (v : BitVec 64) : (newUnchecked v).IsCanonical := by
  rw [isCanonical_iff, toNat_newUnchecked]
  split <;> omega

theorem getBits_47_eq {v c : BitVec 64} : getBits v 47 64 = c ↔ v.toNat / 2 ^ 47 = c.toNat := by
  rw [BitVec.toNat_eq, toNat_getBits_47]

theorem tryNew_eq_ok_iff {v : BitVec 64} {a : VirtAddr} :
    tryNew v = .ok a ↔
      (v.toNat / 2 ^ 47 = 0 ∨ v.toNat / 2 ^ 47 = 0x1FFFF) ∧ a = ⟨v⟩ ∨
        v.toNat / 2 ^ 47 = 1 ∧ a = newUnchecked v := by
  unfold tryNew
  simp only [getBits_47_eq, BitVec.toNat_ofNat, Nat.reducePow, Nat.reduceMod]
  split_ifs with h1 h2
  · rw [Except.ok.injEq]
    exact ⟨fun h => .inl ⟨h1, h.symm⟩, by rintro (⟨-, rfl⟩ | ⟨h, -⟩) <;> first | rfl | omega⟩
  · rw [Except.ok.injEq]
    exact ⟨fun h => .inr ⟨h2, h.symm⟩, by rintro (⟨h, -⟩ | ⟨-, rfl⟩) <;> first | rfl | omega⟩
  · exact ⟨nofun, by rintro (⟨h, -⟩ | ⟨h, -⟩) <;> omega⟩

theorem new_eq_some_iff {v : BitVec 64} {a : VirtAddr} : new v = some a ↔ tryNew v = .ok a := by
  unfold new
  split <;> simp_all

theorem new_eq_none_of_error {v : BitVec 64} {e : NoCanonicalAddr} (h : tryNew v = .error e) :
    new v = none := by
  unfold new
  split
  · next h' => rw [h] at h'; cases h'
  · rfl

theorem tryNew_isCanonical {v : BitVec 64} {a : VirtAddr} (h : tryNew v = .ok a) :
    a.IsCanonical := by
  have := v.isLt
  rcases tryNew_eq_ok_iff.mp h with ⟨hv, rfl⟩ | ⟨-, rfl⟩
  · rw [isCanonical_iff]; dsimp only; omega
  · exact newUnchecked_isCanonical v

theorem new_isCanonical {v : BitVec 64} {a : VirtAddr} (h : new v = some a) : a.IsCanonical :=
  tryNew_isCanonical (new_eq_some_iff.mp h)

theorem zero_isCanonical : zero.IsCanonical := by decide

theorem fromPointer_isCanonical {v : BitVec 64} {a : VirtAddr} (h : fromPointer v = some a) :
    a.IsCanonical :=
  new_isCanonical h

/-- `new_unchecked` leaves a canonical word as it is. -/
theorem newUnchecked_of_isCanonical {v : BitVec 64} (h : (VirtAddr.mk v).IsCanonical) :
    newUnchecked v = ⟨v⟩ := by
  have := isCanonical_iff.mp h
  have := toNat_newUnchecked v
  exact VirtAddr.ext (BitVec.eq_of_toNat_eq (by dsimp only at *; split at this <;> omega))

/-- Whatever `new` returns is the word sign-extended from bit 47. -/
theorem eq_newUnchecked_of_new {v : BitVec 64} {a : VirtAddr} (h : new v = some a) :
    a = newUnchecked v := by
  have := v.isLt
  rcases tryNew_eq_ok_iff.mp (new_eq_some_iff.mp h) with ⟨hv, rfl⟩ | ⟨-, rfl⟩
  · exact (newUnchecked_of_isCanonical (isCanonical_iff.mpr (by dsimp only; omega))).symm
  · rfl

theorem tryNew_eq_error_iff {v : BitVec 64} {e : NoCanonicalAddr} :
    tryNew v = .error e ↔
      (v.toNat / 2 ^ 47 ≠ 0 ∧ v.toNat / 2 ^ 47 ≠ 0x1FFFF ∧ v.toNat / 2 ^ 47 ≠ 1) ∧
        e = ⟨getBits v 47 64⟩ := by
  unfold tryNew
  simp only [getBits_47_eq, BitVec.toNat_ofNat, Nat.reducePow, Nat.reduceMod]
  split_ifs with h1 h2
  · exact ⟨nofun, fun ⟨h, _⟩ => by omega⟩
  · exact ⟨nofun, fun ⟨h, _⟩ => by omega⟩
  · rw [Except.error.injEq]
    exact ⟨fun h => ⟨by omega, h.symm⟩, fun ⟨_, h⟩ => h.symm⟩

/-- `try_new` returns the word itself exactly when bits 47–63 are all zero or all one. -/
theorem tryNew_eq_self_iff (v : BitVec 64) :
    (∃ a, tryNew v = .ok a ∧ a.asU64 = v) ↔
      getBits v 47 64 = 0#64 ∨ getBits v 47 64 = 0x1FFFF#64 := by
  refine ⟨fun ⟨a, ha, hav⟩ => ?_, fun h => ⟨⟨v⟩, tryNew_eq_ok_iff.mpr
    (.inl ⟨h.imp getBits_47_eq.mp getBits_47_eq.mp, rfl⟩), rfl⟩⟩
  rcases tryNew_eq_ok_iff.mp ha with ⟨h, -⟩ | ⟨h, rfl⟩
  · exact h.imp getBits_47_eq.mpr getBits_47_eq.mpr
  · have hu := toNat_newUnchecked v
    have : (newUnchecked v).raw.toNat = v.toNat := congrArg BitVec.toNat hav
    have := v.isLt
    split at hu <;> omega

/-- Bits 47–63 equal to `1`: `try_new` accepts the word with bits 48–63 set. -/
theorem tryNew_of_bits_one {v : BitVec 64} (h : getBits v 47 64 = 1#64) :
    ∃ a, tryNew v = .ok a ∧ a.asU64.toNat = v.toNat + 0xFFFF000000000000 := by
  have h47 := getBits_47_eq.mp h
  simp only [BitVec.toNat_ofNat] at h47
  refine ⟨_, tryNew_eq_ok_iff.mpr (.inr ⟨h47, rfl⟩), ?_⟩
  rw [asU64_eq, toNat_newUnchecked, if_pos (by omega)]
  omega

/-- **What `try_new` and `new` return, for every word.**  `try_new` returns the word unchanged
exactly when bits 47–63 are all zero or all one; when they are `1` (bit 47 set, bits 48–63
clear) it returns the word with bits 48–63 set; otherwise it fails carrying bits 47–63.  `new`
returns what `try_new` returns and panics where it fails. -/
theorem tryNew_accepts_sign_extensions (v : BitVec 64) :
    ((∃ a, tryNew v = .ok a ∧ a.asU64 = v) ↔
        getBits v 47 64 = 0#64 ∨ getBits v 47 64 = 0x1FFFF#64) ∧
      (getBits v 47 64 = 1#64 →
        ∃ a, tryNew v = .ok a ∧ a.asU64.toNat = v.toNat + 0xFFFF000000000000) ∧
      (getBits v 47 64 ≠ 0#64 → getBits v 47 64 ≠ 0x1FFFF#64 → getBits v 47 64 ≠ 1#64 →
        tryNew v = .error ⟨getBits v 47 64⟩) ∧
      ∀ a, new v = some a ↔ tryNew v = .ok a :=
  ⟨tryNew_eq_self_iff v, tryNew_of_bits_one,
    fun h0 h1 h2 => tryNew_eq_error_iff.mpr ⟨⟨mt (getBits_47_eq (c := 0#64)).mpr h0,
      mt (getBits_47_eq (c := 0x1FFFF#64)).mpr h1, mt (getBits_47_eq (c := 1#64)).mpr h2⟩, rfl⟩,
    fun _ => new_eq_some_iff⟩

/-- The word whose bits 47–63 are `1` is accepted, sign-extended, where an error was expected. -/
theorem tryNew_sign_extends_bit_47 :
    getBits 0x0000800000000000#64 47 64 ≠ 0#64 ∧ getBits 0x0000800000000000#64 47 64 ≠ 0x1FFFF#64 ∧
      tryNew 0x0000800000000000#64 = .ok ⟨0xFFFF800000000000#64⟩ :=
  ⟨by decide, by decide, rfl⟩

theorem tryNew_accepts_sign_extensions_at_edges :
    (∃ a, tryNew 0x0000800000000000#64 = .ok a ∧
        a.asU64.toNat = 0x0000800000000000 + 0xFFFF000000000000) ∧
      tryNew 0x0001000000000000#64 = .error ⟨getBits 0x0001000000000000#64 47 64⟩ :=
  ⟨(tryNew_accepts_sign_extensions _).2.1 (by decide),
    (tryNew_accepts_sign_extensions _).2.2.1 (by decide) (by decide) (by decide)⟩

/-! ## The arithmetic

Both operations go back through `new`: a result is checked, and sign-extended where its bits
47–63 are `1`.  A subtraction that would go below zero panics; an addition past `2^64` wraps. -/

section Arithmetic

variable {a r : VirtAddr} {n : BitVec 64}

theorem add_isCanonical (h : a.add n = some r) : r.IsCanonical := new_isCanonical h

/-- An addition whose exact sum fits and is canonical returns that sum. -/
theorem toNat_add (h : a.add n = some r) (hn : a.raw.toNat + n.toNat < 2 ^ 64)
    (hc : (VirtAddr.mk (a.raw + n)).IsCanonical) : r.raw.toNat = a.raw.toNat + n.toNat := by
  rw [eq_newUnchecked_of_new h, newUnchecked_of_isCanonical hc, BitVec.toNat_add,
    Nat.mod_eq_of_lt hn]

theorem sub_eq_some_iff : a.sub n = some r ↔ ∃ d, checkedSub a.raw n = some d ∧ new d = some r := by
  unfold sub
  cases checkedSub a.raw n <;> simp

theorem sub_isCanonical (h : a.sub n = some r) : r.IsCanonical := by
  obtain ⟨_, -, hr⟩ := sub_eq_some_iff.mp h
  exact new_isCanonical hr

/-- A subtraction below zero panics rather than wrapping. -/
theorem sub_eq_none_of_lt (h : a.asU64.toNat < n.toNat) : a.sub n = none := by
  rw [sub, (checkedSub_eq_none (x := a.raw)).mpr h]
  rfl

/-- A subtraction that returns did not go below zero, and is the difference sign-extended. -/
theorem sub_eq_newUnchecked (h : a.sub n = some r) :
    n.toNat ≤ a.raw.toNat ∧ r = newUnchecked (a.raw - n) := by
  obtain ⟨d, hd, hr⟩ := sub_eq_some_iff.mp h
  obtain ⟨hle, hdv⟩ := checkedSub_eq_some.mp hd
  have hd : d = a.raw - n :=
    BitVec.eq_of_toNat_eq (by rw [hdv, BitVec.toNat_sub_of_le (BitVec.le_def.mpr hle)])
  exact ⟨hle, hd ▸ eq_newUnchecked_of_new hr⟩

/-- A subtraction whose difference is canonical returns that difference. -/
theorem toNat_sub (h : a.sub n = some r) (hc : (VirtAddr.mk (a.raw - n)).IsCanonical) :
    r.raw.toNat = a.raw.toNat - n.toNat := by
  obtain ⟨hle, rfl⟩ := sub_eq_newUnchecked h
  rw [newUnchecked_of_isCanonical hc, BitVec.toNat_sub_of_le (BitVec.le_def.mpr hle)]

end Arithmetic

/-! ## Alignment

`align_up` calls the helper that rounds down, `align_down` the one that rounds up, and neither
goes back through `new`. -/

section Alignment

variable (a : VirtAddr) {align : BitVec 64} {k : Nat}

/-- `align_up` is the greatest multiple of `align` at most the address. -/
theorem alignUp_isGreatest (h : align.toNat = 2 ^ k) :
    ∃ r, a.alignUp align = some r ∧
      IsGreatest {m | align.toNat ∣ m ∧ m ≤ a.asU64.toNat} r.asU64.toNat := by
  obtain ⟨d, hd, hg⟩ := LibArch.alignDown_isGreatest a.raw h
  exact ⟨⟨d⟩, by rw [alignUp, hd]; rfl, hg⟩

/-- `align_down` is the least multiple of `align` at least the address, modulo `2^64`. -/
theorem alignDown_isLeast (h : align.toNat = 2 ^ k) :
    ∃ r, a.alignDown align = some r ∧
      r.asU64.toNat = alignUpNat a.asU64.toNat align.toNat % 2 ^ 64 ∧
      IsLeast {m | align.toNat ∣ m ∧ a.asU64.toNat ≤ m} (alignUpNat a.asU64.toNat align.toNat) := by
  obtain ⟨u, hu, hl⟩ := LibArch.alignUp_isLeast a.raw h
  exact ⟨⟨u⟩, by rw [alignDown, hu]; rfl, hl⟩

/-- Rounding `0x7FFF_FFFF_F001` "down" to 4 KiB leaves the canonical range. -/
theorem alignDown_leaves_canonical_range :
    (VirtAddr.mk 0x00007FFFFFFFF001#64).IsCanonical ∧
      (VirtAddr.mk 0x00007FFFFFFFF001#64).alignDown 0x1000#64 = some ⟨0x0000800000000000#64⟩ ∧
      ¬ (VirtAddr.mk 0x0000800000000000#64).IsCanonical := by
  decide

/-- At `0x1001` and 4 KiB the two methods return each other's answer.  At the last word,
`is_aligned(2)` calls `align_down`, whose `(addr | 1) + 1` overflows: the least multiple of 2 at
least the address is `2^64`, and the wrapping sum is 0. -/
theorem alignment_directions_swapped :
    (VirtAddr.mk 0x1001#64).alignDown 0x1000#64 = some ⟨0x2000#64⟩ ∧
      (VirtAddr.mk 0x1001#64).alignUp 0x1000#64 = some ⟨0x1000#64⟩ ∧
      (VirtAddr.mk 0xFFFFFFFFFFFFFFFF#64).alignDown 2#64 = some ⟨0#64⟩ ∧
      alignUpNat (VirtAddr.mk 0xFFFFFFFFFFFFFFFF#64).asU64.toNat 2 = 2 ^ 64 := by
  decide

end Alignment

/-! ## Table indices

The offset and the four 9-bit indices are disjoint windows of the low 48 bits. -/

end VirtAddr

/-- **Address arithmetic is exact, up to the sign extension `new` applies.**  A virtual result is
the exact sum or difference passed through `new_unchecked`, and equal to it when that is
canonical; a physical result is exact.  Sums past `2^64` are left out.  A subtraction or a
difference of two addresses returns only when it does not go below zero, and is then exact; and
`(a + n) - a = n` when `a + n` is exact and canonical. -/
theorem arithmetic_exact_up_to_sign_extension :
    (∀ (a r : VirtAddr) (n : BitVec 64), a.add n = some r → a.asU64.toNat + n.toNat < 2 ^ 64 →
        r = VirtAddr.newUnchecked (a.asU64 + n) ∧
          ((VirtAddr.mk (a.asU64 + n)).IsCanonical → r.asU64.toNat = a.asU64.toNat + n.toNat)) ∧
      (∀ (a r : VirtAddr) (n : BitVec 64), a.sub n = some r →
        n.toNat ≤ a.asU64.toNat ∧ r = VirtAddr.newUnchecked (a.asU64 - n) ∧
          ((VirtAddr.mk (a.asU64 - n)).IsCanonical → r.asU64.toNat = a.asU64.toNat - n.toNat)) ∧
      (∀ (a b : VirtAddr) (d : BitVec 64), a.subAddr b = some d →
        b.asU64.toNat ≤ a.asU64.toNat ∧ d.toNat = a.asU64.toNat - b.asU64.toNat) ∧
      (∀ (p q : PhysAddr) (n : BitVec 64), p.add n = some q → p.asU64.toNat + n.toNat < 2 ^ 64 →
        q.asU64.toNat = p.asU64.toNat + n.toNat) ∧
      (∀ (p q : PhysAddr) (n : BitVec 64), p.sub n = some q →
        n.toNat ≤ p.asU64.toNat ∧ q.asU64.toNat = p.asU64.toNat - n.toNat) ∧
      (∀ (p q : PhysAddr) (d : BitVec 64), p.subAddr q = some d →
        q.asU64.toNat ≤ p.asU64.toNat ∧ d.toNat = p.asU64.toNat - q.asU64.toNat) ∧
      (∀ (a r : VirtAddr) (n : BitVec 64), a.add n = some r → a.asU64.toNat + n.toNat < 2 ^ 64 →
        (VirtAddr.mk (a.asU64 + n)).IsCanonical → r.subAddr a = some n) := by
  simp only [VirtAddr.asU64_eq, PhysAddr.asU64_eq]
  refine ⟨fun a r n h hn => ⟨VirtAddr.eq_newUnchecked_of_new h, VirtAddr.toNat_add h hn⟩,
    fun a r n h => ⟨(VirtAddr.sub_eq_newUnchecked h).1, (VirtAddr.sub_eq_newUnchecked h).2,
      VirtAddr.toNat_sub h⟩,
    fun a b d h => checkedSub_eq_some.mp h,
    fun p q n h hn => (PhysAddr.toNat_add h).trans (Nat.mod_eq_of_lt hn),
    fun p q n h => PhysAddr.toNat_sub h, fun p q d h => checkedSub_eq_some.mp h,
    fun a r n h hn hc => ?_⟩
  have hr := VirtAddr.toNat_add h hn hc
  simp only [VirtAddr.subAddr, VirtAddr.asU64_eq, checkedSub_eq_some]
  omega

theorem arithmetic_exact_at_0x1234 :
    (VirtAddr.mk 0x1234#64).asU64.toNat = (VirtAddr.mk 0x1000#64).asU64.toNat + (0x234#64).toNat ∧
      (VirtAddr.mk 0x1234#64).subAddr ⟨0x1000#64⟩ = some 0x234#64 :=
  ⟨(arithmetic_exact_up_to_sign_extension.1 ⟨0x1000#64⟩ ⟨0x1234#64⟩ 0x234#64 rfl (by decide)).2
      (by decide),
    arithmetic_exact_up_to_sign_extension.2.2.2.2.2.2 ⟨0x1000#64⟩ ⟨0x1234#64⟩ 0x234#64 rfl
      (by decide) (by decide)⟩

/-- Adding one to the top of the lower half lands, through `new`, at the bottom of the upper
half rather than at the exact sum. -/
theorem add_crosses_the_hole :
    (VirtAddr.mk 0x00007FFFFFFFFFFF#64).add 1#64 = some ⟨0xFFFF800000000000#64⟩ ∧
      (0xFFFF800000000000 : Nat) ≠ 0x00007FFFFFFFFFFF + 1 :=
  ⟨rfl, by decide⟩

end LibArch
