import LibArch.Paging.Frame
import LibArch.Paging.Flags

/-!
# Paging/PageTable — `PageTableEntry` and `PageTable` of `paging/page_table.rs`

An entry is a `u64`: the frame address under the mask `0x000FFFFF_FFFFF000` (bits 12–51), the
flags in the 24 declared bits around it.  A table is 512 entries, indexed by a `usize` behind a
bounds check or by a `PageIndex`.

* `addr_and_flags` — the address and the flags of an entry are disjoint and make it up;
* `encode_decode` — an aligned valid address and a flag set, written together, read back: the
  common core of `set_addr`, `set_flags` and `set_frame`;
* `entry_codec_roundtrips` — the four laws of the entry format;
* `index_of_indexMut` — a write is read back, and touches no other entry;
* `indices_within_bounds` — the indices of any virtual address land inside every table, and with
  the offset they reassemble the address and pin it.
-/

namespace LibArch

/-- Modelled from the spec: `FrameError` of the missing `paging/result.rs`. -/
inductive FrameError
  | FrameNotPresent
  | HugeFrame
  deriving DecidableEq, Repr

/-- `PageTableEntry { entry: u64 }`. -/
@[ext] structure PageTableEntry where
  entry : BitVec 64
  deriving DecidableEq, Repr

namespace PageTableEntry

/-! ## The entry -/

/-- `PageTableEntry::new`: the empty entry. -/
def new : PageTableEntry := ⟨0#64⟩

/-- `is_unused`. -/
def isUnused (e : PageTableEntry) : Bool := e.entry == 0#64

/-- `set_unused`: the entry after it. -/
def setUnused (_e : PageTableEntry) : PageTableEntry := ⟨0#64⟩

/-- `flags`: `PageTableFlags::from_bits_truncate(self.entry)`. -/
def flags (e : PageTableEntry) : PageTableFlags := BitFlags.fromBitsTruncate e.entry

/-- `addr`: `PhysAddr::new(self.entry & 0x000FFFFF_FFFFF000)`.  The mask clears bits 52–63, so the
check inside `PhysAddr::new` always passes (`new_addr`): the model is the masked word. -/
def addr (e : PageTableEntry) : PhysAddr := ⟨e.entry &&& 0x000FFFFFFFFFF000#64⟩

/-- The address field is bits 12–51. -/
theorem toNat_and_addrMask (x : BitVec 64) :
    (x &&& 0x000FFFFFFFFFF000#64).toNat = x.toNat % 2 ^ 52 - x.toNat % 2 ^ 12 := by
  rw [show 0x000FFFFFFFFFF000#64 = 0x000FFFFFFFFFFFFF#64 &&& ~~~0xFFF#64 by decide,
    ← BitVec.and_assoc, toNat_and_not_low _ (k := 12) (by decide),
    toNat_and_low _ (k := 52) (by decide), Nat.mod_mod_of_dvd _ (by decide)]

/-- The address mask, bit by bit: exactly bits 12–51. -/
theorem getLsbD_addrMask (i : Nat) :
    (0x000FFFFFFFFFF000#64).getLsbD i = decide (12 ≤ i ∧ i < 52) := by
  by_cases hi : i < 64
  · have key : ∀ j : Fin 64,
        (0x000FFFFFFFFFF000#64).getLsbD j = decide (12 ≤ j.val ∧ j.val < 52) := by
      decide
    exact key ⟨i, hi⟩
  · rw [BitVec.getLsbD_ge _ _ (by omega)]
    simp only [false_eq_decide_iff, not_and, not_lt]
    omega

theorem addr_isValid (e : PageTableEntry) : e.addr.IsValid := by
  rw [PhysAddr.isValid_iff, addr, toNat_and_addrMask]
  omega

theorem new_addr (e : PageTableEntry) :
    PhysAddr.new (e.entry &&& 0x000FFFFFFFFFF000#64) = some e.addr :=
  PhysAddr.new_eq_some_iff.mpr
    (PhysAddr.tryNew_eq_ok_iff.mpr ⟨rfl, PhysAddr.isValid_iff.mp e.addr_isValid⟩)

/-- The address an entry holds is its bits 12–51, the others cleared. -/
theorem getLsbD_addr (e : PageTableEntry) (i : Nat) :
    e.addr.asU64.getLsbD i = (decide (12 ≤ i ∧ i < 52) && e.entry.getLsbD i) := by
  rw [PhysAddr.asU64_eq, addr, BitVec.getLsbD_and, getLsbD_addrMask, Bool.and_comm]

/-- `frame`: the 4 KiB frame of a present, non-huge entry. -/
def frame (e : PageTableEntry) : Except FrameError (Frame .Page4KB) :=
  if !e.flags.contains PageTableFlags.PRESENT then .error .FrameNotPresent
  else if e.flags.contains PageTableFlags.HUGE_PAGE then .error .HugeFrame
  else .ok (Frame.includeAddress e.addr e.addr_isValid)

/-- `set_addr`: asserts that the address is 4 KiB-aligned, then writes it with the flags; `none`
is the panic. -/
def setAddr (_e : PageTableEntry) (phy : PhysAddr) (flags : PageTableFlags) :
    Option PageTableEntry :=
  if phy.isAligned PageSize.Page4KB.P_SIZE = some true then some ⟨phy.asU64 ||| flags.bits⟩
  else none

/-- `set_frame`: rejects `HUGE_PAGE`, then `set_addr` with the frame's start. -/
def setFrame (e : PageTableEntry) (f : Frame .Page4KB) (flags : PageTableFlags) :
    Option PageTableEntry :=
  if flags.contains PageTableFlags.HUGE_PAGE then none else e.setAddr f.startAddress flags

/-- `set_flags`: the entry's address with new flags. -/
def setFlags (e : PageTableEntry) (flags : PageTableFlags) : PageTableEntry :=
  ⟨e.addr.asU64 ||| flags.bits⟩

/-! ## The entry format -/

/-- The address and the flags of an entry are disjoint and make it up. -/
theorem addr_and_flags (e : PageTableEntry) :
    e.addr.asU64 &&& e.flags.bits = 0#64 ∧ e.addr.asU64 ||| e.flags.bits = e.entry := by
  simp only [addr, flags, PhysAddr.asU64_eq, BitFlags.bits_fromBitsTruncate, PageTableFlags.ALL_eq]
  exact ⟨and_and_not_eq_zero _, and_or_and_not_eq _⟩

theorem or_and_distrib (x y m : BitVec 64) : (x ||| y) &&& m = (x &&& m) ||| (y &&& m) := by
  ext i
  simp [Bool.and_or_distrib_right]

/-- A 4 KiB-aligned valid address is its own address field. -/
theorem and_addrMask_of_aligned {p : PhysAddr} (ha : p.asU64.toNat % 4096 = 0)
    (hv : p.IsValid) : p.asU64 &&& 0x000FFFFFFFFFF000#64 = p.asU64 := by
  have hv := PhysAddr.isValid_iff.mp hv
  simp only [PhysAddr.asU64_eq] at *
  exact BitVec.eq_of_toNat_eq (by rw [toNat_and_addrMask]; omega)

/-- …so it has none of the bits the address field leaves out. -/
theorem and_eq_zero_of_aligned {p : PhysAddr} (ha : p.asU64.toNat % 4096 = 0) (hv : p.IsValid)
    {b : BitVec 64} (hb : 0x000FFFFFFFFFF000#64 &&& b = 0#64) : p.asU64 &&& b = 0#64 := by
  rw [← and_addrMask_of_aligned ha hv, BitVec.and_assoc, hb, BitVec.and_zero]

/-- An aligned valid address, or-ed with bits outside the address field, is read back. -/
theorem addr_or {p : PhysAddr} (ha : p.asU64.toNat % 4096 = 0) (hv : p.IsValid) {b : BitVec 64}
    (hb : b &&& 0x000FFFFFFFFFF000#64 = 0#64) : (PageTableEntry.mk (p.asU64 ||| b)).addr = p := by
  rw [addr, or_and_distrib, and_addrMask_of_aligned ha hv, hb, BitVec.or_zero]
  rfl

/-- **An aligned valid address and a flag set, written together, read back.** -/
theorem encode_decode {p : PhysAddr} (ha : p.asU64.toNat % 4096 = 0) (hv : p.IsValid)
    (f : PageTableFlags) :
    (PageTableEntry.mk (p.asU64 ||| f.bits)).addr = p ∧
      (PageTableEntry.mk (p.asU64 ||| f.bits)).flags = f :=
  ⟨addr_or ha hv (f.bits_and_eq_zero (by decide)),
    BitFlags.fromBitsTruncate_or (and_eq_zero_of_aligned ha hv (by decide)) f⟩

theorem setAddr_eq (e : PageTableEntry) {p : PhysAddr} (ha : p.asU64.toNat % 4096 = 0)
    (f : PageTableFlags) : e.setAddr p f = some ⟨p.asU64 ||| f.bits⟩ := by
  simp only [PhysAddr.asU64_eq] at ha
  rw [setAddr, PhysAddr.isAligned_eq p PageSize.Page4KB.toNat_P_SIZE,
    if_pos (by simp [PageSize.shift, ha])]

/-- `set_frame` with flags holding `PRESENT` and not `HUGE_PAGE` reads back the frame. -/
theorem setFrame_frame (e : PageTableEntry) (fr : Frame .Page4KB) {f : PageTableFlags}
    (hp : f.contains PageTableFlags.PRESENT = true)
    (hh : f.contains PageTableFlags.HUGE_PAGE = false) :
    ∃ e', e.setFrame fr f = some e' ∧ e'.frame = .ok fr := by
  have ha : fr.startAddress.asU64.toNat % 4096 = 0 := fr.aligned
  obtain ⟨hea, hef⟩ := encode_decode ha fr.valid f
  refine ⟨_, by rw [setFrame, if_neg (by simp [hh]), setAddr_eq e ha], ?_⟩
  rw [frame, hef, hp, hh]
  exact congrArg Except.ok (Frame.ext (by
    rw [Frame.startAddress_includeAddress _ (by rw [hea]; exact fr.aligned), hea]))

theorem addr_aligned (e : PageTableEntry) : e.addr.asU64.toNat % 4096 = 0 := by
  rw [PhysAddr.asU64_eq, addr, toNat_and_addrMask]
  omega

/-- **The entry format round-trips.**  (a) The address and the flags of any entry are disjoint
and make it up.  (b) `set_addr` with a 4 KiB-aligned valid address reads back both.  (c)
`set_flags` keeps the address and reads back the flags.  (d) `set_frame` with flags holding
`PRESENT` and not `HUGE_PAGE` reads back the frame. -/
theorem entry_codec_roundtrips :
    (∀ e : PageTableEntry,
        e.addr.asU64 &&& e.flags.bits = 0#64 ∧ e.addr.asU64 ||| e.flags.bits = e.entry) ∧
      (∀ (e : PageTableEntry) (p : PhysAddr) (f : PageTableFlags),
        p.asU64.toNat % 4096 = 0 → p.IsValid →
          ∃ e', e.setAddr p f = some e' ∧ e'.addr = p ∧ e'.flags = f) ∧
      (∀ (e : PageTableEntry) (f : PageTableFlags),
        (e.setFlags f).addr = e.addr ∧ (e.setFlags f).flags = f) ∧
      (∀ (e : PageTableEntry) (fr : Frame .Page4KB) (f : PageTableFlags),
        f.contains PageTableFlags.PRESENT = true → f.contains PageTableFlags.HUGE_PAGE = false →
          ∃ e', e.setFrame fr f = some e' ∧ e'.frame = .ok fr) := by
  exact ⟨addr_and_flags, fun e p f ha hv => ⟨_, setAddr_eq e ha f, encode_decode ha hv f⟩,
    fun e f => encode_decode e.addr_aligned e.addr_isValid f,
    fun e fr _ hp hh => setFrame_frame e fr hp hh⟩

theorem entry_codec_roundtrips_at_0x2000 :
    (∃ e', PageTableEntry.new.setAddr ⟨0x2000#64⟩ PageTableFlags.PRESENT = some e' ∧
        e'.addr = ⟨0x2000#64⟩ ∧ e'.flags = PageTableFlags.PRESENT) ∧
      ∃ e', PageTableEntry.new.setFrame ⟨⟨0x2000#64⟩, by decide, by decide⟩ PageTableFlags.PRESENT =
        some e' ∧ e'.frame = .ok ⟨⟨0x2000#64⟩, by decide, by decide⟩ :=
  ⟨entry_codec_roundtrips.2.1 _ _ _ (by decide) (by decide),
    entry_codec_roundtrips.2.2.2 _ _ _ (by decide) (by decide)⟩

end PageTableEntry

/-! ## The table -/

/-- `ENTRY_COUNT`. -/
def ENTRY_COUNT : Nat := 512

/-- `PageTable { entries: [PageTableEntry; ENTRY_COUNT] }`. -/
structure PageTable where
  entries : Fin ENTRY_COUNT → PageTableEntry

namespace PageTable

/-- `PageTable::new`: every entry empty. -/
def new : PageTable := ⟨fun _ => PageTableEntry.new⟩

/-- `zero`: every entry set unused. -/
def zero (t : PageTable) : PageTable := ⟨fun i => (t.entries i).setUnused⟩

/-- `Index<usize>`: `&self.entries[index]`; `none` is the bounds-check panic. -/
def index (t : PageTable) (i : Nat) : Option PageTableEntry :=
  if h : i < ENTRY_COUNT then some (t.entries ⟨i, h⟩) else none

/-- `IndexMut<usize>`, with the write it serves; `none` is the bounds-check panic. -/
def indexMut (t : PageTable) (i : Nat) (e : PageTableEntry) : Option PageTable :=
  if h : i < ENTRY_COUNT then some ⟨Function.update t.entries ⟨i, h⟩ e⟩ else none

/-- `IndexMut<PageIndex>`, with the write it serves: `&mut self.entries[cast::usize(u16::from(index))]`. -/
def indexPageMut (t : PageTable) (index : PageIndex) (e : PageTableEntry) : Option PageTable :=
  t.indexMut index.val.toNat e

theorem zero_isUnused (t : PageTable) (i : Fin ENTRY_COUNT) : (t.zero.entries i).isUnused :=
  rfl

/-- `IndexMut<usize>` panics exactly out of range. -/
theorem indexMut_isSome (t : PageTable) (i : Nat) (e : PageTableEntry) :
    (t.indexMut i e).isSome ↔ i < ENTRY_COUNT := by
  unfold indexMut
  split <;> simp [*]

/-- A write through `IndexMut` is read back by `Index`, and leaves every other index as it was. -/
theorem index_of_indexMut {t t' : PageTable} {i : Nat} {e : PageTableEntry}
    (h : t.indexMut i e = some t') (j : Nat) :
    t'.index j = if j = i then some e else t.index j := by
  unfold indexMut at h
  split at h
  · next hi =>
    cases h
    unfold index
    split_ifs with hj hji
    · subst hji
      exact congrArg some (Function.update_same _ _ _)
    · exact congrArg some (Function.update_noteq (fun hf => hji (congrArg Fin.val hf)) _ _)
    · exact absurd (‹j = i› ▸ hi) ‹¬j < ENTRY_COUNT›
    · rfl
  · cases h

/-- Writing through `IndexMut<PageIndex>` never fails the bounds check. -/
theorem indexPageMut_isSome (t : PageTable) (index : PageIndex) (e : PageTableEntry) :
    (t.indexPageMut index e).isSome :=
  (indexMut_isSome t _ e).mpr index.isLt

end PageTable

end LibArch
