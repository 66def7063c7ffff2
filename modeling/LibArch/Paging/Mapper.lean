import LibArch.Paging.PageTable

/-!
# Paging/Mapper — the `Mapper` protocol of `paging/mapper/mod.rs`

`Mapper<S>` is a trait; its one implementation (`mapper/page.rs`) is not among the sources, so a
mapper is any structure of operations over a state `σ` and an allocator state `α`.  The default
methods are modelled from the source: `identity_map` builds a page from the frame's address and
calls `map_to`; `translate_addr` adds the in-frame offset to the frame a `translate` returns.

* `identityMap_spec` — for every mapper, `identity_map` is `map_to` at the frame's own address
  below `2^47`, at the sign-extended address in `[2^47, 2^48)`, and panics above;
* `identityMap_maps_sign_extended` — the frame at `2^47` is mapped at `0xFFFF_8000_0000_0000`;
* `translateAddr_composes` — a translation of any size class composes without overflow.
-/

namespace LibArch

/-! ## The protocol's types

`paging/result.rs` is not among the sources either; the error types are modelled from the spec's
taxonomy. -/

/-- `MapperFlush<S>`: the page whose translation must be flushed or explicitly ignored. -/
structure MapperFlush (S : PageSize) where
  page : Page S

/-- Modelled from the spec: `MapToError<S>`. -/
inductive MapToError (S : PageSize)
  | FrameAllocationFailed
  | ParentEntryHugePage
  | PageAlreadyMapped (frame : Frame S)

/-- Modelled from the spec: `UnmapError`. -/
inductive UnmapError
  | PageNotMapped
  | ParentEntryHugePage
  | InvalidFrameAddress (addr : PhysAddr)

/-- Modelled from the spec: `FlagUpdateError`. -/
inductive FlagUpdateError
  | PageNotMapped

/-- Modelled from the spec: `TranslateError`. -/
inductive TranslateError
  | PageNotMapped
  | ParentEntryHugePage
  | InvalidFrameAddress (addr : PhysAddr)

/-- The trait `Mapper<S>`, over the mapper's state `σ` and the allocator's state `α`: each method
returns its result with the states after it, `none` being a panic. -/
structure Mapper (S : PageSize) (σ α : Type) where
  mapTo : σ → Page S → Frame S → PageTableFlags → α →
    Option (Except (MapToError S) (MapperFlush S) × σ × α)
  unmap : σ → Page S → Option (Except UnmapError (Frame S × MapperFlush S) × σ)
  updateFlags : σ → Page S → PageTableFlags → Option (Except FlagUpdateError (MapperFlush S) × σ)
  translatePage : σ → Page S → Option (Except TranslateError (Frame S))

namespace Mapper

variable {S : PageSize} {σ α : Type}

/-- `identity_map`: `map_to(Page::include_address(VirtAddr::new(frame.start_address().as_u64())),
frame, flags, allocator)`. -/
def identityMap (M : Mapper S σ α) (s : σ) (frame : Frame S) (flags : PageTableFlags)
    (allocator : α) : Option (Except (MapToError S) (MapperFlush S) × σ × α) :=
  (VirtAddr.new frame.startAddress.asU64).bind fun v =>
    M.mapTo s (Page.includeAddress v) frame flags allocator

/-! ## `identity_map` -/

/-- The page `identity_map` builds is `new`'s address itself: a frame's start is aligned, and so
is its sign extension. -/
theorem identityMap_eq_of_new (M : Mapper S σ α) (s : σ) (frame : Frame S)
    (flags : PageTableFlags) (allocator : α) {v : VirtAddr}
    (h : VirtAddr.new frame.startAddress.asU64 = some v) :
    ∃ p : Page S, p.startAddress = v ∧
      M.identityMap s frame flags allocator = M.mapTo s p frame flags allocator := by
  have hv : v.asU64.toNat % S.P_SIZE.toNat = 0 := by
    have hd := S.P_SIZE_dvd
    have hlow : S.P_SIZE.toNat ∣ frame.startAddress.asU64.toNat % 2 ^ 48 :=
      (Nat.dvd_mod_iff hd).mpr (Nat.dvd_of_mod_eq_zero frame.aligned)
    rw [VirtAddr.eq_newUnchecked_of_new h, VirtAddr.asU64_eq, VirtAddr.toNat_newUnchecked]
    refine Nat.mod_eq_zero_of_dvd (dvd_add hlow ?_)
    split
    · exact Dvd.dvd.mul_left hd _
    · exact dvd_zero _
  exact ⟨_, Page.startAddress_includeAddress hv, by rw [identityMap, h]; rfl⟩

/-- **What `identity_map` maps, for every mapper.**  A frame below `2^47` is mapped at the page of
its own address; one in `[2^47, 2^48)` at that address with bits 48–63 set, as `new` sign-extends
it; one above `2^48` panics in `new`. -/
theorem identityMap_spec (M : Mapper S σ α) (s : σ) (frame : Frame S) (flags : PageTableFlags)
    (allocator : α) :
    (frame.startAddress.asU64.toNat < 2 ^ 47 → ∃ p : Page S,
        p.startAddress.asU64 = frame.startAddress.asU64 ∧
          M.identityMap s frame flags allocator = M.mapTo s p frame flags allocator) ∧
      (2 ^ 47 ≤ frame.startAddress.asU64.toNat → frame.startAddress.asU64.toNat < 2 ^ 48 →
        ∃ p : Page S,
          p.startAddress.asU64.toNat = frame.startAddress.asU64.toNat + 0xFFFF000000000000 ∧
            M.identityMap s frame flags allocator = M.mapTo s p frame flags allocator) ∧
      (2 ^ 48 ≤ frame.startAddress.asU64.toNat → M.identityMap s frame flags allocator = none) := by
  have hv : frame.startAddress.asU64.toNat < 2 ^ 52 := PhysAddr.isValid_iff.mp frame.valid
  refine ⟨fun h => ?_, fun h₁ h₂ => ?_, fun h => ?_⟩
  · obtain ⟨p, hp, he⟩ := M.identityMap_eq_of_new s frame flags allocator
      (VirtAddr.new_eq_some_iff.mpr (VirtAddr.tryNew_eq_ok_iff.mpr (.inl ⟨by omega, rfl⟩)))
    exact ⟨p, by rw [hp]; rfl, he⟩
  · obtain ⟨p, hp, he⟩ := M.identityMap_eq_of_new s frame flags allocator
      (VirtAddr.new_eq_some_iff.mpr (VirtAddr.tryNew_eq_ok_iff.mpr (.inr ⟨by omega, rfl⟩)))
    refine ⟨p, ?_, he⟩
    rw [hp, VirtAddr.asU64_eq, VirtAddr.toNat_newUnchecked, if_pos (by omega)]
    omega
  · rw [identityMap, VirtAddr.new_eq_none_of_error (VirtAddr.tryNew_eq_error_iff.mpr
      ⟨by omega, rfl⟩)]
    rfl

end Mapper

/-- The 4 KiB frame at `2^47`, which `identity_map` cannot map at its own address. -/
def frameAt2pow47 : Frame .Page4KB := ⟨⟨0x0000800000000000#64⟩, by decide, by decide⟩

/-- For every mapper, `identity_map` of the frame at `2^47` is `map_to` at the page
`0xFFFF_8000_0000_0000`. -/
theorem identityMap_maps_sign_extended {σ α : Type} (M : Mapper .Page4KB σ α) (s : σ)
    (flags : PageTableFlags) (allocator : α) :
    ∃ p : Page .Page4KB, p.startAddress = ⟨0xFFFF800000000000#64⟩ ∧
      M.identityMap s frameAt2pow47 flags allocator = M.mapTo s p frameAt2pow47 flags allocator :=
  M.identityMap_eq_of_new s frameAt2pow47 flags allocator rfl

/-! ## `translate_addr` -/

/-- Modelled from the spec: `TranslationResult`, a translation tagged with its size class and
in-frame offset, or why there is none. -/
inductive TranslationResult
  | Frame4KB (frame : Frame .Page4KB) (offset : BitVec 64)
  | Frame2MB (frame : Frame .Page2MB) (offset : BitVec 64)
  | Frame1GB (frame : Frame .Page1GB) (offset : BitVec 64)
  | PageNotMapped
  | InvalidFrameAddress (addr : PhysAddr)

/-- The translation of class `S`: `Frame4KB`, `Frame2MB` or `Frame1GB`. -/
def TranslationResult.ofFrame : (S : PageSize) → Frame S → BitVec 64 → TranslationResult
  | .Page4KB => .Frame4KB
  | .Page2MB => .Frame2MB
  | .Page1GB => .Frame1GB

/-- The trait `MapAllSize`: of its methods, `translate_addr` reads only `translate`. -/
structure MapAllSize where
  translate : VirtAddr → TranslationResult

namespace MapAllSize

/-- `translate_addr`: the frame's start plus the offset, through `PhysAddr`'s `Add<u64>`;
`none` inside is `None`, `none` outside a panic. -/
def translateAddr (m : MapAllSize) (addr : VirtAddr) : Option (Option PhysAddr) :=
  match m.translate addr with
  | .Frame4KB frame offset => (frame.startAddress.add offset).map some
  | .Frame2MB frame offset => (frame.startAddress.add offset).map some
  | .Frame1GB frame offset => (frame.startAddress.add offset).map some
  | .PageNotMapped | .InvalidFrameAddress _ => some none

/-- A frame's start plus an offset inside it: no panic, the exact sum, in that frame. -/
theorem add_offset {S : PageSize} (frame : Frame S) {offset : BitVec 64}
    (h : offset.toNat < S.P_SIZE.toNat) :
    ∃ p, frame.startAddress.add offset = some p ∧
      p.asU64.toNat = frame.startAddress.asU64.toNat + offset.toNat ∧
      p.alignDown S.P_SIZE = some frame.startAddress ∧
      p.asU64.toNat % S.P_SIZE.toNat = offset.toNat := by
  obtain ⟨⟨x⟩, ha, hv⟩ := frame
  have hv : x.toNat < 2 ^ 52 := PhysAddr.isValid_iff.mp hv
  simp only [PhysAddr.asU64_eq] at ha ⊢
  have hfit : x.toNat + offset.toNat < 2 ^ 52 := by
    cases S <;> simp only [PageSize.P_SIZE, BitVec.toNat_ofNat, Nat.reducePow, Nat.reduceMod]
      at ha h <;> omega
  have hsum : (x + offset).toNat = x.toNat + offset.toNat := by
    rw [BitVec.toNat_add, Nat.mod_eq_of_lt (by omega)]
  have hmod : (x + offset).toNat % S.P_SIZE.toNat = offset.toNat := by
    rw [hsum, Nat.add_mod, ha, Nat.zero_add, Nat.mod_mod, Nat.mod_eq_of_lt h]
  obtain ⟨r, hr, hrv⟩ := LibArch.alignDown_eq (x + offset) S.toNat_P_SIZE
  have hrx : r = x := BitVec.eq_of_toNat_eq (by rw [hrv, ← S.toNat_P_SIZE, hmod, hsum]; omega)
  exact ⟨⟨x + offset⟩, PhysAddr.new_eq_some_iff.mpr (PhysAddr.tryNew_eq_ok_iff.mpr
    ⟨rfl, by rw [hsum]; exact hfit⟩), hsum, by rw [PhysAddr.alignDown, hr, hrx]; rfl, hmod⟩

/-- **`translate_addr` composes frame and offset without overflow.**  If `translate` returns a
frame of any class with an offset inside it, `translate_addr` returns, without panicking, the
exact sum, which lies in that frame at that offset; it returns `None` exactly for the two
untranslated results. -/
theorem translateAddr_composes (m : MapAllSize) (addr : VirtAddr) :
    (∀ (S : PageSize) (frame : Frame S) (offset : BitVec 64),
        m.translate addr = .ofFrame S frame offset → offset.toNat < S.P_SIZE.toNat →
        ∃ p, m.translateAddr addr = some (some p) ∧
          p.asU64.toNat = frame.startAddress.asU64.toNat + offset.toNat ∧
          p.alignDown S.P_SIZE = some frame.startAddress ∧
          p.asU64.toNat % S.P_SIZE.toNat = offset.toNat) ∧
      (m.translateAddr addr = some none ↔
        m.translate addr = .PageNotMapped ∨ ∃ a, m.translate addr = .InvalidFrameAddress a) := by
  refine ⟨fun S frame offset ht ho => ?_, ?_⟩
  · obtain ⟨p, hp, hrest⟩ := add_offset frame ho
    refine ⟨p, ?_, hrest⟩
    cases S <;> rw [translateAddr, ht] <;> simp [TranslationResult.ofFrame, hp]
  · unfold translateAddr
    split <;> simp_all [Option.map_eq_some']

/-- The spec's example: the 4 KiB page at `0x1000` mapped to the frame at `0x2000`. -/
def pageAt0x1000 : MapAllSize where
  translate a :=
    if a.asU64 >>> 12 = 1#64 then
      .Frame4KB ⟨⟨0x2000#64⟩, by decide, by decide⟩ (a.asU64 &&& 0xFFF#64)
    else .PageNotMapped

theorem translateAddr_composes_at_0x1123 :
    ∃ p, pageAt0x1000.translateAddr ⟨0x1123#64⟩ = some (some p) ∧
      p.asU64.toNat = (0x2000#64).toNat + (0x123#64).toNat ∧
      p.alignDown PageSize.Page4KB.P_SIZE = some ⟨0x2000#64⟩ ∧
      p.asU64.toNat % PageSize.Page4KB.P_SIZE.toNat = (0x123#64).toNat :=
  (translateAddr_composes pageAt0x1000 ⟨0x1123#64⟩).1 .Page4KB ⟨⟨0x2000#64⟩, by decide, by decide⟩
    0x123#64 rfl (by decide)

end MapAllSize

end LibArch
