import LibArch.Chips.Control
import LibArch.Store

/-!
# Chips/Registers — the control and model-specific registers as one machine

The chip code reads and writes hardware registers: `CR0` … `CR4` through `read_crN` and
`write_crN`, the model-specific registers through `rdmsr` and `wrmsr`.  Here they are one state,
`Registers`, and the four flag writes of the API — `CR0::write`, `CR3::write`, `CR4::write` and
`Efer::write` — are its steps.

Each step is a write of the last-write store of `Store`: `CR0::flags`, `CR3::read`, `CR4::flags`
and `Efer::read` read back what it wrote, and every other register reads as before
(`observe_refines`).  No step touches a reserved bit of `CR0`, `CR4` or a model-specific register,
nor `CR2` (`reserved_step`).

* `run_reads_last_writes` — after any run of writes, each register reads back its last write (or
  what it read before the run), and the reserved bits and `CR2` are those the run started from.
-/

namespace LibArch

/-- The registers the chip code reads and writes: the words `CR0`, `CR2`, `CR3`, `CR4` hold, and
the model-specific registers by number. -/
structure Registers where
  cr0 : BitVec 64
  cr2 : BitVec 64
  cr3 : BitVec 64
  cr4 : BitVec 64
  msr : BitVec 32 → BitVec 64

/-- `MSR(u32)`: a model-specific register, by its number. -/
structure MSR where
  n : BitVec 32
  deriving DecidableEq, Repr

namespace MSR

/-- `MSR::read_raw`: `rdmsr(self.0)`. -/
def readRaw (r : Registers) (m : MSR) : BitVec 64 := r.msr m.n

/-- `MSR::write_raw`: `wrmsr(self.0, data)`. -/
def writeRaw (r : Registers) (m : MSR) (data : BitVec 64) : Registers :=
  { r with msr := Function.update r.msr m.n data }

end MSR

/-! ## The reads and writes of `control.rs` and `msr_set.rs`

`impl_crn!` gives each control register `flags()`, its word truncated to the declared flags. -/

namespace CR0

/-- `CR0::flags`: `CR0Flags::from_bits_truncate(read_raw())`. -/
def flags (r : Registers) : CR0Flags := BitFlags.fromBitsTruncate r.cr0

/-- `is_enable_protected_mode`. -/
def isEnableProtectedMode (r : Registers) : Bool :=
  (flags r).contains CR0Flags.PROTECTED_MODE_ENABLE

/-- `is_enable_paging`. -/
def isEnablePaging (r : Registers) : Bool := (flags r).contains CR0Flags.PAGING

end CR0

/-- `CR2::read`: `VirtAddr::new(read_raw())`; `none` is its panic on a non-canonical word. -/
def CR2.read (r : Registers) : Option VirtAddr := VirtAddr.new r.cr2

namespace CR4

/-- `CR4::flags`: `CR4Flags::from_bits_truncate(read_raw())`. -/
def flags (r : Registers) : CR4Flags := BitFlags.fromBitsTruncate r.cr4

/-- `is_enable_PAE`. -/
def isEnablePAE (r : Registers) : Bool := (flags r).contains CR4Flags.PHYSICAL_ADDRESS_EXTENSION

end CR4

/-- `Efer(MSR)`, the extended feature enable register. -/
structure Efer where
  msr : MSR
  deriving DecidableEq, Repr

namespace Efer

/-- `Efer::read`: `EferFlags::from_bits_truncate(self.read_raw())`. -/
def read (r : Registers) (e : Efer) : EferFlags := BitFlags.fromBitsTruncate (e.msr.readRaw r)

/-- `is_in_long_mode`: `self.read().contains(EferFlags::LONG_MODE_ENABLE)`. -/
def isInLongMode (r : Registers) (e : Efer) : Bool :=
  (read r e).contains EferFlags.LONG_MODE_ENABLE

/-- `Efer::write`: the old value's bits outside `EferFlags::all()` kept, the flags written in. -/
def write (r : Registers) (e : Efer) (flags : EferFlags) : Registers :=
  e.msr.writeRaw r (BitFlags.writeReserved (e.msr.readRaw r) flags)

end Efer

/-! ## The machine -/

/-- The flag writes of the API. -/
inductive Write
  | cr0 (flags : CR0Flags)
  | cr3 (frame : Frame .Page4KB) (flags : CR3Flags)
  | cr4 (flags : CR4Flags)
  | efer (e : Efer) (flags : EferFlags)

/-- The registers a write can go to. -/
inductive Reg
  | cr0
  | cr3
  | cr4
  | msr (n : BitVec 32)
  deriving DecidableEq, Repr

/-- The register a write goes to. -/
def Write.reg : Write → Reg
  | cr0 _ => .cr0
  | cr3 _ _ => .cr3
  | cr4 _ => .cr4
  | efer e _ => .msr e.msr.n

namespace Registers

/-- One write: `CR0::write`, `CR3::write`, `CR4::write` or `Efer::write`. -/
def step (r : Registers) : Write → Registers
  | .cr0 flags => { r with cr0 := CR0.write r.cr0 flags }
  | .cr3 frame flags => { r with cr3 := CR3.write frame flags }
  | .cr4 flags => { r with cr4 := CR4.write r.cr4 flags }
  | .efer e flags => Efer.write r e flags

/-- What each register reads — `CR0::flags`, `CR3::read`, `CR4::flags`, `Efer::read` — in the
form of the write that stores it. -/
def observe (r : Registers) : Reg → Write
  | .cr0 => .cr0 (CR0.flags r)
  | .cr3 => .cr3 (CR3.read r.cr3).1 (CR3.read r.cr3).2
  | .cr4 => .cr4 (CR4.flags r)
  | .msr n => .efer ⟨⟨n⟩⟩ (Efer.read r ⟨⟨n⟩⟩)

/-- The bits no write of the API may change: those outside the declared flags of `CR0`, `CR4`
and every model-specific register, and `CR2`. -/
def reserved (r : Registers) : BitVec 64 × BitVec 64 × (BitVec 32 → BitVec 64) × BitVec 64 :=
  (r.cr0 &&& ~~~CR0Flags.ALL, r.cr4 &&& ~~~CR4Flags.ALL, fun n => r.msr n &&& ~~~EferFlags.ALL,
    r.cr2)

/-- **Each write is a write of the last-write store**: its register reads back what it wrote,
and every other register reads as before. -/
theorem observe_refines : Store.Refines step Write.reg id observe := by
  intro r w
  funext k
  rw [Store.write, Function.update_apply]
  split_ifs with hk
  · subst hk
    cases w with
    | cr0 f => exact congrArg Write.cr0 (BitFlags.writeReserved_spec r.cr0 f).1
    | cr3 fr f => simp only [Write.reg, observe, step, CR3.read_write]; rfl
    | cr4 f => exact congrArg Write.cr4 (BitFlags.writeReserved_spec r.cr4 f).1
    | efer e f =>
      show Write.efer e (BitFlags.fromBitsTruncate (Function.update r.msr e.msr.n _ e.msr.n)) = _
      rw [Function.update_same, (BitFlags.writeReserved_spec _ f).1]
      rfl
  · cases w <;> cases k <;> first | exact absurd rfl hk | rfl | skip
    rename_i e f n
    have hn : n ≠ e.msr.n := fun h => hk (h ▸ rfl)
    show Write.efer _ (BitFlags.fromBitsTruncate (Function.update r.msr e.msr.n _ n)) = _
    rw [Function.update_noteq hn]
    rfl

/-- No write changes a reserved bit or `CR2`. -/
theorem reserved_step (r : Registers) (w : Write) : (r.step w).reserved = r.reserved := by
  cases w with
  | cr0 f =>
    simp only [step, reserved, CR0.write, (BitFlags.writeReserved_spec r.cr0 f).2]
  | cr3 fr f => rfl
  | cr4 f =>
    simp only [step, reserved, CR4.write, (BitFlags.writeReserved_spec r.cr4 f).2]
  | efer e f =>
    simp only [step, reserved, Efer.write, MSR.writeRaw, Prod.mk.injEq, true_and, and_true]
    funext n
    by_cases hn : n = e.msr.n
    · subst hn
      rw [Function.update_same, (BitFlags.writeReserved_spec _ f).2]
      rfl
    · rw [Function.update_noteq hn]

/-- **Every run reads back its last writes and keeps the reserved bits.**  After any sequence of
`CR0::write`, `CR3::write`, `CR4::write` and `Efer::write`, each register reads back the last
write to it — the flags, or `CR3`'s frame and flags — or, if none went to it, what it read
before; the bits outside the declared flags of `CR0`, `CR4` and every model-specific register,
and `CR2`, are those the run started from. -/
theorem run_reads_last_writes (r : Registers) (ws : List Write) :
    (∀ k, (ws.foldl step r).observe k = (Store.lastWrite Write.reg ws k).getD (r.observe k)) ∧
      (ws.foldl step r).cr0 &&& ~~~CR0Flags.ALL = r.cr0 &&& ~~~CR0Flags.ALL ∧
      (ws.foldl step r).cr4 &&& ~~~CR4Flags.ALL = r.cr4 &&& ~~~CR4Flags.ALL ∧
      (∀ n, (ws.foldl step r).msr n &&& ~~~EferFlags.ALL = r.msr n &&& ~~~EferFlags.ALL) ∧
      (ws.foldl step r).cr2 = r.cr2 := by
  have hres : (ws.foldl step r).reserved = r.reserved :=
    Store.foldl_invariant step reserved reserved_step r ws
  simp only [reserved, Prod.mk.injEq] at hres
  obtain ⟨h0, h4, hmsr, h2⟩ := hres
  refine ⟨fun k => ?_, h0, h4, fun n => congrFun hmsr n, h2⟩
  rw [observe_refines.observe_foldl, Store.foldl_write, Option.map_id]
  rfl

end Registers

end LibArch
