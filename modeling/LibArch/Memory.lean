import LibArch.Bits

/-!
# Memory — the memory-area table and its typed iterator of `x64/memory.rs`

    MEMORY_AREA ──MemoryAreaIter::new(ty), next, next, … until None──▸ the areas of type ty

The table `MEMORY_AREA` holds 512 areas; `MemoryAreaIter` walks it from an index, and each call
of `next` scans forward to the next area of its type.  What is left to yield from an iterator is
`remaining`, the areas of its type from its index on; one call of `next` returns the first of them
and leaves the rest (`next_spec`).

* `collect_eq_remaining` — calling `next` until `None` yields exactly `remaining`, given one call
  more than there are items;
* `next_runs_as_filter` — from `new(ty)` the run yields the table filtered by type, in table order,
  and `next` keeps returning `None` once it has.
-/

namespace LibArch

/-- `MemoryType`, the kind of an area; `#[derive(Default)]` gives `EmptyArea`. -/
inductive MemoryType
  | EmptyArea
  | FreeArea
  | UsedArea
  | ReservedArea
  | ACPIArea
  | ACPIReservedArea
  | ReservedHibernate
  | Defective
  | UefiRunTimeCode
  | UefiRunTimeData
  | MMIO
  | MMIOPortArea
  | ErrorArea
  deriving DecidableEq, Repr

/-- `MemoryArea { start_addr, end_addr, length, ty }`. -/
structure MemoryArea where
  startAddr : BitVec 64
  endAddr : BitVec 64
  length : BitVec 64
  ty : MemoryType
  deriving DecidableEq, Repr

namespace MemoryArea

/-- `MemoryArea::default()`: zero addresses and length, `MemoryType::default()`. -/
def default : MemoryArea := ⟨0#64, 0#64, 0#64, .EmptyArea⟩

/-- `MemoryArea::new(start_addr, end_addr, ty, len)`. -/
def new (startAddr endAddr : BitVec 64) (ty : MemoryType) (len : BitVec 64) : MemoryArea :=
  ⟨startAddr, endAddr, len, ty⟩

/-- `size`: the area's `length`. -/
def size (a : MemoryArea) : BitVec 64 := a.length

/-- `start_address`. -/
def startAddress (a : MemoryArea) : BitVec 64 := a.startAddr

end MemoryArea

/-- `MEMORY_AREA`, the `lazy_static` table: `[MemoryArea::default(); 512]`. -/
def MEMORY_AREA : List MemoryArea := List.replicate 512 MemoryArea.default

/-- `MemorySpace { space: Vec<MemoryArea> }`. -/
structure MemorySpace where
  space : List MemoryArea

namespace MemorySpace

/-- `MemorySpace::new`: no areas. -/
def new : MemorySpace := ⟨[]⟩

/-- `add_area`: `space.push(MemoryArea::new(start_addr, end_addr, ty, len))`. -/
def addArea (s : MemorySpace) (startAddr endAddr : BitVec 64) (ty : MemoryType)
    (len : BitVec 64) : MemorySpace :=
  ⟨s.space ++ [MemoryArea.new startAddr endAddr ty len]⟩

end MemorySpace

/-- `MemoryAreaIter { ty, index }`. -/
structure MemoryAreaIter where
  ty : MemoryType
  index : Nat
  deriving DecidableEq, Repr

namespace MemoryAreaIter

/-- `MemoryAreaIter::new(ty)`: from the start of the table. -/
def new (ty : MemoryType) : MemoryAreaIter := ⟨ty, 0⟩

/-- `Iterator::next`, over the table `areas` (the source reads `MEMORY_AREA`): the `while` loop
takes the entry at `index`, advances `index`, and returns the entry if its type is the
iterator's; past the end it returns `None`. -/
def next (areas : List MemoryArea) (it : MemoryAreaIter) : Option MemoryArea × MemoryAreaIter :=
  if h : it.index < areas.length then
    if it.ty = areas[it.index].ty then (some areas[it.index], ⟨it.ty, it.index + 1⟩)
    else next areas ⟨it.ty, it.index + 1⟩
  else (none, it)
termination_by areas.length - it.index

/-- The items a `for` loop over the iterator receives: `next` called until it returns `None`,
`fuel` bounding the calls. -/
def collect (areas : List MemoryArea) : Nat → MemoryAreaIter → List MemoryArea
  | 0, _ => []
  | fuel + 1, it =>
    match next areas it with
    | (some e, it') => e :: collect areas fuel it'
    | (none, _) => []

/-! ## One call of `next`

What is left to yield is the table's areas of the iterator's type, from its index on. -/

/-- The areas an iterator has still to yield. -/
def remaining (areas : List MemoryArea) (it : MemoryAreaIter) : List MemoryArea :=
  (areas.drop it.index).filter (fun e => it.ty == e.ty)

theorem remaining_of_eq (areas : List MemoryArea) (it : MemoryAreaIter)
    (h : it.index < areas.length) (hty : it.ty = areas[it.index].ty) :
    remaining areas it = areas[it.index] :: remaining areas ⟨it.ty, it.index + 1⟩ := by
  unfold remaining
  rw [List.drop_eq_getElem_cons h, List.filter_cons_of_pos (by simpa using hty)]

theorem remaining_of_ne (areas : List MemoryArea) (it : MemoryAreaIter)
    (h : it.index < areas.length) (hty : ¬it.ty = areas[it.index].ty) :
    remaining areas it = remaining areas ⟨it.ty, it.index + 1⟩ := by
  unfold remaining
  rw [List.drop_eq_getElem_cons h, List.filter_cons_of_neg (by simpa using hty)]

theorem remaining_of_le (areas : List MemoryArea) (it : MemoryAreaIter)
    (h : ¬it.index < areas.length) : remaining areas it = [] := by
  unfold remaining
  rw [List.drop_eq_nil_of_le (Nat.le_of_not_lt h), List.filter_nil]

/-- **One call of `next`** returns the first area left to yield, and leaves the others. -/
theorem next_spec (areas : List MemoryArea) (it : MemoryAreaIter) :
    (next areas it).1 = (remaining areas it).head? ∧
      remaining areas (next areas it).2 = (remaining areas it).tail := by
  induction it using next.induct areas with
  | case1 it h hty =>
    rw [next, dif_pos h, if_pos hty, remaining_of_eq areas it h hty]
    exact ⟨rfl, rfl⟩
  | case2 it h hty ih =>
    rw [next, dif_pos h, if_neg hty, remaining_of_ne areas it h hty]
    exact ih
  | case3 it h =>
    rw [next, dif_neg h, remaining_of_le areas it h]
    exact ⟨rfl, rfl⟩

/-! ## The whole run -/

/-- Calling `next` until `None`, with a call to spare, yields exactly what is left. -/
theorem collect_eq_remaining (areas : List MemoryArea) :
    ∀ (fuel : Nat) (it : MemoryAreaIter), (remaining areas it).length < fuel →
      collect areas fuel it = remaining areas it
  | 0, _, h => absurd h (Nat.not_lt_zero _)
  | fuel + 1, it, h => by
    obtain ⟨hhead, htail⟩ := next_spec areas it
    rw [collect]
    rcases hn : next areas it with ⟨r, it'⟩
    rw [hn] at hhead htail
    cases hr : remaining areas it with
    | nil =>
      rw [hr] at hhead
      rw [show r = none from hhead]
    | cons e t =>
      rw [hr] at hhead htail h
      simp only [List.head?_cons, List.tail_cons, List.length_cons] at hhead htail h
      rw [hhead]
      dsimp only
      rw [collect_eq_remaining areas fuel it' (by rw [htail]; omega), htail]

/-- **The iterator is the table filtered by type.**  Run from any state, with more calls than the
table has areas, `next` yields exactly the areas of its type from its index on; from `new(ty)`,
the areas of type `ty` of the whole table, in table order, each once.  Once `next` has returned
`None` it returns `None` again. -/
theorem next_runs_as_filter (areas : List MemoryArea) :
    (∀ (it : MemoryAreaIter) (fuel : Nat),
        collect areas (areas.length + 1 + fuel) it = remaining areas it) ∧
      (∀ (ty : MemoryType) (fuel : Nat),
        collect areas (areas.length + 1 + fuel) (new ty) = areas.filter (fun e => ty == e.ty)) ∧
      ∀ it : MemoryAreaIter, (next areas it).1 = none → (next areas (next areas it).2).1 = none := by
  have hrun : ∀ (it : MemoryAreaIter) (fuel : Nat),
      collect areas (areas.length + 1 + fuel) it = remaining areas it := fun it fuel => by
    have hlen : (remaining areas it).length ≤ areas.length :=
      (List.length_filter_le _ _).trans ((List.length_drop _ _).symm ▸ Nat.sub_le _ _)
    exact collect_eq_remaining areas _ it (by omega)
  refine ⟨hrun, fun ty fuel => hrun (new ty) fuel, fun it h => ?_⟩
  obtain ⟨hhead, htail⟩ := next_spec areas it
  rw [h, eq_comm, List.head?_eq_none_iff] at hhead
  rw [(next_spec areas _).1, htail, hhead]
  rfl

/-- Over a table of one empty area, the free-area iterator's first call skips that area and
returns `None` at the end of the table, and the next call returns `None` again. -/
theorem next_runs_as_filter_skips_to_end :
    (next [MemoryArea.default] ⟨.FreeArea, 0⟩).1 = none ∧
      (next [MemoryArea.default] (next [MemoryArea.default] ⟨.FreeArea, 0⟩).2).1 = none :=
  have hskip : (next [MemoryArea.default] ⟨.FreeArea, 0⟩).1 = none := by
    rw [next, dif_pos (by decide), if_neg (by decide), next, dif_neg (by decide)]
  ⟨hskip, (next_runs_as_filter [MemoryArea.default]).2.2 ⟨.FreeArea, 0⟩ hskip⟩

end MemoryAreaIter

end LibArch
