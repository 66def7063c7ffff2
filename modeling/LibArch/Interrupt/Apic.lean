import LibArch.Store

/-!
# Interrupt/Apic — the local APIC builder `ApicInfo` of `interrupt/mod.rs`

`ApicInfo` starts with every field `None`; each setter `set_attr!` generates stores `Some(arg)`
in its own field, and `build` checks the required fields under the configuration flags
`cfg!(x2apic)` and `cfg!(xapic)`.  The builder is the last-write store of `Store` over its
fields (`get_refines`).

* `build_after_setters` — after any sequence of setter calls from `ApicInfo::new()`, each field
  holds its last value set; `build` accepts exactly when the calls set the error and spurious
  vectors, the timer vector under `x2apic` and the I/O APIC offset under `xapic`, and then
  returns the builder unchanged; and a missing error or spurious vector is reported as
  `x2apic: required field(s) empty` under every configuration — Rust's `&&` binds tighter than
  `||`, so only the timer vector depends on `x2apic`.
-/

namespace LibArch

/-- `TimerMode`, `#[repr(u8)]`. -/
inductive TimerMode
  | OneShot
  | Periodic
  | TscDeadline
  deriving DecidableEq, Repr

/-- `TimerDivide`, `#[repr(u8)]`. -/
inductive TimerDivide
  | Div2
  | Div4
  | Div8
  | Div16
  | Div32
  | Div64
  | Div128
  | Div256
  deriving DecidableEq, Repr

/-- `IpiDestMode`, `#[repr(u8)]`. -/
inductive IpiDestMode
  | Physical
  | Logical
  deriving DecidableEq, Repr

/-- `ApicInfo`; a `usize` is a `u64`. -/
structure ApicInfo where
  timerVector : Option (BitVec 64)
  errorVector : Option (BitVec 64)
  spuriousVector : Option (BitVec 64)
  timerMode : Option TimerMode
  timerDivide : Option TimerDivide
  timerInitial : Option (BitVec 32)
  ipiDestinationMode : Option IpiDestMode
  ioapicOffset : Option (BitVec 8)
  deriving DecidableEq, Repr

namespace ApicInfo

/-- `ApicInfo::new`: `Default::default()`, every field `None`. -/
def new : ApicInfo := ⟨none, none, none, none, none, none, none, none⟩

/-! ## The setters

`set_attr!($name, $attr, $args)` generates `fn $name(&mut self, arg: $args)`, which stores
`Some(arg)` in `$attr`: one body, `setAttr`, over the eight calls. -/

/-- A call of one of the generated setters, with its argument. -/
inductive Attr
  | ioapicOffset (arg : BitVec 8)
  | timerVector (arg : BitVec 64)
  | errorVector (arg : BitVec 64)
  | spuriousVector (arg : BitVec 64)
  | timerMode (arg : TimerMode)
  | timerDivide (arg : TimerDivide)
  | timerInitial (arg : BitVec 32)
  | ipiDestinationMode (arg : IpiDestMode)
  deriving DecidableEq, Repr

/-- The fields of `ApicInfo`. -/
inductive Field
  | ioapicOffset
  | timerVector
  | errorVector
  | spuriousVector
  | timerMode
  | timerDivide
  | timerInitial
  | ipiDestinationMode
  deriving DecidableEq, Repr

/-- The field a setter stores into. -/
def Attr.field : Attr → Field
  | ioapicOffset _ => .ioapicOffset
  | timerVector _ => .timerVector
  | errorVector _ => .errorVector
  | spuriousVector _ => .spuriousVector
  | timerMode _ => .timerMode
  | timerDivide _ => .timerDivide
  | timerInitial _ => .timerInitial
  | ipiDestinationMode _ => .ipiDestinationMode

/-- The body of every `set_attr!` setter: `self.$attr = Some(arg)`. -/
def setAttr (a : ApicInfo) : Attr → ApicInfo
  | .ioapicOffset arg => { a with ioapicOffset := some arg }
  | .timerVector arg => { a with timerVector := some arg }
  | .errorVector arg => { a with errorVector := some arg }
  | .spuriousVector arg => { a with spuriousVector := some arg }
  | .timerMode arg => { a with timerMode := some arg }
  | .timerDivide arg => { a with timerDivide := some arg }
  | .timerInitial arg => { a with timerInitial := some arg }
  | .ipiDestinationMode arg => { a with ipiDestinationMode := some arg }

/-- `set_io_apic_offset`, `set_attr!(set_io_apic_offset, ioapic_offset, u8)`. -/
def setIoApicOffset (a : ApicInfo) (arg : BitVec 8) : ApicInfo := a.setAttr (.ioapicOffset arg)

/-- `set_timer_vector`, `set_attr!(set_timer_vector, timer_vector, usize)`. -/
def setTimerVector (a : ApicInfo) (arg : BitVec 64) : ApicInfo := a.setAttr (.timerVector arg)

/-- `set_error_vector`, `set_attr!(set_error_vector, error_vector, usize)`. -/
def setErrorVector (a : ApicInfo) (arg : BitVec 64) : ApicInfo := a.setAttr (.errorVector arg)

/-- `set_spurious_vector`, `set_attr!(set_spurious_vector, spurious_vector, usize)`. -/
def setSpuriousVector (a : ApicInfo) (arg : BitVec 64) : ApicInfo :=
  a.setAttr (.spuriousVector arg)

/-- `set_timer_mode`, `set_attr!(set_timer_mode, timer_mode, TimerMode)`. -/
def setTimerMode (a : ApicInfo) (arg : TimerMode) : ApicInfo := a.setAttr (.timerMode arg)

/-- `set_timer_divide`, `set_attr!(set_timer_divide, timer_divide, TimerDivide)`. -/
def setTimerDivide (a : ApicInfo) (arg : TimerDivide) : ApicInfo := a.setAttr (.timerDivide arg)

/-- `set_timer_initial`, `set_attr!(set_timer_initial, timer_initial, u32)`. -/
def setTimerInitial (a : ApicInfo) (arg : BitVec 32) : ApicInfo := a.setAttr (.timerInitial arg)

/-- `set_ipi_destination_mode`,
`set_attr!(set_ipi_destination_mode, ipi_destination_mode, IpiDestMode)`. -/
def setIpiDestinationMode (a : ApicInfo) (arg : IpiDestMode) : ApicInfo :=
  a.setAttr (.ipiDestinationMode arg)

/-- `build`, under `cfg!(x2apic)` and `cfg!(xapic)`.  Its first test is
`cfg!(x2apic) && timer_vector.is_none() || error_vector.is_none() || spurious_vector.is_none()`,
the `&&` binding tighter. -/
def build (x2apic xapic : Bool) (a : ApicInfo) : Except String ApicInfo :=
  if x2apic && a.timerVector.isNone || a.errorVector.isNone || a.spuriousVector.isNone then
    .error "x2apic: required field(s) empty"
  else if xapic && a.ioapicOffset.isNone then .error "xapic: required field(s) empty"
  else .ok a

/-! ## The builder as a store -/

/-- Each field's value, as the setter call that stores it; `none` for a field still `None`. -/
def get (a : ApicInfo) : Field → Option Attr
  | .ioapicOffset => a.ioapicOffset.map .ioapicOffset
  | .timerVector => a.timerVector.map .timerVector
  | .errorVector => a.errorVector.map .errorVector
  | .spuriousVector => a.spuriousVector.map .spuriousVector
  | .timerMode => a.timerMode.map .timerMode
  | .timerDivide => a.timerDivide.map .timerDivide
  | .timerInitial => a.timerInitial.map .timerInitial
  | .ipiDestinationMode => a.ipiDestinationMode.map .ipiDestinationMode

/-- **Each setter is a write of the last-write store**: its field holds the call, and every other
field is as it was. -/
theorem get_refines : Store.Refines setAttr Attr.field some get := by
  intro a c
  funext f
  rw [Store.write, Function.update_apply]
  split_ifs with hf
  · subst hf
    cases c <;> rfl
  · cases c <;> cases f <;> first | exact absurd rfl hf | rfl

/-- From `new()`, a field holds the last call that set it. -/
theorem get_foldl_new (calls : List Attr) (f : Field) :
    (calls.foldl setAttr new).get f = Store.lastWrite Attr.field calls f := by
  rw [get_refines.observe_foldl, Store.foldl_write]
  have hnew : new.get f = none := by cases f <;> rfl
  rw [hnew]
  cases Store.lastWrite Attr.field calls f <;> rfl

/-- The build's tests read whether a field is set. -/
theorem isSome_field (a : ApicInfo) :
    a.timerVector.isSome = (a.get .timerVector).isSome ∧
      a.errorVector.isSome = (a.get .errorVector).isSome ∧
      a.spuriousVector.isSome = (a.get .spuriousVector).isSome ∧
      a.ioapicOffset.isSome = (a.get .ioapicOffset).isSome := by
  simp [get]

/-- `build` accepts exactly when neither of its tests fires, and then returns the builder. -/
theorem build_eq_ok_iff (x2apic xapic : Bool) (a : ApicInfo) :
    build x2apic xapic a = .ok a ↔
      (x2apic && a.timerVector.isNone || a.errorVector.isNone || a.spuriousVector.isNone) = false ∧
        (xapic && a.ioapicOffset.isNone) = false := by
  unfold build
  cases h1 : (x2apic && a.timerVector.isNone || a.errorVector.isNone || a.spuriousVector.isNone)
  · cases h2 : (xapic && a.ioapicOffset.isNone)
    · exact iff_of_true rfl ⟨rfl, rfl⟩
    · exact iff_of_false (fun h => Except.noConfusion h) fun h => Bool.noConfusion h.2
  · exact iff_of_false (fun h => Except.noConfusion h) fun h => Bool.noConfusion h.1

/-- **The builder keeps the last value of each field, and `build` checks the calls made.**  After
any sequence of setter calls from `ApicInfo::new()`: each field holds the last value set to it,
or `None`; `build` returns the builder unchanged (no documented default is filled in) exactly
when the calls set the error and the spurious vectors, the timer vector if `x2apic` is
configured, and the I/O APIC offset if `xapic` is; and without the error or the spurious vector
it fails with `x2apic: required field(s) empty` whatever the configuration. -/
theorem build_after_setters (x2apic xapic : Bool) (calls : List Attr) :
    (∀ f, (calls.foldl setAttr new).get f = Store.lastWrite Attr.field calls f) ∧
      (build x2apic xapic (calls.foldl setAttr new) = .ok (calls.foldl setAttr new) ↔
        (x2apic = true → Field.timerVector ∈ calls.map Attr.field) ∧
          Field.errorVector ∈ calls.map Attr.field ∧ Field.spuriousVector ∈ calls.map Attr.field ∧
          (xapic = true → Field.ioapicOffset ∈ calls.map Attr.field)) ∧
      (Field.errorVector ∉ calls.map Attr.field ∨ Field.spuriousVector ∉ calls.map Attr.field →
        build x2apic xapic (calls.foldl setAttr new) = .error "x2apic: required field(s) empty") := by
  have hset : ∀ f, ((calls.foldl setAttr new).get f).isSome ↔ f ∈ calls.map Attr.field :=
    fun f => by rw [get_foldl_new, Store.lastWrite_isSome]
  obtain ⟨ht, he, hs, hi⟩ := isSome_field (calls.foldl setAttr new)
  refine ⟨get_foldl_new calls, ?_, fun h => ?_⟩
  · rw [build_eq_ok_iff, ← hset, ← hset, ← hset, ← hset, ← ht, ← he, ← hs, ← hi]
    simp only [Bool.or_eq_false_iff, Bool.and_eq_false_imp, Option.isNone_eq_false_iff,
      and_assoc]
  · rw [← hset, ← hset, ← he, ← hs] at h
    unfold build
    rw [if_pos]
    rcases h with h | h <;> simp [Option.not_isSome_iff_eq_none.mp h]

/- With `x2apic` not configured, a builder that sets only the timer vector is still refused, and
with the `x2apic` message. -/
example :
    build false false ([Attr.timerVector 32#64].foldl setAttr new) =
      .error "x2apic: required field(s) empty" :=
  rfl

end ApicInfo

end LibArch
