import Mathlib

/-!
# Store — the last-write store that the register file and the APIC builder refine

A store keeps one value per key, and a write replaces the value of its own key.  After a run of
writes each key holds the value of its last write, or what it held before the run if no write
went to it.  A concrete state machine refines the store when an observation of its state takes
each of its steps to the store's write; every run of it then reads back the last writes.

* `foldl_write` — after a run, each key holds its last write;
* `Refines.observe_foldl` — an observation that refines the store follows it over every run;
* `foldl_invariant` — what no step changes, no run changes.
-/

namespace LibArch

namespace Store

variable {κ ω ν : Type} [DecidableEq κ]

/-- The store's write: the value `val w` under the key `key w`. -/
def write (key : ω → κ) (val : ω → ν) (m : κ → ν) (w : ω) : κ → ν :=
  Function.update m (key w) (val w)

/-- The last write in `ws` to the key `k`. -/
def lastWrite (key : ω → κ) (ws : List ω) (k : κ) : Option ω :=
  ws.reverse.find? (fun w => key w = k)

theorem lastWrite_append_singleton (key : ω → κ) (ws : List ω) (w : ω) (k : κ) :
    lastWrite key (ws ++ [w]) k = if key w = k then some w else lastWrite key ws k := by
  by_cases h : key w = k <;> simp [lastWrite, h]

/-- A key has a last write exactly when some write of the run went to it. -/
theorem lastWrite_isSome (key : ω → κ) (ws : List ω) (k : κ) :
    (lastWrite key ws k).isSome ↔ k ∈ ws.map key := by
  simp only [lastWrite, List.find?_isSome, List.mem_reverse, decide_eq_true_eq, List.mem_map]

/-- **Each key holds its last write.** -/
theorem foldl_write (key : ω → κ) (val : ω → ν) (m : κ → ν) (ws : List ω) (k : κ) :
    ws.foldl (write key val) m k = ((lastWrite key ws k).map val).getD (m k) := by
  induction ws using List.reverseRecOn with
  | nil => rfl
  | append_singleton ws w ih =>
    rw [List.foldl_append, List.foldl_cons, List.foldl_nil, write, lastWrite_append_singleton]
    by_cases h : key w = k
    · subst h
      rw [Function.update_same, if_pos rfl]
      rfl
    · rw [Function.update_noteq (Ne.symm h), if_neg h, ih]

/-! ## Refining the store -/

section Refinement

variable {σ : Type} (step : σ → ω → σ)

/-- `observe` takes each step of `step` to the store's write of it. -/
def Refines (key : ω → κ) (val : ω → ν) (observe : σ → κ → ν) : Prop :=
  ∀ s w, observe (step s w) = write key val (observe s) w

theorem Refines.observe_foldl {key : ω → κ} {val : ω → ν} {observe : σ → κ → ν}
    (h : Refines step key val observe) (s : σ) (ws : List ω) :
    observe (ws.foldl step s) = ws.foldl (write key val) (observe s) := by
  induction ws generalizing s with
  | nil => rfl
  | cons w ws ih => rw [List.foldl_cons, List.foldl_cons, ih, h]

/-- What no step changes, no run changes. -/
theorem foldl_invariant {β : Type} (f : σ → β) (h : ∀ s w, f (step s w) = f s) (s : σ)
    (ws : List ω) : f (ws.foldl step s) = f s := by
  induction ws generalizing s with
  | nil => rfl
  | cons w ws ih => rw [List.foldl_cons, ih, h]

end Refinement

end Store

end LibArch
