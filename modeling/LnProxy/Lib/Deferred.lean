import Mathlib.Data.List.Basic
import Mathlib.Logic.Function.Basic

set_option autoImplicit false

/-! # Operations deferred past a lock

A flag is claimed under a lock, and the goroutine that claimed it performs an operation once the lock
is released. `threads t` is the list of sections goroutine `t` has still to run, and `b` the section
that performs the operation. While the flag is claimed and the operation is not performed, `b` is
pending exactly once among all goroutines; otherwise it is pending nowhere. So nobody can perform the
operation twice. -/

/-- The flag `claimed`, the operation `done`, and the section `b` that performs it agree. -/
inductive Deferred {ι α : Type} [DecidableEq α] (threads : ι → List α) (b : α) : Bool → Bool → Prop where
  | unclaimed (h : ∀ t, b ∉ threads t) : Deferred threads b false false
  | pending {t : ι} (honce : (threads t).count b = 1) (h : ∀ u, u ≠ t → b ∉ threads u) :
      Deferred threads b true false
  | performed (h : ∀ t, b ∉ threads t) : Deferred threads b true true

namespace Deferred

variable {ι α : Type} {threads : ι → List α} {b : α} {claimed done : Bool} {t : ι} {l : List α}

theorem not_mem_update [DecidableEq ι] (h : ∀ u, u ≠ t → b ∉ threads u) (hl : b ∉ l) (u : ι) :
    b ∉ Function.update threads t l u := by
  by_cases hu : u = t
  · subst hu
    rwa [Function.update_self]
  · rw [Function.update_of_ne hu]
    exact h u hu

variable [DecidableEq α]

/-- Whoever has the section on its stack finds the flag claimed and the operation not performed. -/
theorem of_mem (h : Deferred threads b claimed done) (hmem : b ∈ threads t) :
    claimed = true ∧ done = false := by
  cases h with
  | unclaimed h => exact absurd hmem (h t)
  | pending _ _ => exact ⟨rfl, rfl⟩
  | performed h => exact absurd hmem (h t)

theorem done_eq_false (h : Deferred threads b false done) : done = false := by
  cases h with
  | unclaimed _ => rfl

theorem claimed_of_done (h : Deferred threads b claimed true) : claimed = true := by
  cases h with
  | performed _ => rfl

/-- The operation under the lock that claims the flag leaves nothing to do. -/
theorem atOnce (h : Deferred threads b false done) : Deferred threads b true true := by
  cases h with
  | unclaimed h => exact .performed h

variable [DecidableEq ι]

/-- A goroutine runs a section that has nothing to do with the operation. -/
theorem frame (h : Deferred threads b claimed done) (hcount : l.count b = (threads t).count b) :
    Deferred (Function.update threads t l) b claimed done := by
  have habsent : b ∉ threads t → b ∉ l := fun hnot =>
    List.count_eq_zero.1 (hcount.trans (List.count_eq_zero.2 hnot))
  cases h with
  | unclaimed h => exact .unclaimed (not_mem_update (fun u _ => h u) (habsent (h t)))
  | performed h => exact .performed (not_mem_update (fun u _ => h u) (habsent (h t)))
  | @pending u honce h =>
    by_cases hu : u = t
    · subst hu
      refine .pending (t := u) ?_ fun v hv => ?_
      · rw [Function.update_self, hcount, honce]
      · rw [Function.update_of_ne hv]
        exact h v hv
    · refine .pending (t := u) ?_ fun v hv => ?_
      · rw [Function.update_of_ne hu, honce]
      · by_cases hvt : v = t
        · subst hvt
          rw [Function.update_self]
          exact habsent (h v hv)
        · rw [Function.update_of_ne hvt]
          exact h v hv

/-- A goroutine claims the flag and has the operation still to perform. -/
theorem claim (h : Deferred threads b false done) (hcount : l.count b = (threads t).count b + 1) :
    Deferred (Function.update threads t l) b true false := by
  cases h with
  | unclaimed h =>
    refine .pending (t := t) ?_ fun u hu => ?_
    · rw [Function.update_self, hcount, List.count_eq_zero.2 (h t)]
    · rw [Function.update_of_ne hu]
      exact h u

/-- A goroutine performs the operation. -/
theorem perform (h : Deferred threads b claimed done)
    (hcount : (threads t).count b = l.count b + 1) :
    Deferred (Function.update threads t l) b true true := by
  have hmem : b ∈ threads t := List.count_pos_iff.1 (by omega)
  cases h with
  | unclaimed h => exact absurd hmem (h t)
  | performed h => exact absurd hmem (h t)
  | @pending u honce h =>
    have hut : t = u := by
      by_contra hne
      exact h t hne hmem
    subst hut
    exact .performed (not_mem_update h (List.count_eq_zero.1 (by omega)))

end Deferred
