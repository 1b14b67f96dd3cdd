import Mathlib.Data.List.Basic

set_option autoImplicit false

/-! # Keeping the best of a list

A loop that keeps an element until it meets a better one ends with one that none of the others beats,
provided that not being better is transitive. Where no two elements tie, the order of the list does
not matter. -/

namespace RunningBest

variable {α : Type} (better : α → α → Prop) [DecidableRel better]

/-- One round of the loop. -/
def keep (best : Option α) (a : α) : Option α :=
  match best with
  | none => some a
  | some b => if better a b then some a else some b

def best (as : List α) : Option α := as.foldl (keep better) none

variable {better}

theorem foldl_keep (hasymm : ∀ a b, better a b → ¬ better b a)
    (htrans : ∀ a b c, ¬ better a b → ¬ better b c → ¬ better a c) (as : List α) (b : α) :
    ∃ m, as.foldl (keep better) (some b) = some m ∧ (m = b ∨ m ∈ as) ∧ ¬ better b m ∧
      ∀ a ∈ as, ¬ better a m := by
  induction as generalizing b with
  | nil => exact ⟨b, rfl, .inl rfl, fun h => hasymm b b h h, List.forall_mem_nil _⟩
  | cons a as ih =>
    rw [List.foldl_cons]
    by_cases hbetter : better a b
    · obtain ⟨m, hm, hmem, hnot, hall⟩ := ih a
      refine ⟨m, ?_, ?_, ?_, ?_⟩
      · rw [← hm, keep, if_pos hbetter]
      · rcases hmem with rfl | hmem
        · exact .inr (List.mem_cons_self ..)
        · exact .inr (List.mem_cons_of_mem _ hmem)
      · exact htrans b a m (hasymm a b hbetter) hnot
      · exact List.forall_mem_cons.2 ⟨hnot, hall⟩
    · obtain ⟨m, hm, hmem, hnot, hall⟩ := ih b
      refine ⟨m, ?_, ?_, hnot, ?_⟩
      · rw [← hm, keep, if_neg hbetter]
      · exact hmem.imp_right (List.mem_cons_of_mem _)
      · exact List.forall_mem_cons.2 ⟨htrans a b m hbetter hnot, hall⟩

theorem best_cons (hasymm : ∀ a b, better a b → ¬ better b a)
    (htrans : ∀ a b c, ¬ better a b → ¬ better b c → ¬ better a c) (a : α) (as : List α) :
    ∃ m, best better (a :: as) = some m ∧ m ∈ a :: as ∧ ∀ b ∈ a :: as, ¬ better b m := by
  obtain ⟨m, hm, hmem, hnot, hall⟩ := foldl_keep hasymm htrans as a
  exact ⟨m, hm, List.mem_cons.2 hmem, List.forall_mem_cons.2 ⟨hnot, hall⟩⟩

theorem best_eq_none_iff (hasymm : ∀ a b, better a b → ¬ better b a)
    (htrans : ∀ a b c, ¬ better a b → ¬ better b c → ¬ better a c) {as : List α} :
    best better as = none ↔ as = [] := by
  cases as with
  | nil => exact ⟨fun _ => rfl, fun _ => rfl⟩
  | cons a as =>
    obtain ⟨m, hbest, -⟩ := best_cons hasymm htrans a as
    rw [hbest]
    simp

/-- What the loop ends with is in the list, and nothing there is better. -/
theorem mem_of_best (hasymm : ∀ a b, better a b → ¬ better b a)
    (htrans : ∀ a b c, ¬ better a b → ¬ better b c → ¬ better a c) {as : List α} {m : α}
    (h : best better as = some m) : m ∈ as ∧ ∀ a ∈ as, ¬ better a m := by
  cases as with
  | nil => cases h
  | cons a as =>
    obtain ⟨m', hbest, hm'⟩ := best_cons hasymm htrans a as
    rw [hbest, Option.some.injEq] at h
    exact h ▸ hm'

/-- **The best element**, where no two tie. -/
theorem best_eq_some_iff (hasymm : ∀ a b, better a b → ¬ better b a)
    (htrans : ∀ a b c, ¬ better a b → ¬ better b c → ¬ better a c) {as : List α}
    (htie : ∀ a ∈ as, ∀ b ∈ as, ¬ better a b → ¬ better b a → a = b) {m : α} :
    best better as = some m ↔ m ∈ as ∧ ∀ a ∈ as, ¬ better a m := by
  refine ⟨mem_of_best hasymm htrans, fun ⟨hm, hmax⟩ => ?_⟩
  cases as with
  | nil => cases hm
  | cons a as =>
    obtain ⟨m', hbest, hm', hmax'⟩ := best_cons hasymm htrans a as
    rw [hbest, htie m' hm' m hm (hmax m' hm') (hmax' m hm)]

end RunningBest
