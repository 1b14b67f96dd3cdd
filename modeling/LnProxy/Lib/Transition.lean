import Mathlib.Logic.Basic

set_option autoImplicit false

/-! # Executable transition systems

A system is a partial step function `step : σ → α → Option σ`: `step s a = none` means that the
action `a` is not enabled in `s`. `exec` runs a list of actions, so a concrete run is evaluated by
the kernel, and `Along` says that every action of a run is taken in a state that meets a side
condition. The invariant rules below are the only inductions over runs that the clients need. -/

namespace Transition

variable {σ τ α : Type}

/-! ## Runs -/

/-- Run the actions in order; `none` as soon as one of them is not enabled. -/
def exec (step : σ → α → Option σ) : σ → List α → Option σ
  | s, [] => some s
  | s, a :: as => (step s a).bind (fun s' => exec step s' as)

/-- The state a run ends in; where the run stops early, the state it began in. -/
def after (step : σ → α → Option σ) (s : σ) (as : List α) : σ := (exec step s as).getD s

/-- Every action of the run is taken in a state that meets `ok`. -/
def Along (step : σ → α → Option σ) (ok : σ → α → Prop) : σ → List α → Prop
  | _, [] => True
  | s, a :: as => ok s a ∧ ∀ s', step s a = some s' → Along step ok s' as

instance Along.decidable (step : σ → α → Option σ) (ok : σ → α → Prop)
    [∀ s a, Decidable (ok s a)] : (s : σ) → (as : List α) → Decidable (Along step ok s as)
  | _, [] => isTrue trivial
  | s, a :: as =>
    match hstep : step s a with
    | none => decidable_of_iff (ok s a)
        ⟨fun h => ⟨h, fun s' hs' => by rw [hstep] at hs'; cases hs'⟩, And.left⟩
    | some m =>
      have := Along.decidable step ok m as
      decidable_of_iff (ok s a ∧ Along step ok m as)
        ⟨fun h => ⟨h.1, fun s' hs' => by rw [hstep] at hs'; cases hs'; exact h.2⟩,
          fun h => ⟨h.1, h.2 m hstep⟩⟩

/-- The states some run from `s₀` ends in. -/
def Reachable (step : σ → α → Option σ) (s₀ s : σ) : Prop :=
  ∃ as, exec step s₀ as = some s

/-- A step with nothing but a guard, taken apart. -/
theorem eq_of_ite_some {p : Prop} [Decidable p] {s s' : σ}
    (h : (if p then some s else none) = some s') : p ∧ s = s' := by
  obtain ⟨hp, h⟩ := Option.ite_none_right_eq_some.1 h
  exact ⟨hp, Option.some.inj h⟩

variable {step : σ → α → Option σ} {ok : σ → α → Prop}

@[simp] theorem exec_nil (s : σ) : exec step s [] = some s := rfl

theorem exec_after {s : σ} {as : List α} (h : (exec step s as).isSome = true) :
    exec step s as = some (after step s as) := by
  obtain ⟨s', hs'⟩ := Option.isSome_iff_exists.1 h
  rw [after, hs', Option.getD_some]

theorem exec_cons_some {s s' : σ} {a : α} {as : List α} (h : exec step s (a :: as) = some s') :
    ∃ m, step s a = some m ∧ exec step m as = some s' := by
  simp only [exec, Option.bind_eq_some_iff] at h
  exact h

theorem exec_append (s : σ) (as bs : List α) :
    exec step s (as ++ bs) = (exec step s as).bind (fun m => exec step m bs) := by
  induction as generalizing s with
  | nil => rfl
  | cons a as ih =>
    simp only [List.cons_append, exec]
    cases step s a with
    | none => rfl
    | some m => simpa using ih m

theorem along_append {s m : σ} {as bs : List α} (h : Along step ok s (as ++ bs))
    (hm : exec step s as = some m) : Along step ok s as ∧ Along step ok m bs := by
  induction as generalizing s with
  | nil =>
    simp only [exec_nil, Option.some.injEq] at hm
    subst hm
    exact ⟨trivial, h⟩
  | cons a as ih =>
    obtain ⟨s₁, hs₁, hrest⟩ := exec_cons_some hm
    obtain ⟨hok, htail⟩ := h
    obtain ⟨hleft, hright⟩ := ih (htail s₁ hs₁) hrest
    refine ⟨⟨hok, fun s₂ hs₂ => ?_⟩, hright⟩
    rw [hs₁, Option.some.injEq] at hs₂
    exact hs₂ ▸ hleft

/-- A side condition holds along a run when it holds at every action of it. -/
theorem along_of_forall {s : σ} {as : List α}
    (h : ∀ pre a post m, as = pre ++ a :: post → exec step s pre = some m → ok m a) :
    Along step ok s as := by
  induction as generalizing s with
  | nil => trivial
  | cons a as ih =>
    refine ⟨h [] a as s rfl rfl, fun s' hs' => ih ?_⟩
    intro pre b post m has hm
    refine h (a :: pre) b post m (by rw [has, List.cons_append]) ?_
    simpa [exec, hs'] using hm

theorem Along.and {ok' : σ → α → Prop} {s : σ} {as : List α} (h : Along step ok s as)
    (h' : Along step ok' s as) : Along step (fun s a => ok s a ∧ ok' s a) s as := by
  induction as generalizing s with
  | nil => trivial
  | cons a as ih => exact ⟨⟨h.1, h'.1⟩, fun s' hs' => ih (h.2 s' hs') (h'.2 s' hs')⟩

/-! ## Invariant rules -/

/-- **Invariant rule.** What every step whose side condition holds preserves, every run whose steps
    all meet the side condition preserves. -/
theorem exec_invariant (Inv : σ → Prop)
    (hstep : ∀ s a s', Inv s → ok s a → step s a = some s' → Inv s') {s s' : σ} {as : List α}
    (hs : Inv s) (hok : Along step ok s as) (h : exec step s as = some s') : Inv s' := by
  induction as generalizing s with
  | nil =>
    simp only [exec_nil, Option.some.injEq] at h
    exact h ▸ hs
  | cons a as ih =>
    obtain ⟨m, hm, hrest⟩ := exec_cons_some h
    exact ih (hstep s a m hs hok.1 hm) (hok.2 m hm) hrest

/-- The invariant rule for properties of a state and of the actions that led to it. -/
theorem exec_invariant_past (Inv : List α → σ → Prop)
    (hstep : ∀ past s a s', Inv past s → ok s a → step s a = some s' → Inv (past ++ [a]) s')
    {past as : List α} {s s' : σ} (hs : Inv past s) (hok : Along step ok s as)
    (h : exec step s as = some s') : Inv (past ++ as) s' := by
  induction as generalizing past s with
  | nil =>
    simp only [exec_nil, Option.some.injEq] at h
    rw [List.append_nil, ← h]
    exact hs
  | cons a as ih =>
    obtain ⟨m, hm, hrest⟩ := exec_cons_some h
    rw [List.append_cons]
    exact ih (hstep past s a m hs hok.1 hm) (hok.2 m hm) hrest

/-- The invariant rule for unconditional steps. -/
theorem Reachable.invariant {s₀ s : σ} (Inv : σ → Prop)
    (hstep : ∀ s a s', Inv s → step s a = some s' → Inv s') (h₀ : Inv s₀)
    (h : Reachable step s₀ s) : Inv s := by
  obtain ⟨as, has⟩ := h
  induction as generalizing s₀ with
  | nil =>
    simp only [exec_nil, Option.some.injEq] at has
    exact has ▸ h₀
  | cons a as ih =>
    obtain ⟨m, hm, hrest⟩ := exec_cons_some has
    exact ih (hstep s₀ a m h₀ hm) hrest

/-- **Exact conditions.** Where a step keeps `P` exactly when it meets the side condition, `P` holds in
    all states of a run exactly when all its steps meet the side condition. -/
theorem along_iff (Inv P : σ → Prop) (hinv : ∀ s a s', Inv s → step s a = some s' → Inv s')
    (hstep : ∀ s a s', Inv s → P s → step s a = some s' → (ok s a ↔ P s')) {s s' : σ} {as : List α}
    (hs : Inv s) (hP : P s) (h : exec step s as = some s') :
    Along step ok s as ↔ ∀ pre m, pre <+: as → exec step s pre = some m → P m := by
  induction as generalizing s with
  | nil =>
    refine ⟨fun _ pre m hpre hm => ?_, fun _ => trivial⟩
    rw [List.prefix_nil.1 hpre, exec_nil, Option.some.injEq] at hm
    exact hm ▸ hP
  | cons a as ih =>
    obtain ⟨m, hm, hrest⟩ := exec_cons_some h
    have hok := hstep s a m hs hP hm
    constructor
    · rintro ⟨ha, htail⟩ pre n hpre hn
      cases pre with
      | nil =>
        rw [exec_nil, Option.some.injEq] at hn
        exact hn ▸ hP
      | cons b pre =>
        obtain ⟨rfl, htl⟩ := List.cons_prefix_cons.1 hpre
        simp only [exec, hm, Option.bind_some] at hn
        exact (ih (hinv s b m hs hm) (hok.1 ha) hrest).1 (htail m hm) pre n htl hn
    · intro hall
      have hPm : P m := hall [a] m ⟨as, rfl⟩ (by simp [exec, hm])
      refine ⟨hok.2 hPm, fun n hn => ?_⟩
      rw [hm, Option.some.injEq] at hn
      subst hn
      refine (ih (hinv s a m hs hm) hPm hrest).2 fun pre n hpre hn => ?_
      exact hall (a :: pre) n (List.cons_prefix_cons.2 ⟨rfl, hpre⟩) (by simpa [exec, hm] using hn)

/-! ## Possibility -/

/-- Some run whose actions are all allowed leads from `s` to a state in `P`. -/
def Can (step : σ → α → Option σ) (allowed : α → Prop) (P : σ → Prop) (s : σ) : Prop :=
  ∃ as s', (∀ a ∈ as, allowed a) ∧ exec step s as = some s' ∧ P s'

variable {allowed : α → Prop} {P : σ → Prop}

theorem Can.now {s : σ} (h : P s) : Can step allowed P s :=
  ⟨[], s, by simp, rfl, h⟩

theorem Can.next {s m : σ} {a : α} (ha : allowed a) (hstep : step s a = some m)
    (h : Can step allowed P m) : Can step allowed P s := by
  obtain ⟨as, s', has, hexec, hs'⟩ := h
  refine ⟨a :: as, s', ?_, by simp [exec, hstep, hexec], hs'⟩
  simpa [ha] using has

/-- Nothing new is possible where no allowed action is enabled. -/
theorem Can.of_stuck {s : σ} (hstuck : ∀ a, allowed a → step s a = none)
    (h : Can step allowed P s) : P s := by
  obtain ⟨as, s', has, hexec, hs'⟩ := h
  cases as with
  | nil =>
    cases hexec
    exact hs'
  | cons a as =>
    obtain ⟨m, hm, -⟩ := exec_cons_some hexec
    rw [hstuck a (has a (List.mem_cons_self ..))] at hm
    cases hm

/-! ## Termination -/

/-- Every run from `s` comes to an end, in a state in `P`: the runs have a common bound, and where no
    action is enabled `P` holds. -/
def Settles (step : σ → α → Option σ) (P : σ → Prop) (s : σ) : Prop :=
  ∃ n, ∀ as s', exec step s as = some s' →
    as.length ≤ n ∧ ((∀ a, step s' a = none) → P s')

theorem Settles.imp {P' : σ → Prop} {s : σ} (h : Settles step P s) (himp : ∀ s', P s' → P' s') :
    Settles step P' s := by
  obtain ⟨n, hn⟩ := h
  refine ⟨n, fun as s' hexec => ?_⟩
  obtain ⟨hlength, hP⟩ := hn as s' hexec
  exact ⟨hlength, fun hstuck => himp s' (hP hstuck)⟩

theorem Settles.stuck {s : σ} (hstuck : ∀ a, step s a = none) (h : P s) : Settles step P s := by
  refine ⟨0, fun as s' hexec => ?_⟩
  cases as with
  | nil =>
    cases hexec
    exact ⟨Nat.le_refl 0, fun _ => h⟩
  | cons a as =>
    obtain ⟨m, hm, -⟩ := exec_cons_some hexec
    rw [hstuck a] at hm
    cases hm

/-- Where every enabled action leads to the same state, it is enough to look there. -/
theorem Settles.forced {s m : σ} {a : α} (hstep : step s a = some m)
    (honly : ∀ b m', step s b = some m' → m' = m) (h : Settles step P m) : Settles step P s := by
  obtain ⟨n, hn⟩ := h
  refine ⟨n + 1, fun as s' hexec => ?_⟩
  cases as with
  | nil =>
    cases hexec
    refine ⟨Nat.zero_le _, fun hstuck => ?_⟩
    rw [hstuck a] at hstep
    cases hstep
  | cons b as =>
    obtain ⟨m', hm', hrest⟩ := exec_cons_some hexec
    rw [honly b m' hm'] at hrest
    obtain ⟨hlength, hP⟩ := hn as s' hrest
    exact ⟨Nat.succ_le_succ hlength, hP⟩

end Transition
