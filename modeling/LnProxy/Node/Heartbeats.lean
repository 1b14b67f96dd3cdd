import LnProxy.Node.Exits

set_option autoImplicit false

/-! # Heartbeats of a connected exit

`Registry.Heartbeat` updates the entry it finds and adds none. The entry of an exit that stays
connected can be gone: `Expire` deletes it after a long silence, and the handler of an older
connection deletes it when it cleans up behind itself (see `Exits.lean`). A heartbeat can also come
before `handleExit` has added the entry, for the control handler is installed earlier. In each case
the heartbeat is lost and the exit stays invisible until it connects again. -/

namespace LnProxy

open Transition

namespace Exits

variable {s s' : Exits} {l : Label} {config : NodeConfig} {now : Time} {i : Nat}

/-! ## The property and its condition -/

/-- The map of connections has the connection of handler `i`. -/
def Connected (i : Nat) (s : Exits) : Prop := s.exitConns (s.idOf i) = some i

instance (i : Nat) (s : Exits) : Decidable (s.Connected i) :=
  inferInstanceAs (Decidable (_ = _))

/-- The registry has an entry for the id of handler `i` with the given load. -/
def Listed (i : Nat) (active : Int64) (s : Exits) : Prop :=
  ∃ entry, s.registry.exits (s.idOf i) = some entry ∧ entry.info.activeConnections = active

/-- While handler `i` is connected, no `Expire` comes when its entry is stale and no other handler
    removes its id; and its heartbeats come after it has added itself, or find the entry of an older
    connection. -/
def spares (i : Nat) (s : Exits) : Label → Bool
  | .expire now =>
    decide (¬ s.Connected i) ||
      (s.registry.exits (s.idOf i)).all fun entry => decide (¬ s.registry.stale now entry)
  | .remove j => decide (¬ s.Connected i) || decide (s.idOf j ≠ s.idOf i)
  | .heartbeat j _ _ =>
    decide (j ≠ i) || decide (s.phase i = .serving) || (s.registry.exits (s.idOf i)).isSome
  | _ => true

/-! ## A connected exit stays in the registry -/

/-- An exit that is connected and served is in the registry. -/
def Served (i : Nat) (s : Exits) : Prop :=
  s.Connected i → s.phase i = .serving → s.registry.exits (s.idOf i) ≠ none

theorem Served.steps (h : Served i s) (hok : s.spares i l = true)
    (hstep : Steps s l s') : Served i s' := by
  intro hconnected hphase
  cases hstep with
  | @add j time registration hentered hregistration =>
    refine Registry.mem_add_iff.2 ?_
    by_cases hj : i = j
    · left
      rw [hj]
      exact idOf_eq hregistration
    · right
      rw [goto_phase, if_neg hj] at hphase
      exact h hconnected hphase
  | heartbeat _ => exact Registry.mem_heartbeat_iff.2 (h hconnected hphase)
  | @remove j hremoving =>
    have hj : i ≠ j := by
      rintro rfl
      simp at hphase
    rw [goto_phase, if_neg hj] at hphase
    have hconnected : s.Connected i := hconnected
    have hne : s.idOf j ≠ s.idOf i := by simpa [spares, hconnected] using hok
    exact Registry.mem_remove_iff.2 ⟨hne.symm, h hconnected hphase⟩
  | @expire time =>
    have hconnected : s.Connected i := hconnected
    obtain ⟨entry, hentry⟩ := Option.ne_none_iff_exists'.1 (h hconnected hphase)
    have hfresh : ¬ s.registry.stale time entry := by
      simpa [spares, hconnected, hentry] using hok
    exact Option.ne_none_iff_exists'.2 ⟨entry, Registry.expire_of_not_stale hentry hfresh⟩
  | @enter j hregistered =>
    have hj : i ≠ j := by
      rintro rfl
      simp at hphase
    rw [goto_phase, if_neg hj] at hphase
    -- the map still has handler `i` under its id, so handler `j` has another one
    have hentry : Function.update s.exitConns (s.idOf j) (some j) (s.idOf i) = some i := hconnected
    have hid : s.idOf i ≠ s.idOf j := by
      intro heq
      rw [heq, Function.update_self, Option.some.injEq] at hentry
      exact hj hentry.symm
    rw [Function.update_of_ne hid] at hentry
    exact h hentry hphase
  | @leave j hserving hlive =>
    have hj : i ≠ j := by
      rintro rfl
      simp at hphase
    rw [goto_phase, if_neg hj] at hphase
    have hentry : (s.leaveConn j).exitConns (s.idOf i) = some i := hconnected
    rw [leaveConn_exitConns] at hentry
    split at hentry
    · cases hentry
    · exact h hentry hphase
  | @register j registration completed hwaiting hcompleted =>
    have hj : i ≠ j := by
      rintro rfl
      simp at hphase
    rw [goto_phase, if_neg hj] at hphase
    have hid : ((s.setRegistration j completed).goto j .registered).idOf i = s.idOf i := by
      rw [goto_idOf, setRegistration_idOf, if_neg hj]
    have hentry : s.exitConns (((s.setRegistration j completed).goto j .registered).idOf i) =
      some i := hconnected
    rw [hid] at hentry ⊢
    exact h hentry hphase
  | @connect j habsent | @registerInvalid j _ hwaiting | @giveUp j hwaiting =>
    have hj : i ≠ j := by
      rintro rfl
      simp at hphase
    rw [goto_phase, if_neg hj] at hphase
    exact h hconnected hphase
  | sessionEnd => exact h hconnected hphase

/-- **A connected exit is listed after each of its heartbeats**, with the load it reports, in every run
    in which no entry of a connected exit is dropped and no heartbeat comes before the entry. -/
theorem listed_of_spares {as : List Label} {time : Time} {beat : Heartbeat}
    (hok : Along step (fun m l => m.spares i l = true) (new config now)
      (as ++ [.heartbeat i time beat]))
    (hrun : exec step (new config now) (as ++ [.heartbeat i time beat]) = some s)
    (hconnected : s.Connected i) : s.Listed i beat.active := by
  rw [exec_append] at hrun
  obtain ⟨m, hm, hlast⟩ := Option.bind_eq_some_iff.1 hrun
  obtain ⟨hbefore, hbeat⟩ := along_append hok hm
  obtain ⟨m', hstep, hend⟩ := exec_cons_some hlast
  rw [exec_nil, Option.some.injEq] at hend
  subst hend
  have hserved : Served i m := by
    refine exec_invariant (Served i) ?_ ?_ hbefore hm
    · intro s₁ l s₂ hserved hl hstep
      exact hserved.steps hl (step_steps hstep)
    · intro _ hphase
      cases hphase
  have hentry : m.registry.exits (m.idOf i) ≠ none := by
    have hspared := hbeat.1
    simp only [spares, ne_eq, not_true, decide_false, Bool.false_or, Bool.or_eq_true,
      decide_eq_true_eq] at hspared
    rcases hspared with hserving | hsome
    · cases step_steps hstep with
      | heartbeat _ => exact hserved hconnected hserving
    · exact Option.isSome_iff_ne_none.1 hsome
  obtain ⟨entry, hentry⟩ := Option.ne_none_iff_exists'.1 hentry
  cases step_steps hstep with
  | heartbeat _ =>
    have hwrites : m.registry.Writes (.heartbeat time { beat with exitID := m.idOf i }) _ _ :=
      .heartbeat hentry
    exact ⟨_, hwrites.apply, rfl⟩

/-- Heartbeats after gaps of forty seconds, with `Expire` in between. -/
def steadyBeats : List Label :=
  registers 0 ++ [.enter 0, .add 0 0, .expire (seconds 40), .heartbeat 0 (seconds 40) ⟨"", 3, 8⟩,
    .expire (seconds 80)]

theorem steadyBeats_listed :
    ∃ s, exec step (new sampleConfig 0)
        (steadyBeats ++ [.heartbeat 0 (seconds 80) ⟨"", 5, 8⟩]) = some s ∧
      s.Connected 0 ∧ s.Listed 0 5 := by
  have hrun : exec step (new sampleConfig 0)
      (steadyBeats ++ [.heartbeat 0 (seconds 80) ⟨"", 5, 8⟩]) =
      some (after step (new sampleConfig 0)
        (steadyBeats ++ [.heartbeat 0 (seconds 80) ⟨"", 5, 8⟩])) := exec_after (by decide +kernel)
  have hconnected : (after step (new sampleConfig 0)
      (steadyBeats ++ [.heartbeat 0 (seconds 80) ⟨"", 5, 8⟩])).Connected 0 := by decide +kernel
  exact ⟨_, hrun, hconnected, listed_of_spares (by decide +kernel) hrun hconnected⟩

/-- One gap of fifty seconds, over a tick of `catalogLoop`. -/
def silentOnce : Exits :=
  after step (new sampleConfig 0)
    (registers 0 ++ [.enter 0, .add 0 0, .expire (seconds 46), .heartbeat 0 (seconds 50) ⟨"", 3, 8⟩])

/-- The exit is connected, its heartbeat is processed, and the registry does not have it. -/
theorem silentOnce_not_listed :
    (exec step (new sampleConfig 0) (registers 0 ++ [.enter 0, .add 0 0, .expire (seconds 46),
        .heartbeat 0 (seconds 50) ⟨"", 3, 8⟩])).isSome = true ∧
      silentOnce.live 0 = true ∧ silentOnce.Connected 0 ∧ ¬ silentOnce.Listed 0 3 := by
  refine ⟨by decide +kernel, by decide +kernel, by decide +kernel, ?_⟩
  rintro ⟨entry, hentry, -⟩
  have hnone : silentOnce.registry.exits (silentOnce.idOf 0) = none := by decide +kernel
  rw [hnone] at hentry
  cases hentry

end Exits

end LnProxy
