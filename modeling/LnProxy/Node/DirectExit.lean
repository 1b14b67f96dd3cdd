import LnProxy.Node.Exits

set_option autoImplicit false

/-! # The server's own exit

`NewServer` enters the server itself into the registry, as a persistent exit with the id `direct`.
Nothing in `handleExit` reserves this id: an exit that registers under it replaces the entry, and
takes it away when it leaves. As long as no registration has the id (`Exits.notDirect`), the entry
stays as `NewServer` made it. -/

namespace LnProxy

open Transition

namespace Exits

variable {s s' : Exits} {l : Label} {config : NodeConfig} {now : Time}

/-- The registry has the server's own exit, for good, and it can be selected. -/
def DirectServes (s : Exits) (limit : Int64) : Prop :=
  ∃ entry, s.registry.exits directID = some entry ∧ entry.persistent = true ∧
    entry.info.id = directID ∧ entry.info.type = "direct" ∧ entry.info.capacity = limit ∧
    ∀ order, s.registry.select order directID false = .ok entry.info

/-- No registration, with its defaults filled in, has the id of the server's own exit. -/
def notDirect (s : Exits) : Label → Bool
  | .register _ registration =>
    match complete s.config registration with
    | none => true
    | some completed => decide (completed.id ≠ directID)
  | _ => true

/-- The entry is as `NewServer` made it, and no handler serves its id. -/
structure DirectInv (config : NodeConfig) (now : Time) (s : Exits) : Prop where
  entry : s.registry.exits directID = some (directEntry config now)
  others : ∀ i, s.idOf i ≠ directID

theorem new_directInv (hrole : config.role = .server ∨ config.role = .serverExit) :
    DirectInv config now (new config now) where
  entry := new_entry_iff.2 ⟨by rcases hrole with hrole | hrole <;> simp [hrole], rfl, rfl⟩
  others i := by simp [new, idOf, directID]

/-- **Handlers of other ids leave the server's own exit alone.** -/
theorem DirectInv.steps (hinv : DirectInv config now s) (hok : s.notDirect l = true)
    (h : Steps s l s') : DirectInv config now s' := by
  cases h with
  | @register i registration completed h hcompleted =>
    refine ⟨hinv.entry, fun j => ?_⟩
    rw [goto_idOf, setRegistration_idOf]
    split
    · simpa [notDirect, hcompleted] using hok
    · exact hinv.others j
  | @add i time registration h hregistration =>
    refine ⟨?_, hinv.others⟩
    have hne : directID ≠ (exitInfo registration).id := fun heq =>
      hinv.others i ((idOf_eq hregistration).trans heq.symm)
    show (s.registry.add time _ _).exits directID = _
    rw [Registry.add_of_ne hne]
    exact hinv.entry
  | @heartbeat i time beat h =>
    refine ⟨?_, hinv.others⟩
    show (s.registry.heartbeat time _).exits directID = _
    rw [Registry.heartbeat_of_ne (Ne.symm (hinv.others i))]
    exact hinv.entry
  | @remove i h =>
    refine ⟨?_, hinv.others⟩
    show (s.registry.remove (s.idOf i)).exits directID = _
    rw [Registry.remove_of_ne (Ne.symm (hinv.others i))]
    exact hinv.entry
  | expire => exact ⟨Registry.expire_of_persistent hinv.entry rfl, hinv.others⟩
  | connect _ | registerInvalid _ | giveUp _ | enter _ | sessionEnd | leave _ _ =>
    exact ⟨hinv.entry, hinv.others⟩

theorem DirectInv.serves (hinv : DirectInv config now s) (hlimit : 0 < config.connectionLimit) :
    s.DirectServes config.connectionLimit := by
  refine ⟨_, hinv.entry, rfl, rfl, rfl, rfl, fun order => ?_⟩
  have havailable : (directEntry config now).info.available = true := by
    simp [ExitInfo.available, directEntry, hlimit]
  rw [Registry.select, if_neg (by decide), hinv.entry]
  simp [havailable]

/-- **The server's own exit is permanent.** In every state of every run of a server whose connection
    limit is positive, and in which no exit registers under its id. -/
theorem directServes_of_notDirect {as : List Label}
    (hrole : config.role = .server ∨ config.role = .serverExit)
    (hlimit : 0 < config.connectionLimit)
    (hok : Along step (fun m l => m.notDirect l = true) (new config now) as)
    (hrun : exec step (new config now) as = some s) : s.DirectServes config.connectionLimit := by
  have hinv : DirectInv config now s := exec_invariant (DirectInv config now)
    (fun _ _ _ hinv hl hstep => hinv.steps hl (step_steps hstep)) (new_directInv hrole) hok hrun
  exact hinv.serves hlimit

/-- An exit comes, sends a heartbeat, falls silent and leaves. -/
def visited : Exits :=
  after step (new sampleConfig 0)
    (registers 0 ++ [.enter 0, .add 0 0, .heartbeat 0 1 ⟨"direct", 8, 8⟩, .expire (seconds 100),
      .sessionEnd 0, .leave 0, .remove 0])

theorem visited_directServes : visited.registry.exits "home" = none ∧ visited.DirectServes 64 :=
  ⟨by decide +kernel,
    directServes_of_notDirect (Or.inl rfl) (by decide) (by decide +kernel)
      (exec_after (by decide +kernel))⟩

/-- An exit registers under the id of the server's own exit, and leaves. -/
def evicted : Exits :=
  after step (new sampleConfig 0)
    [.connect 0, .register 0 ⟨"direct", "", 8, ["tcp"]⟩, .enter 0, .add 0 0, .sessionEnd 0,
      .leave 0, .remove 0]

theorem evicted_not_directServes :
    evicted.phase 0 = .finished ∧ ∀ limit, ¬ evicted.DirectServes limit := by
  refine ⟨by decide +kernel, ?_⟩
  rintro limit ⟨entry, hentry, -⟩
  have hnone : evicted.registry.exits directID = none := by decide +kernel
  rw [hnone] at hentry
  cases hentry

end Exits

end LnProxy
