import LnProxy.Lib.Transition
import LnProxy.Protocol.Frame

set_option autoImplicit false

/-! # The client's connection manager (`internal/client/manager.go`)

The manager holds the session to the server. `Reconnect` drops the session it finds, closes it, dials,
authenticates, starts a new session and installs it, or reports an error; it holds the manager's lock
in its first section, where it installs, and in `setError`, not in between. `sessionLoop` waits for
the end of an installed session and starts `reconnectLoop`, which calls `Reconnect` up to six times.
All of these run at the same time, as do the calls of the shell and of `Close`.

A session is known here by its number and by whether it is over, closed by somebody or ended by
itself. -/

namespace LnProxy.Client

open Transition

inductive ConnState where
  | disconnected
  | connecting
  | connected
  deriving DecidableEq, Repr

structure Manager where
  session : Option Nat
  state : ConnState
  lastError : Option Err
  /-- The address and the passphrase are set. -/
  configured : Bool
  reconnect : Bool
  closed : Bool
  deriving DecidableEq, Repr

/-- Where a call of `Reconnect` stands. -/
inductive Phase where
  /-- Before the first section. -/
  | enter
  /-- Before `oldSession.Close`, with what the first section has read. -/
  | closeOld (old : Option Nat) (configured : Bool)
  /-- In `connectTransport`. -/
  | dial
  /-- In `ClientHandshakePassword`. -/
  | authenticate
  /-- In `startSession`. -/
  | start
  /-- Before the section that installs the session. -/
  | install (session : Nat)
  /-- Before `setError`. -/
  | fail (err : Err)
  deriving DecidableEq, Repr

/-- The goroutines. -/
inductive Task where
  /-- A call of `Reconnect`, by the shell or by an attempt of `reconnectLoop`. -/
  | reconnect (attempt : Option Nat) (phase : Phase)
  /-- `sessionLoop` at `<-sess.Done()`. -/
  | watch (session : Nat)
  /-- `sessionLoop` before it looks whether to reconnect. -/
  | restart
  /-- `reconnectLoop` at its timer. -/
  | wait (attempt : Nat)
  /-- `Close` behind its section, with the session it has taken. -/
  | close (session : Option Nat)
  | done
  deriving DecidableEq, Repr

structure System where
  manager : Manager
  /-- For each session that was started, whether it is over. -/
  sessions : List Bool
  tasks : List Task
  /-- Some call of `Close` has returned. -/
  closeReturned : Bool

namespace System

/-- `NewManager` -/
def new : System := ⟨⟨none, .disconnected, none, false, true, false⟩, [], [], false⟩

inductive Label where
  /-- `Connect` or `ConnectTCP`: the address and the passphrase are set, and `Reconnect` is called. -/
  | connect
  /-- The shell calls `Reconnect`. -/
  | reconnect
  | setReconnect (enabled : Bool)
  /-- `Close` is called and takes its section. -/
  | close
  /-- A session ends by itself. -/
  | ended (session : Nat)
  /-- A goroutine goes on; `result` is the outcome of dialling, authenticating or starting, and the
      error of a session that has ended. -/
  | run (task : Nat) (result : Option Err)
  deriving DecidableEq, Repr

/-- What follows a call of `Reconnect` that has returned. -/
def afterReconnect (attempt : Option Nat) (ok : Bool) : Task :=
  match attempt with
  | none => .done
  | some n => if ok = true ∨ 6 ≤ n + 1 then .done else .wait (n + 1)

def put (s : System) (t : Nat) (task : Task) : System := { s with tasks := s.tasks.set t task }

/-- `Session.Close`, where there is a session. -/
def closeSession (s : System) : Option Nat → System
  | none => s
  | some i => { s with sessions := s.sessions.set i true }

/-- One step of `Reconnect`. -/
def runReconnect (s : System) (t : Nat) (attempt : Option Nat) (result : Option Err) :
    Phase → System
  | .enter =>
    if s.manager.closed then s.put t (afterReconnect attempt false)
    else
      put { s with manager := { s.manager with
          session := none, state := .connecting, lastError := none } } t
        (.reconnect attempt (.closeOld s.manager.session s.manager.configured))
  | .closeOld old configured =>
    (s.closeSession old).put t (.reconnect attempt
      (if configured then .dial else .fail (.message "not configured")))
  | .dial => s.put t (.reconnect attempt
      (match result with | some err => .fail err | none => .authenticate))
  | .authenticate => s.put t (.reconnect attempt
      (match result with | some err => .fail err | none => .start))
  | .start =>
    match result with
    | some err => s.put t (.reconnect attempt (.fail err))
    | none => put { s with sessions := s.sessions ++ [false] } t
        (.reconnect attempt (.install s.sessions.length))
  | .install i =>
    let s' := put { s with manager := { s.manager with
      session := some i, state := .connected, lastError := none } } t (afterReconnect attempt true)
    { s' with tasks := s'.tasks ++ [.watch i] }
  | .fail err =>
    -- `setError` does not look at the session
    put { s with manager := { s.manager with state := .disconnected, lastError := some err } } t
      (afterReconnect attempt false)

def runTask (s : System) (t : Nat) (result : Option Err) : Task → Option System
  | .reconnect attempt phase => some (s.runReconnect t attempt result phase)
  | .watch i =>
    if s.sessions[i]? = some true then
      if s.manager.session = some i then
        some (put { s with manager := { s.manager with
          session := none, state := .disconnected, lastError := result } } t .restart)
      else some (s.put t .done)
    else none
  | .restart =>
    some (s.put t (if s.manager.reconnect ∧ ¬ s.manager.closed then .wait 0 else .done))
  | .wait n =>
    some (s.put t (if s.manager.closed then .done else .reconnect (some n) .enter))
  | .close old => some ({ s.closeSession old with closeReturned := true }.put t .done)
  | .done => none

def step (s : System) : Label → Option System
  | .connect => some { s with
      manager := { s.manager with configured := true },
      tasks := s.tasks ++ [.reconnect none .enter] }
  | .reconnect => some { s with tasks := s.tasks ++ [.reconnect none .enter] }
  | .setReconnect enabled => some { s with manager := { s.manager with reconnect := enabled } }
  | .close => some { s with
      manager := { s.manager with session := none, closed := true, state := .disconnected },
      tasks := s.tasks ++ [.close s.manager.session] }
  | .ended i => if s.sessions[i]? = some false then some (s.closeSession (some i)) else none
  | .run t result => (s.tasks[t]?).bind (s.runTask t result)

end System

/-- `Reconnect` is in progress: it has changed the manager and not returned. -/
def Task.busy : Task → Bool
  | .reconnect _ .enter => false
  | .reconnect _ _ => true
  | _ => false

/-- The session a goroutine has taken or started and will close or install. -/
def Task.holding : Task → Option Nat
  | .reconnect _ (.closeOld old _) => old
  | .reconnect _ (.install i) => some i
  | .close old => old
  | _ => none

namespace System

/-! ## The properties -/

/-- Where no `Reconnect` is in progress, the state tells whether there is a session, and every other
    session that was started is over. -/
def Truthful (s : System) : Prop :=
  (∀ task ∈ s.tasks, task.busy = false) →
    (s.manager.state = .connected ↔ s.manager.session ≠ none) ∧
      ∀ i : Nat, s.sessions[i]? = some false → s.manager.session = some i

/-- When `Close` has returned, there is no session, the state is disconnected, and every session that
    was started is over. -/
def Final (s : System) : Prop :=
  s.closeReturned = true → s.manager.session = none ∧ s.manager.state = .disconnected ∧
    ∀ i : Nat, s.sessions[i]? ≠ some false

/-- The manager has no session, or one that is over. -/
def vacant (s : System) : Bool :=
  match s.manager.session with
  | none => true
  | some i => decide (s.sessions[i]? ≠ some false)

/-- `Close` is not called, no `Reconnect` installs its session over one that runs, and none reports an
    error while there is a session. -/
def exclusive (s : System) : Label → Bool
  | .close => false
  | .run t _ =>
    match s.tasks[t]? with
    | some (.reconnect _ (.install _)) => s.vacant
    | some (.reconnect _ (.fail _)) => decide (s.manager.session = none)
    | _ => true
  | _ => true

/-- `Close` is called only while no `Reconnect` and no other `Close` is in progress, and no `Reconnect`
    installs its session over one that runs. -/
def orderly (s : System) : Label → Bool
  | .close => s.tasks.all fun task => !task.busy && decide (task.holding = none)
  | .run t _ =>
    match s.tasks[t]? with
    | some (.reconnect _ (.install _)) => s.vacant
    | _ => true
  | _ => true

/-! ## What a step does -/

variable {s s' : System} {l : Label}

inductive Steps (s : System) : Label → System → Prop where
  /-- The shell changes the configuration or calls `Reconnect`. -/
  | shell {l : Label} {configured reconnect : Bool} {called : List Task}
      (hcalled : ∀ task ∈ called, task = .reconnect none .enter) :
      Steps s l { s with
        manager := { s.manager with configured := configured, reconnect := reconnect },
        tasks := s.tasks ++ called }
  | close : Steps s .close { s with
      manager := { s.manager with session := none, closed := true, state := .disconnected },
      tasks := s.tasks ++ [.close s.manager.session] }
  | ended (i : Nat) : Steps s (.ended i) (s.closeSession (some i))
  /-- A goroutine goes on without touching the manager or a session. -/
  | advance {t : Nat} {result : Option Err} {task task' : Task} (htask : s.tasks[t]? = some task)
      (hholding : task.holding = none) (hholding' : task'.holding = none)
      (hclose : ∀ old, task' ≠ .close old) (hbusy : task'.busy = true → task.busy = true) :
      Steps s (.run t result) (s.put t task')
  | enter {t : Nat} {result : Option Err} {attempt : Option Nat}
      (htask : s.tasks[t]? = some (.reconnect attempt .enter)) (hclosed : s.manager.closed = false) :
      Steps s (.run t result) (put { s with manager := { s.manager with
          session := none, state := .connecting, lastError := none } } t
        (.reconnect attempt (.closeOld s.manager.session s.manager.configured)))
  | closeOld {t : Nat} {result : Option Err} {attempt old : Option Nat} {configured : Bool}
      {phase : Phase} (htask : s.tasks[t]? = some (.reconnect attempt (.closeOld old configured)))
      (hphase : Task.holding (.reconnect attempt phase) = none) :
      Steps s (.run t result) ((s.closeSession old).put t (.reconnect attempt phase))
  | start {t : Nat} {result : Option Err} {attempt : Option Nat}
      (htask : s.tasks[t]? = some (.reconnect attempt .start)) :
      Steps s (.run t result) (put { s with sessions := s.sessions ++ [false] } t
        (.reconnect attempt (.install s.sessions.length)))
  | install {t i : Nat} {result : Option Err} {attempt : Option Nat} {task' : Task}
      (htask : s.tasks[t]? = some (.reconnect attempt (.install i)))
      (hholding : task'.holding = none) (hclose : ∀ old, task' ≠ .close old)
      (hbusy : task'.busy = false) :
      Steps s (.run t result) { s with
        manager := { s.manager with session := some i, state := .connected, lastError := none },
        tasks := s.tasks.set t task' ++ [.watch i] }
  | fail {t : Nat} {result : Option Err} {attempt : Option Nat} {err : Err} {task' : Task}
      (htask : s.tasks[t]? = some (.reconnect attempt (.fail err)))
      (hholding : task'.holding = none) (hclose : ∀ old, task' ≠ .close old)
      (hbusy : task'.busy = false) :
      Steps s (.run t result)
        (put { s with manager := { s.manager with
          state := .disconnected, lastError := some err } } t task')
  | watch {t i : Nat} {result : Option Err} (htask : s.tasks[t]? = some (.watch i))
      (hover : s.sessions[i]? = some true) (hsession : s.manager.session = some i) :
      Steps s (.run t result) (put { s with manager := { s.manager with
        session := none, state := .disconnected, lastError := result } } t .restart)
  | closed {t : Nat} {result : Option Err} {old : Option Nat}
      (htask : s.tasks[t]? = some (.close old)) :
      Steps s (.run t result) ({ s.closeSession old with closeReturned := true }.put t .done)

/-- What `Reconnect` leaves behind is nothing to account for. -/
theorem afterReconnect_idle (attempt : Option Nat) (ok : Bool) :
    (afterReconnect attempt ok).holding = none ∧ (∀ old, afterReconnect attempt ok ≠ .close old) ∧
      (afterReconnect attempt ok).busy = false := by
  unfold afterReconnect
  cases attempt with
  | none => exact ⟨rfl, by simp, rfl⟩
  | some n =>
    dsimp only
    split <;> exact ⟨rfl, by simp, rfl⟩

theorem runReconnect_steps {t : Nat} {attempt : Option Nat} {result : Option Err} {phase : Phase}
    (htask : s.tasks[t]? = some (.reconnect attempt phase)) :
    Steps s (.run t result) (s.runReconnect t attempt result phase) := by
  cases phase with
  | enter =>
    obtain ⟨hholding, hclose, hbusy⟩ := afterReconnect_idle attempt false
    simp only [runReconnect]
    split
    · exact .advance htask rfl hholding hclose (by simp [hbusy])
    · next hclosed => exact .enter htask (by simpa using hclosed)
  | closeOld old configured => exact .closeOld htask (by split <;> rfl)
  | dial | authenticate =>
    refine .advance htask rfl ?_ (by simp) (fun _ => rfl)
    cases result <;> rfl
  | start =>
    cases result with
    | none => exact .start htask
    | some err => exact .advance htask rfl rfl (by simp) (fun _ => rfl)
  | install i =>
    obtain ⟨hholding, hclose, hbusy⟩ := afterReconnect_idle attempt true
    exact .install htask hholding hclose hbusy
  | fail err =>
    obtain ⟨hholding, hclose, hbusy⟩ := afterReconnect_idle attempt false
    exact .fail htask hholding hclose hbusy

/-- **Inversion of a step.** -/
theorem step_steps (h : s.step l = some s') : Steps s l s' := by
  cases l with
  | connect =>
    cases h
    exact .shell (by simp)
  | reconnect =>
    cases h
    exact .shell (by simp)
  | setReconnect enabled =>
    cases h
    have hshell := @Steps.shell s (.setReconnect enabled) s.manager.configured enabled [] (by simp)
    rwa [List.append_nil] at hshell
  | close =>
    cases h
    exact .close
  | ended i =>
    obtain ⟨-, rfl⟩ := eq_of_ite_some h
    exact .ended i
  | run t result =>
    obtain ⟨task, htask, h⟩ := Option.bind_eq_some_iff.1 h
    cases task with
    | reconnect attempt phase =>
      cases h
      exact runReconnect_steps htask
    | watch i =>
      simp only [runTask, Option.ite_none_right_eq_some] at h
      obtain ⟨hover, h⟩ := h
      split at h
      · next hsession =>
        cases h
        exact .watch htask hover hsession
      · cases h
        exact .advance htask rfl rfl (by simp) (by simp [Task.busy])
    | restart =>
      cases h
      refine .advance htask rfl ?_ ?_ ?_ <;> split <;> simp [Task.holding, Task.busy]
    | wait n =>
      cases h
      refine .advance htask rfl ?_ ?_ ?_ <;> split <;> simp [Task.holding, Task.busy]
    | close old =>
      cases h
      exact .closed htask
    | done => cases h

/-! ## Every session is accounted for -/

/-- A session that runs is the manager's, or a goroutine has it and will close or install it. -/
def Accounted (s : System) : Prop :=
  ∀ i : Nat, s.sessions[i]? = some false → s.manager.session = some i ∨
    ∃ task ∈ s.tasks, task.holding = some i

/-- A goroutine other than the one that has its turn stays. -/
theorem holding_set {tasks : List Task} {t i : Nat} {task task' : Task}
    (htask : tasks[t]? = some task) (hnot : task.holding ≠ some i) :
    (∃ other ∈ tasks, other.holding = some i) →
      ∃ other ∈ tasks.set t task', other.holding = some i := by
  rintro ⟨other, hother, hholding⟩
  obtain ⟨t', ht'⟩ := List.mem_iff_getElem?.1 hother
  have hne : t ≠ t' := by
    rintro rfl
    rw [htask, Option.some.injEq] at ht'
    exact hnot (ht' ▸ hholding)
  refine ⟨other, List.mem_iff_getElem?.2 ⟨t', ?_⟩, hholding⟩
  rw [List.getElem?_set_ne hne]
  exact ht'

theorem mem_set_self {tasks : List Task} {t : Nat} {task task' : Task}
    (htask : tasks[t]? = some task) : task' ∈ tasks.set t task' := by
  obtain ⟨hlt, -⟩ := List.getElem?_eq_some_iff.1 htask
  exact List.mem_set hlt task'

/-- The sessions that run after another one was closed. -/
theorem running_of_closeSession {old : Option Nat} {i : Nat}
    (h : (s.closeSession old).sessions[i]? = some false) :
    s.sessions[i]? = some false ∧ old ≠ some i := by
  cases old with
  | none => exact ⟨h, by simp⟩
  | some j =>
    simp only [closeSession, List.getElem?_set] at h
    split at h
    · split at h <;> cases h
    · next hne => exact ⟨h, fun heq => hne (Option.some.inj heq)⟩

@[simp] theorem closeSession_manager (old : Option Nat) :
    (s.closeSession old).manager = s.manager := by
  cases old <;> rfl

@[simp] theorem closeSession_tasks (old : Option Nat) : (s.closeSession old).tasks = s.tasks := by
  cases old <;> rfl

@[simp] theorem closeSession_closeReturned (old : Option Nat) :
    (s.closeSession old).closeReturned = s.closeReturned := by
  cases old <;> rfl

theorem Accounted.steps (hacc : s.Accounted) (h : Steps s l s')
    (hinstall : ∀ t result attempt i, l = .run t result →
      s.tasks[t]? = some (.reconnect attempt (.install i)) → s.vacant = true) : s'.Accounted := by
  intro i hi
  cases h with
  | shell _ =>
    refine (hacc i hi).imp_right ?_
    rintro ⟨task, hmem, hholding⟩
    exact ⟨task, List.mem_append_left _ hmem, hholding⟩
  | close =>
    refine Or.inr ?_
    rcases hacc i hi with hsession | ⟨task, hmem, hholding⟩
    · exact ⟨_, List.mem_append_right _ (List.mem_singleton_self _), hsession⟩
    · exact ⟨task, List.mem_append_left _ hmem, hholding⟩
  | ended j =>
    obtain ⟨hi, -⟩ := running_of_closeSession hi
    simpa using hacc i hi
  | advance htask hnone _ _ _ => exact (hacc i hi).imp_right (holding_set htask (by simp [hnone]))
  | enter htask _ =>
    refine Or.inr ?_
    rcases hacc i hi with hsession | hheld
    · exact ⟨_, mem_set_self htask, hsession⟩
    · exact holding_set htask (by simp [Task.holding]) hheld
  | closeOld htask _ =>
    obtain ⟨hi, hold⟩ := running_of_closeSession hi
    simp only [put, closeSession_manager, closeSession_tasks]
    exact (hacc i hi).imp_right (holding_set htask hold)
  | @start t result attempt htask =>
    -- the new session is with the goroutine that has started it
    by_cases hnew : i = s.sessions.length
    · subst hnew
      exact Or.inr ⟨_, mem_set_self htask, rfl⟩
    · have hold : s.sessions[i]? = some false := by
        have hi : (s.sessions ++ [false])[i]? = some false := hi
        rcases Nat.lt_or_ge i s.sessions.length with hlt | hge
        · rwa [List.getElem?_append_left hlt] at hi
        · have hlt : i < (s.sessions ++ [false]).length := (List.getElem?_eq_some_iff.1 hi).1
          simp only [List.length_append, List.length_singleton] at hlt
          omega
      exact (hacc i hold).imp_right (holding_set htask (by simp [Task.holding]))
  | @install t j result attempt task' htask _ _ _ =>
    have hi : s.sessions[i]? = some false := hi
    have hvacant := hinstall t result attempt j rfl htask
    rcases hacc i hi with hsession | hheld
    · -- the session that is replaced is over
      simp [vacant, hsession, hi] at hvacant
    · by_cases hj : j = i
      · exact Or.inl (congrArg some hj)
      · obtain ⟨other, hmem, hholding⟩ :=
          @holding_set _ _ _ _ task' htask (by simpa [Task.holding]) hheld
        exact Or.inr ⟨other, List.mem_append_left _ hmem, hholding⟩
  | fail htask _ _ _ => exact (hacc i hi).imp_right (holding_set htask (by simp [Task.holding]))
  | @watch t j result htask hover hsession =>
    have hi : s.sessions[i]? = some false := hi
    refine Or.inr ?_
    rcases hacc i hi with heq | hheld
    · rw [hsession, Option.some.injEq] at heq
      rw [heq, hi] at hover
      cases hover
    · exact holding_set htask (by simp [Task.holding]) hheld
  | closed htask =>
    obtain ⟨hi, hold⟩ := running_of_closeSession hi
    simp only [put, closeSession_manager, closeSession_tasks]
    exact (hacc i hi).imp_right (holding_set htask hold)

theorem busy_of_holding {task : Task} {i : Nat} (h : task.holding = some i) :
    task.busy = true ∨ task = .close (some i) := by
  cases task with
  | reconnect attempt phase =>
    cases phase with
    | enter => cases h
    | _ => exact Or.inl rfl
  | close old =>
    obtain rfl : old = some i := h
    exact Or.inr rfl
  | _ => cases h

/-! ## One session and a truthful state -/

structure Consistent (s : System) : Prop where
  accounted : s.Accounted
  state : s.manager.state = .connected ↔ s.manager.session ≠ none
  noClose : ∀ old, Task.close old ∉ s.tasks

theorem new_consistent : new.Consistent where
  accounted := by simp [Accounted, new]
  state := by simp [new]
  noClose := by simp [new]

theorem Consistent.truthful (h : s.Consistent) : s.Truthful := by
  intro hidle
  refine ⟨h.state, fun i hi => ?_⟩
  refine (h.accounted i hi).resolve_right ?_
  rintro ⟨task, hmem, hholding⟩
  rcases busy_of_holding hholding with hbusy | rfl
  · rw [hidle task hmem] at hbusy
    cases hbusy
  · exact h.noClose _ hmem

theorem vacant_of_exclusive (h : s.exclusive l = true) {t i : Nat} {result : Option Err}
    {attempt : Option Nat} (hl : l = .run t result)
    (htask : s.tasks[t]? = some (.reconnect attempt (.install i))) : s.vacant = true := by
  subst hl
  simpa [exclusive, htask] using h

theorem Consistent.steps (hcons : s.Consistent) (hexclusive : s.exclusive l = true)
    (h : Steps s l s') : s'.Consistent := by
  have hacc : s'.Accounted :=
    hcons.accounted.steps h fun _ _ _ _ hl htask => vacant_of_exclusive hexclusive hl htask
  have hset : ∀ {t : Nat} {task' : Task}, (∀ old, task' ≠ .close old) →
      ∀ old, Task.close old ∉ s.tasks.set t task' := by
    intro t task' hne old hmem
    rcases List.mem_or_eq_of_mem_set hmem with hmem | heq
    · exact hcons.noClose old hmem
    · exact hne old heq.symm
  cases h with
  | shell hcalled =>
    refine ⟨hacc, hcons.state, fun old hmem => ?_⟩
    rcases List.mem_append.1 hmem with hmem | hmem
    · exact hcons.noClose old hmem
    · cases hcalled _ hmem
  | close => cases hexclusive
  | ended i =>
    exact ⟨hacc, by simpa using hcons.state, by simpa using hcons.noClose⟩
  | advance _ _ _ hclose _ => exact ⟨hacc, hcons.state, hset hclose⟩
  | enter _ _ => exact ⟨hacc, by simp [put], hset (by simp)⟩
  | closeOld _ _ =>
    refine ⟨hacc, ?_, ?_⟩
    · simpa [put] using hcons.state
    · simp only [put, closeSession_tasks]
      exact hset (by simp)
  | start _ => exact ⟨hacc, hcons.state, hset (by simp)⟩
  | install _ _ hclose _ =>
    refine ⟨hacc, by simp, fun old hmem => ?_⟩
    rcases List.mem_append.1 hmem with hmem | hmem
    · exact hset hclose old hmem
    · cases List.mem_singleton.1 hmem
  | fail htask _ hclose _ =>
    have hnone : s.manager.session = none := by simpa [exclusive, htask] using hexclusive
    exact ⟨hacc, by simp [put, hnone], hset hclose⟩
  | watch _ _ _ => exact ⟨hacc, by simp [put], hset (by simp)⟩
  | closed htask => exact absurd (List.mem_of_getElem? htask) (hcons.noClose _)

/-- **When there is one session and the state is true.** In every run without `Close` in which no
    `Reconnect` installs its session over one that runs, and none reports an error while there is a
    session: whenever no `Reconnect` is in progress, the manager is connected iff it has a session,
    and every other session is over. -/
theorem truthful_of_exclusive {as : List Label} (hrun : exec step new as = some s)
    (hexclusive : Along step (fun m l => m.exclusive l = true) new as) : s.Truthful := by
  have hcons : s.Consistent :=
    exec_invariant Consistent (fun _ _ _ hm hok hstep => hm.steps hok (step_steps hstep))
      new_consistent hexclusive hrun
  exact hcons.truthful

/-- Goroutine `t` runs on, `n` times without an error. -/
def runs (t n : Nat) : List Label := List.replicate n (.run t none)

/-- The session ends, `reconnectLoop` starts another one, and then the shell reconnects. -/
def inTurn : List Label :=
  .connect :: runs 0 6 ++ [.ended 0] ++ runs 1 2 ++ runs 1 7 ++ [.reconnect] ++ runs 3 6

theorem inTurn_truthful :
    ∃ s, exec step new inTurn = some s ∧ s.manager.session = some 2 ∧
      s.sessions = [true, true, false] ∧ s.Truthful := by
  have hrun : exec step new inTurn = some (after step new inTurn) := exec_after (by decide +kernel)
  exact ⟨_, hrun, by decide +kernel, by decide +kernel,
    truthful_of_exclusive hrun (by decide +kernel)⟩

/-- Two calls of `Reconnect` at the same time, both of which succeed. -/
def bothSucceed : List Label :=
  [.connect, .reconnect] ++ runs 0 5 ++ runs 1 5 ++ runs 0 1 ++ runs 1 1

/-- Two calls at the same time, of which the second one fails to dial. -/
def oneFails : List Label :=
  [.connect, .reconnect] ++ runs 0 5 ++ runs 1 2 ++ runs 0 1 ++
    [.run 1 (some (.transport "refused")), .run 1 none]

/-- The first session runs on and nobody will close it; a manager with a session is disconnected. -/
theorem bothSucceed_not_truthful :
    (∃ s, exec step new bothSucceed = some s ∧ ¬ s.Truthful) ∧
      ∃ s, exec step new oneFails = some s ∧ ¬ s.Truthful := by
  refine ⟨⟨_, exec_after (by decide +kernel), fun h => ?_⟩,
    ⟨_, exec_after (by decide +kernel), fun h => ?_⟩⟩
  · have hsession := (h (by decide +kernel)).2 0 (by decide +kernel)
    exact absurd hsession (by decide +kernel)
  · have hstate := (h (by decide +kernel)).1
    exact absurd (hstate.2 (by decide +kernel)) (by decide +kernel)

/-! ## `Close` is final -/

structure Shut (s : System) : Prop where
  accounted : s.Accounted
  /-- Before `Close`, no goroutine is in it. -/
  before : s.manager.closed = false → s.closeReturned = false ∧ ∀ old, Task.close old ∉ s.tasks
  /-- After it, `Reconnect` does nothing any more. -/
  behind : s.manager.closed = true → s.manager.session = none ∧ s.manager.state = .disconnected ∧
    ∀ task ∈ s.tasks, task.busy = false
  /-- A goroutine in `Close` that has taken a session is the only one in it. -/
  alone : ∀ (t t' i : Nat) (old : Option Nat), s.tasks[t]? = some (.close (some i)) →
    s.tasks[t']? = some (.close old) → t' = t
  final : s.closeReturned = true → ∀ task ∈ s.tasks, task.holding = none

theorem new_shut : new.Shut where
  accounted := by simp [Accounted, new]
  before := by simp [new]
  behind := by simp [new]
  alone := by simp [new]
  final := by simp [new]

theorem Shut.closed_of_mem (h : s.Shut) {old : Option Nat} (hmem : Task.close old ∈ s.tasks) :
    s.manager.closed = true := by
  by_contra hopen
  exact (h.before (by simpa using hopen)).2 old hmem

theorem Shut.closed_of_returned (h : s.Shut) (hreturned : s.closeReturned = true) :
    s.manager.closed = true := by
  by_contra hopen
  rw [(h.before (by simpa using hopen)).1] at hreturned
  cases hreturned

/-- After `Close`, a goroutine that still runs `Reconnect` would be in progress. -/
theorem Shut.not_busy (h : s.Shut) (hclosed : s.manager.closed = true) {t : Nat} {task : Task}
    (htask : s.tasks[t]? = some task) (hbusy : task.busy = true) : False := by
  rw [(h.behind hclosed).2.2 task (List.mem_of_getElem? htask)] at hbusy
  cases hbusy

theorem Shut.isFinal (h : s.Shut) : s.Final := by
  intro hreturned
  obtain ⟨hsession, hstate, -⟩ := h.behind (h.closed_of_returned hreturned)
  refine ⟨hsession, hstate, fun i hi => ?_⟩
  rcases h.accounted i hi with hcurrent | ⟨task, hmem, hholding⟩
  · rw [hsession] at hcurrent
    cases hcurrent
  · rw [h.final hreturned task hmem] at hholding
    cases hholding

theorem kept_set {tasks : List Task} {t : Nat} {task' : Task} (hclose : ∀ old, task' ≠ .close old)
    (u : Nat) (old : Option Nat) (hu : (tasks.set t task')[u]? = some (.close old)) :
    tasks[u]? = some (.close old) := by
  rw [List.getElem?_set] at hu
  split at hu
  · split at hu
    · exact absurd (Option.some.inj hu) (hclose old)
    · cases hu
  · exact hu

theorem kept_append {tasks called : List Task} (hclose : ∀ task ∈ called, ∀ old, task ≠ .close old)
    (u : Nat) (old : Option Nat) (hu : (tasks ++ called)[u]? = some (.close old)) :
    tasks[u]? = some (.close old) := by
  rcases Nat.lt_or_ge u tasks.length with hlt | hge
  · rwa [List.getElem?_append_left hlt] at hu
  · rw [List.getElem?_append_right hge] at hu
    exact absurd rfl (hclose _ (List.mem_of_getElem? hu) old)

/-- A step outside `Close` keeps the invariant, if after `Close` it leaves nothing behind that is in
    progress. -/
theorem Shut.goOn (h : s.Shut) (hacc : s'.Accounted)
    (hclosed : s'.manager.closed = s.manager.closed) (hreturned : s'.closeReturned = s.closeReturned)
    (hkept : ∀ (u : Nat) (old : Option Nat), s'.tasks[u]? = some (.close old) →
      s.tasks[u]? = some (.close old))
    (hbehind : s.manager.closed = true → s'.manager.session = none ∧
      s'.manager.state = .disconnected ∧
      ∀ task ∈ s'.tasks, task ∈ s.tasks ∨ task.busy = false ∧ task.holding = none) : s'.Shut := by
  refine ⟨hacc, fun hopen => ?_, fun hshut => ?_, fun t t' i old ht ht' => ?_,
    fun hret task hmem => ?_⟩
  · rw [hclosed] at hopen
    refine ⟨hreturned.trans (h.before hopen).1, fun old hmem => ?_⟩
    obtain ⟨u, hu⟩ := List.mem_iff_getElem?.1 hmem
    exact (h.before hopen).2 old (List.mem_of_getElem? (hkept u old hu))
  · rw [hclosed] at hshut
    obtain ⟨hsession, hstate, htasks⟩ := hbehind hshut
    refine ⟨hsession, hstate, fun task hmem => ?_⟩
    rcases htasks task hmem with hmem | ⟨hbusy, -⟩
    · exact (h.behind hshut).2.2 task hmem
    · exact hbusy
  · exact h.alone t t' i old (hkept t _ ht) (hkept t' old ht')
  · rw [hreturned] at hret
    rcases (hbehind (h.closed_of_returned hret)).2.2 task hmem with hmem | ⟨-, hholding⟩
    · exact h.final hret task hmem
    · exact hholding

theorem Shut.close (h : s.Shut) (hacc : System.Accounted { s with
      manager := { s.manager with session := none, closed := true, state := .disconnected },
      tasks := s.tasks ++ [.close s.manager.session] })
    (hidle : ∀ task ∈ s.tasks, task.busy = false ∧ task.holding = none) :
    System.Shut { s with
      manager := { s.manager with session := none, closed := true, state := .disconnected },
      tasks := s.tasks ++ [.close s.manager.session] } := by
  -- a second `Close` finds no session
  have hagain : s.manager.closed = true → s.manager.session = none := fun hclosed =>
    (h.behind hclosed).1
  have hsplit : ∀ (u : Nat) (old : Option Nat),
      (s.tasks ++ [Task.close s.manager.session])[u]? = some (.close old) →
      s.tasks[u]? = some (.close old) ∨ u = s.tasks.length ∧ old = s.manager.session := by
    intro u old hu
    rcases Nat.lt_or_ge u s.tasks.length with hlt | hge
    · rw [List.getElem?_append_left hlt] at hu
      exact Or.inl hu
    · rw [List.getElem?_append_right hge] at hu
      obtain ⟨hlt, heq⟩ := List.getElem?_eq_some_iff.1 hu
      simp only [List.length_singleton, Nat.lt_one_iff] at hlt
      simp only [hlt, List.getElem_cons_zero, Task.close.injEq] at heq
      exact Or.inr ⟨by omega, heq.symm⟩
  refine ⟨hacc, by simp, fun _ => ⟨rfl, rfl, fun task hmem => ?_⟩, fun t t' i old ht ht' => ?_,
    fun hreturned task hmem => ?_⟩
  · rcases List.mem_append.1 hmem with hmem | hmem
    · exact (hidle task hmem).1
    · rw [List.mem_singleton.1 hmem]
      rfl
  · rcases hsplit t (some i) ht with hin | ⟨rfl, hsession⟩
    · have hnone := (hidle _ (List.mem_of_getElem? hin)).2
      cases hnone
    · rcases hsplit t' old ht' with hin' | ⟨rfl, -⟩
      · have hnone := hagain (h.closed_of_mem (List.mem_of_getElem? hin'))
        rw [hnone] at hsession
        cases hsession
      · rfl
  · rcases List.mem_append.1 hmem with hmem | hmem
    · exact (hidle task hmem).2
    · rw [List.mem_singleton.1 hmem]
      exact hagain (h.closed_of_returned hreturned)

theorem Shut.closed (h : s.Shut) {t : Nat} {old : Option Nat}
    (htask : s.tasks[t]? = some (.close old))
    (hacc : System.Accounted ({ s.closeSession old with closeReturned := true }.put t .done)) :
    System.Shut ({ s.closeSession old with closeReturned := true }.put t .done) := by
  have hclosed := h.closed_of_mem (List.mem_of_getElem? htask)
  obtain ⟨hsession, hstate, hbusy⟩ := h.behind hclosed
  refine ⟨hacc, ?_, fun _ => ?_, ?_, fun _ task hmem => ?_⟩
  · simp [put, hclosed]
  · simp only [put, closeSession_manager, closeSession_tasks]
    refine ⟨hsession, hstate, fun task hmem => ?_⟩
    rcases List.mem_or_eq_of_mem_set hmem with hmem | rfl
    · exact hbusy task hmem
    · rfl
  · simp only [put, closeSession_tasks]
    intro u u' i old' hu hu'
    exact h.alone u u' i old' (kept_set (by simp) u _ hu) (kept_set (by simp) u' old' hu')
  · -- nobody else has a session: not `Reconnect`, and no other `Close`
    simp only [put, closeSession_tasks] at hmem
    obtain ⟨u, hu⟩ := List.mem_iff_getElem?.1 hmem
    rw [List.getElem?_set] at hu
    split at hu
    · split at hu
      · cases hu
        rfl
      · cases hu
    · next hne =>
      cases hholding : task.holding with
      | none => rfl
      | some i =>
        rcases busy_of_holding hholding with hbusy' | rfl
        · exact (h.not_busy hclosed hu hbusy').elim
        · exact absurd (h.alone u t i old hu htask) hne

theorem vacant_of_orderly (h : s.orderly l = true) {t i : Nat} {result : Option Err}
    {attempt : Option Nat} (hl : l = .run t result)
    (htask : s.tasks[t]? = some (.reconnect attempt (.install i))) : s.vacant = true := by
  subst hl
  simpa [orderly, htask] using h

theorem Shut.steps (hshut : s.Shut) (horderly : s.orderly l = true) (h : Steps s l s') :
    s'.Shut := by
  have hacc : s'.Accounted :=
    hshut.accounted.steps h fun _ _ _ _ hl htask => vacant_of_orderly horderly hl htask
  cases h with
  | @shell _ _ _ called hcalled =>
    refine hshut.goOn hacc rfl rfl (kept_append fun task hmem old => ?_) fun hclosed => ?_
    · rw [hcalled task hmem]
      simp
    · obtain ⟨hsession, hstate, -⟩ := hshut.behind hclosed
      refine ⟨hsession, hstate, fun task hmem => ?_⟩
      refine (List.mem_append.1 hmem).imp_right fun hmem => ?_
      rw [hcalled task hmem]
      exact ⟨rfl, rfl⟩
  | close =>
    refine hshut.close hacc fun task hmem => ?_
    simpa using List.all_eq_true.1 horderly task hmem
  | ended i =>
    refine hshut.goOn hacc (by simp) (by simp) (by simp) fun hclosed => ?_
    obtain ⟨hsession, hstate, -⟩ := hshut.behind hclosed
    simp only [closeSession_manager, closeSession_tasks]
    exact ⟨hsession, hstate, fun task hmem => Or.inl hmem⟩
  | @advance t result task task' htask hholding hholding' hclose hbusy =>
    refine hshut.goOn hacc rfl rfl (kept_set hclose) fun hclosed => ?_
    obtain ⟨hsession, hstate, -⟩ := hshut.behind hclosed
    refine ⟨hsession, hstate, fun other hmem => ?_⟩
    refine (List.mem_or_eq_of_mem_set hmem).imp_right ?_
    rintro rfl
    refine ⟨?_, hholding'⟩
    by_contra hbusy'
    exact hshut.not_busy hclosed htask (hbusy (by simpa using hbusy'))
  | enter _ hopen =>
    refine hshut.goOn hacc rfl rfl (kept_set (by simp)) fun hclosed => ?_
    rw [hopen] at hclosed
    cases hclosed
  | closeOld htask _ =>
    refine hshut.goOn hacc (by simp [put]) (by simp [put]) ?_
      fun hclosed => (hshut.not_busy hclosed htask rfl).elim
    simp only [put, closeSession_tasks]
    exact kept_set (by simp)
  | start htask =>
    exact hshut.goOn hacc rfl rfl (kept_set (by simp))
      fun hclosed => (hshut.not_busy hclosed htask rfl).elim
  | install htask _ hclose _ =>
    refine hshut.goOn hacc rfl rfl (fun u old hu => ?_)
      fun hclosed => (hshut.not_busy hclosed htask rfl).elim
    exact kept_set hclose u old (kept_append (by simp) u old hu)
  | fail htask _ hclose _ =>
    exact hshut.goOn hacc rfl rfl (kept_set hclose)
      fun hclosed => (hshut.not_busy hclosed htask rfl).elim
  | watch _ _ hsession =>
    refine hshut.goOn hacc rfl rfl (kept_set (by simp)) fun hclosed => ?_
    rw [(hshut.behind hclosed).1] at hsession
    cases hsession
  | closed htask => exact hshut.closed htask hacc

/-- **When `Close` is final.** In every run in which `Close` is called only while no `Reconnect` and no
    other `Close` is in progress, and no `Reconnect` installs its session over one that runs: whenever
    a call of `Close` has returned, the manager has no session, is disconnected, and every session it
    has started is over. -/
theorem final_of_orderly {as : List Label} (hrun : exec step new as = some s)
    (horderly : Along step (fun m l => m.orderly l = true) new as) : s.Final := by
  have hshut : s.Shut :=
    exec_invariant Shut (fun _ _ _ hm hok hstep => hm.steps hok (step_steps hstep)) new_shut
      horderly hrun
  exact hshut.isFinal

/-- `Close` after a connection was made, with a call of `Reconnect` and the watching goroutine behind
    it. -/
def closedInTurn : List Label :=
  .connect :: runs 0 6 ++ [.close] ++ runs 2 1 ++ [.reconnect] ++ runs 3 1 ++ runs 1 1

theorem closedInTurn_final :
    ∃ s, exec step new closedInTurn = some s ∧ s.closeReturned = true ∧ s.sessions = [true] ∧
      s.Final := by
  have hrun : exec step new closedInTurn = some (after step new closedInTurn) :=
    exec_after (by decide +kernel)
  exact ⟨_, hrun, by decide +kernel, by decide +kernel, final_of_orderly hrun (by decide +kernel)⟩

/-- `Close` is called and returns while `Reconnect` authenticates. -/
def closedMeanwhile : List Label := .connect :: runs 0 3 ++ [.close] ++ runs 1 1 ++ runs 0 3

/-- The session is started and installed after `Close` has returned, and nobody will close it. -/
theorem closedMeanwhile_not_final :
    ∃ s, exec step new closedMeanwhile = some s ∧ s.closeReturned = true ∧
      s.manager.session = some 0 ∧ s.manager.state = .connected ∧ s.sessions = [false] ∧
      ¬ s.Final := by
  refine ⟨_, exec_after (by decide +kernel), by decide +kernel, by decide +kernel, by decide +kernel,
    by decide +kernel, fun h => ?_⟩
  exact absurd (h (by decide +kernel)).1 (by decide +kernel)

end System

end LnProxy.Client
