import LnProxy.Lib.Transition
import LnProxy.Node.History

set_option autoImplicit false

/-! # Exits that connect, reconnect and leave (`Server.handleExit`)

One `handleExit` runs for each connection of an exit. It enters itself into `exitConns`, under the
server's lock, and closes the session of the handler it finds there; then it adds the exit to the
registry, which has a lock of its own; and when its session has ended it undoes both. The deletion
from `exitConns` checks that the entry is still its own, the removal from the registry does not. The
map and the registry agree exactly as long as no handler removes an id that a connected exit is
registered under (`Exits.agrees_iff`). -/

namespace LnProxy

open Transition

/-! ## State -/

inductive Role where
  | server
  | exit
  | serverExit
  deriving DecidableEq, Repr

/-- The part of `config.Node` that `NewServer` and `handleExit` read. -/
structure NodeConfig where
  role : Role
  connectionLimit : Int64
  exitID : String
  deriving DecidableEq, Repr

/-- Where a run of `handleExit` stands. -/
inductive ExitPhase where
  /-- There is no such run. -/
  | absent
  /-- In `waitForRegistration`. -/
  | waiting
  /-- Before the update of `exitConns`. -/
  | registered
  /-- Between the update of `exitConns` and `registry.Add`. -/
  | entered
  /-- At `<-sess.Done()`. -/
  | serving
  /-- Between the update of `exitConns` and `registry.Remove`. -/
  | removing
  /-- Returned. -/
  | finished
  deriving DecidableEq, Repr

/-- The server as its exit handlers see it. Handlers are numbered; the number stands for the session
    and for the `exitConn` of the handler. -/
structure Exits where
  config : NodeConfig
  registry : Registry
  exitConns : String → Option Nat
  phase : Nat → ExitPhase
  /-- The session has not ended. -/
  live : Nat → Bool
  /-- The registration, with its defaults filled in. -/
  registration : Nat → Option ExitRegistration

def directID : String := "direct"

/-- The registry of `NewServer`: a server is its own exit. -/
def NodeConfig.registry (config : NodeConfig) (now : Time) : Registry :=
  if config.role = .server ∨ config.role = .serverExit then
    (newRegistry (seconds 45)).addPersistent now
      ⟨directID, "server", "direct", "", 1, 0, config.connectionLimit, ["tcp"], 0⟩ "healthy"
  else newRegistry (seconds 45)

namespace Exits

/-- `NewServer` -/
def new (config : NodeConfig) (now : Time) : Exits where
  config := config
  registry := config.registry now
  exitConns := fun _ => none
  phase := fun _ => .absent
  live := fun _ => false
  registration := fun _ => none

/-- The entry `NewServer` makes. -/
def directEntry (config : NodeConfig) (now : Time) : ExitEntry :=
  ⟨⟨directID, "server", "direct", "healthy", 1, 0, config.connectionLimit, ["tcp"],
    now.unixMilli⟩, now, true⟩

/-- A new registry has the server's own exit, or nothing. -/
theorem new_entry_iff {config : NodeConfig} {now : Time} {id : String} {entry : ExitEntry} :
    (new config now).registry.exits id = some entry ↔
      config.role ≠ .exit ∧ id = directID ∧ entry = directEntry config now := by
  cases hrole : config.role <;>
    simp [new, NodeConfig.registry, hrole, Registry.addPersistent, Registry.addEntry, newRegistry,
      Function.update_apply, directEntry, eq_comm]

/-! ## Steps -/

inductive Label where
  /-- `handleExit` begins and starts its session. -/
  | connect (i : Nat)
  /-- `waitForRegistration` returns a registration. -/
  | register (i : Nat) (registration : ExitRegistration)
  /-- `waitForRegistration` returns an error. -/
  | giveUp (i : Nat)
  /-- The update of `exitConns`. -/
  | enter (i : Nat)
  /-- `registry.Add` -/
  | add (i : Nat) (now : Time)
  /-- The session ends. -/
  | sessionEnd (i : Nat)
  /-- The control handler gets a heartbeat. -/
  | heartbeat (i : Nat) (now : Time) (heartbeat : Heartbeat)
  /-- The session has ended; the deletion from `exitConns`. -/
  | leave (i : Nat)
  /-- `registry.Remove` -/
  | remove (i : Nat)
  /-- `catalogLoop`: `registry.Expire` -/
  | expire (now : Time)
  deriving DecidableEq, Repr

def Label.noExpire : Label → Bool
  | .expire _ => false
  | _ => true

/-- The defaults of a registration; `none` when it has no id. -/
def complete (config : NodeConfig) (registration : ExitRegistration) : Option ExitRegistration :=
  let id := if registration.id = "" then config.exitID else registration.id
  if id = "" then none
  else some
    { registration with
      id := id,
      capacity := if registration.capacity ≤ 0 then config.connectionLimit
        else registration.capacity,
      name := if registration.name = "" then id else registration.name }

/-- The id handler `i` serves. -/
def idOf (s : Exits) (i : Nat) : String :=
  match s.registration i with
  | none => ""
  | some registration => registration.id

theorem idOf_eq {s : Exits} {i : Nat} {registration : ExitRegistration}
    (h : s.registration i = some registration) : s.idOf i = registration.id := by
  rw [idOf, h]

def goto (s : Exits) (i : Nat) (phase : ExitPhase) : Exits :=
  { s with phase := Function.update s.phase i phase }

def setLive (s : Exits) (i : Nat) (live : Bool) : Exits :=
  { s with live := Function.update s.live i live }

def setRegistration (s : Exits) (i : Nat) (registration : ExitRegistration) : Exits :=
  { s with registration := Function.update s.registration i (some registration) }

def setRegistry (s : Exits) (registry : Registry) : Exits := { s with registry := registry }

section Fields

variable (s : Exits) (i j : Nat) (id : String) (phase : ExitPhase) (live : Bool) (registry : Registry)
  (registration : ExitRegistration)

@[simp, grind =] theorem goto_phase : (s.goto i phase).phase j = if j = i then phase else s.phase j := by
  simp [goto, Function.update_apply]
@[simp, grind =] theorem goto_live : (s.goto i phase).live j = s.live j := rfl
@[simp, grind =] theorem goto_exitConns : (s.goto i phase).exitConns id = s.exitConns id := rfl
@[simp, grind =] theorem goto_registry : (s.goto i phase).registry = s.registry := rfl
@[simp, grind =] theorem goto_idOf : (s.goto i phase).idOf j = s.idOf j := rfl
@[simp, grind =] theorem setLive_live : (s.setLive i live).live j = if j = i then live else s.live j := by
  simp [setLive, Function.update_apply]
@[simp, grind =] theorem setLive_phase : (s.setLive i live).phase j = s.phase j := rfl
@[simp, grind =] theorem setLive_exitConns : (s.setLive i live).exitConns id = s.exitConns id := rfl
@[simp, grind =] theorem setLive_registry : (s.setLive i live).registry = s.registry := rfl
@[simp, grind =] theorem setLive_idOf : (s.setLive i live).idOf j = s.idOf j := rfl
@[simp, grind =] theorem setRegistration_phase :
    (s.setRegistration i registration).phase j = s.phase j := rfl
@[simp, grind =] theorem setRegistration_live : (s.setRegistration i registration).live j = s.live j := rfl
@[simp, grind =] theorem setRegistration_exitConns :
    (s.setRegistration i registration).exitConns id = s.exitConns id := rfl
@[simp, grind =] theorem setRegistration_registry :
    (s.setRegistration i registration).registry = s.registry := rfl
@[simp, grind =] theorem setRegistration_idOf :
    (s.setRegistration i registration).idOf j = if j = i then registration.id else s.idOf j := by
  by_cases hj : j = i <;> simp [setRegistration, idOf, hj]
@[simp, grind =] theorem setRegistry_phase : (s.setRegistry registry).phase j = s.phase j := rfl
@[simp, grind =] theorem setRegistry_live : (s.setRegistry registry).live j = s.live j := rfl
@[simp, grind =] theorem setRegistry_exitConns :
    (s.setRegistry registry).exitConns id = s.exitConns id := rfl
@[simp, grind =] theorem setRegistry_registry : (s.setRegistry registry).registry = registry := rfl
@[simp, grind =] theorem setRegistry_idOf : (s.setRegistry registry).idOf j = s.idOf j := rfl

end Fields

/-- The locked section that enters handler `i`. -/
def enterConn (s : Exits) (i : Nat) : Exits :=
  { s with
    live := match s.exitConns (s.idOf i) with
      | none => s.live
      | some old => Function.update s.live old false,
    exitConns := Function.update s.exitConns (s.idOf i) (some i) }

/-- The locked section that deletes handler `i`. -/
def leaveConn (s : Exits) (i : Nat) : Exits :=
  { s with
    exitConns := if s.exitConns (s.idOf i) = some i
      then Function.update s.exitConns (s.idOf i) none else s.exitConns }

@[simp, grind =] theorem enterConn_phase (s : Exits) (i j : Nat) :
    (s.enterConn i).phase j = s.phase j := rfl
@[simp, grind =] theorem enterConn_idOf (s : Exits) (i j : Nat) :
    (s.enterConn i).idOf j = s.idOf j := rfl
@[simp, grind =] theorem leaveConn_phase (s : Exits) (i j : Nat) :
    (s.leaveConn i).phase j = s.phase j := rfl
@[simp, grind =] theorem leaveConn_live (s : Exits) (i j : Nat) :
    (s.leaveConn i).live j = s.live j := rfl
@[simp, grind =] theorem leaveConn_idOf (s : Exits) (i j : Nat) :
    (s.leaveConn i).idOf j = s.idOf j := rfl
@[simp, grind =] theorem leaveConn_registry (s : Exits) (i : Nat) :
    (s.leaveConn i).registry = s.registry := rfl
@[grind =] theorem leaveConn_exitConns (s : Exits) (i : Nat) (id : String) :
    (s.leaveConn i).exitConns id =
      if s.exitConns (s.idOf i) = some i ∧ id = s.idOf i then none else s.exitConns id := by
  simp only [leaveConn]
  split
  · next h => simp [h, Function.update_apply]
  · next h => simp [h]

def exitInfo (registration : ExitRegistration) : ExitInfo :=
  ⟨registration.id, registration.name, "exit", "", 10, 0, registration.capacity,
    registration.features, 0⟩

def step (s : Exits) : Label → Option Exits
  | .connect i =>
    if s.phase i = .absent then some ((s.setLive i true).goto i .waiting) else none
  | .register i registration =>
    if s.phase i = .waiting then
      match complete s.config registration with
      | none => some ((s.setLive i false).goto i .finished)
      | some completed => some ((s.setRegistration i completed).goto i .registered)
    else none
  | .giveUp i =>
    if s.phase i = .waiting then some ((s.setLive i false).goto i .finished) else none
  | .enter i => if s.phase i = .registered then some ((s.enterConn i).goto i .entered) else none
  | .add i now =>
    match s.phase i, s.registration i with
    | .entered, some registration =>
      some ((s.setRegistry (s.registry.add now (exitInfo registration) "healthy")).goto i
        .serving)
    | _, _ => none
  | .sessionEnd i => if s.live i then some (s.setLive i false) else none
  | .heartbeat i now heartbeat =>
    match s.registration i with
    | none => none
    | some registration =>
      some (s.setRegistry
        (s.registry.heartbeat now { heartbeat with exitID := registration.id }))
  | .leave i =>
    if s.phase i = .serving ∧ s.live i = false then some ((s.leaveConn i).goto i .removing)
    else none
  | .remove i =>
    if s.phase i = .removing then
      some ((s.setRegistry (s.registry.remove (s.idOf i))).goto i .finished)
    else none
  | .expire now => some (s.setRegistry (s.registry.expire now))

/-- What a step can do. -/
inductive Steps (s : Exits) : Label → Exits → Prop where
  | connect {i : Nat} (h : s.phase i = .absent) :
      Steps s (.connect i) ((s.setLive i true).goto i .waiting)
  | register {i : Nat} {registration completed : ExitRegistration} (h : s.phase i = .waiting)
      (hcompleted : complete s.config registration = some completed) :
      Steps s (.register i registration) ((s.setRegistration i completed).goto i .registered)
  | registerInvalid {i : Nat} {registration : ExitRegistration} (h : s.phase i = .waiting) :
      Steps s (.register i registration) ((s.setLive i false).goto i .finished)
  | giveUp {i : Nat} (h : s.phase i = .waiting) :
      Steps s (.giveUp i) ((s.setLive i false).goto i .finished)
  | enter {i : Nat} (h : s.phase i = .registered) :
      Steps s (.enter i) ((s.enterConn i).goto i .entered)
  | add {i : Nat} {now : Time} {registration : ExitRegistration} (h : s.phase i = .entered)
      (hregistration : s.registration i = some registration) :
      Steps s (.add i now)
        ((s.setRegistry (s.registry.add now (exitInfo registration) "healthy")).goto i .serving)
  | sessionEnd {i : Nat} : Steps s (.sessionEnd i) (s.setLive i false)
  | heartbeat {i : Nat} {now : Time} {beat : Heartbeat} (h : s.registration i ≠ none) :
      Steps s (.heartbeat i now beat)
        (s.setRegistry (s.registry.heartbeat now { beat with exitID := s.idOf i }))
  | leave {i : Nat} (h : s.phase i = .serving) (hlive : s.live i = false) :
      Steps s (.leave i) ((s.leaveConn i).goto i .removing)
  | remove {i : Nat} (h : s.phase i = .removing) :
      Steps s (.remove i)
        ((s.setRegistry (s.registry.remove (s.idOf i))).goto i .finished)
  | expire {now : Time} : Steps s (.expire now) (s.setRegistry (s.registry.expire now))

variable {s s' : Exits} {l : Label}

theorem step_steps (h : s.step l = some s') : Steps s l s' := by
  cases l with
  | connect i =>
    obtain ⟨hphase, rfl⟩ := eq_of_ite_some h
    exact .connect hphase
  | register i registration =>
    obtain ⟨hphase, h⟩ := Option.ite_none_right_eq_some.1 h
    split at h
    · cases h
      exact .registerInvalid hphase
    · next completed hcompleted =>
      cases h
      exact .register hphase hcompleted
  | giveUp i =>
    obtain ⟨hphase, rfl⟩ := eq_of_ite_some h
    exact .giveUp hphase
  | enter i =>
    obtain ⟨hphase, rfl⟩ := eq_of_ite_some h
    exact .enter hphase
  | add i now =>
    simp only [step] at h
    split at h
    · next registration hphase hreg =>
      cases h
      exact .add hphase hreg
    · cases h
  | sessionEnd i =>
    obtain ⟨-, rfl⟩ := eq_of_ite_some h
    exact .sessionEnd
  | heartbeat i now heartbeat =>
    simp only [step] at h
    split at h
    · cases h
    · next registration hreg =>
      cases h
      rw [← idOf_eq hreg]
      exact .heartbeat (by simp [hreg])
  | leave i =>
    obtain ⟨⟨hphase, hlive⟩, rfl⟩ := eq_of_ite_some h
    exact .leave hphase hlive
  | remove i =>
    obtain ⟨hphase, rfl⟩ := eq_of_ite_some h
    exact .remove hphase
  | expire now =>
    cases h
    exact .expire

/-! ## The property and its condition -/

/-- No handler is between its registration and the end of its update, and every handler whose session
    has ended has finished. -/
def Quiet (s : Exits) : Prop :=
  ∀ i, match s.phase i with
    | .absent | .waiting | .finished => True
    | .serving => s.live i = true
    | .registered | .entered | .removing => False

/-- An exit that is served stays in the registry as long as its session lives. -/
def Kept (s : Exits) : Prop :=
  ∀ i, s.phase i = .serving → s.live i = true → s.idOf i ≠ directID →
    s.registry.exits (s.idOf i) ≠ none

/-- The registry and the map of connections agree. -/
structure Agrees (s : Exits) : Prop where
  quiet : s.Quiet → ∀ id, id ≠ directID →
    (s.registry.exits id ≠ none ↔ ∃ i, s.exitConns id = some i ∧ s.live i = true)
  kept : s.Kept

/-- A handler removes no id under which a connected exit is served. -/
def removesOwn (s : Exits) : Label → Bool
  | .remove i =>
    match s.exitConns (s.idOf i) with
    | none => true
    | some j => decide (s.idOf i = directID) || !(decide (s.phase j = .serving) && s.live j)
  | _ => true

/-! ## The map of connections -/

structure Inv (s : Exits) : Prop where
  /-- A handler with a live session has its entry. -/
  current : ∀ i, s.phase i = .entered ∨ s.phase i = .serving → s.live i = true →
    s.exitConns (s.idOf i) = some i
  conns : ∀ id i, s.exitConns id = some i → s.idOf i = id ∧
    (s.phase i = .entered ∨ s.phase i = .serving)
  /-- An id in the registry has a handler that will remove it. -/
  listed : ∀ id, id ≠ directID → s.registry.exits id ≠ none → ∃ i, s.idOf i = id ∧
    (s.phase i = .serving ∨ s.phase i = .removing)

theorem new_inv (config : NodeConfig) (now : Time) : (new config now).Inv where
  current i hphase := by simp [new] at hphase
  conns id i h := by simp [new] at h
  listed id hid h := by
    obtain ⟨entry, hentry⟩ := Option.ne_none_iff_exists'.1 h
    exact absurd (new_entry_iff.1 hentry).2.1 hid

/-- A handler that is entered closes the session of the one before it. -/
theorem live_enterConn {i j : Nat} (h : (s.enterConn i).live j = true) :
    s.live j = true ∧ s.exitConns (s.idOf i) ≠ some j := by
  unfold enterConn at h
  cases hold : s.exitConns (s.idOf i) with
  | none =>
    simp only [hold] at h
    exact ⟨h, by simp⟩
  | some old =>
    simp only [hold, Function.update_apply] at h
    split at h
    · cases h
    · next hj => exact ⟨h, fun heq => hj (Option.some.inj heq).symm⟩

theorem Inv.current_steps (hinv : s.Inv) (h : Steps s l s') {j : Nat}
    (hphase : s'.phase j = .entered ∨ s'.phase j = .serving) (hlive : s'.live j = true) :
    s'.exitConns (s'.idOf j) = some j := by
  cases h with
  | @enter i h =>
    show Function.update s.exitConns (s.idOf i) (some i) (s.idOf j) = some j
    obtain ⟨hlive, hold⟩ := live_enterConn hlive
    by_cases hj : j = i
    · rw [hj, Function.update_self]
    · -- another handler with a live session has another id, or it would have been closed
      rw [goto_phase, if_neg hj] at hphase
      have hcur := hinv.current j hphase hlive
      by_cases hid : s.idOf j = s.idOf i
      · exact absurd (hid ▸ hcur) hold
      · rw [Function.update_of_ne hid]
        exact hcur
  | _ =>
    have hcur := hinv.current j
    grind

theorem Inv.conns_steps (hinv : s.Inv) (h : Steps s l s') {id : String} {j : Nat}
    (hj : s'.exitConns id = some j) : s'.idOf j = id ∧
      (s'.phase j = .entered ∨ s'.phase j = .serving) := by
  cases h with
  | @enter i h =>
    have hj : Function.update s.exitConns (s.idOf i) (some i) id = some j := hj
    show s.idOf j = id ∧ _
    rw [goto_phase]
    by_cases hid : id = s.idOf i
    · rw [hid, Function.update_self, Option.some.injEq] at hj
      rw [hid, ← hj]
      exact ⟨rfl, Or.inl (if_pos rfl)⟩
    · rw [Function.update_of_ne hid] at hj
      obtain ⟨hid, hphase⟩ := hinv.conns id j hj
      have hne : j ≠ i := by
        rintro rfl
        rw [h] at hphase
        simp at hphase
      rw [if_neg hne]
      exact ⟨hid, hphase⟩
  | @leave i h hlive =>
    rw [goto_exitConns, leaveConn_exitConns] at hj
    split at hj
    · cases hj
    · next hother =>
      obtain ⟨hid, hphase⟩ := hinv.conns id j hj
      have hne : j ≠ i := by
        rintro rfl
        exact hother ⟨hid ▸ hj, hid.symm⟩
      rw [goto_phase, if_neg hne]
      exact ⟨hid, hphase⟩
  | _ =>
    have hold := hinv.conns id j
    grind

theorem Inv.listed_steps (hinv : s.Inv) (h : Steps s l s') {id : String} (hid : id ≠ directID)
    (hmem : s'.registry.exits id ≠ none) : ∃ i, s'.idOf i = id ∧
      (s'.phase i = .serving ∨ s'.phase i = .removing) := by
  cases h with
  | @add i now registration h hreg =>
    rcases Registry.mem_add_iff.1 hmem with hnew | hold
    · exact ⟨i, (idOf_eq hreg).trans hnew.symm, Or.inl (by simp)⟩
    · obtain ⟨j, hj, hphase⟩ := hinv.listed id hid hold
      have hne : j ≠ i := by
        rintro rfl
        rw [h] at hphase
        simp at hphase
      exact ⟨j, hj, by simpa [hne] using hphase⟩
  | heartbeat _ => exact hinv.listed id hid (Registry.mem_heartbeat_iff.1 hmem)
  | @remove i h =>
    obtain ⟨hne, hold⟩ := Registry.mem_remove_iff.1 hmem
    obtain ⟨j, hj, hphase⟩ := hinv.listed id hid hold
    have hji : j ≠ i := by
      rintro rfl
      exact hne hj.symm
    exact ⟨j, hj, by simpa [hji] using hphase⟩
  | @leave i h hlive =>
    obtain ⟨j, hj, hphase⟩ := hinv.listed id hid hmem
    refine ⟨j, hj, ?_⟩
    rw [goto_phase]
    split
    · exact Or.inr rfl
    · exact hphase
  | expire =>
    obtain ⟨entry, hentry⟩ := Option.ne_none_iff_exists'.1 hmem
    refine hinv.listed id hid ?_
    rw [Registry.mem_of_mem_expire hentry]
    exact Option.some_ne_none entry
  | _ =>
    obtain ⟨j, hj, hphase⟩ := hinv.listed id hid hmem
    refine ⟨j, ?_⟩
    grind

theorem Inv.steps (hinv : s.Inv) (h : Steps s l s') : s'.Inv :=
  ⟨fun _ => hinv.current_steps h, fun _ _ => hinv.conns_steps h, fun _ => hinv.listed_steps h⟩

/-! ## The registry -/

theorem Kept.steps (hinv : s.Inv) (hkept : s.Kept) (hno : l.noExpire = true)
    (hok : s.removesOwn l = true) (h : Steps s l s') : s'.Kept := by
  intro j hphase hlive hid
  have hold := hkept j
  cases h with
  | @add i now registration h hreg =>
    refine Registry.mem_add_iff.2 ?_
    by_cases hj : j = i
    · exact Or.inl (by rw [hj]; exact idOf_eq hreg)
    · exact Or.inr (hold (by simpa [hj] using hphase) hlive hid)
  | heartbeat => exact Registry.mem_heartbeat_iff.2 (hold hphase hlive hid)
  | @remove i h =>
    have hj : j ≠ i := by
      rintro rfl
      simp at hphase
    have hphase : s.phase j = .serving := by simpa [hj] using hphase
    refine Registry.mem_remove_iff.2 ⟨fun heq => ?_, hold hphase hlive hid⟩
    -- the connected exit has the entry that the condition looks at
    have hentry : s.exitConns (s.idOf i) = some j :=
      (show s.idOf j = s.idOf i from heq) ▸ hinv.current j (Or.inr hphase) hlive
    have hne : s.idOf i ≠ directID := (show s.idOf j = s.idOf i from heq) ▸ hid
    have hlive : s.live j = true := hlive
    simp [removesOwn, hentry, hphase, hlive, hne] at hok
  | expire => cases hno
  | @enter i h =>
    obtain ⟨hlive, -⟩ := live_enterConn hlive
    have hj : j ≠ i := by
      rintro rfl
      simp at hphase
    exact hold (by simpa [hj] using hphase) hlive hid
  | _ => grind

theorem Inv.agrees (hinv : s.Inv) (hkept : s.Kept) : s.Agrees where
  kept := hkept
  quiet hquiet id hid := by
    constructor
    · intro hmem
      obtain ⟨i, hi, hphase⟩ := hinv.listed id hid hmem
      have hq := hquiet i
      rcases hphase with hphase | hphase
      · rw [hphase] at hq
        exact ⟨i, hi ▸ hinv.current i (Or.inr hphase) hq, hq⟩
      · rw [hphase] at hq
        exact hq.elim
    · rintro ⟨i, hi, hlive⟩
      obtain ⟨rfl, hphase⟩ := hinv.conns id i hi
      have hq := hquiet i
      rcases hphase with hphase | hphase
      · rw [hphase] at hq
        exact hq.elim
      · exact hkept i hphase hlive hid

/-- A removal that takes away the id of a connected exit shows at once. -/
theorem Inv.not_agrees_of_remove (hinv : s.Inv) (hok : s.removesOwn l = false)
    (h : Steps s l s') : ¬ s'.Agrees := by
  intro hagrees
  unfold removesOwn at hok
  split at hok
  · next i =>
    split at hok
    · cases hok
    · next j hj =>
      simp only [Bool.or_eq_false_iff, decide_eq_false_iff_not, Bool.not_eq_eq_eq_not,
        Bool.not_false, Bool.and_eq_true, decide_eq_true_eq] at hok
      obtain ⟨hid, hphase, hlive⟩ := hok
      have hown := (hinv.conns _ j hj).1
      cases h with
      | remove h =>
        have hne : j ≠ i := by
          rintro rfl
          rw [h] at hphase
          cases hphase
        have hkept := hagrees.kept j (by simpa [hne] using hphase) hlive (by simpa [hown] using hid)
        simp [Registry.mem_remove_iff, hown] at hkept
  · cases hok

/-- **When the registry and the connections agree.** In every run without `Expire`, the registry and
    the map of connections agree in all states of the run exactly if no handler removes an id under
    which a connected exit is served. -/
theorem agrees_iff {config : NodeConfig} {now : Time} {as : List Label}
    (hno : ∀ l ∈ as, l.noExpire = true) (hrun : exec step (new config now) as = some s) :
    Along step (fun m l => m.removesOwn l = true) (new config now) as ↔
      ∀ pre m, pre <+: as → exec step (new config now) pre = some m → m.Agrees := by
  constructor
  · rintro hok pre m ⟨post, rfl⟩ hpre
    have hnone : Along step (fun _ l => l.noExpire = true) (new config now) pre := by
      refine along_of_forall ?_
      rintro as l bs m rfl -
      exact hno l (by simp)
    have hinv : m.Inv ∧ m.Kept := by
      refine exec_invariant (fun m => m.Inv ∧ m.Kept) ?_ ⟨new_inv config now, ?_⟩
        ((along_append hok hpre).1.and hnone) hpre
      · rintro s₁ l s₂ ⟨hinv, hkept⟩ ⟨hl, hl'⟩ hstep
        exact ⟨hinv.steps (step_steps hstep), hkept.steps hinv hl' hl (step_steps hstep)⟩
      · intro i hphase
        cases hphase
    exact hinv.1.agrees hinv.2
  · intro hagrees
    refine along_of_forall ?_
    rintro pre l post m rfl hpre
    rw [exec_append, hpre] at hrun
    obtain ⟨m', hstep, -⟩ := exec_cons_some hrun
    by_contra hok
    have hinv : m.Inv := Reachable.invariant Inv
      (fun _ _ _ hinv hstep => hinv.steps (step_steps hstep)) (new_inv config now) ⟨pre, hpre⟩
    refine hinv.not_agrees_of_remove (by simpa using hok) (step_steps hstep) ?_
    exact hagrees (pre ++ [l]) m' ⟨post, by simp⟩ (by simp [exec_append, hpre, exec, hstep])

/-! ## A reconnecting exit -/

def sampleConfig : NodeConfig := ⟨.server, 64, ""⟩

/-- Connection `i` of the exit `home`, up to its registration. -/
def registers (i : Nat) : List Label := [.connect i, .register i ⟨"home", "", 8, ["tcp"]⟩]

/-- The second connection takes over, and the first one is cleaned up before the second one is added
    to the registry. -/
def takeover : List Label :=
  registers 0 ++ [.enter 0, .add 0 0] ++ registers 1 ++
    [.enter 1, .leave 0, .remove 0, .add 1 0]

theorem takeover_agrees :
    (exec step (new sampleConfig 0) takeover).isSome = true ∧
      ∀ pre m, pre <+: takeover → exec step (new sampleConfig 0) pre = some m → m.Agrees :=
  ⟨by decide +kernel,
    (agrees_iff (by decide +kernel) (exec_after (by decide +kernel))).1 (by decide +kernel)⟩

/-- The first connection is cleaned up after the second one was added. -/
def overtaken : Exits :=
  after step (new sampleConfig 0)
    (registers 0 ++ [.enter 0, .add 0 0] ++ registers 1 ++
      [.enter 1, .add 1 0, .leave 0, .remove 0])

/-- The exit is connected and served, and not in the registry. -/
theorem overtaken_not_agrees :
    overtaken.exitConns "home" = some 1 ∧ overtaken.live 1 = true ∧
      overtaken.registry.exits "home" = none ∧ overtaken.phase 0 = .finished ∧
      overtaken.phase 1 = .serving ∧ ¬ overtaken.Agrees := by
  have hphase : overtaken.phase 1 = .serving := by decide +kernel
  have hlive : overtaken.live 1 = true := by decide +kernel
  have hnone : overtaken.registry.exits "home" = none := by decide +kernel
  refine ⟨by decide +kernel, hlive, hnone, by decide +kernel, hphase, fun hagrees => ?_⟩
  exact hagrees.kept 1 hphase hlive (by decide +kernel) hnone

end Exits

end LnProxy
