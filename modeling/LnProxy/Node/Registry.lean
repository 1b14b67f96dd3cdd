import Mathlib.Logic.Function.Basic

set_option autoImplicit false

/-! # The registry of exits (`internal/node/registry.go`)

The registry maps exit ids to what the server tells its clients about the exit. Its operations run
under its own lock, so each of them is one step; the clock is an argument. -/

namespace LnProxy

/-! ## What exits send and clients see -/

/-- `protocol.ExitInfo`; Go's `int` has 64 bits. -/
structure ExitInfo where
  id : String
  name : String
  type : String
  health : String
  latencyMS : Int64
  activeConnections : Int64
  capacity : Int64
  features : List String
  heartbeatTime : Int64
  deriving DecidableEq, Repr

structure ExitRegistration where
  id : String
  name : String
  capacity : Int64
  features : List String
  deriving DecidableEq, Repr

structure Heartbeat where
  exitID : String
  active : Int64
  capacity : Int64
  deriving DecidableEq, Repr

/-- Nanoseconds since the epoch. -/
abbrev Time := Int

def Time.unixMilli (now : Time) : Int64 := Int64.ofInt (now / 1000000)

def seconds (n : Int) : Time := n * 1000000000

/-! ## The registry -/

structure ExitEntry where
  info : ExitInfo
  heartbeat : Time
  persistent : Bool
  deriving DecidableEq, Repr

structure Registry where
  exits : String → Option ExitEntry
  staleFor : Time

def newRegistry (staleFor : Time) : Registry where
  exits := fun _ => none
  staleFor := if staleFor ≤ 0 then seconds 45 else staleFor

def healthFor (active capacity : Int64) : String :=
  if capacity ≤ 0 ∨ active ≥ capacity then "at-capacity"
  else if active * 100 > capacity * 90 then "degraded"
  else "healthy"

/-- What `Heartbeat` does to the entry it finds. -/
def ExitEntry.beat (entry : ExitEntry) (now : Time) (heartbeat : Heartbeat) : ExitEntry :=
  let capacity := if heartbeat.capacity > 0 then heartbeat.capacity else entry.info.capacity
  { entry with
    heartbeat := now,
    info := { entry.info with
      activeConnections := heartbeat.active,
      capacity := capacity,
      heartbeatTime := now.unixMilli,
      health := healthFor heartbeat.active capacity } }

/-- The exit is healthy and below its capacity. -/
def ExitInfo.available (info : ExitInfo) : Bool :=
  !(decide (info.health ≠ "healthy") || decide (info.activeConnections ≥ info.capacity))

theorem ExitInfo.available_iff {info : ExitInfo} :
    info.available = true ↔
      info.health = "healthy" ∧ info.activeConnections < info.capacity := by
  simp only [available, Bool.not_eq_true', Bool.or_eq_false_iff, decide_eq_false_iff_not, ne_eq,
    not_not, ge_iff_le, Int64.not_le]

def ExitInfo.score (info : ExitInfo) : Int64 :=
  (info.capacity - info.activeConnections) * 1000 - info.latencyMS

inductive SelectErr where
  /-- `no healthy exit is available` -/
  | noExit
  /-- `selected exit is unavailable` -/
  | exitUnavailable
  deriving DecidableEq, Repr

namespace Registry

variable {r : Registry} {id : String} {now : Time}

def addEntry (r : Registry) (now : Time) (info : ExitInfo) (health : String) (persistent : Bool) :
    Registry :=
  let info := { info with health := health, heartbeatTime := now.unixMilli }
  { r with exits := Function.update r.exits info.id (some ⟨info, now, persistent⟩) }

def add (r : Registry) (now : Time) (info : ExitInfo) (health : String) : Registry :=
  r.addEntry now info health false

def addPersistent (r : Registry) (now : Time) (info : ExitInfo) (health : String) : Registry :=
  r.addEntry now info health true

def heartbeat (r : Registry) (now : Time) (heartbeat : Heartbeat) : Registry :=
  match r.exits heartbeat.exitID with
  | none => r
  | some entry =>
    { r with
      exits := Function.update r.exits heartbeat.exitID
        (some (entry.beat now heartbeat)) }

def remove (r : Registry) (id : String) : Registry :=
  { r with exits := Function.update r.exits id none }

/-- The exit is silent for too long, and was not added for good. -/
def stale (r : Registry) (now : Time) (entry : ExitEntry) : Prop :=
  entry.persistent = false ∧ now - entry.heartbeat > r.staleFor

instance (r : Registry) (now : Time) (entry : ExitEntry) : Decidable (r.stale now entry) :=
  inferInstanceAs (Decidable (_ ∧ _))

/-- `Expire`: forget the exits that have been silent for too long. -/
def expire (r : Registry) (now : Time) : Registry :=
  { r with
    exits := fun id =>
      match r.exits id with
      | none => none
      | some entry => if r.stale now entry then none else some entry }

/-! ## Selection -/

/-- One round of the loop of `Select`: keep the better one of the selected exit and the next. -/
def pick (selected : Option ExitInfo × Int64) (info : ExitInfo) : Option ExitInfo × Int64 :=
  if info.available then
    match selected with
    | (none, _) => (some info, info.score)
    | (some best, score) =>
      if info.score > score ∨ info.score = score ∧ info.id < best.id then (some info, info.score)
      else (some best, score)
  else selected

/-- The entries in the order `range` meets them. -/
def infos (r : Registry) (order : List String) : List ExitInfo :=
  order.filterMap fun id => (r.exits id).map ExitEntry.info

def selectAny (r : Registry) (order : List String) : Except SelectErr ExitInfo :=
  match (r.infos order).find? ExitInfo.available with
  | some info => .ok info
  | none => .error .noExit

/-- `Select`; `order` is the order in which `range` meets the keys of the map. -/
def select (r : Registry) (order : List String) (exitID : String) (fallback : Bool) :
    Except SelectErr ExitInfo :=
  if exitID = "" ∨ exitID = "auto" then
    match ((r.infos order).foldl pick (none, -1)).1 with
    | some info => .ok info
    | none => .error .noExit
  else
    match r.exits exitID with
    | some entry =>
      if entry.info.available then .ok entry.info
      else if fallback then r.selectAny order else .error .exitUnavailable
    | none => if fallback then r.selectAny order else .error .exitUnavailable

/-! ## Who is in the registry -/

theorem mem_add_iff {info : ExitInfo} {health : String} :
    (r.add now info health).exits id ≠ none ↔ id = info.id ∨ r.exits id ≠ none := by
  by_cases hid : id = info.id
  · subst hid
    simp [add, addEntry]
  · simp [add, addEntry, hid]

/-- A heartbeat adds and removes nothing. -/
theorem mem_heartbeat_iff {h : Heartbeat} :
    (r.heartbeat now h).exits id ≠ none ↔ r.exits id ≠ none := by
  unfold heartbeat
  split
  · rfl
  · next entry hentry =>
    by_cases hid : id = h.exitID
    · subst hid
      simp [hentry]
    · simp [hid]

theorem mem_remove_iff {id' : String} :
    (r.remove id').exits id ≠ none ↔ id ≠ id' ∧ r.exits id ≠ none := by
  by_cases hid : id = id'
  · subst hid
    simp [remove]
  · simp [remove, hid]

theorem remove_of_ne {id' : String} (h : id ≠ id') : (r.remove id').exits id = r.exits id := by
  simp [remove, h]

theorem mem_of_mem_remove {id' : String} {entry : ExitEntry}
    (h : (r.remove id').exits id = some entry) : r.exits id = some entry := by
  by_cases hid : id = id'
  · simp [remove, hid] at h
  · rwa [remove_of_ne hid] at h

theorem add_of_ne {info : ExitInfo} {health : String} (h : id ≠ info.id) :
    (r.add now info health).exits id = r.exits id := by
  simp [add, addEntry, h]

theorem heartbeat_of_ne {beat : Heartbeat} (h : id ≠ beat.exitID) :
    (r.heartbeat now beat).exits id = r.exits id := by
  unfold heartbeat
  split
  · rfl
  · simp [h]

theorem expire_of_persistent {entry : ExitEntry} (h : r.exits id = some entry)
    (hpersistent : entry.persistent = true) : (r.expire now).exits id = some entry := by
  simp [expire, h, stale, hpersistent]

theorem expire_of_not_stale {entry : ExitEntry} (h : r.exits id = some entry)
    (hfresh : ¬ r.stale now entry) : (r.expire now).exits id = some entry := by
  simp [expire, h, hfresh]

theorem mem_of_mem_expire {entry : ExitEntry} (h : (r.expire now).exits id = some entry) :
    r.exits id = some entry := by
  simp only [expire] at h
  split at h
  · cases h
  · next old hold =>
    split at h
    · cases h
    · rw [hold, h]

end Registry

end LnProxy
