import Mathlib.Logic.Function.Basic

set_option autoImplicit false

/-! # Scripts of writes to a key-value store

An operation on a store that has no transactions is a list of writes, made one after another. A write
fails when the attempt fails, or when the store refuses the value; the store is then as before. Where
the caller checks the error of the write, the operation ends with it; where the caller drops the
error, the operation goes on with the next write. -/

namespace Script

variable {κ ν ε : Type}

inductive Command (κ ν ε : Type) where
  | set (key : κ) (value : ν) (checked : Bool)
  /-- The operation ends with an error of its own. -/
  | fail (err : ε)
  deriving DecidableEq, Repr

namespace Command

variable (refuses : κ → ν → Option ε) (attempt : Option ε)

/-- The error of the command. -/
def failure : Command κ ν ε → Option ε
  | set key value _ => attempt <|> refuses key value
  | fail err => some err

/-- The error the operation ends with. -/
def error : Command κ ν ε → Option ε
  | set key value checked => if checked then attempt <|> refuses key value else none
  | fail err => some err

/-- The command fails and the operation goes on. -/
def dropped (command : Command κ ν ε) : Bool :=
  (command.failure refuses attempt).isSome && (command.error refuses attempt).isNone

variable {refuses attempt} in
/-- An operation ends with the error of its command. -/
theorem failure_of_error {command : Command κ ν ε} {err : ε}
    (h : command.error refuses attempt = some err) : command.failure refuses attempt = some err := by
  cases command with
  | set key value checked =>
    cases checked with
    | true => simpa [error, failure] using h
    | false => simp [error] at h
  | fail err' => exact h

variable [DecidableEq κ]

/-- The command with every write made. -/
def complete (store : κ → ν) : Command κ ν ε → κ → ν
  | set key value _ => Function.update store key value
  | fail _ => store

def run (store : κ → ν) (command : Command κ ν ε) : κ → ν :=
  if (command.failure refuses attempt).isNone then command.complete store else store

/-- What a command that is run can do. -/
inductive Ran (store : κ → ν) : Command κ ν ε → (κ → ν) → Option ε → Prop where
  | wrote (key : κ) (value : ν) (checked : Bool) :
      Ran store (set key value checked) (Function.update store key value) none
  | dropped (command : Command κ ν ε) (h : command.dropped refuses attempt = true) :
      Ran store command store none
  | failed (command : Command κ ν ε) (err : ε) : Ran store command store (some err)

theorem ran (store : κ → ν) (command : Command κ ν ε) :
    Ran refuses attempt store command (command.run refuses attempt store)
      (command.error refuses attempt) := by
  cases herror : command.error refuses attempt with
  | some err =>
    have hfailure := failure_of_error herror
    have hrun : command.run refuses attempt store = store := by simp [run, hfailure]
    rw [hrun]
    exact .failed command err
  | none =>
    cases hfailure : command.failure refuses attempt with
    | some err =>
      have hrun : command.run refuses attempt store = store := by simp [run, hfailure]
      rw [hrun]
      exact .dropped command (by simp [Command.dropped, hfailure, herror])
    | none =>
      cases command with
      | set key value checked =>
        have hrun : (set key value checked).run refuses attempt store =
            Function.update store key value := by simp [run, hfailure, complete]
        rw [hrun]
        exact .wrote key value checked
      | fail err => cases hfailure

/-- A command leaves a key alone in every store or gives it the same value in every store. -/
theorem run_agree (store store' : κ → ν) (command : Command κ ν ε) (key : κ) :
    (command.run refuses attempt store key = store key ∧
        command.run refuses attempt store' key = store' key) ∨
      command.run refuses attempt store key = command.run refuses attempt store' key := by
  unfold run
  split
  · cases command with
    | set key' value checked =>
      by_cases heq : key = key'
      · subst heq
        right
        simp [complete]
      · left
        simp [complete, Function.update_of_ne heq]
    | fail err => exact .inl ⟨rfl, rfl⟩
  · exact .inl ⟨rfl, rfl⟩

end Command

variable [DecidableEq κ]

/-- The store after a script all of whose writes are made. -/
def complete (script : List (Command κ ν ε)) (store : κ → ν) : κ → ν :=
  script.foldl Command.complete store

/-- The value a script gives a key, where it gives it one. -/
def assigned (key : κ) : List (Command κ ν ε) → Option ν
  | [] => none
  | .set key' value _ :: script =>
    assigned key script <|> if key' = key then some value else none
  | .fail _ :: script => assigned key script

theorem complete_apply (script : List (Command κ ν ε)) (store : κ → ν) (key : κ) :
    complete script store key = (assigned key script).getD (store key) := by
  induction script generalizing store with
  | nil => rfl
  | cons command script ih =>
    show complete script (command.complete store) key = _
    rw [ih]
    cases command with
    | fail err => rfl
    | set key' value checked =>
      rw [assigned]
      cases assigned key script with
      | some value' => rfl
      | none =>
        by_cases heq : key' = key
        · subst heq
          simp [Command.complete]
        · have hne : key ≠ key' := fun h => heq h.symm
          simp [Command.complete, heq, Function.update_of_ne hne]

theorem mem_of_assigned {key : κ} {value : ν} {script : List (Command κ ν ε)}
    (h : assigned key script = some value) : ∃ checked, Command.set key value checked ∈ script := by
  induction script with
  | nil => cases h
  | cons command script ih =>
    cases command with
    | fail err =>
      obtain ⟨checked, hmem⟩ := ih h
      exact ⟨checked, List.mem_cons_of_mem _ hmem⟩
    | set key' value' checked' =>
      rw [assigned] at h
      cases hrest : assigned key script with
      | some value'' =>
        rw [hrest] at h
        cases h
        obtain ⟨checked, hmem⟩ := ih hrest
        exact ⟨checked, List.mem_cons_of_mem _ hmem⟩
      | none =>
        by_cases heq : key' = key
        · subst heq
          simp only [hrest, if_true] at h
          cases h
          exact ⟨checked', List.mem_cons_self ..⟩
        · simp [hrest, heq] at h

section Perform

variable (refuses : κ → ν → Option ε)

/-- A whole script in which no attempt fails, so that only the store refuses writes: the store behind
    it, and the error it ends with. -/
def perform : List (Command κ ν ε) → (κ → ν) → (κ → ν) × Option ε
  | [], store => (store, none)
  | command :: script, store =>
    match command.error refuses none with
    | some err => (store, some err)
    | none => perform script (command.run refuses none store)

variable {refuses}

theorem perform_set {key : κ} {value : ν} (checked : Bool) (script : List (Command κ ν ε))
    (store : κ → ν) (h : refuses key value = none) :
    perform refuses (.set key value checked :: script) store =
      perform refuses script (Function.update store key value) := by
  cases checked <;> simp [perform, Command.error, Command.run, Command.failure, Command.complete, h]

/-- A refused write, with its error dropped. -/
theorem perform_dropped {key : κ} {value : ν} {err : ε} (script : List (Command κ ν ε))
    (store : κ → ν) (h : refuses key value = some err) :
    perform refuses (.set key value false :: script) store = perform refuses script store := by
  simp [perform, Command.error, Command.run, Command.failure, h]

/-- A refused write, with its error checked. -/
theorem perform_refused {key : κ} {value : ν} {err : ε} (script : List (Command κ ν ε))
    (store : κ → ν) (h : refuses key value = some err) :
    perform refuses (.set key value true :: script) store = (store, some err) := by
  simp [perform, Command.error, h]

/-- A script of writes that the store takes makes all of them. -/
theorem perform_eq_complete {script : List (Command κ ν ε)} (store : κ → ν)
    (h : ∀ command ∈ script, command.failure refuses none = none) :
    perform refuses script store = (complete script store, none) := by
  induction script generalizing store with
  | nil => rfl
  | cons command script ih =>
    have hfailure := h command (List.mem_cons_self ..)
    have herror : command.error refuses none = none := by
      cases herr : command.error refuses none with
      | none => rfl
      | some err =>
        rw [Command.failure_of_error herr] at hfailure
        cases hfailure
    have hrun : command.run refuses none store = command.complete store := by
      simp [Command.run, hfailure]
    rw [perform, herror]
    dsimp only
    rw [hrun, ih _ fun c hc => h c (List.mem_cons_of_mem _ hc)]
    rfl

end Perform

end Script
