import LnProxy.Lib.Transition

set_option autoImplicit false

/-! # Two programs on the ends of a connection

A `Program` writes to and reads from one connection, and may go on differently on each answer. Two
programs run against each other by taking steps in any order; what one has written and the other has
not read yet is in transit. A program that returns a failure closes its end: the other then sees the
end of its input, after all that was written before, and may find that it cannot write any more.

What a read takes off the input is a parameter `await`: it answers `none` as long as it has to wait
for more. -/

namespace Dialogue

open Transition

variable {β ρ α α₁ α₂ : Type}

/-- A program by what it does first. The answer to a write is whether it went through. -/
inductive Program (β ρ α : Type) where
  | ret (a : α)
  | write (bytes : List β) (next : Bool → Program β ρ α)
  | read (next : ρ → Program β ρ α)

/-- What a read returns on an input that has ended (`true`) or may go on, and the input behind it. -/
abbrev Await (β ρ : Type) := Bool → List β → Option (ρ × List β)

namespace Program

/-- The program has returned a failure, and its end of the connection is closed. -/
def closed (fails : α → Bool) : Program β ρ α → Bool
  | .ret a => fails a
  | _ => false

/-- One step: the program then, its input then, and what it has written. A write fails only if the
    peer has closed its end. -/
def step (await : Await β ρ) (ended : Bool) (input : List β) (ok : Bool) :
    Program β ρ α → Option (Program β ρ α × List β × List β)
  | .ret _ => none
  | .write bytes next =>
    if ok then some (next true, input, bytes)
    else if ended then some (next false, input, [])
    else none
  | .read next =>
    if ok then (await ended input).map fun (r, rest) => (next r, rest, [])
    else none

/-- The program returns `a` against a peer that sends `input` and may close the connection at any
    time: every write may fail, and every read may find the input ended. -/
inductive Returns (await : Await β ρ) : Program β ρ α → List β → α → Prop where
  | ret (a : α) (input : List β) : Returns await (.ret a) input a
  | write {bytes input : List β} {next : Bool → Program β ρ α} {a : α} (ok : Bool)
      (h : Returns await (next ok) input a) : Returns await (.write bytes next) input a
  | read {input rest : List β} {next : ρ → Program β ρ α} {a : α} {r : ρ} (ended : Bool)
      (hread : await ended input = some (r, rest)) (h : Returns await (next r) rest a) :
      Returns await (.read next) input a

end Program

inductive Side where
  | left
  | right
  deriving DecidableEq, Repr

structure State (β ρ α₁ α₂ : Type) where
  left : Program β ρ α₁
  right : Program β ρ α₂
  /-- What the left program has written and the right one has not read. -/
  toRight : List β
  toLeft : List β

def start (left : Program β ρ α₁) (right : Program β ρ α₂) : State β ρ α₁ α₂ :=
  ⟨left, right, [], []⟩

/-- One of the two programs takes a step; the flag says whether a write goes through. -/
def step (await : Await β ρ) (fails₁ : α₁ → Bool) (fails₂ : α₂ → Bool) (s : State β ρ α₁ α₂) :
    Side × Bool → Option (State β ρ α₁ α₂)
  | (.left, ok) => (s.left.step await (s.right.closed fails₂) s.toLeft ok).map
      fun (left, input, written) =>
        { s with left := left, toLeft := input, toRight := s.toRight ++ written }
  | (.right, ok) => (s.right.step await (s.left.closed fails₁) s.toRight ok).map
      fun (right, input, written) =>
        { s with right := right, toRight := input, toLeft := s.toLeft ++ written }

/-! ## Turns

Two programs of which one waits for the other run in one order only. -/

/-- The program cannot take a step before more input arrives. -/
def Program.Waits (await : Await β ρ) (ended : Bool) (input : List β) (p : Program β ρ α) : Prop :=
  ∀ ok, p.step await ended input ok = none

section Turns

variable {await : Await β ρ} {fails₁ : α₁ → Bool} {fails₂ : α₂ → Bool}
variable {P : State β ρ α₁ α₂ → Prop}

theorem Program.waits_ret (ended : Bool) (input : List β) (a : α) :
    (Program.ret a).Waits await ended input := fun _ => rfl

theorem Program.waits_read {ended : Bool} {input : List β} (next : ρ → Program β ρ α)
    (h : await ended input = none) : (Program.read next).Waits await ended input := by
  intro ok
  cases ok with
  | true => simp [Program.step, h]
  | false => rfl

/-- Both programs have returned: nothing is left to do. -/
theorem settles_ret {a₁ : α₁} {a₂ : α₂} {toRight toLeft : List β}
    (h : P ⟨.ret a₁, .ret a₂, toRight, toLeft⟩) :
    Settles (step await fails₁ fails₂) P ⟨.ret a₁, .ret a₂, toRight, toLeft⟩ := by
  refine Settles.stuck ?_ h
  rintro ⟨side, ok⟩
  cases side <;> rfl

/-- A program takes its step while the other one waits. -/
theorem settles_left {s s' : State β ρ α₁ α₂}
    (hright : s.right.Waits await (s.left.closed fails₁) s.toRight)
    (hstep : step await fails₁ fails₂ s (.left, true) = some s')
    (hfail : step await fails₁ fails₂ s (.left, false) = none)
    (h : Settles (step await fails₁ fails₂) P s') : Settles (step await fails₁ fails₂) P s := by
  refine Settles.forced hstep ?_ h
  rintro ⟨side, ok⟩ m hm
  cases side with
  | left =>
    cases ok with
    | true => exact Option.some.inj (hm.symm.trans hstep)
    | false =>
      rw [hfail] at hm
      cases hm
  | right =>
    rw [step, hright ok] at hm
    cases hm

theorem settles_right {s s' : State β ρ α₁ α₂}
    (hleft : s.left.Waits await (s.right.closed fails₂) s.toLeft)
    (hstep : step await fails₁ fails₂ s (.right, true) = some s')
    (hfail : step await fails₁ fails₂ s (.right, false) = none)
    (h : Settles (step await fails₁ fails₂) P s') : Settles (step await fails₁ fails₂) P s := by
  refine Settles.forced hstep ?_ h
  rintro ⟨side, ok⟩ m hm
  cases side with
  | right =>
    cases ok with
    | true => exact Option.some.inj (hm.symm.trans hstep)
    | false =>
      rw [hfail] at hm
      cases hm
  | left =>
    rw [step, hleft ok] at hm
    cases hm

end Turns

end Dialogue
