import Mathlib.Data.List.Basic

set_option autoImplicit false

/-! # Buffered channels

A channel of the Go kind: a bounded queue and a closed flag. The bound is a field of the structure,
so no channel value holds more than its capacity. Sending on a closed channel and closing a closed
channel panic, a receive drains the queue before it sees the close; the operations here are the
effects on the channel, the caller decides on `full`, `closed` and the head of the queue which of
them is enabled. -/

/-- A channel: its capacity, the values queued in it (oldest first), whether it was closed. -/
structure Chan (α : Type) where
  cap : Nat
  buf : List α
  closed : Bool
  /-- The queue never exceeds the capacity. -/
  within : buf.length ≤ cap

namespace Chan

variable {α : Type}

/-- `make(chan α, n)`. -/
def make (n : Nat) : Chan α := ⟨n, [], false, Nat.zero_le n⟩

/-- No room for another value: a send blocks. -/
def full (c : Chan α) : Bool := decide (c.cap ≤ c.buf.length)

/-- Queue a value; a full channel is left as it is. -/
def push (c : Chan α) (a : α) : Chan α :=
  if h : c.buf.length < c.cap then
    { c with buf := c.buf ++ [a], within := by simpa using Nat.succ_le_of_lt h }
  else c

/-- Take the oldest value out of the queue. -/
def pop (c : Chan α) : Chan α :=
  { c with buf := c.buf.tail, within := by simpa using Nat.le_succ_of_le c.within }

/-- `close(c)`. -/
def shut (c : Chan α) : Chan α := { c with closed := true }

@[simp] theorem make_buf (n : Nat) : (make n : Chan α).buf = [] := rfl
@[simp] theorem make_cap (n : Nat) : (make n : Chan α).cap = n := rfl
@[simp] theorem make_closed (n : Nat) : (make n : Chan α).closed = false := rfl
@[simp] theorem pop_buf (c : Chan α) : c.pop.buf = c.buf.tail := rfl
@[simp] theorem pop_cap (c : Chan α) : c.pop.cap = c.cap := rfl
@[simp] theorem pop_closed (c : Chan α) : c.pop.closed = c.closed := rfl
@[simp] theorem shut_buf (c : Chan α) : c.shut.buf = c.buf := rfl
@[simp] theorem shut_cap (c : Chan α) : c.shut.cap = c.cap := rfl
@[simp] theorem shut_closed (c : Chan α) : c.shut.closed = true := rfl

@[simp] theorem push_cap (c : Chan α) (a : α) : (c.push a).cap = c.cap := by
  unfold push; split <;> rfl

@[simp] theorem push_closed (c : Chan α) (a : α) : (c.push a).closed = c.closed := by
  unfold push; split <;> rfl

theorem push_buf {c : Chan α} (h : c.full = false) (a : α) : (c.push a).buf = c.buf ++ [a] := by
  have hlt : c.buf.length < c.cap := by simpa [full] using h
  simp [push, hlt]

theorem full_eq_false {c : Chan α} : c.full = false ↔ c.buf.length < c.cap := by
  simp [full]

theorem pop_full {c : Chan α} (h : c.full = false) : c.pop.full = false := by
  rw [full_eq_false] at h ⊢
  simp only [pop_buf, pop_cap, List.length_tail]
  omega

end Chan
