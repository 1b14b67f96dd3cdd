import Mathlib.Data.List.Basic

set_option autoImplicit false

/-! # Byte pipes that carry messages

A pipe is a reliable, ordered sequence of bytes in transit. Its writer appends whole encodings, until
a write is cut short; then the pipe is torn and nothing more is written. When no encoding is an
initial part of another one, a reader that takes one encoding off the front gets the messages in the
order they were written, and never a message out of a torn end. -/

/-- The bytes in transit in one direction, and whether the last write was cut short. -/
structure Pipe (β : Type) where
  bytes : List β
  torn : Bool

namespace Pipe

variable {α β : Type}

def empty : Pipe β := ⟨[], false⟩

/-- A write of all of `bs`. -/
def push (p : Pipe β) (bs : List β) : Pipe β := { p with bytes := p.bytes ++ bs }

/-- A write that stops after `n` bytes. -/
def cut (p : Pipe β) (bs : List β) (n : Nat) : Pipe β := ⟨p.bytes ++ bs.take n, true⟩

/-- The reader takes bytes off the front and leaves `rest`. -/
def pull (p : Pipe β) (rest : List β) : Pipe β := { p with bytes := rest }

/-- No encoding of a message is an initial part of another encoding. -/
def PrefixFree (encode : α → List β) (ok : α → Prop) : Prop :=
  ∀ m n xs ys, ok m → ok n → encode m ++ xs = encode n ++ ys → m = n ∧ xs = ys

/-- The pipe holds the encodings of `ms`, and behind them at most the beginning of one more. -/
def Holds (encode : α → List β) (ok : α → Prop) (p : Pipe β) (ms : List α) : Prop :=
  ∃ tail, p.bytes = ms.flatMap encode ++ tail ∧ (p.torn = false → tail = []) ∧
    (tail ≠ [] → ∃ m, ok m ∧ tail <+: encode m ∧ tail ≠ encode m)

variable {encode : α → List β} {ok : α → Prop} {p : Pipe β} {ms : List α}

theorem holds_empty : Holds encode ok (empty : Pipe β) [] :=
  ⟨[], rfl, fun _ => rfl, fun h => absurd rfl h⟩

theorem Holds.push (h : Holds encode ok p ms) (hwhole : p.torn = false) (m : α) :
    Holds encode ok (p.push (encode m)) (ms ++ [m]) := by
  obtain ⟨tail, hbytes, htail, -⟩ := h
  obtain rfl := htail hwhole
  refine ⟨[], ?_, fun _ => rfl, fun h => absurd rfl h⟩
  simp [Pipe.push, hbytes]

theorem Holds.cut (h : Holds encode ok p ms) (hwhole : p.torn = false) {m : α} {n : Nat}
    (hm : ok m) (hn : n < (encode m).length) : Holds encode ok (p.cut (encode m) n) ms := by
  obtain ⟨tail, hbytes, htail, -⟩ := h
  obtain rfl := htail hwhole
  refine ⟨(encode m).take n, ?_, ?_, fun _ => ⟨m, hm, List.take_prefix .., ?_⟩⟩
  · simp [Pipe.cut, hbytes]
  · intro h
    cases h
  · intro heq
    have := congrArg List.length heq
    rw [List.length_take] at this
    omega

/-- **Messages arrive whole and in order.** -/
theorem Holds.pull (hfree : PrefixFree encode ok) (h : Holds encode ok p ms)
    (hms : ∀ m ∈ ms, ok m) {f : α} {rest : List β} (hf : ok f) (hne : encode f ≠ [])
    (hread : p.bytes = encode f ++ rest) :
    ∃ ms', ms = f :: ms' ∧ Holds encode ok (p.pull rest) ms' := by
  obtain ⟨tail, hbytes, hwhole, htail⟩ := h
  rw [hread] at hbytes
  cases ms with
  | nil =>
    -- an encoding would be an initial part of the message that was cut short
    rw [List.flatMap_nil, List.nil_append] at hbytes
    by_cases hnil : tail = []
    · subst hnil
      exact absurd (List.append_eq_nil_iff.1 hbytes).1 hne
    · obtain ⟨m, hm, ⟨more, hmore⟩, hproper⟩ := htail hnil
      have := hfree f m (rest ++ more) [] hf hm (by
        rw [← List.append_assoc, hbytes, hmore, List.append_nil])
      obtain ⟨rfl, hrest⟩ := this
      obtain ⟨rfl, rfl⟩ := List.append_eq_nil_iff.1 hrest
      exact absurd (by rw [← hmore, List.append_nil]) hproper
  | cons m ms =>
    rw [List.flatMap_cons, List.append_assoc] at hbytes
    obtain ⟨rfl, hrest⟩ := hfree f m rest _ hf (hms m (List.mem_cons_self ..)) hbytes
    exact ⟨ms, rfl, tail, hrest, hwhole, htail⟩

end Pipe
