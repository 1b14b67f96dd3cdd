import Mathlib.Data.List.Basic

set_option autoImplicit false

/-! # Bytes that arrive in pieces

A source is the list of the pieces in which its data arrives. One `read` returns at most what the
next piece holds; what the caller has no room for stays for the next read. Whatever the pieces are,
reading loses nothing and keeps the order, and a reader that insists on a number of values
(`readFull`) sees only their concatenation.

A reader that takes a value off a source `Reads` a grammar if it succeeds just on the sources that
begin with a text of the grammar, and leaves what follows. Readers that run one after another read the
grammars one behind the other. -/

namespace Segments

variable {α : Type}

/-- A piece that still has values in it stands before the others. -/
def push (seg : List α) (src : List (List α)) : List (List α) :=
  match seg with
  | [] => src
  | a :: as => (a :: as) :: src

@[simp] theorem push_flatten (seg : List α) (src : List (List α)) :
    (push seg src).flatten = seg ++ src.flatten := by
  cases seg <;> simp [push]

/-- One read with room for `n` values. -/
def read (n : Nat) : List (List α) → List α × List (List α)
  | [] => ([], [])
  | seg :: src => (seg.take n, push (seg.drop n) src)

theorem read_append (n : Nat) (src : List (List α)) :
    (read n src).1 ++ (read n src).2.flatten = src.flatten := by
  cases src with
  | nil => rfl
  | cons seg src => simp [read, ← List.append_assoc]

/-- Read until `n` values are there or the source has ended. -/
def readFull (n : Nat) : List (List α) → List α × List (List α)
  | [] => ([], [])
  | seg :: src =>
    if n ≤ seg.length then (seg.take n, push (seg.drop n) src)
    else (seg ++ (readFull (n - seg.length) src).1, (readFull (n - seg.length) src).2)

/-- **The pieces do not matter**: `n` values are the first `n` of the data. -/
theorem readFull_eq (n : Nat) (src : List (List α)) :
    (readFull n src).1 = src.flatten.take n ∧ (readFull n src).2.flatten = src.flatten.drop n := by
  induction src generalizing n with
  | nil => simp [readFull]
  | cons seg src ih =>
    unfold readFull
    split
    · next hle =>
      rw [push_flatten, List.flatten_cons, List.take_append_of_le_length hle,
        List.drop_append_of_le_length hle]
      exact ⟨rfl, rfl⟩
    · next hgt =>
      obtain ⟨htake, hdrop⟩ := ih (n - seg.length)
      have hlt : seg.length ≤ n := Nat.le_of_lt (Nat.lt_of_not_le hgt)
      rw [List.flatten_cons, List.take_append, List.drop_append, List.take_of_length_le hlt,
        List.drop_of_length_le hlt, htake, hdrop]
      exact ⟨rfl, rfl⟩

/-! ## Readers and grammars -/

section Grammar
variable {β γ ε : Type} {p : List (List α) → Except ε (β × List (List α))} {L : β → List α → Prop}

/-- Whatever the pieces are, the reader returns a value exactly where the data begins with a text of
    that value, and leaves the rest of the data. -/
def Reads (p : List (List α) → Except ε (β × List (List α))) (L : β → List α → Prop) : Prop :=
  ∀ src b rest, (∃ left, p src = .ok (b, left) ∧ left.flatten = rest) ↔
    ∃ text, L b text ∧ src.flatten = text ++ rest

theorem Reads.congr (h : Reads p L) {M : β → List α → Prop} (hiff : ∀ b text, L b text ↔ M b text) :
    Reads p M := by
  intro src b rest
  rw [h src b rest]
  simp only [hiff]

theorem reads_ok (b : β) :
    Reads (fun src => (.ok (b, src) : Except ε _)) (fun b' (text : List α) => b' = b ∧ text = []) := by
  intro src b' rest
  constructor
  · rintro ⟨left, heq, rfl⟩
    cases heq
    exact ⟨[], ⟨rfl, rfl⟩, rfl⟩
  · rintro ⟨text, ⟨rfl, rfl⟩, htext⟩
    exact ⟨src, rfl, htext⟩

theorem reads_error (e : ε) :
    Reads (fun _ => (.error e : Except ε (β × List (List α)))) (fun _ _ => False) := by
  intro src b rest
  constructor
  · rintro ⟨left, heq, -⟩
    cases heq
  · rintro ⟨text, hfalse, -⟩
    exact hfalse.elim

theorem Reads.bind (h : Reads p L) {q : β → List (List α) → Except ε (γ × List (List α))}
    {M : β → γ → List α → Prop} (hq : ∀ b, Reads (q b) (M b)) :
    Reads (fun src => p src >>= fun r => q r.1 r.2)
      (fun c text => ∃ b text₁ text₂, L b text₁ ∧ M b c text₂ ∧ text = text₁ ++ text₂) := by
  intro src c rest
  dsimp only
  constructor
  · rintro ⟨left, heq, hrest⟩
    cases hp : p src with
    | error e =>
      rw [hp] at heq
      cases heq
    | ok r =>
      rw [hp] at heq
      obtain ⟨text₁, hL, hsrc⟩ := (h src r.1 _).1 ⟨r.2, hp, rfl⟩
      obtain ⟨text₂, hM, hmid⟩ := (hq r.1 r.2 c rest).1 ⟨left, heq, hrest⟩
      refine ⟨text₁ ++ text₂, ⟨r.1, text₁, text₂, hL, hM, rfl⟩, ?_⟩
      rw [hsrc, hmid, List.append_assoc]
  · rintro ⟨_, ⟨b, text₁, text₂, hL, hM, rfl⟩, hsrc⟩
    rw [List.append_assoc] at hsrc
    obtain ⟨mid, hp, hmid⟩ := (h src b _).2 ⟨text₁, hL, hsrc⟩
    obtain ⟨left, hq, hrest⟩ := (hq b mid c rest).2 ⟨text₂, hM, hmid⟩
    refine ⟨left, ?_, hrest⟩
    rw [hp]
    exact hq

/-- A reader behind a check that does not look at the source. -/
theorem Reads.guard (h : Reads p L) (bad : Prop) [Decidable bad] (e : ε) :
    Reads (fun src => if bad then .error e else p src) (fun b text => ¬ bad ∧ L b text) := by
  by_cases hbad : bad
  · simp only [hbad, if_true, not_true_eq_false, false_and]
    exact reads_error e
  · simp only [hbad, if_false, not_false_eq_true, true_and]
    exact h

theorem Reads.ite {q : List (List α) → Except ε (β × List (List α))} {c : Prop} [Decidable c]
    (hp : c → Reads p L) (hq : ¬ c → Reads q L) : Reads (fun src => if c then p src else q src) L := by
  by_cases hc : c
  · simp only [hc, if_true]
    exact hp hc
  · simp only [hc, if_false]
    exact hq hc

end Grammar

end Segments
