import LnProxy.Logging.Rotation

set_option autoImplicit false

/-! # A rotation that fails

`rotate` closes the file first, and only `open` at its end gives the writer another one. When an
operation in between fails, the writer is left with the closed file. Every later `Write` then fails
as well, with the operations of the file system in order again or not: a record that does not fit
tries to close the file once more, and one that fits is written to it. -/

namespace LnProxy.Logging

open Files

/-! ## What is left of the writer -/

theorem maintains_renameExisting {P : RotatingWriter → Prop} (old new : Nat) :
    Maintains (fun s => P s.memory) (renameExisting old new) := by
  have hrename : Maintains (fun s : Logs => P s.memory) (rename old new : Action Unit) :=
    .rename fun _ _ hs => hs
  refine hrename.handle fun failure => ?_
  cases failure with
  | notExist => exact (quiet_pure ()).maintains
  | error err => exact maintains_fail _

theorem maintains_shift {P : RotatingWriter → Prop} (n : Nat) :
    Maintains (fun s => P s.memory) (shift n) := by
  induction n with
  | zero => exact (quiet_pure ()).maintains
  | succ n ih => exact (maintains_renameExisting (n + 1) (n + 2)).bind fun _ => ih

/-- Whether closing the file fails or not, it cannot be used after it. -/
theorem triple_closeFile : Triple (fun _ => True) closeFile (fun _ s => s.memory.opened = false)
    (Fails fun s => s.memory.opened = false) := by
  have hmemory : Triple (fun _ : Logs => True) (getMemory : Action RotatingWriter)
      (fun w s => s.memory = w) (Fails fun s => s.memory.opened = false) := .getMemory fun _ _ => rfl
  refine hmemory.bind fun w => ?_
  cases hopened : w.opened with
  | true => exact .operation (fun _ _ => rfl) fun _ _ _ => fails_failed rfl
  | false => exact .fail fun s hs => fails_failed (hs ▸ hopened)

theorem maintains_getMemory {P : Logs → Prop} : Maintains P (getMemory : Action RotatingWriter) :=
  .getMemory fun _ hs => hs

/-- `open` gives the writer a file, or leaves the writer as it is. -/
theorem triple_openLog : Triple (fun s => s.memory.opened = false) openLog
    (fun _ s => s.memory.opened = true) (Fails fun s => s.memory.opened = false) := by
  have hopen : Maintains (fun s : Logs => s.memory.opened = false) openFile :=
    .operation (fun _ hs => hs) fun _ _ hs => hs
  exact .bind quiet_call.triple fun _ => Triple.bind hopen fun _ => .bind quiet_call.triple fun _ =>
    Triple.bind maintains_getMemory fun _ => Triple.bind (maintains_contents 0) fun _ =>
      .update fun _ _ => rfl

/-- **A rotation ends with an open file, or it fails and the file is closed.** -/
theorem triple_rotate : Triple (fun _ => True) rotate (fun _ s => s.memory.opened = true)
    (Fails fun s => s.memory.opened = false) := by
  refine triple_closeFile.bind fun _ => Triple.bind maintains_getMemory fun w => ?_
  have hshift := @maintains_shift (fun w => w.opened = false) (w.keep - 1).toNat
  have hrename := @maintains_renameExisting (fun w => w.opened = false) 0 1
  exact Triple.bind hshift fun _ => Triple.bind hrename fun _ => triple_openLog

theorem makeRoom_full {record : Bytes} {m : Machine RotatingWriter Nat Bytes Err}
    (h : Full record m.toState) :
    makeRoom record m = rotate m := by
  refine (bind_ok rfl).trans ?_
  unfold Full at h
  rw [if_pos h]

theorem makeRoom_fits {record : Bytes} {m : Machine RotatingWriter Nat Bytes Err}
    (h : ¬ Full record m.toState) :
    makeRoom record m = .ok () m := by
  refine (bind_ok rfl).trans ?_
  unfold Full at h
  rw [if_neg h]
  rfl

/-- A writer with a closed file fails, whatever the outcomes of the operations, and changes nothing. -/
theorem write_closed {s : Logs} (h : s.memory.opened = false) (record : Bytes)
    (plan : List (Option (Fault Bytes Err))) :
    write record ⟨s, plan⟩ = .error (.failed (.error errClosed)) ⟨s, plan⟩ := by
  have happend : append record ⟨s, plan⟩ = .error (.failed (.error errClosed)) ⟨s, plan⟩ := by
    refine (bind_ok rfl).trans ?_
    rw [if_neg (by simp [h])]
    rfl
  have hclose : closeFile ⟨s, plan⟩ = .error (.failed (.error errClosed)) ⟨s, plan⟩ := by
    refine (bind_ok rfl).trans ?_
    rw [if_neg (by simp [h])]
    rfl
  by_cases hfull : Full record s
  · exact bind_error ((makeRoom_full hfull).trans (bind_error hclose))
  · exact (bind_ok (makeRoom_fits hfull)).trans happend

/-! ## The operations of a rotation -/

/-- Each of the first `n` operations of the program makes it fail, if it does and those before it
    succeed. At the places that are not `strict` a missing file is no failure. -/
structure Breakable (n : Nat) (strict : Nat → Prop) (p : Action Unit) (s s' : Logs) : Prop where
  ok : ∀ plan, p ⟨s, List.replicate n none ++ plan⟩ = .ok () ⟨s', plan⟩
  error : ∀ i fault rest, i < n → (fault.failure = .notExist → strict i) → ∃ stop m,
    p ⟨s, List.replicate i none ++ some fault :: rest⟩ = .error stop m

theorem Breakable.bind {n k : Nat} {first second strict : Nat → Prop} {p q : Action Unit}
    {s s' s'' : Logs} (hp : Breakable n first p s s') (hq : Breakable k second q s' s'')
    (hfirst : ∀ i < n, strict i → first i) (hsecond : ∀ i < k, strict (n + i) → second i) :
    Breakable (n + k) strict (p >>= fun _ => q) s s'' where
  ok := by
    intro plan
    rw [← List.replicate_append_replicate, List.append_assoc, bind_ok (hp.ok _)]
    exact hq.ok plan
  error := by
    intro i fault rest hi hstrict
    by_cases hlt : i < n
    · obtain ⟨stop, m, hrun⟩ := hp.error i fault rest hlt fun h => hfirst i hlt (hstrict h)
      exact ⟨stop, m, bind_error hrun⟩
    · obtain ⟨j, rfl⟩ : ∃ j, i = n + j := ⟨i - n, by omega⟩
      rw [← List.replicate_append_replicate, List.append_assoc, bind_ok (hp.ok _)]
      exact hq.error j fault rest (by omega) fun h => hsecond j (by omega) (hstrict h)

theorem breakable_of_needs {n : Nat} {strict : Nat → Prop} {p : Action Unit} {s s' : Logs}
    (h : Needs n p s () s') : Breakable n strict p s s' where
  ok := by
    intro plan
    have htake : (List.replicate n none ++ plan).take n = List.replicate n none := by simp
    have hok := h.ok (List.replicate n none ++ plan) (by
      rw [htake]
      exact fun outcome houtcome => List.eq_of_mem_replicate houtcome)
    rwa [List.drop_left' List.length_replicate] at hok
  error := by
    intro i fault rest hi _
    refine h.error _ ⟨some fault, ?_, nofun⟩
    rw [List.take_append, List.length_replicate, List.mem_append]
    obtain ⟨k, hk⟩ : ∃ k, n - i = k + 1 := ⟨n - i - 1, by omega⟩
    rw [hk]
    exact .inr List.mem_cons_self

theorem breakable_renameExisting (old new : Nat) (s : Logs) :
    Breakable 1 (fun _ => False) (renameExisting old new) s (Renamed old new s) where
  ok := by
    intro plan
    have hcall : (call : Action Unit) ⟨s, none :: plan⟩ = .ok () ⟨s, plan⟩ := rfl
    have hcontents : (contents old : Action _) ⟨s, plan⟩ = .ok (s.disk old) ⟨s, plan⟩ := rfl
    have hrename : (rename old new : Action Unit) ⟨s, [none] ++ plan⟩ = _ :=
      (bind_ok hcall).trans (bind_ok hcontents)
    show handle (rename old new) _ ⟨s, [none] ++ plan⟩ = _
    unfold handle Renamed
    rw [hrename]
    cases s.disk old with
    | none => rfl
    | some data => rfl
  error := by
    rintro i ⟨failure, left⟩ rest hi hstrict
    obtain rfl : i = 0 := by omega
    cases failure with
    | notExist => exact absurd rfl hstrict
    | error err => exact ⟨_, _, rfl⟩

theorem breakable_shift (n : Nat) (s : Logs) :
    Breakable n (fun _ => False) (shift n) s (Shifted n s) := by
  induction n generalizing s with
  | zero => exact breakable_of_needs (needs_pure () s)
  | succ n ih =>
    have hbind : Breakable (1 + n) (fun _ => False) (shift (n + 1)) s _ :=
      (breakable_renameExisting (n + 1) (n + 2) s).bind (ih _) (fun _ _ h => h) fun _ _ h => h
    rwa [Nat.add_comm 1 n] at hbind

/-- How many operations `rotate` makes: it closes the file, renames `keep` files (one, if `keep` is
    less), makes the directory, opens the file and asks for its size. -/
def rotateOperations (keep : Int) : Nat := 1 + ((keep - 1).toNat + (1 + 3))

/-- The operation of `rotate` with this number is one of its renames. -/
def IsRename (keep : Int) (i : Nat) : Prop := 0 < i ∧ i < 1 + ((keep - 1).toNat + 1)

theorem breakable_rotate {s : Logs} (h : s.memory.opened = true) :
    Breakable (rotateOperations s.memory.keep) (fun i => ¬ IsRename s.memory.keep i) rotate s
      (Rotated s) := by
  have hopen : ∀ s, Breakable 3 (fun _ => True) openLog s (Opened s) := fun s =>
    breakable_of_needs (needs_openLog s)
  have hlast : ∀ s, Breakable (1 + 3) (fun i => 0 < i) _ s _ := fun s =>
    (breakable_renameExisting 0 1 s).bind (hopen _) (by omega) fun _ _ _ => trivial
  have hrest : Breakable _ (fun i => (s.memory.keep - 1).toNat < i) _ (Closed s) _ :=
    (breakable_shift (s.memory.keep - 1).toNat (Closed s)).bind (hlast _) (by omega) (by omega)
  have hclose : Breakable 1 (fun _ => True) closeFile s (Closed s) :=
    breakable_of_needs (needs_closeFile h)
  refine hclose.bind ⟨hrest.ok, hrest.error⟩ (fun _ _ _ => trivial) fun i _ hi => ?_
  unfold IsRename at hi
  omega

/-! ## After a failed rotation -/

/-- What writing the record leaves, with or without an error. -/
def afterWrite (record : Bytes) (m : Machine RotatingWriter Nat Bytes Err) : Logs :=
  match write record m with
  | .ok _ m' => m'.toState
  | .error _ m' => m'.toState

/-- **A failed rotation ends the log.** Whichever operation of the rotation of an open writer is the
    first to fail, with any error but that of a missing file in a rename, `Write` returns an error. So
    does every later `Write`, whatever the file system does from then on, and nothing is written. -/
theorem rotation_failure_lasting {record : Bytes} {m : Machine RotatingWriter Nat Bytes Err}
    {i : Nat} {fault : Fault Bytes Err} {rest : List (Option (Fault Bytes Err))}
    (hopened : m.memory.opened = true) (hfull : Full record m.toState)
    (hi : i < rotateOperations m.memory.keep)
    (hplan : m.plan = List.replicate i none ++ some fault :: rest)
    (hfault : fault.failure = .notExist → ¬ IsRename m.memory.keep i) :
    (∃ stop m', write record m = .error stop m') ∧
      ∀ later plan, write later ⟨afterWrite record m, plan⟩ =
        .error (.failed (.error errClosed)) ⟨afterWrite record m, plan⟩ := by
  obtain ⟨stop, m', hrotate⟩ := (breakable_rotate hopened).error i fault rest hi hfault
  rw [← hplan] at hrotate
  have hwrite : write record m = .error stop m' := bind_error ((makeRoom_full hfull).trans hrotate)
  have hclosed : (afterWrite record m).memory.opened = false := by
    unfold afterWrite
    rw [hwrite]
    exact (triple_rotate.of_error trivial hrotate).2
  exact ⟨⟨stop, m', hwrite⟩, write_closed hclosed⟩

/-- A writer that keeps two files and whose file is full; the second of its two renames fails. -/
theorem second_rename_lasting :
    let m : Machine RotatingWriter Nat Bytes Err :=
      ⟨⟨⟨4, 2, true, 4⟩, fun i => if i ≤ 1 then some [1, 2, 3, 4] else none⟩,
        [none, none, some ⟨.error (.message "disk quota exceeded"), none⟩]⟩
    (afterWrite [5] m).disk 2 = some [1, 2, 3, 4] ∧ (∃ stop m', write [5] m = .error stop m') ∧
      ∀ later plan, write later ⟨afterWrite [5] m, plan⟩ =
        .error (.failed (.error errClosed)) ⟨afterWrite [5] m, plan⟩ := by
  exact ⟨rfl, rotation_failure_lasting (i := 2) rfl (by decide) (by decide) rfl nofun⟩

/-- The rename to `path.1` fails, and no operation after it. Neither an empty record, which fits, nor
    one that does not can be written any more. -/
theorem failed_rename :
    let m : Machine RotatingWriter Nat Bytes Err :=
      ⟨⟨⟨2, 1, true, 2⟩, fun i => if i = 0 then some [1, 2] else none⟩,
        [none, some ⟨.error (.message "permission denied"), none⟩]⟩
    (∃ m', write [3] m = .error (.failed (.error (.message "permission denied"))) m') ∧
      (∃ m', write [] ⟨afterWrite [3] m, []⟩ = .error (.failed (.error errClosed)) m') ∧
      ∃ m', write [4] ⟨afterWrite [3] m, []⟩ = .error (.failed (.error errClosed)) m' := by
  exact ⟨⟨_, rfl⟩, ⟨_, rfl⟩, _, rfl⟩

end LnProxy.Logging
