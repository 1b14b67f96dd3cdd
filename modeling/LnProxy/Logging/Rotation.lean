import LnProxy.Lib.Files
import LnProxy.Protocol.Frame

set_option autoImplicit false

/-! # Rotating log files (`rotatingWriter`)

A writer appends records to one file. Before a record that would take the file beyond the limit it
rotates: it closes the file, renames `path.i` to `path.(i+1)` from the oldest one that is kept
downwards, renames `path` to `path.1` and opens `path` anew.

The files are numbered: 0 is `path`, and `i` is `path.i`. Sizes are exact: where the sum of two would
leave the 64 bits of Go, a file system has refused the write before. -/

namespace LnProxy.Logging

open Files

/-! ## The writer -/

structure RotatingWriter where
  maxBytes : Int
  keep : Int
  /-- The file can be used: it was opened and not closed since. -/
  opened : Bool
  size : Int
  deriving DecidableEq, Repr

abbrev Action := Program RotatingWriter Nat Bytes Err

abbrev Logs := State RotatingWriter Nat Bytes

/-- `os.ErrClosed` -/
def errClosed : Err := .message "file already closed"

/-- `OpenFile` with `O_CREATE` and `O_APPEND` -/
def openFile : Action Unit := operation (fun s => s.set 0 (some ((s.disk 0).getD []))) fun _ => id

/-- `open` -/
def openLog : Action Unit := do
  -- `MkdirAll`
  call
  openFile
  -- `Stat`; when it fails the new file is closed again and the writer keeps the old one
  call
  let w ← getMemory
  let data ← contents 0
  setMemory { w with opened := true, size := (data.getD []).length }

def newRotatingWriter (maxBytes keep : Int) : Action Unit := do
  setMemory ⟨maxBytes, keep, false, 0⟩
  openLog

def Closed (s : Logs) : Logs := { s with memory := { s.memory with opened := false } }

/-- `file.Close`, after which the file cannot be used, whether it fails or not. -/
def closeFile : Action Unit := do
  let w ← getMemory
  if w.opened then operation Closed fun _ => Closed else fail (.error errClosed)

/-- `Rename`, and `IsNotExist` of its error -/
def renameExisting (old new : Nat) : Action Unit :=
  handle (rename old new) fun failure =>
    match failure with
    | .notExist => pure ()
    | .error err => fail (.error err)

/-- The loop over `i`, from the argument down to 1. -/
def shift : Nat → Action Unit
  | 0 => pure ()
  | i + 1 => do
    renameExisting (i + 1) (i + 2)
    shift i

def rotate : Action Unit := do
  closeFile
  let w ← getMemory
  shift (w.keep - 1).toNat
  renameExisting 0 1
  openLog

/-- Add bytes to the file and to the size. -/
def Appended (chunk : Bytes) (s : Logs) : Logs :=
  { s.set 0 (some ((s.disk 0).getD [] ++ chunk)) with
    memory := { s.memory with size := s.memory.size + chunk.length } }

/-- `file.Write`; one that fails may have written the first bytes. -/
def append (record : Bytes) : Action Unit := do
  let w ← getMemory
  if w.opened then
    operation (Appended record) fun fault => Appended (record.take (fault.left.getD []).length)
  else fail (.error errClosed)

/-- The test before the write. -/
def makeRoom (record : Bytes) : Action Unit := do
  let w ← getMemory
  if w.size + record.length > w.maxBytes then rotate else pure ()

/-- `Write` -/
def write (record : Bytes) : Action Unit := do
  makeRoom record
  append record

def writes : List Bytes → Action Unit
  | [] => pure ()
  | record :: records => do
    write record
    writes records

/-! ## Runs without a failure -/

section Done

variable {s : Logs}

/-- The file is there, and the writer uses it. -/
def Opened (s : Logs) : Logs :=
  { s.set 0 (some ((s.disk 0).getD [])) with
    memory := { s.memory with opened := true, size := ((s.disk 0).getD []).length } }

theorem needs_openLog (s : Logs) : Needs 3 openLog s () (Opened s) := by
  have hdisk : (s.set 0 (some ((s.disk 0).getD []))).disk 0 = some ((s.disk 0).getD []) :=
    State.set_disk_self ..
  show Needs (1 + (1 + (1 + (0 + (0 + 0))))) (call >>= _) s () (Opened s)
  refine (needs_call s).bind ((needs_operation _ _ s).bind ((needs_call _).bind
    ((needs_getMemory _).bind ((needs_contents 0 _).bind ?_))))
  rw [hdisk]
  exact needs_update _ _

theorem needs_closeFile (h : s.memory.opened = true) : Needs 1 closeFile s () (Closed s) := by
  show Needs (0 + 1) (getMemory >>= _) s () (Closed s)
  refine (needs_getMemory s).bind ?_
  rw [if_pos h]
  exact needs_operation _ _ s

theorem done_append (record : Bytes) (h : s.memory.opened = true) :
    Done (append record) s () (Appended record s) := by
  refine (needs_getMemory s).done.bind ?_
  rw [if_pos h]
  exact (needs_operation _ _ s).done

/-- What a rename makes of the files, if there is one to rename. -/
def Renamed (old new : Nat) (s : Logs) : Logs :=
  match s.disk old with
  | none => s
  | some data => (s.set old none).set new (some data)

theorem done_renameExisting (old new : Nat) (s : Logs) :
    Done (renameExisting old new) s () (Renamed old new s) := by
  unfold Renamed
  cases hold : s.disk old with
  | none =>
    have hrename : rename old new (⟨s, []⟩ : Machine RotatingWriter Nat Bytes Err) =
        .error (.failed .notExist) ⟨s, []⟩ := by
      refine (bind_ok (needs_call s).done).trans ((bind_ok (needs_contents old s).done).trans ?_)
      rw [hold]
      rfl
    unfold Done renameExisting handle
    rw [hrename]
    rfl
  | some data => exact ((needs_rename hold).done).handle _

/-- What the loop makes of the files. -/
def Shifted : Nat → Logs → Logs
  | 0, s => s
  | i + 1, s => Shifted i (Renamed (i + 1) (i + 2) s)

theorem done_shift (n : Nat) (s : Logs) : Done (shift n) s () (Shifted n s) := by
  induction n generalizing s with
  | zero => exact (needs_pure () s).done
  | succ n ih => exact (done_renameExisting (n + 1) (n + 2) s).bind (ih _)

theorem memory_renamed (old new : Nat) (s : Logs) : (Renamed old new s).memory = s.memory := by
  unfold Renamed
  split
  · rfl
  · rfl

theorem memory_shifted (n : Nat) (s : Logs) : (Shifted n s).memory = s.memory := by
  induction n generalizing s with
  | zero => rfl
  | succ n ih => exact (ih _).trans (memory_renamed ..)

/-- What a rotation makes of the files. -/
def Rotated (s : Logs) : Logs :=
  Opened (Renamed 0 1 (Shifted (s.memory.keep - 1).toNat (Closed s)))

theorem done_rotate (h : s.memory.opened = true) : Done rotate s () (Rotated s) :=
  (needs_closeFile h).done.bind ((needs_getMemory _).done.bind ((done_shift ..).bind
    ((done_renameExisting ..).bind (needs_openLog _).done)))

theorem memory_rotated (s : Logs) : (Rotated s).memory =
    { s.memory with
      opened := true,
      size := (((Renamed 0 1 (Shifted (s.memory.keep - 1).toNat (Closed s))).disk 0).getD []).length } := by
  unfold Rotated Opened
  simp only [memory_renamed, memory_shifted]
  rfl

/-- The record does not fit. -/
def Full (record : Bytes) (s : Logs) : Prop := s.memory.size + record.length > s.memory.maxBytes

instance (record : Bytes) (s : Logs) : Decidable (Full record s) :=
  inferInstanceAs (Decidable (_ > _))

def Written (record : Bytes) (s : Logs) : Logs :=
  Appended record (if Full record s then Rotated s else s)

/-- **Writing to an open file succeeds** when no operation fails. -/
theorem done_write (record : Bytes) (h : s.memory.opened = true) :
    Done (write record) s () (Written record s) := by
  have hroom : Done (makeRoom record) s () (if Full record s then Rotated s else s) := by
    refine (needs_getMemory s).done.bind ?_
    by_cases hfull : Full record s
    · rw [if_pos hfull]
      have hrotate := done_rotate h
      unfold Full at hfull
      rwa [if_pos hfull]
    · rw [if_neg hfull]
      unfold Full at hfull
      rw [if_neg hfull]
      exact (needs_pure () s).done
  refine hroom.bind (done_append record ?_)
  split
  · rw [memory_rotated]
  · exact h

end Done

/-! ## What a rotation does to the files -/

section Disk

variable {s : Logs} {n : Nat}

theorem disk_opened_zero (s : Logs) : (Opened s).disk 0 = some ((s.disk 0).getD []) :=
  State.set_disk_self s 0 (some ((s.disk 0).getD []))

theorem disk_opened_succ (s : Logs) (j : Nat) : (Opened s).disk (j + 1) = s.disk (j + 1) :=
  State.set_disk_of_ne s (some ((s.disk 0).getD [])) (Nat.succ_ne_zero j)

theorem disk_appended_zero (chunk : Bytes) (s : Logs) :
    (Appended chunk s).disk 0 = some ((s.disk 0).getD [] ++ chunk) :=
  State.set_disk_self s 0 (some ((s.disk 0).getD [] ++ chunk))

theorem disk_appended_succ (chunk : Bytes) (s : Logs) (j : Nat) :
    (Appended chunk s).disk (j + 1) = s.disk (j + 1) :=
  State.set_disk_of_ne s (some ((s.disk 0).getD [] ++ chunk)) (Nat.succ_ne_zero j)

theorem disk_renamed {old new : Nat} (hne : old ≠ new) (hgap : s.disk old = none → s.disk new = none)
    (j : Nat) : (Renamed old new s).disk j =
      if j = new then s.disk old else if j = old then none else s.disk j := by
  unfold Renamed
  by_cases hnew : j = new
  · subst hnew
    rw [if_pos rfl]
    cases hold : s.disk old with
    | none => exact hgap hold
    | some data => exact State.set_disk_self ..
  · rw [if_neg hnew]
    by_cases hj : j = old
    · subst hj
      rw [if_pos rfl]
      cases hold : s.disk j with
      | none => exact hold
      | some data => exact (State.set_disk_of_ne _ _ hnew).trans (State.set_disk_self ..)
    · rw [if_neg hj]
      cases s.disk old with
      | none => rfl
      | some data => exact (State.set_disk_of_ne _ _ hnew).trans (State.set_disk_of_ne _ _ hj)

/-- There is no file after a missing one, up to the number `n`. -/
def Gapless (n : Nat) (s : Logs) : Prop := ∀ i, i ≤ n → s.disk i = none → s.disk (i + 1) = none

/-- The loop moves every file up by one. -/
theorem disk_shifted (hgap : Gapless n s) (j : Nat) : (Shifted n s).disk j =
    if 2 ≤ j ∧ j ≤ n + 1 then s.disk (j - 1) else if j = 1 ∧ 1 ≤ n then none else s.disk j := by
  induction n generalizing s with
  | zero =>
    rw [if_neg (by omega), if_neg (by omega)]
    rfl
  | succ n ih =>
    have hdisk := @disk_renamed s (n + 1) (n + 2) (by omega) (hgap (n + 1) (Nat.le_refl _))
    have hgap' : Gapless n (Renamed (n + 1) (n + 2) s) := by
      intro i hi hnone
      rw [hdisk] at hnone ⊢
      by_cases hlast : i = n
      · rw [if_neg (by omega), if_pos (by omega)]
      · rw [if_neg (by omega), if_neg (by omega)] at hnone
        rw [if_neg (by omega), if_neg (by omega)]
        exact hgap i (by omega) hnone
    show (Shifted n (Renamed (n + 1) (n + 2) s)).disk j = _
    rw [ih hgap', hdisk, hdisk]
    -- what is left is to compare the two ways of counting
    by_cases htop : j = n + 2
    · subst htop
      rw [if_neg (by omega), if_neg (by omega), if_pos rfl, if_pos (by omega)]
      rfl
    · by_cases hmiddle : 2 ≤ j ∧ j ≤ n + 1
      · rw [if_pos hmiddle, if_neg (by omega), if_neg (by omega), if_pos (by omega)]
      · rw [if_neg hmiddle, if_neg (by omega : ¬ (2 ≤ j ∧ j ≤ n + 1 + 1))]
        by_cases hone : j = 1
        · rw [if_pos (by omega : j = 1 ∧ 1 ≤ n + 1)]
          by_cases hn : 1 ≤ n
          · rw [if_pos ⟨hone, hn⟩]
          · rw [if_neg fun h => hn h.2, if_neg htop, if_pos (by omega)]
        · rw [if_neg fun h => hone h.1, if_neg htop, if_neg (by omega), if_neg fun h => hone h.1]

theorem disk_rotated {data : Bytes} (hkeep : 1 ≤ s.memory.keep) (hcurrent : s.disk 0 = some data)
    (hgap : Gapless s.memory.keep.toNat s) :
    (Rotated s).disk 0 = some [] ∧ ∀ j, (Rotated s).disk (j + 1) =
      if j < s.memory.keep.toNat then s.disk j else s.disk (j + 1) := by
  have hgap' : Gapless (s.memory.keep - 1).toNat (Closed s) := fun i hi => hgap i (by omega)
  have hshift := disk_shifted hgap'
  have hzero : (Shifted (s.memory.keep - 1).toNat (Closed s)).disk 0 = some data := by
    rw [hshift, if_neg (by omega), if_neg (by omega)]
    exact hcurrent
  have hrename := @disk_renamed (Shifted (s.memory.keep - 1).toNat (Closed s)) 0 1 (by omega)
    (fun hnone => by rw [hzero] at hnone; cases hnone)
  unfold Rotated
  constructor
  · rw [disk_opened_zero, hrename, if_neg (by omega), if_pos rfl]
    rfl
  · intro j
    rw [disk_opened_succ, hrename]
    by_cases hj : j = 0
    · subst hj
      rw [if_pos rfl, hzero, if_pos (by omega), hcurrent]
    · rw [if_neg (by omega), if_neg (by omega), hshift]
      by_cases hkept : j < s.memory.keep.toNat
      · rw [if_pos (by omega), if_pos hkept]
        rfl
      · rw [if_neg (by omega), if_neg (by omega), if_neg hkept]
        rfl

end Disk

/-! ## What is kept -/

/-- The lists of the files in a row, beginning with the oldest, number `n`. -/
def oldestFirst {α : Type} (files : Nat → List α) : Nat → List α
  | 0 => files 0
  | n + 1 => files (n + 1) ++ oldestFirst files n

theorem oldestFirst_congr {α : Type} {files files' : Nat → List α} {n : Nat}
    (h : ∀ i, i ≤ n → files i = files' i) : oldestFirst files n = oldestFirst files' n := by
  induction n with
  | zero => exact h 0 (Nat.le_refl 0)
  | succ n ih =>
    unfold oldestFirst
    rw [h (n + 1) (Nat.le_refl _), ih fun i hi => h i (by omega)]

theorem oldestFirst_shift {α : Type} {files files' : Nat → List α} {n : Nat} (hzero : files' 0 = [])
    (hsucc : ∀ i, i ≤ n → files' (i + 1) = files i) :
    oldestFirst files' (n + 1) = oldestFirst files n := by
  induction n with
  | zero =>
    show files' 1 ++ files' 0 = files 0
    rw [hzero, hsucc 0 (Nat.le_refl 0), List.append_nil]
  | succ n ih =>
    show files' (n + 1 + 1) ++ oldestFirst files' (n + 1) = files (n + 1) ++ oldestFirst files n
    rw [hsucc (n + 1) (Nat.le_refl _), ih fun i hi => hsucc i (by omega)]

theorem oldestFirst_append_zero {α : Type} {files files' : Nat → List α} {n : Nat} {last : List α}
    (hzero : files' 0 = files 0 ++ last) (hsucc : ∀ i, files' (i + 1) = files (i + 1)) :
    oldestFirst files' n = oldestFirst files n ++ last := by
  induction n with
  | zero => exact hzero
  | succ n ih =>
    unfold oldestFirst
    rw [hsucc, ih, List.append_assoc]

theorem flatten_oldestFirst {α : Type} (files : Nat → List (List α)) (n : Nat) :
    (oldestFirst files n).flatten = oldestFirst (fun i => (files i).flatten) n := by
  induction n with
  | zero => rfl
  | succ n ih =>
    unfold oldestFirst
    rw [List.flatten_append, ih]

/-- What holds of the files after the records: `files i` are the records of file `i`. -/
structure Kept (maxBytes keep : Int) (records : List Bytes) (files : Nat → List Bytes) (s : Logs) :
    Prop where
  maxBytes_eq : s.memory.maxBytes = maxBytes
  keep_eq : s.memory.keep = keep
  opened : s.memory.opened = true
  current : s.disk 0 = some (files 0).flatten
  size : s.memory.size = (files 0).flatten.length
  rotated : ∀ i, (s.disk (i + 1)).getD [] = (files (i + 1)).flatten
  gapless : ∀ i, s.disk i = none → s.disk (i + 1) = none
  beyond : ∀ i, keep.toNat < i → s.disk i = none ∧ files i = []
  short : ∀ i, (files i).flatten.length ≤ maxBytes ∨ (files i).length ≤ 1
  suffix : oldestFirst files keep.toNat <:+ records

section Kept

variable {maxBytes keep : Int} {records : List Bytes} {files : Nat → List Bytes} {s : Logs}

/-- Without files the writer opens an empty one. -/
theorem kept_new (maxBytes keep : Int) {s : Logs} (hdisk : ∀ i, s.disk i = none)
    (hmemory : s.memory = ⟨maxBytes, keep, false, 0⟩) :
    Kept maxBytes keep [] (fun _ => []) (Opened s) where
  maxBytes_eq := congrArg RotatingWriter.maxBytes hmemory
  keep_eq := congrArg RotatingWriter.keep hmemory
  opened := rfl
  current := by
    rw [disk_opened_zero, hdisk]
    rfl
  size := by
    show (((s.disk 0).getD []).length : Int) = _
    rw [hdisk]
    rfl
  rotated := by
    intro i
    rw [disk_opened_succ, hdisk]
    rfl
  gapless := by
    intro i _
    rw [disk_opened_succ, hdisk]
  beyond := by
    intro i hi
    obtain ⟨j, rfl⟩ : ∃ j, i = j + 1 := ⟨i - 1, by omega⟩
    exact ⟨(disk_opened_succ s j).trans (hdisk _), rfl⟩
  short := fun _ => Or.inr (Nat.zero_le 1)
  suffix := by
    have hnil : ∀ n, oldestFirst (fun _ => ([] : List Bytes)) n = [] := by
      intro n
      induction n with
      | zero => rfl
      | succ n ih => exact ih
    exact ⟨[], (List.nil_append _).trans (hnil _)⟩

/-- A rotation drops the oldest file and begins an empty one. -/
theorem Kept.rotate (h : Kept maxBytes keep records files s) (hkeep : 1 ≤ keep) :
    Kept maxBytes keep records
      (fun i => if i = 0 then [] else if i ≤ keep.toNat then files (i - 1) else []) (Rotated s) := by
  have hkeep' : 1 ≤ s.memory.keep := h.keep_eq ▸ hkeep
  obtain ⟨hzero, hsucc⟩ := disk_rotated hkeep' h.current fun i _ => h.gapless i
  rw [h.keep_eq] at hsucc
  have hall : ∀ i, (s.disk i).getD [] = (files i).flatten := by
    intro i
    cases i with
    | zero =>
      rw [h.current]
      rfl
    | succ i => exact h.rotated i
  refine ⟨?_, ?_, ?_, ?_, ?_, fun i => ?_, fun i hnone => ?_, fun i hi => ?_, fun i => ?_, ?_⟩
  · rw [memory_rotated]
    exact h.maxBytes_eq
  · rw [memory_rotated]
    exact h.keep_eq
  · rw [memory_rotated]
  · exact hzero
  · have hnew := hzero
    unfold Rotated at hnew
    rw [disk_opened_zero, Option.some.injEq] at hnew
    rw [memory_rotated, hnew]
    rfl
  · rw [hsucc]
    by_cases hi : i < keep.toNat
    · rw [if_pos hi, hall, if_neg (by omega), if_pos (by omega)]
      rfl
    · rw [if_neg hi, (h.beyond (i + 1) (by omega)).1, if_neg (by omega), if_neg (by omega)]
      rfl
  · cases i with
    | zero =>
      rw [hzero] at hnone
      cases hnone
    | succ i =>
      rw [hsucc] at hnone ⊢
      by_cases hi : i + 1 < keep.toNat
      · rw [if_pos (by omega)] at hnone
        rw [if_pos hi]
        exact h.gapless i hnone
      · rw [if_neg hi]
        exact (h.beyond (i + 1 + 1) (by omega)).1
  · obtain ⟨j, rfl⟩ : ∃ j, i = j + 1 := ⟨i - 1, by omega⟩
    rw [hsucc, if_neg (by omega), if_neg (by omega), if_neg (by omega)]
    exact ⟨(h.beyond (j + 1) hi).1, rfl⟩
  · by_cases hi : i = 0
    · rw [if_pos hi]
      exact Or.inr (Nat.zero_le 1)
    · rw [if_neg hi]
      by_cases hle : i ≤ keep.toNat
      · rw [if_pos hle]
        exact h.short (i - 1)
      · rw [if_neg hle]
        exact Or.inr (Nat.zero_le 1)
  · obtain ⟨n, hn⟩ : ∃ n, keep.toNat = n + 1 := ⟨keep.toNat - 1, by omega⟩
    have hsuffix := h.suffix
    rw [hn] at hsuffix ⊢
    rw [oldestFirst_shift (if_pos rfl) fun i hi => ?_]
    · exact (List.suffix_append _ _).trans hsuffix
    · rw [if_neg (by omega), if_pos (by omega)]
      rfl

/-- A record that fits, or comes to an empty file, is appended. -/
theorem Kept.append (h : Kept maxBytes keep records files s) (record : Bytes)
    (hfits : (files 0).flatten.length + record.length ≤ maxBytes ∨ files 0 = []) :
    Kept maxBytes keep (records ++ [record]) (fun i => if i = 0 then files 0 ++ [record] else files i)
      (Appended record s) := by
  have hflatten : (files 0 ++ [record]).flatten = (files 0).flatten ++ record := by simp
  refine ⟨h.maxBytes_eq, h.keep_eq, h.opened, ?_, ?_, fun i => ?_, fun i hnone => ?_, fun i hi => ?_,
    fun i => ?_, ?_⟩
  · rw [disk_appended_zero, h.current, if_pos rfl, hflatten]
    rfl
  · show s.memory.size + (record.length : Int) = _
    rw [h.size, if_pos rfl, hflatten, List.length_append]
    omega
  · rw [disk_appended_succ, if_neg (by omega)]
    exact h.rotated i
  · rw [disk_appended_succ]
    cases i with
    | zero =>
      rw [disk_appended_zero] at hnone
      cases hnone
    | succ i =>
      rw [disk_appended_succ] at hnone
      exact h.gapless (i + 1) hnone
  · obtain ⟨j, rfl⟩ : ∃ j, i = j + 1 := ⟨i - 1, by omega⟩
    rw [disk_appended_succ, if_neg (by omega)]
    exact h.beyond (j + 1) hi
  · by_cases hi : i = 0
    · rw [if_pos hi, hflatten]
      rcases hfits with hfits | hempty
      · left
        rw [List.length_append]
        omega
      · right
        rw [hempty]
        exact Nat.le_refl 1
    · rw [if_neg hi]
      exact h.short i
  · rw [oldestFirst_append_zero (if_pos rfl) fun i => if_neg (Nat.succ_ne_zero i)]
    obtain ⟨dropped, hdropped⟩ := h.suffix
    exact ⟨dropped, by rw [← List.append_assoc, hdropped]⟩

/-- The records of the current file end with the last record. -/
theorem Kept.write (h : Kept maxBytes keep records files s) (hkeep : 1 ≤ keep) (record : Bytes) :
    ∃ files', Kept maxBytes keep (records ++ [record]) files' (Written record s) ∧
      ∃ before, files' 0 = before ++ [record] := by
  unfold Written
  by_cases hfull : Full record s
  · rw [if_pos hfull]
    refine ⟨_, (h.rotate hkeep).append record (Or.inr (if_pos rfl)), [], ?_⟩
    rfl
  · rw [if_neg hfull]
    refine ⟨_, h.append record (Or.inl ?_), files 0, if_pos rfl⟩
    unfold Full at hfull
    rw [h.size, h.maxBytes_eq] at hfull
    omega

/-- The last record is the last one of the current file. -/
def Ends (records : List Bytes) (files : Nat → List Bytes) : Prop :=
  ∀ record, records.getLast? = some record → ∃ before, files 0 = before ++ [record]

/-- **All writes succeed and keep the account.** -/
theorem Kept.writes (hkeep : 1 ≤ keep) (more : List Bytes) :
    ∀ {records : List Bytes} {files : Nat → List Bytes} {s : Logs},
    Kept maxBytes keep records files s → Ends records files →
    ∃ files' s', Done (Logging.writes more) s () s' ∧ Kept maxBytes keep (records ++ more) files' s' ∧
      Ends (records ++ more) files' := by
  induction more with
  | nil =>
    intro records files s h hends
    refine ⟨files, s, (needs_pure () s).done, ?_⟩
    rw [List.append_nil]
    exact ⟨h, hends⟩
  | cons record more ih =>
    intro records files s h _
    obtain ⟨files', h', before, hbefore⟩ := h.write hkeep record
    have hends : Ends (records ++ [record]) files' := by
      intro last hlast
      obtain rfl : record = last := by simpa using hlast
      exact ⟨before, hbefore⟩
    obtain ⟨files'', s'', hdone, h''⟩ := ih h' hends
    rw [List.append_assoc, List.singleton_append] at h''
    exact ⟨files'', s'', (done_write record h.opened).bind hdone, h''⟩

end Kept

/-- **Rotation keeps a contiguous suffix.** Begin without log files and write any records to a writer
    that keeps at least one old file, and let no operation fail. Then all writes succeed. Each file
    consists of whole records, and the records of `path.keep`, ..., `path.1` and `path` in a row are
    the last ones that were written; so are their bytes, and they end with the last record. A file is
    longer than the limit only if it holds one record or none. There is no file beyond `path.keep`,
    and the writer's size is the length of `path`. -/
theorem rotation_keeps_suffix (w : RotatingWriter) (maxBytes keep : Int) (hkeep : 1 ≤ keep)
    (records : List Bytes) :
    ∃ s files, Done (newRotatingWriter maxBytes keep >>= fun _ => writes records) ⟨w, fun _ => none⟩
        () s ∧
      (∀ i, (s.disk i).getD [] = (files i).flatten) ∧
      oldestFirst files keep.toNat <:+ records ∧
      oldestFirst (fun i => (s.disk i).getD []) keep.toNat <:+ records.flatten ∧
      (∀ record, records.getLast? = some record → record <:+ (s.disk 0).getD []) ∧
      (∀ i, ((s.disk i).getD []).length ≤ maxBytes ∨ (files i).length ≤ 1) ∧
      (∀ i, keep.toNat < i → s.disk i = none) ∧
      s.memory.size = ((s.disk 0).getD []).length := by
  have hnew : Done (newRotatingWriter maxBytes keep) ⟨w, fun _ => none⟩ ()
      (Opened ⟨⟨maxBytes, keep, false, 0⟩, fun _ => none⟩) :=
    (needs_update _ _).done.bind (needs_openLog _).done
  have hempty := @kept_new maxBytes keep ⟨⟨maxBytes, keep, false, 0⟩, fun _ => none⟩ (fun _ => rfl) rfl
  obtain ⟨files, s, hdone, hkept, hlast⟩ := hempty.writes hkeep records nofun
  rw [List.nil_append] at hkept hlast
  have hall : ∀ i, (s.disk i).getD [] = (files i).flatten := by
    intro i
    cases i with
    | zero =>
      rw [hkept.current]
      rfl
    | succ i => exact hkept.rotated i
  refine ⟨s, files, hnew.bind hdone, hall, hkept.suffix, ?_, fun record hrecord => ?_, fun i => ?_,
    fun i hi => (hkept.beyond i hi).1, ?_⟩
  · obtain ⟨dropped, hdropped⟩ := hkept.suffix
    refine ⟨dropped.flatten, ?_⟩
    rw [oldestFirst_congr fun i _ => hall i, ← flatten_oldestFirst, ← List.flatten_append, hdropped]
  · obtain ⟨before, hbefore⟩ := hlast record hrecord
    rw [hall, hbefore]
    exact ⟨before.flatten, by simp⟩
  · rw [hall]
    exact hkept.short i
  · rw [hall]
    exact hkept.size

/-- Three records, of which two fit together. -/
theorem rotation_keeps_two :
    ∃ s files, Done (newRotatingWriter 4 1 >>= fun _ => writes [[1, 2, 3], [4, 5], [6, 7]])
        ⟨⟨0, 0, false, 0⟩, fun _ => none⟩ () s ∧ oldestFirst files 1 <:+ [[1, 2, 3], [4, 5], [6, 7]] ∧
      ∀ i, (s.disk i).getD [] = (files i).flatten := by
  obtain ⟨s, files, hdone, hall, hsuffix, _⟩ :=
    rotation_keeps_suffix ⟨0, 0, false, 0⟩ 4 1 (by decide) [[1, 2, 3], [4, 5], [6, 7]]
  exact ⟨s, files, hdone, hsuffix, hall⟩

/-- With a negative limit the empty file of the beginning is rotated, and is longer than the limit
    without holding a record. -/
theorem negative_limit :
    ∃ s, Done (newRotatingWriter (-1) 1 >>= fun _ => writes [[1]]) ⟨⟨0, 0, false, 0⟩, fun _ => none⟩
        () s ∧
      s.disk 1 = some [] ∧ (-1 : Int) < ([] : Bytes).length ∧ ([] : Bytes) ∉ ([[1]] : List Bytes) :=
  ⟨_, rfl, by decide +kernel, by decide, by decide⟩

end LnProxy.Logging
