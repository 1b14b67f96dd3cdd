import Mathlib.Logic.Function.Basic

set_option autoImplicit false

/-! # Programs of file operations that may fail

A program works on files and on a memory of its own. It comes to a value, to an error or to a panic,
and keeps in each case what it has done so far. The outcome of each operation is taken from a plan:
the operation succeeds, or it fails with an error, and a write that fails may leave anything in its
file.

`Triple` says what holds after a program for every plan, `Needs` counts the operations that must
succeed, and `Done` is a run in which all do. Each operation has its rules, and programs are put
together from them. -/

namespace Files

variable {μ π ν ε α β : Type}

/-- How an operation fails. -/
inductive Failure (ε : Type) where
  | notExist
  | error (err : ε)
  deriving DecidableEq, Repr

/-- How a program stops without a value. -/
inductive Stop (ε : Type) where
  | failed (failure : Failure ε)
  | panicked
  deriving DecidableEq, Repr

/-- A failure, and what a write leaves in its file if it has come to touch it. -/
structure Fault (ν ε : Type) where
  failure : Failure ε
  left : Option ν
  deriving DecidableEq, Repr

structure State (μ π ν : Type) where
  memory : μ
  disk : π → Option ν

structure Machine (μ π ν ε : Type) extends State μ π ν where
  /-- The outcomes of the operations to come. Those after its end succeed. -/
  plan : List (Option (Fault ν ε))

abbrev Program (μ π ν ε α : Type) : Type := EStateM (Stop ε) (Machine μ π ν ε) α

/-! ## Operations -/

def fail (failure : Failure ε) : Program μ π ν ε α := throw (.failed failure)

/-- An operation takes the next outcome of the plan. -/
def operation (done : State μ π ν → State μ π ν)
    (failed : Fault ν ε → State μ π ν → State μ π ν) : Program μ π ν ε Unit := fun m =>
  match m.plan.head?.join with
  | none => .ok () ⟨done m.toState, m.plan.tail⟩
  | some fault => .error (.failed fault.failure) ⟨failed fault m.toState, m.plan.tail⟩

/-- An operation that changes no file. -/
def call : Program μ π ν ε Unit := operation id fun _ => id

def getMemory : Program μ π ν ε μ := fun m => .ok m.memory m

/-- A change that is no operation and cannot fail. -/
def update (f : State μ π ν → State μ π ν) : Program μ π ν ε Unit := fun m =>
  .ok () ⟨f m.toState, m.plan⟩

def setMemory (memory : μ) : Program μ π ν ε Unit := update fun s => { s with memory := memory }

/-- What the path holds. -/
def contents (path : π) : Program μ π ν ε (Option ν) := fun m => .ok (m.disk path) m

/-- Go on with the handler after an error. -/
def handle (p : Program μ π ν ε α) (handler : Failure ε → Program μ π ν ε α) :
    Program μ π ν ε α := fun m =>
  match p m with
  | .error (.failed failure) m' => handler failure m'
  | result => result

/-- Take the error of a program as a value. -/
def attempt (p : Program μ π ν ε α) : Program μ π ν ε (Except (Failure ε) α) := fun m =>
  match p m with
  | .ok a m' => .ok (.ok a) m'
  | .error (.failed failure) m' => .ok (.error failure) m'
  | .error .panicked m' => .error .panicked m'

/-- Drop the error of a program. -/
def ignoring (p : Program μ π ν ε Unit) : Program μ π ν ε Unit := handle p fun _ => pure ()

def readFile (path : π) : Program μ π ν ε ν := do
  call
  match ← contents path with
  | none => fail .notExist
  | some value => pure value

section Writing

variable [DecidableEq π]

def State.set (s : State μ π ν) (path : π) (value : Option ν) : State μ π ν :=
  { s with disk := Function.update s.disk path value }

def writeFile (path : π) (value : ν) : Program μ π ν ε Unit :=
  operation (fun s => s.set path (some value)) fun fault s =>
    match fault.left with
    | none => s
    | some value => s.set path (some value)

def remove (path : π) : Program μ π ν ε Unit := operation (fun s => s.set path none) fun _ => id

def rename (old new : π) : Program μ π ν ε Unit := do
  call
  match ← contents old with
  | none => fail .notExist
  | some value => update fun s => (s.set old none).set new (some value)

/-- Remove the file if the program fails. -/
def orRemove (path : π) (p : Program μ π ν ε Unit) : Program μ π ν ε Unit :=
  handle p fun failure => do
    ignoring (remove path)
    fail failure

/-- Replace a file: write another one, change its mode, and rename it. -/
def replaceFile (chmod : Program μ π ν ε Unit) (path temp : π) (value : ν) :
    Program μ π ν ε Unit := do
  writeFile temp value
  orRemove temp chmod
  orRemove temp (rename temp path)

end Writing

/-! ## Triples -/

/-- `Q` holds of a value and the state with it, `E` where the program has stopped. -/
def Holds (Q : α → State μ π ν → Prop) (E : Stop ε → State μ π ν → Prop) :
    EStateM.Result (Stop ε) (Machine μ π ν ε) α → Prop
  | .ok a m => Q a m.toState
  | .error stop m => E stop m.toState

/-- What a program comes to for every plan. -/
def Triple (P : State μ π ν → Prop) (p : Program μ π ν ε α) (Q : α → State μ π ν → Prop)
    (E : Stop ε → State μ π ν → Prop) : Prop :=
  ∀ m : Machine μ π ν ε, P m.toState → Holds Q E (p m)

section Rules

variable {P P' : State μ π ν → Prop} {Q Q' : α → State μ π ν → Prop} {R : β → State μ π ν → Prop}
  {E E' : Stop ε → State μ π ν → Prop} {p : Program μ π ν ε α} {f : α → Program μ π ν ε β}
  {m m' : Machine μ π ν ε} {a : α} {stop : Stop ε}

theorem Triple.of_ok (h : Triple P p Q E) (hm : P m.toState) (hrun : p m = .ok a m') :
    Q a m'.toState := by
  have hpost := h m hm
  rwa [hrun] at hpost

theorem Triple.of_error (h : Triple P p Q E) (hm : P m.toState) (hrun : p m = .error stop m') :
    E stop m'.toState := by
  have hpost := h m hm
  rwa [hrun] at hpost

theorem Triple.consequence (h : Triple P p Q E) (hP : ∀ s, P' s → P s) (hQ : ∀ a s, Q a s → Q' a s)
    (hE : ∀ stop s, E stop s → E' stop s) : Triple P' p Q' E' := by
  intro m hm
  have hpost := h m (hP _ hm)
  cases hrun : p m with
  | ok a m' =>
    rw [hrun] at hpost
    exact hQ a _ hpost
  | error stop m' =>
    rw [hrun] at hpost
    exact hE stop _ hpost

theorem Triple.pure (h : ∀ s, P s → Q a s) :
    Triple P (Pure.pure a : Program μ π ν ε α) Q E := fun m hm => h m.toState hm

theorem Triple.fail {failure : Failure ε} (h : ∀ s, P s → E (.failed failure) s) :
    Triple P (Files.fail failure : Program μ π ν ε α) Q E := fun m hm => h m.toState hm

theorem Triple.bind (hp : Triple P p Q E) (hf : ∀ a, Triple (Q a) (f a) R E) :
    Triple P (p >>= f) R E := by
  intro m hm
  have hpost := hp m hm
  show Holds R E (EStateM.bind p f m)
  unfold EStateM.bind
  cases hrun : p m with
  | ok a m' =>
    rw [hrun] at hpost
    exact hf a m' hpost
  | error stop m' =>
    rw [hrun] at hpost
    exact hpost

theorem Triple.operation {done : State μ π ν → State μ π ν}
    {failed : Fault ν ε → State μ π ν → State μ π ν} {Q : Unit → State μ π ν → Prop}
    (hdone : ∀ s, P s → Q () (done s))
    (hfailed : ∀ fault s, P s → E (.failed fault.failure) (failed fault s)) :
    Triple P (Files.operation done failed) Q E := by
  intro m hm
  unfold Files.operation
  cases m.plan.head?.join with
  | none => exact hdone m.toState hm
  | some fault => exact hfailed fault m.toState hm

theorem Triple.call {Q : Unit → State μ π ν → Prop} (hdone : ∀ s, P s → Q () s)
    (hfailed : ∀ failure s, P s → E (.failed failure) s) :
    Triple P (Files.call : Program μ π ν ε Unit) Q E :=
  .operation hdone fun fault => hfailed fault.failure

theorem Triple.update {g : State μ π ν → State μ π ν} {Q : Unit → State μ π ν → Prop}
    (h : ∀ s, P s → Q () (g s)) : Triple P (Files.update g : Program μ π ν ε Unit) Q E :=
  fun m hm => h m.toState hm

theorem Triple.getMemory {Q : μ → State μ π ν → Prop} (h : ∀ s, P s → Q s.memory s) :
    Triple P (Files.getMemory : Program μ π ν ε μ) Q E := fun m hm => h m.toState hm

theorem Triple.contents {path : π} {Q : Option ν → State μ π ν → Prop}
    (h : ∀ s, P s → Q (s.disk path) s) :
    Triple P (Files.contents path : Program μ π ν ε (Option ν)) Q E :=
  fun m hm => h m.toState hm

/-- A panic is not handled. -/
theorem Triple.handle {handler : Failure ε → Program μ π ν ε α} (hp : Triple P p Q E')
    (hhandler : ∀ failure, Triple (E' (.failed failure)) (handler failure) Q E)
    (hpanic : ∀ s, E' .panicked s → E .panicked s) : Triple P (Files.handle p handler) Q E := by
  intro m hm
  have hpost := hp m hm
  unfold Files.handle
  cases hrun : p m with
  | ok a m' =>
    rw [hrun] at hpost
    exact hpost
  | error stop m' =>
    rw [hrun] at hpost
    cases stop with
    | failed failure => exact hhandler failure m' hpost
    | panicked => exact hpanic _ hpost

end Rules

/-- What holds where the program comes to a value. -/
def Ensures (P : State μ π ν → Prop) (p : Program μ π ν ε α) (Q : α → State μ π ν → Prop) : Prop :=
  Triple P p Q fun _ _ => True

section Ensures

variable {P P' : State μ π ν → Prop} {Q Q' : α → State μ π ν → Prop} {R : β → State μ π ν → Prop}
  {E : Stop ε → State μ π ν → Prop} {p : Program μ π ν ε α} {f : α → Program μ π ν ε β}

theorem Triple.ensures (h : Triple P p Q E) : Ensures P p Q :=
  h.consequence (fun _ hs => hs) (fun _ _ hs => hs) fun _ _ _ => trivial

theorem ensures_true (p : Program μ π ν ε α) : Ensures P p fun _ _ => True := by
  intro m _
  cases p m with
  | ok a m' => exact trivial
  | error stop m' => exact trivial

theorem Ensures.bind (hp : Ensures P p Q) (hf : ∀ a, Ensures (Q a) (f a) R) : Ensures P (p >>= f) R :=
  Triple.bind hp hf

theorem Ensures.and (h : Ensures P p Q) (h' : Ensures P' p Q') :
    Ensures (fun s => P s ∧ P' s) p fun a s => Q a s ∧ Q' a s := by
  intro m hm
  have hpost := h m hm.1
  have hpost' := h' m hm.2
  cases hrun : p m with
  | ok a m' =>
    rw [hrun] at hpost hpost'
    exact ⟨hpost, hpost'⟩
  | error stop m' => exact trivial

end Ensures

/-- The program has failed, and not by a panic, with `P` for what it leaves. -/
def Fails (P : State μ π ν → Prop) (stop : Stop ε) (s : State μ π ν) : Prop :=
  stop ≠ .panicked ∧ P s

theorem Fails.mono {P P' : State μ π ν → Prop} (hP : ∀ s, P s → P' s) (stop : Stop ε)
    (s : State μ π ν) (h : Fails P stop s) : Fails P' stop s := ⟨h.1, hP s h.2⟩

theorem fails_failed {P : State μ π ν → Prop} {failure : Failure ε} {s : State μ π ν} (h : P s) :
    Fails P (.failed failure) s := ⟨nofun, h⟩

/-- The program leaves memory and files as they are, and does not panic. -/
def Quiet (p : Program μ π ν ε α) : Prop :=
  ∀ s, Triple (· = s) p (fun _ => (· = s)) (Fails (· = s))

theorem quiet_call : Quiet (call : Program μ π ν ε Unit) := fun _ =>
  .call (fun _ h => h) fun _ _ h => fails_failed h

theorem quiet_pure (a : α) : Quiet (pure a : Program μ π ν ε α) := fun _ => .pure fun _ h => h

theorem Quiet.ignoring {p : Program μ π ν ε Unit} (h : Quiet p) : Quiet (Files.ignoring p) := by
  intro s
  refine .handle (h s) (fun failure => .pure fun t ht => ht.2) fun t ht => ?_
  exact absurd rfl ht.1

theorem Quiet.attempt {p : Program μ π ν ε α} (h : Quiet p) : Quiet (Files.attempt p) := by
  intro s m hm
  have hpost := h s m hm
  unfold Files.attempt
  cases hrun : p m with
  | ok a m' =>
    rw [hrun] at hpost
    exact hpost
  | error stop m' =>
    rw [hrun] at hpost
    cases stop with
    | failed failure => exact hpost.2
    | panicked => exact absurd rfl hpost.1

theorem Quiet.bind {p : Program μ π ν ε α} {f : α → Program μ π ν ε β} (hp : Quiet p)
    (hf : ∀ a, Quiet (f a)) : Quiet (p >>= f) := fun s => (hp s).bind fun a => hf a s

theorem quiet_fail (failure : Failure ε) : Quiet (fail failure : Program μ π ν ε α) := fun _ =>
  .fail fun _ h => fails_failed h

theorem quiet_readFile (path : π) : Quiet (readFile path : Program μ π ν ε ν) := by
  refine quiet_call.bind fun _ => .bind (fun _ => .contents fun _ h => h) fun found => ?_
  cases found with
  | none => exact quiet_fail _
  | some value => exact quiet_pure value

/-- Whatever holds before a quiet program holds after it. -/
theorem Quiet.triple {p : Program μ π ν ε α} (h : Quiet p) {P : State μ π ν → Prop} :
    Triple P p (fun _ => P) (Fails P) := by
  intro m hm
  refine (h m.toState).consequence (fun _ ht => ht) ?_ ?_ m rfl
  · intro a t ht
    show P t
    rw [ht]
    exact hm
  · intro stop t ht
    refine ⟨ht.1, ?_⟩
    rw [ht.2]
    exact hm

/-- The program keeps `P`, whether it fails or not, and does not panic. -/
def Maintains (P : State μ π ν → Prop) (p : Program μ π ν ε α) : Prop :=
  Triple P p (fun _ => P) (Fails P)

section Maintains

variable {P : State μ π ν → Prop} {p : Program μ π ν ε α} {f : α → Program μ π ν ε β}

theorem Quiet.maintains (h : Quiet p) : Maintains P p := h.triple

theorem Maintains.bind (hp : Maintains P p) (hf : ∀ a, Maintains P (f a)) : Maintains P (p >>= f) :=
  Triple.bind hp hf

theorem maintains_fail (failure : Failure ε) : Maintains P (fail failure : Program μ π ν ε α) :=
  .fail fun _ hs => fails_failed hs

theorem maintains_contents (path : π) : Maintains P (contents path : Program μ π ν ε (Option ν)) :=
  .contents fun _ hs => hs

theorem Maintains.operation {done : State μ π ν → State μ π ν}
    {failed : Fault ν ε → State μ π ν → State μ π ν} (hdone : ∀ s, P s → P (done s))
    (hfailed : ∀ fault s, P s → P (failed fault s)) : Maintains P (Files.operation done failed) :=
  Triple.operation hdone fun fault s hs => fails_failed (hfailed fault s hs)

theorem Maintains.handle {handler : Failure ε → Program μ π ν ε α} (hp : Maintains P p)
    (hhandler : ∀ failure, Maintains P (handler failure)) : Maintains P (Files.handle p handler) :=
  Triple.handle hp (fun failure m hm => hhandler failure m hm.2) fun _ hs => absurd rfl hs.1

theorem Maintains.ignoring {p : Program μ π ν ε Unit} (h : Maintains P p) :
    Maintains P (Files.ignoring p) := h.handle fun _ => (quiet_pure ()).maintains

theorem Maintains.rename [DecidableEq π] {old new : π}
    (h : ∀ s value, P s → P ((s.set old none).set new (some value))) :
    Maintains P (Files.rename old new : Program μ π ν ε Unit) := by
  refine quiet_call.maintains.bind fun _ => (maintains_contents old).bind fun found => ?_
  cases found with
  | none => exact maintains_fail _
  | some value => exact .update fun s hs => h s value hs

end Maintains

/-- The two states agree but for the file at `temp`. -/
def SameBut (temp : π) (s t : State μ π ν) : Prop :=
  t.memory = s.memory ∧ ∀ path, path ≠ temp → t.disk path = s.disk path

theorem SameBut.refl (temp : π) (s : State μ π ν) : SameBut temp s s := ⟨rfl, fun _ _ => rfl⟩

section Writing

variable [DecidableEq π]

@[simp] theorem State.set_disk_self (s : State μ π ν) (path : π) (value : Option ν) :
    (s.set path value).disk path = value := Function.update_self ..

theorem State.set_disk_of_ne (s : State μ π ν) {path other : π} (value : Option ν)
    (h : other ≠ path) : (s.set path value).disk other = s.disk other := Function.update_of_ne h ..

theorem SameBut.set {temp : π} {s t : State μ π ν} (h : SameBut temp s t) (value : Option ν) :
    SameBut temp s (t.set temp value) :=
  ⟨h.1, fun path hne => (t.set_disk_of_ne value hne).trans (h.2 path hne)⟩

theorem triple_writeFile (temp : π) (value : ν) (s : State μ π ν) :
    Triple (SameBut temp s) (writeFile temp value : Program μ π ν ε Unit)
      (fun _ t => SameBut temp s t ∧ t.disk temp = some value) (Fails (SameBut temp s)) := by
  refine .operation (fun t ht => ⟨ht.set _, t.set_disk_self temp _⟩) fun fault t ht =>
    fails_failed ?_
  cases fault.left with
  | none => exact ht
  | some left => exact ht.set _

theorem triple_remove (temp : π) (s : State μ π ν) :
    Triple (SameBut temp s) (remove temp : Program μ π ν ε Unit) (fun _ => SameBut temp s)
      (Fails (SameBut temp s)) :=
  .operation (fun _ ht => ht.set none) fun _ _ ht => fails_failed ht

/-- A file that exists is renamed, or all is as before. -/
theorem triple_rename {old new : π} {value : ν} {P : State μ π ν → Prop}
    (h : ∀ t, P t → t.disk old = some value) :
    Triple P (rename old new : Program μ π ν ε Unit)
      (fun _ t => ∃ t', P t' ∧ t = (t'.set old none).set new (some value)) (Fails P) := by
  refine .bind quiet_call.triple fun _ => ?_
  have hcontents : Triple P (contents old : Program μ π ν ε (Option ν))
      (fun found t => P t ∧ found = some value) (Fails P) := .contents fun t ht => ⟨ht, h t ht⟩
  refine .bind hcontents fun found => ?_
  cases found with
  | none => exact .fail fun t ht => fails_failed ht.1
  | some found =>
    refine .update fun t ht => ⟨t, ht.1, ?_⟩
    rw [Option.some.inj ht.2]

theorem triple_orRemove {temp : π} {s : State μ π ν} {p : Program μ π ν ε Unit}
    {P : State μ π ν → Prop} {Q : Unit → State μ π ν → Prop}
    (h : Triple P p Q (Fails (SameBut temp s))) :
    Triple P (orRemove temp p) Q (Fails (SameBut temp s)) := by
  have hremove : Triple (SameBut temp s) (ignoring (remove temp) : Program μ π ν ε Unit)
      (fun _ => SameBut temp s) (Fails (SameBut temp s)) :=
    .handle (triple_remove temp s) (fun _ => .pure fun t ht => ht.2) fun t ht => ht
  refine .handle h (fun failure => .bind (hremove.consequence (fun t ht => ht.2) (fun _ _ ht => ht)
    fun _ _ ht => ht) fun _ => .fail fun t ht => fails_failed ht) fun t ht => ht

/-- **Replacing a file is all or nothing**: the file has its new contents and the temporary one is
    gone, or every file is as before, the temporary one apart. -/
theorem triple_replaceFile {chmod : Program μ π ν ε Unit} (hchmod : Quiet chmod) (path temp : π)
    (value : ν) (s : State μ π ν) :
    Triple (· = s) (replaceFile chmod path temp value)
      (fun _ t => ∃ t', SameBut temp s t' ∧ t = (t'.set temp none).set path (some value))
      (Fails (SameBut temp s)) := by
  have hwrite : Triple (· = s) (writeFile temp value : Program μ π ν ε Unit)
      (fun _ t => SameBut temp s t ∧ t.disk temp = some value) (Fails (SameBut temp s)) := by
    refine (triple_writeFile temp value s).consequence ?_ (fun _ _ h => h) fun _ _ h => h
    intro t ht
    rw [ht]
    exact SameBut.refl temp s
  have hmode : Triple (fun t => SameBut temp s t ∧ t.disk temp = some value) (orRemove temp chmod)
      (fun _ t => SameBut temp s t ∧ t.disk temp = some value) (Fails (SameBut temp s)) :=
    triple_orRemove (hchmod.triple.consequence (fun _ h => h) (fun _ _ h => h)
      (Fails.mono fun _ h => h.1))
  refine hwrite.bind fun _ => hmode.bind fun _ => triple_orRemove ?_
  refine (triple_rename fun t ht => ht.2).consequence (fun _ h => h) ?_ (Fails.mono fun _ h => h.1)
  intro _ t ht
  obtain ⟨t', ht', ht⟩ := ht
  exact ⟨t', ht'.1, ht⟩

end Writing

/-! ## Counting operations -/

/-- The program makes `n` operations and fails if one of them does; otherwise it comes to `a` and
    `s'`. -/
structure Needs (n : Nat) (p : Program μ π ν ε α) (s : State μ π ν) (a : α) (s' : State μ π ν) :
    Prop where
  ok : ∀ plan, (∀ outcome ∈ plan.take n, outcome = none) → p ⟨s, plan⟩ = .ok a ⟨s', plan.drop n⟩
  error : ∀ plan, (∃ outcome ∈ plan.take n, outcome ≠ none) → ∃ stop m, p ⟨s, plan⟩ = .error stop m

section Needs

variable {p : Program μ π ν ε α} {f : α → Program μ π ν ε β} {s s' s'' : State μ π ν} {a : α} {b : β}
  {n k : Nat}

theorem bind_ok {m m' : Machine μ π ν ε} (h : p m = .ok a m') : (p >>= f) m = f a m' := by
  show EStateM.bind p f m = f a m'
  unfold EStateM.bind
  rw [h]

theorem bind_error {m m' : Machine μ π ν ε} {stop : Stop ε} (h : p m = .error stop m') :
    (p >>= f) m = .error stop m' := by
  show EStateM.bind p f m = .error stop m'
  unfold EStateM.bind
  rw [h]

/-- A sequence that has come to a value, taken apart. -/
theorem of_bind_ok {m m'' : Machine μ π ν ε} (h : (p >>= f) m = .ok b m'') :
    ∃ a m', p m = .ok a m' ∧ f a m' = .ok b m'' := by
  cases hrun : p m with
  | ok a m' => exact ⟨a, m', rfl, (bind_ok hrun).symm.trans h⟩
  | error stop m' =>
    rw [bind_error hrun] at h
    cases h

theorem attempt_ok {m m' : Machine μ π ν ε} (h : p m = .ok a m') : attempt p m = .ok (.ok a) m' := by
  unfold attempt
  rw [h]

theorem Needs.error_iff (h : Needs n p s a s') (plan : List (Option (Fault ν ε))) :
    (∃ stop m, p ⟨s, plan⟩ = .error stop m) ↔ ∃ outcome ∈ plan.take n, outcome ≠ none := by
  refine ⟨fun ⟨stop, m, hrun⟩ => ?_, h.error plan⟩
  by_contra hnone
  rw [h.ok plan (by simpa using hnone)] at hrun
  cases hrun

theorem Needs.bind (hp : Needs n p s a s') (hf : Needs k (f a) s' b s'') :
    Needs (n + k) (p >>= f) s b s'' where
  ok := by
    intro plan hplan
    rw [List.take_add] at hplan
    have hfirst := hp.ok plan fun outcome h => hplan outcome (List.mem_append_left _ h)
    rw [bind_ok hfirst, hf.ok _ fun outcome h => hplan outcome (List.mem_append_right _ h),
      List.drop_drop]
  error := by
    intro plan hplan
    by_cases hfirst : ∀ outcome ∈ plan.take n, outcome = none
    · obtain ⟨outcome, hmem, hne⟩ := hplan
      rw [List.take_add, List.mem_append] at hmem
      rcases hmem with hmem | hmem
      · exact absurd (hfirst outcome hmem) hne
      · rw [bind_ok (hp.ok plan hfirst)]
        exact hf.error _ ⟨outcome, hmem, hne⟩
    · have hfault : ∃ outcome ∈ plan.take n, outcome ≠ none := by simpa using hfirst
      obtain ⟨stop, m, hrun⟩ := hp.error plan hfault
      exact ⟨stop, m, bind_error hrun⟩

/-- Without a failure the program comes to `a` and `s'`. -/
def Done (p : Program μ π ν ε α) (s : State μ π ν) (a : α) (s' : State μ π ν) : Prop :=
  p ⟨s, []⟩ = .ok a ⟨s', []⟩

theorem Needs.done (h : Needs n p s a s') : Done p s a s' := by
  have hok := h.ok [] (by simp)
  rwa [List.drop_nil] at hok

theorem Done.bind (hp : Done p s a s') (hf : Done (f a) s' b s'') : Done (p >>= f) s b s'' :=
  (bind_ok hp).trans hf

theorem Done.handle (handler : Failure ε → Program μ π ν ε α) (h : Done p s a s') :
    Done (Files.handle p handler) s a s' := by
  unfold Done Files.handle
  rw [h]

theorem needs_pure (a : α) (s : State μ π ν) : Needs 0 (pure a : Program μ π ν ε α) s a s where
  ok := fun _ _ => rfl
  error := by
    intro plan hplan
    simp at hplan

theorem needs_update (g : State μ π ν → State μ π ν) (s : State μ π ν) :
    Needs 0 (update g : Program μ π ν ε Unit) s () (g s) where
  ok := fun _ _ => rfl
  error := by
    intro plan hplan
    simp at hplan

theorem needs_getMemory (s : State μ π ν) :
    Needs 0 (getMemory : Program μ π ν ε μ) s s.memory s where
  ok := fun _ _ => rfl
  error := by
    intro plan hplan
    simp at hplan

theorem needs_contents (path : π) (s : State μ π ν) :
    Needs 0 (contents path : Program μ π ν ε (Option ν)) s (s.disk path) s where
  ok := fun _ _ => rfl
  error := by
    intro plan hplan
    simp at hplan

theorem needs_operation (done : State μ π ν → State μ π ν)
    (failed : Fault ν ε → State μ π ν → State μ π ν) (s : State μ π ν) :
    Needs 1 (operation done failed) s () (done s) where
  ok := by
    intro plan hplan
    cases plan with
    | nil => rfl
    | cons outcome plan =>
      obtain rfl : outcome = none := hplan outcome (by simp)
      rfl
  error := by
    intro plan hplan
    obtain ⟨outcome, hmem, hne⟩ := hplan
    cases plan with
    | nil => cases hmem
    | cons first plan =>
      obtain rfl : outcome = first := by simpa using hmem
      cases outcome with
      | none => exact absurd rfl hne
      | some fault => exact ⟨_, _, rfl⟩

theorem needs_call (s : State μ π ν) : Needs 1 (call : Program μ π ν ε Unit) s () s :=
  needs_operation id _ s

theorem needs_readFile {path : π} {value : ν} (h : s.disk path = some value) :
    Needs 1 (readFile path : Program μ π ν ε ν) s value s := by
  show Needs (1 + (0 + 0)) (call >>= fun _ => contents path >>= _) s value s
  refine (needs_call s).bind ((needs_contents path s).bind ?_)
  rw [h]
  exact needs_pure value s

theorem readFile_missing {path : π} (h : s.disk path = none) (plan : List (Option (Fault ν ε))) :
    ∃ failure, (readFile path : Program μ π ν ε ν) ⟨s, plan⟩ = .error (.failed failure) ⟨s, plan.tail⟩ := by
  have hfound : ∀ m : Machine μ π ν ε, m.disk path = none →
      (contents path >>= fun found => match found with
        | none => fail .notExist
        | some value => pure value : Program μ π ν ε ν) m = .error (.failed .notExist) m := by
    intro m hm
    show (match m.disk path with
      | none => fail .notExist
      | some value => pure value : Program μ π ν ε ν) m = _
    rw [hm]
    rfl
  match plan with
  | [] => exact ⟨_, hfound _ h⟩
  | none :: plan => exact ⟨_, hfound _ h⟩
  | some fault :: plan => exact ⟨_, rfl⟩

/-- A handler that fails itself does not change what is needed. -/
theorem Needs.handle {handler : Failure ε → Program μ π ν ε α} (hp : Needs n p s a s')
    (hhandler : ∀ failure m, ∃ stop m', handler failure m = .error stop m') :
    Needs n (Files.handle p handler) s a s' where
  ok := by
    intro plan hplan
    unfold Files.handle
    rw [hp.ok plan hplan]
  error := by
    intro plan hplan
    obtain ⟨stop, m, hrun⟩ := hp.error plan hplan
    unfold Files.handle
    rw [hrun]
    cases stop with
    | failed failure => exact hhandler failure m
    | panicked => exact ⟨_, _, rfl⟩

variable [DecidableEq π]

theorem Needs.orRemove {p : Program μ π ν ε Unit} (hp : Needs n p s () s') (temp : π) :
    Needs n (Files.orRemove temp p) s () s' := by
  refine hp.handle fun failure m => ?_
  cases hrun : ignoring (remove temp) m with
  | ok a m' => exact ⟨_, _, bind_ok hrun⟩
  | error stop m' => exact ⟨_, _, bind_error hrun⟩

theorem needs_rename {old new : π} {value : ν} (h : s.disk old = some value) :
    Needs 1 (rename old new : Program μ π ν ε Unit) s ()
      ((s.set old none).set new (some value)) := by
  show Needs (1 + (0 + 0)) (call >>= fun _ => contents old >>= _) s () _
  refine (needs_call s).bind ((needs_contents old s).bind ?_)
  rw [h]
  exact needs_update _ s

theorem needs_replaceFile {chmod : Program μ π ν ε Unit} (hchmod : ∀ s, Needs n chmod s () s)
    (path temp : π) (value : ν) (s : State μ π ν) :
    Needs (1 + (n + 1)) (replaceFile chmod path temp value) s ()
      ((s.set temp none).set path (some value)) := by
  have hwrite : Needs 1 (writeFile temp value : Program μ π ν ε Unit) s () (s.set temp (some value)) :=
    needs_operation ..
  have hset : (s.set temp (some value)).set temp none = s.set temp none := by
    unfold State.set
    rw [Function.update_idem]
  refine hwrite.bind (((hchmod _).orRemove temp).bind ?_)
  rw [← hset]
  exact (needs_rename (State.set_disk_self ..)).orRemove temp

end Needs

end Files
