import LnProxy.Lib.Files
import LnProxy.Lib.Paths

set_option autoImplicit false

/-! # Files and directories under paths

Programs of file operations on a tree that holds files and directories, with paths to name them.
Whether an operation succeeds is for the plan to say, and the tree holds what comes of it: making
directories fills the places that are empty, and a write puts a file in its place.

`Leaves` says of a program what it does not touch. `Smooth` is a program that succeeds when its
operations do. -/

namespace Files

inductive Entry where
  | file (data : List UInt8)
  | directory
  deriving DecidableEq, Repr

variable {μ Loc ε α β : Type} [DecidableEq Loc]

section Operations

variable (paths : Paths.System Loc)

/-- Make a directory of each place that is empty. -/
def State.create (s : State μ Loc Entry) (places : List Loc) : State μ Loc Entry :=
  { s with
    disk := fun place =>
      if place ∈ places ∧ s.disk place = none then some .directory else s.disk place }

/-- How much a failed operation has done. -/
def Fault.amount (fault : Fault Entry ε) : Nat :=
  match fault.left with
  | some (.file data) => data.length
  | _ => 0

/-- `os.MkdirAll`; one that fails may have made the upper directories. -/
def mkdirAll (path : Paths.Path) : Program μ Loc Entry ε Unit :=
  operation (fun s => s.create (paths.ancestors (paths.locate path))) fun fault s =>
    s.create ((paths.ancestors (paths.locate path)).take fault.amount)

/-- `os.Stat` -/
def stat (path : Paths.Path) : Program μ Loc Entry ε Entry := readFile (paths.locate path)

/-- Replace the file at the path: write `path + suffix`, change its mode, and rename it. -/
def replaceAt (suffix : Paths.Path) (chmod : Program μ Loc Entry ε Unit) (path : Paths.Path)
    (data : List UInt8) : Program μ Loc Entry ε Unit :=
  replaceFile chmod (paths.locate path) (paths.locate (path ++ suffix)) (.file data)

end Operations

/-! ## What is left alone -/

/-- What is at the place stays there. -/
abbrev Leaves (place : Loc) (found : Option Entry) (p : Program μ Loc Entry ε α) : Prop :=
  Maintains (fun s => s.disk place = found) p

section Leaves

variable {paths : Paths.System Loc} {place : Loc} {found : Option Entry} {path suffix : Paths.Path}

theorem create_disk {s : State μ Loc Entry} {places : List Loc} (h : s.disk place = found)
    (hempty : found = none → place ∉ places) : (s.create places).disk place = found := by
  unfold State.create
  by_cases hcreate : place ∈ places ∧ s.disk place = none
  · exact absurd hcreate.1 (hempty (h.symm.trans hcreate.2))
  · simp only [if_neg hcreate]
    exact h

/-- Making directories leaves what is there, and what is elsewhere. -/
theorem leaves_mkdirAll (h : found = none → place ∉ paths.ancestors (paths.locate path)) :
    Leaves place found (mkdirAll paths path : Program μ Loc Entry ε Unit) :=
  .operation (fun _ hs => create_disk hs h) fun _ _ hs =>
    create_disk hs fun hnone hmem => h hnone (List.mem_of_mem_take hmem)

theorem leaves_writeFile {temp : Loc} (hne : place ≠ temp) (value : Entry) :
    Leaves place found (writeFile temp value : Program μ Loc Entry ε Unit) := by
  have hset : ∀ (s : State μ Loc Entry) (value : Entry), s.disk place = found →
      (s.set temp (some value)).disk place = found := fun s value hs =>
    (s.set_disk_of_ne _ hne).trans hs
  refine .operation (fun s hs => hset s value hs) fun fault s hs => ?_
  cases fault.left with
  | none => exact hs
  | some left => exact hset s left hs

theorem leaves_remove {temp : Loc} (hne : place ≠ temp) :
    Leaves place found (remove temp : Program μ Loc Entry ε Unit) :=
  .operation (fun s hs => (s.set_disk_of_ne _ hne).trans hs) fun _ _ hs => hs

theorem Maintains.orRemove {temp : Loc} {p : Program μ Loc Entry ε Unit} (hne : place ≠ temp)
    (h : Leaves place found p) : Leaves place found (Files.orRemove temp p) :=
  h.handle fun failure => (leaves_remove hne).ignoring.bind fun _ => maintains_fail failure

theorem leaves_replaceAt {chmod : Program μ Loc Entry ε Unit} (hchmod : Quiet chmod)
    (hne : place ≠ paths.locate path) (htemp : place ≠ paths.locate (path ++ suffix))
    (data : List UInt8) : Leaves place found (replaceAt paths suffix chmod path data) := by
  have hrename : Leaves place found (rename (paths.locate (path ++ suffix)) (paths.locate path) :
      Program μ Loc Entry ε Unit) := .rename fun s value hs =>
    (State.set_disk_of_ne _ _ hne).trans ((s.set_disk_of_ne _ htemp).trans hs)
  exact (leaves_writeFile htemp _).bind fun _ =>
    (Maintains.orRemove htemp hchmod.maintains).bind fun _ => hrename.orRemove htemp

/-- The file that is replaced: it has its new contents, or is as it was. -/
theorem triple_replaceAt {chmod : Program μ Loc Entry ε Unit} (hchmod : Quiet chmod)
    (htemp : paths.locate path ≠ paths.locate (path ++ suffix)) (data : List UInt8) :
    Triple (fun s => s.disk (paths.locate path) = found) (replaceAt paths suffix chmod path data)
      (fun _ s => s.disk (paths.locate path) = some (.file data))
      (Fails fun s => s.disk (paths.locate path) = found) := by
  intro m hm
  have htriple := triple_replaceFile hchmod (paths.locate path) (paths.locate (path ++ suffix))
    (.file data) m.toState
  refine htriple.consequence (fun _ hs => hs) (fun _ s hs => ?_) (Fails.mono fun s hs => ?_) m rfl
  · obtain ⟨s', _, rfl⟩ := hs
    exact State.set_disk_self ..
  · exact (hs.2 _ htemp).trans hm

end Leaves

/-! ## Programs that succeed -/

/-- The program comes to a value when no operation fails. -/
def Smooth (p : Program μ Loc Entry ε α) : Prop := ∀ s, ∃ a s', Done p s a s'

section Smooth

variable {p : Program μ Loc Entry ε α} {f : α → Program μ Loc Entry ε β}

omit [DecidableEq Loc] in
theorem Smooth.bind (hp : Smooth p) (hf : ∀ a, Smooth (f a)) : Smooth (p >>= f) := by
  intro s
  obtain ⟨a, s', hdone⟩ := hp s
  obtain ⟨b, s'', hdone'⟩ := hf a s'
  exact ⟨b, s'', hdone.bind hdone'⟩

omit [DecidableEq Loc] in
theorem smooth_pure (a : α) : Smooth (pure a : Program μ Loc Entry ε α) := fun s =>
  ⟨a, s, (needs_pure a s).done⟩

omit [DecidableEq Loc] in
theorem smooth_operation (done : State μ Loc Entry → State μ Loc Entry)
    (failed : Fault Entry ε → State μ Loc Entry → State μ Loc Entry) :
    Smooth (operation done failed) := fun s => ⟨(), done s, (needs_operation done failed s).done⟩

omit [DecidableEq Loc] in
theorem Smooth.handle (hp : Smooth p) (handler : Failure ε → Program μ Loc Entry ε α) :
    Smooth (Files.handle p handler) := by
  intro s
  obtain ⟨a, s', hdone⟩ := hp s
  exact ⟨a, s', hdone.handle handler⟩

theorem smooth_replaceFile {chmod : Program μ Loc Entry ε Unit} (hchmod : ∀ s, Done chmod s () s)
    (path temp : Loc) (value : Entry) : Smooth (replaceFile chmod path temp value) := by
  intro s
  have hwrite : Done (writeFile temp value : Program μ Loc Entry ε Unit) s ()
      (s.set temp (some value)) := (needs_operation _ _ s).done
  have hrename : Done (rename temp path : Program μ Loc Entry ε Unit) (s.set temp (some value)) () _ :=
    (needs_rename (State.set_disk_self ..)).done
  exact ⟨(), _, hwrite.bind (((hchmod _).handle _).bind (hrename.handle _))⟩

end Smooth

end Files
