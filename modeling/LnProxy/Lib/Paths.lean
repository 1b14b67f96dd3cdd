import Mathlib.Data.List.Infix

set_option autoImplicit false

/-! # Paths

A path is a byte string that names a place in a file tree. Programs build paths with `join` and take
them apart with `dir`; what they rely on is that joining a plain name to a path names a file in the
directory that the path names. `System` says so for an arbitrary tree.

The paths of Unix are an instance. `clean` shortens a path without looking at the file tree, and
`locate` walks it from a working directory, in a tree without symbolic links. -/

namespace Paths

variable {rooted : Bool}

abbrev Path := List UInt8

/-- `/` -/
def slash : UInt8 := 47

/-- `.` -/
def dot : Path := [46]

/-- `..` -/
def dotdot : Path := [46, 46]

def isLetter (b : UInt8) : Bool := (65 ≤ b && b ≤ 90) || (97 ≤ b && b ≤ 122)

/-- A name of letters and dots that begins with a letter. -/
def Plain (name : Path) : Prop :=
  name.head?.any isLetter = true ∧ name.all (fun b => isLetter b || b == 46) = true

instance (name : Path) : Decidable (Plain name) := inferInstanceAs (Decidable (_ ∧ _))

/-- How paths name the places of a file tree. -/
structure System (Loc : Type) where
  locate : Path → Loc
  join : Path → Path → Path
  /-- The directory part of a path. -/
  dir : Path → Path
  child : Loc → Path → Loc
  /-- A place and the directories above it, from the top. -/
  ancestors : Loc → List Loc
  locate_join : ∀ d name, Plain name → locate (join d name) = child (locate d) name
  join_append : ∀ d name suffix, Plain name → Plain (name ++ suffix) →
    join d name ++ suffix = join d (name ++ suffix)
  join_ne_nil : ∀ d name, Plain name → join d name ≠ []
  child_inj : ∀ a b m n, child a m = child b n → a = b ∧ m = n

/-! ## Unix -/

def isRooted (path : Path) : Bool := path.head? == some slash

/-- A component that leads nowhere. -/
def Idle (c : Path) : Prop := c = [] ∨ c = dot

instance (c : Path) : Decidable (Idle c) := inferInstanceAs (Decidable (_ ∨ _))

/-- Follow one component; a place is the list of its names, the last one first. -/
def walk (place : List Path) (c : Path) : List Path :=
  if Idle c then place else if c = dotdot then place.tail else c :: place

def locate (cwd : List Path) (path : Path) : List Path :=
  (path.splitOn slash).foldl walk (if isRooted path then [] else cwd)

/-- The loop of `clean`, on the components that are kept so far, the last one first. -/
def keep (rooted : Bool) (kept : List Path) (c : Path) : List Path :=
  if Idle c then kept
  else if c = dotdot then
    match kept with
    | [] => if rooted then [] else [dotdot]
    | last :: rest => if last = dotdot then dotdot :: last :: rest else rest
  else c :: kept

/-- The path of the components, the last one first. -/
def render (rooted : Bool) (kept : List Path) : Path :=
  if rooted then slash :: [slash].intercalate kept.reverse
  else if kept = [] then dot else [slash].intercalate kept.reverse

/-- `filepath.Clean` -/
def clean (path : Path) : Path :=
  render (isRooted path) ((path.splitOn slash).foldl (keep (isRooted path)) [])

/-- `filepath.Join` of two -/
def join (d name : Path) : Path :=
  if d ≠ [] then clean (d ++ slash :: name) else if name ≠ [] then clean name else []

/-- `filepath.Dir` -/
def dir (path : Path) : Path := clean (path.reverse.dropWhile (· ≠ slash)).reverse

/-! ### Walking a clean path -/

/-- Walk the kept components. -/
def place (base : List Path) : List Path → List Path
  | [] => base
  | c :: kept => walk (place base kept) c

theorem foldl_walk_reverse (base kept : List Path) : kept.reverse.foldl walk base = place base kept := by
  induction kept with
  | nil => rfl
  | cons c kept ih =>
    rw [List.reverse_cons, List.foldl_append, ih]
    rfl

/-- What the loop does with one component. -/
inductive Keeps (rooted : Bool) : List Path → Path → List Path → Prop where
  | skip {kept : List Path} {c : Path} (h : Idle c) : Keeps rooted kept c kept
  | top (h : rooted = true) : Keeps rooted [] dotdot []
  | up {last : Path} {rest : List Path} (h : last ≠ dotdot) : Keeps rooted (last :: rest) dotdot rest
  | push {kept : List Path} {c : Path} (h : ¬ Idle c)
      (hup : c = dotdot → rooted = false ∨ dotdot ∈ kept) : Keeps rooted kept c (c :: kept)

theorem keeps (rooted : Bool) (kept : List Path) (c : Path) :
    Keeps rooted kept c (keep rooted kept c) := by
  unfold keep
  by_cases hidle : Idle c
  · rw [if_pos hidle]
    exact .skip hidle
  · rw [if_neg hidle]
    by_cases hup : c = dotdot
    · subst hup
      rw [if_pos rfl]
      match kept with
      | [] =>
        by_cases hrooted : rooted = true
        · simp only [hrooted, if_true]
          exact .top rfl
        · simp only [hrooted]
          exact .push hidle fun _ => .inl rfl
      | last :: rest =>
        by_cases hlast : last = dotdot
        · subst hlast
          simp only [if_true]
          exact .push hidle fun _ => .inr List.mem_cons_self
        · simp only [hlast, if_false]
          exact .up hlast
    · rw [if_neg hup]
      exact .push hidle fun h => absurd h hup

/-- What is kept leads somewhere, and from the root it does not go up. -/
structure Kept (rooted : Bool) (kept : List Path) : Prop where
  proper : ∀ c ∈ kept, ¬ Idle c
  down : rooted = true → dotdot ∉ kept

theorem Kept.step {kept kept' : List Path} {c : Path} (h : Kept rooted kept)
    (hstep : Keeps rooted kept c kept') : Kept rooted kept' := by
  cases hstep with
  | skip _ => exact h
  | top _ => exact h
  | up _ =>
    exact ⟨fun d hd => h.proper d (List.mem_cons_of_mem _ hd),
      fun hrooted hmem => h.down hrooted (List.mem_cons_of_mem _ hmem)⟩
  | push hidle hup =>
    refine ⟨fun d hd => ?_, fun hrooted hmem => ?_⟩
    · rcases List.mem_cons.1 hd with rfl | hd
      · exact hidle
      · exact h.proper d hd
    · rcases List.mem_cons.1 hmem with heq | hmem
      · rcases hup heq.symm with hfalse | hmem
        · exact absurd hrooted (by simp [hfalse])
        · exact h.down hrooted hmem
      · exact h.down hrooted hmem

/-- Keeping a component is following it. -/
theorem place_step {kept kept' base : List Path} {c : Path} (h : Kept rooted kept)
    (hbase : rooted = true → base = []) (hstep : Keeps rooted kept c kept') :
    place base kept' = walk (place base kept) c := by
  cases hstep with
  | skip hidle =>
    unfold walk
    rw [if_pos hidle]
  | top hrooted =>
    rw [hbase hrooted]
    rfl
  | @up last _ hlast =>
    have hwalk : place base (last :: kept') = last :: place base kept' := by
      show walk (place base kept') last = _
      unfold walk
      rw [if_neg (h.proper last List.mem_cons_self), if_neg hlast]
    rw [hwalk]
    rfl
  | push _ _ => rfl

theorem kept_foldl (components : List Path) :
    ∀ {kept : List Path}, Kept rooted kept → Kept rooted (components.foldl (keep rooted) kept) := by
  induction components with
  | nil => exact fun h => h
  | cons c components ih => exact fun h => ih (h.step (keeps ..))

theorem place_foldl {base : List Path} (hbase : rooted = true → base = [])
    (components : List Path) : ∀ {kept : List Path}, Kept rooted kept →
    place base (components.foldl (keep rooted) kept) = components.foldl walk (place base kept) := by
  induction components with
  | nil => exact fun _ => rfl
  | cons c components ih =>
    intro kept h
    rw [List.foldl_cons, List.foldl_cons, ih (h.step (keeps ..)), place_step h hbase (keeps ..)]

theorem kept_nil (rooted : Bool) : Kept rooted [] := ⟨nofun, nofun⟩

theorem not_mem_of_mem_splitOn {sep : UInt8} {path c : Path} (h : c ∈ path.splitOn sep) : sep ∉ c := by
  induction path generalizing c with
  | nil =>
    rw [List.splitOn_nil, List.mem_singleton] at h
    rw [h]
    exact List.not_mem_nil
  | cons b path ih =>
    rw [List.splitOn_cons_eq_if_modifyHead] at h
    by_cases hb : b = sep
    · rw [if_pos (by simpa using hb), List.mem_cons] at h
      rcases h with rfl | h
      · exact List.not_mem_nil
      · exact ih h
    · rw [if_neg (by simpa using hb)] at h
      obtain ⟨first, rest, hsplit⟩ : ∃ first rest, path.splitOn sep = first :: rest :=
        List.exists_cons_of_ne_nil (List.splitOn_ne_nil _ _)
      rw [hsplit, List.modifyHead_cons, List.mem_cons] at h
      rcases h with rfl | h
      · intro hmem
        rcases List.mem_cons.1 hmem with heq | hmem
        · exact hb heq.symm
        · exact ih (hsplit ▸ List.mem_cons_self) hmem
      · exact ih (hsplit ▸ List.mem_cons_of_mem _ h)

theorem mem_of_mem_step {kept kept' : List Path} {c d : Path}
    (hstep : Keeps rooted kept c kept') (h : d ∈ kept') : d = c ∨ d ∈ kept := by
  cases hstep with
  | skip _ => exact .inr h
  | top _ => exact .inr h
  | up _ => exact .inr (List.mem_cons_of_mem _ h)
  | push _ _ => exact List.mem_cons.1 h

theorem mem_of_mem_foldl {d : Path} (components : List Path) :
    ∀ {kept : List Path}, d ∈ components.foldl (keep rooted) kept → d ∈ components ∨ d ∈ kept := by
  induction components with
  | nil => exact fun h => .inr h
  | cons c components ih =>
    intro kept h
    rcases ih h with h | h
    · exact .inl (List.mem_cons_of_mem _ h)
    · rcases mem_of_mem_step (keeps ..) h with h | h
      · exact .inl (h ▸ List.mem_cons_self)
      · exact .inr h

theorem isRooted_intercalate {kept : List Path} (hproper : ∀ c ∈ kept, ¬ Idle c)
    (hslash : ∀ c ∈ kept, slash ∉ c) : isRooted ([slash].intercalate kept.reverse) = false := by
  match hlist : kept.reverse with
  | [] => rfl
  | [] :: rest =>
    have hmem : [] ∈ kept := List.mem_reverse.1 (hlist ▸ List.mem_cons_self)
    exact absurd (.inl rfl) (hproper [] hmem)
  | (b :: c) :: rest =>
    have hmem : b :: c ∈ kept := List.mem_reverse.1 (hlist ▸ List.mem_cons_self)
    have hb : b ≠ slash := fun h => hslash _ hmem (h ▸ List.mem_cons_self)
    cases rest with
    | nil => simpa [isRooted] using hb
    | cons d rest =>
      rw [List.intercalate_cons_cons]
      simpa [isRooted] using hb

/-- A rendered path leads where its components lead. -/
theorem locate_render {cwd : List Path} {kept : List Path}
    (hproper : ∀ c ∈ kept, ¬ Idle c) (hslash : ∀ c ∈ kept, slash ∉ c) :
    locate cwd (render rooted kept) = place (if rooted then [] else cwd) kept := by
  have hwalk : ∀ base, (([slash].intercalate kept.reverse).splitOn slash).foldl walk base =
      place base kept := by
    intro base
    by_cases hnil : kept = []
    · subst hnil
      rfl
    · rw [List.splitOn_intercalate slash (fun c hc => hslash c (List.mem_reverse.1 hc))
        (fun h => hnil (List.reverse_eq_nil_iff.1 h)), foldl_walk_reverse]
  have hrooted := isRooted_intercalate hproper hslash
  unfold render
  cases rooted with
  | true =>
    have hsplit : (slash :: [slash].intercalate kept.reverse).splitOn slash =
        [] :: ([slash].intercalate kept.reverse).splitOn slash := by
      rw [List.splitOn_cons_eq_if_modifyHead, if_pos (by decide)]
    show List.foldl walk [] ((slash :: [slash].intercalate kept.reverse).splitOn slash) = _
    rw [hsplit]
    exact hwalk []
  | false =>
    by_cases hnil : kept = []
    · subst hnil
      rfl
    · show locate cwd (if kept = [] then dot else _) = _
      rw [if_neg hnil]
      unfold locate
      rw [hrooted]
      exact hwalk cwd

/-- **Cleaning a path does not change where it leads.** -/
theorem locate_clean (cwd : List Path) (path : Path) : locate cwd (clean path) = locate cwd path := by
  have hkept := @kept_foldl (isRooted path) (path.splitOn slash) [] (kept_nil _)
  have hslash : ∀ c ∈ (path.splitOn slash).foldl (keep (isRooted path)) [], slash ∉ c := by
    intro c hc
    rcases mem_of_mem_foldl _ hc with hc | hc
    · exact not_mem_of_mem_splitOn hc
    · exact absurd hc List.not_mem_nil
  unfold clean
  rw [locate_render hkept.proper hslash, place_foldl _ _ (kept_nil _)]
  · rfl
  · intro hrooted
    rw [if_pos hrooted]

/-! ### Joining a name -/

section Join

variable {name suffix : Path}

theorem Plain.not_idle (h : Plain name) : ¬ Idle name := by
  rintro (rfl | rfl)
  · exact absurd h.1 (by decide)
  · exact absurd h.1 (by decide)

theorem Plain.ne_dotdot (h : Plain name) : name ≠ dotdot := by
  rintro rfl
  exact absurd h.1 (by decide)

theorem Plain.not_mem_slash (h : Plain name) : slash ∉ name := by
  intro hmem
  have hall := List.all_eq_true.1 h.2 slash hmem
  exact absurd hall (by decide)

theorem Plain.splitOn (h : Plain name) : name.splitOn slash = [name] :=
  List.splitOn_eq_singleton h.not_mem_slash

theorem Plain.isRooted (h : Plain name) : isRooted name = false := by
  match name with
  | [] => rfl
  | b :: name =>
    have hb : b ≠ slash := fun heq => h.not_mem_slash (heq ▸ List.mem_cons_self)
    simpa [Paths.isRooted] using hb

theorem isRooted_append {d : Path} (h : d ≠ []) (rest : Path) : isRooted (d ++ rest) = isRooted d := by
  obtain ⟨b, d, rfl⟩ := List.exists_cons_of_ne_nil h
  rfl

theorem walk_plain (h : Plain name) (place : List Path) : walk place name = name :: place := by
  unfold walk
  rw [if_neg h.not_idle, if_neg h.ne_dotdot]

theorem keep_plain (h : Plain name) (rooted : Bool) (kept : List Path) :
    keep rooted kept name = name :: kept := by
  unfold keep
  rw [if_neg h.not_idle, if_neg h.ne_dotdot]

theorem splitOn_join (d : Path) (h : Plain name) :
    (d ++ slash :: name).splitOn slash = d.splitOn slash ++ [name] := by
  rw [List.splitOn_append_cons_self, h.splitOn]

/-- **Joining a name to a path names the file in its directory.** -/
theorem locate_join (cwd : List Path) (d : Path) (h : Plain name) :
    locate cwd (join d name) = name :: locate cwd d := by
  unfold join
  by_cases hd : d = []
  · have hname : name ≠ [] := fun heq => h.not_idle (.inl heq)
    rw [if_neg (not_not.2 hd), if_pos hname, locate_clean, hd]
    unfold locate
    rw [h.splitOn, h.isRooted]
    exact walk_plain h cwd
  · rw [if_pos hd, locate_clean]
    unfold locate
    rw [splitOn_join d h, isRooted_append hd, List.foldl_append]
    exact walk_plain h _

theorem intercalate_concat (sep : UInt8) (before : List Path) (name : Path) :
    [sep].intercalate (before ++ [name]) = before.flatMap (· ++ [sep]) ++ name := by
  induction before with
  | nil => simp
  | cons c before ih =>
    obtain ⟨d, rest, hrest⟩ : ∃ d rest, before ++ [name] = d :: rest :=
      List.exists_cons_of_ne_nil (by simp)
    rw [hrest] at ih
    rw [List.cons_append, hrest, List.intercalate_cons_cons, ih, List.flatMap_cons]
    simp only [List.append_assoc]

/-- **A join ends with the name**, after nothing or a slash. -/
theorem exists_join_eq (d : Path) : ∃ front : Path, (front = [] ∨ ∃ path, front = path ++ [slash]) ∧
    ∀ name, Plain name → join d name = front ++ name := by
  have hjoin : ∀ name, Plain name → name ≠ [] := fun name h heq => h.not_idle (.inl heq)
  by_cases hd : d = []
  · refine ⟨[], .inl rfl, fun name h => ?_⟩
    unfold join clean
    rw [if_neg (not_not.2 hd), if_pos (hjoin name h), h.splitOn, h.isRooted]
    show render false (keep false [] name) = name
    rw [keep_plain h]
    exact intercalate_concat slash [] name
  · -- what is kept of the directory, each component with a slash behind it
    let kept := (d.splitOn slash).foldl (keep (isRooted d)) []
    refine ⟨(if isRooted d then [slash] else []) ++ kept.reverse.flatMap (· ++ [slash]), ?_, ?_⟩
    · cases hkept : kept with
      | nil => cases isRooted d <;> simp
      | cons c rest =>
        refine .inr ⟨(if isRooted d then [slash] else []) ++
          (rest.reverse.flatMap (· ++ [slash]) ++ c), ?_⟩
        simp
    · intro name h
      unfold join clean
      rw [if_pos hd, splitOn_join d h, isRooted_append hd, List.foldl_append]
      show render _ (keep _ kept name) = _
      rw [keep_plain h, render, if_neg (List.cons_ne_nil _ _), List.reverse_cons, intercalate_concat]
      cases isRooted d <;> simp

theorem join_append (d : Path) (h : Plain name) (hsuffix : Plain (name ++ suffix)) :
    join d name ++ suffix = join d (name ++ suffix) := by
  obtain ⟨front, -, hjoin⟩ := exists_join_eq d
  rw [hjoin name h, hjoin _ hsuffix, List.append_assoc]

theorem join_ne_nil (d : Path) (h : Plain name) : join d name ≠ [] := by
  obtain ⟨front, -, hjoin⟩ := exists_join_eq d
  rw [hjoin name h]
  exact fun heq => h.not_idle (.inl (List.append_eq_nil_iff.1 heq).2)

theorem locate_append (cwd : List Path) {front : Path} (h : Plain name)
    (hfront : front = [] ∨ ∃ path, front = path ++ [slash]) :
    locate cwd (front ++ name) = name :: locate cwd front := by
  rcases hfront with rfl | ⟨path, rfl⟩
  · unfold locate
    rw [List.nil_append, h.splitOn, h.isRooted]
    exact walk_plain h cwd
  · have hrooted : isRooted (path ++ [slash] ++ name) = isRooted (path ++ [slash]) :=
      isRooted_append (by simp) name
    unfold locate
    rw [hrooted, List.append_assoc, List.singleton_append, splitOn_join path h,
      List.splitOn_append_cons_self, List.foldl_append, List.foldl_append]
    exact walk_plain h _

/-- **The directory of a join is the one it was made with.** -/
theorem locate_dir_join (cwd : List Path) (d : Path) (h : Plain name) :
    locate cwd (dir (join d name)) = locate cwd d := by
  obtain ⟨front, hfront, hjoin⟩ := exists_join_eq d
  have hstem : ((front ++ name).reverse.dropWhile (· ≠ slash)).reverse = front := by
    have hname : ∀ b ∈ name.reverse, decide (b ≠ slash) = true := fun b hb =>
      decide_eq_true fun heq => h.not_mem_slash (heq ▸ List.mem_reverse.1 hb)
    rw [List.reverse_append, List.dropWhile_append_of_pos hname]
    rcases hfront with rfl | ⟨path, rfl⟩
    · rfl
    · simp
  have hlocate := locate_join cwd d h
  rw [hjoin name h, locate_append cwd h hfront] at hlocate
  rw [hjoin name h, dir, hstem, locate_clean]
  exact (List.cons.inj hlocate).2

end Join

/-- The paths of Unix, from a working directory. -/
def unix (cwd : List Path) : System (List Path) where
  locate := locate cwd
  join := join
  dir := dir
  child := fun place name => name :: place
  ancestors := fun place => place.tails.reverse
  locate_join := fun d _ h => locate_join cwd d h
  join_append := fun d _ _ h hsuffix => join_append d h hsuffix
  join_ne_nil := fun d _ h => join_ne_nil d h
  child_inj := fun _ _ _ _ h => ⟨(List.cons.inj h).2, (List.cons.inj h).1⟩

/-- A file is not one of the directories above it. -/
theorem child_not_mem_ancestors (cwd place : List Path) (name : Path) :
    (unix cwd).child place name ∉ (unix cwd).ancestors place := by
  intro hmem
  have hsuffix : name :: place <:+ place := (List.mem_tails _ _).1 (List.mem_reverse.1 hmem)
  exact absurd hsuffix.length_le (Nat.not_succ_le_self _)

/-- `a/../b` is `b`, and `..` at the root is the root. -/
example : clean [97, 47, 46, 46, 47, 98] = [98] ∧ clean [47, 46, 46, 47, 97] = [47, 97] ∧
    clean [46, 46, 47, 46, 46] = [46, 46, 47, 46, 46] ∧ clean [] = dot := by decide

end Paths
