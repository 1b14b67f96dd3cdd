import LnProxy.Lib.RunningBest
import LnProxy.Node.History

set_option autoImplicit false

/-! # The automatic selection of an exit (`Registry.Select`)

`Select` with no id, or with `auto`, goes through the map of exits, in an order that Go leaves open,
and keeps the best exit it has met: the one with the higher score, or of two with the same score the
one with the smaller id. Scores are 64-bit integers that wrap around. Since the map has every exit
under its own id, no two of them tie, and the order does not matter. -/

namespace LnProxy

/-! ## The order of exits -/

/-- The loop of `Select` prefers the first one. -/
def ExitInfo.better (info best : ExitInfo) : Prop :=
  info.score > best.score ∨ info.score = best.score ∧ info.id < best.id

instance : DecidableRel ExitInfo.better := fun info best =>
  inferInstanceAs (Decidable (info.score > best.score ∨ info.score = best.score ∧ info.id < best.id))

theorem ExitInfo.not_better_iff {a b : ExitInfo} :
    ¬ a.better b ↔ a.score.toInt < b.score.toInt ∨ a.score = b.score ∧ b.id ≤ a.id := by
  unfold better
  rw [not_or, not_and, String.not_lt, gt_iff_lt, Int64.lt_iff_toInt_lt, Int.not_lt]
  constructor
  · rintro ⟨hle, hid⟩
    rcases Int.lt_or_eq_of_le hle with hlt | heq
    · exact .inl hlt
    · have hscore := Int64.toInt_inj.1 heq
      exact .inr ⟨hscore, hid hscore⟩
  · rintro (hlt | ⟨heq, hid⟩)
    · refine ⟨Int.le_of_lt hlt, fun heq => ?_⟩
      rw [heq] at hlt
      exact absurd hlt (Int.lt_irrefl _)
    · rw [heq]
      exact ⟨Int.le_refl _, fun _ => hid⟩

theorem ExitInfo.better_asymm (a b : ExitInfo) (h : a.better b) : ¬ b.better a := by
  rw [not_better_iff]
  rcases h with hlt | ⟨heq, hid⟩
  · exact .inl (Int64.lt_iff_toInt_lt.1 hlt)
  · exact .inr ⟨heq.symm, String.not_lt.1 (String.lt_asymm hid)⟩

theorem ExitInfo.not_better_trans (a b c : ExitInfo) (hab : ¬ a.better b) (hbc : ¬ b.better c) :
    ¬ a.better c := by
  rw [not_better_iff] at hab hbc ⊢
  rcases hab with hab | ⟨hab, hid⟩
  · rcases hbc with hbc | ⟨hbc, -⟩
    · exact .inl (Int.lt_trans hab hbc)
    · rw [hbc] at hab
      exact .inl hab
  · rcases hbc with hbc | ⟨hbc, hid'⟩
    · rw [← hab] at hbc
      exact .inl hbc
    · exact .inr ⟨hab.trans hbc, String.le_trans hid' hid⟩

/-- Two exits tie only under one id. -/
theorem ExitInfo.id_eq_of_not_better {a b : ExitInfo} (hab : ¬ a.better b) (hba : ¬ b.better a) :
    a.id = b.id := by
  rw [not_better_iff] at hab hba
  rcases hab with hab | ⟨hab, hid⟩
  · rcases hba with hba | ⟨hba, -⟩
    · omega
    · rw [hba] at hab
      exact absurd hab (Int.lt_irrefl _)
  · rcases hba with hba | ⟨-, hid'⟩
    · rw [hab] at hba
      exact absurd hba (Int.lt_irrefl _)
    · exact String.le_antisymm hid' hid

namespace Registry

/-! ## Every exit is under its own id -/

/-- The keys of the map are the ids of the entries. -/
def Keyed (r : Registry) : Prop := ∀ id entry, r.exits id = some entry → entry.info.id = id

variable {r : Registry} {op : Op} {order : List String}

theorem newRegistry_keyed (staleFor : Time) : (newRegistry staleFor).Keyed := by
  intro id entry h
  cases h

theorem Keyed.apply (h : r.Keyed) (op : Op) : (r.apply op).Keyed := by
  intro id entry hentry
  rcases apply_cases op hentry with hwrites | ⟨-, hold⟩
  · cases hwrites with
    | add => rfl
    | @heartbeat now beat old hold => exact h beat.exitID old hold
  · exact h id entry hold

theorem Keyed.run (h : r.Keyed) (ops : List Op) : (r.run ops).Keyed := by
  induction ops using List.reverseRecOn with
  | nil => exact h
  | append_singleton ops op ih =>
    rw [run_append]
    exact ih.apply op

/-! ## The loop -/

/-- The order meets the keys of the map. -/
def Enumerates (r : Registry) (order : List String) : Prop := ∀ id, id ∈ order ↔ r.exits id ≠ none

theorem foldl_pick (infos : List ExitInfo) (selected : Option ExitInfo) (score : Int64)
    (hscore : ∀ best, selected = some best → score = best.score) :
    (infos.foldl pick (selected, score)).1 =
      (infos.filter ExitInfo.available).foldl (RunningBest.keep ExitInfo.better) selected := by
  induction infos generalizing selected score with
  | nil => rfl
  | cons info infos ih =>
    rw [List.foldl_cons]
    by_cases havailable : info.available = true
    · rw [List.filter_cons_of_pos havailable, List.foldl_cons]
      cases selected with
      | none =>
        have hpick : pick (none, score) info = (some info, info.score) := by
          rw [pick, if_pos havailable]
        rw [hpick]
        exact ih _ _ fun best heq => by rw [Option.some.inj heq]
      | some best =>
        have hbest := hscore best rfl
        subst hbest
        have hpick : pick (some best, best.score) info =
            if info.better best then (some info, info.score) else (some best, best.score) := by
          rw [pick, if_pos havailable]
          rfl
        rw [hpick, RunningBest.keep]
        split
        · exact ih _ _ fun best' heq => by rw [Option.some.inj heq]
        · exact ih _ _ fun best' heq => by rw [Option.some.inj heq]
    · have hpick : pick (selected, score) info = (selected, score) := by
        unfold pick
        rw [if_neg havailable]
      rw [List.filter_cons_of_neg havailable, hpick]
      exact ih selected score hscore

/-- The exits that may be selected, in the order of the map. -/
def candidates (r : Registry) (order : List String) : List ExitInfo :=
  (r.infos order).filter ExitInfo.available

theorem select_eq (r : Registry) (order : List String) {exitID : String} (fallback : Bool)
    (h : exitID = "" ∨ exitID = "auto") :
    r.select order exitID fallback =
      match RunningBest.best ExitInfo.better (r.candidates order) with
      | some info => .ok info
      | none => .error .noExit := by
  rw [select, if_pos h, foldl_pick _ none (-1) fun _ heq => by cases heq]
  rfl

/-- What `Select` returns without an id is a candidate that no other beats. -/
theorem candidate_of_select {exitID : String} {info : ExitInfo} (hid : exitID = "" ∨ exitID = "auto")
    (h : r.select order exitID false = .ok info) :
    info ∈ r.candidates order ∧ ∀ other ∈ r.candidates order, ¬ other.better info := by
  rw [select_eq r order false hid] at h
  split at h
  · next best hbest =>
    cases h
    exact RunningBest.mem_of_best ExitInfo.better_asymm ExitInfo.not_better_trans hbest
  · cases h

/-- What `Select` returns for an id is its entry. -/
theorem entry_of_select {exitID : String} {info : ExitInfo} (hid : ¬ (exitID = "" ∨ exitID = "auto"))
    (h : r.select order exitID false = .ok info) :
    ∃ entry, r.exits exitID = some entry ∧ entry.info = info ∧ info.available = true := by
  rw [select, if_neg hid] at h
  split at h
  · next entry hentry =>
    split at h
    · next havailable =>
      cases h
      exact ⟨entry, hentry, rfl, havailable⟩
    · cases h
  · cases h

theorem exists_of_mem_candidates {info : ExitInfo} (h : info ∈ r.candidates order) :
    ∃ id entry, r.exits id = some entry ∧ entry.info = info ∧ info.available = true := by
  unfold candidates infos at h
  rw [List.mem_filter, List.mem_filterMap] at h
  obtain ⟨⟨id, -, hinfo⟩, havailable⟩ := h
  obtain ⟨entry, hentry, rfl⟩ := Option.map_eq_some_iff.1 hinfo
  exact ⟨id, entry, hentry, rfl, havailable⟩

theorem mem_candidates (horder : r.Enumerates order) {info : ExitInfo} :
    info ∈ r.candidates order ↔
      ∃ id entry, r.exits id = some entry ∧ entry.info = info ∧ info.available = true := by
  refine ⟨exists_of_mem_candidates, ?_⟩
  rintro ⟨id, entry, hentry, rfl, havailable⟩
  have hid : id ∈ order := (horder id).2 (by simp [hentry])
  exact List.mem_filter.2 ⟨List.mem_filterMap.2 ⟨id, hid, by rw [hentry]; rfl⟩, havailable⟩

/-- The exit is healthy and below its capacity, and among those that are it has the highest score,
    and of those with that score the smallest id. -/
def Best (r : Registry) (info : ExitInfo) : Prop :=
  (∃ id entry, r.exits id = some entry ∧ entry.info = info) ∧
    info.health = "healthy" ∧ info.activeConnections < info.capacity ∧
    ∀ id entry, r.exits id = some entry → entry.info.health = "healthy" →
      entry.info.activeConnections < entry.info.capacity →
      entry.info.score < info.score ∨ entry.info.score = info.score ∧ info.id ≤ entry.info.id

theorem best_iff (hkeyed : r.Keyed) (horder : r.Enumerates order) {info : ExitInfo} :
    RunningBest.best ExitInfo.better (r.candidates order) = some info ↔ r.Best info := by
  have htie : ∀ a ∈ r.candidates order, ∀ b ∈ r.candidates order,
      ¬ a.better b → ¬ b.better a → a = b := by
    intro a ha b hb hab hba
    obtain ⟨id, entry, hentry, rfl, -⟩ := (mem_candidates horder).1 ha
    obtain ⟨id', entry', hentry', rfl, -⟩ := (mem_candidates horder).1 hb
    have hid := ExitInfo.id_eq_of_not_better hab hba
    rw [hkeyed id entry hentry, hkeyed id' entry' hentry'] at hid
    subst hid
    rw [hentry] at hentry'
    cases hentry'
    rfl
  rw [RunningBest.best_eq_some_iff ExitInfo.better_asymm ExitInfo.not_better_trans htie]
  constructor
  · rintro ⟨hmem, hmax⟩
    obtain ⟨id, entry, hentry, rfl, havailable⟩ := (mem_candidates horder).1 hmem
    obtain ⟨hhealth, hload⟩ := ExitInfo.available_iff.1 havailable
    refine ⟨⟨id, entry, hentry, rfl⟩, hhealth, hload, fun id' entry' hentry' hhealth' hload' => ?_⟩
    have hmem' : entry'.info ∈ r.candidates order :=
      (mem_candidates horder).2 ⟨id', entry', hentry', rfl,
        ExitInfo.available_iff.2 ⟨hhealth', hload'⟩⟩
    have hnot := ExitInfo.not_better_iff.1 (hmax _ hmem')
    exact hnot.imp_left Int64.lt_iff_toInt_lt.2
  · rintro ⟨⟨id, entry, hentry, rfl⟩, hhealth, hload, hmax⟩
    have havailable := ExitInfo.available_iff.2 ⟨hhealth, hload⟩
    refine ⟨(mem_candidates horder).2 ⟨id, entry, hentry, rfl, havailable⟩, fun a ha => ?_⟩
    obtain ⟨id', entry', hentry', rfl, havailable'⟩ := (mem_candidates horder).1 ha
    obtain ⟨hhealth', hload'⟩ := ExitInfo.available_iff.1 havailable'
    have hle := hmax id' entry' hentry' hhealth' hload'
    exact ExitInfo.not_better_iff.2 (hle.imp_left Int64.lt_iff_toInt_lt.1)

/-- **The automatic selection is the best exit, whatever the order of the map.** In every registry that
    the operations make of a new one, and for every order in which its keys may be met: `Select` with
    `auto` and with no id give the same; they return an exit if and only if it is the best, and
    `ErrNoExit` if and only if no exit is healthy and below its capacity; another order gives the
    same. -/
theorem select_auto {staleFor : Time} {ops : List Op} {r : Registry} {order : List String}
    (hr : r = (newRegistry staleFor).run ops) (horder : r.Enumerates order) (fallback : Bool) :
    r.select order "auto" fallback = r.select order "" fallback ∧
      (∀ info, r.select order "auto" fallback = .ok info ↔ r.Best info) ∧
      (r.select order "auto" fallback = .error .noExit ↔
        ∀ id entry, r.exits id = some entry → ¬ (entry.info.health = "healthy" ∧
          entry.info.activeConnections < entry.info.capacity)) ∧
      ∀ order', r.Enumerates order' →
        r.select order' "auto" fallback = r.select order "auto" fallback := by
  have hkeyed : r.Keyed := hr ▸ (newRegistry_keyed staleFor).run ops
  have hauto := fun order => r.select_eq order fallback (.inr rfl : "auto" = "" ∨ "auto" = "auto")
  refine ⟨?_, ?_, ?_, ?_⟩
  · rw [hauto, r.select_eq order fallback (.inl rfl)]
  · intro info
    rw [hauto, ← best_iff hkeyed horder]
    cases RunningBest.best ExitInfo.better (r.candidates order) <;> simp
  · have hnone : r.select order "auto" fallback = .error .noExit ↔ r.candidates order = [] := by
      rw [hauto, ← RunningBest.best_eq_none_iff ExitInfo.better_asymm ExitInfo.not_better_trans]
      cases RunningBest.best ExitInfo.better (r.candidates order) <;> simp
    rw [hnone, List.eq_nil_iff_forall_not_mem]
    constructor
    · intro h id entry hentry havailable
      exact h entry.info
        ((mem_candidates horder).2 ⟨id, entry, hentry, rfl, ExitInfo.available_iff.2 havailable⟩)
    · intro h info hmem
      obtain ⟨id, entry, hentry, rfl, havailable⟩ := (mem_candidates horder).1 hmem
      exact h id entry hentry (ExitInfo.available_iff.1 havailable)
  · intro order' horder'
    have hbest : RunningBest.best ExitInfo.better (r.candidates order') =
        RunningBest.best ExitInfo.better (r.candidates order) := by
      refine Option.ext fun info => ?_
      rw [best_iff hkeyed horder', best_iff hkeyed horder]
    rw [hauto, hauto, hbest]

/-- Two exits with the same score. -/
def twoExits : List Op :=
  [.add false 0 ⟨"west", "west", "exit", "", 10, 0, 8, [], 0⟩ "healthy",
    .add false 0 ⟨"east", "east", "exit", "", 10, 0, 8, [], 0⟩ "healthy"]

theorem twoExits_enumerates {order : List String} (h : ∀ id, id ∈ order ↔ id = "west" ∨ id = "east") :
    ((newRegistry 0).run twoExits).Enumerates order := by
  intro id
  rw [h]
  simp only [twoExits, run, List.foldl_cons, List.foldl_nil, apply, Bool.false_eq_true, if_false,
    mem_add_iff, newRegistry, ne_eq, not_true_eq_false, or_false]
  exact or_comm

theorem twoExits_select :
    ((newRegistry 0).run twoExits).select ["west", "east"] "auto" false =
        ((newRegistry 0).run twoExits).select ["east", "west"] "auto" false ∧
      (((newRegistry 0).run twoExits).select ["west", "east"] "auto" false).map ExitInfo.id =
        .ok "east" := by
  have horder : ((newRegistry 0).run twoExits).Enumerates ["east", "west"] :=
    twoExits_enumerates (by simp [or_comm])
  have horder' : ((newRegistry 0).run twoExits).Enumerates ["west", "east"] :=
    twoExits_enumerates (by simp)
  exact ⟨(select_auto rfl horder false).2.2.2 _ horder', by decide +kernel⟩

end Registry

end LnProxy
