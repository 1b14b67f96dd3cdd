import LnProxy.Node.Registry
import Mathlib.Data.List.Induction

set_option autoImplicit false

/-! # Who is in the registry, by its history

The operations of the registry in any order. An id is in the registry exactly if it was added, not
removed since, and, unless it was added for good, found fresh by every `Expire` since: no more than
`staleFor` after it was added or last heard of. -/

namespace LnProxy

namespace Registry

/-! ## Operations -/

/-- An operation with its clock reading. -/
inductive Op where
  /-- `Add`, or `AddPersistent`. -/
  | add (persistent : Bool) (now : Time) (info : ExitInfo) (health : String)
  | heartbeat (now : Time) (beat : Heartbeat)
  | remove (id : String)
  | expire (now : Time)
  deriving DecidableEq, Repr

/-- The id the operation is about; `Expire` is about all of them. -/
def Op.target : Op → Option String
  | .add _ _ info _ => some info.id
  | .heartbeat _ beat => some beat.exitID
  | .remove id => some id
  | .expire _ => none

def apply (r : Registry) : Op → Registry
  | .add persistent now info health =>
    if persistent then r.addPersistent now info health else r.add now info health
  | .heartbeat now beat => r.heartbeat now beat
  | .remove id => r.remove id
  | .expire now => r.expire now

def run (r : Registry) (ops : List Op) : Registry := ops.foldl apply r

variable {r : Registry} {id : String} {now : Time} {op : Op} {ops : List Op}

@[simp] theorem apply_staleFor (r : Registry) (op : Op) : (r.apply op).staleFor = r.staleFor := by
  cases op with
  | add persistent now info health => cases persistent <;> rfl
  | heartbeat now beat =>
    show (r.heartbeat now beat).staleFor = _
    unfold Registry.heartbeat
    split <;> rfl
  | remove id => rfl
  | expire now => rfl

theorem run_append (r : Registry) (ops : List Op) (op : Op) :
    r.run (ops ++ [op]) = (r.run ops).apply op := by
  simp [run]

@[simp] theorem run_staleFor (r : Registry) (ops : List Op) : (r.run ops).staleFor = r.staleFor := by
  induction ops using List.reverseRecOn with
  | nil => rfl
  | append_singleton ops op ih => rw [run_append, apply_staleFor, ih]

/-! ## One operation and one id -/

theorem apply_add_self {persistent : Bool} {info : ExitInfo} {health : String} :
    (r.apply (.add persistent now info health)).exits info.id =
      some ⟨{ info with health := health, heartbeatTime := now.unixMilli }, now, persistent⟩ := by
  cases persistent <;> simp [apply, add, addPersistent, addEntry]

theorem apply_heartbeat_self {beat : Heartbeat} :
    (r.apply (.heartbeat now beat)).exits beat.exitID =
      (r.exits beat.exitID).map fun entry => entry.beat now beat := by
  show (r.heartbeat now beat).exits beat.exitID = _
  unfold heartbeat
  split
  · next hnone =>
    rw [hnone]
    rfl
  · next entry hentry => simp [hentry]

theorem apply_remove_self : (r.apply (.remove id)).exits id = none := by
  simp [apply, remove]

theorem apply_expire (r : Registry) (now : Time) (id : String) :
    (r.apply (.expire now)).exits id =
      (r.exits id).bind fun entry => if r.stale now entry then none else some entry := by
  show (r.expire now).exits id = _
  simp only [expire]
  cases r.exits id <;> rfl

/-- An operation about another id leaves the entry alone. -/
theorem apply_of_ne (h : op.target ≠ some id) (hexpire : ∀ now, op ≠ .expire now) :
    (r.apply op).exits id = r.exits id := by
  cases op with
  | add persistent now info health =>
    have hne : id ≠ info.id := fun heq => h (by rw [heq]; rfl)
    cases persistent
    · exact add_of_ne hne
    · simp [apply, addPersistent, addEntry, hne]
  | heartbeat now beat => exact heartbeat_of_ne fun heq => h (by rw [heq]; rfl)
  | remove id' => exact remove_of_ne fun heq => h (by rw [heq]; rfl)
  | expire now => exact absurd rfl (hexpire now)

/-- The entry an operation writes, with its id. -/
inductive Writes (r : Registry) : Op → String → ExitEntry → Prop where
  | add {persistent : Bool} {now : Time} {info : ExitInfo} {health : String} :
      Writes r (.add persistent now info health) info.id
        ⟨{ info with health := health, heartbeatTime := now.unixMilli }, now, persistent⟩
  | heartbeat {now : Time} {beat : Heartbeat} {entry : ExitEntry}
      (h : r.exits beat.exitID = some entry) :
      Writes r (.heartbeat now beat) beat.exitID (entry.beat now beat)

theorem Writes.apply {entry : ExitEntry} (h : r.Writes op id entry) :
    (r.apply op).exits id = some entry := by
  cases h with
  | add => exact apply_add_self
  | heartbeat hold => rw [apply_heartbeat_self, hold, Option.map_some]

/-- What stands in the registry after an operation was written by it, or stood there before. -/
theorem apply_cases (op : Op) {entry : ExitEntry} (h : (r.apply op).exits id = some entry) :
    r.Writes op id entry ∨ op.target ≠ some id ∧ r.exits id = some entry := by
  by_cases hexpire : ∃ now, op = .expire now
  · obtain ⟨now, rfl⟩ := hexpire
    exact .inr ⟨by simp [Op.target], mem_of_mem_expire h⟩
  · by_cases htarget : op.target = some id
    · left
      cases op with
      | add persistent now info health =>
        cases htarget
        rw [apply_add_self] at h
        cases h
        exact .add
      | heartbeat now beat =>
        cases htarget
        rw [apply_heartbeat_self] at h
        obtain ⟨old, hold, rfl⟩ := Option.map_eq_some_iff.1 h
        exact .heartbeat hold
      | remove id' =>
        cases htarget
        rw [apply_remove_self] at h
        cases h
      | expire now => cases htarget
    · rw [apply_of_ne htarget fun now heq => hexpire ⟨now, heq⟩] at h
      exact .inr ⟨htarget, h⟩

/-! ## The history of an id -/

/-- When the id was last heard of: the clock reading of its latest heartbeat. -/
def lastSeen (id : String) (added : Time) (ops : List Op) : Time :=
  ops.foldl (fun seen op =>
    match op with
    | .heartbeat now beat => if beat.exitID = id then now else seen
    | _ => seen) added

/-- By the history, the id is registered: its latest `Add` or `AddPersistent` is not followed by a
    `Remove`, nor, after an `Add`, by an `Expire` more than `staleFor` after the id was last heard of,
    which is at `seen` in the end. -/
def Since (staleFor : Time) (ops : List Op) (id : String) (persistent : Bool) (seen : Time) : Prop :=
  ∃ pre added info health post, ops = pre ++ Op.add persistent added info health :: post ∧
    info.id = id ∧
    (∀ persistent' added' info' health', .add persistent' added' info' health' ∈ post →
      info'.id ≠ id) ∧
    .remove id ∉ post ∧
    (persistent = false → ∀ before now after, post = before ++ Op.expire now :: after →
      now - lastSeen id added before ≤ staleFor) ∧
    seen = lastSeen id added post

/-- What an operation makes of the time an id was last heard of. -/
def Op.seen (id : String) (seen : Time) : Op → Time
  | .heartbeat now beat => if beat.exitID = id then now else seen
  | _ => seen

/-- The operation leaves a registered id registered. -/
def Op.keeps (staleFor : Time) (id : String) (persistent : Bool) (seen : Time) : Op → Prop
  | .add _ _ info _ => info.id ≠ id
  | .heartbeat _ _ => True
  | .remove id' => id' ≠ id
  | .expire now => persistent = false → now - seen ≤ staleFor

theorem lastSeen_append (id : String) (added : Time) (ops : List Op) (op : Op) :
    lastSeen id added (ops ++ [op]) = op.seen id (lastSeen id added ops) := by
  rw [lastSeen, List.foldl_append, List.foldl_cons, List.foldl_nil]
  cases op <;> rfl

/-- **The last operation of a history**: it adds the id, or the id was registered before and is
    kept. -/
theorem since_append {staleFor : Time} {persistent : Bool} {seen : Time} :
    Since staleFor (ops ++ [op]) id persistent seen ↔
      (∃ info health, op = .add persistent seen info health ∧ info.id = id) ∨
      ∃ seen', Since staleFor ops id persistent seen' ∧
        op.keeps staleFor id persistent seen' ∧ seen = op.seen id seen' := by
  constructor
  · rintro ⟨pre, added, info, health, post, heq, hid, hadd, hremove, hexpire, rfl⟩
    rcases List.eq_nil_or_concat post with rfl | ⟨post, last, rfl⟩
    · left
      obtain ⟨-, hop⟩ := List.append_inj' heq rfl
      cases hop
      exact ⟨info, health, rfl, hid⟩
    · right
      have hsplit : ops ++ [op] = (pre ++ Op.add persistent added info health :: post) ++ [last] := by
        simpa using heq
      obtain ⟨rfl, hop⟩ := List.append_inj' hsplit rfl
      cases hop
      rw [List.concat_eq_append] at hadd hremove hexpire
      refine ⟨lastSeen id added post, ⟨pre, added, info, health, post, rfl, hid, ?_, ?_, ?_, rfl⟩,
        ?_, ?_⟩
      · exact fun p a i h hmem => hadd p a i h (List.mem_append_left _ hmem)
      · exact fun hmem => hremove (List.mem_append_left _ hmem)
      · intro hp before now after hpost
        exact hexpire hp before now (after ++ [op]) (by rw [hpost]; simp)
      · cases op with
        | add p a i h => exact hadd p a i h (by simp)
        | heartbeat now beat => trivial
        | remove id' =>
          rintro rfl
          exact hremove (by simp)
        | expire now => exact fun hp => hexpire hp post now [] rfl
      · rw [List.concat_eq_append, lastSeen_append]
  · rintro (⟨info, health, rfl, hid⟩ | ⟨seen', hsince, hkeeps, rfl⟩)
    · refine ⟨ops, seen, info, health, [], rfl, hid, ?_, List.not_mem_nil, ?_, rfl⟩
      · exact fun _ _ _ _ hmem => absurd hmem List.not_mem_nil
      · intro _ before now after hnil
        simp at hnil
    · obtain ⟨pre, added, info, health, post, rfl, hid, hadd, hremove, hexpire, rfl⟩ := hsince
      refine ⟨pre, added, info, health, post ++ [op], by simp, hid, ?_, ?_, ?_, ?_⟩
      · intro p a i h hmem
        rcases List.mem_append.1 hmem with hmem | hmem
        · exact hadd p a i h hmem
        · cases List.mem_singleton.1 hmem
          exact hkeeps
      · intro hmem
        rcases List.mem_append.1 hmem with hmem | hmem
        · exact hremove hmem
        · cases List.mem_singleton.1 hmem
          exact hkeeps rfl
      · intro hp before now after hpost
        rcases List.eq_nil_or_concat after with rfl | ⟨after, last, rfl⟩
        · obtain ⟨rfl, hop⟩ := List.append_inj' hpost rfl
          cases hop
          exact hkeeps hp
        · have hsplit : post ++ [op] = (before ++ Op.expire now :: after) ++ [last] := by
            simpa using hpost
          obtain ⟨rfl, -⟩ := List.append_inj' hsplit rfl
          exact hexpire hp before now after rfl
      · rw [lastSeen_append]

/-! ## The registry and the history -/

/-- The registry has an entry for the id, added for good or not, that was last heard of at `seen`. -/
def Listed (r : Registry) (id : String) (persistent : Bool) (seen : Time) : Prop :=
  ∃ entry, r.exits id = some entry ∧ entry.persistent = persistent ∧ entry.heartbeat = seen

/-- An operation about another id keeps the id, and the time it was last heard of. -/
theorem Op.keeps_of_ne (h : op.target ≠ some id) (hexpire : ∀ now, op ≠ .expire now)
    (staleFor : Time) (persistent : Bool) (seen : Time) :
    op.keeps staleFor id persistent seen ∧ op.seen id seen = seen := by
  cases op with
  | add _ _ info _ => exact ⟨fun heq => h (congrArg some heq), rfl⟩
  | heartbeat now beat => exact ⟨trivial, if_neg fun heq => h (congrArg some heq)⟩
  | remove id' => exact ⟨fun heq => h (congrArg some heq), rfl⟩
  | expire now => exact absurd rfl (hexpire now)

/-- **One operation**: it adds the id, or the id was listed before and is kept. -/
theorem listed_apply {persistent : Bool} {seen : Time} :
    (r.apply op).Listed id persistent seen ↔
      (∃ info health, op = .add persistent seen info health ∧ info.id = id) ∨
      ∃ seen', r.Listed id persistent seen' ∧
        op.keeps r.staleFor id persistent seen' ∧ seen = op.seen id seen' := by
  unfold Listed
  by_cases hother : op.target ≠ some id ∧ ∀ now, op ≠ .expire now
  · have hkeeps := Op.keeps_of_ne hother.1 hother.2 r.staleFor persistent
    rw [apply_of_ne hother.1 hother.2]
    constructor
    · intro h
      exact .inr ⟨seen, h, (hkeeps seen).1, (hkeeps seen).2.symm⟩
    · rintro (⟨_, _, rfl, hid⟩ | ⟨seen', h, -, heq⟩)
      · exact absurd (congrArg some hid) hother.1
      · rw [heq, (hkeeps seen').2]
        exact h
  cases op with
  | add persistent' added info health =>
    obtain rfl : info.id = id := by simpa [Op.target] using hother
    rw [apply_add_self]
    constructor
    · rintro ⟨_, ⟨⟩, rfl, rfl⟩
      exact .inl ⟨info, health, rfl, rfl⟩
    · rintro (⟨_, _, heq, -⟩ | ⟨_, -, hkeeps, -⟩)
      · cases heq
        exact ⟨_, rfl, rfl, rfl⟩
      · exact absurd rfl hkeeps
  | heartbeat now beat =>
    obtain rfl : beat.exitID = id := by simpa [Op.target] using hother
    rw [apply_heartbeat_self]
    constructor
    · rintro ⟨entry, hentry, hpersistent, hseen⟩
      obtain ⟨old, hold, rfl⟩ := Option.map_eq_some_iff.1 hentry
      refine .inr ⟨old.heartbeat, ⟨old, hold, hpersistent, rfl⟩, trivial, ?_⟩
      rw [Op.seen, if_pos rfl, ← hseen]
      rfl
    · rintro (⟨_, _, heq, -⟩ | ⟨_, ⟨old, hold, hpersistent, -⟩, -, rfl⟩)
      · cases heq
      · refine ⟨old.beat now beat, by rw [hold]; rfl, hpersistent, ?_⟩
        rw [Op.seen, if_pos rfl]
        rfl
  | remove id' =>
    obtain rfl : id' = id := by simpa [Op.target] using hother
    rw [apply_remove_self]
    constructor
    · rintro ⟨_, h, -⟩
      cases h
    · rintro (⟨_, _, heq, -⟩ | ⟨_, -, hkeeps, -⟩)
      · cases heq
      · exact absurd rfl hkeeps
  | expire now =>
    rw [apply_expire]
    constructor
    · rintro ⟨entry, hentry, rfl, rfl⟩
      obtain ⟨old, hold, hkept⟩ := Option.bind_eq_some_iff.1 hentry
      rw [Option.ite_none_left_eq_some] at hkept
      obtain ⟨hfresh, heq⟩ := hkept
      cases heq
      refine .inr ⟨_, ⟨_, hold, rfl, rfl⟩, fun hp => ?_, rfl⟩
      by_contra hlate
      exact hfresh ⟨hp, Int.not_le.1 hlate⟩
    · rintro (⟨_, _, heq, -⟩ | ⟨_, ⟨old, hold, rfl, rfl⟩, hkeeps, rfl⟩)
      · cases heq
      · refine ⟨old, ?_, rfl, rfl⟩
        have hfresh : ¬ r.stale now old := fun hstale =>
          Int.not_le.2 hstale.2 (hkeeps hstale.1)
        rw [hold, Option.bind_some, if_neg hfresh]

/-- The entry of an id tells what the history tells. -/
theorem listed_run_iff {staleFor : Time} {ops : List Op} {id : String} {persistent : Bool}
    {seen : Time} :
    ((newRegistry staleFor).run ops).Listed id persistent seen ↔
      Since (newRegistry staleFor).staleFor ops id persistent seen := by
  induction ops using List.reverseRecOn generalizing persistent seen with
  | nil =>
    constructor
    · rintro ⟨_, h, -⟩
      cases h
    · rintro ⟨pre, added, info, health, post, h, -⟩
      simp at h
  | append_singleton ops op ih =>
    rw [run_append, listed_apply, since_append, run_staleFor]
    simp only [ih]

/-- **Membership is history.** For every sequence of operations on a new registry, an id is in the
    registry afterwards if and only if, by the history, it is registered. A heartbeat creates no entry,
    and no operation changes the entry of an id it is not about, but that `Expire` deletes the stale
    ones. -/
theorem mem_run_iff (staleFor : Time) (ops : List Op) (id : String) :
    (((newRegistry staleFor).run ops).exits id ≠ none ↔
      ∃ persistent seen, Since (newRegistry staleFor).staleFor ops id persistent seen) ∧
    (∀ (r : Registry) (now : Time) (beat : Heartbeat) (id : String), r.exits id = none →
      (r.apply (.heartbeat now beat)).exits id = none) ∧
    ∀ (r : Registry) (op : Op) (id : String), op.target ≠ some id →
      (r.apply op).exits id = r.exits id ∨
        ∃ now entry, op = .expire now ∧ r.exits id = some entry ∧ r.stale now entry ∧
          (r.apply op).exits id = none := by
  refine ⟨?_, ?_, ?_⟩
  · simp only [← listed_run_iff]
    constructor
    · intro hne
      obtain ⟨entry, hentry⟩ := Option.ne_none_iff_exists'.1 hne
      exact ⟨_, _, entry, hentry, rfl, rfl⟩
    · rintro ⟨_, _, entry, hentry, -⟩
      rw [hentry]
      exact Option.some_ne_none entry
  · intro r now beat id hnone
    by_contra hne
    exact mem_heartbeat_iff.1 hne hnone
  · intro r op id htarget
    by_cases hexpire : ∃ now, op = .expire now
    · obtain ⟨now, rfl⟩ := hexpire
      rw [apply_expire]
      cases hentry : r.exits id with
      | none => exact .inl rfl
      | some entry =>
        by_cases hstale : r.stale now entry
        · exact .inr ⟨now, entry, rfl, rfl, hstale, if_pos hstale⟩
        · exact .inl (if_neg hstale)
    · exact .inl (apply_of_ne htarget fun now heq => hexpire ⟨now, heq⟩)

/-- An exit that is heard of after 30 seconds and found fresh after 60. -/
def freshHistory : List Op :=
  [.add false 0 ⟨"home", "home", "exit", "", 10, 0, 8, [], 0⟩ "healthy",
    .heartbeat (seconds 30) ⟨"home", 1, 8⟩, .expire (seconds 60)]

theorem freshHistory_mem : ((newRegistry (seconds 45)).run freshHistory).exits "home" ≠ none := by
  refine (mem_run_iff (seconds 45) freshHistory "home").1.2 ⟨false, seconds 30, ?_⟩
  refine ⟨[], 0, _, "healthy", _, rfl, rfl, ?_, by decide, ?_, by decide⟩
  · intro _ _ _ _ hmem
    simp at hmem
  · intro _ before now after hpost
    match before with
    | [] => cases hpost
    | [_] =>
      cases hpost
      decide
    | _ :: _ :: _ => simp at hpost

end Registry

end LnProxy
