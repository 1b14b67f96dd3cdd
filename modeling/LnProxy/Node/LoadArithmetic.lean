import LnProxy.Node.Exits
import Mathlib.Algebra.Group.Nat.Defs
import Mathlib.Algebra.Ring.Int.Defs

set_option autoImplicit false

/-! # The arithmetic on loads (`healthFor`, `Registry.Select`)

An exit reports its load and its capacity as 64-bit integers, and the server takes any of them (a
capacity that is not positive means the one before). `healthFor` compares `active*100` with
`capacity*90`, `Select` ranks by `available*1000 - LatencyMS`, and all of this wraps around. It is
exact as long as every registration and every heartbeat reports numbers for which the values that are
computed fit into 64 bits. -/

namespace LnProxy

open Transition

/-! ## Exact values -/

/-- The number is a 64-bit integer. -/
def fits64 (n : Int) : Bool := decide (-2 ^ 63 ≤ n) && decide (n < 2 ^ 63)

theorem bmod_eq_self_iff {n : Int} : n.bmod (2 ^ 64) = n ↔ fits64 n = true := by
  rw [fits64, Bool.and_eq_true, decide_eq_true_eq, decide_eq_true_eq, Int.bmod_eq_iff (by decide)]
  constructor
  · rintro ⟨hle, hlt, -⟩
    exact ⟨by omega, by omega⟩
  · rintro ⟨hle, hlt⟩
    exact ⟨by omega, by omega, by simp⟩

/-- The score in exact arithmetic. -/
def ExitInfo.exactScore (info : ExitInfo) : Int :=
  (info.capacity.toInt - info.activeConnections.toInt) * 1000 - info.latencyMS.toInt

/-- `healthFor` in exact arithmetic. -/
def exactHealth (active capacity : Int) : String :=
  if capacity ≤ 0 ∨ active ≥ capacity then "at-capacity"
  else if active * 100 > capacity * 90 then "degraded"
  else "healthy"

theorem score_toInt (info : ExitInfo) : info.score.toInt = info.exactScore.bmod (2 ^ 64) := by
  simp [ExitInfo.score, ExitInfo.exactScore, Int64.toInt_sub, Int64.toInt_mul]

/-- `healthFor` comes to its comparison. -/
def ExitInfo.compared (info : ExitInfo) : Bool :=
  decide (0 < info.capacity) && decide (info.activeConnections < info.capacity)

/-- The two sides of the comparison are exact where it is made. -/
def ExitInfo.ExactSides (info : ExitInfo) : Prop :=
  info.compared = true →
    (info.activeConnections * 100).toInt = info.activeConnections.toInt * 100 ∧
      (info.capacity * 90).toInt = info.capacity.toInt * 90

/-- What is computed of the numbers of an exit is computed exactly: the two sides of the comparison
    where `healthFor` makes it, and the score where `Select` computes it. -/
structure ExitInfo.Exact (info : ExitInfo) : Prop where
  sides : info.ExactSides
  score : info.available = true → info.score.toInt = info.exactScore

/-- The values that are computed of a load, a capacity and a latency fit into 64 bits: the sides of
    the comparison where it is made, and the score unless the comparison says that the exit is
    degraded. -/
def loadFits (active capacity latency : Int) : Bool :=
  decide (capacity ≤ 0) || decide (capacity ≤ active) ||
    fits64 (active * 100) && fits64 (capacity * 90) &&
      (decide (capacity * 90 < active * 100) || fits64 ((capacity - active) * 1000 - latency))

/-- The exit has the health of its numbers, or is healthy as it was added, without load. -/
def ExitInfo.Judged (info : ExitInfo) : Prop :=
  info.health = healthFor info.activeConnections info.capacity ∨
    info.health = "healthy" ∧ info.activeConnections = 0

theorem ExitInfo.compared_iff {info : ExitInfo} : info.compared = true ↔
    0 < info.capacity.toInt ∧ info.activeConnections.toInt < info.capacity.toInt := by
  rw [compared, Bool.and_eq_true, decide_eq_true_eq, decide_eq_true_eq, Int64.lt_iff_toInt_lt,
    Int64.lt_iff_toInt_lt]
  rfl

theorem ExitInfo.ExactSides.health {info : ExitInfo} (h : info.ExactSides) :
    healthFor info.activeConnections info.capacity =
      exactHealth info.activeConnections.toInt info.capacity.toInt := by
  unfold healthFor exactHealth
  have hzero : info.capacity ≤ 0 ↔ info.capacity.toInt ≤ 0 := Int64.le_iff_toInt_le
  have hfull : info.activeConnections ≥ info.capacity ↔
      info.activeConnections.toInt ≥ info.capacity.toInt := Int64.le_iff_toInt_le
  simp only [hzero, hfull]
  by_cases hout : info.capacity.toInt ≤ 0 ∨ info.activeConnections.toInt ≥ info.capacity.toInt
  · rw [if_pos hout, if_pos hout]
  · rw [if_neg hout, if_neg hout]
    obtain ⟨ha, hc⟩ := h (compared_iff.2 (by omega))
    simp only [gt_iff_lt, Int64.lt_iff_toInt_lt, ha, hc]

/-- An exit without load is not overloaded. -/
theorem exactHealth_ne_degraded {active capacity : Int} (h : active ≤ 0) :
    exactHealth active capacity ≠ "degraded" := by
  unfold exactHealth
  split
  · decide
  · next hin =>
    rw [not_or] at hin
    rw [if_neg (by omega)]
    decide

theorem ExitInfo.exactSides_iff {info : ExitInfo} : info.ExactSides ↔ (info.compared = true →
    fits64 (info.activeConnections.toInt * 100) = true ∧
      fits64 (info.capacity.toInt * 90) = true) := by
  have hload : (info.activeConnections * 100).toInt =
      (info.activeConnections.toInt * 100).bmod (2 ^ 64) := Int64.toInt_mul ..
  have hlimit : (info.capacity * 90).toInt = (info.capacity.toInt * 90).bmod (2 ^ 64) :=
    Int64.toInt_mul ..
  rw [ExactSides, hload, hlimit, bmod_eq_self_iff, bmod_eq_self_iff]

/-- Where the sides are exact, an exit is available unless the exact comparison speaks against it. -/
theorem ExitInfo.Judged.available_iff {info : ExitInfo} (h : info.Judged) (hsides : info.ExactSides) :
    info.available = true ↔ info.compared = true ∧
      ¬ info.capacity.toInt * 90 < info.activeConnections.toInt * 100 := by
  rw [ExitInfo.available_iff, compared_iff, Int64.lt_iff_toInt_lt]
  rcases h with hhealth | ⟨hhealth, hzero⟩
  · rw [hhealth, hsides.health, exactHealth]
    by_cases hout : info.capacity.toInt ≤ 0 ∨ info.activeConnections.toInt ≥ info.capacity.toInt
    · rw [if_pos hout]
      exact iff_of_false (by simp) (by omega)
    · rw [if_neg hout]
      by_cases hdegraded : info.activeConnections.toInt * 100 > info.capacity.toInt * 90
      · rw [if_pos hdegraded]
        exact iff_of_false (by simp) (by omega)
      · rw [if_neg hdegraded]
        exact iff_of_true ⟨rfl, by omega⟩ (by omega)
  · have hactive : info.activeConnections.toInt = 0 := by rw [hzero]; rfl
    rw [hactive]
    exact ⟨fun ⟨_, hlt⟩ => by omega, fun ⟨⟨hlt, _⟩, _⟩ => ⟨hhealth, hlt⟩⟩

/-- **When the arithmetic of one exit is exact.** -/
theorem ExitInfo.Judged.fits_iff {info : ExitInfo} (h : info.Judged) : info.Exact ↔
    loadFits info.activeConnections.toInt info.capacity.toInt info.latencyMS.toInt = true := by
  have hscore : info.score.toInt = info.exactScore ↔ fits64 info.exactScore = true := by
    rw [score_toInt, bmod_eq_self_iff]
  have hexact : info.Exact ↔ info.ExactSides ∧
      (info.available = true → fits64 info.exactScore = true) :=
    ⟨fun he => ⟨he.sides, fun ha => hscore.1 (he.score ha)⟩,
      fun he => ⟨he.1, fun ha => hscore.2 (he.2 ha)⟩⟩
  rw [hexact]
  by_cases hcompared : info.compared = true
  · have hin := compared_iff.1 hcompared
    have hfits : loadFits info.activeConnections.toInt info.capacity.toInt info.latencyMS.toInt = true ↔
        (fits64 (info.activeConnections.toInt * 100) = true ∧
          fits64 (info.capacity.toInt * 90) = true) ∧
        (¬ info.capacity.toInt * 90 < info.activeConnections.toInt * 100 →
          fits64 info.exactScore = true) := by
      simp only [loadFits, exactScore, Int.not_le.2 hin.1, Int.not_le.2 hin.2, decide_false,
        Bool.false_or, Bool.and_eq_true, Bool.or_eq_true, decide_eq_true_eq, or_iff_not_imp_left]
    rw [hfits]
    have hiff : info.ExactSides ↔ _ := exactSides_iff.trans (forall_prop_of_true hcompared)
    rw [← hiff]
    refine and_congr_right fun hsides => ?_
    rw [h.available_iff hsides]
    simp [hcompared]
  · -- nothing is computed
    have hsides : info.ExactSides := fun hc => absurd hc hcompared
    have hout := mt compared_iff.2 hcompared
    refine iff_of_true ⟨hsides, fun ha => ?_⟩ ?_
    · exact absurd ((h.available_iff hsides).1 ha).1 hcompared
    · have hle : info.capacity.toInt ≤ 0 ∨ info.capacity.toInt ≤ info.activeConnections.toInt := by
        omega
      simp only [loadFits, Bool.or_eq_true, decide_eq_true_eq]
      exact .inl hle

/-! ## The exits of a server -/

namespace Exits

/-- The arithmetic is exact for every exit in the registry. -/
def Exact (s : Exits) : Prop :=
  ∀ id entry, s.registry.exits id = some entry → entry.info.Exact

/-- The numbers of the server's own exit fit. -/
def ownFits (config : NodeConfig) : Bool :=
  decide (config.role = .exit) || loadFits 0 config.connectionLimit.toInt 1

/-- The numbers a registration or a heartbeat reports fit. A registration comes without load; a
    heartbeat for an exit that is not in the registry is dropped, and one without a capacity leaves the
    capacity as it is. -/
def fits (s : Exits) : Label → Bool
  | .add i _ =>
    (s.registration i).all fun registration => loadFits 0 registration.capacity.toInt 10
  | .heartbeat i _ beat =>
    (s.registry.exits (s.idOf i)).all fun entry =>
      loadFits beat.active.toInt
        (if beat.capacity > 0 then beat.capacity else entry.info.capacity).toInt
        entry.info.latencyMS.toInt
  | _ => true

def Judged (s : Exits) : Prop :=
  ∀ id entry, s.registry.exits id = some entry → entry.info.Judged

/-- What exact arithmetic means for the exits in the registry. -/
structure Faithful (s : Exits) : Prop where
  judged : ∀ id entry, s.registry.exits id = some entry →
    healthFor entry.info.activeConnections entry.info.capacity =
      exactHealth entry.info.activeConnections.toInt entry.info.capacity.toInt
  idle : ∀ id entry, s.registry.exits id = some entry → entry.info.activeConnections ≤ 0 →
    entry.info.health ≠ "degraded"
  ranked : ∀ id entry id' entry', s.registry.exits id = some entry →
    s.registry.exits id' = some entry' → entry.info.available = true →
      entry'.info.available = true →
        (entry.info.score > entry'.info.score ↔ entry.info.exactScore > entry'.info.exactScore)

variable {s s' : Exits} {l : Label}

theorem Judged.steps (hjudged : s.Judged) (h : Steps s l s') : s'.Judged := by
  intro id entry hentry
  cases h with
  | @add i now registration _ _ =>
    rcases Registry.apply_cases (.add false now (exitInfo registration) "healthy") hentry
      with hwrites | ⟨-, hold⟩
    · cases hwrites
      exact .inr ⟨rfl, rfl⟩
    · exact hjudged id entry hold
  | @heartbeat i now beat _ =>
    rcases Registry.apply_cases (.heartbeat now { beat with exitID := s.idOf i }) hentry
      with hwrites | ⟨-, hold⟩
    · cases hwrites
      exact .inl rfl
    · exact hjudged id entry hold
  | remove _ => exact hjudged id entry (Registry.mem_of_mem_remove hentry)
  | expire => exact hjudged id entry (Registry.mem_of_mem_expire hentry)
  | _ => exact hjudged id entry hentry

/-- An operation that writes an entry keeps the arithmetic exact if it is exact for this one. -/
theorem Exact.apply_iff {r : Registry} {op : Registry.Op} {id : String} {entry : ExitEntry}
    (hexact : ∀ id entry, r.exits id = some entry → entry.info.Exact)
    (hwrites : r.Writes op id entry) :
    (∀ id entry, (r.apply op).exits id = some entry → entry.info.Exact) ↔ entry.info.Exact := by
  refine ⟨fun h => h id entry hwrites.apply, fun h id' entry' hentry => ?_⟩
  rcases Registry.apply_cases op hentry with hwrites' | ⟨-, hold⟩
  · cases hwrites with
    | add =>
      cases hwrites'
      exact h
    | heartbeat hold =>
      cases hwrites' with
      | heartbeat hold' =>
        cases hold.symm.trans hold'
        exact h
  · exact hexact id' entry' hold

theorem Exact.steps_iff (hexact : s.Exact) (hjudged : s'.Judged) (h : Steps s l s') :
    s.fits l = true ↔ s'.Exact := by
  cases h with
  | @add i now registration hphase hregistration =>
    have hwrites : s.registry.Writes (.add false now (exitInfo registration) "healthy") _ _ := .add
    rw [fits, hregistration, Option.all_some]
    exact ((Exact.apply_iff hexact hwrites).trans (hjudged _ _ hwrites.apply).fits_iff).symm
  | @heartbeat i now beat _ =>
    cases hentry : s.registry.exits (s.idOf i) with
    | none =>
      have hsame : s.registry.heartbeat now { beat with exitID := s.idOf i } = s.registry := by
        simp [Registry.heartbeat, hentry]
      refine iff_of_true (by simp [fits, hentry]) ?_
      rw [hsame]
      exact hexact
    | some entry =>
      have hwrites : s.registry.Writes (.heartbeat now { beat with exitID := s.idOf i }) _ _ :=
        .heartbeat hentry
      rw [fits, hentry, Option.all_some]
      exact ((Exact.apply_iff hexact hwrites).trans (hjudged _ _ hwrites.apply).fits_iff).symm
  | remove _ =>
    refine iff_of_true rfl fun id entry hentry => ?_
    exact hexact id entry (Registry.mem_of_mem_remove hentry)
  | expire =>
    refine iff_of_true rfl fun id entry hentry => ?_
    exact hexact id entry (Registry.mem_of_mem_expire hentry)
  | _ => exact iff_of_true rfl hexact

theorem Exact.faithful (hexact : s.Exact) (hjudged : s.Judged) : s.Faithful where
  judged id entry hentry := (hexact id entry hentry).sides.health
  idle id entry hentry hidle := by
    rcases hjudged id entry hentry with hhealth | ⟨hhealth, -⟩
    · rw [hhealth, (hexact id entry hentry).sides.health]
      exact exactHealth_ne_degraded (Int64.le_iff_toInt_le.1 hidle)
    · rw [hhealth]
      decide
  ranked id entry id' entry' hentry hentry' havailable havailable' := by
    rw [gt_iff_lt, Int64.lt_iff_toInt_lt, (hexact id entry hentry).score havailable,
      (hexact id' entry' hentry').score havailable']

/-! ## Every run -/

theorem new_judged (config : NodeConfig) (now : Time) : (new config now).Judged := by
  intro id entry hentry
  obtain ⟨-, -, rfl⟩ := new_entry_iff.1 hentry
  exact .inr ⟨rfl, rfl⟩

theorem new_exact_iff (config : NodeConfig) (now : Time) :
    (new config now).Exact ↔ ownFits config = true := by
  rw [ownFits, Bool.or_eq_true, decide_eq_true_eq]
  constructor
  · intro hexact
    refine or_iff_not_imp_left.2 fun hrole => ?_
    have hentry : (new config now).registry.exits directID = some (directEntry config now) :=
      new_entry_iff.2 ⟨hrole, rfl, rfl⟩
    exact (new_judged config now _ _ hentry).fits_iff.1 (hexact _ _ hentry)
  · intro hown id entry hentry
    obtain ⟨hrole, -, rfl⟩ := new_entry_iff.1 hentry
    exact (new_judged config now _ _ hentry).fits_iff.2 (hown.resolve_left hrole)

/-- **When the arithmetic on loads is exact.** In every run, what is computed of the numbers of the
    exits is exact in all states of the run exactly if the numbers of the server's own exit fit and
    every registration and every heartbeat reports numbers that fit. As long as it is exact,
    an exit has the health its numbers have, an idle one is not degraded, and the exits are ranked by
    the exact score. -/
theorem exact_iff {config : NodeConfig} {now : Time} {as : List Label}
    (hrun : exec step (new config now) as = some s) :
    (ownFits config = true ∧ Along step (fun m l => m.fits l = true) (new config now) as ↔
        ∀ pre m, pre <+: as → exec step (new config now) pre = some m → m.Exact) ∧
      ∀ pre m, pre <+: as → exec step (new config now) pre = some m → m.Exact → m.Faithful := by
  constructor
  · rw [← new_exact_iff config now]
    have hiff (hnew : (new config now).Exact) :=
      along_iff Judged Exact (fun _ _ _ hjudged hstep => hjudged.steps (step_steps hstep))
        (fun _ _ _ hjudged hexact hstep =>
          hexact.steps_iff (hjudged.steps (step_steps hstep)) (step_steps hstep))
        (new_judged config now) hnew hrun
    constructor
    · rintro ⟨hnew, hfits⟩
      exact (hiff hnew).1 hfits
    · intro hall
      have hnew : (new config now).Exact := hall [] _ (List.nil_prefix) rfl
      exact ⟨hnew, (hiff hnew).2 hall⟩
  · intro pre m _ hpre hexact
    have hjudged : m.Judged := Reachable.invariant Judged
      (fun _ _ _ hjudged hstep => hjudged.steps (step_steps hstep)) (new_judged config now) ⟨pre, hpre⟩
    exact hexact.faithful hjudged

/-! ## An exit with a large capacity -/

/-- The exits `wide`, whose capacity is the largest integer, and `home`, as they are added. -/
def wideEntry : ExitEntry :=
  ⟨⟨"wide", "wide", "exit", "healthy", 10, 0, 9223372036854775807, ["tcp"], 0⟩, 0, false⟩

def homeEntry : ExitEntry := ⟨⟨"home", "home", "exit", "healthy", 10, 0, 8, ["tcp"], 0⟩, 0, false⟩

def wideAndHome : List Label :=
  [Label.connect 0, .register 0 ⟨"wide", "", 9223372036854775807, ["tcp"]⟩, .enter 0, .add 0 0] ++
    registers 1 ++ [Label.enter 1, .add 1 0]

/-- The exit `wide` ranks behind `home`, though its score is the larger one, and a heartbeat without
    load makes it degraded. -/
theorem wide_not_faithful :
    ((exec step (new sampleConfig 0) wideAndHome).map fun s =>
        (s.registry.exits "wide", s.registry.exits "home")) = some (some wideEntry, some homeEntry) ∧
      homeEntry.info.score > wideEntry.info.score ∧
      wideEntry.info.exactScore > homeEntry.info.exactScore ∧
      ∃ s entry, exec step (new sampleConfig 0)
          (wideAndHome ++ [Label.heartbeat 0 0 ⟨"", 0, 0⟩]) = some s ∧
        s.registry.exits "wide" = some entry ∧ entry.info.activeConnections = 0 ∧
        entry.info.health = "degraded" := by
  refine ⟨by decide +kernel, by decide +kernel, by decide +kernel, ?_⟩
  refine ⟨_, wideEntry.beat 0 ⟨"wide", 0, 0⟩, exec_after (by decide +kernel), ?_, ?_, ?_⟩
  · decide +kernel
  · decide +kernel
  · decide +kernel

/-- The exit `home` and its heartbeats. -/
def homeBeats : List Label :=
  registers 0 ++ [Label.enter 0, .add 0 0, .heartbeat 0 0 ⟨"", 8, 0⟩, .heartbeat 0 0 ⟨"", -1, 100⟩]

theorem homeBeats_exact :
    (exec step (new sampleConfig 0) homeBeats).isSome = true ∧
      ∀ pre m, pre <+: homeBeats → exec step (new sampleConfig 0) pre = some m → m.Exact :=
  ⟨by decide +kernel, (exact_iff (exec_after (by decide +kernel))).1.1 (by decide +kernel)⟩

end Exits

end LnProxy
