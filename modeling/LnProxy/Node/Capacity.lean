import Mathlib.Data.Finset.Card
import Mathlib.Data.Finset.Range
import LnProxy.Node.Exits
import LnProxy.Node.Selection

set_option autoImplicit false

/-! # Streams through exits of limited capacity (`Server.forwardOpen`)

`Registry.Select` compares the capacity of an exit with the load the exit has reported in its last
heartbeat. The server does not count the streams it has admitted since: between two heartbeats it
admits any number of them, and the load of the server's own exit stays 0 for ever. What the exit has
reported still bounds the streams that were open then (`Forwarding.Inv`), so an exit never takes more
than its capacity if heartbeats count all streams the server has open through the exit, and a stream
is admitted only if there is room for it beside those that no heartbeat has counted yet
(`Forwarding.accounted`). -/

namespace LnProxy

open Transition

/-! ## State -/

/-- Where a run of `forwardOpen` stands, with the exit it has selected. -/
inductive Route where
  /-- There is no such run. -/
  | absent
  /-- Before the lookup in `exitConns`. -/
  | selected (id : String)
  /-- In `DialDestination`, or in the `Dial` of the exit's session. -/
  | dialing (id : String)
  /-- In `stream.Accept`. -/
  | accepting (id : String)
  /-- In `session.Relay`. -/
  | relaying (id : String)
  /-- Returned. -/
  | finished
  deriving DecidableEq, Repr

/-- The exit a stream that was admitted goes through. -/
def Route.through : Route → Option String
  | .selected id | .dialing id | .accepting id | .relaying id => some id
  | .absent | .finished => none

/-- The server with its exits and the streams of its clients. -/
structure Forwarding where
  exits : Exits
  /-- The streams that have been opened so far; they are numbered. -/
  opened : Nat
  route : Nat → Route
  /-- The load of the exit was set by a heartbeat since the stream was admitted. -/
  reported : Nat → Bool

namespace Forwarding

def new (config : NodeConfig) (now : Time) : Forwarding where
  exits := Exits.new config now
  opened := 0
  route := fun _ => .absent
  reported := fun _ => false

/-- The streams that are being relayed through the exit. -/
def relayed (s : Forwarding) (id : String) : Finset Nat :=
  (Finset.range s.opened).filter fun k => s.route k = .relaying id

/-- The streams that were admitted through the exit and have not ended. -/
def admitted (s : Forwarding) (id : String) : Finset Nat :=
  (Finset.range s.opened).filter fun k => (s.route k).through = some id

/-- Those of them that the load of the exit includes. -/
def counted (s : Forwarding) (id : String) : Finset Nat :=
  (s.admitted id).filter fun k => s.reported k = true

def uncounted (s : Forwarding) (id : String) : Finset Nat :=
  (s.admitted id).filter fun k => ¬ s.reported k = true

/-! ## Steps -/

inductive Label where
  /-- A step of an exit's connection, or of `catalogLoop`. -/
  | exit (l : Exits.Label)
  /-- `forwardOpen` selects an exit; `order` is the order in which `range` meets the exits. -/
  | select (exitID : String) (order : List String)
  /-- `s.exitConns[selected.ID]` -/
  | lookup (k : Nat)
  | dial (k : Nat) (ok : Bool)
  | accept (k : Nat) (ok : Bool)
  /-- `session.Relay` returns. -/
  | relayEnd (k : Nat)
  deriving DecidableEq, Repr

def goto (s : Forwarding) (k : Nat) (route : Route) : Forwarding :=
  { s with route := Function.update s.route k route }

/-- A new run of `forwardOpen`. -/
def openStream (s : Forwarding) (route : Route) : Forwarding :=
  { s with
    opened := s.opened + 1,
    route := Function.update s.route s.opened route,
    reported := Function.update s.reported s.opened false }

/-- A heartbeat counts the streams of its exit, a new registration starts with a load of 0. -/
def report (s : Forwarding) : Exits.Label → Nat → Bool
  | .heartbeat i _ _ => fun k => s.reported k || decide ((s.route k).through = some (s.exits.idOf i))
  | .add i _ => fun k => s.reported k && decide ((s.route k).through ≠ some (s.exits.idOf i))
  | _ => s.reported

/-- The server's own exit dials the destination itself. -/
def firstRoute (info : ExitInfo) : Route :=
  if info.id = directID then .dialing info.id else .selected info.id

def step (s : Forwarding) : Label → Option Forwarding
  | .exit l =>
    match s.exits.step l with
    | none => none
    | some exits => some { s with exits := exits, reported := s.report l }
  | .select exitID order =>
    match s.exits.registry.select order exitID false with
    | .error _ => some (s.openStream .finished)
    | .ok info => some (s.openStream (firstRoute info))
  | .lookup k =>
    match s.route k with
    | .selected id =>
      match s.exits.exitConns id with
      | none => some (s.goto k .finished)
      | some _ => some (s.goto k (.dialing id))
    | _ => none
  | .dial k ok =>
    match s.route k with
    | .dialing id => some (s.goto k (if ok then .accepting id else .finished))
    | _ => none
  | .accept k ok =>
    match s.route k with
    | .accepting id => some (s.goto k (if ok then .relaying id else .finished))
    | _ => none
  | .relayEnd k =>
    match s.route k with
    | .relaying _ => some (s.goto k .finished)
    | _ => none

/-- What a step can do. A stream that goes on keeps its exit. -/
inductive Steps (s : Forwarding) : Label → Forwarding → Prop where
  | exit {l : Exits.Label} {exits : Exits} (h : Exits.Steps s.exits l exits) :
      Steps s (.exit l) { s with exits := exits, reported := s.report l }
  | opens {exitID : String} {order : List String} (route : Route) :
      Steps s (.select exitID order) (s.openStream route)
  | moves {l : Label} {k : Nat} {route : Route}
      (h : route.through = none ∨ route.through = (s.route k).through) : Steps s l (s.goto k route)

variable {s s' : Forwarding} {l : Label} {config : NodeConfig} {now : Time}

theorem step_steps (h : s.step l = some s') : Steps s l s' := by
  cases l with
  | exit l =>
    simp only [step] at h
    split at h
    · cases h
    · next exits hexits =>
      cases h
      exact .exit (Exits.step_steps hexits)
  | select exitID order =>
    simp only [step] at h
    split at h
    · cases h
      exact .opens _
    · cases h
      exact .opens _
  | lookup k =>
    simp only [step] at h
    split at h
    · next id hroute =>
      split at h
      · cases h
        exact .moves (Or.inl rfl)
      · cases h
        exact .moves (Or.inr (by rw [hroute]; rfl))
    · cases h
  | dial k ok | accept k ok =>
    simp only [step] at h
    split at h
    · next id hroute =>
      cases h
      cases ok with
      | false => exact .moves (Or.inl rfl)
      | true => exact .moves (Or.inr (by rw [hroute]; rfl))
    · cases h
  | relayEnd k =>
    simp only [step] at h
    split at h
    · cases h
      exact .moves (Or.inl rfl)
    · cases h

/-! ## The condition -/

/-- The exit has room for a stream beside those that no heartbeat has counted. -/
def hasRoom (s : Forwarding) (info : ExitInfo) : Bool :=
  decide (info.activeConnections.toInt + (s.uncounted info.id).card < info.capacity.toInt)

/-- Heartbeats count all streams the server has open through their exit, and when a stream is opened
    there is room at the exit that is asked for, if it is available, or, with `auto`, at the available
    exit that no other beats. -/
def accounted (s : Forwarding) : Label → Bool
  | .exit (.heartbeat i _ beat) =>
    decide (((s.admitted (s.exits.idOf i)).card : Int) ≤ beat.active.toInt)
  | .select exitID order =>
    if exitID = "" ∨ exitID = "auto" then
      (s.exits.registry.candidates order).all fun info => s.hasRoom info ||
        (s.exits.registry.candidates order).any fun other => decide (other.better info)
    else
      (s.exits.registry.exits exitID).all fun entry =>
        s.hasRoom entry.info || !entry.info.available
  | _ => true

/-! ## What the reported load bounds -/

structure Inv (s : Forwarding) : Prop where
  keyed : s.exits.registry.Keyed
  /-- The load of an exit includes the streams it has reported. -/
  bounded : ∀ id entry, s.exits.registry.exits id = some entry →
    ((s.counted id).card : Int) ≤ entry.info.activeConnections.toInt

theorem keyed_exits {exits exits' : Exits} {l : Exits.Label} (h : Exits.Steps exits l exits')
    (hkeyed : exits.registry.Keyed) : exits'.registry.Keyed := by
  cases h with
  | @add i now registration _ _ =>
    exact hkeyed.apply (.add false now (Exits.exitInfo registration) "healthy")
  | @heartbeat i now beat _ =>
    exact hkeyed.apply (.heartbeat now { beat with exitID := exits.idOf i })
  | @remove i _ => exact hkeyed.apply (.remove (exits.idOf i))
  | @expire now => exact hkeyed.apply (.expire now)
  | _ => exact hkeyed

theorem mem_counted {id : String} {k : Nat} : k ∈ s.counted id ↔
    k < s.opened ∧ (s.route k).through = some id ∧ s.reported k = true := by
  simp [counted, admitted, and_assoc]

theorem new_inv (config : NodeConfig) (now : Time) : (new config now).Inv := by
  refine ⟨fun id entry h => ?_, fun id entry h => ?_⟩
  · obtain ⟨-, rfl, rfl⟩ := Exits.new_entry_iff.1 h
    rfl
  · obtain ⟨-, -, rfl⟩ := Exits.new_entry_iff.1 h
    exact le_rfl

/-- A step that changes no entry and counts no more streams. -/
theorem Inv.of_counted (hinv : s.Inv) (hkeyed : s'.exits.registry.Keyed)
    (hentries : ∀ id entry, s'.exits.registry.exits id = some entry →
      s.exits.registry.exits id = some entry)
    (hcounted : ∀ id, s'.counted id ⊆ s.counted id) : s'.Inv := by
  refine ⟨hkeyed, fun id entry h => ?_⟩
  have hold := hinv.bounded id entry (hentries id entry h)
  have hcard := Finset.card_le_card (hcounted id)
  omega

/-- After a new registration none of the streams of its exit counts as reported. -/
theorem counted_add {exits : Exits} {i k : Nat} {time : Time} {id : String}
    (hk : k ∈ counted { s with exits := exits, reported := s.report (.add i time) } id) :
    k ∈ s.counted id ∧ id ≠ s.exits.idOf i := by
  obtain ⟨hlt, hthrough, hreported⟩ := mem_counted.1 hk
  simp only [report, Bool.and_eq_true, decide_eq_true_eq] at hreported
  refine ⟨mem_counted.2 ⟨hlt, hthrough, hreported.1⟩, ?_⟩
  rintro rfl
  exact hreported.2 hthrough

/-- After a heartbeat all streams of its exit count as reported. -/
theorem counted_heartbeat {exits : Exits} {i k : Nat} {time : Time} {beat : Heartbeat} {id : String}
    (hk : k ∈ counted { s with exits := exits, reported := s.report (.heartbeat i time beat) } id) :
    k ∈ s.admitted id ∧ (id ≠ s.exits.idOf i → k ∈ s.counted id) := by
  obtain ⟨hlt, hthrough, hreported⟩ := mem_counted.1 hk
  refine ⟨by simpa [admitted] using ⟨hlt, hthrough⟩, fun hne => ?_⟩
  simp only [report, Bool.or_eq_true, decide_eq_true_eq] at hreported
  rcases hreported with hold | hnew
  · exact mem_counted.2 ⟨hlt, hthrough, hold⟩
  · have hthrough : (s.route k).through = some id := hthrough
    rw [hthrough, Option.some.injEq] at hnew
    exact absurd hnew hne

theorem Inv.exit (hinv : s.Inv) {l : Exits.Label} {exits : Exits} (h : Exits.Steps s.exits l exits)
    (hok : s.accounted (.exit l) = true) : Inv { s with exits := exits, reported := s.report l } := by
  have hkeyed := keyed_exits h hinv.keyed
  cases h with
  | @add i time registration hphase hregistration =>
    refine ⟨hkeyed, fun id entry hentry => ?_⟩
    rcases Registry.apply_cases (.add false time (Exits.exitInfo registration) "healthy") hentry
      with hwrites | ⟨-, hold⟩
    · -- the load of the exit is 0
      cases hwrites
      show _ ≤ ((0 : Nat) : Int)
      refine Int.ofNat_le.2 (Nat.le_zero.2 (Finset.card_eq_zero.2 ?_))
      refine Finset.eq_empty_of_forall_notMem fun k hk => ?_
      exact (counted_add hk).2 (Exits.idOf_eq hregistration).symm
    · exact (Int.ofNat_le.2 (Finset.card_le_card fun k hk => (counted_add hk).1)).trans
        (hinv.bounded id entry hold)
  | @heartbeat i time beat _ =>
    refine ⟨hkeyed, fun id entry hentry => ?_⟩
    rcases Registry.apply_cases (.heartbeat time { beat with exitID := s.exits.idOf i }) hentry
      with hwrites | ⟨hne, hold⟩
    · -- the load of the exit is what the heartbeat says
      cases hwrites
      have hactive : ((s.admitted (s.exits.idOf i)).card : Int) ≤ beat.active.toInt :=
        of_decide_eq_true hok
      exact (Int.ofNat_le.2 (Finset.card_le_card fun k hk => (counted_heartbeat hk).1)).trans
        hactive
    · have hother : id ≠ s.exits.idOf i := fun heq => hne (by rw [heq]; rfl)
      exact (Int.ofNat_le.2 (Finset.card_le_card fun k hk =>
        (counted_heartbeat hk).2 hother)).trans (hinv.bounded id entry hold)
  | remove _ =>
    exact hinv.of_counted hkeyed (fun id entry hentry => Registry.mem_of_mem_remove hentry)
      fun id => Finset.Subset.refl _
  | expire =>
    exact hinv.of_counted hkeyed (fun id entry hentry => Registry.mem_of_mem_expire hentry)
      fun id => Finset.Subset.refl _
  | _ => exact hinv.of_counted hkeyed (fun _ _ hentry => hentry) fun _ => Finset.Subset.refl _

theorem Inv.steps (hinv : s.Inv) (hok : s.accounted l = true) (h : Steps s l s') : s'.Inv := by
  cases h with
  | exit h => exact hinv.exit h hok
  | opens route =>
    -- the new stream has not been reported
    refine hinv.of_counted hinv.keyed (fun id entry h => h) fun id k hk => ?_
    obtain ⟨hlt, hthrough, hreported⟩ := mem_counted.1 hk
    have hne : k ≠ s.opened := by
      rintro rfl
      simp [openStream] at hreported
    simp only [openStream, Function.update_of_ne hne] at hlt hthrough hreported
    exact mem_counted.2 ⟨by omega, hthrough, hreported⟩
  | @moves l k route hroute =>
    refine hinv.of_counted hinv.keyed (fun id entry h => h) fun id j hj => ?_
    obtain ⟨hlt, hthrough, hreported⟩ := mem_counted.1 hj
    refine mem_counted.2 ⟨hlt, ?_, hreported⟩
    by_cases hjk : j = k
    · subst hjk
      simp only [goto, Function.update_self] at hthrough
      rcases hroute with hnone | hsame
      · rw [hnone] at hthrough
        cases hthrough
      · rw [← hsame]
        exact hthrough
    · simpa [goto, hjk] using hthrough

/-! ## Admission -/

/-- What `Select` returns is an entry of the registry, and the condition says that it has room. -/
theorem room_of_select {order : List String} {exitID : String} {info : ExitInfo}
    (hok : s.accounted (.select exitID order) = true)
    (h : s.exits.registry.select order exitID false = .ok info) :
    (∃ id entry, s.exits.registry.exits id = some entry ∧ entry.info = info) ∧
      s.hasRoom info = true := by
  by_cases hid : exitID = "" ∨ exitID = "auto"
  · obtain ⟨hmem, hbest⟩ := Registry.candidate_of_select hid h
    obtain ⟨id, entry, hentry, hinfo, -⟩ := Registry.exists_of_mem_candidates hmem
    refine ⟨⟨id, entry, hentry, hinfo⟩, ?_⟩
    rw [accounted, if_pos hid, List.all_eq_true] at hok
    refine (Bool.or_eq_true_iff.1 (hok info hmem)).resolve_right fun hany => ?_
    obtain ⟨other, hother, hbetter⟩ := List.any_eq_true.1 hany
    exact hbest other hother (of_decide_eq_true hbetter)
  · obtain ⟨entry, hentry, rfl, havailable⟩ := Registry.entry_of_select hid h
    refine ⟨⟨exitID, entry, hentry, rfl⟩, ?_⟩
    simpa [accounted, hid, hentry, havailable] using hok

/-- A stream that is relayed was admitted, and is counted or not. -/
theorem relayed_le (id : String) :
    (s.relayed id).card ≤ (s.counted id).card + (s.uncounted id).card := by
  have hsub : s.relayed id ⊆ s.admitted id := by
    intro k hk
    simp only [relayed, Finset.mem_filter] at hk
    simp only [admitted, Finset.mem_filter]
    exact ⟨hk.1, by rw [hk.2]; rfl⟩
  calc (s.relayed id).card
      ≤ (s.admitted id).card := Finset.card_le_card hsub
    _ = (s.counted id).card + (s.uncounted id).card :=
        (Finset.card_filter_add_card_filter_not fun k => s.reported k = true).symm

/-- **No stream is admitted through an exit at its capacity**, in every run in which heartbeats count
    the streams the server has open, and the server leaves room for those not counted yet. -/
theorem relayed_lt_capacity {as : List Label} {exitID : String} {order : List String}
    {info : ExitInfo}
    (hok : Along step (fun m l => m.accounted l = true) (new config now)
      (as ++ [.select exitID order]))
    (hrun : exec step (new config now) as = some s)
    (hselect : s.exits.registry.select order exitID false = .ok info) :
    ((s.relayed info.id).card : Int) < info.capacity.toInt := by
  obtain ⟨hbefore, hlast⟩ := along_append hok hrun
  have hinv : s.Inv := by
    refine exec_invariant Inv ?_ (new_inv config now) hbefore hrun
    intro s₁ l s₂ hinv hl hstep
    exact hinv.steps hl (step_steps hstep)
  obtain ⟨⟨id, entry, hentry, rfl⟩, hroom⟩ := room_of_select hlast.1 hselect
  have hroom := of_decide_eq_true hroom
  have hload := hinv.bounded id entry hentry
  rw [hinv.keyed id entry hentry] at hroom ⊢
  have hrelayed := s.relayed_le id
  omega

/-- A server for one connection, with the exit `home` of capacity 1 or 2. -/
def narrowConfig : NodeConfig := ⟨.server, 1, ""⟩

def homeJoins (capacity : Int64) : List Label :=
  [.exit (.connect 0), .exit (.register 0 ⟨"home", "", capacity, ["tcp"]⟩), .exit (.enter 0),
    .exit (.add 0 0)]

/-- A first stream is relayed through `home` and counted by a heartbeat. -/
def reportedOnce : List Label :=
  homeJoins 2 ++ [.select "home" [], .lookup 0, .dial 0 true, .accept 0 true,
    .exit (.heartbeat 0 (seconds 10) ⟨"", 1, 2⟩)]

theorem reportedOnce_lt_capacity :
    ∃ s info, exec step (new narrowConfig 0) reportedOnce = some s ∧
      s.exits.registry.select [] "home" false = .ok info ∧ (s.relayed info.id).card = 1 ∧
      ((s.relayed info.id).card : Int) < info.capacity.toInt := by
  have hrun : exec step (new narrowConfig 0) reportedOnce =
      some (after step (new narrowConfig 0) reportedOnce) := exec_after (by decide +kernel)
  have hselect : (after step (new narrowConfig 0) reportedOnce).exits.registry.select [] "home" false =
      .ok ⟨"home", "home", "exit", "healthy", 10, 1, 2, ["tcp"], 10000⟩ := by decide +kernel
  exact ⟨_, _, hrun, hselect, by decide +kernel,
    relayed_lt_capacity (by decide +kernel) hrun hselect⟩

/-- A stream is relayed through the server's own exit, which has capacity 1. -/
def directBusy : List Label := [.select "direct" [], .dial 0 true, .accept 0 true]

/-- A stream is relayed through `home`, which has capacity 1 and has not sent a heartbeat since. -/
def homeBusy : List Label :=
  homeJoins 1 ++ [.select "home" [], .lookup 0, .dial 0 true, .accept 0 true]

/-- In both states another stream is admitted. -/
theorem busy_not_lt_capacity :
    (∃ s info, exec step (new narrowConfig 0) directBusy = some s ∧
        s.exits.registry.select [] "direct" false = .ok info ∧
        ¬ ((s.relayed info.id).card : Int) < info.capacity.toInt) ∧
      ∃ s info, exec step (new narrowConfig 0) homeBusy = some s ∧
        s.exits.registry.select [] "home" false = .ok info ∧
        ¬ ((s.relayed info.id).card : Int) < info.capacity.toInt := by
  refine ⟨⟨_, ⟨"direct", "server", "direct", "healthy", 1, 0, 1, ["tcp"], 0⟩,
      exec_after (by decide +kernel), by decide +kernel, by decide +kernel⟩,
    ⟨_, ⟨"home", "home", "exit", "healthy", 10, 0, 1, ["tcp"], 0⟩,
      exec_after (by decide +kernel), by decide +kernel, by decide +kernel⟩⟩

end Forwarding

end LnProxy
