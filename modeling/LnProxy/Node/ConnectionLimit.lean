import LnProxy.Node.Server

set_option autoImplicit false

/-! # The limit on connections

`handleConnection` compares the number of connections with the limit and extends `clientConns` or
`exitConns` later: a client after its session has started, an exit after it has also sent its
registration. Connections that have passed the comparison and are not in a map yet are not counted,
so several of them can pass it for the last free place. The limit holds if every connection that
passes would also have passed with these included (`Server.leavesRoom`). -/

namespace LnProxy

open Transition

namespace Server

variable {s s' : Server} {l : Label} {config : NodeConfig} {now : Time}

/-! ## Connections between the check and the maps -/

/-- Connection `i` has passed the check and is not in a map yet. -/
def awaited (s : Server) (i : Nat) : Bool :=
  match s.handler i, s.exits.phase i with
  | .admitted, _ | .exit, .absent | .exit, .waiting | .exit, .registered => true
  | _, _ => false

def inFlight (s : Server) : Finset Nat := (Finset.range s.accepted).filter fun i => s.awaited i

/-- Every connection that passes the check finds room for itself and for those before it that are not
    in a map yet. -/
def leavesRoom (s : Server) : Label → Bool
  | .check _ =>
    decide (s.limit ≤ s.connectionCount) ||
      decide ((s.connectionCount + s.inFlight.card : Nat) < s.limit)
  | _ => true

theorem Inv.mem_inFlight (hinv : s.Inv) {i : Nat} : i ∈ s.inFlight ↔ s.awaited i = true := by
  unfold inFlight
  rw [Finset.mem_filter, Finset.mem_range]
  refine ⟨And.right, fun h => ⟨hinv.counted i ?_, h⟩⟩
  intro habsent
  simp [awaited, habsent] at h

/-! ## What a step does to the number of connections -/

/-- Connections in the maps and on their way to them. -/
def load (s : Server) : Nat := s.connectionCount + s.inFlight.card

/-- A step that puts no connection into a map or on its way does not add to the load. -/
theorem load_le (hinv : s.Inv) (hinv' : s'.Inv) (hclients : s'.clientConns ⊆ s.clientConns)
    (hexits : ∀ id, s'.exits.exitConns id ≠ none → s.exits.exitConns id ≠ none)
    (hawaited : ∀ i, s'.awaited i = true → s.awaited i = true) : s'.load ≤ s.load := by
  have hids : s'.exitIDs ⊆ s.exitIDs := by
    intro id hid
    exact hinv.mem_exitIDs.2 (hexits id (hinv'.mem_exitIDs.1 hid))
  have hflight : s'.inFlight ⊆ s.inFlight := by
    intro i hi
    exact hinv.mem_inFlight.2 (hawaited i (hinv'.mem_inFlight.1 hi))
  have := Finset.card_le_card hclients
  have := Finset.card_le_card hids
  have := Finset.card_le_card hflight
  unfold load connectionCount
  omega

/-- A connection that leaves `inFlight` makes room for one that is entered into a map. -/
theorem load_le_of_entered (hinv : s.Inv) (hinv' : s'.Inv) {i : Nat} (hi : s.awaited i = true)
    (hcount : s'.connectionCount ≤ s.connectionCount + 1)
    (hawaited : ∀ j, s'.awaited j = true → j ≠ i ∧ s.awaited j = true) : s'.load ≤ s.load := by
  have hmem : i ∈ s.inFlight := hinv.mem_inFlight.2 hi
  have hflight : s'.inFlight ⊆ s.inFlight.erase i := by
    intro j hj
    obtain ⟨hne, hold⟩ := hawaited j (hinv'.mem_inFlight.1 hj)
    exact Finset.mem_erase.2 ⟨hne, hinv.mem_inFlight.2 hold⟩
  have hcard := Finset.card_le_card hflight
  have := Finset.card_erase_add_one hmem
  unfold load
  omega

theorem awaited_of_same {i : Nat} (h : s'.awaited i = true) (hhandler : s'.handler i = s.handler i)
    (hphase : s'.exits.phase i = s.exits.phase i) : s.awaited i = true := by
  unfold awaited at h ⊢
  rwa [hhandler, hphase] at h

/-- Only the steps before the update of `exitConns` are awaited. -/
theorem Inv.awaited_exit (hinv : s.Inv) {i : Nat} (h : s.exits.phase i ≠ .absent) :
    s.awaited i = true ↔ s.exits.phase i = .waiting ∨ s.exits.phase i = .registered := by
  unfold awaited
  rw [hinv.started i h]
  cases hphase : s.exits.phase i <;> simp_all

/-- A new connection is on its way only if it has passed. -/
theorem load_count (hinv : s.Inv) {handler : Handler} (hinv' : (s.count handler).Inv) :
    (s.count handler).load ≤ s.load + 1 := by
  have hids : (s.count handler).exitIDs ⊆ s.exitIDs := by
    intro id hid
    exact hinv.mem_exitIDs.2 (hinv'.mem_exitIDs.1 hid)
  have hflight : (s.count handler).inFlight ⊆ insert s.accepted s.inFlight := by
    intro j hj
    by_cases hne : j = s.accepted
    · rw [hne]
      exact Finset.mem_insert_self _ _
    · have hold : s.awaited j = true :=
        awaited_of_same (hinv'.mem_inFlight.1 hj) (by simp [hne]) rfl
      exact Finset.mem_insert_of_mem (hinv.mem_inFlight.2 hold)
  have := Finset.card_le_card hids
  have := (Finset.card_le_card hflight).trans (Finset.card_insert_le _ _)
  unfold load connectionCount
  rw [count_clientConns]
  omega

/-- The update of `exitConns` adds one key at most. -/
theorem exitIDs_enter (hinv : s.Inv) (hinv' : s'.Inv) {i : Nat}
    (hconns : s'.exits.exitConns = Function.update s.exits.exitConns (s.exits.idOf i) (some i)) :
    s'.exitIDs.card ≤ s.exitIDs.card + 1 := by
  have hids : s'.exitIDs ⊆ insert (s.exits.idOf i) s.exitIDs := by
    intro id hid
    have hid := hinv'.mem_exitIDs.1 hid
    rw [hconns] at hid
    by_cases heq : id = s.exits.idOf i
    · rw [heq]
      exact Finset.mem_insert_self _ _
    · rw [Function.update_of_ne heq] at hid
      exact Finset.mem_insert_of_mem (hinv.mem_exitIDs.2 hid)
  exact (Finset.card_le_card hids).trans (Finset.card_insert_le _ _)

/-- The steps of `handleExit` add nothing: what they enter was on its way. -/
theorem load_exit (hinv : s.Inv) (hinv' : s'.Inv) {l : Exits.Label}
    (hstep : Exits.Steps s.exits l s'.exits) (hhandler : s'.handler = s.handler)
    (hclients : s'.clientConns = s.clientConns) (hallows : s.allows l = true) :
    s'.load ≤ s.load := by
  -- a handler that takes a step and is awaited afterwards was awaited before
  have hawaited : ∀ i, s'.awaited i = true → s.awaited i = true := by
    intro i hi
    unfold awaited at hi ⊢
    rw [hhandler] at hi
    generalize s'.exits = exits' at hstep hi
    cases hstep with
    | @connect j h | @register j _ _ h _ | @registerInvalid j _ h | @giveUp j h | @enter j h
    | @add j _ _ h _ | @leave j h _ | @remove j h =>
      by_cases hij : i = j
      · subst hij
        rw [h]
        cases hrole : s.handler i <;> simp_all
      · simpa [hij] using hi
    | sessionEnd | heartbeat _ | expire => simpa using hi
  by_cases henter : ∃ i, l = .enter i
  · obtain ⟨i, rfl⟩ := henter
    generalize hexits : s'.exits = exits' at hstep
    cases hstep with
    | enter h =>
      have habsent : s.exits.phase i ≠ .absent := by rw [h]; nofun
      have hconns : s'.exits.exitConns =
          Function.update s.exits.exitConns (s.exits.idOf i) (some i) := by
        rw [hexits]
        rfl
      refine load_le_of_entered hinv hinv' (i := i)
        ((hinv.awaited_exit habsent).2 (Or.inr h)) ?_ fun j hj => ⟨?_, hawaited j hj⟩
      · have := exitIDs_enter hinv hinv' hconns
        unfold connectionCount
        rw [hclients]
        omega
      · rintro rfl
        have hphase : s'.exits.phase j = .entered := by
          rw [hexits]
          simp
        rw [hinv'.awaited_exit (by rw [hphase]; nofun), hphase] at hj
        simp at hj
  · refine load_le hinv hinv' (by rw [hclients]) (fun id hid => ?_) hawaited
    generalize s'.exits = exits' at hstep hid
    cases hstep with
    | @enter i h => exact absurd ⟨i, rfl⟩ henter
    | leave h hlive =>
      rw [Exits.goto_exitConns, Exits.leaveConn_exitConns] at hid
      split at hid
      · exact absurd rfl hid
      · exact hid
    | _ => exact hid

theorem load_steps (hinv : s.Inv) (hok : s.leavesRoom l = true) (hload : (s.load : Int) ≤ s.limit)
    (h : Steps s l s') : (s'.load : Int) ≤ s.limit := by
  have hinv' := hinv.steps h
  -- all steps but the one that counts a connection keep the load
  suffices hle : s'.load ≤ s.load ∨ ∃ peer, l = .check peer ∧ s'.load ≤ s.load + 1 ∧
      s.connectionCount < s.limit by
    rcases hle with hle | ⟨peer, rfl, hle, hroom⟩
    · omega
    · simp only [leavesRoom, Bool.or_eq_true, decide_eq_true_eq] at hok
      unfold load at hle ⊢
      omega
  cases h with
  | @refuse peer hfull =>
    left
    refine load_le hinv hinv' (by simp) (fun id hid => hid) fun i hi => ?_
    by_cases hne : i = s.accepted
    · simp [awaited, hne] at hi
    · exact awaited_of_same hi (by simp [hne]) rfl
  | @pass peer hroom => exact Or.inr ⟨peer, rfl, load_count hinv hinv', hroom⟩
  | @enterClient i hphase =>
    left
    refine load_le_of_entered hinv hinv' (i := i) (by simp [awaited, hphase]) ?_ fun j hj => ?_
    · have := Finset.card_insert_le i s.clientConns
      show (insert i s.clientConns).card + s.exitIDs.card ≤ _
      unfold connectionCount
      omega
    · by_cases hji : j = i
      · simp [awaited, hji] at hj
      · exact ⟨hji, awaited_of_same hj (by simp [hji]) rfl⟩
  | exit hallows hstep => exact Or.inl (load_exit hinv hinv' hstep rfl rfl hallows)
  | @startFailed i _ | @pushSnapshot i _ | @pushWrite i _ _ _ | @leaveClient i _ =>
    left
    refine load_le hinv hinv' (by simp [Finset.erase_subset]) (fun id hid => by simpa using hid)
      fun j hj => ?_
    by_cases hji : j = i
    · simp [awaited, hji] at hj
    · exact awaited_of_same hj (by simp [hji]) (by simp)
  | write _ _ | endClient | snapshot _ | copy _ | tickBefore _ | tickExpire _ | tickChanged _ _
  | tickSame _ _ =>
    left
    refine load_le hinv hinv' (by simp) (fun id hid => by simpa using hid) fun j hj => ?_
    exact awaited_of_same hj (by simp) (by simp)

/-- **The limit on connections holds** in all states of every run in which each connection that passes
    the check leaves room for those that passed before it. -/
theorem connections_le_limit {as : List Label} (hlimit : 0 < config.connectionLimit.toInt)
    (hok : Along step (fun m l => m.leavesRoom l = true) (new config now) as)
    (hrun : exec step (new config now) as = some s) :
    (s.connectionCount : Int) ≤ config.connectionLimit.toInt := by
  have hload : s.Inv ∧ s.exits.config = config ∧ (s.load : Int) ≤ s.limit := by
    refine exec_invariant (fun m => m.Inv ∧ m.exits.config = config ∧ (m.load : Int) ≤ m.limit) ?_
      ⟨new_inv config now, rfl, ?_⟩ hok hrun
    · rintro s₁ l s₂ ⟨hinv, hconfig, hload⟩ hl hstep
      have hsteps := step_steps hstep
      have hsame := steps_config hsteps
      refine ⟨hinv.steps hsteps, hsame.trans hconfig, ?_⟩
      rw [limit, hsame]
      exact load_steps hinv hl hload hsteps
    · have hflight : (new config now).inFlight = ∅ := rfl
      have hexits : (new config now).exitIDs = ∅ := rfl
      have hclients : (new config now).clientConns = ∅ := rfl
      unfold load connectionCount
      rw [hflight, hexits, hclients]
      exact hlimit.le
  obtain ⟨-, hconfig, hload⟩ := hload
  rw [limit, hconfig] at hload
  unfold load at hload
  omega

/-- A server for two connections. -/
def smallConfig : NodeConfig := ⟨.server, 2, ""⟩

/-- A client and an exit connect; the exit connects again under its id after the client has left, and a
    last connection is refused. -/
def inTurn : List Label :=
  [.check .client, .enterClient 0, .pushSnapshot 0, .pushWrite 0 true, .check .exit,
    .exit (.connect 1), .exit (.register 1 ⟨"home", "", 8, ["tcp"]⟩), .exit (.enter 1),
    .endClient 0, .leaveClient 0, .check .exit, .exit (.connect 2),
    .exit (.register 2 ⟨"home", "", 8, ["tcp"]⟩), .exit (.enter 2), .check .client,
    .enterClient 3, .check .client]

theorem inTurn_le_limit :
    ∃ s, exec step (new smallConfig 0) inTurn = some s ∧
      (s.connectionCount : Int) ≤ smallConfig.connectionLimit.toInt := by
  have hrun : exec step (new smallConfig 0) inTurn = some (after step (new smallConfig 0) inTurn) :=
    exec_after (by decide +kernel)
  exact ⟨_, hrun, connections_le_limit (by decide +kernel) (by decide +kernel) hrun⟩

/-- Three clients pass the check before the first of them is in the map. -/
def atOnce : Server :=
  after step (new smallConfig 0)
    [.check .client, .check .client, .check .client, .enterClient 0, .enterClient 1, .enterClient 2]

theorem atOnce_exceeds_limit :
    (exec step (new smallConfig 0) [.check .client, .check .client, .check .client, .enterClient 0,
        .enterClient 1, .enterClient 2]).isSome = true ∧
      ¬ (atOnce.connectionCount : Int) ≤ smallConfig.connectionLimit.toInt :=
  ⟨by decide +kernel, by decide +kernel⟩

end Server

end LnProxy
