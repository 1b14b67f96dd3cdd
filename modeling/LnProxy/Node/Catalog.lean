import LnProxy.Node.Server

set_option autoImplicit false

/-! # What clients know about the exits

A client knows the exits from the last catalog it was sent. Each catalog is a snapshot of the registry
that is written later, so a write can bring back an older view after a newer one, and `catalogLoop`
compares only the lengths of two snapshots, so an exit that joins during a tick hides one that
expires. When everything has come to rest, the clients know the exits if no exit joined or left while
a snapshot was on its way to a client, or during a tick (`Server.undisturbed`): then a client's
catalog is current, or something that will send it a current one is still under way
(`Server.Pending`). -/

namespace LnProxy

open Transition

/-- The snapshot that is still to be written. -/
def Broadcast.held : Broadcast → Option (Finset String)
  | .taken catalog | .writing catalog _ => some catalog
  | .idle | .due => none

def Handler.held : Handler → Option (Finset String)
  | .pushing catalog => some catalog
  | _ => none

/-- The broadcast will still write to client `i`, if it is connected. -/
def Broadcast.reaches (i : Nat) : Broadcast → Prop
  | .due | .taken _ => True
  | .writing _ sessions => i ∈ sessions
  | .idle => False

namespace Server

variable {s s' : Server} {l : Label} {config : NodeConfig} {now : Time} {i : Nat}

/-! ## The property -/

/-- Connection `i` has returned, or only waits for its live session to end. -/
def settled (s : Server) (i : Nat) : Bool :=
  match s.handler i with
  | .absent | .finished => true
  | .waiting => s.live i
  | .exit => decide (s.exits.phase i = .finished) ||
      decide (s.exits.phase i = .serving) && s.exits.live i
  | .admitted | .entered | .pushing _ => false

/-- All handlers wait for the end of their sessions, and no broadcast and no tick is in progress. -/
structure Quiet (s : Server) : Prop where
  handlers : ∀ i < s.accepted, s.settled i = true
  broadcasts : ∀ i < s.accepted, s.broadcast (some i) = .idle
  loop : s.broadcast none = .idle
  tick : s.tick = .idle

instance (s : Server) : Decidable s.Quiet :=
  decidable_of_iff ((∀ i < s.accepted, s.settled i = true) ∧
      (∀ i < s.accepted, s.broadcast (some i) = .idle) ∧ s.broadcast none = .idle ∧ s.tick = .idle)
    ⟨fun h => ⟨h.1, h.2.1, h.2.2.1, h.2.2.2⟩, fun h => ⟨h.handlers, h.broadcasts, h.loop, h.tick⟩⟩

/-- The last catalog written to client `i` has exactly the ids of the registry. -/
def Lists (s : Server) (i : Nat) : Prop :=
  ∃ catalog, s.catalog i = some catalog ∧ ∀ id, id ∈ catalog ↔ s.exits.registry.exits id ≠ none

/-! ## The condition -/

/-- No snapshot is on its way to a client. -/
def allWritten (s : Server) : Bool :=
  decide ((s.broadcast none).held = none) &&
    (List.range s.accepted).all fun i =>
      decide ((s.handler i).held = none) && decide ((s.broadcast (some i)).held = none)

def Label.isTick : Label → Bool
  | .tickExpire _ => true
  | _ => false

/-- The ids in the registry change only while no snapshot is on its way to a client and, other than by
    the tick itself, while no tick is in progress. -/
def undisturbed (s : Server) (l : Label) : Bool :=
  match s.step l with
  | none => true
  | some s' =>
    decide (s'.snapshot = s.snapshot) ||
      s.allWritten && (l.isTick || decide (s.tick = .idle))

/-! ## Catalogs under way -/

/-- Something will still send client `i` the catalog. -/
def Pending (s : Server) (i : Nat) : Prop :=
  s.handler i = .entered ∨ (∃ catalog, s.handler i = .pushing catalog) ∨
    (∃ owner, (s.broadcast owner).reaches i) ∨
    ∃ length, s.tick = .expired length ∧ length ≠ s.snapshot.card

structure Fresh (s : Server) : Prop where
  /-- Broadcasts are those of connections. -/
  running : ∀ i, s.broadcast (some i) ≠ .idle → i < s.accepted
  /-- Snapshots that are still to be written are current. -/
  pushed : ∀ i catalog, (s.handler i).held = some catalog → catalog = s.snapshot
  sent : ∀ owner catalog, (s.broadcast owner).held = some catalog → catalog = s.snapshot
  before : ∀ length, s.tick = .before length → length = s.snapshot.card
  covered : ∀ i ∈ s.clientConns, s.failed i = false →
    s.catalog i = some s.snapshot ∨ s.Pending i

theorem new_fresh (config : NodeConfig) (now : Time) : (new config now).Fresh where
  running i h := absurd rfl h
  pushed i catalog h := by cases h
  sent owner catalog h := by cases h
  before length h := by cases h
  covered i hi := by simp [new] at hi

/-- Clients that are connected have been counted. -/
theorem Inv.client_counted (hinv : s.Inv) (hi : i ∈ s.clientConns) : i < s.accepted := by
  apply hinv.counted
  intro habsent
  simp [hinv.clients i, habsent] at hi

theorem Inv.snapshot_eq (hinv : s.Inv) (hinv' : s'.Inv) (h : ∀ id,
    s'.exits.registry.exits id ≠ none ↔ s.exits.registry.exits id ≠ none) :
    s'.snapshot = s.snapshot := by
  ext id
  rw [hinv'.mem_snapshot, hinv.mem_snapshot]
  exact h id

theorem Fresh.no_held (hfresh : s.Fresh) (hinv : s.Inv) (h : s.allWritten = true) :
    (∀ i, (s.handler i).held = none) ∧ ∀ owner, (s.broadcast owner).held = none := by
  simp only [allWritten, Bool.and_eq_true, decide_eq_true_eq, List.all_eq_true, List.mem_range] at h
  obtain ⟨hloop, hall⟩ := h
  refine ⟨fun i => ?_, fun owner => ?_⟩
  · by_cases hi : s.handler i = .absent
    · rw [hi]
      rfl
    · exact (hall i (hinv.counted i hi)).1
  · cases owner with
    | none => exact hloop
    | some i =>
      by_cases hi : s.broadcast (some i) = .idle
      · rw [hi]
        rfl
      · exact (hall i (hfresh.running i hi)).2

/-! ## Steps -/

/-- A step that leaves the snapshot, the broadcasts, the tick and what was written as they are. -/
theorem Fresh.of_handlers (hfresh : s.Fresh) (hsnapshot : s'.snapshot = s.snapshot)
    (haccepted : s.accepted ≤ s'.accepted) (hbroadcast : s'.broadcast = s.broadcast)
    (htick : s'.tick = s.tick)
    (hpushed : ∀ i catalog, (s'.handler i).held = some catalog →
      (s.handler i).held = some catalog ∨ catalog = s.snapshot)
    (hcovered : ∀ i ∈ s'.clientConns, s'.failed i = false →
      s'.catalog i = some s.snapshot ∨ s'.handler i = .entered ∨
        (∃ catalog, s'.handler i = .pushing catalog) ∨
        (i ∈ s.clientConns ∧ s.failed i = false ∧ s'.catalog i = s.catalog i ∧
          s'.handler i = s.handler i)) : s'.Fresh where
  running i h := (hfresh.running i (hbroadcast ▸ h)).trans_le haccepted
  pushed i catalog h := by
    rw [hsnapshot]
    rcases hpushed i catalog h with hold | hnew
    · exact hfresh.pushed i catalog hold
    · exact hnew
  sent owner catalog h := by
    rw [hsnapshot]
    exact hfresh.sent owner catalog (hbroadcast ▸ h)
  before length h := by
    rw [hsnapshot]
    exact hfresh.before length (htick ▸ h)
  covered i hi hwrites := by
    rw [hsnapshot]
    rcases hcovered i hi hwrites with hcatalog | hentered | hpushing | ⟨hold, hfailed, hsame, hhandler⟩
    · exact Or.inl hcatalog
    · exact Or.inr (Or.inl hentered)
    · exact Or.inr (Or.inr (Or.inl hpushing))
    · rcases hfresh.covered i hold hfailed with hcatalog | hpending
      · exact Or.inl (hsame.trans hcatalog)
      · unfold Pending at hpending ⊢
        rw [hhandler, hbroadcast, htick, hsnapshot]
        exact Or.inr hpending

/-- A step of a broadcast: the others, the handlers and the tick are as before. -/
theorem Fresh.of_broadcast (hfresh : s.Fresh) (owner : Option Nat) {broadcast : Broadcast}
    (hsnapshot : s'.snapshot = s.snapshot) (haccepted : s'.accepted = s.accepted)
    (howner : s.broadcast owner ≠ .idle)
    (hbroadcast : ∀ o, s'.broadcast o = if o = owner then broadcast else s.broadcast o)
    (hhandler : s'.handler = s.handler) (htick : s'.tick = s.tick)
    (hsent : ∀ catalog, broadcast.held = some catalog → catalog = s.snapshot)
    (hcovered : ∀ i ∈ s'.clientConns, s'.failed i = false →
      s'.catalog i = some s.snapshot ∨ broadcast.reaches i ∨
        (i ∈ s.clientConns ∧ s.failed i = false ∧ s'.catalog i = s.catalog i ∧
          ¬ (s.broadcast owner).reaches i)) : s'.Fresh where
  running i h := by
    rw [haccepted]
    rw [hbroadcast] at h
    split at h
    · next heq => exact hfresh.running i (heq ▸ howner)
    · exact hfresh.running i h
  pushed i catalog h := by
    rw [hsnapshot]
    exact hfresh.pushed i catalog (hhandler ▸ h)
  sent o catalog h := by
    rw [hsnapshot]
    rw [hbroadcast] at h
    split at h
    · exact hsent catalog h
    · exact hfresh.sent o catalog h
  before length h := by
    rw [hsnapshot]
    exact hfresh.before length (htick ▸ h)
  covered i hi hwrites := by
    rw [hsnapshot]
    rcases hcovered i hi hwrites with hcatalog | hreaches | ⟨hold, hfailed, hsame, hnot⟩
    · exact Or.inl hcatalog
    · exact Or.inr (Or.inr (Or.inr (Or.inl ⟨owner, by rw [hbroadcast, if_pos rfl]; exact hreaches⟩)))
    · rcases hfresh.covered i hold hfailed with hcatalog | hpending
      · exact Or.inl (hsame.trans hcatalog)
      · right
        unfold Pending at hpending ⊢
        rw [hhandler, htick, hsnapshot]
        refine hpending.imp_right (Or.imp_right (Or.imp_left ?_))
        rintro ⟨o, ho⟩
        have hne : o ≠ owner := by
          rintro rfl
          exact hnot ho
        exact ⟨o, by rwa [hbroadcast, if_neg hne]⟩

/-- A step after which a broadcast is due that reaches every client. -/
theorem Fresh.of_due (owner : Option Nat) (hdue : s'.broadcast owner = .due)
    (hrunning : ∀ i, s'.broadcast (some i) ≠ .idle → i < s'.accepted)
    (hpushed : ∀ i catalog, (s'.handler i).held = some catalog → catalog = s'.snapshot)
    (hsent : ∀ owner catalog, (s'.broadcast owner).held = some catalog →
      catalog = s'.snapshot)
    (hbefore : ∀ length, s'.tick = .before length → length = s'.snapshot.card) : s'.Fresh where
  running := hrunning
  pushed := hpushed
  sent := hsent
  before := hbefore
  covered i _ _ := Or.inr (Or.inr (Or.inr (Or.inl ⟨owner, by rw [hdue]; trivial⟩)))

/-- What a step of `handleExit` announces. -/
theorem announce_cases (l : Exits.Label) (broadcast : Option Nat → Broadcast) :
    (announce broadcast l = broadcast ∧ (∀ i now, l ≠ .add i now) ∧ ∀ i, l ≠ .remove i) ∨
      ∃ i, ((∃ now, l = .add i now) ∨ l = .remove i) ∧
        announce broadcast l = Function.update broadcast (some i) .due := by
  cases l with
  | add i now => exact Or.inr ⟨i, Or.inl ⟨now, rfl⟩, rfl⟩
  | remove i => exact Or.inr ⟨i, Or.inr rfl, rfl⟩
  | _ => exact Or.inl ⟨rfl, nofun, nofun⟩

/-- Only the steps that announce something, and `Expire`, change the ids. -/
theorem ids_steps {l : Exits.Label} {exits exits' : Exits} (h : Exits.Steps exits l exits')
    (hadd : ∀ i now, l ≠ .add i now) (hremove : ∀ i, l ≠ .remove i) (hexpire : ∀ now, l ≠ .expire now)
    (id : String) : exits'.registry.exits id ≠ none ↔ exits.registry.exits id ≠ none := by
  cases h with
  | @add i now _ _ _ => exact absurd rfl (hadd i now)
  | @remove i _ => exact absurd rfl (hremove i)
  | @expire now => exact absurd rfl (hexpire now)
  | heartbeat _ => exact Registry.mem_heartbeat_iff
  | _ => exact Iff.rfl

/-- A handler that adds or removes its exit has started. -/
theorem started_of_announces {l : Exits.Label} {exits exits' : Exits}
    (h : Exits.Steps exits l exits') (hl : (∃ now, l = .add i now) ∨ l = .remove i) :
    exits.phase i ≠ .absent := by
  rcases hl with ⟨now, rfl⟩ | rfl
  · cases h with
    | add hphase _ =>
      rw [hphase]
      nofun
  · cases h with
    | remove hphase =>
      rw [hphase]
      nofun

/-- Snapshots on their way stay current: the ids do not change, or there are none. -/
theorem Fresh.held_current (hinv : s.Inv) (hfresh : s.Fresh) {ids : Finset String}
    (hok : ids = s.snapshot ∨ s.allWritten = true) :
    (∀ i catalog, (s.handler i).held = some catalog → catalog = ids) ∧
      ∀ owner catalog, (s.broadcast owner).held = some catalog → catalog = ids := by
  rcases hok with rfl | hwritten
  · exact ⟨hfresh.pushed, hfresh.sent⟩
  · obtain ⟨hhandlers, hbroadcasts⟩ := hfresh.no_held hinv hwritten
    refine ⟨fun i catalog h => ?_, fun owner catalog h => ?_⟩
    · rw [hhandlers i] at h
      cases h
    · rw [hbroadcasts owner] at h
      cases h

theorem Fresh.exit (hinv : s.Inv) (hfresh : s.Fresh) {l : Exits.Label} {exits : Exits}
    (hallows : s.allows l = true) (hstep : Exits.Steps s.exits l exits)
    (hs' : s' = { s with exits := exits, broadcast := announce s.broadcast l }) (hinv' : s'.Inv)
    (hok : s'.snapshot = s.snapshot ∨ s.allWritten = true ∧ s.tick = .idle) : s'.Fresh := by
  rcases announce_cases l s.broadcast with ⟨hsame, hadd, hremove⟩ | ⟨i, hl, hdue⟩
  · have hids : s'.snapshot = s.snapshot := by
      refine hinv.snapshot_eq hinv' fun id => ?_
      rw [hs']
      refine ids_steps hstep hadd hremove ?_ id
      rintro now rfl
      cases hallows
    subst hs'
    exact hfresh.of_handlers hids le_rfl hsame rfl (fun _ _ h => Or.inl h)
      fun i hi hwrites => Or.inr (Or.inr (Or.inr ⟨hi, hwrites, rfl, rfl⟩))
  · obtain ⟨hpushed, hsent⟩ := hfresh.held_current hinv (hok.imp_right And.left)
    have hbroadcast : s'.broadcast = Function.update s.broadcast (some i) .due := by
      rw [hs']
      exact hdue
    have hhandler : s'.handler = s.handler := by rw [hs']
    refine Fresh.of_due (some i) (by rw [hbroadcast, Function.update_self]) (fun j hj => ?_)
      (fun j catalog h => ?_) (fun owner catalog h => ?_) (fun length h => ?_)
    · have hlt : j < s.accepted := by
        by_cases hji : j = i
        · rw [hji]
          exact hinv.exit_counted (started_of_announces hstep hl)
        · rw [hbroadcast, Function.update_of_ne (by simpa using hji)] at hj
          exact hfresh.running j hj
      rw [hs']
      exact hlt
    · exact hpushed j catalog (hhandler ▸ h)
    · rw [hbroadcast] at h
      by_cases howner : owner = some i
      · rw [howner, Function.update_self] at h
        cases h
      · rw [Function.update_of_ne howner] at h
        exact hsent owner catalog h
    · have htick : s.tick = .before length := by
        rw [hs'] at h
        exact h
      rcases hok with hsame | ⟨-, hidle⟩
      · rw [hsame]
        exact hfresh.before length htick
      · rw [hidle] at htick
        cases htick

/-- Where only the tick moves on, what is under way to a client stays so. -/
theorem Pending.of_tick (h : s.Pending i) (hhandler : s'.handler = s.handler)
    (hbroadcast : s'.broadcast = s.broadcast)
    (htick : ∀ n, s.tick = .expired n → n = s.snapshot.card) : s'.Pending i := by
  unfold Pending
  rw [hhandler, hbroadcast]
  rcases h with hentered | hpushing | hreaches | ⟨n, hexpired, hne⟩
  · exact Or.inl hentered
  · exact Or.inr (Or.inl hpushing)
  · exact Or.inr (Or.inr (Or.inl hreaches))
  · exact absurd (htick n hexpired) hne

/-- After `Expire` the lengths tell whether an exit has expired, for nothing else has changed. -/
theorem Fresh.tickExpire (hinv : s.Inv) (hfresh : s.Fresh) {time : Time} {length : Nat}
    (htick : s.tick = .before length)
    (hs' : s' = { s with
      exits := s.exits.setRegistry (s.exits.registry.expire time), tick := .expired length })
    (hinv' : s'.Inv) (hok : s'.snapshot = s.snapshot ∨ s.allWritten = true) : s'.Fresh := by
  obtain ⟨hpushed, hsent⟩ := hfresh.held_current hinv hok
  have hlength := hfresh.before length htick
  have hsub : s'.snapshot ⊆ s.snapshot := by
    intro id hid
    have hmem := hinv'.mem_snapshot.1 hid
    rw [hs'] at hmem
    obtain ⟨entry, hentry⟩ := Option.ne_none_iff_exists'.1 hmem
    rw [hinv.mem_snapshot, Registry.mem_of_mem_expire hentry]
    exact Option.some_ne_none entry
  have hcovered : ∀ i ∈ s.clientConns, s.failed i = false →
      s.catalog i = some s'.snapshot ∨ s'.Pending i := by
    intro i hi hwrites
    by_cases hcard : length = s'.snapshot.card
    · -- as many ids as before, hence the same ones
      have hsame : s'.snapshot = s.snapshot :=
        Finset.eq_of_subset_of_card_le hsub (by rw [← hlength, hcard])
      rw [hsame]
      exact (hfresh.covered i hi hwrites).imp_right
        (·.of_tick (by rw [hs']) (by rw [hs']) (by simp [htick]))
    · right; right; right; right
      exact ⟨length, by rw [hs'], hcard⟩
  subst hs'
  exact ⟨hfresh.running, hpushed, hsent, nofun, hcovered⟩

/-- What is written to a client is the current catalog, or the write has failed. -/
theorem deliver_cases {i j : Nat} {catalog : Finset String} {ok : Bool}
    (hwrites : (s.deliver i catalog ok).failed j = false) :
    s.failed j = false ∧ (j = i ∧ (s.deliver i catalog ok).catalog j = some catalog ∨
      j ≠ i ∧ (s.deliver i catalog ok).catalog j = s.catalog j) := by
  unfold deliver at hwrites ⊢
  split at hwrites
  · next hok =>
    rw [if_pos hok]
    refine ⟨hwrites, ?_⟩
    by_cases hji : j = i
    · left
      subst hji
      exact ⟨rfl, Function.update_self _ _ _⟩
    · exact Or.inr ⟨hji, Function.update_of_ne hji _ _⟩
  · next hok =>
    have hji : j ≠ i := by
      rintro rfl
      simp at hwrites
    have hold : Function.update s.failed i true j = false := hwrites
    rw [Function.update_of_ne hji] at hold
    rw [if_neg hok]
    exact ⟨hold, Or.inr ⟨hji, rfl⟩⟩

theorem reaches_remaining {catalog : Finset String} {sessions : Finset Nat}
    (hi : i ∈ sessions) : (remaining catalog sessions).reaches i := by
  have hne : sessions ≠ ∅ := Finset.ne_empty_of_mem hi
  unfold remaining
  rw [if_neg hne]
  exact hi

theorem held_remaining {catalog catalog' : Finset String} {sessions : Finset Nat}
    (h : (remaining catalog sessions).held = some catalog') : catalog' = catalog := by
  unfold remaining at h
  split at h
  · cases h
  · exact (Option.some.inj h).symm

/-- The handlers of one connection move on; the others and the maps of what was written stay. -/
theorem Fresh.of_handler (hfresh : s.Fresh) {handler : Handler}
    (hs' : s'.exits = s.exits) (hinv : s.Inv) (hinv' : s'.Inv)
    (haccepted : s.accepted ≤ s'.accepted)
    (hbroadcast : s'.broadcast = s.broadcast) (htick : s'.tick = s.tick)
    (hhandler : ∀ j, s'.handler j = if j = i then handler else s.handler j)
    (hheld : ∀ catalog, handler.held = some catalog → catalog = s.snapshot)
    (hclients : ∀ j ∈ s'.clientConns, j ≠ i → j ∈ s.clientConns)
    (hwritten : ∀ j, s'.failed j = false → j ≠ i →
      s.failed j = false ∧ s'.catalog j = s.catalog j)
    (hself : i ∈ s'.clientConns → s'.failed i = false → s'.catalog i = some s.snapshot ∨
      handler = .entered ∨ ∃ catalog, handler = .pushing catalog) : s'.Fresh := by
  have hsnapshot : s'.snapshot = s.snapshot :=
    hinv.snapshot_eq hinv' fun id => by rw [hs']
  refine hfresh.of_handlers hsnapshot haccepted hbroadcast htick (fun j catalog h => ?_)
    fun j hj hwrites => ?_
  · rw [hhandler] at h
    split at h
    · exact Or.inr (hheld catalog h)
    · exact Or.inl h
  · by_cases hji : j = i
    · subst hji
      rw [hhandler, if_pos rfl]
      rcases hself hj hwrites with hcatalog | hentered | hpushing
      · exact Or.inl hcatalog
      · exact Or.inr (Or.inl hentered)
      · exact Or.inr (Or.inr (Or.inl hpushing))
    · obtain ⟨hfailed, hsame⟩ := hwritten j hwrites hji
      exact Or.inr (Or.inr (Or.inr
        ⟨hclients j hj hji, hfailed, hsame, by rw [hhandler, if_neg hji]⟩))

theorem Fresh.steps (hinv : s.Inv) (hfresh : s.Fresh) (hok : s.undisturbed l = true)
    (hstep : s.step l = some s') : s'.Fresh := by
  have h := step_steps hstep
  have hinv' := hinv.steps h
  have hids : s'.snapshot = s.snapshot ∨
      s.allWritten = true ∧ (l.isTick = true ∨ s.tick = .idle) := by
    simpa [undisturbed, hstep] using hok
  cases h with
  | @refuse peer _ =>
    refine hfresh.of_handler rfl hinv hinv' (Nat.le_succ _) rfl rfl (count_handler s · .finished)
      (fun _ h => by cases h) (fun j hj _ => hj) (fun j hj _ => ⟨hj, rfl⟩) fun hself => ?_
    exact absurd (hinv.client_counted hself) (lt_irrefl _)
  | @pass peer _ =>
    refine hfresh.of_handler rfl hinv hinv' (Nat.le_succ _) rfl rfl
      (count_handler s · peer.handler) (by cases peer <;> simp [Peer.handler, Handler.held])
      (fun j hj _ => hj)
      (fun j hj _ => ⟨hj, rfl⟩) fun hself => ?_
    exact absurd (hinv.client_counted hself) (lt_irrefl _)
  | @startFailed i hphase =>
    refine hfresh.of_handler rfl hinv hinv' le_rfl rfl rfl (setHandler_handler s i · .finished)
      (fun _ h => by cases h) (fun j hj _ => hj) (fun j hj _ => ⟨hj, rfl⟩) fun hself => ?_
    have hself := (hinv.clients i).1 hself
    rcases hphase with hphase | ⟨hphase, -⟩ <;> simp [hphase] at hself
  | @enterClient i hphase =>
    exact hfresh.of_handler rfl hinv hinv' le_rfl rfl rfl (setHandler_handler s i · .entered)
      (fun _ h => by cases h) (fun j hj hji => Finset.mem_of_mem_insert_of_ne hj hji)
      (fun j hj _ => ⟨hj, rfl⟩) fun _ _ => Or.inr (Or.inl rfl)
  | @pushSnapshot i hphase =>
    refine hfresh.of_handler rfl hinv hinv' le_rfl rfl rfl
      (setHandler_handler s i · (.pushing s.snapshot)) (fun catalog h => ?_) (fun j hj _ => hj)
      (fun j hj _ => ⟨hj, rfl⟩) fun _ _ => Or.inr (Or.inr ⟨_, rfl⟩)
    exact (Option.some.inj h).symm
  | @pushWrite i ok catalog hphase =>
    have hcurrent : catalog = s.snapshot := hfresh.pushed i catalog (by rw [hphase]; rfl)
    refine hfresh.of_handler (i := i) (by simp) hinv hinv' (by simp)
      (deliver_broadcast s i catalog ok) (deliver_tick s i catalog ok)
      (fun j => by rw [setHandler_handler, deliver_handler]) (fun other h => by cases h)
      (fun j hj _ => by simpa using hj)
      (fun j hj hji => ?_) fun _ hwrites => ?_
    · obtain ⟨hfailed, ⟨heq, -⟩ | ⟨-, hsame⟩⟩ := deliver_cases hj
      · exact absurd heq hji
      · exact ⟨hfailed, hsame⟩
    · obtain ⟨-, ⟨-, hcatalog⟩ | ⟨hne, -⟩⟩ := deliver_cases hwrites
      · left
        rw [← hcurrent]
        exact hcatalog
      · exact absurd rfl hne
  | endClient =>
    exact hfresh.of_handlers (hinv.snapshot_eq hinv' fun _ => Iff.rfl) le_rfl rfl rfl
      (fun _ _ h => Or.inl h) fun i hi hwrites => Or.inr (Or.inr (Or.inr ⟨hi, hwrites, rfl, rfl⟩))
  | @leaveClient i hphase =>
    refine hfresh.of_handler rfl hinv hinv' le_rfl rfl rfl (setHandler_handler s i · .finished)
      (fun _ h => by cases h) (fun j hj _ => Finset.mem_of_mem_erase hj) (fun j hj _ => ⟨hj, rfl⟩)
      fun hself => ?_
    exact absurd hself (Finset.notMem_erase i _)
  | exit hallows hexits =>
    refine hfresh.exit hinv hallows hexits rfl hinv' (hids.imp_right fun h => ⟨h.1, ?_⟩)
    exact h.2.resolve_left (by simp [Label.isTick])
  | @snapshot owner hdue =>
    refine hfresh.of_broadcast owner (hinv.snapshot_eq hinv' fun _ => Iff.rfl) rfl
      (by rw [hdue]; intro h; cases h) (setBroadcast_broadcast s owner · (.taken s.snapshot)) rfl rfl
      (fun catalog h => (Option.some.inj h).symm) fun i _ _ => Or.inr (Or.inl trivial)
  | @copy owner catalog htaken =>
    have hcurrent : catalog = s.snapshot := hfresh.sent owner catalog (by rw [htaken]; rfl)
    refine hfresh.of_broadcast owner (hinv.snapshot_eq hinv' fun _ => Iff.rfl) rfl
      (by rw [htaken]; intro h; cases h)
      (setBroadcast_broadcast s owner · (remaining catalog s.clientConns)) rfl rfl
      (fun other h => (held_remaining h).trans hcurrent)
      fun i hi _ => Or.inr (Or.inl (reaches_remaining hi))
  | @write owner i ok catalog sessions hwriting hi =>
    have hcurrent : catalog = s.snapshot := hfresh.sent owner catalog (by rw [hwriting]; rfl)
    refine hfresh.of_broadcast owner
      (hinv.snapshot_eq hinv' fun id => by simp) (by simp) (by rw [hwriting]; intro h; cases h)
      (fun o => by rw [setBroadcast_broadcast, deliver_broadcast]) (by simp)
      (deliver_tick s i catalog ok) (fun other h => (held_remaining h).trans hcurrent)
      fun j hj hwrites => ?_
    obtain ⟨hfailed, ⟨-, hcatalog⟩ | ⟨hji, hsame⟩⟩ := deliver_cases hwrites
    · left
      rw [← hcurrent]
      exact hcatalog
    · by_cases hmem : j ∈ sessions
      · exact Or.inr (Or.inl (reaches_remaining (Finset.mem_erase.2 ⟨hji, hmem⟩)))
      · exact Or.inr (Or.inr ⟨by simpa using hj, hfailed, hsame, by rw [hwriting]; exact hmem⟩)
  | tickBefore htick =>
    have hsame := hinv.snapshot_eq hinv' fun _ => Iff.rfl
    refine ⟨hfresh.running, hsame ▸ hfresh.pushed, hsame ▸ hfresh.sent, fun length h => ?_,
      fun i hi hwrites => ?_⟩
    · rw [hsame]
      exact (Tick.before.inj h).symm
    · rw [hsame]
      exact (hfresh.covered i hi hwrites).imp_right (·.of_tick rfl rfl (by simp [htick]))
  | tickExpire htick => exact hfresh.tickExpire hinv htick rfl hinv' (hids.imp_right And.left)
  | tickChanged htick hne =>
    have hsame := hinv.snapshot_eq hinv' fun _ => Iff.rfl
    have hdue : (s.setBroadcast none .due).broadcast none = .due := by simp
    refine Fresh.of_due none hdue (fun i hi => ?_) (hsame ▸ hfresh.pushed)
      (fun owner catalog h => ?_) (fun length h => by cases h)
    · exact hfresh.running i (by simpa using hi)
    · rw [hsame]
      have hheld : ((s.setBroadcast none .due).broadcast owner).held = some catalog := h
      rw [setBroadcast_broadcast] at hheld
      split at hheld
      · cases hheld
      · exact hfresh.sent owner catalog hheld
  | tickSame htick heq =>
    have hsame := hinv.snapshot_eq hinv' fun _ => Iff.rfl
    refine ⟨hfresh.running, hsame ▸ hfresh.pushed, hsame ▸ hfresh.sent, (fun _ h => by cases h),
      fun i hi hwrites => ?_⟩
    rw [hsame]
    refine (hfresh.covered i hi hwrites).imp_right (·.of_tick rfl rfl fun n hexpired => ?_)
    rw [htick] at hexpired
    cases hexpired
    exact heq

/-! ## At rest -/

/-- Nothing is under way to a client when everything is at rest. -/
theorem Quiet.not_pending (hquiet : s.Quiet) (hinv : s.Inv) (hfresh : s.Fresh)
    (hi : i ∈ s.clientConns) : ¬ s.Pending i := by
  have hsettled := hquiet.handlers i (hinv.client_counted hi)
  rintro (hentered | ⟨catalog, hpushing⟩ | ⟨owner, hreaches⟩ | ⟨n, hexpired, -⟩)
  · simp [settled, hentered] at hsettled
  · simp [settled, hpushing] at hsettled
  · have hidle : s.broadcast owner = .idle := by
      cases owner with
      | none => exact hquiet.loop
      | some j =>
        by_contra hne
        exact hne (hquiet.broadcasts j (hfresh.running j hne))
    rw [hidle] at hreaches
    exact hreaches
  · rw [hquiet.tick] at hexpired
    cases hexpired

/-- **Clients know the exits when everything is at rest**, in every run in which no exit joins or
    leaves while a snapshot is on its way to a client or during a tick. -/
theorem lists_of_undisturbed {as : List Label}
    (hok : Along step (fun m l => m.undisturbed l = true) (new config now) as)
    (hrun : exec step (new config now) as = some s) (hquiet : s.Quiet) (hi : i ∈ s.clientConns)
    (hwrites : s.failed i = false) : s.Lists i := by
  have hboth : s.Inv ∧ s.Fresh := by
    refine exec_invariant (fun m => m.Inv ∧ m.Fresh) ?_ ⟨new_inv config now, new_fresh config now⟩
      hok hrun
    rintro s₁ l s₂ ⟨hinv, hfresh⟩ hl hstep
    exact ⟨hinv.steps (step_steps hstep), hfresh.steps hinv hl hstep⟩
  obtain ⟨hinv, hfresh⟩ := hboth
  rcases hfresh.covered i hi hwrites with hcatalog | hpending
  · exact ⟨s.snapshot, hcatalog, fun id => hinv.mem_snapshot⟩
  · exact absurd hpending (hquiet.not_pending hinv hfresh hi)

/-- Client 0 connects and is sent the catalog. -/
def clientJoins : List Label := [.check .client, .enterClient 0, .pushSnapshot 0, .pushWrite 0 true]

/-- Connection `i` adds an exit. -/
def exitJoins (i : Nat) (id : String) (now : Time) : List Label :=
  [.check .exit, .exit (.connect i), .exit (.register i ⟨id, "", 8, ["tcp"]⟩), .exit (.enter i),
    .exit (.add i now)]

/-- A whole broadcast to client 0. -/
def broadcasts (owner : Option Nat) : List Label :=
  [.snapshot owner, .copy owner, .write owner 0 true]

/-- Two exits join, the first one expires at a tick and the second one leaves. -/
def oneAfterTheOther : List Label :=
  clientJoins ++ exitJoins 1 "home" 0 ++ broadcasts (some 1) ++
    exitJoins 2 "away" (seconds 40) ++ broadcasts (some 2) ++
    [.tickBefore, .tickExpire (seconds 50), .tickAfter] ++ broadcasts none ++
    [.exit (.sessionEnd 2), .exit (.leave 2), .exit (.remove 2)] ++ broadcasts (some 2)

theorem oneAfterTheOther_lists :
    ∃ s, exec step (new Exits.sampleConfig 0) oneAfterTheOther = some s ∧ s.Quiet ∧
      0 ∈ s.clientConns ∧ s.failed 0 = false ∧ s.Lists 0 := by
  have hrun : exec step (new Exits.sampleConfig 0) oneAfterTheOther =
      some (after step (new Exits.sampleConfig 0) oneAfterTheOther) := exec_after (by decide +kernel)
  have hquiet : (after step (new Exits.sampleConfig 0) oneAfterTheOther).Quiet := by decide +kernel
  have hi : 0 ∈ (after step (new Exits.sampleConfig 0) oneAfterTheOther).clientConns := by
    decide +kernel
  have hwrites : (after step (new Exits.sampleConfig 0) oneAfterTheOther).failed 0 = false := by
    decide +kernel
  exact ⟨_, hrun, hquiet, hi, hwrites,
    lists_of_undisturbed (by decide +kernel) hrun hquiet hi hwrites⟩

/-- The second exit's broadcast overtakes the first one's. -/
def overtaking : List Label :=
  clientJoins ++ exitJoins 1 "home" 0 ++ [.snapshot (some 1), .copy (some 1)] ++
    exitJoins 2 "away" 0 ++ broadcasts (some 2) ++ [.write (some 1) 0 true]

/-- During a tick an exit joins and another one expires. -/
def sameLength : List Label :=
  clientJoins ++ exitJoins 1 "home" 0 ++ broadcasts (some 1) ++ [.tickBefore] ++
    exitJoins 2 "away" (seconds 46) ++ broadcasts (some 2) ++ [.tickExpire (seconds 46), .tickAfter]

theorem not_lists_of_differs {catalog : Finset String} {id : String}
    (hcatalog : s.catalog i = some catalog)
    (hid : ¬ (id ∈ catalog ↔ s.exits.registry.exits id ≠ none)) : ¬ s.Lists i := by
  rintro ⟨other, hother, hsame⟩
  rw [hcatalog, Option.some.injEq] at hother
  rw [hother] at hid
  exact hid (hsame id)

/-- The client does not know `away` in the first run, and still knows `home` in the second. -/
theorem overtaking_sameLength_not_lists :
    (∃ s, exec step (new Exits.sampleConfig 0) overtaking = some s ∧ s.Quiet ∧
        0 ∈ s.clientConns ∧ s.failed 0 = false ∧ ¬ s.Lists 0) ∧
      ∃ s, exec step (new Exits.sampleConfig 0) sameLength = some s ∧ s.Quiet ∧
        0 ∈ s.clientConns ∧ s.failed 0 = false ∧ ¬ s.Lists 0 := by
  refine ⟨⟨_, exec_after (by decide +kernel), by decide +kernel, by decide +kernel,
      by decide +kernel, ?_⟩,
    ⟨_, exec_after (by decide +kernel), by decide +kernel, by decide +kernel, by decide +kernel, ?_⟩⟩
  · have hcatalog : (after step (new Exits.sampleConfig 0) overtaking).catalog 0 =
        some {"direct", "home"} := by decide +kernel
    have hid : ¬ ("away" ∈ ({"direct", "home"} : Finset String) ↔
        (after step (new Exits.sampleConfig 0) overtaking).exits.registry.exits "away" ≠ none) := by
      decide +kernel
    exact not_lists_of_differs hcatalog hid
  · have hcatalog : (after step (new Exits.sampleConfig 0) sameLength).catalog 0 =
        some {"direct", "home", "away"} := by decide +kernel
    have hid : ¬ ("home" ∈ ({"direct", "home", "away"} : Finset String) ↔
        (after step (new Exits.sampleConfig 0) sameLength).exits.registry.exits "home" ≠ none) := by
      decide +kernel
    exact not_lists_of_differs hcatalog hid

end Server

end LnProxy
