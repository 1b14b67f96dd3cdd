import Mathlib.Data.Finset.Card
import Mathlib.Data.Finset.Image
import Mathlib.Data.Finset.Range
import LnProxy.Node.Exits

set_option autoImplicit false

/-! # The server with its clients and catalogs (`Server.handleConnection`)

Every connection has a `handleConnection` of its own. Past the handshake it reads the number of
connections, under the server's lock, and goes on as a client or as an exit; the maps are extended
later, under the lock again. Clients are sent the catalog of exits: `pushCatalog` when they connect,
`broadcastCatalog` after an exit was added or removed, and `catalogLoop` when it finds that exits
have expired. A catalog is a snapshot of the registry that is written afterwards, to one session
after the other, and nothing orders the goroutines that do so.

The steps of the exits are those of `Exits.lean`. Connections are numbered in the order in which they
are counted; only the ids of a catalog are kept. -/

namespace LnProxy

open Transition

/-! ## State -/

/-- The role a peer has authenticated. -/
inductive Peer where
  | client
  | exit
  deriving DecidableEq, Repr

/-- Where a run of `handleConnection` stands. -/
inductive Handler where
  /-- Before the connections are counted. -/
  | absent
  /-- `handleClient`, before the update of `clientConns`. -/
  | admitted
  /-- In `clientConns`, before the snapshot of `pushCatalog`. -/
  | entered
  /-- `pushCatalog` has its snapshot and has not written it. -/
  | pushing (catalog : Finset String)
  /-- At `<-sess.Done()`. -/
  | waiting
  /-- `handleExit`; where it stands is in `Exits.phase`. -/
  | exit
  /-- Returned. -/
  | finished
  deriving DecidableEq

/-- Where a connection goes on that was counted below the limit. -/
def Peer.handler : Peer → Handler
  | .client => .admitted
  | .exit => .exit

/-- Where a call of `broadcastCatalog` stands. -/
inductive Broadcast where
  | idle
  /-- Before the snapshot. -/
  | due
  /-- Between the snapshot and the copy of `clientConns`. -/
  | taken (catalog : Finset String)
  /-- The sessions that are still to be written to. -/
  | writing (catalog : Finset String) (sessions : Finset Nat)
  deriving DecidableEq

/-- Where the body of `catalogLoop` stands. -/
inductive Tick where
  | idle
  /-- `before` has been taken; its length. -/
  | before (length : Nat)
  /-- `Expire` has deleted and has not taken its snapshot. -/
  | expired (length : Nat)
  deriving DecidableEq

structure Server where
  exits : Exits
  /-- The connections that have been counted so far. -/
  accepted : Nat
  handler : Nat → Handler
  clientConns : Finset Nat
  /-- The session of the client has not ended. -/
  live : Nat → Bool
  /-- The call of `broadcastCatalog` of a `handleExit`, and of `catalogLoop`. -/
  broadcast : Option Nat → Broadcast
  tick : Tick
  /-- The last catalog that was written to the client. -/
  catalog : Nat → Option (Finset String)
  /-- Some catalog could not be written to the client. -/
  failed : Nat → Bool

namespace Server

/-- `NewServer` -/
def new (config : NodeConfig) (now : Time) : Server where
  exits := Exits.new config now
  accepted := 0
  handler := fun _ => .absent
  clientConns := ∅
  live := fun _ => false
  broadcast := fun _ => .idle
  tick := .idle
  catalog := fun _ => none
  failed := fun _ => false

/-- All ids that the registry or `exitConns` can have. -/
def names (s : Server) : Finset String :=
  insert directID ((Finset.range s.accepted).image s.exits.idOf)

/-- The keys of `exitConns`. -/
def exitIDs (s : Server) : Finset String :=
  s.names.filter fun id => (s.exits.exitConns id).isSome

/-- The ids of `registry.Snapshot()`. -/
def snapshot (s : Server) : Finset String :=
  s.names.filter fun id => (s.exits.registry.exits id).isSome

def connectionCount (s : Server) : Nat := s.clientConns.card + s.exitIDs.card

def limit (s : Server) : Int := s.exits.config.connectionLimit.toInt

/-! ## Steps -/

inductive Label where
  /-- `handleConnection` counts the connections. -/
  | check (peer : Peer)
  /-- `sess.Start` returns an error. -/
  | startFailed (i : Nat)
  /-- The update of `clientConns`. -/
  | enterClient (i : Nat)
  /-- `pushCatalog`: the snapshot. -/
  | pushSnapshot (i : Nat)
  /-- `pushCatalog`: the write. -/
  | pushWrite (i : Nat) (ok : Bool)
  /-- The session of a client ends. -/
  | endClient (i : Nat)
  /-- The session has ended; the deletion from `clientConns`. -/
  | leaveClient (i : Nat)
  /-- A step of `handleExit`. -/
  | exit (l : Exits.Label)
  /-- `broadcastCatalog`: the snapshot. -/
  | snapshot (owner : Option Nat)
  /-- `broadcastCatalog`: the copy of `clientConns`. -/
  | copy (owner : Option Nat)
  /-- `broadcastCatalog`: the write to one session. -/
  | write (owner : Option Nat) (i : Nat) (ok : Bool)
  /-- `catalogLoop`: the first snapshot. -/
  | tickBefore
  /-- `catalogLoop`: the deletions of `Expire`. -/
  | tickExpire (now : Time)
  /-- `catalogLoop`: the snapshot of `Expire` and the comparison. -/
  | tickAfter
  deriving DecidableEq, Repr

/-- What a `handleExit` has to wait for: it starts after it was counted, and leaves after its
    broadcast. `Expire` is called by `catalogLoop` only. -/
def allows (s : Server) : Exits.Label → Bool
  | .connect i => decide (s.handler i = .exit)
  | .leave i => decide (s.broadcast (some i) = .idle)
  | .expire _ => false
  | _ => true

/-- The broadcasts after a step of `handleExit`: it broadcasts once it has changed the registry. -/
def announce (broadcast : Option Nat → Broadcast) : Exits.Label → Option Nat → Broadcast
  | .add i _ | .remove i => Function.update broadcast (some i) .due
  | _ => broadcast

/-- `broadcastCatalog` returns when no session is left. -/
def remaining (catalog : Finset String) (sessions : Finset Nat) : Broadcast :=
  if sessions = ∅ then .idle else .writing catalog sessions

/-- `WriteJSON` of a catalog to the session of client `i`. -/
def deliver (s : Server) (i : Nat) (catalog : Finset String) (ok : Bool) : Server :=
  if ok then { s with catalog := Function.update s.catalog i (some catalog) }
  else { s with failed := Function.update s.failed i true }

def setHandler (s : Server) (i : Nat) (handler : Handler) : Server :=
  { s with handler := Function.update s.handler i handler }

def setBroadcast (s : Server) (owner : Option Nat) (broadcast : Broadcast) : Server :=
  { s with broadcast := Function.update s.broadcast owner broadcast }

/-- A connection was counted. -/
def count (s : Server) (handler : Handler) : Server :=
  { s with
    accepted := s.accepted + 1,
    handler := Function.update s.handler s.accepted handler,
    live := Function.update s.live s.accepted true }

def step (s : Server) : Label → Option Server
  | .check peer =>
    if s.limit ≤ s.connectionCount then some (s.count .finished)
    else some (s.count peer.handler)
  | .startFailed i =>
    if s.handler i = .admitted ∨ s.handler i = .exit ∧ s.exits.phase i = .absent then
      some (s.setHandler i .finished)
    else none
  | .enterClient i =>
    if s.handler i = .admitted then
      some { s.setHandler i .entered with clientConns := insert i s.clientConns }
    else none
  | .pushSnapshot i =>
    if s.handler i = .entered then some (s.setHandler i (.pushing s.snapshot)) else none
  | .pushWrite i ok =>
    match s.handler i with
    | .pushing catalog =>
      if ok = true → s.live i = true then
        some ((s.deliver i catalog ok).setHandler i .waiting)
      else none
    | _ => none
  | .endClient i =>
    if s.live i then some { s with live := Function.update s.live i false } else none
  | .leaveClient i =>
    if s.handler i = .waiting ∧ s.live i = false then
      some { s.setHandler i .finished with clientConns := s.clientConns.erase i }
    else none
  | .exit l =>
    if s.allows l then
      match s.exits.step l with
      | none => none
      | some exits => some { s with exits := exits, broadcast := announce s.broadcast l }
    else none
  | .snapshot owner =>
    if s.broadcast owner = .due then some (s.setBroadcast owner (.taken s.snapshot)) else none
  | .copy owner =>
    match s.broadcast owner with
    | .taken catalog => some (s.setBroadcast owner (remaining catalog s.clientConns))
    | _ => none
  | .write owner i ok =>
    match s.broadcast owner with
    | .writing catalog sessions =>
      if i ∈ sessions ∧ (ok = true → s.live i = true) then
        some ((s.deliver i catalog ok).setBroadcast owner
          (remaining catalog (sessions.erase i)))
      else none
    | _ => none
  | .tickBefore =>
    if s.tick = .idle ∧ s.broadcast none = .idle then
      some { s with tick := .before s.snapshot.card }
    else none
  | .tickExpire now =>
    match s.tick with
    | .before length =>
      some { s with
        exits := s.exits.setRegistry (s.exits.registry.expire now), tick := .expired length }
    | _ => none
  | .tickAfter =>
    match s.tick with
    | .expired length =>
      if length ≠ s.snapshot.card then
        some { s.setBroadcast none .due with tick := .idle }
      else some { s with tick := .idle }
    | _ => none

/-- What a step can do. -/
inductive Steps (s : Server) : Label → Server → Prop where
  | refuse {peer : Peer} (h : s.limit ≤ s.connectionCount) :
      Steps s (.check peer) (s.count .finished)
  | pass {peer : Peer} (h : s.connectionCount < s.limit) :
      Steps s (.check peer) (s.count peer.handler)
  | startFailed {i : Nat}
      (h : s.handler i = .admitted ∨ s.handler i = .exit ∧ s.exits.phase i = .absent) :
      Steps s (.startFailed i) (s.setHandler i .finished)
  | enterClient {i : Nat} (h : s.handler i = .admitted) :
      Steps s (.enterClient i)
        { s.setHandler i .entered with clientConns := insert i s.clientConns }
  | pushSnapshot {i : Nat} (h : s.handler i = .entered) :
      Steps s (.pushSnapshot i) (s.setHandler i (.pushing s.snapshot))
  | pushWrite {i : Nat} {ok : Bool} {catalog : Finset String} (h : s.handler i = .pushing catalog) :
      Steps s (.pushWrite i ok) ((s.deliver i catalog ok).setHandler i .waiting)
  | endClient {i : Nat} :
      Steps s (.endClient i) { s with live := Function.update s.live i false }
  | leaveClient {i : Nat} (h : s.handler i = .waiting) :
      Steps s (.leaveClient i)
        { s.setHandler i .finished with clientConns := s.clientConns.erase i }
  | exit {l : Exits.Label} {exits : Exits} (h : s.allows l = true) (hstep : Exits.Steps s.exits l exits) :
      Steps s (.exit l) { s with exits := exits, broadcast := announce s.broadcast l }
  | snapshot {owner : Option Nat} (h : s.broadcast owner = .due) :
      Steps s (.snapshot owner) (s.setBroadcast owner (.taken s.snapshot))
  | copy {owner : Option Nat} {catalog : Finset String} (h : s.broadcast owner = .taken catalog) :
      Steps s (.copy owner) (s.setBroadcast owner (remaining catalog s.clientConns))
  | write {owner : Option Nat} {i : Nat} {ok : Bool} {catalog : Finset String}
      {sessions : Finset Nat} (h : s.broadcast owner = .writing catalog sessions) (hi : i ∈ sessions) :
      Steps s (.write owner i ok) ((s.deliver i catalog ok).setBroadcast owner
        (remaining catalog (sessions.erase i)))
  | tickBefore (h : s.tick = .idle) :
      Steps s .tickBefore { s with tick := .before s.snapshot.card }
  | tickExpire {now : Time} {length : Nat} (h : s.tick = .before length) :
      Steps s (.tickExpire now) { s with
        exits := s.exits.setRegistry (s.exits.registry.expire now), tick := .expired length }
  | tickChanged {length : Nat} (h : s.tick = .expired length) (hne : length ≠ s.snapshot.card) :
      Steps s .tickAfter { s.setBroadcast none .due with tick := .idle }
  | tickSame {length : Nat} (h : s.tick = .expired length) (heq : length = s.snapshot.card) :
      Steps s .tickAfter { s with tick := .idle }

variable {s s' : Server} {l : Label} {config : NodeConfig} {now : Time}

theorem step_steps (h : s.step l = some s') : Steps s l s' := by
  cases l with
  | check peer =>
    simp only [step] at h
    split at h
    · next hfull =>
      cases h
      exact .refuse hfull
    · next hroom =>
      cases h
      exact .pass (not_le.1 hroom)
  | startFailed i =>
    obtain ⟨hphase, rfl⟩ := eq_of_ite_some h
    exact .startFailed hphase
  | enterClient i =>
    obtain ⟨hphase, rfl⟩ := eq_of_ite_some h
    exact .enterClient hphase
  | pushSnapshot i =>
    obtain ⟨hphase, rfl⟩ := eq_of_ite_some h
    exact .pushSnapshot hphase
  | pushWrite i ok =>
    simp only [step] at h
    split at h
    · next catalog hphase =>
      obtain ⟨-, rfl⟩ := eq_of_ite_some h
      exact .pushWrite hphase
    · cases h
  | endClient i =>
    obtain ⟨-, rfl⟩ := eq_of_ite_some h
    exact .endClient
  | leaveClient i =>
    obtain ⟨⟨hphase, -⟩, rfl⟩ := eq_of_ite_some h
    exact .leaveClient hphase
  | exit l =>
    obtain ⟨hallows, h⟩ := Option.ite_none_right_eq_some.1 h
    split at h
    · cases h
    · next exits hexits =>
      cases h
      exact .exit hallows (Exits.step_steps hexits)
  | snapshot owner =>
    obtain ⟨hdue, rfl⟩ := eq_of_ite_some h
    exact .snapshot hdue
  | copy owner =>
    simp only [step] at h
    split at h
    · next catalog htaken =>
      cases h
      exact .copy htaken
    · cases h
  | write owner i ok =>
    simp only [step] at h
    split at h
    · next catalog sessions hwriting =>
      obtain ⟨⟨hi, -⟩, rfl⟩ := eq_of_ite_some h
      exact .write hwriting hi
    · cases h
  | tickBefore =>
    obtain ⟨⟨htick, -⟩, rfl⟩ := eq_of_ite_some h
    exact .tickBefore htick
  | tickExpire now =>
    simp only [step] at h
    split at h
    · next length htick =>
      cases h
      exact .tickExpire htick
    · cases h
  | tickAfter =>
    simp only [step] at h
    split at h
    · next length htick =>
      split at h
      · next hne =>
        cases h
        exact .tickChanged htick hne
      · next heq =>
        cases h
        exact .tickSame htick (not_not.1 heq)
    · cases h

/-! ## Fields -/

section Fields

variable (s : Server) (i j : Nat) (handler : Handler) (owner owner' : Option Nat)
  (broadcast : Broadcast) (catalog : Finset String) (ok : Bool)

@[simp] theorem deliver_exits : (s.deliver i catalog ok).exits = s.exits := by
  unfold deliver
  split <;> rfl
@[simp] theorem deliver_accepted : (s.deliver i catalog ok).accepted = s.accepted := by
  unfold deliver
  split <;> rfl
@[simp] theorem deliver_handler : (s.deliver i catalog ok).handler = s.handler := by
  unfold deliver
  split <;> rfl
@[simp] theorem deliver_clientConns : (s.deliver i catalog ok).clientConns = s.clientConns := by
  unfold deliver
  split <;> rfl
@[simp] theorem deliver_broadcast : (s.deliver i catalog ok).broadcast = s.broadcast := by
  unfold deliver
  split <;> rfl
@[simp] theorem deliver_tick : (s.deliver i catalog ok).tick = s.tick := by
  unfold deliver
  split <;> rfl
@[simp] theorem setHandler_exits : (s.setHandler i handler).exits = s.exits := rfl
@[simp] theorem setHandler_accepted : (s.setHandler i handler).accepted = s.accepted := rfl
@[simp] theorem setHandler_handler :
    (s.setHandler i handler).handler j = if j = i then handler else s.handler j := by
  simp [setHandler, Function.update_apply]
@[simp] theorem setHandler_clientConns :
    (s.setHandler i handler).clientConns = s.clientConns := rfl
@[simp] theorem setBroadcast_exits : (s.setBroadcast owner broadcast).exits = s.exits := rfl
@[simp] theorem setBroadcast_accepted :
    (s.setBroadcast owner broadcast).accepted = s.accepted := rfl
@[simp] theorem setBroadcast_handler : (s.setBroadcast owner broadcast).handler = s.handler := rfl
@[simp] theorem setBroadcast_clientConns :
    (s.setBroadcast owner broadcast).clientConns = s.clientConns := rfl
@[simp] theorem setBroadcast_broadcast :
    (s.setBroadcast owner broadcast).broadcast owner' =
      if owner' = owner then broadcast else s.broadcast owner' := by
  simp [setBroadcast, Function.update_apply]
@[simp] theorem count_exits : (s.count handler).exits = s.exits := rfl
@[simp] theorem count_accepted : (s.count handler).accepted = s.accepted + 1 := rfl
@[simp] theorem count_handler :
    (s.count handler).handler j = if j = s.accepted then handler else s.handler j := by
  simp [count, Function.update_apply]
@[simp] theorem count_clientConns : (s.count handler).clientConns = s.clientConns := rfl

end Fields

/-! ## Connections and their numbers -/

structure Inv (s : Server) : Prop where
  exits : s.exits.Inv
  /-- Connections that were not counted have no handler. -/
  counted : ∀ i, s.handler i ≠ .absent → i < s.accepted
  /-- A `handleExit` that has started was counted. -/
  started : ∀ i, s.exits.phase i ≠ .absent → s.handler i = .exit
  /-- The map of clients has the handlers between its two updates. -/
  clients : ∀ i, i ∈ s.clientConns ↔
    s.handler i = .entered ∨ (∃ catalog, s.handler i = .pushing catalog) ∨ s.handler i = .waiting

theorem new_inv (config : NodeConfig) (now : Time) : (new config now).Inv where
  exits := Exits.new_inv config now
  counted i h := absurd rfl h
  started i h := absurd rfl h
  clients i := by simp [new]

theorem steps_config (h : Steps s l s') : s'.exits.config = s.exits.config := by
  cases h with
  | exit h hstep => cases hstep <;> rfl
  | pushWrite h => simp
  | write h hi => simp
  | _ => rfl

/-- A step of `handleExit` is one of a connection whose handler has started, or starts it. -/
theorem phase_steps {l : Exits.Label} {exits exits' : Exits} (h : Exits.Steps exits l exits') {i : Nat}
    (hphase : exits'.phase i ≠ .absent) : exits.phase i ≠ .absent ∨ l = .connect i := by
  cases h with
  | @connect j h =>
    by_cases hi : i = j
    · exact Or.inr (by rw [hi])
    · left
      rwa [Exits.goto_phase, if_neg hi] at hphase
  | @register j _ _ h _ | @registerInvalid j _ h | @giveUp j h | @enter j h | @add j _ _ h _
  | @leave j h _ | @remove j h =>
    left
    by_cases hi : i = j
    · rw [hi, h]
      nofun
    · rwa [Exits.goto_phase, if_neg hi] at hphase
  | sessionEnd | heartbeat _ | expire => exact Or.inl hphase

/-- A new connection is not in `clientConns`. -/
theorem Inv.count (hinv : s.Inv) {handler : Handler} (hout : handler ≠ .entered ∧
    (∀ catalog, handler ≠ .pushing catalog) ∧ handler ≠ .waiting) : (s.count handler).Inv := by
  -- the number of the new connection has no handler yet
  have hfresh : s.handler s.accepted = .absent := by
    by_contra hne
    exact lt_irrefl _ (hinv.counted _ hne)
  refine ⟨hinv.exits, fun i hi => ?_, fun i hi => ?_, fun i => ?_⟩
  · rw [count_handler] at hi
    split at hi
    · next heq => simp [heq]
    · exact Nat.lt_succ_of_lt (hinv.counted i hi)
  · have hexit := hinv.started i hi
    have hne : i ≠ s.accepted := by
      rintro rfl
      rw [hfresh] at hexit
      cases hexit
    rwa [count_handler, if_neg hne]
  · have hi := hinv.clients i
    rw [count_handler, count_clientConns]
    split
    · next heq =>
      rw [heq, hfresh] at hi
      rw [heq, hi]
      simp [hout]
    · exact hi

theorem Inv.steps (hinv : s.Inv) (h : Steps s l s') : s'.Inv := by
  have hcounted := hinv.counted
  have hstarted := hinv.started
  have hclients := hinv.clients
  cases h with
  | exit hallows hstep =>
    refine ⟨hinv.exits.steps hstep, hcounted, fun i hphase => ?_, hclients⟩
    rcases phase_steps hstep hphase with hold | rfl
    · exact hstarted i hold
    · exact of_decide_eq_true hallows
  | tickExpire htick => exact ⟨hinv.exits.steps .expire, hcounted, hstarted, hclients⟩
  | refuse _ => exact hinv.count (by simp)
  | @pass peer _ => exact hinv.count (by cases peer <;> simp [Peer.handler])
  | @startFailed i hphase =>
    refine ⟨hinv.exits, fun j hj => ?_, fun j hj => ?_, fun j => ?_⟩
    · by_cases hji : j = i
      · subst hji
        apply hcounted
        rcases hphase with hphase | ⟨hphase, -⟩ <;> rw [hphase] <;> nofun
      · rw [setHandler_handler, if_neg hji] at hj
        exact hcounted j hj
    · have hexit := hstarted j hj
      have hji : j ≠ i := by
        rintro rfl
        rcases hphase with hphase | ⟨-, habsent⟩
        · rw [hphase] at hexit
          cases hexit
        · exact hj habsent
      rwa [setHandler_handler, if_neg hji]
    · have hj := hclients j
      rw [setHandler_handler, setHandler_clientConns]
      split
      · next heq =>
        subst heq
        rw [hj]
        rcases hphase with hphase | ⟨hphase, -⟩ <;> simp [hphase]
      · exact hj
  | @enterClient i hphase | @pushSnapshot i hphase | @pushWrite i _ _ hphase
  | @leaveClient i hphase =>
    refine ⟨by simpa using hinv.exits, fun j hj => ?_, fun j hj => ?_, fun j => ?_⟩
    · by_cases hji : j = i
      · subst hji
        have hlt := hcounted j (by rw [hphase]; nofun)
        simpa using hlt
      · have hlt := hcounted j (by simpa [hji] using hj)
        simpa using hlt
    · have hexit := hstarted j (by simpa using hj)
      have hji : j ≠ i := by
        rintro rfl
        rw [hphase] at hexit
        cases hexit
      simpa [hji] using hexit
    · have hj := hclients j
      by_cases hji : j = i
      · subst hji
        simp [hphase] at hj
        simp [hj]
      · simpa [hji] using hj
  | write hwriting hi =>
    exact ⟨by simpa using hinv.exits, by simpa using hcounted, by simpa using hstarted,
      by simpa using hclients⟩
  | endClient | snapshot _ | copy _ | tickBefore _ | tickChanged _ _ | tickSame _ _ =>
    exact ⟨hinv.exits, hcounted, hstarted, hclients⟩

theorem Inv.exit_counted (hinv : s.Inv) {i : Nat} (h : s.exits.phase i ≠ .absent) :
    i < s.accepted := by
  apply hinv.counted
  rw [hinv.started i h]
  nofun

theorem Inv.mem_names (hinv : s.Inv) {i : Nat} (h : s.exits.phase i ≠ .absent) :
    s.exits.idOf i ∈ s.names :=
  Finset.mem_insert_of_mem
    (Finset.mem_image_of_mem _ (Finset.mem_range.2 (hinv.exit_counted h)))

/-- `exitIDs` are the keys of `exitConns`. -/
theorem Inv.mem_exitIDs (hinv : s.Inv) {id : String} :
    id ∈ s.exitIDs ↔ s.exits.exitConns id ≠ none := by
  unfold exitIDs
  rw [Finset.mem_filter, Option.isSome_iff_ne_none]
  refine ⟨And.right, fun h => ⟨?_, h⟩⟩
  obtain ⟨i, hi⟩ := Option.ne_none_iff_exists'.1 h
  obtain ⟨rfl, hphase⟩ := hinv.exits.conns id i hi
  apply hinv.mem_names
  rcases hphase with hphase | hphase <;> rw [hphase] <;> nofun

/-- `snapshot` has the keys of the registry. -/
theorem Inv.mem_snapshot (hinv : s.Inv) {id : String} :
    id ∈ s.snapshot ↔ s.exits.registry.exits id ≠ none := by
  unfold snapshot
  rw [Finset.mem_filter, Option.isSome_iff_ne_none]
  refine ⟨And.right, fun h => ⟨?_, h⟩⟩
  by_cases hid : id = directID
  · rw [hid]
    exact Finset.mem_insert_self _ _
  · obtain ⟨i, rfl, hphase⟩ := hinv.exits.listed id hid h
    apply hinv.mem_names
    rcases hphase with hphase | hphase <;> rw [hphase] <;> nofun

end Server

end LnProxy
