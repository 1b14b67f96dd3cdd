import LnProxy.Trust.KnownHosts

set_option autoImplicit false

/-! # Whom a node proves its passphrase to (`Exit.Run`, `Manager.connectTransport`)

An exit and a client connect to the server in the same way: they read the fingerprint they expect
(`trustConfig`), dial over QUIC and, when this fails, over TLS with the same expectation, and run
`ClientHandshakePassword` on the connection they get. The certificate is checked in the TLS handshake
of each dial. They differ in what they do when the server is not trusted: an exit gives up if the error
of the QUIC dial shows it, a client dials over TLS all the same. `Exit.Run` connects again and again,
with growing delays.

Any number of such callers work on one trust store here, in any order of their steps. The dials are
parameters: whether the server is reached, which certificates it presents, when the context ends. -/

namespace LnProxy.Trust.Dialing

open Transition

/-! ## Callers -/

inductive Role where
  | exit
  | client
  deriving DecidableEq, Repr

structure Caller where
  role : Role
  /-- `config.ServerFingerprint` of an exit; a client has none. -/
  fingerprint : Text
  /-- There is a trust store. -/
  trust : Bool
  forceTCP : Bool
  host : String
  deriving DecidableEq

/-- The fingerprint to expect, and whether the trust store is asked. -/
def trustConfig (k : KnownHosts) (caller : Caller) : Text × Bool :=
  if caller.fingerprint ≠ [] then (caller.fingerprint, false)
  else if caller.trust then (k.get caller.host, true)
  else ([], false)

/-! ## Their steps -/

/-- What has become of the certificate in a dial. -/
inductive Check where
  | pending
  | rejected
  | accepted (raw : Bytes)
  deriving DecidableEq, Repr

inductive Phase where
  /-- About to connect. -/
  | ready
  | dialing (quic : Bool) (expected : Text) (trust : Bool) (check : Check)
  /-- `OpenControlStream` -/
  | control (raw : Bytes)
  /-- About to run `ClientHandshakePassword`. -/
  | handshake (raw : Bytes)
  /-- In the handshake, or in the session behind it. -/
  | connected
  /-- The attempt is over; its error is a `TrustError` or not. -/
  | ended (distrust : Bool)
  /-- `Exit.Run` waits for its timer. -/
  | waiting
  /-- `Exit.Run` has returned a `TrustError`, or the error of its context. -/
  | returned (distrust : Bool)
  deriving DecidableEq, Repr

namespace Phase

/-- The certificate the attempt goes on with. -/
def peer : Phase → Option Bytes
  | .dialing _ _ _ (.accepted raw) => some raw
  | .control raw => some raw
  | .handshake raw => some raw
  | _ => none

def dials : Phase → Bool
  | .dialing _ _ _ _ => true
  | _ => false

/-- In an attempt, or before it. -/
def active : Phase → Bool
  | .waiting => false
  | .returned _ => false
  | _ => true

/-- The attempt has not failed for want of trust, and `Run` goes on. -/
def going : Phase → Bool
  | .dialing _ _ _ .rejected => false
  | .ended true => false
  | .returned _ => false
  | _ => true

/-- No dial is to come: the server was rejected over TLS, or `Run` has returned. -/
def final : Phase → Bool
  | .dialing false _ _ .rejected => true
  | .ended true => true
  | .returned _ => true
  | _ => false

end Phase

structure Task where
  caller : Caller
  phase : Phase
  /-- In seconds. -/
  delay : Nat
  /-- The context has ended. -/
  cancelled : Bool
  /-- *History*: the delays of the timers, the last one first. -/
  waits : List Nat
  /-- *History*: the dials in which `VerifyConnection` has returned an error, the last one first; `true`
      is one over QUIC. -/
  rejections : List Bool
  /-- *History*: the certificates of the servers with which it began `ClientHandshakePassword`. -/
  proven : List Bytes

/-- An exit in `Run`, or a client in `Reconnect`. -/
def Task.new (caller : Caller) : Task := ⟨caller, .ready, 1, false, [], [], []⟩

inductive Event where
  | connect
  /-- The TLS handshake comes to `VerifyConnection`. -/
  | verify (certificates : List Bytes) (confirm : Option Confirmer) (disk : Option Err)
  | dialed
  /-- The dial fails; `shown` says whether the error of a QUIC dial shows that of
      `VerifyConnection`. -/
  | dialFailed (shown : Bool)
  | controlStream (ok : Bool)
  | prove
  /-- The handshake has failed, or the session has ended. -/
  | disconnected
  | cancel
  /-- `Exit.Run` goes on after `connectOnce`. -/
  | goOn
  | timer
  /-- The context ends the wait. -/
  | contextDone

/-- What `connectOnce` or `connectTransport` does when a dial has failed. -/
def afterFailure (role : Role) (quic : Bool) (expected : Text) (trust : Bool) (check : Check)
    (shown : Bool) : Phase :=
  if quic then
    if role = .exit ∧ check = .rejected ∧ shown = true then .ended true
    else .dialing false expected trust .pending
  else .ended (decide (check = .rejected))

/-- The next step of a task, but for a verification: that one is a step of the store, too. -/
def Task.next (k : KnownHosts) (task : Task) : Event → Option Task
  | .cancel => some { task with cancelled := true }
  | .connect =>
    if task.phase = .ready then
      let (expected, trust) := trustConfig k task.caller
      some { task with phase := .dialing (!task.caller.forceTCP) expected trust .pending }
    else none
  | .verify _ _ _ => none
  | .dialed =>
    match task.phase with
    | .dialing true _ _ (.accepted raw) => some { task with phase := .control raw }
    | .dialing false _ _ (.accepted raw) => some { task with phase := .handshake raw }
    | _ => none
  | .dialFailed shown =>
    match task.phase with
    | .dialing quic expected trust check =>
      some { task with phase := afterFailure task.caller.role quic expected trust check shown }
    | _ => none
  | .controlStream ok =>
    match task.phase with
    | .control raw => some { task with phase := if ok then .handshake raw else .ended false }
    | _ => none
  | .prove =>
    match task.phase with
    | .handshake raw => some { task with phase := .connected, proven := raw :: task.proven }
    | _ => none
  | .disconnected => if task.phase = .connected then some { task with phase := .ended false } else none
  | .goOn =>
    match task.caller.role, task.phase with
    | .exit, .ended distrust =>
      if task.cancelled then some { task with phase := .returned false }
      else if distrust then some { task with phase := .returned true }
      else some { task with phase := .waiting, waits := task.delay :: task.waits }
    | _, _ => none
  | .timer =>
    if task.phase = .waiting then
      some { task with
        phase := .ready, delay := if task.delay < 30 then task.delay * 2 else task.delay }
    else none
  | .contextDone =>
    if task.phase = .waiting ∧ task.cancelled = true then some { task with phase := .returned false }
    else none

structure Dialers where
  store : KnownHosts
  tasks : List Task
  /-- A panic has ended the process. -/
  crashed : Bool

namespace Dialers

def new (store : KnownHosts) : Dialers := ⟨store, [], false⟩

inductive Label where
  | begin (caller : Caller)
  | event (t : Nat) (e : Event)

def put (s : Dialers) (t : Nat) (k : KnownHosts) (task : Task) : Dialers :=
  { s with store := k, tasks := s.tasks.set t task }

/-- Task `t` does its next step. -/
def run (unicode : Unicode) (sum256 : Bytes → Vector UInt8 32) (s : Dialers) (t : Nat) (task : Task) :
    Event → Option Dialers
  | .verify certificates confirm disk =>
    match task.phase with
    | .dialing quic expected trust .pending =>
      match verifyConnection unicode sum256 s.store trust expected task.caller.host certificates confirm
        disk with
      | none => some { s with crashed := true }
      | some (k, none) =>
        some (s.put t k { task with
          phase := .dialing quic expected trust (.accepted (certificates.headD [])) })
      | some (k, some _) =>
        some (s.put t k { task with
          phase := .dialing quic expected trust .rejected,
          rejections := quic :: task.rejections })
    | _ => none
  | e => (task.next s.store e).map (s.put t s.store)

def step (unicode : Unicode) (sum256 : Bytes → Vector UInt8 32) (s : Dialers) :
    Label → Option Dialers
  | .begin caller => if s.crashed then none else some { s with tasks := s.tasks ++ [.new caller] }
  | .event t e =>
    if s.crashed then none else (s.tasks[t]?).bind fun task => s.run unicode sum256 t task e

end Dialers

/-! ## What a step does -/

variable {unicode : Unicode} {sum256 : Bytes → Vector UInt8 32} {k k' : KnownHosts} {task task' : Task}
  {e : Event} {expected : Text} {trust : Bool} {confirm : Option Confirmer} {disk err : Option Err}
  {host : String} {caller : Caller} {phase : Phase} {rejections : List Bool} {store : KnownHosts}
  {as : List Dialers.Label}

/-- What a step makes of the store and of the task whose step it is. -/
inductive Moves (unicode : Unicode) (sum256 : Bytes → Vector UInt8 32) (k : KnownHosts) (task : Task) :
    KnownHosts → Task → Prop where
  | cancel : Moves unicode sum256 k task k { task with cancelled := true }
  | connect (hphase : task.phase = .ready) :
      Moves unicode sum256 k task k { task with
        phase := .dialing (!task.caller.forceTCP) (trustConfig k task.caller).1
          (trustConfig k task.caller).2 .pending }
  | accepted {raw : Bytes} {rest : List Bytes} {confirm : Option Confirmer} {disk : Option Err}
      {quic trust : Bool} {expected : Text} {k' : KnownHosts}
      (hphase : task.phase = .dialing quic expected trust .pending)
      (hverify : verifyConnection unicode sum256 k trust expected task.caller.host (raw :: rest) confirm
        disk = some (k', none)) :
      Moves unicode sum256 k task k' { task with
        phase := .dialing quic expected trust (.accepted raw) }
  | rejected {certificates : List Bytes} {confirm : Option Confirmer} {disk : Option Err}
      {quic trust : Bool} {expected : Text} {k' : KnownHosts} {err : Err}
      (hphase : task.phase = .dialing quic expected trust .pending)
      (hverify : verifyConnection unicode sum256 k trust expected task.caller.host certificates confirm
        disk = some (k', some err)) :
      Moves unicode sum256 k task k' { task with
        phase := .dialing quic expected trust .rejected, rejections := quic :: task.rejections }
  /-- On with the certificate that was accepted. -/
  | goes {raw : Bytes} {phase : Phase} (hpeer : task.phase.peer = some raw)
      (hphase : phase = .control raw ∨ phase = .handshake raw) :
      Moves unicode sum256 k task k { task with phase := phase }
  | dialFailed {quic trust shown : Bool} {expected : Text} {check : Check}
      (hphase : task.phase = .dialing quic expected trust check) :
      Moves unicode sum256 k task k { task with
        phase := afterFailure task.caller.role quic expected trust check shown }
  | prove {raw : Bytes} (hphase : task.phase = .handshake raw) :
      Moves unicode sum256 k task k { task with phase := .connected, proven := raw :: task.proven }
  | closes (hactive : task.phase.active = true) (hgoing : task.phase.going = true) :
      Moves unicode sum256 k task k { task with phase := .ended false }
  | returns {distrust : Bool}
      (hreason : if distrust then task.phase = .ended true else task.cancelled = true) :
      Moves unicode sum256 k task k { task with phase := .returned distrust }
  | waits (hphase : task.phase = .ended false) :
      Moves unicode sum256 k task k { task with phase := .waiting, waits := task.delay :: task.waits }
  | timer (hphase : task.phase = .waiting) :
      Moves unicode sum256 k task k { task with
        phase := .ready, delay := if task.delay < 30 then task.delay * 2 else task.delay }

theorem next_moves (h : task.next k e = some task') : Moves unicode sum256 k task k task' := by
  cases e with
  | cancel =>
    cases h
    exact .cancel
  | verify _ _ _ => cases h
  | connect =>
    obtain ⟨hphase, rfl⟩ := eq_of_ite_some h
    exact .connect hphase
  | dialed =>
    simp only [Task.next] at h
    split at h
    · next hphase =>
      cases h
      exact .goes (by rw [hphase]; rfl) (Or.inl rfl)
    · next hphase =>
      cases h
      exact .goes (by rw [hphase]; rfl) (Or.inr rfl)
    · cases h
  | dialFailed shown =>
    simp only [Task.next] at h
    split at h
    · next hphase =>
      cases h
      exact .dialFailed hphase
    · cases h
  | controlStream ok =>
    simp only [Task.next] at h
    split at h
    · next hphase =>
      cases h
      cases ok with
      | true => exact .goes (by rw [hphase]; rfl) (Or.inr rfl)
      | false => exact .closes (by rw [hphase]; rfl) (by rw [hphase]; rfl)
    · cases h
  | prove =>
    simp only [Task.next] at h
    split at h
    · next hphase =>
      cases h
      exact .prove hphase
    · cases h
  | disconnected =>
    obtain ⟨hphase, rfl⟩ := eq_of_ite_some h
    exact .closes (by rw [hphase]; rfl) (by rw [hphase]; rfl)
  | goOn =>
    simp only [Task.next] at h
    split at h
    · next distrust hrole hphase =>
      split at h
      · next hcancelled =>
        cases h
        exact .returns hcancelled
      · split at h
        · next hdistrust =>
          cases h
          rw [hdistrust] at hphase
          exact .returns hphase
        · next hdistrust =>
          cases h
          exact .waits (Bool.eq_false_of_not_eq_true hdistrust ▸ hphase)
    · cases h
  | timer =>
    obtain ⟨hphase, rfl⟩ := eq_of_ite_some h
    exact .timer hphase
  | contextDone =>
    obtain ⟨hphase, rfl⟩ := eq_of_ite_some h
    exact .returns hphase.2

/-- Without a certificate nothing is accepted. -/
theorem verifyConnection_nil
    (h : verifyConnection unicode sum256 k trust expected host [] confirm disk = some (k', err)) :
    err ≠ none := by
  cases h
  exact nofun

namespace Dialers

variable {s s' : Dialers} {t : Nat} {l : Label}

/-- A step moves one task, or ends the process. -/
theorem run_moves (h : s.run unicode sum256 t task e = some s') :
    s' = { s with crashed := true } ∨
      ∃ k task', Moves unicode sum256 s.store task k task' ∧ s' = s.put t k task' := by
  cases e with
  | verify certificates confirm disk =>
    simp only [run] at h
    split at h
    · next hphase =>
      split at h
      · exact Or.inl (Option.some.inj h).symm
      · next hverify =>
        cases certificates with
        | nil => exact absurd rfl (verifyConnection_nil hverify)
        | cons raw rest =>
          exact Or.inr ⟨_, _, .accepted hphase hverify, (Option.some.inj h).symm⟩
      · next hverify => exact Or.inr ⟨_, _, .rejected hphase hverify, (Option.some.inj h).symm⟩
    · cases h
  | _ =>
    simp only [run] at h
    obtain ⟨task', hnext, rfl⟩ := Option.map_eq_some_iff.1 h
    exact Or.inr ⟨_, task', next_moves hnext, rfl⟩

/-- **Inversion of a step.** -/
theorem step_cases (h : step unicode sum256 s l = some s') :
    (∃ caller, s' = { s with tasks := s.tasks ++ [.new caller] }) ∨ s' = { s with crashed := true } ∨
      ∃ t task k task', task ∈ s.tasks ∧ Moves unicode sum256 s.store task k task' ∧
        s' = s.put t k task' := by
  cases l with
  | begin caller =>
    obtain ⟨-, h⟩ := Option.ite_none_left_eq_some.1 h
    exact Or.inl ⟨caller, (Option.some.inj h).symm⟩
  | event t e =>
    obtain ⟨-, h⟩ := Option.ite_none_left_eq_some.1 h
    obtain ⟨task, htask, h⟩ := Option.bind_eq_some_iff.1 h
    rcases run_moves h with hcrash | ⟨k, task', hmoves, heq⟩
    · exact Or.inr (Or.inl hcrash)
    · exact Or.inr (Or.inr ⟨t, task, k, task', List.mem_of_getElem? htask, hmoves, heq⟩)

end Dialers

/-! ## Whom a caller trusts -/

/-- One verification, seen as the step of a connection attempt. -/
theorem verifyConnection_steps
    {certificates : List Bytes}
    (h : verifyConnection unicode sum256 k true expected host certificates confirm disk =
      some (k', err)) :
    ∃ accepted, Clients.Steps unicode sum256 ⟨k, [⟨host, some expected⟩], []⟩
        (.verify 0 certificates confirm disk) ⟨k', [⟨host, some expected⟩], accepted⟩ ∧
      ∀ raw rest, certificates = raw :: rest → err = none → (host, raw) ∈ accepted := by
  cases certificates with
  | nil => exact ⟨[], Clients.step_steps (by simp [Clients.step, h]), by simp⟩
  | cons raw rest =>
    cases err with
    | none => exact ⟨[(host, raw)], Clients.step_steps (by simp [Clients.step, h]), by simp⟩
    | some err => exact ⟨[], Clients.step_steps (by simp [Clients.step, h]), by simp⟩

/-- A pin is not replaced. -/
theorem verifyConnection_pinned
    {certificates : List Bytes}
    (h : verifyConnection unicode sum256 k trust expected host certificates confirm disk = some (k', err))
    {host' : String} {f : Text} (hpinned : Clients.Pinned unicode k host' f) :
    Clients.Pinned unicode k' host' f := by
  cases trust with
  | true =>
    obtain ⟨accepted, hsteps, -⟩ := verifyConnection_steps h
    exact hsteps.pinned hpinned
  | false =>
    have hk : k' = k := by
      unfold verifyConnection at h
      cases certificates with
      | nil => cases h; rfl
      | cons raw rest =>
        simp only [if_true] at h
        split at h
        · split at h <;> cases h <;> rfl
        · cases h; rfl
    rw [hk]
    exact hpinned

/-- The server with certificate `raw` is the one the caller has been told or has pinned. -/
def Trusted (unicode : Unicode) (sum256 : Bytes → Vector UInt8 32) (k : KnownHosts) (caller : Caller)
    (raw : Bytes) : Prop :=
  if caller.fingerprint ≠ [] then
    equalFingerprint unicode caller.fingerprint (Clients.printOf sum256 raw) = true
  else caller.trust = true ∧ Clients.Pinned unicode k caller.host (Clients.printOf sum256 raw)

/-- What a dial expects was read by `trustConfig`, and is still pinned if it came from the store. -/
def Expects (unicode : Unicode) (k : KnownHosts) (caller : Caller) (expected : Text) (trust : Bool) :
    Prop :=
  if caller.fingerprint ≠ [] then expected = caller.fingerprint ∧ trust = false
  else trust = caller.trust ∧ (expected ≠ [] →
    caller.trust = true ∧ Clients.Pinned unicode k caller.host expected)

theorem expects_trustConfig (k : KnownHosts) (caller : Caller) :
    Expects unicode k caller (trustConfig k caller).1 (trustConfig k caller).2 := by
  unfold Expects trustConfig
  by_cases hfingerprint : caller.fingerprint ≠ []
  · rw [if_pos hfingerprint, if_pos hfingerprint]
    exact ⟨rfl, rfl⟩
  · rw [if_neg hfingerprint, if_neg hfingerprint]
    cases htrust : caller.trust with
    | true => exact ⟨rfl, fun hsome => ⟨rfl, hsome, equalFingerprint_iff.2 rfl⟩⟩
    | false => exact ⟨rfl, fun hsome => absurd rfl hsome⟩

/-- **What is accepted is trusted.** -/
theorem verifyConnection_trusted
    {raw : Bytes} {rest : List Bytes} {disk : Option Err}
    (hexpects : Expects unicode k caller expected trust)
    (h : verifyConnection unicode sum256 k trust expected caller.host (raw :: rest) confirm disk =
      some (k', none)) : Trusted unicode sum256 k' caller raw := by
  unfold Expects at hexpects
  unfold Trusted
  split at hexpects
  · next hfingerprint =>
    obtain ⟨rfl, rfl⟩ := hexpects
    rw [if_pos hfingerprint]
    simp only [verifyConnection, if_pos hfingerprint] at h
    split at h
    · next hequal => exact hequal
    · cases h
  · next hfingerprint =>
    obtain ⟨rfl, hexpected⟩ := hexpects
    rw [if_neg hfingerprint]
    cases htrust : caller.trust with
    | true =>
      refine ⟨rfl, ?_⟩
      rw [htrust] at h
      have hinv : Clients.Inv unicode sum256 ⟨k, [⟨caller.host, some expected⟩], []⟩ := by
        refine ⟨fun attempt hmem f hf hne => ?_, fun _ _ hmem => absurd hmem List.not_mem_nil⟩
        obtain rfl := List.mem_singleton.1 hmem
        obtain rfl := Option.some.inj hf
        exact (hexpected hne).2
      obtain ⟨accepted, hsteps, hmem⟩ := verifyConnection_steps h
      exact (hinv.steps hsteps).accepted caller.host raw (hmem raw rest rfl rfl)
    | false =>
      rw [htrust] at h
      -- without a store and a fingerprint nobody is accepted
      have hnone : expected = [] := by
        by_contra hsome
        rw [htrust] at hexpected
        exact absurd (hexpected hsome).1 (by simp)
      subst hnone
      simp [verifyConnection] at h

theorem Trusted.mono {raw : Bytes}
    (hpinned : ∀ host f, Clients.Pinned unicode k host f → Clients.Pinned unicode k' host f)
    (h : Trusted unicode sum256 k caller raw) : Trusted unicode sum256 k' caller raw := by
  unfold Trusted at h ⊢
  split
  · next hfingerprint => rwa [if_pos hfingerprint] at h
  · next hfingerprint =>
    rw [if_neg hfingerprint] at h
    exact ⟨h.1, hpinned _ _ h.2⟩

theorem Expects.mono
    (hpinned : ∀ host f, Clients.Pinned unicode k host f → Clients.Pinned unicode k' host f)
    (h : Expects unicode k caller expected trust) : Expects unicode k' caller expected trust := by
  unfold Expects at h ⊢
  split
  · next hfingerprint => rwa [if_pos hfingerprint] at h
  · next hfingerprint =>
    rw [if_neg hfingerprint] at h
    exact ⟨h.1, fun hsome => ⟨(h.2 hsome).1, hpinned _ _ (h.2 hsome).2⟩⟩

/-! ## Every run -/

/-- The pins of `k` are those of `k'` still. -/
def Kept (unicode : Unicode) (k k' : KnownHosts) : Prop :=
  ∀ host f, Clients.Pinned unicode k host f → Clients.Pinned unicode k' host f

theorem Moves.kept (h : Moves unicode sum256 k task k' task') : Kept unicode k k' := by
  intro host f hpinned
  cases h with
  | accepted _ hverify => exact verifyConnection_pinned hverify hpinned
  | rejected _ hverify => exact verifyConnection_pinned hverify hpinned
  | _ => exact hpinned

namespace Dialers

variable {s s' : Dialers} {l : Label}

/-- **What every task keeps**: it holds of a new one, stays while others pin their servers, and stays
    with its own steps. -/
theorem forall_tasks {P : KnownHosts → Task → Prop} (hnew : ∀ k caller, P k (.new caller))
    (hkept : ∀ {k k' task}, Kept unicode k k' → P k task → P k' task)
    (hmoves : ∀ {k k' task task'}, Moves unicode sum256 k task k' task' → P k task → P k' task')
    (hrun : exec (step unicode sum256) (new store) as = some s) : ∀ task ∈ s.tasks, P s.store task := by
  refine Reachable.invariant (fun s : Dialers => ∀ task ∈ s.tasks, P s.store task)
    (fun s l s' hs hstep => ?_) (fun _ hmem => absurd hmem List.not_mem_nil) ⟨as, hrun⟩
  obtain ⟨caller, rfl⟩ | rfl | ⟨t, task, k, task', htask, hmove, rfl⟩ := step_cases hstep
  · intro task hmem
    rcases List.mem_append.1 hmem with hmem | hmem
    · exact hs task hmem
    · rw [List.mem_singleton.1 hmem]
      exact hnew s.store caller
  · exact hs
  · intro other hmem
    rcases List.mem_or_eq_of_mem_set hmem with hmem | rfl
    · exact hkept hmove.kept (hs other hmem)
    · exact hmoves hmove (hs task htask)

theorem kept_of_exec
    (hrun : exec (step unicode sum256) (new store) as = some s) : Kept unicode store s.store := by
  refine Reachable.invariant (fun s : Dialers => Kept unicode store s.store)
    (fun s l s' hs hstep => ?_) (fun _ _ h => h) ⟨as, hrun⟩
  obtain ⟨caller, rfl⟩ | rfl | ⟨t, task, k, task', -, hmove, rfl⟩ := step_cases hstep
  · exact hs
  · exact hs
  · exact fun host f hpinned => hmove.kept host f (hs host f hpinned)

end Dialers

/-! ## The passphrase is proven to a trusted server -/

structure Sound (unicode : Unicode) (sum256 : Bytes → Vector UInt8 32) (k : KnownHosts) (task : Task) :
    Prop where
  expects : ∀ quic expected trust check, task.phase = .dialing quic expected trust check →
    Expects unicode k task.caller expected trust
  peer : ∀ raw, task.phase.peer = some raw → Trusted unicode sum256 k task.caller raw
  proven : ∀ raw ∈ task.proven, Trusted unicode sum256 k task.caller raw

theorem Sound.mono (hkept : Kept unicode k k') (h : Sound unicode sum256 k task) :
    Sound unicode sum256 k' task where
  expects quic expected trust check hphase := (h.expects quic expected trust check hphase).mono hkept
  peer raw hpeer := (h.peer raw hpeer).mono hkept
  proven raw hmem := (h.proven raw hmem).mono hkept

/-- The task leaves its dial, or goes on with the certificate it had. -/
theorem Sound.next {delay : Nat} {cancelled : Bool} {waits : List Nat}
    (h : Sound unicode sum256 k task) (hdial : phase.dials = false)
    (hpeer : phase.peer = none ∨ phase.peer = task.phase.peer) :
    Sound unicode sum256 k ⟨task.caller, phase, delay, cancelled, waits, rejections, task.proven⟩ where
  expects quic expected trust check hphase := by
    cases hphase
    cases hdial
  peer raw hraw := by
    rcases hpeer with hnone | hsame
    · exact absurd (hnone.symm.trans hraw) (by simp)
    · exact h.peer raw (hsame.symm.trans hraw)
  proven := h.proven

/-- The task dials, and no certificate is accepted yet. -/
theorem Sound.dial {quic trust : Bool} {check : Check}
    (h : Sound unicode sum256 k task) (hexpects : Expects unicode k task.caller expected trust)
    (hcheck : check = .pending ∨ check = .rejected) :
    Sound unicode sum256 k { task with
      phase := .dialing quic expected trust check, rejections := rejections } where
  expects _ _ _ _ hphase := by
    cases hphase
    exact hexpects
  peer raw hraw := by rcases hcheck with rfl | rfl <;> cases hraw
  proven := h.proven

theorem Sound.moves (hmoves : Moves unicode sum256 k task k' task') (h : Sound unicode sum256 k task) :
    Sound unicode sum256 k' task' := by
  have hkept := hmoves.kept
  cases hmoves with
  | cancel => exact ⟨h.expects, h.peer, h.proven⟩
  | connect _ => exact h.dial (expects_trustConfig k task.caller) (Or.inl rfl)
  | accepted hphase hverify =>
    have hexpects := h.expects _ _ _ _ hphase
    refine ⟨fun _ _ _ _ hnext => ?_, fun raw hraw => ?_, (h.mono hkept).proven⟩
    · cases hnext
      exact hexpects.mono hkept
    · cases hraw
      exact verifyConnection_trusted hexpects hverify
  | rejected hphase _ =>
    exact (h.mono hkept).dial ((h.expects _ _ _ _ hphase).mono hkept) (Or.inr rfl)
  | goes hpeer hphase =>
    rcases hphase with rfl | rfl
    · exact h.next rfl (Or.inr hpeer.symm)
    · exact h.next rfl (Or.inr hpeer.symm)
  | dialFailed hphase =>
    unfold afterFailure
    split
    · split
      · exact h.next rfl (Or.inl rfl)
      · exact h.dial (h.expects _ _ _ _ hphase) (Or.inl rfl)
    · exact h.next rfl (Or.inl rfl)
  | prove hphase =>
    refine ⟨by simp, by simp [Phase.peer], fun raw hmem => ?_⟩
    rcases List.mem_cons.1 hmem with rfl | hmem
    · exact h.peer raw (by rw [hphase]; rfl)
    · exact h.proven raw hmem
  | closes _ _ => exact h.next rfl (Or.inl rfl)
  | returns _ => exact h.next rfl (Or.inl rfl)
  | waits _ => exact h.next rfl (Or.inl rfl)
  | timer _ => exact h.next rfl (Or.inl rfl)

theorem new_sound (k : KnownHosts) (caller : Caller) : Sound unicode sum256 k (.new caller) where
  expects _ _ _ _ hphase := by cases hphase
  peer _ hraw := by cases hraw
  proven _ hmem := by cases hmem

/-- Two servers the caller trusts have certificates of the same digest. -/
theorem Trusted.sum_eq {raw raw' : Bytes}
    (h : Trusted unicode sum256 k caller raw) (h' : Trusted unicode sum256 k caller raw') :
    sum256 raw = sum256 raw' := by
  refine Clients.printOf_inj ?_
  unfold Trusted at h h'
  split at h
  · next hfingerprint =>
    rw [if_pos hfingerprint] at h'
    have hequal := equalFingerprint_iff.1 h
    have hequal' := equalFingerprint_iff.1 h'
    rw [normalize_fingerprint] at hequal hequal'
    exact hequal.symm.trans hequal'
  · next hfingerprint =>
    rw [if_neg hfingerprint] at h'
    have hequal := equalFingerprint_iff.1 h.2.2
    have hequal' := equalFingerprint_iff.1 h'.2.2
    rw [normalize_fingerprint] at hequal hequal'
    exact hequal.trans hequal'.symm

namespace Dialers

variable {s : Dialers}

/-- **The passphrase is proven to one server.** Whatever exits and clients do on one trust store, and
    whichever certificates they are presented over QUIC and over TLS: each handshake is begun with a
    server whose certificate has the configured fingerprint or, where none is configured, the one that
    is pinned for the host; a caller that has neither begins none. Hence all the servers a caller
    proves its passphrase to, in however many tasks, have the same digest, and where the host had a pin
    at first, it is that pin's. -/
theorem proven_trusted
    (hrun : exec (step unicode sum256) (new store) as = some s) :
    (∀ task ∈ s.tasks, ∀ raw ∈ task.proven, Trusted unicode sum256 s.store task.caller raw) ∧
    (∀ task ∈ s.tasks, ∀ task' ∈ s.tasks, task.caller = task'.caller →
      ∀ raw ∈ task.proven, ∀ raw' ∈ task'.proven, sum256 raw = sum256 raw') ∧
    (∀ task ∈ s.tasks, ∀ raw ∈ task.proven, task.caller.fingerprint = [] →
      store.entries task.caller.host ≠ [] →
      equalFingerprint unicode (store.entries task.caller.host) (Clients.printOf sum256 raw) = true) := by
  have hsound : ∀ task ∈ s.tasks, Sound unicode sum256 s.store task :=
    forall_tasks new_sound Sound.mono Sound.moves hrun
  refine ⟨fun task hmem => (hsound task hmem).proven, fun task hmem task' hmem' hcaller raw hraw raw'
    hraw' => ?_, fun task hmem raw hraw hfingerprint hsome => ?_⟩
  · exact ((hsound task hmem).proven raw hraw).sum_eq
      (hcaller ▸ (hsound task' hmem').proven raw' hraw')
  · -- the first pin is still there, and the certificate has the present one
    have hpinned := kept_of_exec hrun task.caller.host (store.entries task.caller.host)
      ⟨hsome, equalFingerprint_iff.2 rfl⟩
    have htrusted := (hsound task hmem).proven raw hraw
    rw [Trusted, if_neg (not_not.2 hfingerprint)] at htrusted
    exact equalFingerprint_iff.2
      ((equalFingerprint_iff.1 hpinned.2).trans (equalFingerprint_iff.1 htrusted.2.2).symm)

def sampleExit : Caller := ⟨.exit, [], true, false, "s"⟩

def sampleClient : Caller := ⟨.client, [], true, false, "s"⟩

/-- An exit and a client meet a server for the first time. The client pins its certificate; the exit,
    which has read no pin, is presented with another one over QUIC, and with the pinned one over TLS. -/
def firstMeeting : List Label :=
  [.begin sampleExit, .begin sampleClient, .event 0 .connect, .event 1 .connect,
    .event 1 (.verify [[171]] (some fun _ _ => .ok true) none), .event 1 .dialed,
    .event 1 (.controlStream true), .event 1 .prove,
    .event 0 (.verify [[172]] (some fun _ _ => .ok true) none), .event 0 (.dialFailed false),
    .event 0 (.verify [[171]] none none), .event 0 .dialed, .event 0 .prove]

abbrev sampleStep : Dialers → Label → Option Dialers :=
  Dialers.step Clients.sampleUnicode Clients.sampleSum

theorem firstMeeting_trusted :
    ∃ s task, exec sampleStep (new ⟨fun _ => [], false⟩) firstMeeting = some s ∧
      s.tasks.map Task.proven = [[[171]], [[171]]] ∧ task ∈ s.tasks ∧ task.caller = sampleExit ∧
      Trusted Clients.sampleUnicode Clients.sampleSum s.store task.caller [171] := by
  have hrun : exec sampleStep (new ⟨fun _ => [], false⟩) firstMeeting =
      some (after sampleStep (new ⟨fun _ => [], false⟩) firstMeeting) :=
    exec_after (by decide +kernel)
  have hhead : (after sampleStep (new ⟨fun _ => [], false⟩) firstMeeting).tasks.head?.map
      (fun task => (task.caller, task.proven)) = some (sampleExit, [[171]]) := by decide +kernel
  obtain ⟨task, htask, heq⟩ := Option.map_eq_some_iff.1 hhead
  obtain ⟨hcaller, hproven⟩ := Prod.mk.inj heq
  have hmem := List.mem_of_head? htask
  exact ⟨_, task, hrun, by decide +kernel, hmem, hcaller,
    (proven_trusted hrun).1 task hmem [171] (by rw [hproven]; simp)⟩

end Dialers

/-! ## How `Exit.Run` waits and ends -/

/-- The delays double from one second to 32, the first one that is not below 30. -/
def pace (n : Nat) : Nat := 2 ^ min n 5

theorem pace_succ (n : Nat) : pace (n + 1) = if pace n < 30 then pace n * 2 else pace n := by
  by_cases h : n < 5
  · have hall : ∀ i : Fin 5, pace (i + 1) = if pace i < 30 then pace i * 2 else pace i := by decide
    exact hall ⟨n, h⟩
  · unfold pace
    rw [Nat.min_eq_right (by omega : 5 ≤ n + 1), Nat.min_eq_right (by omega : 5 ≤ n)]
    rfl

structure Paced (task : Task) : Prop where
  waits : task.waits.reverse = (List.range task.waits.length).map pace
  active : task.phase.active = true → task.delay = pace task.waits.length
  waiting : task.phase = .waiting →
    (if task.delay < 30 then task.delay * 2 else task.delay) = pace task.waits.length

structure Ends (task : Task) : Prop where
  rejected : ∀ quic expected trust, task.phase = .dialing quic expected trust .rejected →
    quic ∈ task.rejections
  ended : task.phase = .ended true → task.rejections ≠ []
  returned : ∀ distrust, task.phase = .returned distrust →
    if distrust then task.rejections ≠ [] else task.cancelled = true
  final : false ∈ task.rejections → task.phase.final = true

theorem active_of_peer {raw : Bytes} (h : phase.peer = some raw) :
    phase.active = true ∧ phase.going = true := by
  unfold Phase.peer at h
  split at h
  · exact ⟨rfl, rfl⟩
  · exact ⟨rfl, rfl⟩
  · exact ⟨rfl, rfl⟩
  · cases h

theorem final_of_going (h : phase.going = true) : phase.final = false := by
  unfold Phase.final
  split
  · cases h
  · cases h
  · cases h
  · rfl

theorem afterFailure_active (role : Role) (quic : Bool) (expected : Text) (trust : Bool) (check : Check)
    (shown : Bool) : (afterFailure role quic expected trust check shown).active = true := by
  unfold afterFailure
  split
  · split <;> rfl
  · rfl

/-- The attempt goes on. -/
theorem Paced.next {cancelled : Bool} {proven : List Bytes}
    (h : Paced task) (hold : task.phase.active = true) (hphase : phase.active = true) :
    Paced ⟨task.caller, phase, task.delay, cancelled, task.waits, rejections, proven⟩ where
  waits := h.waits
  active _ := h.active hold
  waiting hwaiting := by
    cases hwaiting
    cases hphase

theorem Paced.moves (hmoves : Moves unicode sum256 k task k' task') (h : Paced task) : Paced task' := by
  cases hmoves with
  | cancel => exact ⟨h.waits, h.active, h.waiting⟩
  | connect hphase => exact h.next (by rw [hphase]; rfl) rfl
  | accepted hphase _ => exact h.next (by rw [hphase]; rfl) rfl
  | rejected hphase _ => exact h.next (by rw [hphase]; rfl) rfl
  | goes hpeer hphase =>
    rcases hphase with rfl | rfl
    · exact h.next (active_of_peer hpeer).1 rfl
    · exact h.next (active_of_peer hpeer).1 rfl
  | dialFailed hphase => exact h.next (by rw [hphase]; rfl) (afterFailure_active ..)
  | prove hphase => exact h.next (by rw [hphase]; rfl) rfl
  | closes hactive _ => exact h.next hactive rfl
  | returns _ => exact ⟨h.waits, by simp [Phase.active], by simp⟩
  | waits hphase =>
    have hdelay := h.active (by rw [hphase]; rfl)
    refine ⟨?_, by simp [Phase.active], fun _ => ?_⟩
    · simp only [List.reverse_cons, List.length_cons, List.range_succ, List.map_append, List.map_cons,
        List.map_nil]
      rw [h.waits, hdelay]
    · rw [hdelay, List.length_cons, pace_succ]
  | timer hphase => exact ⟨h.waits, fun _ => h.waiting hphase, by simp⟩

/-- A task that still dials goes to a phase that says nothing of an end. -/
theorem Ends.go {delay : Nat} {waits : List Nat} {proven : List Bytes} (h : Ends task)
    (hold : task.phase.final = false) (hgoing : phase.going = true) :
    Ends ⟨task.caller, phase, delay, task.cancelled, waits, task.rejections, proven⟩ where
  rejected _ _ _ hphase := by
    cases hphase
    cases hgoing
  ended hphase := by
    cases hphase
    cases hgoing
  returned _ hphase := by
    cases hphase
    cases hgoing
  final hmem := absurd (hold.symm.trans (h.final hmem)) (by simp)

/-- The attempt ends for want of trust. -/
theorem ends_distrust (hrejected : task.rejections ≠ []) :
    Ends { task with phase := .ended true } where
  rejected _ _ _ hphase := by cases hphase
  ended _ := hrejected
  returned _ hphase := by cases hphase
  final _ := rfl

theorem Ends.afterFailure {quic trust shown : Bool} {check : Check} (h : Ends task)
    (hphase : task.phase = .dialing quic expected trust check) :
    Ends { task with phase := afterFailure task.caller.role quic expected trust check shown } := by
  have hrejected : check = .rejected → task.rejections ≠ [] := by
    rintro rfl
    exact List.ne_nil_of_mem (h.rejected _ _ _ hphase)
  unfold Dialing.afterFailure
  split
  · next hquic =>
    split
    · next hshown => exact ends_distrust (hrejected hshown.2.1)
    · exact h.go (by rw [hphase, hquic]; rfl) rfl
  · by_cases hcheck : check = .rejected
    · rw [decide_eq_true hcheck]
      exact ends_distrust (hrejected hcheck)
    · rw [decide_eq_false hcheck]
      refine h.go (final_of_going ?_) rfl
      rw [hphase]
      cases check with
      | rejected => exact absurd rfl hcheck
      | pending => rfl
      | accepted raw => rfl

theorem Ends.moves (hmoves : Moves unicode sum256 k task k' task') (h : Ends task) : Ends task' := by
  cases hmoves with
  | cancel =>
    refine ⟨h.rejected, h.ended, fun distrust hphase => ?_, h.final⟩
    cases distrust with
    | true => exact h.returned true hphase
    | false => rfl
  | connect hphase => exact h.go (by rw [hphase]; rfl) rfl
  | accepted hphase _ => exact h.go (final_of_going (by rw [hphase]; rfl)) rfl
  | @rejected _ _ _ quic trust expected _ _ hphase _ =>
    refine ⟨fun _ _ _ hnext => ?_, by simp, by simp, fun hmem => ?_⟩
    · cases hnext
      exact List.mem_cons_self
    · -- a rejection over QUIC is followed by the dial over TLS, one over TLS by none
      rcases List.mem_cons.1 hmem with rfl | hmem
      · rfl
      · have hfinal := final_of_going (show task.phase.going = true by rw [hphase]; rfl)
        exact absurd (hfinal.symm.trans (h.final hmem)) (by simp)
  | goes hpeer hphase =>
    have hfinal := final_of_going (active_of_peer hpeer).2
    rcases hphase with rfl | rfl
    · exact h.go hfinal rfl
    · exact h.go hfinal rfl
  | dialFailed hphase => exact h.afterFailure hphase
  | prove hphase => exact h.go (by rw [hphase]; rfl) rfl
  | closes _ hgoing => exact h.go (final_of_going hgoing) rfl
  | returns hreason =>
    refine ⟨by simp, by simp, fun distrust hphase => ?_, fun _ => rfl⟩
    cases hphase
    split
    · next hdistrust =>
      rw [if_pos hdistrust] at hreason
      exact h.ended hreason
    · next hdistrust => rwa [if_neg hdistrust] at hreason
  | waits hphase => exact h.go (by rw [hphase]; rfl) rfl
  | timer hphase => exact h.go (by rw [hphase]; rfl) rfl

namespace Dialers

variable {s : Dialers}

/-- **An exit comes back at growing intervals, and gives up on a server it does not trust.** In any run,
    the waits of `Run` were of 1, 2, 4, 8, 16 and 32 seconds, and of 32 from then on; `Run` returns
    the error of its context only when the context has ended, and a `TrustError` only when a
    certificate was rejected; and once one was rejected in a dial over TLS, no dial follows. -/
theorem run_gives_up
    (hrun : exec (step unicode sum256) (new store) as = some s) (hmem : task ∈ s.tasks) :
    task.waits.reverse = (List.range task.waits.length).map pace ∧
    (task.phase = .returned false → task.cancelled = true) ∧
    (task.phase = .returned true → task.rejections ≠ []) ∧
    (false ∈ task.rejections → task.phase.final = true) := by
  have hpaced : ∀ task ∈ s.tasks, Paced task :=
    forall_tasks (fun _ _ => ⟨rfl, fun _ => rfl, by simp [Task.new]⟩)
      (fun _ h => h) Paced.moves hrun
  have hends : ∀ task ∈ s.tasks, Ends task :=
    forall_tasks (fun _ _ => ⟨by simp [Task.new], by simp [Task.new], by simp [Task.new],
      by simp [Task.new]⟩) (fun _ h => h) Ends.moves hrun
  exact ⟨(hpaced task hmem).waits, (hends task hmem).returned false, (hends task hmem).returned true,
    (hends task hmem).final⟩

/-- The server cannot be reached. -/
def unreached : List Label :=
  [.event 0 .connect, .event 0 (.dialFailed false), .event 0 (.dialFailed false), .event 0 .goOn,
    .event 0 .timer]

/-- Seven attempts fail; in the eighth, another server answers over TLS. -/
def impostor : List Label :=
  .begin sampleExit :: (List.replicate 7 unreached).flatten ++
    [.event 0 .connect, .event 0 (.dialFailed false), .event 0 (.verify [[172]] none none),
      .event 0 (.dialFailed false), .event 0 .goOn]

/-- A store in which the host of the samples is pinned. -/
def pinnedStore : KnownHosts := ⟨fun _ => Clients.printOf Clients.sampleSum [171], false⟩

theorem impostor_gives_up :
    ∃ s task, exec sampleStep (new pinnedStore) impostor = some s ∧ task ∈ s.tasks ∧
      task.waits = [32, 32, 16, 8, 4, 2, 1] ∧ task.phase = .returned true ∧ task.rejections ≠ [] := by
  have hrun : exec sampleStep (new pinnedStore) impostor =
      some (after sampleStep (new pinnedStore) impostor) := exec_after (by decide +kernel)
  have hhead : (after sampleStep (new pinnedStore) impostor).tasks.head?.map
      (fun task => (task.waits, task.phase)) = some ([32, 32, 16, 8, 4, 2, 1], .returned true) := by
    decide +kernel
  obtain ⟨task, htask, heq⟩ := Option.map_eq_some_iff.1 hhead
  obtain ⟨hwaits, hphase⟩ := Prod.mk.inj heq
  have hmem := List.mem_of_head? htask
  exact ⟨_, task, hrun, hmem, hwaits, hphase, (run_gives_up hrun hmem).2.2.1 hphase⟩

end Dialers

end LnProxy.Trust.Dialing
