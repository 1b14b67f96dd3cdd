import LnProxy.Client.Runtime
import LnProxy.Client.Manager

set_option autoImplicit false

/-! # The life of a client process (`internal/client/runtime.go`, `cmd/lnproxy-client/main.go`)

`Start` connects the manager, starts the HTTP listener and, if asked to, the SOCKS5 listener, and then
applies the system proxy. `Shutdown` closes the listeners it finds in the runtime, waits for the
streams, closes the manager and restores the system proxy; a call that finds the runtime closed
returns at once. The signal handler and the main goroutine both call it, at any moment of `Start`, and
the goroutines of the manager run all the time.

What `Start` and `Shutdown` do to the settings and to the journal is the model of
`LnProxy.Client.Runtime`, and the manager is the one of `LnProxy.Client.Manager`; their steps are the
steps here. New are the listeners, and what `Start` and `Shutdown` do between the two. -/

namespace LnProxy.Client

open Transition Script SystemProxy

inductive Listener where
  | absent
  | listening
  | closed
  deriving DecidableEq, Repr

/-- Where `Start` stands within `Connect` and between the listeners. -/
inductive Stage where
  | outside
  /-- `Reconnect` runs as this goroutine. -/
  | connecting (task : Nat)
  /-- `Connect` has returned. -/
  | connected (err : Option Err)
  | listenHTTP
  /-- The listener is there, and `httpServer` is not set. -/
  | installHTTP (address : List Char)
  | listenSOCKS
  | installSOCKS (address : List Char)
  | listened
  /-- The SOCKS5 listener has failed, and the HTTP listener is to be closed. -/
  | closeHTTP (err : Err)
  /-- A listener has failed, and the manager is to be closed. -/
  | closeManager (err : Err)
  | closingManager (task : Nat) (err : Err)
  deriving DecidableEq, Repr

/-- Where the first call of `Shutdown` stands. -/
inductive Closing where
  | ready
  /-- With the servers it has found. -/
  | closeHTTP (http socks : Bool)
  | closeSOCKS (socks : Bool)
  /-- Waiting for the streams. -/
  | waiting
  | closingManager (task : Nat)
  /-- In `restoreProxy`, or behind it. -/
  | restoring
  deriving DecidableEq, Repr

structure Process where
  manager : System
  /-- `config.SOCKS5` -/
  socks5 : Bool
  http : Listener
  socks : Listener
  /-- `httpServer` is set. -/
  httpServer : Bool
  socksServer : Bool
  httpAddr : List Char
  socksAddr : List Char
  stage : Stage
  closing : Closing
  /-- Some call of `Shutdown` has returned nil. -/
  nilReturned : Bool
  /-- `Apply` has written a setting. -/
  wrote : Bool
  /-- Where `Start` took its last step. -/
  last : StartPhase
  /-- The journal on disk when `Start` was called. -/
  found : Option Journal
  /-- What the settings would be if the process had written none since `Start` was called. -/
  untouched : Settings
  /-- Giving the journal back has written the key since, and nobody has changed it after that. -/
  gaveBack : Key → Bool

/-- `NewManager` and `NewRuntime` -/
def Process.new (socks5 : Bool) (settings : Settings) : Process :=
  ⟨.new, socks5, .absent, .absent, false, false, [], [], .outside, .ready, false, false, .ready, none,
    settings, fun _ => false⟩

structure App where
  desktop : Desktop
  process : Process

/-- What `Reconnect` returns with its next step, if it returns. -/
def Phase.outcome (closed : Bool) : Phase → Option (Option Err)
  | .enter => if closed then some (some (.message "client manager is closed")) else none
  | .install _ => some none
  | .fail err => some (some err)
  | _ => none

/-- A step of `Start` writes a setting of `Apply`. -/
def StartPhase.writes (attempt : Option Err) : StartPhase → Bool
  | .apply _ (c :: _) => (c.failure refuses attempt).isNone
  | _ => false

/-- What a step of `Start` adds to the keys that giving the journal back has written. -/
def StartPhase.givesBack (attempt : Option Err) (keys : Key → Bool) : StartPhase → Key → Bool
  | .recover _ (.set key value checked :: _) _ =>
    if (Command.failure refuses attempt (.set key value checked)).isNone then
      Function.update keys key true
    else keys
  | _ => keys

/-- The record of a step of `Start`. -/
def Process.took (p : Process) (phase : StartPhase) (attempt : Option Err) : Process :=
  { p with
    last := phase, wrote := p.wrote || phase.writes attempt,
    gaveBack := phase.givesBack attempt p.gaveBack }

/-- The first call of `Shutdown` has returned nil. -/
def Desktop.shutdownReturned (d : Desktop) : Bool :=
  decide (d.runtime.map Runtime.shutdown = some (.returned none))

/-- Where `Start` stands once the goroutine has taken its step. -/
def Process.resumed (p : Process) (t : Nat) : Stage :=
  match p.stage, p.manager.tasks[t]? with
  | .connecting t', some (.reconnect _ phase) =>
    if t' = t then
      match phase.outcome p.manager.manager.closed with
      | some err => .connected err
      | none => p.stage
    else p.stage
  | _, _ => p.stage

theorem Desktop.runStart_idle {s d : Desktop} {r : Runtime} {attempt : Option Err}
    (h : s.runStart r attempt r.start = some d) : r.start.idle = false := by
  cases hphase : r.start with
  | ready | returned => simp [hphase, runStart] at h
  | _ => rfl

/-- A step of `Start` leaves what belongs to `Shutdown` alone. -/
theorem Desktop.runStart_runtime {s d : Desktop} {r : Runtime} {attempt : Option Err}
    (hr : s.runtime = some r) (h : s.runStart r attempt r.start = some d) :
    ∃ started journal phase,
      d.runtime = some { r with started := started, journal := journal, start := phase } := by
  have hstep := Desktop.runStart_steps hr rfl h
  cases hstep with
  | refused => exact ⟨r.started, r.journal, r.start, hr⟩
  | startMove hr' | connect hr' | recover hr' | removeRecovered hr'
  | writeJournal hr' | apply hr' | applied hr' | removeApplied hr' =>
    cases hr.symm.trans hr'
    exact ⟨_, _, _, rfl⟩

/-- A step of `Shutdown` leaves what belongs to `Start` alone. -/
theorem Desktop.runShutdown_runtime {s d : Desktop} {r : Runtime} {attempt : Option Err}
    (hr : s.runtime = some r) (h : s.runShutdown r attempt r.shutdown = some d) :
    ∃ journal phase, d.runtime = some { r with journal := journal, shutdown := phase } := by
  have hstep := Desktop.runShutdown_steps hr rfl h
  cases hstep with
  | refused => exact ⟨r.journal, r.shutdown, hr⟩
  | shutdownMove hr' | restore hr' | removeJournal hr' =>
    cases hr.symm.trans hr'
    exact ⟨_, _, rfl⟩

namespace App

def new (platform : Platform) (settings : Settings) : App :=
  ⟨.new platform settings, .new false settings⟩

inductive Label where
  | launch (backend : Backend) (socks5 : Bool)
  /-- The process ends, by itself or by a crash. -/
  | exit
  /-- `Start` is called. -/
  | start
  /-- A listener is there. -/
  | listen (address : List Char)
  /-- `Start` goes on; `attempt` is the error of what it does now. -/
  | runStart (attempt : Option Err)
  /-- `Shutdown` is called. -/
  | shutdown
  | runShutdown (attempt : Option Err)
  /-- A goroutine of the manager goes on. -/
  | goroutine (task : Nat) (result : Option Err)
  /-- A session ends by itself. -/
  | ended (session : Nat)
  /-- Somebody else changes a setting. -/
  | change (key : Key) (value : List Char)
  deriving DecidableEq, Repr

/-- A step of the manager. -/
def manage (s : App) (l : System.Label) (stage : Stage) (closing : Closing) : Option App :=
  (s.process.manager.step l).map fun m =>
    { s with process := { s.process with manager := m, stage := stage, closing := closing } }

/-- A step of `Start` that is one of the model of the settings and the journal. -/
def proceed (s : App) (phase : StartPhase) (attempt : Option Err) (stage : Stage) : Option App :=
  (s.desktop.step (.runStart attempt)).map fun d =>
    ⟨d, { s.process.took phase attempt with stage := stage }⟩

/-- One step of `Start`. -/
def runStart (s : App) (attempt : Option Err) : StartPhase → Stage → Option App
  | .connect, .outside =>
    match attempt with
    -- the address or the passphrase is refused
    | some err => s.proceed .connect (some err) .outside
    | none => s.manage .connect (.connecting s.process.manager.tasks.length) s.process.closing
  | .connect, .connected (some err) => s.proceed .connect (some err) .outside
  | .connect, .connected none => s.proceed .connect none .listenHTTP
  | .listen, .listenHTTP =>
    attempt.map fun err => { s with process := { s.process with stage := .closeManager err } }
  | .listen, .installHTTP address => some { s with process := { s.process with
      httpServer := true, httpAddr := address,
      stage := if s.process.socks5 then .listenSOCKS else .listened } }
  | .listen, .listenSOCKS =>
    attempt.map fun err => { s with process := { s.process with stage := .closeHTTP err } }
  | .listen, .installSOCKS address => some { s with process := { s.process with
      socksServer := true, socksAddr := address, stage := .listened } }
  | .listen, .listened =>
    (s.desktop.step (.listen s.process.httpAddr s.process.socksAddr)).map fun d =>
      ⟨d, { s.process with stage := .outside }⟩
  | .listen, .closeHTTP err => some { s with process := { s.process with
      http := .closed, stage := .closeManager err } }
  | .listen, .closeManager err =>
    s.manage .close (.closingManager s.process.manager.tasks.length err) s.process.closing
  | .listen, .closingManager t err =>
    -- the error of `Close` is dropped
    if s.process.manager.tasks[t]? = some .done then s.proceed .listen (some err) .outside else none
  | .connect, _ | .listen, _ => none
  | phase, .outside => s.proceed phase attempt .outside
  | _, _ => none

/-- One step of `Shutdown`. -/
def runShutdown (s : App) (attempt : Option Err) : Closing → Option App
  | .ready => none
  | .closeHTTP http socks => some { s with process := { s.process with
      http := if http then .closed else s.process.http, closing := .closeSOCKS socks } }
  | .closeSOCKS socks => some { s with process := { s.process with
      socks := if socks then .closed else s.process.socks, closing := .waiting } }
  | .waiting => s.manage .close s.process.stage (.closingManager s.process.manager.tasks.length)
  | .closingManager t =>
    if s.process.manager.tasks[t]? = some .done then
      some { s with process := { s.process with closing := .restoring } }
    else none
  | .restoring =>
    (s.desktop.step (.runShutdown attempt)).map fun d =>
      ⟨d, { s.process with nilReturned := s.process.nilReturned || d.shutdownReturned }⟩

def step (s : App) : Label → Option App
  | .launch backend socks5 =>
    (s.desktop.step (.launch backend)).map fun d => ⟨d, .new socks5 d.settings⟩
  | .exit => (s.desktop.step .exit).map fun d => { s with desktop := d }
  | .start =>
    s.desktop.runtime.bind fun r =>
      if r.start.idle = false then none
      else if r.closed = true ∨ r.started = true then some s
      else (s.desktop.step .start).map fun d => ⟨d, { s.process with
        found := s.desktop.file, untouched := s.desktop.settings, gaveBack := fun _ => false }⟩
  | .listen address =>
    s.desktop.runtime.bind fun r =>
      -- the address of a listener is a host and a port
      if r.start = .listen ∧ (Proxy.netSplitHostPort address).isSome = true then
        match s.process.stage with
        | .listenHTTP => some { s with process := { s.process with
            http := .listening, stage := .installHTTP address } }
        | .listenSOCKS => some { s with process := { s.process with
            socks := .listening, stage := .installSOCKS address } }
        | _ => none
      else none
  | .runStart attempt => s.desktop.runtime.bind fun r => s.runStart attempt r.start s.process.stage
  | .shutdown =>
    s.desktop.runtime.bind fun r =>
      if r.closed then some { s with process := { s.process with nilReturned := true } }
      else (s.desktop.step .shutdown).map fun d => ⟨d, { s.process with
        closing := .closeHTTP s.process.httpServer s.process.socksServer }⟩
  | .runShutdown attempt =>
    s.desktop.runtime.bind fun _ => s.runShutdown attempt s.process.closing
  | .goroutine t result =>
    s.desktop.runtime.bind fun _ =>
      s.manage (.run t result) (s.process.resumed t) s.process.closing
  | .ended i =>
    s.desktop.runtime.bind fun _ => s.manage (.ended i) s.process.stage s.process.closing
  | .change key value =>
    (s.desktop.step (.change key value)).map fun d => ⟨d, { s.process with
      untouched := Function.update s.process.untouched key value,
      gaveBack := Function.update s.process.gaveBack key false }⟩

/-! ## What a step does -/

variable {s s' : App} {l : Label} {r : Runtime} {attempt : Option Err}

/-- A goroutine moves `Start` on only by returning from `Connect`. -/
theorem resumed_cases (p : Process) (t : Nat) :
    p.resumed t = p.stage ∨ ∃ err, p.stage = .connecting t ∧ p.resumed t = .connected err := by
  unfold Process.resumed
  split
  · next t' _ phase hstage _ =>
    split
    · next heq =>
      subst heq
      split
      · next err _ => exact .inr ⟨err, hstage, rfl⟩
      · exact .inl rfl
    · exact .inl rfl
  · exact .inl rfl

/-- The steps of `Start` between `Connect` and `Snapshot` that touch only the listeners. -/
inductive ListenMoves (p : Process) : Process → Prop where
  | openHTTP (address : List Char) (hstage : p.stage = .listenHTTP) :
      ListenMoves p { p with http := .listening, stage := .installHTTP address }
  | openSOCKS (address : List Char) (hstage : p.stage = .listenSOCKS) :
      ListenMoves p { p with socks := .listening, stage := .installSOCKS address }
  | installHTTP {address : List Char} {stage : Stage} (hstage : p.stage = .installHTTP address)
      (hnext : stage = .listenSOCKS ∨ stage = .listened) :
      ListenMoves p { p with httpServer := true, httpAddr := address, stage := stage }
  | installSOCKS {address : List Char} (hstage : p.stage = .installSOCKS address) :
      ListenMoves p { p with socksServer := true, socksAddr := address, stage := .listened }
  | failHTTP (err : Err) (hstage : p.stage = .listenHTTP) :
      ListenMoves p { p with stage := .closeManager err }
  | failSOCKS (err : Err) (hstage : p.stage = .listenSOCKS) :
      ListenMoves p { p with stage := .closeHTTP err }
  | closeHTTP {err : Err} (hstage : p.stage = .closeHTTP err) :
      ListenMoves p { p with http := .closed, stage := .closeManager err }

/-- The steps of `Shutdown` that touch only the listeners. -/
inductive ClosingMoves (p : Process) : Process → Prop where
  | closeHTTP {http socks : Bool} (hclosing : p.closing = .closeHTTP http socks) :
      ClosingMoves p { p with
        http := if http then .closed else p.http, closing := .closeSOCKS socks }
  | closeSOCKS {socks : Bool} (hclosing : p.closing = .closeSOCKS socks) :
      ClosingMoves p { p with socks := if socks then .closed else p.socks, closing := .waiting }
  | closed {t : Nat} (hclosing : p.closing = .closingManager t) :
      ClosingMoves p { p with closing := .restoring }

inductive Steps (s : App) : Label → App → Prop where
  | launch {backend : Backend} (socks5 : Bool) (hruntime : s.desktop.runtime = none) :
      Steps s (.launch backend socks5)
        ⟨s.desktop.put (.new backend), .new socks5 s.desktop.settings⟩
  | exit : Steps s .exit { s with desktop := { s.desktop with runtime := none } }
  | change (key : Key) (value : List Char) : Steps s (.change key value)
      ⟨{ s.desktop with settings := Function.update s.desktop.settings key value },
        { s.process with
          untouched := Function.update s.process.untouched key value,
          gaveBack := Function.update s.process.gaveBack key false }⟩
  | refused : Steps s .start s
  | call {r : Runtime} (hr : s.desktop.runtime = some r) (hidle : r.start.idle = true)
      (hclosed : r.closed = false) (hstarted : r.started = false) :
      Steps s .start ⟨s.desktop.startAt r .readJournal, { s.process with
        found := s.desktop.file, untouched := s.desktop.settings, gaveBack := fun _ => false }⟩
  /-- A step of `Start` outside `Connect` and the listeners. -/
  | proceed {r : Runtime} {attempt : Option Err} {d : Desktop} (hr : s.desktop.runtime = some r)
      (hstage : s.process.stage = .outside) (hconnect : r.start ≠ .connect)
      (hlisten : r.start ≠ .listen) (hd : s.desktop.runStart r attempt r.start = some d) :
      Steps s (.runStart attempt) ⟨d, s.process.took r.start attempt⟩
  | connect {r : Runtime} {attempt : Option Err} {m : System} (hr : s.desktop.runtime = some r)
      (hphase : r.start = .connect) (hstage : s.process.stage = .outside)
      (hm : s.process.manager.step .connect = some m) :
      Steps s (.runStart attempt) { s with process := { s.process with
        manager := m, stage := .connecting s.process.manager.tasks.length } }
  | connected {r : Runtime} {attempt : Option Err} (hr : s.desktop.runtime = some r)
      (hphase : r.start = .connect) (hstage : s.process.stage = .connected none) :
      Steps s (.runStart attempt) ⟨s.desktop.put { r with started := true, start := .listen },
        { s.process with stage := .listenHTTP, last := .connect }⟩
  /-- `Connect` has failed, or a listener has and the manager is closed. -/
  | failed {r : Runtime} {attempt : Option Err} {err : Err} (hr : s.desktop.runtime = some r)
      (hphase : r.start = .connect ∧
          (s.process.stage = .outside ∨ s.process.stage = .connected (some err)) ∨
        r.start = .listen ∧ ∃ t, s.process.stage = .closingManager t err) :
      Steps s (.runStart attempt) ⟨s.desktop.startAt r (.returned (some err)),
        { s.process with stage := .outside, last := r.start }⟩
  | listen {r : Runtime} {l : Label} {p : Process} (hr : s.desktop.runtime = some r)
      (hphase : r.start = .listen) (hmove : ListenMoves s.process p) :
      Steps s l { s with process := p }
  | listened {r : Runtime} {attempt : Option Err} (hr : s.desktop.runtime = some r)
      (hphase : r.start = .listen) (hstage : s.process.stage = .listened)
      (haddress : (Proxy.netSplitHostPort s.process.httpAddr).isSome = true) :
      Steps s (.runStart attempt) ⟨s.desktop.startAt r (.snapshot
          ⟨s.process.httpAddr, s.process.httpAddr, s.process.socksAddr⟩ [] (fields r.backend)),
        { s.process with stage := .outside }⟩
  /-- A listener has failed, and `Start` closes the manager. -/
  | abandon {r : Runtime} {attempt : Option Err} {err : Err} {m : System}
      (hr : s.desktop.runtime = some r) (hphase : r.start = .listen)
      (hstage : s.process.stage = .closeManager err) (hm : s.process.manager.step .close = some m) :
      Steps s (.runStart attempt) { s with process := { s.process with
        manager := m, stage := .closingManager s.process.manager.tasks.length err } }
  | goroutine {t : Nat} {result : Option Err} {m : System}
      (hm : s.process.manager.step (.run t result) = some m) :
      Steps s (.goroutine t result) { s with process := { s.process with
        manager := m, stage := s.process.resumed t } }
  | ended {i : Nat} {m : System} (hm : s.process.manager.step (.ended i) = some m) :
      Steps s (.ended i) { s with process := { s.process with manager := m } }
  | close {r : Runtime} (hr : s.desktop.runtime = some r) (hclosed : r.closed = false) :
      Steps s .shutdown ⟨s.desktop.put { r with closed := true, shutdown := .drain },
        { s.process with
          closing := .closeHTTP s.process.httpServer s.process.socksServer }⟩
  /-- Another call of `Shutdown`. -/
  | again {r : Runtime} (hr : s.desktop.runtime = some r) (hclosed : r.closed = true) :
      Steps s .shutdown { s with process := { s.process with nilReturned := true } }
  | closing {attempt : Option Err} {p : Process} (hmove : ClosingMoves s.process p) :
      Steps s (.runShutdown attempt) { s with process := p }
  | drained {attempt : Option Err} {m : System} (hclosing : s.process.closing = .waiting)
      (hm : s.process.manager.step .close = some m) :
      Steps s (.runShutdown attempt) { s with process := { s.process with
        manager := m, closing := .closingManager s.process.manager.tasks.length } }
  | restore {r : Runtime} {attempt : Option Err} {d : Desktop} (hr : s.desktop.runtime = some r)
      (hclosing : s.process.closing = .restoring)
      (hd : s.desktop.runShutdown r attempt r.shutdown = some d) :
      Steps s (.runShutdown attempt) ⟨d, { s.process with
        nilReturned := s.process.nilReturned || d.shutdownReturned }⟩

theorem manage_eq_some {l : System.Label} {stage : Stage} {closing : Closing}
    (h : s.manage l stage closing = some s') :
    ∃ m, s.process.manager.step l = some m ∧
      s' = { s with process := { s.process with manager := m, stage := stage, closing := closing } } := by
  obtain ⟨m, hm, heq⟩ := Option.map_eq_some_iff.1 h
  exact ⟨m, hm, heq.symm⟩

theorem proceed_eq_some {phase : StartPhase} {stage : Stage}
    (hr : s.desktop.runtime = some r) (h : s.proceed phase attempt stage = some s') :
    ∃ d, s.desktop.runStart r attempt r.start = some d ∧
      s' = ⟨d, { s.process.took phase attempt with stage := stage }⟩ := by
  obtain ⟨d, hd, heq⟩ := Option.map_eq_some_iff.1 h
  simp only [Desktop.step, hr, Option.bind_some] at hd
  exact ⟨d, hd, heq.symm⟩

/-- `Connect` or a listener has failed. -/
theorem fail_eq_some {phase : StartPhase} {err : Err}
    (hr : s.desktop.runtime = some r) (hphase : r.start = phase)
    (hfails : phase = .connect ∨ phase = .listen)
    (h : s.proceed phase (some err) .outside = some s') :
    s' = ⟨s.desktop.startAt r (.returned (some err)),
      { s.process with stage := .outside, last := r.start }⟩ := by
  subst hphase
  obtain ⟨d, hd, rfl⟩ := proceed_eq_some hr h
  rcases hfails with hphase | hphase
  · rw [hphase] at hd
    cases hd
    simp [hphase, Process.took, StartPhase.writes, StartPhase.givesBack]
  · rw [hphase] at hd
    cases hd
    simp [hphase, Process.took, StartPhase.writes, StartPhase.givesBack]

theorem runStart_steps {phase : StartPhase} {stage : Stage}
    (hr : s.desktop.runtime = some r) (hphase : r.start = phase) (hstage : s.process.stage = stage)
    (h : s.runStart attempt phase stage = some s') : Steps s (.runStart attempt) s' := by
  cases phase with
  | connect =>
    cases stage with
    | outside =>
      cases attempt with
      | some err =>
        rw [fail_eq_some hr hphase (.inl rfl) h]
        exact .failed hr (.inl ⟨hphase, .inl hstage⟩)
      | none =>
        obtain ⟨m, hm, rfl⟩ := manage_eq_some h
        exact .connect hr hphase hstage hm
    | connected err =>
      cases err with
      | some err =>
        rw [fail_eq_some hr hphase (.inl rfl) h]
        exact .failed hr (.inl ⟨hphase, .inr hstage⟩)
      | none =>
        obtain ⟨d, hd, rfl⟩ := proceed_eq_some hr h
        rw [hphase] at hd
        cases hd
        simp only [Process.took, StartPhase.writes, StartPhase.givesBack, Bool.or_false]
        exact .connected hr hphase hstage
    | _ => cases h
  | listen =>
    cases stage with
    | listenHTTP =>
      obtain ⟨err, -, rfl⟩ := Option.map_eq_some_iff.1 h
      exact .listen hr hphase (.failHTTP err hstage)
    | installHTTP address =>
      cases h
      refine .listen hr hphase (.installHTTP hstage ?_)
      split
      · exact .inl rfl
      · exact .inr rfl
    | listenSOCKS =>
      obtain ⟨err, -, rfl⟩ := Option.map_eq_some_iff.1 h
      exact .listen hr hphase (.failSOCKS err hstage)
    | installSOCKS address =>
      cases h
      exact .listen hr hphase (.installSOCKS hstage)
    | listened =>
      obtain ⟨d, hd, rfl⟩ := Option.map_eq_some_iff.1 h
      simp only [Desktop.step, hr, Option.bind_some, Option.ite_none_right_eq_some,
        Option.some.injEq] at hd
      obtain ⟨⟨-, haddress⟩, rfl⟩ := hd
      exact .listened hr hphase hstage haddress
    | closeHTTP err =>
      cases h
      exact .listen hr hphase (.closeHTTP hstage)
    | closeManager err =>
      obtain ⟨m, hm, rfl⟩ := manage_eq_some h
      exact .abandon hr hphase hstage hm
    | closingManager t err =>
      simp only [runStart, Option.ite_none_right_eq_some] at h
      rw [fail_eq_some hr hphase (.inr rfl) h.2]
      exact .failed hr (.inr ⟨hphase, t, hstage⟩)
    | _ => cases h
  | _ =>
    cases stage with
    | outside =>
      obtain ⟨d, hd, rfl⟩ := proceed_eq_some hr h
      rw [← hstage, ← hphase]
      exact .proceed hr hstage (by simp [hphase]) (by simp [hphase]) hd
    | _ => cases h

theorem runShutdown_steps {closing : Closing}
    (hr : s.desktop.runtime = some r) (hclosing : s.process.closing = closing)
    (h : s.runShutdown attempt closing = some s') : Steps s (.runShutdown attempt) s' := by
  cases closing with
  | ready => cases h
  | closeHTTP http socks =>
    cases h
    exact .closing (.closeHTTP hclosing)
  | closeSOCKS socks =>
    cases h
    exact .closing (.closeSOCKS hclosing)
  | waiting =>
    obtain ⟨m, hm, rfl⟩ := manage_eq_some h
    exact .drained hclosing hm
  | closingManager t =>
    obtain ⟨-, rfl⟩ := eq_of_ite_some h
    exact .closing (.closed hclosing)
  | restoring =>
    obtain ⟨d, hd, rfl⟩ := Option.map_eq_some_iff.1 h
    simp only [Desktop.step, hr, Option.bind_some] at hd
    exact .restore hr hclosing hd

/-- **Inversion of a step.** -/
theorem step_steps (h : s.step l = some s') : Steps s l s' := by
  cases l with
  | launch backend socks5 =>
    obtain ⟨d, hd, rfl⟩ := Option.map_eq_some_iff.1 h
    simp only [Desktop.step, Option.ite_none_right_eq_some, Option.some.injEq] at hd
    obtain ⟨⟨hruntime, -⟩, rfl⟩ := hd
    exact .launch socks5 hruntime
  | exit =>
    obtain ⟨d, hd, rfl⟩ := Option.map_eq_some_iff.1 h
    simp only [Desktop.step, Option.ite_none_left_eq_some, Option.some.injEq] at hd
    obtain ⟨-, rfl⟩ := hd
    exact .exit
  | start =>
    obtain ⟨r, hr, h⟩ := Option.bind_eq_some_iff.1 h
    split at h
    · cases h
    · next hidle =>
      split at h
      · cases h
        exact .refused
      · next hopen =>
        obtain ⟨d, hd, rfl⟩ := Option.map_eq_some_iff.1 h
        simp only [Desktop.step, hr, Option.bind_some, if_neg hidle, if_neg hopen,
          Option.some.injEq] at hd
        subst hd
        simp only [not_or, Bool.not_eq_true] at hopen
        exact .call hr (by simpa using hidle) hopen.1 hopen.2
  | listen address =>
    obtain ⟨r, hr, h⟩ := Option.bind_eq_some_iff.1 h
    split at h
    · next hlisten =>
      split at h
      · next hstage =>
        cases h
        exact .listen hr hlisten.1 (.openHTTP address hstage)
      · next hstage =>
        cases h
        exact .listen hr hlisten.1 (.openSOCKS address hstage)
      · cases h
    · cases h
  | runStart attempt =>
    obtain ⟨r, hr, h⟩ := Option.bind_eq_some_iff.1 h
    exact runStart_steps hr rfl rfl h
  | shutdown =>
    obtain ⟨r, hr, h⟩ := Option.bind_eq_some_iff.1 h
    split at h
    · next hclosed =>
      cases h
      exact .again hr hclosed
    · next hclosed =>
      obtain ⟨d, hd, rfl⟩ := Option.map_eq_some_iff.1 h
      simp only [Desktop.step, hr, Option.bind_some, if_neg hclosed, Option.some.injEq] at hd
      subst hd
      exact .close hr (by simpa using hclosed)
  | runShutdown attempt =>
    obtain ⟨r, hr, h⟩ := Option.bind_eq_some_iff.1 h
    exact runShutdown_steps hr rfl h
  | goroutine t result =>
    obtain ⟨r, -, h⟩ := Option.bind_eq_some_iff.1 h
    obtain ⟨m, hm, rfl⟩ := manage_eq_some h
    exact .goroutine hm
  | ended i =>
    obtain ⟨r, -, h⟩ := Option.bind_eq_some_iff.1 h
    obtain ⟨m, hm, rfl⟩ := manage_eq_some h
    exact .ended hm
  | change key value =>
    cases h
    exact .change key value

/-! ## Where `Start` stands -/

/-- Within `Connect` and between the listeners, the two accounts of where `Start` stands agree. -/
def Placed (s : App) : Prop :=
  ∀ r, s.desktop.runtime = some r → s.process.stage ≠ .outside →
    r.start = .connect ∨ r.start = .listen

theorem new_placed (platform : Platform) (settings : Settings) : (new platform settings).Placed := by
  intro r hr
  cases hr

theorem Placed.outside (h : s.Placed) (hr : s.desktop.runtime = some r)
    (hidle : r.start.idle = true) : s.process.stage = .outside := by
  by_contra hstage
  rcases h r hr hstage with hphase | hphase
  · rw [hphase] at hidle
    cases hidle
  · rw [hphase] at hidle
    cases hidle

theorem Placed.steps (h : s.Placed) (hstep : Steps s l s') : s'.Placed := by
  intro r' hr' hstage'
  cases hstep with
  | launch | failed | listened => exact absurd rfl hstage'
  | exit => cases hr'
  | change | refused | ended | again => exact h r' hr' hstage'
  | call hr hidle => exact absurd (h.outside hr hidle) hstage'
  | proceed _ hstage => exact absurd hstage hstage'
  | connect hr hphase =>
    cases hr.symm.trans hr'
    exact .inl hphase
  | connected =>
    cases hr'
    exact .inr rfl
  | listen hr hphase =>
    cases hr.symm.trans hr'
    exact .inr hphase
  | abandon hr hphase =>
    cases hr.symm.trans hr'
    exact .inr hphase
  | @goroutine t =>
    refine h r' hr' ?_
    rcases resumed_cases s.process t with heq | ⟨err, hat, -⟩
    · rw [← heq]
      exact hstage'
    · simp [hat]
  | @close r hr =>
    cases hr'
    exact h r hr hstage'
  | closing hmove =>
    refine h r' hr' ?_
    cases hmove with
    | closeHTTP | closeSOCKS | closed => exact hstage'
  | drained => exact h r' hr' hstage'
  | @restore r attempt d hr _ hd =>
    obtain ⟨journal, phase, hruntime⟩ := Desktop.runShutdown_runtime hr hd
    rw [hruntime, Option.some.injEq] at hr'
    subst hr'
    exact h r hr hstage'

/-- Up to the listeners, with a connection. -/
def upToListeners (backend : Backend) (socks5 : Bool) : List Label :=
  [.launch backend socks5, .start, .runStart none, .runStart none] ++
    List.replicate 6 (.goroutine 0 none) ++ [.runStart none]

/-- Up to the snapshot, with a listener for HTTP. -/
def upToSnapshot (backend : Backend) : List Label :=
  upToListeners backend false ++ [.listen "127.0.0.1:4000".toList, .runStart none, .runStart none]

end App

end LnProxy.Client
