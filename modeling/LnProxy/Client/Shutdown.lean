import LnProxy.Client.CrashSafety
import LnProxy.Client.Lifecycle

set_option autoImplicit false

/-! # `Shutdown` is final where it is not overtaken

A call of `Shutdown` that returns nil should leave no listener, no session and no system proxy of the
process behind. It does so for what was there when the first call came: that call takes the servers
and closes them, closes the manager, and restores what the journal of the runtime tells. Nothing makes
it wait for a `Start` that is under way, which goes on and installs the rest, nor for a `Reconnect`
that has passed the check of the manager; and every other call returns nil at once, whatever has
become of the first.

So the theorem is about the runs in which the first call comes while `Start` is not in progress, no
`Reconnect` is in progress when it closes the manager, the others come after the first has returned
nil, and `Apply` and `Restore` do what the journal needs (`Desktop.sound`). -/

namespace LnProxy.Client

open Transition Script SystemProxy

/-! ## A manager that stays closed -/

namespace System

variable {m m' : System} {l : Label}

/-- `Close` has been called, and no `Reconnect` that began before is left. -/
structure Quiet (m : System) : Prop where
  closed : m.manager.closed = true
  session : m.manager.session = none
  idle : ∀ task ∈ m.tasks, task.busy = false

theorem quiet_of_close (hidle : ∀ task ∈ m.tasks, task.busy = false) (h : m.step .close = some m') :
    m'.Quiet := by
  cases h
  refine ⟨rfl, rfl, fun task hmem => ?_⟩
  rcases List.mem_append.1 hmem with hmem | hmem
  · exact hidle task hmem
  · rw [List.mem_singleton.1 hmem]
    rfl

theorem Quiet.not_busy (h : m.Quiet) {t : Nat} {task : Task} (htask : m.tasks[t]? = some task)
    (hbusy : task.busy = true) : False := by
  rw [h.idle task (List.mem_of_getElem? htask)] at hbusy
  cases hbusy

theorem Quiet.idle_set (h : m.Quiet) {t : Nat} {task' : Task} (hidle : task'.busy = false) :
    ∀ task ∈ m.tasks.set t task', task.busy = false := by
  intro task hmem
  rcases List.mem_or_eq_of_mem_set hmem with hmem | heq
  · exact h.idle task hmem
  · rw [heq]
    exact hidle

/-- Whatever the goroutines do, a manager that is quiet stays so. -/
theorem Quiet.steps (h : m.Quiet) (hstep : Steps m l m') : m'.Quiet := by
  cases hstep with
  | shell hcalled =>
    refine ⟨h.closed, h.session, fun task hmem => ?_⟩
    rcases List.mem_append.1 hmem with hmem | hmem
    · exact h.idle task hmem
    · rw [hcalled task hmem]
      rfl
  | close => exact quiet_of_close h.idle rfl
  | ended i => exact ⟨h.closed, h.session, h.idle⟩
  | @advance t result task task' htask _ _ _ hbusy =>
    refine ⟨h.closed, h.session, h.idle_set ?_⟩
    by_contra hne
    exact h.not_busy htask (hbusy (by simpa using hne))
  | enter _ hopen =>
    rw [h.closed] at hopen
    cases hopen
  | closeOld htask | start htask | install htask | fail htask => exact (h.not_busy htask rfl).elim
  | watch _ _ hsession =>
    rw [h.session] at hsession
    cases hsession
  | closed htask =>
    refine ⟨?_, ?_, ?_⟩
    · simpa [put] using h.closed
    · simpa [put] using h.session
    · simpa [put] using h.idle_set rfl

end System

/-! ## The property and the condition -/

/-- No listener accepts connections. -/
def Process.Deaf (p : Process) : Prop := p.http ≠ .listening ∧ p.socks ≠ .listening

namespace App

/-- When some call of `Shutdown` has returned nil and `Start` is not in progress, the listeners are
    closed, the manager has no session, and `Apply` has not written or its writes are undone and the
    journal is gone. -/
def Final (s : App) : Prop :=
  ∀ r, s.desktop.runtime = some r → s.process.nilReturned = true → r.start.idle = true →
    s.process.Deaf ∧ s.process.manager.manager.session = none ∧
      (s.process.wrote = false ∨
        s.desktop.file = none ∧ Desktop.Clean s.desktop.base s.desktop.own)

/-- The first call of `Shutdown` comes while `Start` is not in progress and the others after it has
    returned nil; it closes the manager while no `Reconnect` is in progress; and `Apply` and `Restore`
    are sound. -/
def orderly (s : App) : Label → Bool
  | .runStart attempt => s.desktop.sound (.runStart attempt)
  | .shutdown =>
    match s.desktop.runtime with
    | none => true
    | some r => if r.closed then decide (r.shutdown = .returned none) else r.start.idle
  | .runShutdown attempt =>
    match s.process.closing with
    | .waiting => s.process.manager.tasks.all fun task => !task.busy
    | _ => s.desktop.sound (.runShutdown attempt)
  | _ => true

end App

/-! ## The invariant -/

/-- What the first call of `Shutdown` has done so far. -/
def Closing.Fits (p : Process) (r : Runtime) : Closing → Prop
  | .ready => r.closed = false ∧ r.shutdown = .ready
  | .closeHTTP http socks => r.closed = true ∧ r.shutdown = .drain ∧ http = p.httpServer ∧
      socks = p.socksServer
  | .closeSOCKS socks => r.closed = true ∧ r.shutdown = .drain ∧ p.http ≠ .listening ∧
      socks = p.socksServer
  | .waiting => r.closed = true ∧ r.shutdown = .drain ∧ p.Deaf
  | .closingManager _ => r.closed = true ∧ r.shutdown = .drain ∧ p.Deaf ∧ p.manager.Quiet
  | .restoring => r.closed = true ∧ p.Deaf ∧ p.manager.Quiet

theorem Closing.Fits.congr {p p' : Process} {r : Runtime} {closing : Closing} (h : closing.Fits p r)
    (hhttp : p'.http = p.http) (hsocks : p'.socks = p.socks)
    (hhttpServer : p'.httpServer = p.httpServer) (hsocksServer : p'.socksServer = p.socksServer)
    (hquiet : p.manager.Quiet → p'.manager.Quiet) : closing.Fits p' r := by
  have hdeaf : p.Deaf → p'.Deaf := by
    unfold Process.Deaf
    rw [hhttp, hsocks]
    exact id
  cases closing with
  | ready => exact h
  | closeHTTP http socks =>
    simp only [Fits, hhttpServer, hsocksServer]
    exact h
  | closeSOCKS socks =>
    simp only [Fits, hhttp, hsocksServer]
    exact h
  | waiting => exact ⟨h.1, h.2.1, hdeaf h.2.2⟩
  | closingManager t => exact ⟨h.1, h.2.1, hdeaf h.2.2.1, hquiet h.2.2.2⟩
  | restoring => exact ⟨h.1, hdeaf h.2.1, hquiet h.2.2⟩

/-- `Apply` has written. -/
def Runtime.Wrote (r : Runtime) (file : Option Journal) : Prop :=
  (∃ journal rest, r.start = .apply journal rest ∧ rest ≠ apply r.backend journal.applied) ∨
    r.journal ≠ none ∨ r.shutdown = .returned none ∧ file = none

/-- How a process fits the runtime it has. -/
structure Process.Fits (p : Process) (r : Runtime) (file : Option Journal) : Prop where
  /-- `Start` is refused once `Shutdown` was called. -/
  idle : r.closed = true → r.start.idle = true
  http : p.http = .listening → p.httpServer = true ∨ ∃ address, p.stage = .installHTTP address
  socks : p.socks = .listening → p.socksServer = true ∨ ∃ address, p.stage = .installSOCKS address
  closing : p.closing.Fits p r
  nilReturned : p.nilReturned = true → r.shutdown = .returned none
  restored : r.shutdown = .returned none → r.journal = none
  wrote : p.wrote = true → r.Wrote file

namespace Process

variable {p p' : Process} {r r' : Runtime} {file file' : Option Journal}

theorem new_fits (socks5 : Bool) (settings : Settings) (backend : Backend) :
    (Process.new socks5 settings).Fits (.new backend) file where
  idle := nofun
  http := nofun
  socks := nofun
  closing := ⟨rfl, rfl⟩
  nilReturned := nofun
  restored := nofun
  wrote := nofun

/-- Before `Shutdown` is called. -/
theorem Fits.before (h : p.Fits r file) (hclosed : r.closed = false) :
    p.closing = .ready ∧ r.shutdown = .ready ∧ p.nilReturned = false := by
  have hclosing := h.closing
  have hready : p.closing = .ready ∧ r.shutdown = .ready := by
    cases heq : p.closing with
    | ready =>
      rw [heq] at hclosing
      exact ⟨rfl, hclosing.2⟩
    | _ =>
      rw [heq] at hclosing
      rw [hclosing.1] at hclosed
      cases hclosed
  refine ⟨hready.1, hready.2, ?_⟩
  by_contra hnil
  have hreturned := h.nilReturned (by simpa using hnil)
  rw [hready.2] at hreturned
  cases hreturned

/-- While `Start` is in progress, `Shutdown` has not been called. -/
theorem Fits.not_closed (h : p.Fits r file) (hidle : r.start.idle = false) : r.closed = false := by
  by_contra hclosed
  rw [h.idle (by simpa using hclosed)] at hidle
  cases hidle

theorem Fits.httpServer (h : p.Fits r file) (hstage : ∀ address, p.stage ≠ .installHTTP address)
    (hhttp : p.http = .listening) : p.httpServer = true :=
  (h.http hhttp).resolve_right fun ⟨address, hat⟩ => hstage address hat

theorem Fits.socksServer (h : p.Fits r file) (hstage : ∀ address, p.stage ≠ .installSOCKS address)
    (hsocks : p.socks = .listening) : p.socksServer = true :=
  (h.socks hsocks).resolve_right fun ⟨address, hat⟩ => hstage address hat

/-- Before its commands `Apply` has written nothing. -/
theorem Fits.not_wrote (h : p.Fits r file) (hclosed : r.closed = false) (hjournal : r.journal = none)
    (hphase : ∀ journal rest, r.start = .apply journal rest →
      rest = apply r.backend journal.applied) : p.wrote = false := by
  by_contra hwrote
  rcases h.wrote (by simpa using hwrote) with ⟨journal, rest, hstart, hne⟩ | hne | ⟨hreturned, -⟩
  · exact hne (hphase journal rest hstart)
  · exact hne hjournal
  · rw [(h.before hclosed).2.1] at hreturned
    cases hreturned

/-- A step of `Start` has nothing to do with what `Shutdown` does. -/
theorem Fits.started (h : p.Fits r file) (hclosed : r.closed = false) (hclosed' : r'.closed = r.closed)
    (hshutdown : r'.shutdown = r.shutdown) (hclosing : p'.closing = p.closing)
    (hnil : p'.nilReturned = p.nilReturned)
    (hhttp : p'.http = .listening →
      p'.httpServer = true ∨ ∃ address, p'.stage = .installHTTP address)
    (hsocks : p'.socks = .listening →
      p'.socksServer = true ∨ ∃ address, p'.stage = .installSOCKS address)
    (hwrote : p'.wrote = true → r'.Wrote file') : p'.Fits r' file' := by
  obtain ⟨hready, hshut, hnot⟩ := h.before hclosed
  refine ⟨?_, hhttp, hsocks, ?_, ?_, ?_, hwrote⟩
  · simp [hclosed', hclosed]
  · rw [hclosing, hready]
    exact ⟨hclosed'.trans hclosed, hshutdown.trans hshut⟩
  · simp [hnil, hnot]
  · simp [hshutdown, hshut]

/-- A step of `Start` between the listeners. -/
theorem Fits.listen (h : p.Fits r file) (hphase : r.start = .listen) (hmove : App.ListenMoves p p') :
    p'.Fits r file := by
  have hclosed := h.not_closed (by rw [hphase]; rfl)
  cases hmove with
  | openHTTP address hat =>
    refine h.started hclosed rfl rfl rfl rfl (fun _ => .inr ⟨address, rfl⟩) ?_ h.wrote
    exact fun hsocks => .inl (h.socksServer (by simp [hat]) hsocks)
  | openSOCKS address hat =>
    refine h.started hclosed rfl rfl rfl rfl ?_ (fun _ => .inr ⟨address, rfl⟩) h.wrote
    exact fun hhttp => .inl (h.httpServer (by simp [hat]) hhttp)
  | installHTTP hat =>
    refine h.started hclosed rfl rfl rfl rfl (fun _ => .inl rfl) ?_ h.wrote
    exact fun hsocks => .inl (h.socksServer (by simp [hat]) hsocks)
  | installSOCKS hat =>
    refine h.started hclosed rfl rfl rfl rfl ?_ (fun _ => .inl rfl) h.wrote
    exact fun hhttp => .inl (h.httpServer (by simp [hat]) hhttp)
  | failHTTP err hat | failSOCKS err hat =>
    refine h.started hclosed rfl rfl rfl rfl ?_ ?_ h.wrote
    · exact fun hhttp => .inl (h.httpServer (by simp [hat]) hhttp)
    · exact fun hsocks => .inl (h.socksServer (by simp [hat]) hsocks)
  | closeHTTP hat =>
    refine h.started hclosed rfl rfl rfl rfl nofun ?_ h.wrote
    exact fun hsocks => .inl (h.socksServer (by simp [hat]) hsocks)

/-- A step of `Start` from one place to another, with the listeners as they are. -/
theorem Fits.startAt (h : p.Fits r file) (hclosed : r.closed = false) (hjournal : r.journal = none)
    (hphase : ∀ journal rest, r.start ≠ .apply journal rest)
    (hstage : ∀ address, p.stage ≠ .installHTTP address ∧ p.stage ≠ .installSOCKS address)
    {started : Bool} {phase last : StartPhase} {m : System} {stage : Stage} {found : Option Journal}
    {untouched : Settings} {gaveBack : Key → Bool} :
    Process.Fits { p with
        manager := m, stage := stage, last := last, found := found, untouched := untouched,
        gaveBack := gaveBack }
      { r with started := started, start := phase } file' := by
  have hnot := h.not_wrote hclosed hjournal fun journal rest hat => absurd hat (hphase journal rest)
  refine h.started hclosed rfl rfl rfl rfl ?_ ?_ ?_
  · exact fun hlistening => .inl (h.httpServer (fun address => (hstage address).1) hlistening)
  · exact fun hlistening => .inl (h.socksServer (fun address => (hstage address).2) hlistening)
  · simp [hnot]

/-- A step of somebody else. -/
theorem Fits.meanwhile (h : p.Fits r file) {m : System} {stage : Stage} {untouched : Settings}
    {gaveBack : Key → Bool} (hquiet : p.manager.Quiet → m.Quiet)
    (hstage : stage = p.stage ∨ ∃ t err, p.stage = .connecting t ∧ stage = .connected err) :
    Process.Fits { p with
      manager := m, stage := stage, untouched := untouched, gaveBack := gaveBack } r file := by
  have hclosing : p.closing.Fits { p with
      manager := m, stage := stage, untouched := untouched, gaveBack := gaveBack } r :=
    h.closing.congr rfl rfl rfl rfl hquiet
  rcases hstage with rfl | ⟨t, err, hat, rfl⟩
  · exact ⟨h.idle, h.http, h.socks, hclosing, h.nilReturned, h.restored, h.wrote⟩
  · refine ⟨h.idle, ?_, ?_, hclosing, h.nilReturned, h.restored,
      h.wrote⟩
    · exact fun hlistening => .inl (h.httpServer (by simp [hat]) hlistening)
    · exact fun hlistening => .inl (h.socksServer (by simp [hat]) hlistening)

/-- `Shutdown` closes what it has found. -/
theorem Fits.closes (h : p.Fits r file)
    (hout : r.start.idle = true → p.stage = .outside) (hmove : App.ClosingMoves p p') :
    p'.Fits r file := by
  have hclosing := h.closing
  cases hmove with
  | @closeHTTP http socks hat =>
    rw [hat] at hclosing
    obtain ⟨hclosed, hdrain, rfl, rfl⟩ := hclosing
    have hstage := hout (h.idle hclosed)
    have hdeaf : (if p.httpServer = true then Listener.closed else p.http) ≠ .listening := by
      split
      · nofun
      · next hserver => exact fun hhttp => hserver (h.httpServer (by simp [hstage]) hhttp)
    exact ⟨h.idle, fun hhttp => absurd hhttp hdeaf, h.socks,
      ⟨hclosed, hdrain, hdeaf, rfl⟩, h.nilReturned, h.restored, h.wrote⟩
  | @closeSOCKS socks hat =>
    rw [hat] at hclosing
    obtain ⟨hclosed, hdrain, hhttp, rfl⟩ := hclosing
    have hstage := hout (h.idle hclosed)
    have hdeaf : (if p.socksServer = true then Listener.closed else p.socks) ≠ .listening := by
      split
      · nofun
      · next hserver => exact fun hsocks => hserver (h.socksServer (by simp [hstage]) hsocks)
    exact ⟨h.idle, h.http, fun hsocks => absurd hsocks hdeaf,
      ⟨hclosed, hdrain, hhttp, hdeaf⟩, h.nilReturned, h.restored, h.wrote⟩
  | closed hat =>
    rw [hat] at hclosing
    obtain ⟨hclosed, -, hdeaf, hquiet⟩ := hclosing
    exact ⟨h.idle, h.http, h.socks, ⟨hclosed, hdeaf, hquiet⟩, h.nilReturned, h.restored,
      h.wrote⟩

end Process

/-! ## Each step keeps it -/

/-- A step of `restoreProxy` leaves the journal alone, or it removes it and returns nil; without a
    journal it returns nil. -/
theorem Desktop.runShutdown_journal {s d : Desktop} {r : Runtime} {attempt : Option Err}
    (h : s.runShutdown r attempt r.shutdown = some d) :
    r.shutdown ≠ .returned none ∧ ∃ phase,
      (d.file = s.file ∧ d.runtime = some { r with shutdown := phase } ∧
          (phase = .returned none → r.journal = none)) ∨
        d.file = none ∧ phase = .returned none ∧
          d.runtime = some { r with journal := none, shutdown := phase } := by
  cases hphase : r.shutdown with
  | ready | returned => simp [hphase, runShutdown] at h
  | drain =>
    rw [hphase] at h
    simp only [runShutdown] at h
    split at h
    · next hjournal =>
      cases h
      exact ⟨by simp, _, .inl ⟨rfl, rfl, fun _ => hjournal⟩⟩
    · cases h
      exact ⟨by simp, _, .inl ⟨rfl, rfl, by simp⟩⟩
  | snapshot journal values rest =>
    rw [hphase] at h
    refine ⟨by simp, ?_⟩
    cases rest with
    | nil =>
      cases h
      exact ⟨_, .inl ⟨rfl, rfl, by simp⟩⟩
    | cons pair rest =>
      simp only [runShutdown] at h
      split at h <;>
        · cases h
          exact ⟨_, .inl ⟨rfl, rfl, by simp⟩⟩
  | compare journal values =>
    rw [hphase] at h
    simp only [runShutdown] at h
    split at h <;>
      · cases h
        exact ⟨by simp, _, .inl ⟨rfl, rfl, by simp⟩⟩
  | restore journal rest fresh =>
    rw [hphase] at h
    refine ⟨by simp, ?_⟩
    cases rest with
    | nil =>
      cases h
      exact ⟨_, .inl ⟨rfl, rfl, by simp⟩⟩
    | cons c rest =>
      simp only [runShutdown, Option.some.injEq] at h
      subst h
      refine ⟨_, .inl ⟨rfl, rfl, ?_⟩⟩
      split <;> simp
  | removeJournal journal =>
    rw [hphase] at h
    refine ⟨by simp, ?_⟩
    cases attempt with
    | none =>
      cases h
      exact ⟨_, .inr ⟨rfl, rfl, rfl⟩⟩
    | some err =>
      cases h
      exact ⟨_, .inl ⟨rfl, rfl, by simp⟩⟩

namespace App

variable {s s' : App} {l : Label} {r : Runtime} {attempt : Option Err}

/-- `Apply` has written once it is past a command, and where it fails it has not. -/
theorem wrote_of_proceed {d : Desktop} {r' : Runtime} (hwired : s.desktop.Wired)
    (hr : s.desktop.runtime = some r) (h : s.process.Fits r s.desktop.file)
    (hok : s.desktop.sound (.runStart attempt) = true)
    (hd : s.desktop.runStart r attempt r.start = some d) (hr' : d.runtime = some r')
    (hwrote : (s.process.wrote || r.start.writes attempt) = true) : r'.Wrote d.file := by
  have hidle := Desktop.runStart_idle hd
  have hjournal := (hwired.runtime r hr).journal_eq_none hidle
  have hnot := h.not_wrote (h.not_closed hidle) hjournal
  cases hphase : r.start with
  | apply journal rest =>
    cases rest with
    | nil =>
      rw [hphase] at hd
      cases hd
      cases hr'
      exact .inr (.inl nofun)
    | cons c rest =>
      rw [hphase] at hd
      simp only [Desktop.runStart, Option.some.injEq] at hd
      subst hd
      cases hr'
      cases herror : c.error refuses attempt with
      | none =>
        refine .inl ⟨journal, rest, rfl, fun hall => ?_⟩
        -- the rest is shorter than the whole operation
        have hwithin := (hwired.runtime r hr).start
        rw [hphase] at hwithin
        have hlength := hwithin.length_le
        rw [← hall, List.length_cons] at hlength
        omega
      | some err =>
        simp only [Desktop.sound, hr, hphase, herror, Option.isNone_some, Bool.false_or,
          decide_eq_true_eq] at hok
        have hfalse : s.process.wrote = false := hnot fun journal' rest' hat => by
          rw [hphase] at hat
          cases hat
          exact hok
        simp [hphase, hfalse, StartPhase.writes, Command.failure_of_error herror] at hwrote
  | _ =>
    have hfalse : s.process.wrote = false := hnot fun journal' rest' hat => by
      rw [hphase] at hat
      cases hat
    simp [hphase, hfalse, StartPhase.writes] at hwrote

theorem fits_of_proceed {d : Desktop} {r' : Runtime} (hwired : s.desktop.Wired)
    (hr : s.desktop.runtime = some r) (h : s.process.Fits r s.desktop.file)
    (hok : s.desktop.sound (.runStart attempt) = true)
    (hd : s.desktop.runStart r attempt r.start = some d) (hr' : d.runtime = some r') :
    (s.process.took r.start attempt).Fits r' d.file := by
  have hclosed := h.not_closed (Desktop.runStart_idle hd)
  have hwrote := wrote_of_proceed hwired hr h hok hd hr'
  obtain ⟨started, journal, phase, hruntime⟩ := Desktop.runStart_runtime hr hd
  rw [hruntime, Option.some.injEq] at hr'
  subst hr'
  exact h.started hclosed rfl rfl rfl rfl h.http h.socks hwrote

/-- A step of `restoreProxy`. -/
theorem fits_of_restore {d : Desktop} {r' : Runtime} (h : s.process.Fits r s.desktop.file)
    (hclosing : s.process.closing = .restoring)
    (hd : s.desktop.runShutdown r attempt r.shutdown = some d) (hr' : d.runtime = some r') :
    Process.Fits { s.process with nilReturned := s.process.nilReturned || d.shutdownReturned }
      r' d.file := by
  obtain ⟨hnot, phase, hcases⟩ := Desktop.runShutdown_journal hd
  have hfits := h.closing
  rw [hclosing] at hfits
  have hidle := h.idle hfits.1
  have hnil : s.process.nilReturned = false := by
    by_contra hnil
    exact hnot (h.nilReturned (by simpa using hnil))
  have hreturned : (s.process.nilReturned || d.shutdownReturned) = true →
      r'.shutdown = .returned none := by
    intro hdone
    simpa [hnil, Desktop.shutdownReturned, hr'] using hdone
  rcases hcases with ⟨hfile, hruntime, hnone⟩ | ⟨hfile, rfl, hruntime⟩
  · rw [hruntime, Option.some.injEq] at hr'
    subst hr'
    refine ⟨h.idle, h.http, h.socks, ?_, hreturned, hnone, fun hwrote => ?_⟩
    · show Closing.Fits _ _ s.process.closing
      rw [hclosing]
      exact hfits
    · rcases h.wrote hwrote with ⟨journal, rest, hphase, -⟩ | hjournal | ⟨hdone, -⟩
      · rw [hphase] at hidle
        cases hidle
      · exact .inr (.inl hjournal)
      · exact absurd hdone hnot
  · rw [hruntime, Option.some.injEq] at hr'
    subst hr'
    refine ⟨h.idle, h.http, h.socks, ?_, hreturned, fun _ => rfl,
      fun _ => .inr (.inr ⟨rfl, hfile⟩)⟩
    show Closing.Fits _ _ s.process.closing
    rw [hclosing]
    exact hfits

structure Inv (s : App) : Prop where
  placed : s.Placed
  desktop : s.desktop.Inv
  process : ∀ r, s.desktop.runtime = some r → s.process.Fits r s.desktop.file

theorem new_inv (platform : Platform) (settings : Settings) : (new platform settings).Inv where
  placed := new_placed platform settings
  desktop := Desktop.new_inv platform settings
  process := by
    intro r hr
    cases hr

/-- The settings and the journal take a step of their own model, or none. -/
theorem Steps.desktop (h : Steps s l s') (hok : s.orderly l = true) :
    ∃ l', s.desktop.sound l' = true ∧ Desktop.Steps s.desktop l' s'.desktop := by
  cases h with
  | launch socks5 hruntime => exact ⟨_, rfl, .launch hruntime⟩
  | exit => exact ⟨_, rfl, .exit⟩
  | change key value => exact ⟨_, rfl, .change key value⟩
  | call hr _ _ hstarted => exact ⟨_, rfl, .call hr hstarted⟩
  | @proceed r attempt d hr _ _ _ hd =>
    exact ⟨.runStart attempt, hok, Desktop.runStart_steps hr rfl hd⟩
  | connected hr hphase =>
    exact ⟨.runStart none, by simp [Desktop.sound, hr, hphase], .connect hr hphase⟩
  | failed hr hphase =>
    rcases hphase with ⟨hphase, -⟩ | ⟨hphase, -⟩
    · exact ⟨.runStart none, by simp [Desktop.sound, hr, hphase],
        .startMove hr (by rw [hphase]; rfl) (.returned _ _)⟩
    · exact ⟨.runStart none, by simp [Desktop.sound, hr, hphase],
        .startMove hr (by rw [hphase]; rfl) (.returned _ _)⟩
  | listened hr hphase _ haddress => exact ⟨_, rfl, .listen hr hphase haddress⟩
  | close hr => exact ⟨_, rfl, .close hr⟩
  | restore hr hclosing hd =>
    simp only [orderly, hclosing] at hok
    exact ⟨_, hok, Desktop.runShutdown_steps hr rfl hd⟩
  | refused | connect | listen | abandon | goroutine | ended | again | closing | drained =>
    exact ⟨.start, rfl, .refused .start⟩

theorem Inv.fits (h : s.Inv) (hok : s.orderly l = true) (hstep : Steps s l s') :
    ∀ r, s'.desktop.runtime = some r → s'.process.Fits r s'.desktop.file := by
  have hwired := h.desktop.wired
  -- while `Start` is in progress, `Shutdown` was not called and the runtime has no journal
  have hopen : ∀ r, s.desktop.runtime = some r → r.start.idle = false →
      r.closed = false ∧ r.journal = none := fun r hr hidle =>
    ⟨(h.process r hr).not_closed hidle, (hwired.runtime r hr).journal_eq_none hidle⟩
  intro r' hr'
  cases hstep with
  | launch socks5 hruntime =>
    cases hr'
    exact Process.new_fits _ _ _
  | exit => cases hr'
  | change key value => exact (h.process r' hr').meanwhile id (.inl rfl)
  | refused => exact h.process r' hr'
  | @call r hr hidle hclosed hstarted =>
    cases hr'
    have hfits := h.process r hr
    have hjournal := (hwired.runtime r hr).journal_of_not_started hstarted
    have hstage := h.placed.outside hr hidle
    refine hfits.startAt hclosed hjournal ?_ (by simp [hstage])
    intro journal rest hphase
    rw [hphase] at hidle
    cases hidle
  | @proceed r attempt d hr hstage hconnect hlisten hd =>
    exact fits_of_proceed hwired hr (h.process r hr) hok hd hr'
  | @connect r attempt m hr hphase hstage hm =>
    cases hr.symm.trans hr'
    obtain ⟨hclosed, hjournal⟩ := hopen r' hr (by rw [hphase]; rfl)
    exact (h.process r' hr).startAt hclosed hjournal (by simp [hphase]) (by simp [hstage])
  | @connected r attempt hr hphase hstage =>
    cases hr'
    obtain ⟨hclosed, hjournal⟩ := hopen r hr (by rw [hphase]; rfl)
    exact (h.process r hr).startAt hclosed hjournal (by simp [hphase]) (by simp [hstage])
  | @failed r attempt err hr hphase =>
    cases hr'
    rcases hphase with ⟨hphase, hstage⟩ | ⟨hphase, t, hstage⟩
    · obtain ⟨hclosed, hjournal⟩ := hopen r hr (by rw [hphase]; rfl)
      refine (h.process r hr).startAt hclosed hjournal (by simp [hphase]) ?_
      rcases hstage with hstage | hstage <;> simp [hstage]
    · obtain ⟨hclosed, hjournal⟩ := hopen r hr (by rw [hphase]; rfl)
      exact (h.process r hr).startAt hclosed hjournal (by simp [hphase]) (by simp [hstage])
  | listen hr hphase hmove =>
    cases hr.symm.trans hr'
    exact (h.process r' hr).listen hphase hmove
  | @listened r attempt hr hphase hstage =>
    cases hr'
    obtain ⟨hclosed, hjournal⟩ := hopen r hr (by rw [hphase]; rfl)
    exact (h.process r hr).startAt hclosed hjournal (by simp [hphase]) (by simp [hstage])
  | @abandon r attempt err m hr hphase hstage hm =>
    cases hr.symm.trans hr'
    obtain ⟨hclosed, hjournal⟩ := hopen r' hr (by rw [hphase]; rfl)
    exact (h.process r' hr).startAt hclosed hjournal (by simp [hphase]) (by simp [hstage])
  | @goroutine t result m hm =>
    refine (h.process r' hr').meanwhile (fun hquiet => hquiet.steps (System.step_steps hm)) ?_
    refine (resumed_cases s.process t).imp_right ?_
    rintro ⟨err, hat, hresumed⟩
    exact ⟨t, err, hat, hresumed⟩
  | ended hm =>
    exact (h.process r' hr').meanwhile (fun hquiet => hquiet.steps (System.step_steps hm)) (.inl rfl)
  | @close r hr hclosed =>
    cases hr'
    have hfits := h.process r hr
    obtain ⟨-, hready, hnil⟩ := hfits.before hclosed
    have hidle : r.start.idle = true := by simpa [orderly, hr, hclosed] using hok
    refine ⟨fun _ => hidle, hfits.http, hfits.socks, ⟨rfl, rfl, rfl, rfl⟩, ?_, nofun,
      fun hwrote => ?_⟩
    · simp [hnil]
    · refine (hfits.wrote hwrote).imp_right fun hcases => ?_
      refine hcases.imp_right fun hdone => ?_
      rw [hready] at hdone
      cases hdone.1
  | @again r hr hclosed =>
    cases hr.symm.trans hr'
    have hfits := h.process r' hr
    have hreturned : r'.shutdown = .returned none := by simpa [orderly, hr, hclosed] using hok
    exact ⟨hfits.idle, hfits.http, hfits.socks,
      hfits.closing.congr rfl rfl rfl rfl id, fun _ => hreturned, hfits.restored, hfits.wrote⟩
  | closing hmove =>
    have hfits := h.process r' hr'
    exact hfits.closes (h.placed.outside hr') hmove
  | @drained attempt m hclosing hm =>
    have hfits := h.process r' hr'
    have hat := hfits.closing
    rw [hclosing] at hat
    simp only [orderly, hclosing] at hok
    have hquiet := System.quiet_of_close (fun task hmem => by
      simpa using List.all_eq_true.1 hok task hmem) hm
    exact ⟨hfits.idle, hfits.http, hfits.socks,
      ⟨hat.1, hat.2.1, hat.2.2, hquiet⟩, hfits.nilReturned, hfits.restored, hfits.wrote⟩
  | @restore r attempt d hr hclosing hd =>
    exact fits_of_restore (h.process r hr) hclosing hd hr'

theorem Inv.steps (h : s.Inv) (hok : s.orderly l = true) (hstep : Steps s l s') : s'.Inv := by
  refine ⟨h.placed.steps hstep, ?_, h.fits hok hstep⟩
  obtain ⟨l', hsound, hdesktop⟩ := hstep.desktop hok
  exact h.desktop.steps hsound hdesktop

theorem Inv.final (h : s.Inv) : s.Final := by
  intro r hr hnil hidle
  have hfits := h.process r hr
  have hreturned := hfits.nilReturned hnil
  have hclosing := hfits.closing
  have hrestoring : s.process.Deaf ∧ s.process.manager.Quiet := by
    cases heq : s.process.closing with
    | restoring =>
      rw [heq] at hclosing
      exact hclosing.2
    | _ =>
      rw [heq] at hclosing
      simp [Closing.Fits, hreturned] at hclosing
  refine ⟨hrestoring.1, hrestoring.2.session, ?_⟩
  cases hwrote : s.process.wrote with
  | false => exact .inl rfl
  | true =>
    right
    rcases hfits.wrote hwrote with ⟨journal, rest, hphase, -⟩ | hjournal | ⟨-, hfile⟩
    · rw [hphase] at hidle
      cases hidle
    · exact absurd (hfits.restored hreturned) hjournal
    · have hheld := h.desktop.file
      rw [hfile] at hheld
      exact ⟨hfile, hheld⟩

/-- **When `Shutdown` is final.** In every run in which the first call of `Shutdown` comes while
    `Start` is not in progress, no `Reconnect` is in progress when it closes the manager, every other
    call comes after it has returned nil, and `Apply` and `Restore` are sound: whenever a call has
    returned nil and `Start` is not in progress, no listener accepts, the manager has no session, and
    the system proxy is not left applied. -/
theorem final_of_orderly_calls {platform : Platform} {settings : Settings} {as : List Label}
    (hrun : exec step (new platform settings) as = some s)
    (horderly : Along step (fun s l => s.orderly l = true) (new platform settings) as) :
    s.Final := by
  have hinv : s.Inv := exec_invariant Inv
    (fun _ _ _ hs hl hstep => hs.steps hl (step_steps hstep)) (new_inv platform settings)
    horderly hrun
  exact hinv.final

/-! ## Runs -/

/-- `Shutdown` up to `restoreProxy`; `close` is the goroutine in the `Close` of the manager. -/
def upToRestore (close : Nat) : List Label :=
  .shutdown :: List.replicate 3 (.runShutdown none) ++ [.goroutine close none, .runShutdown none]

/-- A client with both listeners that is shut down by the main goroutine, and then by the signal
    handler. -/
def shutInTurn : List Label :=
  upToListeners .kde true ++
    [.listen "127.0.0.1:4000".toList, .runStart none, .listen "127.0.0.1:4001".toList] ++
    List.replicate 15 (.runStart none) ++ upToRestore 2 ++ List.replicate 17 (.runShutdown none) ++
    [.goroutine 1 none, .shutdown]

theorem shutInTurn_final :
    ∃ s, exec step (new .linux Desktop.sampleSettings) shutInTurn = some s ∧
      s.process.nilReturned = true ∧ s.process.wrote = true ∧ s.process.http = .closed ∧
      s.process.socks = .closed ∧ s.Final := by
  have hrun : exec step (new .linux Desktop.sampleSettings) shutInTurn =
      some (after step (new .linux Desktop.sampleSettings) shutInTurn) :=
    exec_after (by decide +kernel)
  exact ⟨_, hrun, by decide +kernel, by decide +kernel, by decide +kernel, by decide +kernel,
    final_of_orderly_calls hrun (by decide +kernel)⟩

/-- A client with its proxy applied. -/
def applied : List Label := upToSnapshot .kde ++ List.replicate 12 (.runStart none)

/-- The second call returns before the first one has closed anything. -/
def overtaken : List Label := applied ++ [.shutdown, .shutdown]

/-- `Shutdown` runs while `Start` is about to take its snapshot, and `Start` then applies. -/
def shutTooEarly : List Label :=
  upToSnapshot .kde ++ upToRestore 2 ++ [.runShutdown none] ++ List.replicate 12 (.runStart none)

/-- The session ends and the manager reconnects; its `Reconnect` is past the check when `Shutdown`
    closes the manager. -/
def shutWhileReconnecting : List Label :=
  applied ++ [.ended 0] ++ List.replicate 7 (.goroutine 1 none) ++ upToRestore 2 ++
    List.replicate 17 (.runShutdown none) ++ List.replicate 2 (.goroutine 1 none)

/-- Somebody changes a setting, the first call gives up and returns the error, and the second one
    returns nil. -/
def shutAgain : List Label :=
  applied ++ [.change .kdeHTTPProxy "localhost:1".toList] ++ upToRestore 2 ++
    List.replicate 9 (.runShutdown none) ++ [.shutdown]

/-- The second write of `Restore` fails, and its error is dropped. -/
def shutHalfRestored : List Label :=
  applied ++ upToRestore 2 ++ List.replicate 10 (.runShutdown none) ++
    [.runShutdown (some (.message "exit status 1"))] ++ List.replicate 6 (.runShutdown none)

/-- A call of `Shutdown` has returned nil and `Start` is not in progress, with something left. -/
def leftover (s : App) : Bool :=
  match s.desktop.runtime with
  | none => false
  | some r =>
    s.process.nilReturned && r.start.idle &&
      (decide (s.process.http = .listening) ||
        decide (s.process.manager.manager.session ≠ none) ||
        s.process.wrote && (decide (s.desktop.file ≠ none) || !s.desktop.undone))

theorem not_final_of_leftover (h : s.leftover = true) : ¬ s.Final := by
  unfold leftover at h
  split at h
  · cases h
  · next r hr =>
    simp only [Bool.and_eq_true, Bool.or_eq_true, decide_eq_true_eq] at h
    obtain ⟨⟨hnil, hidle⟩, hleft⟩ := h
    intro hfinal
    obtain ⟨hdeaf, hsession, hproxy⟩ := hfinal r hr hnil hidle
    rcases hleft with (hhttp | hne) | ⟨hwrote, hleft⟩
    · exact hdeaf.1 hhttp
    · exact hne hsession
    · rcases hproxy with hnot | ⟨hfile, hclean⟩
      · rw [hwrote] at hnot
        cases hnot
      · have hundone : s.desktop.undone = true := by
          simp only [Desktop.undone, List.all_eq_true, decide_eq_true_eq]
          exact fun backend _ => hclean backend
        simp [hfile, hundone] at hleft

/-- Each part of the condition is needed: every one of these runs leaves something. -/
theorem overtaken_not_final :
    (∃ s, exec step (new .linux Desktop.sampleSettings) overtaken = some s ∧ ¬ s.Final) ∧
    (∃ s, exec step (new .linux Desktop.sampleSettings) shutTooEarly = some s ∧ ¬ s.Final) ∧
    (∃ s, exec step (new .linux Desktop.sampleSettings) shutWhileReconnecting = some s ∧
      ¬ s.Final) ∧
    (∃ s, exec step (new .linux Desktop.sampleSettings) shutAgain = some s ∧ ¬ s.Final) ∧
    ∃ s, exec step (new .linux Desktop.sampleSettings) shutHalfRestored = some s ∧ ¬ s.Final := by
  refine ⟨⟨_, exec_after ?_, not_final_of_leftover ?_⟩, ⟨_, exec_after ?_, not_final_of_leftover ?_⟩,
    ⟨_, exec_after ?_, not_final_of_leftover ?_⟩, ⟨_, exec_after ?_, not_final_of_leftover ?_⟩,
    ⟨_, exec_after ?_, not_final_of_leftover ?_⟩⟩
  all_goals decide +kernel

end App

end LnProxy.Client
