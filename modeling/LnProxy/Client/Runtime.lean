import LnProxy.Lib.Transition
import LnProxy.SystemProxy.Backend

set_option autoImplicit false

/-! # The client's runtime and its proxy journal (`internal/client/runtime.go`)

`Start` gives back the settings a journal on disk tells of, connects, listens, takes a snapshot of the
desktop's settings, writes it to the journal and applies its own endpoint. `Shutdown` takes the
snapshot again, compares it with what was applied, restores the settings and removes the journal. The
two run at the same time, and the process can end between any two of their steps; the settings and the
journal stay for the next process, which may find another backend. Others change the settings at any
moment.

Every get and every set of a setting is a step of its own here. A journal is written to a second file
that is then renamed, and removed by one call, so the file is there as a whole or not at all. -/

namespace LnProxy.Client

open Transition Script SystemProxy

/-- The journal without its version, process id and time. -/
structure Journal where
  applied : Endpoint
  before : Snapshot
  deriving DecidableEq, Repr

abbrev Commands := List (Command Key (List Char) Err)

/-- Where `Start` stands. -/
inductive StartPhase where
  | ready
  /-- In `ReadJournal`. -/
  | readJournal
  /-- In the `Restore` of `recoverJournal`; `fresh` until its first write. -/
  | recover (journal : Journal) (rest : Commands) (fresh : Bool)
  /-- In the `RemoveJournal` of `recoverJournal`. -/
  | removeRecovered
  | connect
  | listen
  /-- In `Snapshot`, with the fields it has read and those it has not. -/
  | snapshot (endpoint : Endpoint) (values : Snapshot) (rest : List (Field × Key))
  | writeJournal (journal : Journal)
  | apply (journal : Journal) (rest : Commands)
  /-- In the `RemoveJournal` behind an `Apply` that has failed. -/
  | removeApplied (err : Err)
  | returned (err : Option Err)
  deriving DecidableEq, Repr

/-- `Start` is not in progress. -/
def StartPhase.idle : StartPhase → Bool
  | .ready | .returned _ => true
  | _ => false

/-- Where the first call of `Shutdown` stands; every other call returns at once. -/
inductive ShutdownPhase where
  | ready
  /-- Closing the listeners and the manager, waiting for the streams. -/
  | drain
  | snapshot (journal : Journal) (values : Snapshot) (rest : List (Field × Key))
  /-- In `proxyMatches`. -/
  | compare (journal : Journal) (values : Snapshot)
  | restore (journal : Journal) (rest : Commands) (fresh : Bool)
  | removeJournal (journal : Journal)
  | returned (err : Option Err)
  deriving DecidableEq, Repr

structure Runtime where
  backend : Backend
  started : Bool
  closed : Bool
  /-- `journal`, where `hasJournal`. -/
  journal : Option Journal
  start : StartPhase
  shutdown : ShutdownPhase
  deriving DecidableEq, Repr

/-- `NewRuntime` -/
def Runtime.new (backend : Backend) : Runtime := ⟨backend, false, false, none, .ready, .ready⟩

/-- A write of `Restore`: by which backend and for which journal, to which key, the settings it found
    and those the program had left, and whether it was the first. -/
structure RestoreWrite where
  backend : Backend
  journal : Journal
  key : Key
  settings : Settings
  left : Settings
  fresh : Bool

structure Desktop where
  platform : Platform
  settings : Settings
  /-- The journal on disk. -/
  file : Option Journal
  runtime : Option Runtime
  /-- The settings as the snapshot tells them that was taken before the first `Apply` that is not
      undone. -/
  base : Settings
  /-- What the writes of the program alone have made of them. -/
  own : Settings
  /-- What they have made of the settings as the last snapshot before an `Apply` tells them. -/
  left : Settings
  /-- What `Restore` has written. -/
  restores : List RestoreWrite

namespace Desktop

def new (platform : Platform) (settings : Settings) : Desktop :=
  ⟨platform, settings, none, none, settings, settings, settings, []⟩

inductive Label where
  /-- A process starts: `NewRuntime` with the backend `systemproxy.New` finds. -/
  | launch (backend : Backend)
  /-- The process ends, by itself or by a crash. -/
  | exit
  /-- `Start` is called. -/
  | start
  /-- The listeners of `Start` are there. -/
  | listen (http socks : List Char)
  /-- `Start` goes on; `attempt` is the error of what it does now. -/
  | runStart (attempt : Option Err)
  /-- `Shutdown` is called. -/
  | shutdown
  | runShutdown (attempt : Option Err)
  /-- Somebody else changes a setting. -/
  | change (key : Key) (value : List Char)
  deriving DecidableEq, Repr

def put (s : Desktop) (r : Runtime) : Desktop := { s with runtime := some r }

/-- A command of `Apply` or `Restore` is run. -/
def command (s : Desktop) (c : Command Key (List Char) Err) (attempt : Option Err) : Desktop :=
  { s with
    settings := c.run refuses attempt s.settings
    own := c.run refuses attempt s.own
    left := c.run refuses attempt s.left }

/-- The write a command of `Restore` makes, if it makes one. -/
def restoreWrite (s : Desktop) (backend : Backend) (journal : Journal) (fresh : Bool)
    (c : Command Key (List Char) Err) (attempt : Option Err) : List RestoreWrite :=
  match c, c.failure refuses attempt with
  | .set key _ _, none => [⟨backend, journal, key, s.settings, s.left, fresh⟩]
  | _, _ => []

/-- A command of `Restore` is run. -/
def restoreCommand (s : Desktop) (backend : Backend) (journal : Journal) (fresh : Bool)
    (c : Command Key (List Char) Err) (attempt : Option Err) : Desktop :=
  { s.command c attempt with
    restores := s.restores ++ s.restoreWrite backend journal fresh c attempt }

/-- What the program has written is undone. -/
def undone (s : Desktop) : Bool :=
  backends.all fun backend => decide (snapshot backend s.own = snapshot backend s.base)

/-- A snapshot is about to be followed by `Apply`. -/
def note (s : Desktop) (backend : Backend) (before : Snapshot) : Desktop :=
  let told := noted backend before s.settings
  if s.undone then { s with base := told, own := told, left := told } else { s with left := told }

@[simp] theorem note_settings (s : Desktop) (backend : Backend) (before : Snapshot) :
    (s.note backend before).settings = s.settings := by
  unfold note
  split <;> rfl

@[simp] theorem note_left (s : Desktop) (backend : Backend) (before : Snapshot) :
    (s.note backend before).left = noted backend before s.settings := by
  unfold note
  split <;> rfl

@[simp] theorem note_restores (s : Desktop) (backend : Backend) (before : Snapshot) :
    (s.note backend before).restores = s.restores := by
  unfold note
  split <;> rfl

/-- A get of `Snapshot`. On Windows only the error of opening the key, before the first value, is one:
    a value that cannot be read stays zero. -/
def readField (s : Desktop) (backend : Backend) (values : Snapshot) (key : Key) :
    Option Err → Except Err (List Char)
  | none => .ok (get s.settings key)
  | some err => if backend = .windows ∧ values ≠ [] then .ok (clean key []) else .error err

/-- `Start` only warns of `ErrUnsupported`. -/
def warned (err : Err) : Option Err := if err = errUnsupported then none else some err

/-- One step of `Start`. -/
def runStart (s : Desktop) (r : Runtime) (attempt : Option Err) : StartPhase → Option Desktop
  | .ready | .returned _ => none
  | .readJournal =>
    match attempt, s.file with
    | some err, _ => some (s.put { r with start := .returned (some err) })
    | none, none => some (s.put { r with start := .connect })
    | none, some journal =>
      -- `recoverJournal` does not look at the current settings
      some (s.put { r with
        start := .recover journal (restore r.backend journal.before) true })
  | .recover journal (c :: rest) fresh =>
    some ((s.restoreCommand r.backend journal fresh c attempt).put { r with
      start := match c.error refuses attempt with
        | some err => .returned (some err)
        | none => .recover journal rest false })
  | .recover _ [] _ => some (s.put { r with start := .removeRecovered })
  | .removeRecovered =>
    match attempt with
    | some err => some (s.put { r with start := .returned (some err) })
    | none => some (put { s with file := none } { r with start := .connect })
  | .connect =>
    match attempt with
    | some err => some (s.put { r with start := .returned (some err) })
    | none => some (s.put { r with started := true, start := .listen })
  | .listen =>
    -- a listener that fails; those that are there are the action `listen`
    attempt.map fun err => s.put { r with start := .returned (some err) }
  | .snapshot endpoint values ((field, key) :: rest) =>
    match s.readField r.backend values key attempt with
    | .error err => some (s.put { r with start := .returned (warned err) })
    | .ok value => some (s.put { r with
        start := .snapshot endpoint (values ++ [(field, value)]) rest })
  | .snapshot endpoint values [] => some (s.put { r with start := .writeJournal ⟨endpoint, values⟩ })
  | .writeJournal journal =>
    match attempt with
    | some err => some (s.put { r with start := .returned (some err) })
    | none => some (put { s.note r.backend journal.before with file := some journal } { r with
        start := .apply journal (apply r.backend journal.applied) })
  | .apply journal (c :: rest) =>
    some ((s.command c attempt).put { r with
      start := match c.error refuses attempt with
        | some err => .removeApplied err
        | none => .apply journal rest })
  | .apply journal [] => some (s.put { r with journal := some journal, start := .returned none })
  | .removeApplied err =>
    -- the error of `RemoveJournal` is dropped
    some (put { s with file := if attempt = none then none else s.file } { r with
      start := .returned (warned err) })

/-- One step of `Shutdown`. -/
def runShutdown (s : Desktop) (r : Runtime) (attempt : Option Err) : ShutdownPhase → Option Desktop
  | .ready | .returned _ => none
  | .drain =>
    match r.journal with
    | none => some (s.put { r with shutdown := .returned none })
    | some journal => some (s.put { r with shutdown := .snapshot journal [] (fields r.backend) })
  | .snapshot journal values ((field, key) :: rest) =>
    match s.readField r.backend values key attempt with
    | .error err => some (s.put { r with shutdown := .returned (some err) })
    | .ok value => some (s.put { r with
        shutdown := .snapshot journal (values ++ [(field, value)]) rest })
  | .snapshot journal values [] => some (s.put { r with shutdown := .compare journal values })
  | .compare journal values =>
    match attempt, matchesEndpoint r.backend s.settings values journal.applied with
    | some err, _ => some (s.put { r with shutdown := .returned (some err) })
    | none, .error err => some (s.put { r with shutdown := .returned (some err) })
    | none, .ok false => some (s.put { r with shutdown := .returned (some (.message
        "system proxy settings changed externally; journal preserved")) })
    | none, .ok true => some (s.put { r with
        shutdown := .restore journal (restore r.backend journal.before) true })
  | .restore journal (c :: rest) fresh =>
    some ((s.restoreCommand r.backend journal fresh c attempt).put { r with
      shutdown := match c.error refuses attempt with
        | some err => .returned (some err)
        | none => .restore journal rest false })
  | .restore journal [] _ => some (s.put { r with shutdown := .removeJournal journal })
  | .removeJournal _ =>
    match attempt with
    | some err => some (s.put { r with shutdown := .returned (some err) })
    | none => some (put { s with file := none } { r with
        journal := none, shutdown := .returned none })

def step (s : Desktop) : Label → Option Desktop
  | .launch backend =>
    if s.runtime = none ∧ s.platform.detects backend = true then some (s.put (.new backend)) else none
  | .exit => if s.runtime = none then none else some { s with runtime := none }
  | .start =>
    s.runtime.bind fun r =>
      if r.start.idle = false then none
      else if r.closed = true ∨ r.started = true then some s
      else some (s.put { r with start := .readJournal })
  | .listen http socks =>
    s.runtime.bind fun r =>
      -- the address of a listener is a host and a port
      if r.start = .listen ∧ (Proxy.netSplitHostPort http).isSome = true then
        some (s.put { r with start := .snapshot ⟨http, http, socks⟩ [] (fields r.backend) })
      else none
  | .runStart attempt => s.runtime.bind fun r => s.runStart r attempt r.start
  | .shutdown =>
    s.runtime.bind fun r =>
      if r.closed then some s else some (s.put { r with closed := true, shutdown := .drain })
  | .runShutdown attempt => s.runtime.bind fun r => s.runShutdown r attempt r.shutdown
  | .change key value => some { s with settings := Function.update s.settings key value }

/-! ## What a step does -/

variable {s s' : Desktop} {l : Label}

/-- The steps of `Start` that touch nothing outside the process. -/
inductive StartMoves (s : Desktop) (r : Runtime) (attempt : Option Err) :
    StartPhase → StartPhase → Prop where
  | returned (phase : StartPhase) (err : Option Err) : StartMoves s r attempt phase (.returned err)
  | absent (hfile : s.file = none) : StartMoves s r attempt .readJournal .connect
  | recover {journal : Journal} (hfile : s.file = some journal) :
      StartMoves s r attempt .readJournal (.recover journal (restore r.backend journal.before) true)
  | recovered (journal : Journal) (fresh : Bool) :
      StartMoves s r attempt (.recover journal [] fresh) .removeRecovered
  | read (endpoint : Endpoint) {values : Snapshot} {key : Key} {value : List Char} (field : Field)
      (rest : List (Field × Key)) (hvalue : s.readField r.backend values key attempt = .ok value) :
      StartMoves s r attempt (.snapshot endpoint values ((field, key) :: rest))
        (.snapshot endpoint (values ++ [(field, value)]) rest)
  | taken (endpoint : Endpoint) (values : Snapshot) :
      StartMoves s r attempt (.snapshot endpoint values []) (.writeJournal ⟨endpoint, values⟩)

/-- The steps of `Shutdown` that touch nothing outside the process. -/
inductive ShutdownMoves (s : Desktop) (r : Runtime) (attempt : Option Err) :
    ShutdownPhase → ShutdownPhase → Prop where
  | returned (phase : ShutdownPhase) (err : Option Err) : ShutdownMoves s r attempt phase (.returned err)
  | begin {journal : Journal} (hjournal : r.journal = some journal) :
      ShutdownMoves s r attempt .drain (.snapshot journal [] (fields r.backend))
  | read (journal : Journal) {values : Snapshot} {key : Key} {value : List Char} (field : Field)
      (rest : List (Field × Key)) (hvalue : s.readField r.backend values key attempt = .ok value) :
      ShutdownMoves s r attempt (.snapshot journal values ((field, key) :: rest))
        (.snapshot journal (values ++ [(field, value)]) rest)
  | taken (journal : Journal) (values : Snapshot) :
      ShutdownMoves s r attempt (.snapshot journal values []) (.compare journal values)
  | agreed {journal : Journal} {values : Snapshot}
      (hmatches : matchesEndpoint r.backend s.settings values journal.applied = .ok true) :
      ShutdownMoves s r attempt (.compare journal values)
        (.restore journal (restore r.backend journal.before) true)
  | restored (journal : Journal) (fresh : Bool) :
      ShutdownMoves s r attempt (.restore journal [] fresh) (.removeJournal journal)

/-- A runtime whose `Start` has got to another phase. -/
abbrev startAt (s : Desktop) (r : Runtime) (phase : StartPhase) : Desktop :=
  s.put { r with start := phase }

abbrev shutdownAt (s : Desktop) (r : Runtime) (phase : ShutdownPhase) : Desktop :=
  s.put { r with shutdown := phase }

inductive Steps (s : Desktop) : Label → Desktop → Prop where
  | launch {backend : Backend} (hruntime : s.runtime = none) :
      Steps s (.launch backend) (s.put (.new backend))
  | exit : Steps s .exit { s with runtime := none }
  | change (key : Key) (value : List Char) :
      Steps s (.change key value) { s with settings := Function.update s.settings key value }
  | refused (l : Label) : Steps s l s
  | call {r : Runtime} (hr : s.runtime = some r) (hstarted : r.started = false) :
      Steps s .start (s.startAt r .readJournal)
  | startMove {r : Runtime} {attempt : Option Err} {phase : StartPhase} (hr : s.runtime = some r)
      (hidle : r.start.idle = false) (hmove : StartMoves s r attempt r.start phase) :
      Steps s (.runStart attempt) (s.startAt r phase)
  | connect {r : Runtime} {attempt : Option Err} (hr : s.runtime = some r)
      (hphase : r.start = .connect) :
      Steps s (.runStart attempt) (s.put { r with started := true, start := .listen })
  | listen {r : Runtime} {http socks : List Char} (hr : s.runtime = some r)
      (hphase : r.start = .listen) (haddress : (Proxy.netSplitHostPort http).isSome = true) :
      Steps s (.listen http socks)
        (s.startAt r (.snapshot ⟨http, http, socks⟩ [] (fields r.backend)))
  | recover {r : Runtime} {attempt : Option Err} {journal : Journal}
      {c : Command Key (List Char) Err} {rest : Commands} {fresh : Bool} {phase : StartPhase}
      (hr : s.runtime = some r) (hphase : r.start = .recover journal (c :: rest) fresh)
      (hnext : c.error refuses attempt = none ∧ phase = .recover journal rest false ∨
        (∃ err, c.error refuses attempt = some err) ∧ ∃ err, phase = .returned err) :
      Steps s (.runStart attempt)
        ((s.restoreCommand r.backend journal fresh c attempt).startAt r phase)
  | removeRecovered {r : Runtime} {attempt : Option Err} (hr : s.runtime = some r)
      (hphase : r.start = .removeRecovered) :
      Steps s (.runStart attempt) (startAt { s with file := none } r .connect)
  | writeJournal {r : Runtime} {attempt : Option Err} {journal : Journal}
      (hr : s.runtime = some r) (hphase : r.start = .writeJournal journal) :
      Steps s (.runStart attempt) (startAt { s.note r.backend journal.before with
        file := some journal } r (.apply journal (apply r.backend journal.applied)))
  | apply {r : Runtime} {attempt : Option Err} {journal : Journal}
      {c : Command Key (List Char) Err} {rest : Commands} {phase : StartPhase}
      (hr : s.runtime = some r) (hphase : r.start = .apply journal (c :: rest))
      (hnext : c.error refuses attempt = none ∧ phase = .apply journal rest ∨
        ∃ err, c.error refuses attempt = some err ∧ phase = .removeApplied err) :
      Steps s (.runStart attempt) ((s.command c attempt).startAt r phase)
  | applied {r : Runtime} {attempt : Option Err} {journal : Journal} (hr : s.runtime = some r)
      (hphase : r.start = .apply journal []) :
      Steps s (.runStart attempt) (s.put { r with journal := some journal, start := .returned none })
  | removeApplied {r : Runtime} {attempt : Option Err} {err : Err} {file : Option Journal}
      (hr : s.runtime = some r) (hphase : r.start = .removeApplied err)
      (hfile : file = none ∨ file = s.file) :
      Steps s (.runStart attempt) (startAt { s with file := file } r (.returned (warned err)))
  | close {r : Runtime} (hr : s.runtime = some r) :
      Steps s .shutdown (s.put { r with closed := true, shutdown := .drain })
  | shutdownMove {r : Runtime} {attempt : Option Err} {phase : ShutdownPhase}
      (hr : s.runtime = some r) (hmove : ShutdownMoves s r attempt r.shutdown phase) :
      Steps s (.runShutdown attempt) (s.shutdownAt r phase)
  | restore {r : Runtime} {attempt : Option Err} {journal : Journal}
      {c : Command Key (List Char) Err} {rest : Commands} {fresh : Bool} {phase : ShutdownPhase}
      (hr : s.runtime = some r) (hphase : r.shutdown = .restore journal (c :: rest) fresh)
      (hnext : c.error refuses attempt = none ∧ phase = .restore journal rest false ∨
        (∃ err, c.error refuses attempt = some err) ∧ ∃ err, phase = .returned err) :
      Steps s (.runShutdown attempt)
        ((s.restoreCommand r.backend journal fresh c attempt).shutdownAt r phase)
  | removeJournal {r : Runtime} {attempt : Option Err} {journal : Journal}
      (hr : s.runtime = some r) (hphase : r.shutdown = .removeJournal journal) :
      Steps s (.runShutdown attempt) (put { s with file := none } { r with
        journal := none, shutdown := .returned none })

theorem runStart_steps {r : Runtime} {attempt : Option Err} {phase : StartPhase}
    (hr : s.runtime = some r) (hphase : r.start = phase)
    (h : s.runStart r attempt phase = some s') : Steps s (.runStart attempt) s' := by
  have hmove : ∀ next, phase.idle = false → StartMoves s r attempt phase next →
      Steps s (.runStart attempt) (s.startAt r next) :=
    fun next hidle hm => .startMove hr (hphase ▸ hidle) (hphase ▸ hm)
  cases phase with
  | ready | returned => cases h
  | readJournal =>
    simp only [runStart] at h
    split at h
    · cases h
      exact hmove _ rfl (.returned _ _)
    · next hfile =>
      cases h
      exact hmove _ rfl (.absent hfile)
    · next hfile =>
      cases h
      exact hmove _ rfl (.recover hfile)
  | recover journal rest fresh =>
    cases rest with
    | nil =>
      cases h
      exact hmove _ rfl (.recovered journal fresh)
    | cons c rest =>
      simp only [runStart, Option.some.injEq] at h
      subst h
      refine .recover hr hphase ?_
      split
      · next herror => exact .inr ⟨⟨_, herror⟩, _, rfl⟩
      · next herror => exact .inl ⟨herror, rfl⟩
  | removeRecovered =>
    cases attempt with
    | none =>
      cases h
      exact .removeRecovered hr hphase
    | some err =>
      cases h
      exact hmove _ rfl (.returned _ _)
  | connect =>
    cases attempt with
    | none =>
      cases h
      exact .connect hr hphase
    | some err =>
      cases h
      exact hmove _ rfl (.returned _ _)
  | listen =>
    cases attempt with
    | none => cases h
    | some err =>
      cases h
      exact hmove _ rfl (.returned _ _)
  | snapshot endpoint values rest =>
    cases rest with
    | nil =>
      cases h
      exact hmove _ rfl (.taken endpoint values)
    | cons pair rest =>
      simp only [runStart] at h
      split at h
      · cases h
        exact hmove _ rfl (.returned _ _)
      · next hvalue =>
        cases h
        exact hmove _ rfl (.read endpoint pair.1 rest hvalue)
  | writeJournal journal =>
    cases attempt with
    | none =>
      cases h
      exact .writeJournal hr hphase
    | some err =>
      cases h
      exact hmove _ rfl (.returned _ _)
  | apply journal rest =>
    cases rest with
    | nil =>
      cases h
      exact .applied hr hphase
    | cons c rest =>
      simp only [runStart, Option.some.injEq] at h
      subst h
      refine .apply hr hphase ?_
      split
      · next herror => exact .inr ⟨_, herror, rfl⟩
      · next herror => exact .inl ⟨herror, rfl⟩
  | removeApplied err =>
    simp only [runStart, Option.some.injEq] at h
    subst h
    refine .removeApplied hr hphase ?_
    split
    · exact .inl rfl
    · exact .inr rfl

theorem runShutdown_steps {r : Runtime} {attempt : Option Err} {phase : ShutdownPhase}
    (hr : s.runtime = some r) (hphase : r.shutdown = phase)
    (h : s.runShutdown r attempt phase = some s') : Steps s (.runShutdown attempt) s' := by
  have hmove : ∀ next, ShutdownMoves s r attempt phase next →
      Steps s (.runShutdown attempt) (s.shutdownAt r next) :=
    fun next hm => .shutdownMove hr (hphase ▸ hm)
  cases phase with
  | ready | returned => cases h
  | drain =>
    simp only [runShutdown] at h
    split at h
    · cases h
      exact hmove _ (.returned _ _)
    · next hjournal =>
      cases h
      exact hmove _ (.begin hjournal)
  | snapshot journal values rest =>
    cases rest with
    | nil =>
      cases h
      exact hmove _ (.taken journal values)
    | cons pair rest =>
      simp only [runShutdown] at h
      split at h
      · cases h
        exact hmove _ (.returned _ _)
      · next hvalue =>
        cases h
        exact hmove _ (.read journal pair.1 rest hvalue)
  | compare journal values =>
    simp only [runShutdown] at h
    split at h
    · cases h
      exact hmove _ (.returned _ _)
    · cases h
      exact hmove _ (.returned _ _)
    · cases h
      exact hmove _ (.returned _ _)
    · next hmatches =>
      cases h
      exact hmove _ (.agreed hmatches)
  | restore journal rest fresh =>
    cases rest with
    | nil =>
      cases h
      exact hmove _ (.restored journal fresh)
    | cons c rest =>
      simp only [runShutdown, Option.some.injEq] at h
      subst h
      refine .restore hr hphase ?_
      split
      · next herror => exact .inr ⟨⟨_, herror⟩, _, rfl⟩
      · next herror => exact .inl ⟨herror, rfl⟩
  | removeJournal journal =>
    cases attempt with
    | none =>
      cases h
      exact .removeJournal hr hphase
    | some err =>
      cases h
      exact hmove _ (.returned _ _)

/-- **Inversion of a step.** -/
theorem step_steps (h : s.step l = some s') : Steps s l s' := by
  cases l with
  | launch backend =>
    simp only [step] at h
    split at h
    · next hlaunch =>
      cases h
      exact .launch hlaunch.1
    · cases h
  | exit =>
    simp only [step] at h
    split at h
    · cases h
    · cases h
      exact .exit
  | start =>
    simp only [step, Option.bind_eq_some_iff] at h
    obtain ⟨r, hr, h⟩ := h
    split at h
    · cases h
    · split at h
      · cases h
        exact .refused _
      · next hopen =>
        cases h
        exact .call hr (by simpa using fun hstarted => hopen (.inr hstarted))
  | listen http socks =>
    simp only [step, Option.bind_eq_some_iff] at h
    obtain ⟨r, hr, h⟩ := h
    split at h
    · next hlisten =>
      cases h
      exact .listen hr hlisten.1 hlisten.2
    · cases h
  | runStart attempt =>
    simp only [step, Option.bind_eq_some_iff] at h
    obtain ⟨r, hr, h⟩ := h
    exact runStart_steps hr rfl h
  | shutdown =>
    simp only [step, Option.bind_eq_some_iff] at h
    obtain ⟨r, hr, h⟩ := h
    split at h
    · cases h
      exact .refused _
    · cases h
      exact .close hr
  | runShutdown attempt =>
    simp only [step, Option.bind_eq_some_iff] at h
    obtain ⟨r, hr, h⟩ := h
    exact runShutdown_steps hr rfl h
  | change key value =>
    cases h
    exact .change key value

end Desktop

/-! ## How `Start` and `Shutdown` stand to each other

`Start` sets the journal of the runtime in its last step, and `Shutdown` touches the settings and the
file only with that journal in hand. So `Start` is over whenever `Shutdown` touches them. -/

/-- `Start` has got past `Connect`. -/
def StartPhase.begun : StartPhase → Bool
  | .listen | .snapshot .. | .writeJournal _ | .apply .. | .removeApplied _ => true
  | _ => false

/-- The endpoint `Start` has in hand. -/
def StartPhase.endpoint : StartPhase → Option Endpoint
  | .snapshot endpoint _ _ => some endpoint
  | .recover journal _ _ | .writeJournal journal | .apply journal _ => some journal.applied
  | _ => none

/-- The journal `Shutdown` has in hand. -/
def ShutdownPhase.journal : ShutdownPhase → Option Journal
  | .snapshot journal _ _ | .compare journal _ | .restore journal _ _ | .removeJournal journal =>
    some journal
  | _ => none

/-- The commands that are left are the last ones of the operation. -/
def StartPhase.Within (backend : Backend) : StartPhase → Prop
  | .recover journal rest _ => rest <:+ SystemProxy.restore backend journal.before
  | .apply journal rest => rest <:+ SystemProxy.apply backend journal.applied
  | _ => True

def ShutdownPhase.Within (backend : Backend) : ShutdownPhase → Prop
  | .restore journal rest _ => rest <:+ SystemProxy.restore backend journal.before
  | _ => True

/-- `Runtime` gives both protocols the address of its HTTP listener, a host and a port. -/
def Endpoint.Paired (endpoint : Endpoint) : Prop :=
  endpoint.https = endpoint.http ∧ (Proxy.netSplitHostPort endpoint.http).isSome = true

namespace Runtime

structure Wired (r : Runtime) : Prop where
  begun : r.start.begun = true → r.started = true
  finished : r.journal ≠ none → r.started = true ∧ r.start.idle = true
  held : ∀ journal, r.shutdown.journal = some journal → r.journal = some journal
  start : r.start.Within r.backend
  shutdown : r.shutdown.Within r.backend
  endpoint : ∀ endpoint, r.start.endpoint = some endpoint → Endpoint.Paired endpoint
  journal : ∀ journal, r.journal = some journal → Endpoint.Paired journal.applied

theorem new_wired (backend : Backend) : (new backend).Wired where
  begun := nofun
  finished := fun h => absurd rfl h
  held := nofun
  start := trivial
  shutdown := trivial
  endpoint := nofun
  journal := nofun

variable {r : Runtime}

theorem Wired.journal_eq_none (h : r.Wired) (hidle : r.start.idle = false) : r.journal = none := by
  by_contra hjournal
  rw [(h.finished hjournal).2] at hidle
  cases hidle

theorem Wired.journal_of_not_started (h : r.Wired) (hstarted : r.started = false) :
    r.journal = none := by
  by_contra hjournal
  rw [(h.finished hjournal).1] at hstarted
  cases hstarted

/-- While `Start` runs, `Shutdown` has no journal in hand. -/
theorem Wired.shutdown_journal (h : r.Wired) (hjournal : r.journal = none) :
    r.shutdown.journal = none := by
  by_contra hheld
  obtain ⟨journal, hheld⟩ := Option.ne_none_iff_exists'.1 hheld
  rw [h.held journal hheld] at hjournal
  cases hjournal

theorem Wired.startAt (h : r.Wired) (hjournal : r.journal = none) {started : Bool}
    {phase : StartPhase} (hbegun : phase.begun = true → started = true)
    (hwithin : phase.Within r.backend)
    (hpaired : ∀ endpoint, phase.endpoint = some endpoint → Endpoint.Paired endpoint) :
    Wired { r with started := started, start := phase } where
  begun := hbegun
  finished := fun hne => absurd hjournal hne
  held := h.held
  start := hwithin
  shutdown := h.shutdown
  endpoint := hpaired
  journal := h.journal

theorem Wired.shutdownAt (h : r.Wired) {closed : Bool} {phase : ShutdownPhase}
    (hheld : ∀ journal, phase.journal = some journal → r.journal = some journal)
    (hwithin : phase.Within r.backend) :
    Wired { r with closed := closed, shutdown := phase } where
  begun := h.begun
  finished := h.finished
  held := hheld
  start := h.start
  shutdown := hwithin
  endpoint := h.endpoint
  journal := h.journal

end Runtime

namespace Desktop

variable {s s' : Desktop} {l : Label} {r : Runtime}

structure Wired (s : Desktop) : Prop where
  runtime : ∀ r, s.runtime = some r → r.Wired
  file : ∀ journal, s.file = some journal → Endpoint.Paired journal.applied

theorem new_wired (platform : Platform) (settings : Settings) : (new platform settings).Wired where
  runtime := by simp [new]
  file := by simp [new]

/-- While `Start` runs, no journal is in hand. -/
theorem Wired.busy (h : s.Wired) (hr : s.runtime = some r) {phase : StartPhase}
    (hphase : r.start = phase) (hidle : phase.idle = false) : r.journal = none :=
  (h.runtime r hr).journal_eq_none (hphase ▸ hidle)

/-- With a journal in hand, `Shutdown` runs when `Start` is over. -/
theorem Wired.over (h : s.Wired) (hr : s.runtime = some r) {phase : ShutdownPhase}
    {journal : Journal} (hphase : r.shutdown = phase) (hjournal : phase.journal = some journal) :
    r.journal = some journal ∧ r.start.idle = true := by
  have hheld := (h.runtime r hr).held journal (hphase ▸ hjournal)
  exact ⟨hheld, ((h.runtime r hr).finished (by simp [hheld])).2⟩

/-- What holds of the runtime. -/
theorem forall_runtime {P : Runtime → Prop} (hr : s.runtime = some r) (h : P r) :
    ∀ r', s.runtime = some r' → P r' := by
  intro r' hr'
  cases hr.symm.trans hr'
  exact h

theorem Wired.put {file : Option Journal} {settings base own left : Settings}
    {restores : List RestoreWrite}
    (hr : r.Wired) (hfile : ∀ journal, file = some journal → Endpoint.Paired journal.applied) :
    Wired { s with
      settings := settings, file := file, runtime := some r, base := base, own := own,
      left := left, restores := restores } where
  runtime := by
    rintro r' hr'
    cases hr'
    exact hr
  file := hfile

theorem StartMoves.wired {attempt : Option Err} (h : s.Wired) (hr : r.Wired) {phase : StartPhase}
    (hmove : StartMoves s r attempt r.start phase) :
    (phase.begun = true → r.started = true) ∧ phase.Within r.backend ∧
      ∀ endpoint, phase.endpoint = some endpoint → Endpoint.Paired endpoint := by
  have hbegun := hr.begun
  have hpaired := hr.endpoint
  generalize r.start = before at hmove hbegun hpaired
  cases hmove with
  | returned => exact ⟨nofun, trivial, nofun⟩
  | absent => exact ⟨nofun, trivial, nofun⟩
  | recover hfile =>
    refine ⟨nofun, List.suffix_refl _, ?_⟩
    rintro _ ⟨⟩
    exact h.file _ hfile
  | recovered => exact ⟨nofun, trivial, nofun⟩
  | read => exact ⟨fun _ => hbegun rfl, trivial, hpaired⟩
  | taken => exact ⟨fun _ => hbegun rfl, trivial, hpaired⟩

theorem ShutdownMoves.wired {attempt : Option Err} (hr : r.Wired) {phase : ShutdownPhase}
    (hmove : ShutdownMoves s r attempt r.shutdown phase) :
    (∀ journal, phase.journal = some journal → r.journal = some journal) ∧
      phase.Within r.backend := by
  have hheld := hr.held
  generalize r.shutdown = before at hmove hheld
  cases hmove with
  | returned => exact ⟨nofun, trivial⟩
  | begin hjournal =>
    refine ⟨?_, trivial⟩
    rintro _ ⟨⟩
    exact hjournal
  | read => exact ⟨hheld, trivial⟩
  | taken => exact ⟨hheld, trivial⟩
  | agreed => exact ⟨hheld, List.suffix_refl _⟩
  | restored => exact ⟨hheld, trivial⟩

theorem Wired.steps (h : s.Wired) (hstep : Steps s l s') : s'.Wired := by
  cases hstep with
  | launch => exact .put (Runtime.new_wired _) h.file
  | exit => exact ⟨by simp, h.file⟩
  | change => exact ⟨h.runtime, h.file⟩
  | refused => exact h
  | call hr hstarted =>
    have hwired := h.runtime _ hr
    have hjournal := hwired.journal_of_not_started hstarted
    exact .put (hwired.startAt hjournal nofun trivial nofun) h.file
  | startMove hr hidle hmove =>
    have hwired := h.runtime _ hr
    obtain ⟨hbegun, hwithin, hpaired⟩ := hmove.wired h hwired
    exact .put (hwired.startAt (hwired.journal_eq_none hidle) hbegun hwithin hpaired) h.file
  | connect hr hphase =>
    have hwired := h.runtime _ hr
    have hjournal := h.busy hr hphase rfl
    exact .put (hwired.startAt hjournal (fun _ => rfl) trivial nofun) h.file
  | listen hr hphase haddress =>
    have hwired := h.runtime _ hr
    have hjournal := h.busy hr hphase rfl
    have hbegun := hwired.begun
    rw [hphase] at hbegun
    refine .put (hwired.startAt hjournal (fun _ => hbegun rfl) trivial ?_) h.file
    rintro _ ⟨⟩
    exact ⟨rfl, haddress⟩
  | recover hr hphase hnext =>
    have hwired := h.runtime _ hr
    have hjournal := h.busy hr hphase rfl
    have hwithin := hwired.start
    have hpaired := hwired.endpoint
    rw [hphase] at hwithin hpaired
    obtain ⟨-, rfl⟩ | ⟨-, err, rfl⟩ := hnext
    · exact .put (hwired.startAt hjournal nofun
        ((List.suffix_cons _ _).trans hwithin) hpaired) h.file
    · exact .put (hwired.startAt hjournal nofun trivial nofun) h.file
  | removeRecovered hr hphase =>
    have hwired := h.runtime _ hr
    have hjournal := h.busy hr hphase rfl
    exact .put (hwired.startAt hjournal nofun trivial nofun) (by simp)
  | writeJournal hr hphase =>
    have hwired := h.runtime _ hr
    have hjournal := h.busy hr hphase rfl
    have hbegun := hwired.begun
    have hpaired := hwired.endpoint
    rw [hphase] at hbegun hpaired
    refine .put (hwired.startAt hjournal (fun _ => hbegun rfl) (List.suffix_refl _) hpaired) ?_
    rintro _ ⟨⟩
    exact hpaired _ rfl
  | apply hr hphase hnext =>
    have hwired := h.runtime _ hr
    have hjournal := h.busy hr hphase rfl
    have hbegun := hwired.begun
    have hwithin := hwired.start
    have hpaired := hwired.endpoint
    rw [hphase] at hbegun hwithin hpaired
    obtain ⟨-, rfl⟩ | ⟨err, -, rfl⟩ := hnext
    · exact .put (hwired.startAt hjournal (fun _ => hbegun rfl)
        ((List.suffix_cons _ _).trans hwithin) hpaired) h.file
    · exact .put (hwired.startAt hjournal (fun _ => hbegun rfl) trivial nofun) h.file
  | @applied r attempt journal hr hphase =>
    have hwired := h.runtime r hr
    have hnone := h.busy hr hphase rfl
    have hbegun := hwired.begun
    have hpaired := hwired.endpoint
    rw [hphase] at hbegun hpaired
    refine .put ?_ h.file
    exact {
      begun := nofun
      finished := fun _ => ⟨hbegun rfl, rfl⟩
      held := fun j hj => by
        rw [hwired.shutdown_journal hnone] at hj
        cases hj
      start := trivial
      shutdown := hwired.shutdown
      endpoint := nofun
      journal := by
        rintro _ ⟨⟩
        exact hpaired _ rfl }
  | removeApplied hr hphase hfile =>
    have hwired := h.runtime _ hr
    have hjournal := h.busy hr hphase rfl
    refine .put (hwired.startAt hjournal nofun trivial nofun) ?_
    rcases hfile with rfl | rfl
    · simp
    · exact h.file
  | close hr => exact .put ((h.runtime _ hr).shutdownAt nofun trivial) h.file
  | shutdownMove hr hmove =>
    have hwired := h.runtime _ hr
    obtain ⟨hheld, hwithin⟩ := hmove.wired hwired
    exact .put (hwired.shutdownAt hheld hwithin) h.file
  | restore hr hphase hnext =>
    have hwired := h.runtime _ hr
    have hheld := hwired.held
    have hwithin := hwired.shutdown
    rw [hphase] at hheld hwithin
    obtain ⟨-, rfl⟩ | ⟨-, err, rfl⟩ := hnext
    · exact .put (hwired.shutdownAt hheld ((List.suffix_cons _ _).trans hwithin)) h.file
    · exact .put (hwired.shutdownAt nofun trivial) h.file
  | removeJournal hr hphase =>
    have hwired := h.runtime _ hr
    refine .put ?_ (by simp)
    exact {
      begun := hwired.begun
      finished := fun hne => absurd rfl hne
      held := nofun
      start := hwired.start
      shutdown := trivial
      endpoint := hwired.endpoint
      journal := nofun }

/-! ## The commands of an operation -/

variable {backend : Backend} {journal : Journal} {c : Command Key (List Char) Err} {rest : Commands}

/-- The commands of an operation touch the settings of its own desktop only, and none that `Restore`
    does not write. -/
def Local (backend : Backend) (c : Command Key (List Char) Err) : Prop :=
  ∀ key value checked, c = .set key value checked → key.owner = backend ∧ key.restored = true

theorem local_of_apply (hwithin : c :: rest <:+ apply backend journal.applied) : Local backend c := by
  rintro key value checked rfl
  exact owner_of_mem_apply (hwithin.subset List.mem_cons_self)

theorem local_of_restore (hwithin : c :: rest <:+ restore backend journal.before) :
    Local backend c := by
  rintro key value checked rfl
  exact owner_of_mem_restore (hwithin.subset List.mem_cons_self)

/-! ## Snapshots taken while others change the settings -/

/-- The values that have been read are those of some settings, each read once. -/
def Taken (backend : Backend) (seen : Settings) (values : Snapshot) (rest : List (Field × Key)) :
    Prop :=
  ∃ done, done ++ rest = fields backend ∧ values = read seen done

theorem taken_nil (backend : Backend) (seen : Settings) : Taken backend seen [] (fields backend) :=
  ⟨[], rfl, rfl⟩

/-- What is read is the setting, or zero where the error is dropped. -/
theorem readField_ok {attempt : Option Err} {values : Snapshot} {key : Key} {value : List Char}
    (h : s.readField backend values key attempt = .ok value) : value = get s.settings key ∨
      attempt ≠ none ∧ backend = .windows ∧ value = get (fun _ => []) key := by
  cases attempt with
  | none =>
    cases h
    exact Or.inl rfl
  | some err =>
    simp only [readField] at h
    split at h
    · next hwindows =>
      cases h
      exact Or.inr ⟨nofun, hwindows.1, rfl⟩
    · cases h

theorem Taken.read {seen settings : Settings} {values : Snapshot} {field : Field} {key : Key}
    {rest : List (Field × Key)} (h : Taken backend seen values ((field, key) :: rest)) :
    Taken backend (Function.update seen key (settings key))
      (values ++ [(field, get settings key)]) rest := by
  obtain ⟨done, hdone, rfl⟩ := h
  refine ⟨done ++ [(field, key)], by rw [List.append_assoc, List.singleton_append, hdone], ?_⟩
  have hnodup : ((done ++ (field, key) :: rest).map Prod.snd).Nodup := by
    rw [hdone]
    cases backend <;> decide
  have hkey : key ∉ done.map Prod.snd := by
    rw [List.map_append, List.map_cons, List.nodup_append] at hnodup
    intro hmem
    exact hnodup.2.2 key hmem key List.mem_cons_self rfl
  have hget : get (Function.update seen key (settings key)) key = get settings key := by
    simp only [SystemProxy.get, Function.update_self]
  rw [← read_update seen (settings key) hkey, ← hget]
  simp only [SystemProxy.read, List.map_append, List.map_cons, List.map_nil]

theorem Taken.snapshot {seen : Settings} {values : Snapshot} (h : Taken backend seen values []) :
    values = snapshot backend seen := by
  obtain ⟨done, hdone, rfl⟩ := h
  rw [List.append_nil] at hdone
  rw [hdone]
  rfl

/-! ## A run up to the written journal -/

/-- GNOME without a proxy in force, but with a host; KDE without a proxy. -/
def sampleSettings : Settings
  | .gnomeMode => "none".toList
  | .gnomeHTTPHost => "proxy.corp".toList
  | .kdeProxyType => ['0']
  | _ => []

/-- Up to the written journal; GNOME and KDE have six fields to read. -/
def upToJournal (backend : Backend) : List Label :=
  [.launch backend, .start, .runStart none, .runStart none,
    .listen "127.0.0.1:4000".toList []] ++ List.replicate 8 (.runStart none)

end Desktop

end LnProxy.Client
