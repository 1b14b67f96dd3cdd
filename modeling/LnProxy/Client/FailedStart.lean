import LnProxy.Client.Lifecycle

set_option autoImplicit false

/-! # What a `Start` that has failed leaves behind

`Start` returns an error from the recovery of the journal, from `Connect`, from either listener, from
the snapshot, from writing the journal and from `Apply`. Up to `Connect` it has started nothing, and a
recovery that fails keeps its journal. From there on the field `started` is set, which nothing sets
back: the next call is refused, whatever the failed one has cleaned up. A listener that fails closes
the manager, for good; the later failures leave the listeners and the session as they are, and a
failed `Apply` removes the journal over the settings it has written. -/

namespace LnProxy.Client

open Transition Script SystemProxy

/-! ## The property -/

/-- `Start` is in `recoverJournal`. -/
def StartPhase.recovering : StartPhase → Bool
  | .readJournal | .recover .. | .removeRecovered => true
  | _ => false

namespace App

/-- The error another call of `Start` returns because of the runtime or the manager. -/
def refusal (s : App) (r : Runtime) : Option Err :=
  if r.closed then some (.message "client runtime is shut down")
  else if r.started then some (.message "client runtime is already started")
  else if s.process.manager.manager.closed then some (.message "client manager is closed")
  else none

/-- The settings are as if the process had written none since `Start` was called. -/
def Unchanged (s : App) : Prop := s.desktop.settings = s.process.untouched

/-- Giving back the journal that `Start` has found has changed no setting: what it has written to a key,
    and nobody has changed since, is what would be there without it. -/
def Harmless (s : App) (backend : Backend) : Prop :=
  ∀ journal, s.process.found = some journal → ∀ key value, s.process.gaveBack key = true →
    assigned key (restore backend journal.before) = some value → s.process.untouched key = value

structure LeavesNothing (s : App) (r : Runtime) : Prop where
  http : s.process.http ≠ .listening
  socks : s.process.socks ≠ .listening
  /-- The manager has no session, or one that is over. -/
  session : s.process.manager.vacant = true
  /-- The settings are as before the call, or a journal is there: the one the call has found, or one
      with the settings before its `Apply`. -/
  settings : s.Unchanged ∨ ∃ journal, s.desktop.file = some journal ∧
    (s.process.found = some journal ∨ journal.before = snapshot r.backend s.desktop.base)
  later : s.refusal r = none

end App

/-! ## A manager that has not connected -/

namespace System

variable {m m' : System} {call : Option Nat}

/-- There is no session, and no goroutine but a call of `Connect` in progress. -/
structure Untried (m : System) (call : Option Nat) : Prop where
  session : m.manager.session = none
  closed : m.manager.closed = false
  tasks : ∀ (t : Nat) (task : Task), m.tasks[t]? = some task →
    task = .done ∨ call = some t ∧ ∃ phase, task = .reconnect none phase

theorem new_untried : Untried new none where
  session := rfl
  closed := rfl
  tasks := by simp [new]

theorem Untried.connect (h : m.Untried none) (hstep : m.step .connect = some m') :
    m'.Untried (some m.tasks.length) := by
  cases hstep
  refine ⟨h.session, h.closed, fun t task htask => ?_⟩
  rcases Nat.lt_or_ge t m.tasks.length with hlt | hge
  · rw [List.getElem?_append_left hlt] at htask
    rcases h.tasks t task htask with hdone | ⟨hnone, -⟩
    · exact .inl hdone
    · cases hnone
  · rw [List.getElem?_append_right hge] at htask
    obtain ⟨hlt, heq⟩ := List.getElem?_eq_some_iff.1 htask
    simp only [List.length_singleton, Nat.lt_one_iff] at hlt
    have hlast : m.tasks.length = t := by omega
    refine .inr ⟨by rw [hlast], .enter, ?_⟩
    simpa [hlt] using heq.symm

theorem Untried.ended {i : Nat} (h : m.Untried call) (hstep : m.step (.ended i) = some m') :
    m'.Untried call := by
  obtain ⟨-, rfl⟩ := eq_of_ite_some hstep
  exact ⟨h.session, h.closed, h.tasks⟩

/-- The call goes on. -/
theorem Untried.put {t : Nat} {manager : Manager} {sessions : List Bool} {phase : Phase}
    (h : m.Untried (some t)) (hsession : manager.session = none)
    (hclosed : manager.closed = m.manager.closed) :
    Untried { m with
      manager := manager, sessions := sessions, tasks := m.tasks.set t (.reconnect none phase) }
      (some t) := by
  refine ⟨hsession, hclosed.trans h.closed, fun t' task htask => ?_⟩
  have htask : (m.tasks.set t (.reconnect none phase))[t']? = some task := htask
  rw [List.getElem?_set] at htask
  split at htask
  · next heq =>
    split at htask
    · exact .inr ⟨by rw [heq], phase, (Option.some.inj htask).symm⟩
    · cases htask
  · exact h.tasks t' task htask

/-- The call returns with an error. -/
theorem Untried.failed {t : Nat} {manager : Manager} (h : m.Untried (some t))
    (hsession : manager.session = none) (hclosed : manager.closed = m.manager.closed) :
    Untried { m with manager := manager, tasks := m.tasks.set t .done } none := by
  refine ⟨hsession, hclosed.trans h.closed, fun t' task htask => ?_⟩
  have htask : (m.tasks.set t .done)[t']? = some task := htask
  rw [List.getElem?_set] at htask
  split at htask
  · split at htask
    · exact .inl (Option.some.inj htask).symm
    · cases htask
  · next hne =>
    rcases h.tasks t' task htask with hdone | ⟨hcall, -⟩
    · exact .inl hdone
    · exact absurd (Option.some.inj hcall) hne

/-- A step of the only goroutine there is. -/
theorem Untried.run {t : Nat} {result : Option Err} (h : m.Untried call)
    (hstep : m.step (.run t result) = some m') :
    call = some t ∧ ∃ phase, m.tasks[t]? = some (.reconnect none phase) ∧
      (phase.outcome m.manager.closed = none → m'.Untried (some t)) ∧
      ∀ err, phase.outcome m.manager.closed = some (some err) → m'.Untried none := by
  obtain ⟨task, htask, hrun⟩ := Option.bind_eq_some_iff.1 hstep
  rcases h.tasks t task htask with rfl | ⟨rfl, phase, rfl⟩
  · cases hrun
  · refine ⟨rfl, phase, htask, ?_⟩
    simp only [runTask, Option.some.injEq] at hrun
    subst hrun
    cases phase with
    | enter =>
      simp only [Phase.outcome, h.closed, runReconnect]
      exact ⟨fun _ => h.put rfl h.closed.symm, fun _ h => by cases h⟩
    | closeOld old configured =>
      refine ⟨fun _ => ?_, fun _ h => by cases h⟩
      cases old with
      | none => exact h.put h.session rfl
      | some i => exact h.put h.session rfl
    | dial | authenticate => exact ⟨fun _ => h.put h.session rfl, fun _ h => by cases h⟩
    | start =>
      refine ⟨fun _ => ?_, fun _ h => by cases h⟩
      cases result with
      | none => exact h.put h.session rfl
      | some err => exact h.put h.session rfl
    | install i => exact ⟨(fun h => by cases h), fun _ h => by cases h⟩
    | fail err => exact ⟨(fun h => by cases h), fun _ _ => h.failed h.session rfl⟩

end System

/-! ## What `Start` has done so far -/

/-- Where `Start` stands, or stood before it returned. -/
def Process.reached (p : Process) (phase : StartPhase) : StartPhase :=
  if phase.idle then p.last else phase

/-- The call of `Connect` in progress. -/
def Stage.call : Stage → Option Nat
  | .connecting t => some t
  | _ => none

/-- Before `Connect` has succeeded, `Start` has started nothing. -/
structure Process.Blank (p : Process) : Prop where
  http : p.http = .absent
  socks : p.socks = .absent
  manager : p.stage ≠ .connected none → p.manager.Untried p.stage.call

/-- What has become of the settings and of the journal the call has found. -/
def Prior (file found : Option Journal) (unchanged overlaid : Prop) (backend : Backend)
    (last : StartPhase) : StartPhase → Prop
  | .readJournal => file = found ∧ unchanged ∧ overlaid
  | .recover journal rest _ => (file = some journal ∧ found = some journal) ∧ overlaid ∧
      rest ⊆ restore backend journal.before
  | .removeRecovered => (∃ journal, file = some journal ∧ found = some journal) ∧ overlaid
  | .connect => file = none ∧ overlaid
  | .returned _ =>
    (last.recovering = true →
      unchanged ∨ ∃ journal, file = some journal ∧ found = some journal) ∧
    (last = .connect → file = none ∧ overlaid)
  | _ => True

section

variable {file found : Option Journal} {unchanged overlaid : Prop} {backend : Backend}
  {d : Desktop} {r : Runtime} {attempt : Option Err} {phase' : StartPhase}
  {last last' phase : StartPhase}

theorem Prior.mono {unchanged' overlaid' : Prop}
    (h : Prior file found unchanged overlaid backend last phase)
    (himp : unchanged → unchanged') (himp' : overlaid → overlaid') :
    Prior file found unchanged' overlaid' backend last phase := by
  cases phase with
  | readJournal => exact ⟨h.1, himp h.2.1, himp' h.2.2⟩
  | recover => exact ⟨h.1, himp' h.2.1, h.2.2⟩
  | removeRecovered | connect => exact ⟨h.1, himp' h.2⟩
  | returned err =>
    exact ⟨fun hrecovering => (h.1 hrecovering).imp_left himp,
      fun hconnect => (h.2 hconnect).imp_right himp'⟩
  | _ => exact h

/-- The last step matters once `Start` has returned. -/
theorem Prior.of_last (h : Prior file found unchanged overlaid backend last phase)
    (hidle : phase.idle = false) : Prior file found unchanged overlaid backend last' phase := by
  cases phase with
  | returned => cases hidle
  | _ => exact h

/-- `Start` returns and leaves the settings and the file alone. -/
theorem Prior.returned (h : Prior file found unchanged overlaid backend last phase)
    (hidle : phase.idle = false) (err : Option Err) :
    Prior file found unchanged overlaid backend phase (.returned err) := by
  cases phase with
  | ready | returned => cases hidle
  | readJournal => exact ⟨fun _ => .inl h.2.1, nofun⟩
  | recover journal => exact ⟨fun _ => .inr ⟨journal, h.1⟩, nofun⟩
  | removeRecovered => exact ⟨fun _ => .inr h.1, nofun⟩
  | connect => exact ⟨nofun, fun _ => h⟩
  | _ => exact ⟨nofun, nofun⟩

/-- Behind `Connect` there is nothing left to say. -/
theorem prior_of_late (hrecovering : phase.recovering = false) (hconnect : phase ≠ .connect)
    {err : Option Err} : Prior file found unchanged overlaid backend phase (.returned err) := by
  refine ⟨fun hyes => ?_, fun heq => absurd heq hconnect⟩
  rw [hrecovering] at hyes
  cases hyes

/-- A step of `Start` that touches nothing outside the process. -/
theorem Prior.moves
    (h : Prior d.file found unchanged overlaid r.backend last phase) (hidle : phase.idle = false)
    (hmove : Desktop.StartMoves d r attempt phase phase') :
    Prior d.file found unchanged overlaid r.backend phase phase' := by
  cases hmove with
  | returned _ err => exact h.returned hidle err
  | absent hfile => exact ⟨hfile, h.2.2⟩
  | recover hfile => exact ⟨⟨hfile, h.1 ▸ hfile⟩, h.2.2, List.Subset.refl _⟩
  | recovered journal => exact ⟨⟨journal, h.1⟩, h.2.1⟩
  | read => trivial
  | taken => trivial

theorem begun_of_moves
    (hmove : Desktop.StartMoves d r attempt phase phase') :
    phase.begun = (if phase'.idle then phase else phase').begun := by
  cases hmove <;> rfl

end

namespace App

variable {s s' : App} {l : Label} {r r' : Runtime} {attempt : Option Err} {d : Desktop}

/-- The settings are as without the process, but for what giving the journal back has written. -/
def Overlaid (s : App) (backend : Backend) : Prop :=
  ∀ key, s.process.gaveBack key = false ∧ s.desktop.settings key = s.process.untouched key ∨
    s.process.gaveBack key = true ∧ ∃ journal, s.process.found = some journal ∧
      assigned key (restore backend journal.before) = some (s.desktop.settings key)

theorem Overlaid.unchanged_iff {backend : Backend} (h : s.Overlaid backend) :
    s.Unchanged ↔ s.Harmless backend := by
  constructor
  · intro hunchanged journal hfound key value hgave hvalue
    rcases h key with ⟨hnot, -⟩ | ⟨-, journal', hfound', hassigned⟩
    · rw [hgave] at hnot
      cases hnot
    · rw [hfound, Option.some.injEq] at hfound'
      rw [← hfound', hvalue, Option.some.injEq] at hassigned
      rw [hassigned, ← congrFun hunchanged key]
  · intro hharmless
    funext key
    rcases h key with ⟨-, hsame⟩ | ⟨hgave, journal, hfound, hassigned⟩
    · exact hsame
    · exact (hharmless journal hfound key _ hgave hassigned).symm

/-- Somebody else changes a setting. -/
theorem Overlaid.change {backend : Backend} (h : s.Overlaid backend) (key : Key)
    (value : List Char) : Overlaid
      ⟨{ s.desktop with settings := Function.update s.desktop.settings key value },
        { s.process with
          untouched := Function.update s.process.untouched key value,
          gaveBack := Function.update s.process.gaveBack key false }⟩ backend := by
  intro key'
  by_cases hkey : key' = key
  · subst hkey
    simp
  · simpa [Function.update_of_ne hkey] using h key'

/-- A write of `Restore` is recorded. -/
theorem Overlaid.command {backend : Backend} {journal : Journal} {c : Command Key (List Char) Err}
    (h : s.Overlaid backend) (hfound : s.process.found = some journal)
    (hc : c ∈ restore backend journal.before) (r : Runtime) (rest : Commands) (fresh : Bool)
    (attempt : Option Err) (phase : StartPhase) :
    Overlaid ⟨(s.desktop.restoreCommand backend journal fresh c attempt).startAt r phase,
      s.process.took (.recover journal (c :: rest) fresh) attempt⟩ backend := by
  have hsettings : ((s.desktop.restoreCommand backend journal fresh c attempt).startAt r phase).settings =
      c.run refuses attempt s.desktop.settings := rfl
  intro key
  cases c with
  | fail err => exact h key
  | set key' value checked =>
    rw [hsettings]
    simp only [Process.took, StartPhase.givesBack, Command.run, Command.complete]
    split
    · by_cases hkey : key = key'
      · subst hkey
        refine .inr ⟨Function.update_self .., journal, hfound, ?_⟩
        rw [Function.update_self]
        exact restore_assigned hc
      · rw [Function.update_of_ne hkey, Function.update_of_ne hkey]
        exact h key
    · exact h key

abbrev Keeps (s : App) (r : Runtime) : Prop :=
  Prior s.desktop.file s.process.found s.Unchanged (s.Overlaid r.backend) r.backend s.process.last
    r.start

structure Early (s : App) (r : Runtime) : Prop where
  closing : r.closed = false → s.process.closing = .ready
  started : r.started = (s.process.reached r.start).begun
  last : ∀ err, r.start = .returned err → s.process.last.idle = false
  blank : r.closed = false → r.started = false → s.process.Blank
  prior : r.closed = false → s.Keeps r

/-- Where `Start` is in progress, `started` tells how far it is. -/
theorem Early.begun (h : s.Early r) (hidle : r.start.idle = false) : r.started = r.start.begun := by
  rw [h.started, Process.reached, hidle]
  rfl

/-- A call of `Shutdown` has nothing to do with it. -/
theorem Early.of_closed (h : s.Early r) (hclosed : r'.closed = true) (hstarted : r'.started = r.started)
    (hstart : r'.start = r.start) (hlast : s'.process.last = s.process.last) : s'.Early r' := by
  refine ⟨?_, ?_, ?_, ?_, ?_⟩
  · simp [hclosed]
  · rw [hstarted, hstart, h.started]
    simp only [Process.reached, hlast]
  · rw [hstart, hlast]
    exact h.last
  · simp [hclosed]
  · simp [hclosed]

/-- A step of `Start`. -/
theorem Early.goOn (h : s.Early r) (hidle : r.start.idle = false) (hclosed : r'.closed = r.closed)
    (hclosing : s'.process.closing = s.process.closing)
    (hlast : r'.start.idle = true → s'.process.last = r.start)
    (hstarted : r'.started = (if r'.start.idle then r.start else r'.start).begun)
    (hblank : r'.started = false → r.started = false ∧ (s.process.Blank → s'.process.Blank))
    (hprior : s.Keeps r → s'.Keeps r') : s'.Early r' := by
  refine ⟨fun hopen => ?_, ?_, fun err hreturned => ?_, fun hopen hnot => ?_, fun hopen => ?_⟩
  · rw [hclosing]
    exact h.closing (hclosed ▸ hopen)
  · rw [hstarted]
    unfold Process.reached
    split
    · next hdone => rw [hlast hdone]
    · rfl
  · rw [hlast (by rw [hreturned]; rfl)]
    exact hidle
  · obtain ⟨hbefore, hkeeps⟩ := hblank hnot
    exact hkeeps (h.blank (hclosed ▸ hopen) hbefore)
  · exact hprior (h.prior (hclosed ▸ hopen))

/-- A step of `Start` that leaves `started`, the listeners and the manager alone. -/
theorem Early.proceed (h : s.Early r) (hidle : r.start.idle = false)
    (hclosed : r'.closed = r.closed) (hstarted : r'.started = r.started)
    (hbegun : r.start.begun = (if r'.start.idle then r.start else r'.start).begun)
    (hprior : s.Keeps r → Keeps ⟨d, s.process.took r.start attempt⟩ r') :
    Early ⟨d, s.process.took r.start attempt⟩ r' := by
  refine h.goOn hidle hclosed rfl (fun _ => rfl) ?_ ?_ hprior
  · rw [hstarted, h.begun hidle]
    exact hbegun
  · intro hnot
    exact ⟨hstarted ▸ hnot, fun hblank => ⟨hblank.http, hblank.socks, hblank.manager⟩⟩

/-- Only giving the journal back adds to the record of what was given back. -/
theorem took_gaveBack {p : Process} {phase : StartPhase}
    (h : ∀ journal c rest fresh, phase ≠ .recover journal (c :: rest) fresh) :
    (p.took phase attempt).gaveBack = p.gaveBack := by
  cases phase with
  | recover journal rest fresh =>
    cases rest with
    | nil => rfl
    | cons c rest => exact absurd rfl (h journal c rest fresh)
  | _ => rfl

/-- A step that gives the journal back, or fails to. -/
theorem early_of_recover {journal : Journal} {c : Command Key (List Char) Err} {rest : Commands}
    {fresh : Bool} (h : s.Early r)
    (hphase : r.start = .recover journal (c :: rest) fresh)
    (hd : s.desktop.runStart r attempt r.start = some d) (hr' : d.runtime = some r') :
    Early ⟨d, s.process.took r.start attempt⟩ r' := by
  have hidle := Desktop.runStart_idle hd
  rw [hphase] at hd
  simp only [Desktop.runStart, Option.some.injEq] at hd
  subst hd
  cases hr'
  refine h.proceed hidle rfl rfl ?_ fun hprior => ?_
  · rw [hphase]
    cases c.error refuses attempt <;> rfl
  · unfold Keeps at hprior ⊢
    rw [hphase] at hprior ⊢
    obtain ⟨hfile, hoverlaid, hrest⟩ := hprior
    have hnext := hoverlaid.command hfile.2 (hrest (List.mem_cons_self ..)) r rest fresh attempt
    cases herror : c.error refuses attempt with
    | none =>
      exact ⟨hfile, hnext _, fun c' hc' => hrest (List.mem_cons_of_mem _ hc')⟩
    | some err => exact ⟨fun _ => .inr ⟨journal, hfile⟩, fun hlast => by cases hlast⟩

/-- A step of `Start` outside `Connect` and the listeners. -/
theorem early_of_proceed (h : s.Early r) (hr : s.desktop.runtime = some r)
    (hconnect : r.start ≠ .connect) (hd : s.desktop.runStart r attempt r.start = some d)
    (hr' : d.runtime = some r') : Early ⟨d, s.process.took r.start attempt⟩ r' := by
  by_cases hgives : ∃ journal c rest fresh, r.start = .recover journal (c :: rest) fresh
  · obtain ⟨journal, c, rest, fresh, hphase⟩ := hgives
    exact early_of_recover h hphase hd hr'
  have hidle := Desktop.runStart_idle hd
  have hgave : (s.process.took r.start attempt).gaveBack = s.process.gaveBack :=
    took_gaveBack fun journal c rest fresh hphase => hgives ⟨journal, c, rest, fresh, hphase⟩
  -- the settings stay as they are up to `Connect`
  have hover : ∀ {d : Desktop} {backend : Backend}, d.settings = s.desktop.settings →
      s.Overlaid backend → Overlaid ⟨d, s.process.took r.start attempt⟩ backend := by
    intro d backend hsettings hoverlaid
    unfold Overlaid
    rw [hgave, hsettings]
    exact hoverlaid
  have hstep := Desktop.runStart_steps hr rfl hd
  cases hstep with
  | refused =>
    cases hr.symm.trans hr'
    refine h.proceed hidle rfl rfl ?_ fun hprior => (hprior.mono id (hover rfl)).of_last hidle
    rw [hidle]
    rfl
  | startMove hr₀ _ hmove =>
    cases hr.symm.trans hr₀
    cases hr'
    refine h.proceed hidle rfl rfl (begun_of_moves hmove) fun hprior => ?_
    exact (hprior.moves hidle hmove).mono id (hover rfl)
  | connect hr₀ hphase =>
    cases hr.symm.trans hr₀
    exact absurd hphase hconnect
  | recover hr₀ hphase hnext =>
    cases hr.symm.trans hr₀
    exact absurd ⟨_, _, _, _, hphase⟩ hgives
  | removeRecovered hr₀ hphase =>
    cases hr.symm.trans hr₀
    cases hr'
    refine h.proceed hidle rfl rfl (by rw [hphase]; rfl) fun hprior => ?_
    unfold Keeps at hprior
    rw [hphase] at hprior
    exact ⟨rfl, hover rfl hprior.2⟩
  | writeJournal hr₀ hphase =>
    cases hr.symm.trans hr₀
    cases hr'
    exact h.proceed hidle rfl rfl (by rw [hphase]; rfl) (fun _ => trivial)
  | apply hr₀ hphase hnext =>
    cases hr.symm.trans hr₀
    cases hr'
    obtain ⟨-, rfl⟩ | ⟨err, -, rfl⟩ := hnext
    · exact h.proceed hidle rfl rfl (by rw [hphase]; rfl) (fun _ => trivial)
    · exact h.proceed hidle rfl rfl (by rw [hphase]; rfl) (fun _ => trivial)
  | applied hr₀ hphase =>
    cases hr.symm.trans hr₀
    cases hr'
    refine h.proceed hidle rfl rfl rfl (fun _ => ?_)
    exact prior_of_late (by rw [hphase]; rfl) hconnect
  | removeApplied hr₀ hphase =>
    cases hr.symm.trans hr₀
    cases hr'
    refine h.proceed hidle rfl rfl rfl (fun _ => ?_)
    exact prior_of_late (by rw [hphase]; rfl) hconnect

/-- While `Start` is between its listeners, it has connected. -/
theorem Early.started_of_listen (h : s.Early r) (hphase : r.start = .listen) : r.started = true := by
  rw [h.begun (by rw [hphase]; rfl), hphase]
  rfl

/-- A step of `Start` between its listeners, within the process. -/
theorem Early.listen (h : s.Early r) (hphase : r.start = .listen) {p : Process}
    (hclosing : p.closing = s.process.closing) : Early { s with process := p } r := by
  have hidle : r.start.idle = false := by
    rw [hphase]
    rfl
  refine h.goOn hidle rfl hclosing ?_ ?_ ?_ ?_
  · simp [hidle]
  · rw [hidle]
    exact h.begun hidle
  · simp [h.started_of_listen hphase]
  · unfold Keeps
    rw [hphase]
    exact fun _ => trivial

theorem ListenMoves.closing {p p' : Process} (h : ListenMoves p p') : p'.closing = p.closing := by
  cases h <;> rfl

/-- A goroutine of the manager goes on. -/
theorem blank_of_goroutine {p : Process} {t : Nat} {result : Option Err} {m : System} (h : p.Blank)
    (hm : p.manager.step (.run t result) = some m) :
    Process.Blank { p with manager := m, stage := p.resumed t } := by
  refine ⟨h.http, h.socks, fun hstage => ?_⟩
  have hstage : p.resumed t ≠ .connected none := hstage
  have hnot : p.stage ≠ .connected none := by
    intro heq
    rcases resumed_cases p t with hsame | ⟨err, hat, -⟩
    · exact hstage (hsame.trans heq)
    · rw [heq] at hat
      cases hat
  obtain ⟨hcall, phase, htask, hnext, hfail⟩ := (h.manager hnot).run hm
  have hat : p.stage = .connecting t := by
    cases heq : p.stage with
    | connecting t' =>
      rw [heq] at hcall
      rw [Option.some.inj hcall]
    | _ =>
      rw [heq] at hcall
      cases hcall
  show m.Untried (p.resumed t).call
  cases houtcome : phase.outcome p.manager.manager.closed with
  | none =>
    have hresumed : p.resumed t = .connecting t := by
      simp [Process.resumed, hat, htask, houtcome]
    rw [hresumed]
    exact hnext houtcome
  | some err =>
    have hresumed : p.resumed t = .connected err := by
      simp [Process.resumed, hat, htask, houtcome]
    rw [hresumed] at hstage ⊢
    cases err with
    | none => exact absurd rfl hstage
    | some err => exact hfail err houtcome

/-- `Shutdown` goes on only after it was called. -/
theorem Early.closed (h : s.Early r) (hclosing : s.process.closing ≠ .ready) : r.closed = true := by
  by_contra hopen
  exact hclosing (h.closing (by simpa using hopen))

theorem new_early (platform : Platform) (settings : Settings) :
    ∀ r, (new platform settings).desktop.runtime = some r → (new platform settings).Early r := by
  intro r hr
  cases hr

theorem Early.steps (h : ∀ r, s.desktop.runtime = some r → s.Early r) (hstep : Steps s l s') :
    ∀ r, s'.desktop.runtime = some r → s'.Early r := by
  intro r' hr'
  cases hstep with
  | launch socks5 hruntime =>
    cases hr'
    exact ⟨fun _ => rfl, rfl, nofun, fun _ _ => ⟨rfl, rfl, fun _ => System.new_untried⟩,
      fun _ => trivial⟩
  | exit => cases hr'
  | refused => exact h r' hr'
  | change key value =>
    have hearly := h r' hr'
    refine ⟨hearly.closing, hearly.started, hearly.last, ?_, ?_⟩
    · intro hopen hnot
      have hb := hearly.blank hopen hnot
      exact ⟨hb.http, hb.socks, hb.manager⟩
    · intro hopen
      refine (hearly.prior hopen).mono (fun hunchanged => ?_) fun hover => hover.change key value
      exact congrArg (Function.update · key value) hunchanged
  | @call r hr hidle hclosed hstarted =>
    cases hr'
    have hearly := h r hr
    refine ⟨hearly.closing, hstarted, nofun, ?_, fun _ => ⟨rfl, rfl, fun _ => .inl ⟨rfl, rfl⟩⟩⟩
    intro hopen hnot
    have hb := hearly.blank hopen hnot
    exact ⟨hb.http, hb.socks, hb.manager⟩
  | @proceed r attempt d hr hstage hconnect hlisten hd =>
    exact early_of_proceed (h r hr) hr hconnect hd hr'
  | @connect r attempt m hr hphase hstage hm =>
    cases hr.symm.trans hr'
    have hearly := h r' hr
    have hidle : r'.start.idle = false := by
      rw [hphase]
      rfl
    refine hearly.goOn hidle rfl rfl (by simp [hidle]) ?_ (fun hnot => ⟨hnot, fun hb => ?_⟩) ?_
    · rw [hidle]
      exact hearly.begun hidle
    · have huntried := hb.manager (by simp [hstage])
      rw [hstage] at huntried
      exact ⟨hb.http, hb.socks, fun _ => huntried.connect hm⟩
    · exact fun hprior => hprior
  | @connected r attempt hr hphase hstage =>
    cases hr'
    exact (h r hr).goOn (by rw [hphase]; rfl) rfl rfl nofun rfl nofun (fun _ => trivial)
  | @failed r attempt err hr hphase =>
    cases hr'
    have hearly := h r hr
    rcases hphase with ⟨hphase, hstage⟩ | ⟨hphase, t, hstage⟩
    · have hidle : r.start.idle = false := by
        rw [hphase]
        rfl
      refine hearly.goOn hidle rfl rfl (fun _ => rfl) (hearly.begun hidle)
        (fun hnot => ⟨hnot, fun hb => ?_⟩) (fun hprior => hprior.returned hidle _)
      refine ⟨hb.http, hb.socks, fun _ => ?_⟩
      rcases hstage with hstage | hstage
      · have huntried := hb.manager (by simp [hstage])
        rw [hstage] at huntried
        exact huntried
      · have huntried := hb.manager (by simp [hstage])
        rw [hstage] at huntried
        exact huntried
    · have hidle : r.start.idle = false := by
        rw [hphase]
        rfl
      refine hearly.goOn hidle rfl rfl (fun _ => rfl) (hearly.begun hidle) ?_
        (fun _ => prior_of_late (by rw [hphase]; rfl) (by simp [hphase]))
      simp [hearly.started_of_listen hphase]
  | listen hr hphase hmove =>
    cases hr.symm.trans hr'
    exact (h r' hr).listen hphase hmove.closing
  | @listened r attempt hr hphase hstage =>
    cases hr'
    have hstarted := (h r hr).started_of_listen hphase
    refine (h r hr).goOn (by rw [hphase]; rfl) rfl rfl nofun hstarted ?_ (fun _ => trivial)
    simp [hstarted]
  | abandon hr hphase =>
    cases hr.symm.trans hr'
    exact (h r' hr).listen hphase rfl
  | goroutine hm =>
    have hearly := h r' hr'
    exact ⟨hearly.closing, hearly.started, hearly.last,
      fun hopen hnot => blank_of_goroutine (hearly.blank hopen hnot) hm, hearly.prior⟩
  | ended hm =>
    have hearly := h r' hr'
    refine ⟨hearly.closing, hearly.started, hearly.last, ?_, hearly.prior⟩
    intro hopen hnot
    have hb := hearly.blank hopen hnot
    exact ⟨hb.http, hb.socks, fun hstage => (hb.manager hstage).ended hm⟩
  | @close r hr =>
    cases hr'
    exact (h r hr).of_closed rfl rfl rfl rfl
  | again hr hclosed =>
    cases hr.symm.trans hr'
    exact (h r' hr).of_closed hclosed rfl rfl rfl
  | closing hmove =>
    have hearly := h r' hr'
    cases hmove with
    | closeHTTP hclosing | closeSOCKS hclosing | closed hclosing =>
      exact hearly.of_closed (hearly.closed (by simp [hclosing])) rfl rfl rfl
  | drained hclosing =>
    have hearly := h r' hr'
    exact hearly.of_closed (hearly.closed (by simp [hclosing])) rfl rfl rfl
  | @restore r attempt d hr hclosing hd =>
    have hclosed := (h r hr).closed (by simp [hclosing])
    obtain ⟨journal, phase, hruntime⟩ := Desktop.runShutdown_runtime hr hd
    rw [hruntime, Option.some.injEq] at hr'
    subst hr'
    exact (h r hr).of_closed hclosed rfl rfl rfl

/-! ## The result -/

/-- `Start` fails in `recoverJournal`, in `Connect` or behind it. -/
theorem failing_cases {phase : StartPhase} (hidle : phase.idle = false) :
    phase.recovering = true ∨ phase = .connect ∨ phase.begun = true := by
  cases phase with
  | ready | returned => cases hidle
  | readJournal | recover | removeRecovered => exact .inl rfl
  | connect => exact .inr (.inl rfl)
  | _ => exact .inr (.inr rfl)

theorem begun_of_recovering {phase : StartPhase} (h : phase.recovering = true) :
    phase.begun = false := by
  cases phase with
  | readJournal | recover | removeRecovered => rfl
  | _ => cases h

/-- A `Start` that fails before it has connected leaves nothing running. -/
theorem Early.leavesNothing (h : s.Early r) (hr : s.desktop.runtime = some r) (hplaced : s.Placed)
    (hclosed : r.closed = false) (hidle : r.start.idle = true) (hstarted : r.started = false)
    (hsettings : s.Unchanged ∨
      ∃ journal, s.desktop.file = some journal ∧ s.process.found = some journal) :
    s.LeavesNothing r := by
  have hblank := h.blank hclosed hstarted
  have hstage := hplaced.outside hr hidle
  have huntried := hblank.manager (by simp [hstage])
  refine ⟨by simp [hblank.http], by simp [hblank.socks], ?_, ?_, ?_⟩
  · simp [System.vacant, huntried.session]
  · refine hsettings.imp_right ?_
    rintro ⟨journal, hfile, hfound⟩
    exact ⟨journal, hfile, .inl hfound⟩
  · simp [refusal, hclosed, hstarted, huntried.closed]

/-- **When a failed `Start` leaves nothing behind.** In every run without a call of `Shutdown`, once
    `Start` has returned an error: no listener accepts, the manager has no session that runs, the
    settings are as before the call or a journal is there, and another call is not refused, iff the
    error is that of the recovery of the journal, or that of `Connect` and the journal that was found,
    if any, told what would be there without giving it back. -/
theorem leavesNothing_iff {platform : Platform} {settings : Settings} {as : List Label} {err : Err}
    (hrun : exec step (new platform settings) as = some s) (hr : s.desktop.runtime = some r)
    (hclosed : r.closed = false) (hfailed : r.start = .returned (some err)) :
    s.LeavesNothing r ↔ s.process.last.recovering = true ∨
      s.process.last = .connect ∧ s.Harmless r.backend := by
  have hinv : s.Placed ∧ ∀ r, s.desktop.runtime = some r → s.Early r :=
    Reachable.invariant (fun s => s.Placed ∧ ∀ r, s.desktop.runtime = some r → s.Early r)
      (fun _ _ _ hs hstep => ⟨hs.1.steps (step_steps hstep), Early.steps hs.2 (step_steps hstep)⟩)
      ⟨new_placed platform settings, new_early platform settings⟩ ⟨as, hrun⟩
  obtain ⟨hplaced, hearly⟩ := hinv
  have h := hearly r hr
  have hidle : r.start.idle = true := by
    rw [hfailed]
    rfl
  have hstarted := h.started
  rw [Process.reached, if_pos hidle] at hstarted
  have hprior := h.prior hclosed
  unfold Keeps at hprior
  rw [hfailed] at hprior
  constructor
  · intro hleaves
    rcases failing_cases (h.last _ hfailed) with hrecovering | hconnect | hbegun
    · exact .inl hrecovering
    · refine .inr ⟨hconnect, ?_⟩
      rcases hleaves.settings with hunchanged | ⟨journal, hfile, -⟩
      · exact (hprior.2 hconnect).2.unchanged_iff.1 hunchanged
      · rw [(hprior.2 hconnect).1] at hfile
        cases hfile
    · -- `started` is set, and nothing sets it back
      have hlater := hleaves.later
      simp [refusal, hclosed, hstarted, hbegun] at hlater
  · rintro (hrecovering | ⟨hconnect, hharmless⟩)
    · have hnot := begun_of_recovering hrecovering
      exact h.leavesNothing hr hplaced hclosed hidle (hstarted.trans hnot) (hprior.1 hrecovering)
    · have hnot : s.process.last.begun = false := by
        rw [hconnect]
        rfl
      exact h.leavesNothing hr hplaced hclosed hidle (hstarted.trans hnot)
        (.inl ((hprior.2 hconnect).2.unchanged_iff.2 hharmless))

/-! ## Runs -/

/-- A process ends when it has written its journal; the next one gives the journal back, and then the
    server cannot be dialled. -/
def unreachable : List Label :=
  upToSnapshot .kde ++ List.replicate 8 (.runStart none) ++ [.exit, .launch .kde false, .start] ++
    List.replicate 10 (.runStart none) ++ List.replicate 2 (.goroutine 0 none) ++
    [.goroutine 0 (some (.transport "no route to host")), .goroutine 0 none, .runStart none]

theorem unreachable_leavesNothing :
    ∃ s r, exec step (new .linux Desktop.sampleSettings) unreachable = some s ∧
      s.process.found.map Journal.before = some (snapshot .kde Desktop.sampleSettings) ∧
      s.desktop.runtime = some r ∧ r.start = .returned (some (.transport "no route to host")) ∧
      s.LeavesNothing r := by
  have hrun : exec step (new .linux Desktop.sampleSettings) unreachable =
      some (after step (new .linux Desktop.sampleSettings) unreachable) :=
    exec_after (by decide +kernel)
  have hr : (after step (new .linux Desktop.sampleSettings) unreachable).desktop.runtime =
      some ⟨.kde, false, false, none, .returned (some (.transport "no route to host")), .ready⟩ := by
    decide +kernel
  have hfound : (after step (new .linux Desktop.sampleSettings) unreachable).process.found.map
      Journal.before = some (snapshot .kde Desktop.sampleSettings) := by
    decide +kernel
  have hvalues : ∀ key, (after step (new .linux Desktop.sampleSettings) unreachable).process.gaveBack
      key = true → assigned key (restore .kde (snapshot .kde Desktop.sampleSettings)) =
        some ((after step (new .linux Desktop.sampleSettings) unreachable).process.untouched key) := by
    intro key
    cases key <;> decide +kernel
  refine ⟨_, _, hrun, hfound, hr, rfl,
    (leavesNothing_iff hrun hr rfl rfl).2 (.inr ⟨by decide +kernel, ?_⟩)⟩
  intro journal hjournal key value hgave hvalue
  rw [hjournal, Option.map_some, Option.some.injEq] at hfound
  rw [hfound, hvalues key hgave, Option.some.injEq] at hvalue
  exact hvalue

/-- The port of the HTTP listener is taken. -/
def failsAtHTTP : List Label :=
  upToListeners .kde false ++ [.runStart (some (.message "address already in use")),
    .runStart none, .goroutine 2 none, .runStart none]

/-- The port of the SOCKS5 listener is taken. -/
def failsAtSOCKS : List Label :=
  upToListeners .kde true ++ [.listen "127.0.0.1:4000".toList, .runStart none,
    .runStart (some (.message "address already in use")), .runStart none, .runStart none,
    .goroutine 2 none, .runStart none]

def failsAtSnapshot : List Label :=
  upToSnapshot .kde ++ [.runStart (some (.message "exit status 1"))]

def failsAtJournal : List Label :=
  upToSnapshot .kde ++ List.replicate 7 (.runStart none) ++
    [.runStart (some (.message "no space left on device"))]

/-- The second write of `Apply` fails. -/
def failsAtApply : List Label :=
  upToSnapshot .kde ++ List.replicate 9 (.runStart none) ++
    [.runStart (some (.message "exit status 1")), .runStart none]

/-- `Start` has failed and leaves something behind. -/
def LeavesSomething (s : App) : Prop :=
  ∃ r err, s.desktop.runtime = some r ∧ r.closed = false ∧ r.start = .returned (some err) ∧
    ¬ s.LeavesNothing r

/-- `Start` has failed and another call is refused. -/
def refusedNow (s : App) : Bool :=
  match s.desktop.runtime with
  | none => false
  | some r =>
    match r.start with
    | .returned (some _) => !r.closed && (s.refusal r).isSome
    | _ => false

theorem leavesSomething_of_refused (h : s.refusedNow = true) : s.LeavesSomething := by
  unfold refusedNow at h
  split at h
  · cases h
  · next r hr =>
    split at h
    · next err hstart =>
      simp only [Bool.and_eq_true, Bool.not_eq_true'] at h
      refine ⟨r, err, hr, h.1, hstart, fun hleaves => ?_⟩
      rw [hleaves.later] at h
      cases h.2
    · cases h

/-- At every point behind `Connect` something is left: the next call is refused; from the snapshot on,
    a listener accepts and the session runs; and a half-made `Apply` leaves its settings without a
    journal. -/
theorem failsAtApply_leavesSomething :
    (∃ s, exec step (new .linux Desktop.sampleSettings) failsAtHTTP = some s ∧
      s.LeavesSomething) ∧
    (∃ s, exec step (new .linux Desktop.sampleSettings) failsAtSOCKS = some s ∧
      s.LeavesSomething) ∧
    (∃ s, exec step (new .linux Desktop.sampleSettings) failsAtSnapshot = some s ∧
      s.LeavesSomething ∧ s.process.http = .listening ∧ s.process.manager.vacant = false) ∧
    (∃ s, exec step (new .linux Desktop.sampleSettings) failsAtJournal = some s ∧
      s.LeavesSomething ∧ s.process.http = .listening ∧ s.process.manager.vacant = false) ∧
    ∃ s, exec step (new .linux Desktop.sampleSettings) failsAtApply = some s ∧
      s.LeavesSomething ∧ s.process.http = .listening ∧ s.process.manager.vacant = false ∧
      s.desktop.file = none ∧ s.process.untouched .kdeProxyType = ['0'] ∧
      s.desktop.settings .kdeProxyType = ['1'] := by
  refine ⟨⟨_, exec_after ?_, leavesSomething_of_refused ?_⟩,
    ⟨_, exec_after ?_, leavesSomething_of_refused ?_⟩,
    ⟨_, exec_after ?_, leavesSomething_of_refused ?_, ?_, ?_⟩,
    ⟨_, exec_after ?_, leavesSomething_of_refused ?_, ?_, ?_⟩,
    ⟨_, exec_after ?_, leavesSomething_of_refused ?_, ?_, ?_, ?_, ?_, ?_⟩⟩
  all_goals decide +kernel

end App

end LnProxy.Client
