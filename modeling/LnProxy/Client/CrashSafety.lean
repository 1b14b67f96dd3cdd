import LnProxy.Client.Runtime

set_option autoImplicit false

/-! # Crash safety of the proxy journal

Whenever the writes of the program leave a setting other than the snapshot taken before them tells,
the journal with that snapshot is on disk. The file goes away in three places: behind the `Restore` of
`recoverJournal`, behind the `Restore` of `Shutdown`, and behind an `Apply` that has failed. Nothing
there looks at the settings, so the property rests on what the operation before has done: the two
`Restore`s have to give the snapshot back, and a failed `Apply` must not have written.

Others may change the settings at any time. The argument is about what the writes of the program
alone have made of the snapshot, which they do not touch. -/

namespace LnProxy.Client.Desktop

open Transition Script SystemProxy

/-! ## The property and the condition -/

/-- A setting that is as the program left it and not as the snapshot told it before is in a journal
    with that snapshot. -/
def Safe (s : Desktop) : Prop :=
  ∀ backend, (∃ pair ∈ fields backend, get s.settings pair.2 = get s.own pair.2 ∧
      get s.own pair.2 ≠ get s.base pair.2) →
    ∃ journal, s.file = some journal ∧ journal.before = snapshot backend s.base

/-- `Restore` runs only on a snapshot that its backend gives back, and drops no error of a write; an
    `Apply` that fails does so at its first command. -/
def sound (s : Desktop) : Label → Bool
  | .runStart attempt =>
    match s.runtime with
    | none => true
    | some r =>
      match r.start, s.file with
      | .readJournal, some journal => faithful r.backend journal.before
      | .recover _ (c :: _) _, _ => !c.dropped refuses attempt
      | .apply journal (c :: rest), _ =>
        (c.error refuses attempt).isNone ||
          decide (c :: rest = apply r.backend journal.applied)
      | _, _ => true
  | .runShutdown attempt =>
    match s.runtime with
    | none => true
    | some r =>
      match r.shutdown with
      | .compare journal _ => faithful r.backend journal.before
      | .restore _ (c :: _) _ => !c.dropped refuses attempt
      | _ => true
  | _ => true

variable {s s' : Desktop} {l : Label} {r : Runtime} {before settings : Settings}
  {backend : Backend} {journal : Journal} {attempt : Option Err}
  {c : Command Key (List Char) Err} {rest : Commands}

/-! ## Settings that are as before -/

def Clean (before settings : Settings) : Prop :=
  ∀ backend, snapshot backend settings = snapshot backend before

def CleanBut (backend : Backend) (before settings : Settings) : Prop :=
  ∀ backend', backend' ≠ backend → snapshot backend' settings = snapshot backend' before

theorem CleanBut.clean (h : CleanBut backend before settings)
    (hself : snapshot backend settings = snapshot backend before) : Clean before settings := by
  intro backend'
  by_cases heq : backend' = backend
  · rw [heq, hself]
  · exact h backend' heq

theorem CleanBut.run (h : CleanBut backend before settings) (hlocal : Local backend c) :
    CleanBut backend before (c.run refuses attempt settings) := by
  have hran := c.ran refuses attempt settings
  generalize c.run refuses attempt settings = settings', c.error refuses attempt = err at hran
  cases hran with
  | wrote key value checked =>
    intro backend' hne
    rw [snapshot_update settings value]
    · exact h backend' hne
    · rw [(hlocal key value checked rfl).1]
      exact hne.symm
  | dropped => exact h
  | failed => exact h

/-- The settings that no operation writes. -/
def Kept (before settings : Settings) : Prop :=
  ∀ key, key.restored = false → settings key = before key

theorem Kept.run (h : Kept before settings) (hlocal : Local backend c) :
    Kept before (c.run refuses attempt settings) := by
  have hran := c.ran refuses attempt settings
  generalize c.run refuses attempt settings = settings', c.error refuses attempt = err at hran
  cases hran with
  | wrote key value checked =>
    intro key' hkey'
    have hne : key' ≠ key := by
      rintro rfl
      rw [(hlocal key' value checked rfl).2] at hkey'
      cases hkey'
    rw [Function.update_of_ne hne]
    exact h key' hkey'
  | dropped => exact h
  | failed => exact h

/-- A command that fails leaves the settings alone. -/
theorem run_of_error {err : Err} (herror : c.error refuses attempt = some err) :
    c.run refuses attempt settings = settings := by
  have hran := c.ran refuses attempt settings
  rw [herror] at hran
  generalize c.run refuses attempt settings = settings' at hran
  cases hran
  rfl

/-- A command whose error is not dropped has done its part of the script, or fails. -/
theorem complete_run (herror : c.error refuses attempt = none)
    (hdropped : c.dropped refuses attempt = false) :
    complete rest (c.run refuses attempt settings) = complete (c :: rest) settings := by
  have hran := c.ran refuses attempt settings
  rw [herror] at hran
  generalize c.run refuses attempt settings = settings' at hran
  cases hran with
  | wrote => rfl
  | dropped _ h =>
    rw [h] at hdropped
    cases hdropped

/-! ## The invariant -/

/-- The journal on disk is the snapshot of the one desktop whose settings may differ; without a
    journal none differs. -/
def Held (before settings : Settings) : Option Journal → Prop
  | none => Clean before settings
  | some journal => ∃ backend, journal.before = snapshot backend before ∧
      CleanBut backend before settings

theorem Held.cleanBut (h : Held before settings (some journal))
    (hbefore : journal.before = snapshot backend before) : CleanBut backend before settings := by
  obtain ⟨backend', hbefore', hclean⟩ := h
  have hfields : (fields backend').map Prod.fst = (fields backend).map Prod.fst := by
    rw [← map_fst_snapshot backend' before, ← map_fst_snapshot backend before, ← hbefore, hbefore']
  rwa [backend_of_fields hfields] at hclean

/-- A journal that a backend gives back is its own. -/
theorem Held.before_eq (h : Held before settings (some journal))
    (hfaithful : faithful backend journal.before = true) :
    journal.before = snapshot backend before := by
  obtain ⟨backend', hbefore, -⟩ := h
  simp only [faithful, Bool.and_eq_true, decide_eq_true_eq] at hfaithful
  have hfields : (fields backend').map Prod.fst = (fields backend).map Prod.fst := by
    rw [← map_fst_snapshot backend' before, ← hbefore, hfaithful.1]
  rw [hbefore, backend_of_fields hfields]

def StartOk (before : Settings) (file : Option Journal) (settings : Settings) (backend : Backend) :
    StartPhase → Prop
  | .ready | .readJournal | .returned _ => True
  | .connect | .listen => file = none
  | .recover journal rest _ => file = some journal ∧ journal.before = snapshot backend before ∧
      snapshot backend (complete rest settings) = snapshot backend before
  | .removeRecovered | .removeApplied _ => Clean before settings
  | .snapshot _ values rest => file = none ∧ ∃ seen, Taken backend seen values rest
  | .writeJournal journal => file = none ∧ ∃ seen, journal.before = snapshot backend seen
  | .apply journal rest => file = some journal ∧ journal.before = snapshot backend before ∧
      (rest = apply backend journal.applied → Clean before settings)

def ShutdownOk (before settings : Settings) (backend : Backend) : ShutdownPhase → Prop
  | .restore _ rest _ => snapshot backend (complete rest settings) = snapshot backend before
  | .removeJournal _ => Clean before settings
  | _ => True

theorem startOk_of_idle {file : Option Journal} {phase : StartPhase} (h : phase.idle = true) :
    StartOk before file settings backend phase := by
  cases phase <;> trivial

theorem shutdownOk_of_journal {phase : ShutdownPhase} (h : phase.journal = none) :
    ShutdownOk before settings backend phase := by
  cases phase <;> trivial

structure Inv (s : Desktop) : Prop where
  wired : s.Wired
  kept : Kept s.base s.own
  file : Held s.base s.own s.file
  start : ∀ r, s.runtime = some r → StartOk s.base s.file s.own r.backend r.start
  shutdown : ∀ r, s.runtime = some r → ShutdownOk s.base s.own r.backend r.shutdown
  journal : ∀ r, s.runtime = some r → ∀ journal, r.journal = some journal →
    s.file = some journal ∧ journal.before = snapshot r.backend s.base

theorem new_inv (platform : Platform) (settings : Settings) : (new platform settings).Inv where
  wired := new_wired platform settings
  kept := fun _ _ => rfl
  file := fun _ => rfl
  start := by simp [new]
  shutdown := by simp [new]
  journal := by simp [new]

/-- The invariant behind a step of `Start`, where `Shutdown` has no journal in hand. -/
theorem inv_of_start (hwired : s.Wired) (hr : s.runtime = some r) (hjournal : r.journal = none)
    (hkept : Kept s.base s.own) (hfile : Held s.base s.own s.file)
    (hstart : StartOk s.base s.file s.own r.backend r.start) : s.Inv where
  wired := hwired
  kept := hkept
  file := hfile
  start := forall_runtime hr hstart
  shutdown := forall_runtime hr
    (shutdownOk_of_journal ((hwired.runtime r hr).shutdown_journal hjournal))
  journal := forall_runtime hr (by simp [hjournal])

/-- The invariant behind a step of `Shutdown` with a journal in hand, where `Start` is over. -/
theorem inv_of_shutdown (hwired : s.Wired) (hr : s.runtime = some r) (hidle : r.start.idle = true)
    (hkept : Kept s.base s.own) (hfile : Held s.base s.own s.file)
    (hshutdown : ShutdownOk s.base s.own r.backend r.shutdown)
    (hjournal : ∀ journal, r.journal = some journal →
      s.file = some journal ∧ journal.before = snapshot r.backend s.base) : s.Inv where
  wired := hwired
  kept := hkept
  file := hfile
  start := forall_runtime hr (startOk_of_idle hidle)
  shutdown := forall_runtime hr hshutdown
  journal := forall_runtime hr hjournal

/-! ## Each step keeps it -/

/-- Where the program's writes are undone, the next snapshot is the one to go back to. -/
theorem note_of_clean (backend : Backend) (values : Snapshot) (h : Clean s.base s.own) :
    (s.note backend values).base = noted backend values s.settings ∧
      (s.note backend values).own = noted backend values s.settings := by
  have hundone : s.undone = true := by
    simp only [undone, List.all_eq_true, decide_eq_true_eq]
    exact fun backend' _ => h backend'
  simp only [note, if_pos hundone, and_self]

theorem Inv.cleanBut (h : s.Inv) (hfile : s.file = some journal)
    (hbefore : journal.before = snapshot backend s.base) : CleanBut backend s.base s.own := by
  have hheld := h.file
  rw [hfile] at hheld
  exact hheld.cleanBut hbefore

/-- With its own journal on disk, a backend may run its commands. -/
theorem Inv.held_run (h : s.Inv) (attempt : Option Err) (hfile : s.file = some journal)
    (hbefore : journal.before = snapshot backend s.base) (hlocal : Local backend c) :
    Held s.base (c.run refuses attempt s.own) s.file := by
  rw [hfile]
  exact ⟨backend, hbefore, (h.cleanBut hfile hbefore).run hlocal⟩

/-- While `Start` is in progress, its phase tells the invariant, and no journal is in hand. -/
theorem Inv.startAt (h : s.Inv) (hr : s.runtime = some r) {phase : StartPhase}
    (hphase : r.start = phase) (hidle : phase.idle = false) :
    StartOk s.base s.file s.own r.backend phase ∧ r.journal = none := by
  subst hphase
  exact ⟨h.start r hr, (h.wired.runtime r hr).journal_eq_none hidle⟩

theorem Inv.startMove (h : s.Inv) (hr : s.runtime = some r) {phase : StartPhase}
    (hok : s.sound (.runStart attempt) = true) (hmove : StartMoves s r attempt r.start phase) :
    StartOk s.base s.file s.own r.backend phase := by
  have hstart := h.start r hr
  generalize hphase : r.start = before' at hmove hstart
  cases hmove with
  | returned => trivial
  | absent hfile => exact hfile
  | @recover journal hfile =>
    simp only [sound, hr, hphase, hfile] at hok
    have hheld := h.file
    rw [hfile] at hheld
    have hbefore := hheld.before_eq hok
    rw [hbefore] at hok
    refine ⟨hfile, hbefore, ?_⟩
    rw [hbefore]
    exact snapshot_complete_restore hok h.kept
  | recovered journal fresh =>
    obtain ⟨hfile, hbefore, hrestored⟩ := hstart
    exact (h.cleanBut hfile hbefore).clean hrestored
  | read endpoint field rest hvalue =>
    obtain ⟨hfile, seen, htaken⟩ := hstart
    rcases readField_ok hvalue with rfl | ⟨-, -, rfl⟩ <;> exact ⟨hfile, _, htaken.read⟩
  | taken endpoint values =>
    obtain ⟨hfile, seen, htaken⟩ := hstart
    exact ⟨hfile, seen, htaken.snapshot⟩

theorem Inv.shutdownMove (h : s.Inv) (hr : s.runtime = some r) {phase : ShutdownPhase}
    (hok : s.sound (.runShutdown attempt) = true) (hmove : ShutdownMoves s r attempt r.shutdown phase) :
    ShutdownOk s.base s.own r.backend phase := by
  have hshutdown := h.shutdown r hr
  have hheld := (h.wired.runtime r hr).held
  generalize hphase : r.shutdown = before' at hmove hshutdown hheld
  cases hmove with
  | returned | begin | read | taken => trivial
  | @agreed journal values hmatches =>
    simp only [sound, hr, hphase] at hok
    have hbefore := (h.journal r hr journal (hheld journal rfl)).2
    rw [hbefore] at hok
    simp only [ShutdownOk]
    rw [hbefore]
    exact snapshot_complete_restore hok h.kept
  | restored journal fresh =>
    obtain ⟨hfile, hbefore⟩ := h.journal r hr journal (hheld journal rfl)
    exact (h.cleanBut hfile hbefore).clean hshutdown

theorem Inv.steps (h : s.Inv) (hok : s.sound l = true) (hstep : Steps s l s') :
    s'.Inv := by
  have hwired' := h.wired.steps hstep
  cases hstep with
  | launch => exact inv_of_start hwired' rfl rfl h.kept h.file trivial
  | exit => exact ⟨hwired', h.kept, h.file, by simp, by simp, by simp⟩
  | change => exact ⟨hwired', h.kept, h.file, h.start, h.shutdown, h.journal⟩
  | refused => exact h
  | call hr hstarted =>
    have hjournal := (h.wired.runtime _ hr).journal_of_not_started hstarted
    exact inv_of_start hwired' rfl hjournal h.kept h.file trivial
  | startMove hr hidle hmove =>
    have hjournal := (h.wired.runtime _ hr).journal_eq_none hidle
    exact inv_of_start hwired' rfl hjournal h.kept h.file (h.startMove hr hok hmove)
  | @connect r attempt hr hphase =>
    obtain ⟨hstart, hjournal⟩ := h.startAt hr hphase rfl
    exact inv_of_start hwired' rfl hjournal h.kept h.file hstart
  | @listen r http socks hr hphase haddress =>
    obtain ⟨hstart, hjournal⟩ := h.startAt hr hphase rfl
    exact inv_of_start hwired' rfl hjournal h.kept h.file ⟨hstart, s.settings, taken_nil _ _⟩
  | @recover r attempt journal c rest fresh phase hr hphase hnext =>
    obtain ⟨⟨hfile, hbefore, hrestored⟩, hjournal⟩ := h.startAt hr hphase rfl
    have hwithin := (h.wired.runtime r hr).start
    rw [hphase] at hwithin
    have hlocal := local_of_restore hwithin
    have hheld := h.held_run attempt hfile hbefore hlocal
    refine inv_of_start hwired' rfl hjournal (h.kept.run hlocal) hheld ?_
    obtain ⟨herror, rfl⟩ | ⟨-, err, rfl⟩ := hnext
    · simp only [sound, hr, hphase, Bool.not_eq_true'] at hok
      rw [← complete_run herror hok] at hrestored
      exact ⟨hfile, hbefore, hrestored⟩
    · trivial
  | @removeRecovered r attempt hr hphase =>
    obtain ⟨hstart, hjournal⟩ := h.startAt hr hphase rfl
    exact inv_of_start hwired' rfl hjournal h.kept hstart rfl
  | @writeJournal r attempt journal hr hphase =>
    obtain ⟨⟨hfile, seen, hbefore⟩, hjournal⟩ := h.startAt hr hphase rfl
    have hclean := h.file
    rw [hfile] at hclean
    obtain ⟨hnoted, hown⟩ := note_of_clean r.backend journal.before hclean
    have hbase : journal.before =
        snapshot r.backend (s.note r.backend journal.before).base := by
      rw [hnoted, hbefore]
      exact (snapshot_noted r.backend seen s.settings).symm
    rw [← hnoted] at hown
    refine inv_of_start hwired' rfl hjournal ?_ ?_ ?_
    · intro key _
      exact congrFun hown key
    · refine ⟨r.backend, hbase, fun backend' _ => ?_⟩
      exact congrArg (snapshot backend') hown
    · refine ⟨rfl, hbase, fun _ backend' => ?_⟩
      exact congrArg (snapshot backend') hown
  | @apply r attempt journal c rest phase hr hphase hnext =>
    obtain ⟨⟨hfile, hbefore, hfirst⟩, hjournal⟩ := h.startAt hr hphase rfl
    have hwithin := (h.wired.runtime r hr).start
    rw [hphase] at hwithin
    have hlocal := local_of_apply hwithin
    have hheld := h.held_run attempt hfile hbefore hlocal
    refine inv_of_start hwired' rfl hjournal (h.kept.run hlocal) hheld ?_
    obtain ⟨-, rfl⟩ | ⟨err, herror, rfl⟩ := hnext
    · refine ⟨hfile, hbefore, fun hall => ?_⟩
      -- the rest is shorter than the whole operation
      have hlength := hwithin.length_le
      rw [← hall, List.length_cons] at hlength
      omega
    · simp only [sound, hr, hphase, herror, Option.isNone_some, Bool.false_or,
        decide_eq_true_eq] at hok
      have hrun : c.run refuses attempt s.own = s.own := run_of_error herror
      simp only [StartOk, command, hrun]
      exact hfirst hok
  | @applied r attempt journal hr hphase =>
    obtain ⟨hstart, hnone⟩ := h.startAt hr hphase rfl
    refine inv_of_shutdown hwired' rfl rfl h.kept h.file
      (shutdownOk_of_journal ((h.wired.runtime r hr).shutdown_journal hnone)) ?_
    rintro _ ⟨⟩
    exact ⟨hstart.1, hstart.2.1⟩
  | @removeApplied r attempt err file hr hphase hfile =>
    obtain ⟨hstart, hjournal⟩ := h.startAt hr hphase rfl
    refine inv_of_start hwired' rfl hjournal h.kept ?_ trivial
    rcases hfile with rfl | rfl
    · exact hstart
    · exact h.file
  | @close r hr =>
    exact ⟨hwired', h.kept, h.file, forall_runtime rfl (h.start r hr), forall_runtime rfl trivial,
      forall_runtime rfl (h.journal r hr)⟩
  | @shutdownMove r attempt phase hr hmove =>
    exact ⟨hwired', h.kept, h.file, forall_runtime rfl (h.start r hr),
      forall_runtime rfl (h.shutdownMove hr hok hmove), forall_runtime rfl (h.journal r hr)⟩
  | @restore r attempt journal c rest fresh phase hr hphase hnext =>
    have hshutdown := h.shutdown r hr
    have hwithin := (h.wired.runtime r hr).shutdown
    obtain ⟨hjournal, hidle⟩ := h.wired.over hr hphase rfl
    rw [hphase] at hshutdown hwithin
    obtain ⟨hfile, hbefore⟩ := h.journal r hr journal hjournal
    have hlocal := local_of_restore hwithin
    have hheld := h.held_run attempt hfile hbefore hlocal
    refine inv_of_shutdown hwired' rfl hidle (h.kept.run hlocal) hheld ?_ (h.journal r hr)
    obtain ⟨herror, rfl⟩ | ⟨-, err, rfl⟩ := hnext
    · simp only [sound, hr, hphase, Bool.not_eq_true'] at hok
      have hrestored : snapshot r.backend (complete (c :: rest) s.own) =
        snapshot r.backend s.base := hshutdown
      rw [← complete_run herror hok] at hrestored
      exact hrestored
    · trivial
  | @removeJournal r attempt journal hr hphase =>
    have hshutdown := h.shutdown r hr
    rw [hphase] at hshutdown
    have hidle := (h.wired.over hr hphase rfl).2
    exact inv_of_shutdown hwired' rfl hidle h.kept hshutdown trivial (by simp)

theorem Inv.safe (h : s.Inv) : s.Safe := by
  rintro backend ⟨pair, hpair, -, hne⟩
  have hchanged : snapshot backend s.own ≠ snapshot backend s.base := by
    intro heq
    have hfield := List.map_inj_left.1 heq pair hpair
    exact hne (Prod.mk.inj hfield).2
  have hheld := h.file
  cases hfile : s.file with
  | none =>
    rw [hfile] at hheld
    exact absurd (hheld backend) hchanged
  | some journal =>
    rw [hfile] at hheld
    obtain ⟨backend', hbefore, hclean⟩ := hheld
    by_cases heq : backend = backend'
    · exact ⟨journal, rfl, heq ▸ hbefore⟩
    · exact absurd (hclean backend heq) hchanged

/-- **The journal is there while a setting is as the program left it and not as before**, at every
    moment of a run in which every `Restore` gives back what the journal tells and every failed
    `Apply` has written nothing. -/
theorem safe_of_sound {platform : Platform} {as : List Label}
    (hok : Along step (fun s l => s.sound l = true) (new platform settings) as)
    (h : exec step (new platform settings) as = some s) : s.Safe := by
  have hinv : s.Inv := exec_invariant Inv
    (fun _ _ _ hs hl hstep => hs.steps hl (step_steps hstep)) (new_inv platform settings) hok h
  exact hinv.safe

/-! ## Runs -/

/-- A process that ends between the writes of its `Apply`, and the next one that ends between the
    writes of `recoverJournal`; others change the settings meanwhile. -/
def crashedTwice : List Label :=
  upToJournal .kde ++ List.replicate 2 (.runStart none) ++
    [.change .kdeNoProxyFor "localhost".toList, .exit, .launch .kde, .start] ++
    List.replicate 2 (.runStart none) ++ [.exit]

theorem crashedTwice_safe :
    ∃ s, exec step (new .linux sampleSettings) crashedTwice = some s ∧
      (∃ pair ∈ fields .kde, get s.settings pair.2 = get s.own pair.2 ∧
        get s.own pair.2 ≠ get s.base pair.2) ∧ s.Safe := by
  have hrun : exec step (new .linux sampleSettings) crashedTwice =
      some (after step (new .linux sampleSettings) crashedTwice) := exec_after (by decide +kernel)
  exact ⟨_, hrun, by decide +kernel, safe_of_sound (by decide +kernel) hrun⟩

/-- The second write of `Apply` fails. -/
def halfApplied : List Label :=
  upToJournal .kde ++ [.runStart none, .runStart (some (.message "exit status 1")), .runStart none]

/-- The second write of the `Restore` of `Shutdown` fails, and its error is dropped. -/
def halfRestored : List Label :=
  upToJournal .kde ++ List.replicate 4 (.runStart none) ++ [.shutdown] ++
    List.replicate 10 (.runShutdown none) ++ [.runShutdown (some (.message "exit status 1"))] ++
    List.replicate 6 (.runShutdown none)

/-- The next process finds no desktop, and its `Restore` does nothing. -/
def recoveredElsewhere : List Label :=
  upToJournal .kde ++ [.runStart none, .exit, .launch .unsupported, .start] ++
    List.replicate 3 (.runStart none)

/-- GNOME's `Restore` takes the host for an endpoint. -/
def lostHost : List Label :=
  upToJournal .gnome ++ List.replicate 6 (.runStart none) ++ [.exit, .launch .gnome, .start] ++
    List.replicate 9 (.runStart none)

/-- The run ends without a journal, and a setting is as the program left it and not as before. -/
def lost (run : List Label) (backend : Backend) : Bool :=
  let s := after step (new .linux sampleSettings) run
  (exec step (new .linux sampleSettings) run).isSome && decide (s.file = none) &&
    decide (∃ pair ∈ fields backend, get s.settings pair.2 = get s.own pair.2 ∧
      get s.own pair.2 ≠ get s.base pair.2)

theorem not_safe_of_lost {run : List Label} (h : lost run backend = true) :
    ∃ s, exec step (new .linux sampleSettings) run = some s ∧ ¬ s.Safe := by
  simp only [lost, Bool.and_eq_true, decide_eq_true_eq] at h
  obtain ⟨⟨hsome, hfile⟩, hchanged⟩ := h
  refine ⟨_, exec_after hsome, fun hsafe => ?_⟩
  obtain ⟨journal, hjournal, -⟩ := hsafe backend hchanged
  rw [hfile] at hjournal
  cases hjournal

/-- Each part of the condition is needed: every one of these runs removes the journal and leaves a
    setting other than before. -/
theorem halfApplied_not_safe :
    (∃ s, exec step (new .linux sampleSettings) halfApplied = some s ∧ ¬ s.Safe) ∧
    (∃ s, exec step (new .linux sampleSettings) halfRestored = some s ∧ ¬ s.Safe) ∧
    (∃ s, exec step (new .linux sampleSettings) recoveredElsewhere = some s ∧ ¬ s.Safe) ∧
    ∃ s, exec step (new .linux sampleSettings) lostHost = some s ∧ ¬ s.Safe := by
  have happlied : lost halfApplied .kde = true := by decide +kernel
  have hrestored : lost halfRestored .kde = true := by decide +kernel
  have helsewhere : lost recoveredElsewhere .kde = true := by decide +kernel
  have hhost : lost lostHost .gnome = true := by decide +kernel
  exact ⟨not_safe_of_lost happlied, not_safe_of_lost hrestored, not_safe_of_lost helsewhere,
    not_safe_of_lost hhost⟩

end LnProxy.Client.Desktop
