import LnProxy.Client.Runtime

set_option autoImplicit false

/-! # The guard of `Restore` over whole histories

`Shutdown` restores the settings only when a snapshot of them matches the endpoint it applied, and
leaves the journal where it does not. `recoverJournal` of the next process restores what that journal
tells without such a look. And the guard is a look at some of the settings, some steps before the
writes: what others change in between, or in a setting the guard does not look at, is overwritten.

What others have changed is known here by comparison with what the writes of the program alone have
made of the last snapshot. -/

namespace LnProxy.Client

open Transition Script SystemProxy

/-! ## The property and the condition -/

/-- The setting has the value the program left it with, or the one `Apply` gives it. -/
def Intact (backend : Backend) (journal : Journal) (settings left : Settings) (key : Key) : Prop :=
  settings key = left key ∨ assigned key (apply backend journal.applied) = some (settings key)

instance (backend : Backend) (journal : Journal) (settings left : Settings) (key : Key) :
    Decidable (Intact backend journal settings left key) :=
  inferInstanceAs (Decidable (_ ∨ _))

/-- When `Restore` begins to write, the settings match the endpoint of its journal, and it overwrites
    no setting that others have changed. -/
def RestoreWrite.Guarded (w : RestoreWrite) : Prop :=
  (w.fresh = true → matched w.backend w.settings w.journal.applied = true) ∧
    Intact w.backend w.journal w.settings w.left w.key

instance (w : RestoreWrite) : Decidable w.Guarded := inferInstanceAs (Decidable (_ ∧ _))

namespace Desktop

def Guarded (s : Desktop) : Prop := ∀ w ∈ s.restores, w.Guarded

/-- The snapshot of `Shutdown` is being taken or compared, or some `Restore` is writing. -/
def restoring (s : Desktop) : Bool :=
  match s.runtime with
  | none => false
  | some r =>
    (match r.start with
      | .recover .. => true
      | _ => false) ||
    match r.shutdown with
      | .snapshot .. | .compare .. | .restore .. => true
      | _ => false

/-- A journal is on disk or in hand, or `Start` is about to write one. -/
def inPlay (s : Desktop) : Bool :=
  s.file.isSome || s.runtime.any fun r => r.journal.isSome ||
    match r.start with
    | .recover .. | .snapshot .. | .writeJournal _ | .apply .. => true
    | _ => false

/-- The guard looks at the setting, or `Restore` does not write it. -/
def watches (key : Key) : Bool := decide (key ∈ comparedKeys key.owner) || !key.restored

/-- `recoverJournal` finds settings that match the endpoint of the journal, or has nothing to write,
    and no error of reading a setting that the guard does not look at is dropped. While a journal is in
    play, others change no setting between the guard and the last write, and at other times none that
    `Restore` writes and the guard does not look at; and what they set reads as it is. -/
def undisturbed (s : Desktop) : Label → Bool
  | .change key value =>
    !s.inPlay || watches key && decide (clean key value = value) && !s.restoring
  | .runStart attempt =>
    match s.runtime with
    | none => true
    | some r =>
      match r.start, s.file with
      | .readJournal, some journal =>
        decide (r.backend = .unsupported) || matched r.backend s.settings journal.applied
      | .snapshot _ _ ((_, key) :: _), _ =>
        attempt.isNone || decide (r.backend ≠ .windows) || decide (key ∈ comparedKeys .windows)
      | _, _ => true
  | _ => true

variable {s s' : Desktop} {l : Label} {r : Runtime} {backend : Backend} {journal : Journal}
  {settings left : Settings} {attempt : Option Err} {c : Command Key (List Char) Err}
  {rest : Commands} {fresh : Bool}

/-! ## What the guard gives -/

/-- Two settings differ only in what the guard looks at or `Restore` does not write, and there the
    first ones read as they are. -/
def Unseen (settings left : Settings) : Prop :=
  ∀ key, settings key ≠ left key → watches key = true ∧ get settings key = settings key

/-- `Restore` may write: the settings match, if it has not begun, and all it writes is intact. -/
def MayRestore (backend : Backend) (journal : Journal) (settings left : Settings) (rest : Commands)
    (fresh : Bool) : Prop :=
  rest ≠ [] →
    (fresh = true → matched backend settings journal.applied = true) ∧
      ∀ key, key.owner = backend → key.restored = true → Intact backend journal settings left key

theorem mayRestore_of_matched (hunseen : Unseen settings left)
    (hpaired : Endpoint.Paired journal.applied)
    (h : matched backend settings journal.applied = true) :
    MayRestore backend journal settings left rest fresh := by
  intro _
  refine ⟨fun _ => h, fun key howner hrestored => ?_⟩
  by_cases hsame : settings key = left key
  · exact .inl hsame
  · obtain ⟨hwatches, hplain⟩ := hunseen key hsame
    have hcompared : key ∈ comparedKeys backend := by
      simpa [watches, howner, hrestored] using hwatches
    obtain ⟨hhttps, haddress⟩ := hpaired
    obtain ⟨⟨host, port⟩, hsplit⟩ := Option.isSome_iff_exists.1 haddress
    have hne : journal.applied.http ≠ [] := by
      intro hnil
      rw [hnil] at hsplit
      cases hsplit
    have hendpoint : splitEndpoint journal.applied.http = some (host, port) := by
      rw [splitEndpoint, if_neg hne, hsplit]
    have hassigned := assigned_of_matched hhttps hendpoint h hcompared
    rw [hplain] at hassigned
    exact .inr hassigned

theorem Unseen.refl (settings : Settings) : Unseen settings settings := fun _ hne => absurd rfl hne

theorem Unseen.run (h : Unseen settings left) :
    Unseen (c.run refuses attempt settings) (c.run refuses attempt left) := by
  intro key hne
  obtain ⟨hsettings, hleft⟩ | hagree := c.run_agree refuses attempt settings left key
  · rw [hsettings, hleft] at hne
    rw [SystemProxy.get, hsettings]
    exact h key hne
  · exact absurd hagree hne

/-- A snapshot of settings that differ only there tells them so. -/
theorem Unseen.noted {seen : Settings} (h : Unseen settings seen) :
    Unseen settings (noted backend (snapshot backend seen) settings) := by
  intro key hne
  refine h key fun hsame => hne ?_
  rw [noted_snapshot, if_neg]
  rintro ⟨-, hget⟩
  exact hget (by rw [SystemProxy.get, SystemProxy.get, hsame])

/-- Others change a setting that the guard looks at. -/
theorem Unseen.update {key : Key} {value : List Char} (h : Unseen settings left)
    (hwatches : watches key = true) (hplain : clean key value = value) :
    Unseen (Function.update settings key value) left := by
  intro key' hne
  by_cases heq : key' = key
  · subst heq
    refine ⟨hwatches, ?_⟩
    rw [SystemProxy.get, Function.update_self]
    exact hplain
  · rw [Function.update_of_ne heq] at hne
    rw [SystemProxy.get, Function.update_of_ne heq]
    exact h key' hne

/-- What the program itself writes stays intact. -/
theorem MayRestore.run (h : MayRestore backend journal settings left (c :: rest) fresh) :
    MayRestore backend journal (c.run refuses attempt settings) (c.run refuses attempt left) rest
      false := by
  intro _
  refine ⟨nofun, fun key howner hrestored => ?_⟩
  obtain ⟨hsettings, hown⟩ | hagree := c.run_agree refuses attempt settings left key
  · unfold Intact
    rw [hsettings, hown]
    exact (h (by simp)).2 key howner hrestored
  · exact .inl hagree

theorem MayRestore.guarded (h : MayRestore backend journal s.settings s.left (c :: rest) fresh)
    (hlocal : Local backend c) :
    ∀ w ∈ s.restoreWrite backend journal fresh c attempt, w.Guarded := by
  intro w hw
  obtain ⟨hmatched, hintact⟩ := h (by simp)
  unfold restoreWrite at hw
  split at hw
  · next key value checked _ =>
    rw [List.mem_singleton] at hw
    subst hw
    obtain ⟨howner, hrestored⟩ := hlocal key value checked rfl
    exact ⟨hmatched, hintact key howner hrestored⟩
  · simp at hw

/-! ## The invariant -/

def StartWatched (settings left : Settings) (backend : Backend) : StartPhase → Prop
  | .recover journal rest fresh => MayRestore backend journal settings left rest fresh
  | .snapshot _ values rest => ∃ seen, Taken backend seen values rest ∧ Unseen settings seen
  | .writeJournal journal => ∃ seen, journal.before = snapshot backend seen ∧ Unseen settings seen
  | .apply .. => Unseen settings left
  | _ => True

def ShutdownWatched (settings left : Settings) (backend : Backend) : ShutdownPhase → Prop
  -- on Windows `Matches` does not look at the snapshot
  | .snapshot _ values rest =>
    backend ≠ .windows → values ++ read settings rest = snapshot backend settings
  | .compare _ values => backend ≠ .windows → values = snapshot backend settings
  | .restore journal rest fresh => MayRestore backend journal settings left rest fresh
  | _ => True

theorem startWatched_of_idle {phase : StartPhase} (h : phase.idle = true) :
    StartWatched settings left backend phase := by
  cases phase <;> trivial

theorem shutdownWatched_of_journal {phase : ShutdownPhase} (h : phase.journal = none) :
    ShutdownWatched settings left backend phase := by
  cases phase <;> trivial

structure Watched (s : Desktop) : Prop where
  wired : s.Wired
  file : s.file.isSome = true → Unseen s.settings s.left
  journal : ∀ r, s.runtime = some r → r.journal.isSome = true → Unseen s.settings s.left
  start : ∀ r, s.runtime = some r → StartWatched s.settings s.left r.backend r.start
  shutdown : ∀ r, s.runtime = some r → ShutdownWatched s.settings s.left r.backend r.shutdown
  guarded : s.Guarded

theorem watched_of_put (hwired : s.Wired) (hr : s.runtime = some r)
    (hfile : s.file.isSome = true → Unseen s.settings s.left)
    (hjournal : r.journal.isSome = true → Unseen s.settings s.left)
    (hstart : StartWatched s.settings s.left r.backend r.start)
    (hshutdown : ShutdownWatched s.settings s.left r.backend r.shutdown) (hguarded : s.Guarded) :
    s.Watched where
  wired := hwired
  file := hfile
  journal := forall_runtime hr hjournal
  start := forall_runtime hr hstart
  shutdown := forall_runtime hr hshutdown
  guarded := hguarded

/-- The invariant behind a step of `Start`, with no journal in hand. -/
theorem watched_of_start (hwired : s.Wired) (hr : s.runtime = some r) (hnone : r.journal = none)
    (hfile : s.file.isSome = true → Unseen s.settings s.left)
    (hstart : StartWatched s.settings s.left r.backend r.start) (hguarded : s.Guarded) : s.Watched :=
  watched_of_put hwired hr hfile (by simp [hnone]) hstart
    (shutdownWatched_of_journal ((hwired.runtime r hr).shutdown_journal hnone)) hguarded

/-! ## Each step keeps it -/

/-- With no journal in play others may change what they like. -/
theorem Watched.change_idle (h : s.Watched) {settings' : Settings} (hidle : s.inPlay = false)
    (hwired : Wired { s with settings := settings' }) : Watched { s with settings := settings' } := by
  simp only [inPlay, Bool.or_eq_false_iff] at hidle
  obtain ⟨hfile, hruntime⟩ := hidle
  cases hr : s.runtime with
  | none =>
    rw [hr] at hwired
    exact ⟨hwired, by simp [hfile], by simp, by simp, by simp, h.guarded⟩
  | some r =>
    rw [hr] at hwired
    simp only [hr, Option.any_some, Bool.or_eq_false_iff] at hruntime
    obtain ⟨hjournal, hstart⟩ := hruntime
    refine watched_of_start hwired rfl (by simpa using hjournal) (by simp [hfile]) ?_ h.guarded
    generalize r.start = phase at hstart
    cases phase with
    | recover | snapshot | writeJournal | apply => cases hstart
    | _ => trivial

theorem Watched.change (h : s.Watched) {key : Key} {value : List Char}
    (hok : s.undisturbed (.change key value) = true)
    (hwired : Wired { s with settings := Function.update s.settings key value }) :
    Watched { s with settings := Function.update s.settings key value } := by
  simp only [undisturbed, Bool.or_eq_true, Bool.and_eq_true, decide_eq_true_eq,
    Bool.not_eq_true'] at hok
  rcases hok with hidle | ⟨⟨hwatches, hplain⟩, hrestoring⟩
  · exact h.change_idle hidle hwired
  · refine ⟨hwired, fun hfile => (h.file hfile).update hwatches hplain,
      fun r hr hjournal => (h.journal r hr hjournal).update hwatches hplain, ?_, ?_, h.guarded⟩
    · intro r hr
      have hr' : s.runtime = some r := hr
      have hwatched := h.start r hr'
      simp only [restoring, hr', Bool.or_eq_false_iff] at hrestoring
      obtain ⟨hstart, -⟩ := hrestoring
      generalize r.start = phase at hstart hwatched
      cases phase with
      | recover => cases hstart
      | snapshot endpoint values rest =>
        obtain ⟨seen, htaken, hseen⟩ := hwatched
        exact ⟨seen, htaken, hseen.update hwatches hplain⟩
      | writeJournal journal =>
        obtain ⟨seen, hbefore, hseen⟩ := hwatched
        exact ⟨seen, hbefore, hseen.update hwatches hplain⟩
      | apply => exact Unseen.update hwatched hwatches hplain
      | _ => trivial
    · intro r hr
      have hr' : s.runtime = some r := hr
      simp only [restoring, hr', Bool.or_eq_false_iff] at hrestoring
      obtain ⟨-, hshutdown⟩ := hrestoring
      generalize r.shutdown = phase at hshutdown
      cases phase with
      | snapshot | compare | restore => cases hshutdown
      | _ => trivial

theorem Watched.startMove (h : s.Watched) (hr : s.runtime = some r) {phase : StartPhase}
    (hok : s.undisturbed (.runStart attempt) = true) (hmove : StartMoves s r attempt r.start phase) :
    StartWatched s.settings s.left r.backend phase := by
  have hstart := h.start r hr
  generalize hphase : r.start = before at hmove hstart
  cases hmove with
  | returned | absent | recovered => trivial
  | @read endpoint values key value field rest hvalue =>
    obtain ⟨seen, htaken, hseen⟩ := hstart
    -- what is read now may differ from the setting only where the guard looks at it
    have hread : ∀ settings' : Settings, (settings' key ≠ s.settings key → watches key = true ∧
        get s.settings key = s.settings key) →
        Unseen s.settings (Function.update seen key (settings' key)) := by
      intro settings' hkey key' hne
      by_cases heq : key' = key
      · subst heq
        rw [Function.update_self] at hne
        exact hkey hne.symm
      · rw [Function.update_of_ne heq] at hne
        exact hseen key' hne
    rcases readField_ok hvalue with rfl | ⟨hfailed, hwindows, rfl⟩
    · exact ⟨_, htaken.read, hread s.settings fun hne => absurd rfl hne⟩
    · refine ⟨_, htaken.read, hread (fun _ => []) fun hne => ?_⟩
      have hcompared : key ∈ comparedKeys .windows := by
        simpa [undisturbed, hr, hphase, hwindows, hfailed] using hok
      simp only [comparedKeys, List.mem_cons, List.not_mem_nil, or_false] at hcompared
      rcases hcompared with rfl | rfl | rfl
      · exact ⟨rfl, if_neg hne.symm⟩
      · exact ⟨rfl, rfl⟩
      · exact ⟨rfl, rfl⟩
  | taken endpoint values =>
    obtain ⟨seen, htaken, hseen⟩ := hstart
    exact ⟨seen, htaken.snapshot, hseen⟩
  | @recover journal hfile =>
    simp only [undisturbed, hr, hfile, hphase, Bool.or_eq_true, decide_eq_true_eq] at hok
    rcases hok with hunsupported | hmatched
    · intro hne
      rw [hunsupported] at hne
      exact absurd rfl hne
    · exact mayRestore_of_matched (h.file (by simp [hfile])) (h.wired.file journal hfile) hmatched

theorem Watched.shutdownMove (h : s.Watched) (hr : s.runtime = some r) {phase : ShutdownPhase}
    (hmove : ShutdownMoves s r attempt r.shutdown phase) :
    ShutdownWatched s.settings s.left r.backend phase := by
  have hshutdown := h.shutdown r hr
  have hheld := (h.wired.runtime r hr).held
  generalize r.shutdown = before at hmove hshutdown hheld
  cases hmove with
  | returned => trivial
  | begin => exact fun _ => rfl
  | read journal field rest hvalue =>
    intro hlinux
    rcases readField_ok hvalue with rfl | ⟨-, hwindows, -⟩
    · rw [← hshutdown hlinux, List.append_assoc]
      rfl
    · exact absurd hwindows hlinux
  | taken journal values =>
    intro hlinux
    rw [← hshutdown hlinux]
    exact (List.append_nil values).symm
  | @agreed journal values hmatches =>
    have hmatched : matched r.backend s.settings journal.applied = true := by
      by_cases hwindows : r.backend = .windows
      · rw [hwindows] at hmatches ⊢
        rw [matched, show matchesEndpoint .windows s.settings (snapshot .windows s.settings)
          journal.applied = .ok true from hmatches]
      · rw [hshutdown hwindows] at hmatches
        rw [matched, hmatches]
    have hjournal := hheld journal rfl
    have hpaired := (h.wired.runtime r hr).journal journal hjournal
    exact mayRestore_of_matched (h.journal r hr (by simp [hjournal])) hpaired hmatched
  | restored => trivial

theorem Watched.guarded_command (h : s.Watched)
    (hmay : MayRestore backend journal s.settings s.left (c :: rest) fresh)
    (hlocal : Local backend c) :
    (s.restoreCommand backend journal fresh c attempt).Guarded := by
  intro w hw
  rcases List.mem_append.1 hw with hw | hw
  · exact h.guarded w hw
  · exact hmay.guarded hlocal w hw

theorem Watched.steps (h : s.Watched) (hok : s.undisturbed l = true) (hstep : Steps s l s') :
    s'.Watched := by
  have hwired' := h.wired.steps hstep
  cases hstep with
  | launch => exact watched_of_start hwired' rfl rfl h.file trivial h.guarded
  | exit => exact ⟨hwired', h.file, by simp, by simp, by simp, h.guarded⟩
  | change key value => exact h.change hok hwired'
  | refused => exact h
  | call hr hstarted =>
    have hjournal := (h.wired.runtime _ hr).journal_of_not_started hstarted
    exact watched_of_start hwired' rfl hjournal h.file trivial h.guarded
  | startMove hr hidle hmove =>
    have hjournal := (h.wired.runtime _ hr).journal_eq_none hidle
    exact watched_of_start hwired' rfl hjournal h.file (h.startMove hr hok hmove) h.guarded
  | connect hr hphase =>
    have hjournal := h.wired.busy hr hphase rfl
    exact watched_of_start hwired' rfl hjournal h.file trivial h.guarded
  | removeRecovered hr hphase =>
    have hjournal := h.wired.busy hr hphase rfl
    exact watched_of_start hwired' rfl hjournal nofun trivial h.guarded
  | removeApplied hr hphase hfile =>
    have hjournal := h.wired.busy hr hphase rfl
    refine watched_of_start hwired' rfl hjournal ?_ trivial h.guarded
    rcases hfile with rfl | rfl
    · exact nofun
    · exact h.file
  | @applied r attempt journal hr hphase =>
    have hstart := h.start r hr
    rw [hphase] at hstart
    exact watched_of_put hwired' rfl h.file (fun _ => hstart) trivial (h.shutdown r hr) h.guarded
  | listen hr hphase haddress =>
    have hjournal := h.wired.busy hr hphase rfl
    exact watched_of_start hwired' rfl hjournal h.file
      ⟨s.settings, taken_nil _ _, Unseen.refl _⟩ h.guarded
  | recover hr hphase hnext =>
    have hstart := h.start _ hr
    have hwithin := (h.wired.runtime _ hr).start
    rw [hphase] at hstart hwithin
    have hjournal := h.wired.busy hr hphase rfl
    refine watched_of_start hwired' rfl hjournal (fun hfile => (h.file hfile).run) ?_
      (h.guarded_command hstart (local_of_restore hwithin))
    obtain ⟨-, rfl⟩ | ⟨-, err, rfl⟩ := hnext
    · exact MayRestore.run hstart
    · trivial
  | @writeJournal r attempt journal hr hphase =>
    have hstart := h.start r hr
    rw [hphase] at hstart
    obtain ⟨seen, hbefore, hseen⟩ := hstart
    have hjournal := h.wired.busy hr hphase rfl
    have hnote : Unseen (s.note r.backend journal.before).settings
        (s.note r.backend journal.before).left := by
      rw [note_settings, note_left, hbefore]
      exact hseen.noted
    have hguarded : Guarded (s.note r.backend journal.before) := by
      unfold Guarded
      rw [note_restores]
      exact h.guarded
    exact watched_of_start hwired' rfl hjournal (fun _ => hnote) hnote hguarded
  | apply hr hphase hnext =>
    have hstart := h.start _ hr
    rw [hphase] at hstart
    have hjournal := h.wired.busy hr hphase rfl
    refine watched_of_start hwired' rfl hjournal (fun hfile => (h.file hfile).run) ?_ h.guarded
    obtain ⟨-, rfl⟩ | ⟨err, -, rfl⟩ := hnext
    · exact Unseen.run hstart
    · trivial
  | @close r hr =>
    exact watched_of_put hwired' rfl h.file (h.journal r hr) (h.start r hr) trivial h.guarded
  | @shutdownMove r attempt phase hr hmove =>
    exact watched_of_put hwired' rfl h.file (h.journal r hr) (h.start r hr) (h.shutdownMove hr hmove)
      h.guarded
  | restore hr hphase hnext =>
    have hshutdown := h.shutdown _ hr
    have hwithin := (h.wired.runtime _ hr).shutdown
    obtain ⟨hjournal, hidle⟩ := h.wired.over hr hphase rfl
    rw [hphase] at hshutdown hwithin
    refine watched_of_put hwired' rfl (fun hfile => (h.file hfile).run)
      (fun hsome => (h.journal _ hr hsome).run) (startWatched_of_idle hidle) ?_
      (h.guarded_command hshutdown (local_of_restore hwithin))
    obtain ⟨-, rfl⟩ | ⟨-, err, rfl⟩ := hnext
    · exact MayRestore.run hshutdown
    · trivial
  | removeJournal hr hphase =>
    have hidle := (h.wired.over hr hphase rfl).2
    exact watched_of_put hwired' rfl nofun nofun (startWatched_of_idle hidle) trivial h.guarded

/-- Others put a blank behind the value that the guard looks at. -/
def changedBlank : List Label :=
  upToJournal .kde ++ List.replicate 4 (.runStart none) ++
    [.change .kdeHTTPProxy "127.0.0.1:4000 ".toList, .shutdown] ++ List.replicate 15 (.runShutdown none)

end Desktop

end LnProxy.Client
