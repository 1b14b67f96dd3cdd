import LnProxy.Lib.Transition
import LnProxy.Link.Basic
import LnProxy.Node.Registry

set_option autoImplicit false

/-! # How an exit enrolls (`Server.handleExit`, `waitForRegistration`)

`handleExit` starts the session, and with it the read loop, before `waitForRegistration` installs the
first control handler. Until then a control frame has nowhere to go and shuts the session down. Here
the goroutine of `handleExit` and the session's own goroutines run side by side; the exit is well
behaved: it sends one `FrameRegister` and then heartbeats (`Enrollment.wellBehaved`). Its enrollment
succeeds as long as the handler is installed before the first frame is handled and the timer of
`waitForRegistration` does not end first (`Enrollment.inTime`). -/

namespace LnProxy

open Protocol Transition

/-! ## State -/

/-- Where `handleExit` stands. -/
inductive EnrollPhase where
  | starting
  /-- `Session.Start` has returned. -/
  | started
  /-- `waitForRegistration` has installed its handler and waits. -/
  | waiting
  /-- `waitForRegistration` has returned the registration. -/
  | registered (registration : ExitRegistration)
  /-- The handler for heartbeats is installed. -/
  | serving (registration : ExitRegistration)
  /-- `waitForRegistration` has returned an error. -/
  | failed
  deriving DecidableEq, Repr

structure Enrollment where
  session : Session
  phase : EnrollPhase
  registrationCh : Chan ExitRegistration
  errCh : Chan String

namespace Enrollment

def new : Enrollment where
  session := Session.new 0
  phase := .starting
  registrationCh := Chan.make 1
  errCh := Chan.make 1

/-! ## Steps -/

inductive Label where
  /-- `Session.Start` -/
  | start
  /-- `waitForRegistration`: `SetControlHandler` -/
  | install
  /-- A goroutine of the session runs its next section. -/
  | session (t : Tid) (choice : Choice)
  /-- `select`: the registration. -/
  | receive
  /-- `select`: the error of decoding it. -/
  | receiveErr
  /-- `select`: ten seconds are over. -/
  | timeout
  /-- `select`: the session has ended. -/
  | done
  /-- The handler for heartbeats is installed. -/
  | serve
  /-- `sess.Close()` after a failure. -/
  | close
  deriving DecidableEq, Repr

/-- `JSON` at the payload of a `FrameRegister`. -/
abbrev Decoder := Bytes → Except String ExitRegistration

/-- The body of the handler that `waitForRegistration` installs. Both channels hold one value, and a
    send to a full channel is dropped. -/
def onControl (decode : Decoder) (e : Enrollment) : ControlHandler × Frame → Enrollment
  | (.registration, frame) =>
    if frame.type = frameRegister then
      match decode frame.payload with
      | .error cause => { e with errCh := if e.errCh.full then e.errCh else e.errCh.push cause }
      | .ok registration =>
        { e with
          registrationCh := if e.registrationCh.full then e.registrationCh
            else e.registrationCh.push registration }
    else e
  | _ => e

/-- The session goes on to `s`; the control handlers called on the way run. -/
def advance (decode : Decoder) (e : Enrollment) (s : Session) : Enrollment :=
  (s.controlCalls.drop e.session.controlCalls.length).foldl (onControl decode)
    { e with session := s }

def step (json : Codec) (decode : Decoder) (e : Enrollment) : Label → Option Enrollment
  | .start =>
    if e.phase = .starting then
      (e.session.step json (.call (.user 0) (.start true))).map fun s =>
        { e with session := s, phase := .started }
    else none
  | .install =>
    if e.phase = .started then
      (e.session.step json (.call (.user 0) (.setControlHandler .registration))).map fun s =>
        { e with session := s, phase := .waiting }
    else none
  | .session t choice => (e.session.step json (.run t choice)).map (e.advance decode)
  | .receive =>
    match e.phase, e.registrationCh.buf with
    | .waiting, registration :: _ =>
      some { e with phase := .registered registration, registrationCh := e.registrationCh.pop }
    | _, _ => none
  | .receiveErr =>
    match e.phase, e.errCh.buf with
    | .waiting, _ :: _ => some { e with phase := .failed, errCh := e.errCh.pop }
    | _, _ => none
  | .timeout => if e.phase = .waiting then some { e with phase := .failed } else none
  | .done =>
    if e.phase = .waiting ∧ e.session.done then some { e with phase := .failed } else none
  | .serve =>
    match e.phase with
    | .registered registration =>
      (e.session.step json (.call (.user 0) (.setControlHandler .heartbeat))).map fun s =>
        { e with session := s, phase := .serving registration }
    | _ => none
  | .close =>
    if e.phase = .failed then
      (e.session.step json (.call (.user 0) .close)).map fun s => { e with session := s }
    else none

/-! ## Conditions -/

/-- The exit stays connected and sends a registration that can be decoded, then heartbeats. -/
def wellBehaved (decode : Decoder) (e : Enrollment) : Label → Bool
  | .session .readLoop (.frame frame) =>
    if e.session.taken = [] then
      decide (frame.type = frameRegister) && (decode frame.payload).isOk
    else decide (frame.type = frameHeartbeat)
  | .session .readLoop (.readErr _) => false
  | _ => true

/-- No frame is handled before a handler is installed, and the timer does not end the wait. -/
def inTime (e : Enrollment) : Label → Bool
  | .session .readLoop .go =>
    match e.session.threads .readLoop with
    | .handle _ :: _ => decide (e.session.control ≠ none)
    | _ => true
  | .timeout => false
  | _ => true

/-! ## The result -/

/-- The enrollment is on its way: the session was not shut down because of a control frame, and a
    registration that was handled waits for `waitForRegistration` or has reached it. -/
structure Enrolls (decode : Decoder) (e : Enrollment) : Prop where
  unharmed : ∀ type, e.session.err ≠ some (.unexpectedControl type) ∧
    ∀ t, .shutdown (.unexpectedControl type) ∉ e.session.threads t
  delivered : ∀ frame ∈ e.session.frames, frame.type = frameRegister →
    ∀ registration, decode frame.payload = .ok registration →
      e.phase = .waiting ∧ e.registrationCh.buf = [registration] ∨
        e.phase = .registered registration ∨ e.phase = .serving registration

end Enrollment

/-! ## A session that has had only control frames -/

namespace Session

variable {json : Codec} {s s' : Session} {t : Tid} {c : Choice} {k : List Act} {f : Frame}

/-- Nothing runs in the session but its two loops, and nothing has come in for them but control
    frames. -/
structure Listening (s : Session) : Prop where
  wf : s.Wf
  isOpen : s.closed = false ∧ s.done = false ∧ s.err = none
  incoming : s.incoming.buf = []
  threads : ∀ t, ∀ a ∈ s.threads t,
    t = .readLoop ∧ (a = .readFrame ∨ ∃ f, a = .handle f) ∨ t = .dispatchLoop ∧ a = .dispatchLoop

theorem new_listening (bufferSize : Nat) : (Session.new bufferSize).Listening where
  wf := new_wf bufferSize
  isOpen := ⟨rfl, rfl, rfl⟩
  incoming := rfl
  threads := by simp [Session.new]

/-- What can run in a listening session. -/
theorem Listening.run_cases (hs : s.Listening) (h : s.step json (.run t c) = some s') :
    (∃ f k, t = .readLoop ∧ c = .frame f ∧ s.threads .readLoop = .readFrame :: k ∧
      s' = s.goto .readLoop (.handle f :: .readFrame :: k)) ∨
    (∃ err, t = .readLoop ∧ c = .readErr err) ∨
    ∃ f k s₁ acts, t = .readLoop ∧ c = .go ∧ s.threads .readLoop = .handle f :: k ∧
      Handled json s k f s₁ acts ∧ s' = s₁.goto .readLoop acts := by
  cases (step_steps h).2 with
  | @run t a k c s₁ acts hthread hran =>
    have hamem := mem_of_head hthread
    rcases hs.threads t a hamem with ⟨rfl, rfl | ⟨f, rfl⟩⟩ | ⟨rfl, rfl⟩
    · cases hran with
      | moves hmoves =>
        cases hmoves with
        | @frame f => exact Or.inl ⟨f, k, rfl, rfl, hthread, rfl⟩
        | @readErr err => exact Or.inr (Or.inl ⟨err, rfl, rfl⟩)
    · cases hran with
      | moves hmoves => cases hmoves
      | handle hhandled => exact Or.inr (Or.inr ⟨f, k, s₁, acts, rfl, rfl, hthread, hhandled, rfl⟩)
    · -- nothing is dispatched, and the session is open
      cases hran with
      | moves hmoves =>
        cases hmoves with
        | dispatchEnd hdone =>
          rw [hs.isOpen.2.1] at hdone
          cases hdone
      | dispatchHandler hbuf | dispatchDrop hbuf _ =>
        rw [hs.incoming] at hbuf
        cases hbuf

/-- A step that only moves the read loop leaves the session listening. -/
theorem Listening.of_readLoop (hs : s.Listening) (hw : s'.Wf)
    (hopen : s'.closed = s.closed ∧ s'.done = s.done ∧ s'.err = s.err)
    (hincoming : s'.incoming = s.incoming)
    (hothers : ∀ u, u ≠ .readLoop → s'.threads u = s.threads u)
    (hreadLoop : ∀ a ∈ s'.threads .readLoop, a = .readFrame ∨ ∃ f, a = .handle f) :
    s'.Listening where
  wf := hw
  isOpen := by
    obtain ⟨hclosed, hdone, herr⟩ := hopen
    rw [hclosed, hdone, herr]
    exact hs.isOpen
  incoming := by rw [hincoming]; exact hs.incoming
  threads u a ha := by
    by_cases hu : u = .readLoop
    · subst hu
      exact Or.inl ⟨rfl, hreadLoop a ha⟩
    · rw [hothers u hu] at ha
      exact hs.threads u a ha

theorem Listening.readLoop (hs : s.Listening) {a : Act} (ha : a ∈ s.threads .readLoop) :
    a = .readFrame ∨ ∃ f, a = .handle f := by
  rcases hs.threads _ a ha with ⟨-, h⟩ | ⟨h, -⟩
  · exact h
  · cases h

/-- A control frame goes to the handler. -/
theorem Handled.of_control {s₁ : Session} {acts : List Act} {handler : ControlHandler}
    (h : Handled json s k f s₁ acts) (hcontrol : s.control = some handler)
    (htype : f.type = frameRegister ∨ f.type = frameHeartbeat) :
    s₁ = { s.note f none with controlCalls := s.controlCalls ++ [(handler, f)] } ∧ acts = k := by
  have hne : ∀ type : FrameType, type = frameOpen ∨ type = frameOpenAck ∨ type = frameData ∨
      type = frameClose ∨ type = frameError → f.type ≠ type := by
    rintro type htypes rfl
    rcases htype with htype | htype <;> rw [htype] at htypes <;> revert htypes <;> decide
  cases h with
  | control hsome _ _ _ =>
    rw [hcontrol, Option.some.injEq] at hsome
    rw [hsome]
    exact ⟨rfl, rfl⟩
  | unexpectedControl hnone _ _ _ =>
    rw [hcontrol] at hnone
    cases hnone
  | unknown htypes _ => exact absurd rfl (hne _ (by rcases htypes with h | h | h <;> simp [h]))
  | openInvalid h _ | openClosed h _ _ | openNew h _ _ | ackInvalid h | ack h _ | unknownData h _
  | data h _ | close h _ | error h _ => exact absurd rfl (hne _ (by simp [h]))

end Session

namespace Enrollment

variable {json : Codec} {decode : Decoder} {e e' : Enrollment} {l : Label}

/-! ## The invariant -/

/-- The registrations in a list of frames. -/
def registrations (decode : Decoder) (frames : List Frame) : List ExitRegistration :=
  frames.filterMap fun f => if f.type = frameRegister then (decode f.payload).toOption else none

/-- The exit's frames: nothing yet, or a registration and then heartbeats. -/
def Script (decode : Decoder) (frames : List Frame) : Prop :=
  frames = [] ∨ ∃ f fs registration, frames = f :: fs ∧ f.type = frameRegister ∧
    decode f.payload = .ok registration ∧ ∀ g ∈ fs, g.type = frameHeartbeat

/-- What holds in each phase. -/
def PhaseOk (decode : Decoder) (e : Enrollment) : Prop :=
  match e.phase with
  | .starting =>
    e.session.started = false ∧ e.session.frames = [] ∧ e.session.control = none ∧
      e.registrationCh.buf = []
  | .started => e.session.frames = [] ∧ e.session.control = none ∧ e.registrationCh.buf = []
  | .waiting =>
    e.session.control = some .registration ∧
      e.registrationCh.buf = registrations decode e.session.frames
  | .registered registration | .serving registration =>
    e.session.control ≠ none ∧ registrations decode e.session.frames = [registration]
  | .failed => False

structure Inv (decode : Decoder) (e : Enrollment) : Prop where
  session : e.session.Listening
  script : Script decode e.session.taken
  phase : e.PhaseOk decode
  errCh : e.errCh.buf = []
  cap : e.registrationCh.cap = 1

theorem new_inv (decode : Decoder) : Enrollment.new.Inv decode where
  session := Session.new_listening 0
  script := Or.inl rfl
  phase := ⟨rfl, rfl, rfl, rfl⟩
  errCh := rfl
  cap := rfl

/-! ## Preservation -/

theorem advance_of_eq {s : Session} (h : s.controlCalls = e.session.controlCalls) :
    e.advance decode s = { e with session := s } := by
  simp [advance, h]

theorem advance_of_concat {s : Session} {call : ControlHandler × Frame}
    (h : s.controlCalls = e.session.controlCalls ++ [call]) :
    e.advance decode s = onControl decode { e with session := s } call := by
  simp [advance, h]

theorem registrations_concat (frames : List Frame) (f : Frame) :
    registrations decode (frames ++ [f]) = registrations decode frames ++
      registrations decode [f] := List.filterMap_append

theorem registrations_heartbeat {f : Frame} (h : f.type = frameHeartbeat) :
    registrations decode [f] = [] := by
  simp [registrations, h, frameHeartbeat, frameRegister]

/-- The last frame of the script is its registration, or there is one before it. -/
theorem Script.last {frames : List Frame} {f : Frame} (h : Script decode (frames ++ [f])) :
    frames = [] ∧ f.type = frameRegister ∧ (∃ registration, decode f.payload = .ok registration) ∨
      f.type = frameHeartbeat := by
  rcases h with hnil | ⟨g, gs, registration, heq, htype, hdecode, hrest⟩
  · simp at hnil
  · cases frames with
    | nil =>
      simp only [List.nil_append, List.cons.injEq] at heq
      obtain ⟨rfl, -⟩ := heq
      exact Or.inl ⟨rfl, htype, registration, hdecode⟩
    | cons x xs =>
      simp only [List.cons_append, List.cons.injEq] at heq
      exact Or.inr (hrest f (heq.2 ▸ by simp))

/-- The read loop takes the next frame. -/
theorem Inv.take (hinv : e.Inv decode) {f : Frame} {k : List Act} {s : Session}
    (hstep : e.session.step json (.run .readLoop (.frame f)) = some s)
    (hthread : e.session.threads .readLoop = .readFrame :: k)
    (heq : s = e.session.goto .readLoop (.handle f :: .readFrame :: k))
    (hok : e.wellBehaved decode (.session .readLoop (.frame f)) = true) :
    (e.advance decode s).Inv decode := by
  have hsteps := (Session.step_steps hstep).2
  have htaken := Session.taken_steps hinv.session.wf hsteps
  rw [advance_of_eq (by rw [heq]; rfl)]
  refine ⟨?_, ?_, ?_, hinv.errCh, hinv.cap⟩
  · refine hinv.session.of_readLoop (hinv.session.wf.steps hsteps) ?_ ?_ ?_ ?_
    · rw [heq]; exact ⟨rfl, rfl, rfl⟩
    · rw [heq]; rfl
    · intro u hu
      rw [heq, Session.goto_threads_of_ne _ _ hu]
    · intro a ha
      rw [heq, Session.goto_threads_self] at ha
      simp only [List.mem_cons] at ha
      rcases ha with rfl | rfl | ha
      · exact Or.inr ⟨f, rfl⟩
      · exact Or.inl rfl
      · exact hinv.session.readLoop (Session.mem_of_tail hthread ha)
  · show Script decode s.taken
    rw [htaken]
    simp only [wellBehaved] at hok
    rcases hinv.script with hnil | ⟨g, gs, registration, hg, htype, hdecode, hrest⟩
    · rw [if_pos hnil, Bool.and_eq_true, decide_eq_true_eq] at hok
      cases hdecode : decode f.payload with
      | error cause => rw [hdecode] at hok; cases hok.2
      | ok registration =>
        exact Or.inr ⟨f, [], registration, by rw [hnil]; rfl, hok.1, hdecode, by simp⟩
    · rw [if_neg (by simp [hg]), decide_eq_true_eq] at hok
      refine Or.inr ⟨g, gs ++ [f], registration, by rw [hg]; rfl, htype, hdecode, ?_⟩
      intro x hx
      rcases List.mem_append.1 hx with hx | hx
      · exact hrest x hx
      · rw [List.mem_singleton.1 hx]
        exact hok
  · have hphase := hinv.phase
    have hstarted : s.started = e.session.started := by rw [heq]; rfl
    have hframes : s.frames = e.session.frames := by rw [heq]; rfl
    have hcontrol : s.control = e.session.control := by rw [heq]; rfl
    unfold PhaseOk at hphase ⊢
    simpa only [hstarted, hframes, hcontrol] using hphase

/-- The read loop hands a frame to the handler. -/
theorem Inv.handle (hinv : e.Inv decode) {f : Frame} {k acts : List Act} {s s₁ : Session}
    (hstep : e.session.step json (.run .readLoop .go) = some s)
    (hthread : e.session.threads .readLoop = .handle f :: k)
    (hhandled : Session.Handled json e.session k f s₁ acts) (heq : s = s₁.goto .readLoop acts)
    (hok : e.inTime (.session .readLoop .go) = true) : (e.advance decode s).Inv decode := by
  have hsteps := (Session.step_steps hstep).2
  have htaken := Session.taken_steps hinv.session.wf hsteps
  have hscript := hinv.script
  rw [Session.taken_of_handle hthread] at hscript
  simp only [inTime, hthread, decide_eq_true_eq] at hok
  obtain ⟨handler, hcontrol⟩ := Option.ne_none_iff_exists'.1 hok
  obtain ⟨rfl, rfl⟩ := hhandled.of_control hcontrol
    (hscript.last.elim (fun h => Or.inl h.2.1) Or.inr)
  have hframes : s.frames = e.session.frames ++ [f] := by
    rw [heq]
    simp [Session.frames, Session.note]
  rw [@advance_of_concat _ _ _ (handler, f) (by rw [heq]; rfl)]
  have hlistening : s.Listening := by
    refine hinv.session.of_readLoop (hinv.session.wf.steps hsteps) ?_ ?_ ?_ ?_
    · rw [heq]; exact ⟨rfl, rfl, rfl⟩
    · rw [heq]; rfl
    · intro u hu
      rw [heq, Session.goto_threads_of_ne _ _ hu]
      rfl
    · intro a ha
      rw [heq, Session.goto_threads_self] at ha
      exact hinv.session.readLoop (Session.mem_of_tail hthread ha)
  have hscript' : Script decode s.taken := by
    rw [htaken]
    simpa [Label.reads] using hinv.script
  have hcontrol' : s.control = some handler := by rw [heq]; exact hcontrol
  have hphase := hinv.phase
  unfold PhaseOk at hphase
  rcases hscript.last with ⟨hnil, htype, registration, hdecode⟩ | htype
  · -- the registration comes first, so it finds the channel empty
    have hwaiting : e.phase = .waiting ∧ handler = .registration ∧ e.registrationCh.buf = [] := by
      rw [hnil, hcontrol] at hphase
      cases hp : e.phase with
      | waiting =>
        simp only [hp, Option.some.injEq] at hphase
        exact ⟨rfl, hphase.1, hphase.2⟩
      | _ => simp [hp, registrations] at hphase
    obtain ⟨hp, rfl, hbuf⟩ := hwaiting
    have hroom : e.registrationCh.full = false := by
      rw [Chan.full_eq_false, hbuf, hinv.cap]
      exact Nat.zero_lt_one
    have hcall : onControl decode { e with session := s } (.registration, f) =
        { e with session := s, registrationCh := e.registrationCh.push registration } := by
      simp [onControl, htype, hdecode, hroom]
    rw [hcall]
    refine ⟨hlistening, hscript', ?_, hinv.errCh, by simpa using hinv.cap⟩
    simp only [PhaseOk, hp, hcontrol', hframes, hnil, Chan.push_buf hroom, hbuf, true_and]
    simp [registrations, htype, hdecode, Except.toOption]
  · -- heartbeats change nothing here
    have hcall : onControl decode { e with session := s } (handler, f) = { e with session := s } := by
      cases handler <;> simp [onControl, htype, frameHeartbeat, frameRegister]
    have hregs : registrations decode s.frames = registrations decode e.session.frames := by
      rw [hframes, registrations_concat, registrations_heartbeat htype, List.append_nil]
    rw [hcall]
    refine ⟨hlistening, hscript', ?_, hinv.errCh, hinv.cap⟩
    unfold PhaseOk
    cases hp : e.phase with
    | starting => simp [hp, hcontrol] at hphase
    | started => simp [hp, hcontrol] at hphase
    | failed => simp [hp] at hphase
    | _ => simpa [hp, hregs, hcontrol, hcontrol'] using hphase

/-- A call of `SetControlHandler` leaves the session listening. -/
theorem setControlHandler_cases {handler : ControlHandler} {s s' : Session}
    (hs : s.Listening)
    (h : s.step json (.call (.user 0) (.setControlHandler handler)) = some s') :
    s' = { s with control := some handler } ∧ s'.Listening := by
  have hsteps := (Session.step_steps h).2
  cases hsteps with
  | call hcalls hidle hcalled =>
    cases hcalled with
    | setControlHandler =>
      have heq : ({ s with control := some handler }.goto (.user 0) [] : Session) =
          { s with control := some handler } := by
        rw [Session.goto, ← hidle]
        simp
      refine ⟨heq, ?_⟩
      rw [heq]
      exact hs.of_readLoop (heq ▸ hs.wf.steps (Session.step_steps h).2) ⟨rfl, rfl, rfl⟩ rfl
        (fun _ _ => rfl) (fun a ha => hs.readLoop ha)

theorem start_cases {s s' : Session} (hs : s.Listening)
    (h : s.step json (.call (.user 0) (.start true)) = some s') :
    s'.Listening ∧ s'.frames = s.frames ∧ s'.control = s.control ∧ s'.taken = s.frames := by
  have hsteps := (Session.step_steps h).2
  have hw := hs.wf.steps hsteps
  cases hsteps with
  | call hcalls hidle hcalled =>
    cases hcalled with
    | startClosed hclosed =>
      rw [hs.isOpen.1] at hclosed
      cases hclosed
    | start hstarted =>
      refine ⟨⟨hw, hs.isOpen, hs.incoming, ?_⟩, rfl, rfl, ?_⟩
      · intro u a ha
        cases u with
        | readLoop =>
          simp [Session.goto] at ha
          exact Or.inl ⟨rfl, Or.inl ha⟩
        | dispatchLoop =>
          simp [Session.goto] at ha
          exact Or.inr ⟨rfl, ha⟩
        | user n =>
          by_cases hn : n = 0
          · simp [Session.goto, hn] at ha
          · exact hs.threads (.user n) a (by simpa [Session.goto, hn] using ha)
        | overflow r => exact hs.threads (.overflow r) a (by simpa [Session.goto] using ha)
        | writer r => exact hs.threads (.writer r) a (by simpa [Session.goto] using ha)
        | reader r => exact hs.threads (.reader r) a (by simpa [Session.goto] using ha)
      · exact Session.taken_of_no_handle (by simp [Session.goto])

/-- **A step in time keeps the enrollment on its way.** -/
theorem Inv.step (hinv : e.Inv decode) (hbehaved : e.wellBehaved decode l = true)
    (hok : e.inTime l = true) (hstep : e.step json decode l = some e') : e'.Inv decode := by
  have hphase := hinv.phase
  unfold PhaseOk at hphase
  cases l with
  | session t c =>
    simp only [Enrollment.step, Option.map_eq_some_iff] at hstep
    obtain ⟨s, hs, rfl⟩ := hstep
    rcases hinv.session.run_cases hs with ⟨f, k, rfl, rfl, hthread, heq⟩ | ⟨err, rfl, rfl⟩ |
      ⟨f, k, s₁, acts, rfl, rfl, hthread, hhandled, heq⟩
    · exact hinv.take hs hthread heq hbehaved
    · cases hbehaved
    · exact hinv.handle hs hthread hhandled heq hok
  | start =>
    simp only [Enrollment.step, Option.ite_none_right_eq_some, Option.map_eq_some_iff] at hstep
    obtain ⟨hp, s, hs, rfl⟩ := hstep
    simp only [hp] at hphase
    obtain ⟨hlistening, hframes, hcontrol, htaken⟩ := start_cases hinv.session hs
    refine ⟨hlistening, Or.inl (htaken.trans hphase.2.1), ?_, hinv.errCh, hinv.cap⟩
    exact ⟨hframes.trans hphase.2.1, hcontrol.trans hphase.2.2.1, hphase.2.2.2⟩
  | install =>
    simp only [Enrollment.step, Option.ite_none_right_eq_some, Option.map_eq_some_iff] at hstep
    obtain ⟨hp, s, hs, rfl⟩ := hstep
    simp only [hp] at hphase
    obtain ⟨rfl, hlistening⟩ := setControlHandler_cases hinv.session hs
    refine ⟨hlistening, hinv.script, ⟨rfl, ?_⟩, hinv.errCh, hinv.cap⟩
    rw [hphase.2.2]
    show [] = registrations decode e.session.frames
    rw [hphase.1]
    rfl
  | receive =>
    simp only [Enrollment.step] at hstep
    split at hstep
    · next registration rest hp hbuf =>
      cases hstep
      simp only [hp] at hphase
      refine ⟨hinv.session, hinv.script, ⟨by simp [hphase.1], ?_⟩, hinv.errCh, hinv.cap⟩
      -- the channel holds one value at most
      have hone := e.registrationCh.within
      rw [hinv.cap, hbuf] at hone
      have hrest : rest = [] := List.eq_nil_of_length_eq_zero (by simpa using hone)
      rw [← hphase.2, hbuf, hrest]
    · cases hstep
  | receiveErr =>
    simp only [Enrollment.step, hinv.errCh] at hstep
    split at hstep <;> cases hstep
    next hcons => cases hcons
  | timeout => cases hok
  | done =>
    simp only [Enrollment.step, hinv.session.isOpen.2.1, Option.ite_none_right_eq_some] at hstep
    cases hstep.1.2
  | serve =>
    simp only [Enrollment.step] at hstep
    split at hstep
    · next registration hp =>
      obtain ⟨s, hs, rfl⟩ := Option.map_eq_some_iff.1 hstep
      simp only [hp] at hphase
      obtain ⟨rfl, hlistening⟩ := setControlHandler_cases hinv.session hs
      exact ⟨hlistening, hinv.script, ⟨by simp, hphase.2⟩, hinv.errCh, hinv.cap⟩
    · cases hstep
  | close =>
    simp only [Enrollment.step, Option.ite_none_right_eq_some] at hstep
    simp [hstep.1] at hphase

theorem Inv.enrolls (hinv : e.Inv decode) : e.Enrolls decode where
  unharmed type := by
    refine ⟨by simp [hinv.session.isOpen.2.2], fun t hmem => ?_⟩
    rcases hinv.session.threads t _ hmem with ⟨-, h | ⟨f, h⟩⟩ | ⟨-, h⟩ <;> cases h
  delivered frame hframe htype registration hdecode := by
    have hmem : registration ∈ registrations decode e.session.frames :=
      List.mem_filterMap.2 ⟨frame, hframe, by simp [htype, hdecode, Except.toOption]⟩
    have hphase := hinv.phase
    unfold PhaseOk at hphase
    cases hp : e.phase with
    | starting =>
      simp only [hp] at hphase
      rw [hphase.2.1] at hmem
      cases hmem
    | started =>
      simp only [hp] at hphase
      rw [hphase.1] at hmem
      cases hmem
    | waiting =>
      -- the channel holds one value at most
      simp only [hp] at hphase
      rw [← hphase.2] at hmem
      obtain ⟨rest, hrest⟩ := List.length_eq_one_iff.1
        (Nat.le_antisymm (hinv.cap ▸ e.registrationCh.within) (List.length_pos_of_mem hmem))
      rw [hrest, List.mem_singleton] at hmem
      exact Or.inl ⟨rfl, by rw [hrest, hmem]⟩
    | registered r =>
      simp only [hp] at hphase
      rw [hphase.2, List.mem_singleton] at hmem
      exact Or.inr (Or.inl (by rw [hmem]))
    | serving r =>
      simp only [hp] at hphase
      rw [hphase.2, List.mem_singleton] at hmem
      exact Or.inr (Or.inr (by rw [hmem]))
    | failed => simp [hp] at hphase

/-- **Enrollment in time.** In every state of every run in which the exit is well behaved, a handler
    is installed before the first frame is handled and the timer does not end the wait, no control
    frame has shut the session down, and a registration that was handled has reached
    `waitForRegistration` or waits for it. -/
theorem enrolls_of_inTime {as : List Label}
    (hbehaved : Along (Enrollment.step json decode) (fun e l => e.wellBehaved decode l = true)
      Enrollment.new as)
    (hok : Along (Enrollment.step json decode) (fun e l => e.inTime l = true) Enrollment.new as)
    (hrun : exec (Enrollment.step json decode) Enrollment.new as = some e) : e.Enrolls decode := by
  have hinv : e.Inv decode := exec_invariant (Enrollment.Inv decode)
    (fun _ _ _ hinv hl hstep => hinv.step hl.1 hl.2 hstep) (new_inv decode) (hbehaved.and hok) hrun
  exact hinv.enrolls

/-! ## Two schedules -/

/-- A payload of one byte is the registration of the exit `home`. -/
def sampleDecoder : Decoder
  | [_] => .ok ⟨"home", "", 8, ["tcp"]⟩
  | _ => .error "unexpected end of JSON input"

def registerFrame : Frame := ⟨frameRegister, 0, [1]⟩

def enrolled : Enrollment :=
  after (Enrollment.step sampleCodec sampleDecoder) Enrollment.new
    [.start, .session .readLoop (.frame registerFrame), .install, .session .readLoop .go,
      .session .readLoop (.frame ⟨frameHeartbeat, 0, []⟩), .receive, .session .readLoop .go, .serve]

theorem enrolled_enrolls :
    enrolled.phase = .serving ⟨"home", "", 8, ["tcp"]⟩ ∧ enrolled.Enrolls sampleDecoder :=
  ⟨by decide +kernel,
    enrolls_of_inTime (by decide +kernel) (by decide +kernel) (exec_after (by decide +kernel))⟩

/-- The registration is handled before `waitForRegistration` has installed its handler. -/
def tooEarly : List Label :=
  [.start, .session .readLoop (.frame registerFrame), .session .readLoop .go,
    .session .readLoop .go, .session .readLoop .go, .install, .done]

def killed : Enrollment :=
  after (Enrollment.step sampleCodec sampleDecoder) Enrollment.new tooEarly

/-- The session is shut down, and the registration is lost. -/
theorem killed_not_enrolls :
    Along (Enrollment.step sampleCodec sampleDecoder)
        (fun e l => e.wellBehaved sampleDecoder l = true) Enrollment.new tooEarly ∧
      exec (Enrollment.step sampleCodec sampleDecoder) Enrollment.new tooEarly = some killed ∧
      killed.phase = .failed ∧ killed.session.err = some (.unexpectedControl frameRegister) ∧
      ¬ killed.Enrolls sampleDecoder := by
  have herr : killed.session.err = some (.unexpectedControl frameRegister) := by decide +kernel
  exact ⟨by decide +kernel, exec_after (by decide +kernel), by decide +kernel, herr,
    fun henrolls => (henrolls.unharmed frameRegister).1 herr⟩

end Enrollment

end LnProxy
