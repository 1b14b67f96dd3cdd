import LnProxy.Session.Progress
import LnProxy.Node.Exits

set_option autoImplicit false

/-! # The handlers of incoming streams (`internal/node/server.go`, `internal/node/exit.go`)

Three handlers take streams that a peer opens: `forwardOpen` and `serveExitStream` of the server, and
`serve` of the exit. Each looks for a way to the destination, calls `Reject` or `Accept` once, and
relays only after an `Accept` that returned no error. With the read loop, which answers invalid
requests itself, every `FrameOpen` is answered at most once and before any data on its stream
(`AnsweredOnce`), and exactly once as long as the session is open, its writes succeed and the peer
does not abort the stream (`Complete`). -/

namespace LnProxy

open Protocol Transition

/-! ## What a handler decides -/

def SelectErr.text : SelectErr → String
  | .noExit => "no healthy exit is available"
  | .exitUnavailable => "selected exit is unavailable"

/-- What a handler meets on its way. -/
structure Met where
  /-- `registry.Select` -/
  selected : Except SelectErr ExitInfo
  /-- The selected exit is in `exitConns`. -/
  connected : Bool
  /-- `dialer.DialContext`, with the text of its error. -/
  dial : Except String Unit
  /-- The `Dial` of the exit's session, with the text of its error. -/
  exitStream : Except String Unit

def dialDestination (request : OpenRequest) (dial : Except String Unit) : Except String Unit :=
  if request.destination = "" ∨ request.port = 0 then .error "destination and port are required"
  else dial

/-- The message of the `Reject` when the destination cannot be reached. -/
def destinationRefusal (request : OpenRequest) (dial : Except String Unit) : Option String :=
  match dialDestination request dial with
  | .error err => some ("destination unavailable: " ++ err)
  | .ok () => none

inductive StreamHandler where
  /-- The streams of a client at the server. -/
  | forwardOpen
  /-- The streams of an exit at the server. -/
  | serveExitStream
  /-- The streams of the server at an exit. -/
  | serve
  deriving DecidableEq, Repr

/-- The message the handler rejects the stream with, or `none` when it accepts it. -/
def StreamHandler.refusal (request : OpenRequest) (met : Met) : StreamHandler → Option String
  | .forwardOpen =>
    match met.selected with
    | .error err => some err.text
    | .ok selected =>
      if selected.id = directID then destinationRefusal request met.dial
      else if met.connected = false then some SelectErr.exitUnavailable.text
      else
        match met.exitStream with
        | .error err => some ("exit unavailable: " ++ err)
        | .ok () => none
  | .serveExitStream | .serve => destinationRefusal request met.dial

/-! ## A session with its handlers -/

/-- Where the handler of a stream stands. -/
inductive Phase where
  /-- Before its answer. -/
  | absent
  /-- In `Reject`. -/
  | rejecting
  /-- In `Accept`. -/
  | accepting
  /-- In `session.Relay`. -/
  | relaying
  | returned
  deriving DecidableEq, Repr

/-- A session at the server or at an exit, with the handlers of its incoming streams. -/
structure Answering where
  session : Session
  handler : StreamHandler
  phase : Ref → Phase

namespace Answering

def new (handler : StreamHandler) (bufferSize : Nat) : Answering where
  session := Session.new bufferSize
  handler := handler
  phase := fun _ => .absent

inductive Label where
  /-- A step of the session, or a call by another goroutine than the handlers. -/
  | session (l : LnProxy.Label)
  /-- The handler of stream `r` has met `met`, and calls `Reject` or `Accept`. -/
  | answer (r : Ref) (met : Met)
  /-- `Reject` returns, and the handler with it. -/
  | rejected (r : Ref)
  /-- `Accept` returns an error, and the handler with it. -/
  | gaveUp (r : Ref)
  /-- `Accept` returns no error, and the handler relays. -/
  | relay (r : Ref)
  /-- `session.Relay` returns. -/
  | relayEnd (r : Ref)

/-- The calls that other goroutines make: none on a stream a handler has, but for the `Read` and the
    `CloseWrite` of its `Relay`. The session is started with the handler. -/
def permits (s : Answering) : LnProxy.Label → Bool
  | .run _ _ => true
  | .call t op =>
    (match t with
      | .user r => decide (r ∉ s.session.handled)
      | _ => true) &&
    match op with
    | .start handler => handler
    | .accept _ | .reject _ _ => false
    | .read r _ | .closeWrite r => decide (r ∉ s.session.handled ∨ s.phase r = .relaying)
    | .write r _ | .relay r => decide (r ∉ s.session.handled)
    | _ => true

def goto (s : Answering) (r : Ref) (phase : Phase) : Answering :=
  { s with phase := Function.update s.phase r phase }

/-- The handler of stream `r` makes a call, and goes on in `phase`. -/
def call (json : Codec) (s : Answering) (r : Ref) (t : Tid) (op : Op) (phase : Phase) :
    Option Answering :=
  (s.session.step json (.call t op)).map fun session => { s with session := session }.goto r phase

instance (s : Session) (r : Ref) : Decidable (s.Accepted r) :=
  inferInstanceAs (Decidable (∃ e ∈ s.output, e.2 = .accepting r))

def step (json : Codec) (s : Answering) : Label → Option Answering
  | .session l =>
    if s.permits l then
      (s.session.step json l).map fun session => { s with session := session }
    else none
  | .answer r met =>
    if r ∈ s.session.handled ∧ s.phase r = .absent then
      match s.handler.refusal (s.session.obj r).request met with
      | some message => s.call json r (.user r) (.reject r message) .rejecting
      | none => s.call json r (.user r) (.accept r) .accepting
    else none
  | .rejected r =>
    if s.phase r = .rejecting ∧ s.session.threads (.user r) = [] then some (s.goto r .returned)
    else none
  | .gaveUp r =>
    if s.phase r = .accepting ∧ s.session.threads (.user r) = [] ∧ ¬ s.session.Accepted r then
      some (s.goto r .returned)
    else none
  | .relay r =>
    if s.phase r = .accepting ∧ s.session.threads (.user r) = [] ∧ s.session.Accepted r then
      s.call json r (.writer r) (.relay r) .relaying
    else none
  | .relayEnd r => if s.phase r = .relaying then some (s.goto r .returned) else none

/-- The connection takes every frame that is written. -/
def writesSucceed (s : Answering) : Label → Bool
  | .session l => s.session.writesSucceed l
  | _ => true

/-! ## What a step can do -/

variable {json : Codec} {s s' : Answering} {r : Ref} {phase : Phase}

inductive Steps (json : Codec) (s : Answering) : Label → Answering → Prop where
  | run {t : Tid} {c : Choice} {a : Act} {k acts : List Act} {s₁ : Session}
      (hthread : s.session.threads t = a :: k) (h : Session.Ran json s.session t k a c s₁ acts) :
      Steps json s (.session (.run t c)) { s with session := s₁.goto t acts }
  | call {t : Tid} {op : Op} {acts : List Act} {s₁ : Session}
      (hpermits : s.permits (.call t op) = true) (hcalls : t.calls = true)
      (hidle : s.session.threads t = []) (h : Session.Called json s.session op s₁ acts) :
      Steps json s (.session (.call t op)) { s with session := s₁.goto t acts }
  | reject {r : Ref} {met : Met} {message : String} {acts : List Act} {s₁ : Session}
      (hmem : r ∈ s.session.handled) (hphase : s.phase r = .absent)
      (hidle : s.session.threads (.user r) = [])
      (h : Session.Called json s.session (.reject r message) s₁ acts) :
      Steps json s (.answer r met)
        ({ s with session := s₁.goto (.user r) acts }.goto r .rejecting)
  | accept {r : Ref} {met : Met} {acts : List Act} {s₁ : Session}
      (hmem : r ∈ s.session.handled) (hphase : s.phase r = .absent)
      (hidle : s.session.threads (.user r) = [])
      (h : Session.Called json s.session (.accept r) s₁ acts) :
      Steps json s (.answer r met)
        ({ s with session := s₁.goto (.user r) acts }.goto r .accepting)
  | rejected {r : Ref} (hphase : s.phase r = .rejecting)
      (hidle : s.session.threads (.user r) = []) : Steps json s (.rejected r) (s.goto r .returned)
  | gaveUp {r : Ref} (hphase : s.phase r = .accepting)
      (hidle : s.session.threads (.user r) = []) : Steps json s (.gaveUp r) (s.goto r .returned)
  | relay {r : Ref} {acts : List Act} {s₁ : Session} (hphase : s.phase r = .accepting)
      (hreturned : s.session.threads (.user r) = []) (haccepted : s.session.Accepted r)
      (hidle : s.session.threads (.writer r) = [])
      (h : Session.Called json s.session (.relay r) s₁ acts) :
      Steps json s (.relay r) ({ s with session := s₁.goto (.writer r) acts }.goto r .relaying)
  | relayEnd {r : Ref} (hphase : s.phase r = .relaying) :
      Steps json s (.relayEnd r) (s.goto r .returned)

theorem called_of_call {r : Ref} {t : Tid} {op : Op}
    (h : s.call json r t op phase = some s') : s.session.threads t = [] ∧ ∃ s₁ acts,
      Session.Called json s.session op s₁ acts ∧
        s' = { s with session := s₁.goto t acts }.goto r phase := by
  obtain ⟨session, hstep, rfl⟩ := Option.map_eq_some_iff.1 h
  obtain ⟨-, hsteps⟩ := Session.step_steps hstep
  cases hsteps with
  | call _ hidle hcalled => exact ⟨hidle, _, _, hcalled, rfl⟩

theorem step_steps {l : Label} (h : s.step json l = some s') : Steps json s l s' := by
  cases l with
  | session l =>
    simp only [step, Option.ite_none_right_eq_some, Option.map_eq_some_iff] at h
    obtain ⟨hpermits, session, hstep, rfl⟩ := h
    obtain ⟨-, hsteps⟩ := Session.step_steps hstep
    cases hsteps with
    | call hcalls hidle h => exact .call hpermits hcalls hidle h
    | run hthread h => exact .run hthread h
  | answer r met =>
    obtain ⟨⟨hmem, hphase⟩, h⟩ := Option.ite_none_right_eq_some.1 h
    split at h
    · obtain ⟨hidle, s₁, acts, hcalled, rfl⟩ := called_of_call h
      exact .reject hmem hphase hidle hcalled
    · obtain ⟨hidle, s₁, acts, hcalled, rfl⟩ := called_of_call h
      exact .accept hmem hphase hidle hcalled
  | rejected r =>
    obtain ⟨⟨hphase, hidle⟩, rfl⟩ := eq_of_ite_some h
    exact .rejected hphase hidle
  | gaveUp r =>
    obtain ⟨⟨hphase, hidle, -⟩, rfl⟩ := eq_of_ite_some h
    exact .gaveUp hphase hidle
  | relay r =>
    obtain ⟨⟨hphase, hreturned, haccepted⟩, h⟩ := Option.ite_none_right_eq_some.1 h
    obtain ⟨hidle, s₁, acts, hcalled, rfl⟩ := called_of_call h
    exact .relay hphase hreturned haccepted hidle hcalled
  | relayEnd r =>
    obtain ⟨hphase, rfl⟩ := eq_of_ite_some h
    exact .relayEnd hphase

/-! ## At most one answer, and before the data -/

/-- The handler of the stream has begun its answer. -/
def answered (s : Answering) (r : Ref) : Prop := s.phase r ≠ .absent

theorem answered_of_phase (h : s.phase r = phase) (hphase : phase ≠ .absent) :
    s.answered r := by
  unfold answered
  rw [h]
  exact hphase

structure Inv (json : Codec) (s : Answering) : Prop where
  wf : s.session.Wf
  once : Session.Once s.answered s.session
  handed : s.session.Handed json
  dataLast : s.session.DataLast
  suited : s.session.Suited
  begun : ∀ r, s.answered r → r ∈ s.session.handled

theorem new_inv (json : Codec) (handler : StreamHandler) (bufferSize : Nat) :
    (new handler bufferSize).Inv json where
  wf := Session.new_wf bufferSize
  once := Session.new_once _ bufferSize
  handed := Session.new_handed json bufferSize
  dataLast := Session.new_dataLast bufferSize
  suited := Session.new_suited bufferSize
  begun _ h := absurd rfl h

/-- A handler that goes on after it has begun its answer. -/
theorem answered_goto (hphase : phase ≠ .absent) (q : Ref) :
    (s.goto r phase).answered q ↔ s.answered q ∨ q = r := by
  by_cases hq : q = r
  · simp [answered, goto, hq, hphase]
  · simp [answered, goto, hq]

theorem Inv.goto (hi : s.Inv json) (hr : s.answered r) (hphase : phase ≠ .absent) :
    (s.goto r phase).Inv json where
  wf := hi.wf
  once := hi.once.imp fun q hq => (answered_goto hphase q).2 (Or.inl hq)
  handed := hi.handed
  dataLast := hi.dataLast
  suited := hi.suited
  begun q hq := by
    rcases (answered_goto hphase q).1 hq with hq | rfl
    · exact hi.begun q hq
    · exact hi.begun q hr

/-- What other goroutines call. -/
theorem op_of_permits {t : Tid} {op : Op} (h : s.permits (.call t op) = true) :
    (∀ r, op ≠ .accept r ∧ ∀ message, op ≠ .reject r message) ∧
      ∀ r ∈ s.session.handled, (∀ p, op ≠ .write r p) ∧ op ≠ .relay r := by
  simp only [permits, Bool.and_eq_true] at h
  obtain ⟨-, hop⟩ := h
  cases op with
  | accept _ | reject _ _ => cases hop
  | write r p =>
    refine ⟨by simp, fun q hq => ⟨?_, by simp⟩⟩
    rintro p' ⟨⟩
    exact of_decide_eq_true hop hq
  | relay r =>
    refine ⟨by simp, fun q hq => ⟨by simp, ?_⟩⟩
    rintro ⟨⟩
    exact of_decide_eq_true hop hq
  | _ => simp

theorem Inv.call {t : Tid} {op : Op} {acts : List Act} {s₁ : Session} (hi : s.Inv json)
    (hcalls : t.calls = true) (h : Session.Called json s.session op s₁ acts)
    (hanswers : ∀ r, op ≠ .accept r ∧ ∀ message, op ≠ .reject r message)
    (hdata : ∀ r, s.session.Incoming r →
      (∀ p, op ≠ .write r p) ∧ (op = .relay r → s.session.Accepted r)) :
    { s with session := s₁.goto t acts }.Inv json where
  wf := hi.wf.call hcalls h
  once := hi.once.call h hanswers
  handed := hi.handed.call hi.wf h
  dataLast := hi.dataLast.call h hdata
  suited := hi.suited.call hi.wf h
  begun r hr := by
    show r ∈ s₁.handled
    rw [h.handled_eq]
    exact hi.begun r hr

/-- The handler's `Reject` or `Accept`. -/
theorem Inv.answer {op : Op} {acts : List Act} {s₁ : Session} (hi : s.Inv json)
    (hmem : r ∈ s.session.handled) (habsent : s.phase r = .absent)
    (h : Session.Called json s.session op s₁ acts)
    (hop : op = .accept r ∨ ∃ message, op = .reject r message) (hphase : phase ≠ .absent) :
    ({ s with session := s₁.goto (.user r) acts }.goto r phase).Inv json where
  wf := hi.wf.call rfl h
  once := by
    refine (hi.once.answer h hop (fun hr => hr habsent)).imp fun q hq => ?_
    exact (answered_goto hphase q).2 hq
  handed := hi.handed.call hi.wf h
  dataLast := by
    refine hi.dataLast.call h fun q _ => ?_
    rcases hop with rfl | ⟨message, rfl⟩ <;> simp
  suited := hi.suited.call hi.wf h
  begun q hq := by
    show q ∈ s₁.handled
    rw [h.handled_eq]
    rcases (answered_goto hphase q).1 hq with hq | rfl
    · exact hi.begun q hq
    · exact hmem

/-- The `Relay` of a handler whose `Accept` has written the acknowledgement. -/
theorem Inv.relayed {acts : List Act} {s₁ : Session} (hi : s.Inv json)
    (haccepted : s.session.Accepted r) (h : Session.Called json s.session (.relay r) s₁ acts) :
    { s with session := s₁.goto (.writer r) acts }.Inv json := by
  refine hi.call rfl h (by simp) fun q _ => ⟨by simp, ?_⟩
  intro heq
  cases heq
  exact haccepted

theorem Inv.steps {l : Label} (hi : s.Inv json) (h : Steps json s l s') : s'.Inv json := by
  cases h with
  | run hthread h =>
    exact ⟨hi.wf.run hthread h, hi.once.run hi.wf hthread h, hi.handed.run hi.wf hthread h,
      hi.dataLast.run hi.wf hthread h, hi.suited.run hi.wf hthread h,
      fun r hr => h.handled_mono (hi.begun r hr)⟩
  | call hpermits hcalls hidle h =>
    obtain ⟨hanswers, hdata⟩ := op_of_permits hpermits
    refine hi.call hcalls h hanswers fun r hr => ⟨?_, ?_⟩
    · rintro p rfl
      -- the application has the stream from the dispatch loop
      cases h with
      | write howned => exact (hdata r (hi.handed.owned r hr howned)).1 p rfl
    · rintro rfl
      cases h with
      | relay howned => exact absurd rfl (hdata r (hi.handed.owned r hr howned)).2
  | reject hmem hphase hidle h => exact hi.answer hmem hphase h (Or.inr ⟨_, rfl⟩) (by decide)
  | accept hmem hphase hidle h => exact hi.answer hmem hphase h (Or.inl rfl) (by decide)
  | rejected hphase hidle | gaveUp hphase hidle | relayEnd hphase =>
    exact hi.goto (answered_of_phase hphase (by decide)) (by decide)
  | relay hphase hreturned haccepted hidle h =>
    exact (hi.relayed haccepted h).goto (answered_of_phase hphase (by decide)) (by decide)

/-! ## Exactly one answer -/

/-- Until `Accept` has returned, nothing closes the stream. -/
def Unclosed (s : Answering) : Prop :=
  ∀ r, s.session.Incoming r → ¬ s.session.Aborted r →
    s.phase r = .absent ∨ s.phase r = .accepting → s.session.Untouched r

/-- The answers that handlers and the read loop owe. -/
structure Certain (json : Codec) (s : Answering) : Prop where
  rejecting : ∀ r, s.phase r = .rejecting →
    (∃ a ∈ s.session.threads (.user r), ∃ f, a.writesFrame f (.rejecting r)) ∨
      s.session.answers (.stream r) ≠ []
  accepting : ∀ r, s.session.Incoming r → ¬ s.session.Aborted r → s.phase r = .accepting →
    (∃ a ∈ s.session.threads (.user r), a.token = some (.stream r)) ∨
      s.session.answers (.stream r) ≠ []
  ended : ∀ r, s.session.Incoming r → ¬ s.session.Aborted r →
    s.phase r = .relaying ∨ s.phase r = .returned → s.session.answers (.stream r) ≠ []
  invalid : ∀ n frame cause, s.session.input[n]? = some (frame, none) → frame.type = frameOpen →
    decodeOpen json frame = .error cause →
    (∃ a ∈ s.session.threads .readLoop,
      a.writesFrame (errorFrame json frame.id ("invalid open request: " ++ cause)) (.reply n)) ∨
    (errorFrame json frame.id ("invalid open request: " ++ cause), .reply n) ∈ s.session.output

theorem new_certain (json : Codec) (handler : StreamHandler) (bufferSize : Nat) :
    (new handler bufferSize).Certain json where
  rejecting r h := by cases h
  accepting r h := by simp [new, Session.Incoming, Session.new] at h
  ended r h := by simp [new, Session.Incoming, Session.new] at h
  invalid n frame cause h := by simp [new, Session.new] at h

variable {t : Tid} {a : Act} {c : Choice} {k acts : List Act} {s₁ : Session} {op : Op}

/-- A session that runs and is not closed does not refuse to write. -/
theorem refuses_eq_false {x : Session} (hw : x.Wf) (hclosed : x.closed = false)
    (hstarted : x.started = true) : x.refuses = false := by
  simp [Session.refuses, hw.done, hclosed, hstarted]

theorem Inv.started (hi : s.Inv json) (hr : s.answered r) : s.session.started = true :=
  hi.handed.started r (hi.handed.source r (Or.inr (Or.inl (hi.begun r hr))))

/-- A new stream of the peer is one that the switch has made. -/
theorem incoming_cases (h : Session.Ran json s.session t k a c s₁ acts) (hr : s₁.Incoming r) :
    s.session.Incoming r ∨
      r = s.session.count ∧ ∃ frame, a = .handle frame ∧ frame.type = frameOpen := by
  obtain ⟨frame, hmem, htype⟩ := hr
  rcases h.incoming_cases hmem htype with hold | ⟨ha, hq, -⟩
  · exact Or.inl ⟨frame, hold, htype⟩
  · exact Or.inr ⟨hq, frame, ha, htype⟩

theorem Unclosed.run (hi : s.Inv json) (hsweeps : s.session.SweepsClosed) (hu : s.Unclosed)
    (hthread : s.session.threads t = a :: k) (h : Session.Ran json s.session t k a c s₁ acts)
    (hok : s.session.writesSucceed (.run t c) = true) (hclosed : s.session.closed = false) :
    { s with session := s₁.goto t acts }.Unclosed := by
  intro q hq hnot hphase
  have hrefuses := refuses_eq_false hi.wf hclosed
  rcases incoming_cases h hq with hold | ⟨hcount, frame, rfl, htype⟩
  · have hbefore : ¬ s.session.Aborted q := by
      rintro ⟨frame, hmem, htype⟩
      exact hnot ⟨frame, h.input_prefix.subset hmem, htype⟩
    exact (hu q hold hbefore hphase).run hi.wf hi.handed hold hsweeps hthread h hok
      (hrefuses (hi.handed.started q hold)) hnot
  · refine Session.untouched_of_new hi.wf hthread h htype hcount (hrefuses ?_)
    exact h.started_eq ▸ ((hi.handed.run hi.wf hthread h).started q hq :)

theorem Certain.run (hi : s.Inv json) (hu : s.Unclosed) (hc : s.Certain json)
    (hthread : s.session.threads t = a :: k) (h : Session.Ran json s.session t k a c s₁ acts)
    (hok : s.session.writesSucceed (.run t c) = true) (hclosed : s.session.closed = false) :
    { s with session := s₁.goto t acts }.Certain json := by
  have houtput := h.output_prefix
  have hrefuses := refuses_eq_false hi.wf hclosed
  have habort : ∀ q, ¬ s₁.Aborted q → ¬ s.session.Aborted q := by
    rintro q hnot ⟨frame, hmem, htype⟩
    exact hnot ⟨frame, h.input_prefix.subset hmem, htype⟩
  -- a stream with an answer is not a new one
  have hold : ∀ q, s.answered q → s.session.Incoming q := by
    intro q hanswered
    exact hi.handed.source q (Or.inr (Or.inl (hi.begun q hanswered)))
  refine ⟨fun q hphase => ?_, fun q hq hnot hphase => ?_, fun q hq hnot hphase => ?_,
    fun n frame cause hn htype hdecode => ?_⟩
  · have hanswered : s.answered q := answered_of_phase hphase (by decide)
    have hstarted := hi.started hanswered
    rcases hc.rejecting q hphase with ⟨b, hb, f, hf⟩ | hsent
    · rcases h.kept hi.wf hthread hb (by simp) (Act.follows_of_writesFrame hf) with hmem | ⟨rfl, rfl⟩
      · exact Or.inl ⟨b, hmem, f, hf⟩
      · rcases h.frame_progress hthread (hrefuses hstarted) hok hf with ⟨b', hb', hf'⟩ | hmem
        · left
          exact ⟨b', by rw [Session.goto_threads_self]; exact hb', f, hf'⟩
        · exact Or.inr (Session.answers_ne_nil hmem rfl)
    · exact Or.inr (Session.answers_ne_nil_of_prefix houtput hsent)
  · have hanswered : s.answered q := answered_of_phase hphase (by decide)
    have hbefore := hold q hanswered
    rcases hc.accepting q hbefore (habort q hnot) hphase with ⟨b, hb, hτ⟩ | hsent
    · rcases h.kept hi.wf hthread hb (by simp) (Act.follows_of_token hτ) with hmem | ⟨rfl, rfl⟩
      · exact Or.inl ⟨b, hmem, hτ⟩
      · have hdone : ∀ r, b = .accept r → (s.session.obj r).done = false := by
          rintro r rfl
          cases hτ
          have hopen := (hu q hbefore (habort q hnot) (Or.inr hphase)).1
          refine Bool.eq_false_of_not_eq_true fun hdone => ?_
          exact Bool.eq_false_iff.1 hopen ((hi.wf.ok q).done hdone)
        rcases h.token_progress hthread (hrefuses (hi.started hanswered)) hok hτ hdone with
          ⟨b', hb', hτ'⟩ | hsent
        · left
          exact ⟨b', by rw [Session.goto_threads_self]; exact hb', hτ'⟩
        · exact Or.inr hsent
    · exact Or.inr (Session.answers_ne_nil_of_prefix houtput hsent)
  · have hanswered : s.answered q := by
      rcases hphase with hphase | hphase
      · exact answered_of_phase hphase (by decide)
      · exact answered_of_phase hphase (by decide)
    have hsent := hc.ended q (hold q hanswered) (habort q hnot) hphase
    exact Session.answers_ne_nil_of_prefix houtput hsent
  · rcases h.invalid_cases hn htype hdecode with hn | ⟨b, hb, hf⟩
    · rcases hc.invalid n frame cause hn htype hdecode with ⟨b, hb, hf⟩ | hsent
      · rcases h.kept hi.wf hthread hb (by simp) (Act.follows_of_writesFrame hf) with
          hmem | ⟨rfl, rfl⟩
        · exact Or.inl ⟨b, hmem, hf⟩
        · have hstarted : s.session.started = true := by
            by_contra hnot
            rw [(hi.wf.idle (by simpa using hnot)).1] at hb
            cases hb
          rcases h.frame_progress hthread (hrefuses hstarted) hok hf with ⟨b', hb', hf'⟩ | hmem
          · left
            exact ⟨b', by rw [Session.goto_threads_self]; exact hb', hf'⟩
          · exact Or.inr hmem
      · exact Or.inr (houtput.subset hsent)
    · left
      refine ⟨b, ?_, hf⟩
      have hb' : b ∈ (s₁.goto t acts).threads t := by rw [Session.goto_threads_self]; exact hb
      have ht : t = .readLoop :=
        (hi.once.run hi.wf hthread h).home t b hb' (.frame n) (Act.token_of_writesFrame hf)
      rw [← ht, Session.goto_threads_self]
      exact hb

theorem incoming_of_called (h : Session.Called json s.session op s₁ acts)
    (hr : (s₁.goto t acts).Incoming r) : s.session.Incoming r := by
  obtain ⟨-, -, hinput⟩ := h.streams_eq
  obtain ⟨frame, hmem, htype⟩ := hr
  rw [Session.goto_input, hinput] at hmem
  exact ⟨frame, hmem, htype⟩

theorem not_aborted_of_called (h : Session.Called json s.session op s₁ acts)
    (hr : ¬ (s₁.goto t acts).Aborted r) : ¬ s.session.Aborted r := by
  obtain ⟨-, -, hinput⟩ := h.streams_eq
  rintro ⟨frame, hmem, htype⟩
  refine hr ⟨frame, ?_, htype⟩
  rw [Session.goto_input, hinput]
  exact hmem

theorem Unclosed.call (hi : s.Inv json) (hu : s.Unclosed)
    (h : Session.Called json s.session op s₁ acts) (hop : ∀ message, op ≠ .reject r message)
    (hr : (s₁.goto t acts).Incoming r) (hnot : ¬ (s₁.goto t acts).Aborted r)
    (hphase : s.phase r = .absent ∨ s.phase r = .accepting) : (s₁.goto t acts).Untouched r :=
  (hu r (incoming_of_called h hr) (not_aborted_of_called h hnot) hphase).call hi.wf h hop

theorem Certain.call (hi : s.Inv json) (hc : s.Certain json) (hidle : s.session.threads t = [])
    (h : Session.Called json s.session op s₁ acts) :
    { s with session := s₁.goto t acts }.Certain json := by
  obtain ⟨-, houtput, hinput⟩ := h.streams_eq
  have hanswers : ∀ τ, (s₁.goto t acts).answers τ = s.session.answers τ := by
    intro τ
    exact Session.answers_of_output houtput τ
  refine ⟨fun q hphase => ?_, fun q hq hnot hphase => ?_, fun q hq hnot hphase => ?_,
    fun n frame cause hn htype hdecode => ?_⟩
  · rcases hc.rejecting q hphase with ⟨b, hb, hf⟩ | hsent
    · exact Or.inl ⟨b, h.kept hi.wf hidle hb, hf⟩
    · exact Or.inr ((hanswers _).symm ▸ hsent)
  · rcases hc.accepting q (incoming_of_called h hq) (not_aborted_of_called h hnot) hphase with
      ⟨b, hb, hτ⟩ | hsent
    · exact Or.inl ⟨b, h.kept hi.wf hidle hb, hτ⟩
    · exact Or.inr ((hanswers _).symm ▸ hsent)
  · have hsent := hc.ended q (incoming_of_called h hq) (not_aborted_of_called h hnot) hphase
    exact (hanswers _).symm ▸ hsent
  · have hn : s.session.input[n]? = some (frame, none) := by
      rw [← hinput]
      exact hn
    rcases hc.invalid n frame cause hn htype hdecode with ⟨b, hb, hf⟩ | hsent
    · exact Or.inl ⟨b, h.kept hi.wf hidle hb, hf⟩
    · right
      show _ ∈ s₁.output
      rw [houtput]
      exact hsent

/-- A handler goes on: it owes what its new phase says. -/
theorem Certain.goto (hc : s.Certain json)
    (hrejecting : phase = .rejecting →
      ∃ a ∈ s.session.threads (.user r), ∃ f, a.writesFrame f (.rejecting r))
    (haccepting : phase = .accepting →
      ∃ a ∈ s.session.threads (.user r), a.token = some (.stream r))
    (hended : s.session.Incoming r → ¬ s.session.Aborted r → phase = .relaying ∨ phase = .returned →
      s.session.answers (.stream r) ≠ []) : (s.goto r phase).Certain json := by
  have hself : (s.goto r phase).phase r = phase := Function.update_self ..
  have hother : ∀ q, q ≠ r → (s.goto r phase).phase q = s.phase q :=
    fun q hq => Function.update_of_ne hq ..
  refine ⟨fun q hphase => ?_, fun q hq hnot hphase => ?_, fun q hq hnot hphase => ?_, hc.invalid⟩
  all_goals by_cases hqr : q = r
  · subst hqr
    rw [hself] at hphase
    exact Or.inl (hrejecting hphase)
  · rw [hother q hqr] at hphase
    exact hc.rejecting q hphase
  · subst hqr
    rw [hself] at hphase
    exact Or.inl (haccepting hphase)
  · rw [hother q hqr] at hphase
    exact hc.accepting q hq hnot hphase
  · subst hqr
    rw [hself] at hphase
    exact hended hq hnot hphase
  · rw [hother q hqr] at hphase
    exact hc.ended q hq hnot hphase

/-- A handler that is past its answer leaves the other streams as they are. -/
theorem Unclosed.goto (hu : s.Unclosed) (habsent : phase ≠ .absent)
    (haccepting : phase ≠ .accepting) : (s.goto r phase).Unclosed := by
  intro q hq hnot hphase
  by_cases hqr : q = r
  · subst hqr
    have hself : (s.goto q phase).phase q = phase := Function.update_self ..
    rw [hself] at hphase
    exact absurd hphase (not_or.2 ⟨habsent, haccepting⟩)
  · have hother : (s.goto r phase).phase q = s.phase q := Function.update_of_ne hqr ..
    rw [hother] at hphase
    exact hu q hq hnot hphase

/-- What is kept along the runs of an open session whose writes succeed. -/
structure Sure (json : Codec) (s : Answering) : Prop where
  inv : s.Inv json
  sweeps : s.session.SweepsClosed
  unclosed : s.session.closed = false → s.Unclosed
  certain : s.session.closed = false → s.Certain json

theorem new_sure (json : Codec) (handler : StreamHandler) (bufferSize : Nat) :
    (new handler bufferSize).Sure json where
  inv := new_inv json handler bufferSize
  sweeps := by
    intro t rs err h
    simp [new, Session.new] at h
  unclosed _ r h := by simp [new, Session.Incoming, Session.new] at h
  certain _ := new_certain json handler bufferSize

/-- A handler that has returned from its answer. -/
theorem Sure.returned (hs : s.Sure json) (hr : s.answered r)
    (hphase : phase = .relaying ∨ phase = .returned)
    (hended : s.session.closed = false → s.session.Incoming r → ¬ s.session.Aborted r →
      s.session.answers (.stream r) ≠ []) : (s.goto r phase).Sure json where
  inv := by
    refine hs.inv.goto hr ?_
    rcases hphase with rfl | rfl <;> decide
  sweeps := hs.sweeps
  unclosed hclosed := by
    rcases hphase with rfl | rfl <;> exact (hs.unclosed hclosed).goto (by decide) (by decide)
  certain hclosed := by
    refine (hs.certain hclosed).goto ?_ ?_ fun hr hnot _ => hended hclosed hr hnot
    · rintro rfl
      rcases hphase with hphase | hphase <;> cases hphase
    · rintro rfl
      rcases hphase with hphase | hphase <;> cases hphase

theorem Sure.answered_of_idle (hs : s.Sure json) (hclosed : s.session.closed = false)
    (hphase : s.phase r = .rejecting ∨ s.phase r = .accepting)
    (hidle : s.session.threads (.user r) = []) (hr : s.session.Incoming r)
    (hnot : ¬ s.session.Aborted r) : s.session.answers (.stream r) ≠ [] := by
  have hc := hs.certain hclosed
  rcases hphase with hphase | hphase
  · rcases hc.rejecting r hphase with ⟨b, hb, -⟩ | hsent
    · rw [hidle] at hb
      cases hb
    · exact hsent
  · rcases hc.accepting r hr hnot hphase with ⟨b, hb, -⟩ | hsent
    · rw [hidle] at hb
      cases hb
    · exact hsent

/-- A call that is not the answer of a handler. -/
theorem Sure.call (hs : s.Sure json) (hidle : s.session.threads t = [])
    (h : Session.Called json s.session op s₁ acts)
    (hinv : { s with session := s₁.goto t acts }.Inv json)
    (hop : ∀ r message, op ≠ .reject r message) :
    { s with session := s₁.goto t acts }.Sure json where
  inv := hinv
  sweeps := hs.sweeps.call h
  unclosed hclosed r hr hnot hphase := by
    have hbefore : s.session.closed = false := h.session_closed ▸ hclosed
    exact (hs.unclosed hbefore).call hs.inv h (hop r) hr hnot hphase
  certain hclosed := by
    have hbefore : s.session.closed = false := h.session_closed ▸ hclosed
    exact (hs.certain hbefore).call hs.inv hidle h

/-- The handler's `Reject` or `Accept`. -/
theorem Sure.answer (hs : s.Sure json) (habsent : s.phase r = .absent)
    (hidle : s.session.threads (.user r) = []) (h : Session.Called json s.session op s₁ acts)
    (hinv : ({ s with session := s₁.goto (.user r) acts }.goto r phase).Inv json)
    (hop : op = .accept r ∧ phase = .accepting ∨ (∃ message, op = .reject r message) ∧
      phase = .rejecting) :
    ({ s with session := s₁.goto (.user r) acts }.goto r phase).Sure json := by
  have hbefore : (s₁.goto (.user r) acts).closed = false → s.session.closed = false :=
    fun hclosed => h.session_closed ▸ hclosed
  refine ⟨hinv, hs.sweeps.call h, fun hclosed q hq hnot hphase => ?_, fun hclosed => ?_⟩
  · have hu := hs.unclosed (hbefore hclosed)
    by_cases hqr : q = r
    · subst hqr
      have hself : Function.update s.phase q phase q = phase := Function.update_self ..
      rcases hop with ⟨rfl, -⟩ | ⟨-, rfl⟩
      · exact hu.call hs.inv h (by simp) hq hnot (Or.inl habsent)
      · rcases hphase with hphase | hphase <;> cases hself.symm.trans hphase
    · have hother : Function.update s.phase r phase q = s.phase q := Function.update_of_ne hqr ..
      refine hu.call hs.inv h ?_ hq hnot (hother ▸ hphase)
      rintro message rfl
      rcases hop with ⟨hop, -⟩ | ⟨⟨message', hop⟩, -⟩
      · cases hop
      · cases hop
        exact hqr rfl
  · refine ((hs.certain (hbefore hclosed)).call hs.inv hidle h).goto ?_ ?_ ?_
    · rintro rfl
      rcases hop with ⟨-, hphase⟩ | ⟨⟨message, rfl⟩, -⟩
      · cases hphase
      · cases h with
        | reject howned =>
          refine ⟨.writeFrame (ackFrame json (s.session.obj r).id ⟨false, message, "", ""⟩)
            (.rejecting r), ?_, _, Or.inl rfl⟩
          rw [Session.goto_threads_self]
          exact List.mem_cons_self ..
    · rintro rfl
      rcases hop with ⟨rfl, -⟩ | ⟨-, hphase⟩
      · cases h with
        | accept howned =>
          refine ⟨.accept r, ?_, rfl⟩
          rw [Session.goto_threads_self]
          exact List.mem_cons_self ..
      · cases hphase
    · intro _ _ hended
      rcases hop with ⟨-, rfl⟩ | ⟨-, rfl⟩ <;> rcases hended with hended | hended <;> cases hended

theorem Sure.steps {l : Label} (hs : s.Sure json) (hok : s.writesSucceed l = true)
    (h : Steps json s l s') : s'.Sure json := by
  have hinv := hs.inv.steps h
  cases h with
  | @run t c a k acts s₁ hthread h =>
    have hbefore : s₁.closed = false → s.session.closed = false := by
      intro hclosed
      refine Bool.eq_false_of_not_eq_true fun hnot => ?_
      exact Bool.eq_false_iff.1 hclosed (h.closed_of_closed hnot)
    refine ⟨hinv, hs.sweeps.run hthread h, fun hclosed => ?_, fun hclosed => ?_⟩
    · have hopen := hbefore hclosed
      exact (hs.unclosed hopen).run hs.inv hs.sweeps hthread h hok hopen
    · have hopen := hbefore hclosed
      exact (hs.certain hopen).run hs.inv (hs.unclosed hopen) hthread h hok hopen
  | call hpermits hcalls hidle h =>
    exact hs.call hidle h hinv fun r => ((op_of_permits hpermits).1 r).2
  | reject hmem hphase hidle h => exact hs.answer hphase hidle h hinv (Or.inr ⟨⟨_, rfl⟩, rfl⟩)
  | accept hmem hphase hidle h => exact hs.answer hphase hidle h hinv (Or.inl ⟨rfl, rfl⟩)
  | rejected hphase hidle =>
    refine hs.returned (answered_of_phase hphase (by decide)) (Or.inr rfl) fun hclosed hr hnot => ?_
    exact hs.answered_of_idle hclosed (Or.inl hphase) hidle hr hnot
  | gaveUp hphase hidle =>
    refine hs.returned (answered_of_phase hphase (by decide)) (Or.inr rfl) fun hclosed hr hnot => ?_
    exact hs.answered_of_idle hclosed (Or.inr hphase) hidle hr hnot
  | @relay r acts s₁ hphase hreturned haccepted hidle h =>
    have hcall : { s with session := s₁.goto (.writer r) acts }.Sure json := by
      refine hs.call hidle h (hs.inv.relayed haccepted h) (by simp)
    refine hcall.returned (answered_of_phase hphase (by decide)) (Or.inl rfl) fun hclosed hr hnot => ?_
    obtain ⟨e, he, hpurpose⟩ := haccepted
    obtain ⟨-, houtput, -⟩ := h.streams_eq
    have he' : (e.1, e.2) ∈ s₁.output := by rw [houtput]; exact he
    exact Session.answers_ne_nil he' (by rw [hpurpose]; rfl)
  | relayEnd hphase =>
    refine hs.returned (answered_of_phase hphase (by decide)) (Or.inr rfl) fun hclosed hr hnot => ?_
    exact (hs.certain hclosed).ended _ hr hnot (Or.inl hphase)

/-! ## The answers of a run -/

/-- What the session has written answers the frames it has handled: each at most once, with an
    acknowledgement for a valid `FrameOpen` and an error for an invalid one, and with the
    acknowledgement before any data of the stream. -/
structure AnsweredOnce (json : Codec) (s : Session) : Prop where
  once : ∀ τ, (s.answers τ).length ≤ 1
  acks : ∀ e ∈ s.output, e.1.type = frameOpenAck → ∃ r frame request,
    e ∈ s.answers (.stream r) ∧ (frame, some r) ∈ s.input ∧ frame.type = frameOpen ∧
      decodeOpen json frame = .ok request ∧ e.1.id = request.requestID
  errors : ∀ e ∈ s.output, e.1.type = frameError → ∃ n frame,
    e ∈ s.answers (.frame n) ∧ s.input[n]? = some (frame, none) ∧ frame.type = frameOpen ∧
      e.1.id = frame.id
  data : ∀ pre e post, s.output = pre ++ e :: post → e.1.type = frameData → ∃ r rest inCopy,
    e.2 = .chunk r rest inCopy ∧ e.1.id = (s.obj r).id ∧
      (s.Incoming r → ∃ ack ∈ pre, ack ∈ s.answers (.stream r))

/-- Every `FrameOpen` whose handler has answered, or whose error the read loop has written, has its
    answer. -/
structure Complete (json : Codec) (s : Answering) : Prop where
  valid : ∀ r, s.session.Incoming r → ¬ s.session.Aborted r →
    s.phase r = .relaying ∨ s.phase r = .returned →
    ∃ e, s.session.answers (.stream r) = [e] ∧ e.1.type = frameOpenAck
  invalid : ∀ n frame cause, s.session.input[n]? = some (frame, none) → frame.type = frameOpen →
    decodeOpen json frame = .error cause →
    (∀ a ∈ s.session.threads .readLoop, a.token ≠ some (.frame n)) →
    s.session.answers (.frame n) =
      [(errorFrame json frame.id ("invalid open request: " ++ cause), .reply n)]

theorem Inv.answeredOnce (hi : s.Inv json) : AnsweredOnce json s.session where
  once := hi.once.once
  acks e he htype := by
    obtain ⟨r, hpurpose, hid⟩ := (hi.suited.sent e he).ack htype
    have hmem : e ∈ s.session.answers (.stream r) := by
      refine Session.mem_answers.2 ⟨he, ?_⟩
      rcases hpurpose with h | h <;> rw [h] <;> rfl
    have hanswered : s.answered r := hi.once.sent (.stream r) (List.ne_nil_of_mem hmem)
    obtain ⟨frame, hinput, hopen⟩ := hi.handed.source r (Or.inr (Or.inl (hi.begun r hanswered)))
    obtain ⟨request, hdecode, hrequest⟩ := hi.handed.valid frame r hinput hopen
    exact ⟨r, frame, request, hmem, hinput, hopen, hdecode, hid.trans hrequest⟩
  errors e he htype := by
    obtain ⟨n, frame, hpurpose, hinput, hopen, hid⟩ := (hi.suited.sent e he).error htype
    refine ⟨n, frame, ?_, hinput, hopen, hid⟩
    exact Session.mem_answers.2 ⟨he, by rw [hpurpose]; rfl⟩
  data pre e post hout htype := by
    have he : e ∈ s.session.output := by rw [hout]; simp
    obtain ⟨r, rest, inCopy, hpurpose, hid⟩ := (hi.suited.sent e he).data htype
    refine ⟨r, rest, inCopy, hpurpose, hid, fun hr => ?_⟩
    obtain ⟨ack, hack, haccepting⟩ := hi.dataLast.sent r hr pre post e.1 rest inCopy
      (by rw [← hpurpose]; exact hout)
    refine ⟨ack, hack, Session.mem_answers.2 ⟨?_, by rw [haccepting]; rfl⟩⟩
    rw [hout]
    exact List.mem_append_left _ hack

theorem Sure.complete (hs : s.Sure json) (hclosed : s.session.closed = false) : s.Complete json where
  valid r hr hnot hphase := by
    have hne := (hs.certain hclosed).ended r hr hnot hphase
    obtain ⟨e, hmem⟩ := List.exists_mem_of_ne_nil _ hne
    obtain ⟨hsent, htoken⟩ := Session.mem_answers.1 hmem
    exact ⟨e, hs.inv.once.answers_eq hmem, (hs.inv.suited.sent e hsent).answer r htoken⟩
  invalid n frame cause hn htype hdecode hwritten := by
    rcases (hs.certain hclosed).invalid n frame cause hn htype hdecode with ⟨b, hb, hf⟩ | hsent
    · exact absurd (Act.token_of_writesFrame hf) (hwritten b hb)
    · exact hs.inv.once.answers_eq (Session.mem_answers.2 ⟨hsent, rfl⟩)

/-- **Every `FrameOpen` has one answer, before any data.** In every run, whatever the handlers meet,
    each `FrameOpen` is answered at most once; and in a run whose session is still open and whose
    writes have all succeeded, each one whose handler has returned or relays is answered exactly once,
    unless the peer has aborted its stream. -/
theorem open_answered (json : Codec) (handler : StreamHandler) (bufferSize : Nat)
    (run : List Label) (s : Answering)
    (h : exec (Answering.step json) (new handler bufferSize) run = some s) :
    AnsweredOnce json s.session ∧
      (Along (Answering.step json) (fun s l => s.writesSucceed l = true) (new handler bufferSize) run →
        s.session.closed = false → s.Complete json) := by
  refine ⟨?_, fun hok hclosed => ?_⟩
  · have hinv : s.Inv json := Reachable.invariant (Inv json)
      (fun s l s' hi hstep => hi.steps (step_steps hstep)) (new_inv json handler bufferSize) ⟨run, h⟩
    exact hinv.answeredOnce
  · have hsure : s.Sure json := exec_invariant (Sure json)
      (fun s l s' hs hok hstep => hs.steps hok (step_steps hstep)) (new_sure json handler bufferSize)
      hok h
    exact hsure.complete hclosed

/-- A codec that refuses an empty request. -/
def strictCodec : Codec :=
  { sampleCodec with
    unmarshalOpen := fun payload =>
      if payload = [] then .error "unexpected end of JSON input" else sampleCodec.unmarshalOpen payload
    requestID_exact := by
      intro request
      obtain ⟨decoded, hdecoded, hid⟩ := sampleCodec.requestID_exact request
      refine ⟨decoded, ?_, hid⟩
      rw [if_neg]
      · exact hdecoded
      · simp [sampleCodec, BigEndian.toBytes] }

/-- An exit answers an invalid request, then a valid one whose destination it reaches, and sends data
    from there. -/
def servedRun : List Label :=
  (.call (.user 7) (.start true) :: turns .readLoop [.frame ⟨frameOpen, 3, []⟩, .go, .go, .wrote,
      .frame (openFrame strictCodec (sampleRequest 1)), .go, .go] ++
    turns .dispatchLoop [.go]).map .session ++
  .answer 0 ⟨.error .noExit, false, .ok (), .ok ()⟩ ::
    (turns (.user 0) [.go, .go, .wrote]).map .session ++
  .relay 0 :: (turns (.writer 0) [.source [1, 2, 3], .go, .go, .go, .wrote]).map .session

theorem servedRun_answered :
    ∃ s, exec (Answering.step strictCodec) (new .serve 0) servedRun = some s ∧
      s.phase 0 = .relaying ∧
      s.session.output.map (fun e => e.1.type) = [frameError, frameOpenAck, frameData] ∧
      AnsweredOnce strictCodec s.session ∧ s.Complete strictCodec := by
  have hrun : exec (Answering.step strictCodec) (new .serve 0) servedRun =
      some (after (Answering.step strictCodec) (new .serve 0) servedRun) :=
    exec_after (by decide +kernel)
  obtain ⟨honce, hcomplete⟩ := open_answered strictCodec .serve 0 servedRun _ hrun
  refine ⟨_, hrun, by decide +kernel, by decide +kernel, honce, ?_⟩
  exact hcomplete (by decide +kernel) (by decide +kernel)

end Answering

end LnProxy
