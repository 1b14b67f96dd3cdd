import LnProxy.Session.Sender

set_option autoImplicit false

/-! # Who closes a connection (`Server.handleConnection`, `handleClient`, `handleExit`)

`handleConnection` closes the connection of a peer where it gives up early. Afterwards the connection
belongs to the session, whose `shutdown` does not touch it: only `Session.Close` closes it, and it
does so after it has woken up everybody who waits for the session to end. Over QUIC `conn.Close`
closes the sending side of the control stream only; the connection is closed by `closeFallback`, which
two of the ways out use.

The goroutine of `handleConnection` runs here next to the goroutines of its session. Its calls of the
session are made as `user 0`; every other goroutine that has the session (the stream handlers, the
catalog loop, the handler of an exit that connects again under the same id) may call it too. -/

namespace LnProxy

open Protocol Transition

inductive Transport where
  | tcp
  | quic
  deriving DecidableEq, Repr

/-- The directions of a connection that are still open. -/
structure Socket where
  receiving : Bool
  sending : Bool
  deriving DecidableEq, Repr

/-- `conn.Close`; a `streamConn` closes its QUIC stream, which ends the sending side. -/
def Transport.close : Transport → Socket → Socket
  | .tcp, _ => ⟨false, false⟩
  | .quic, socket => { socket with sending := false }

/-- `closeFallback` where there is one, and `conn.Close` where not. -/
def Transport.closeFully : Transport → Socket → Socket
  | .tcp, socket => Transport.tcp.close socket
  | .quic, _ => ⟨false, false⟩

def roleClient : String := "client"
def roleExit : String := "exit"

/-- Where `handleConnection` stands. -/
inductive ServePhase where
  /-- Before `limiter.Allowed`. -/
  | admission
  /-- In `ServerHandshake`. -/
  | handshake
  /-- Before the check of the connection limit. -/
  | limit (role : String)
  /-- Before `Session.Start` in `handleClient` or `handleExit`. -/
  | starting (role : String)
  /-- `waitForRegistration`, before its handler is installed. -/
  | installing
  /-- `waitForRegistration`, waiting. -/
  | registering
  /-- Before the handler for heartbeats is installed. -/
  | registered
  /-- In the `Session.Close` of a failed registration. -/
  | closing
  /-- At `<-sess.Done()`. -/
  | serving
  | returned
  deriving DecidableEq, Repr

structure Serving where
  transport : Transport
  socket : Socket
  phase : ServePhase
  session : Session

namespace Serving

def new (transport : Transport) : Serving := ⟨transport, ⟨true, true⟩, .admission, Session.new 0⟩

inductive Label where
  /-- `limiter.Allowed` returned nil. -/
  | allowed
  /-- `limiter.Allowed` returned an error. -/
  | refused
  | authenticated (role : String)
  /-- `ServerHandshake` failed. -/
  | rejected
  | admitted
  | limitReached
  | start
  | install
  /-- `waitForRegistration` returned a registration that has an id. -/
  | register
  /-- `waitForRegistration` failed, or the registration has no id. -/
  | registerFailed
  /-- The handler for heartbeats is installed. -/
  | serve
  /-- `Session.Close` has returned. -/
  | closed
  /-- `<-sess.Done()` -/
  | done
  /-- A step of the session, or a call another goroutine makes. -/
  | session (l : LnProxy.Label)
  deriving DecidableEq, Repr

/-- `handleConnection` returns, after `conn.Close`. -/
def closeConn (s : Serving) : Serving :=
  { s with socket := s.transport.close s.socket, phase := .returned }

/-- `handleConnection` returns, after `closeFallback` or `conn.Close`. -/
def closeFully (s : Serving) : Serving :=
  { s with socket := s.transport.closeFully s.socket, phase := .returned }

/-- A call of the handler's own goroutine. -/
def call (json : Codec) (s : Serving) (op : Op) (phase : ServePhase) : Option Serving :=
  (s.session.step json (.call (.user 0) op)).map fun session =>
    { s with session := session, phase := phase }

/-- The section a session label runs is the `conn.Close` of `Session.Close`. -/
def closesConn (s : Session) : LnProxy.Label → Bool
  | .run t .go => match s.threads t with
    | .closeConn :: _ => s.started
    | _ => false
  | _ => false

/-- The calls other goroutines make: they have the session once it is started, and do not run as the
    handler. -/
def others : LnProxy.Label → Bool
  | .call t op => decide (t ≠ .user 0) && match op with
    | .start _ => false
    | _ => true
  | .run _ _ => true

def step (json : Codec) (s : Serving) : Label → Option Serving
  | .allowed => if s.phase = .admission then some { s with phase := .handshake } else none
  | .refused => if s.phase = .admission then some s.closeConn else none
  | .authenticated role =>
    if s.phase = .handshake then some { s with phase := .limit role } else none
  | .rejected => if s.phase = .handshake then some s.closeFully else none
  | .limitReached =>
    match s.phase with
    | .limit _ => some s.closeFully
    | _ => none
  | .admitted =>
    match s.phase with
    | .limit role =>
      if role = roleClient ∨ role = roleExit then some { s with phase := .starting role }
      else some s.closeConn
    | _ => none
  | .start =>
    match s.phase with
    | .starting role =>
      -- `Start` on a closed session closes the connection and fails
      if s.session.closed then some s.closeConn
      else s.call json (.start true) (if role = roleExit then .installing else .serving)
    | _ => none
  | .install =>
    if s.phase = .installing then s.call json (.setControlHandler .registration) .registering
    else none
  | .register => if s.phase = .registering then some { s with phase := .registered } else none
  | .registerFailed => if s.phase = .registering then s.call json .close .closing else none
  | .serve =>
    if s.phase = .registered then s.call json (.setControlHandler .heartbeat) .serving else none
  | .closed =>
    if s.phase = .closing ∧ s.session.threads (.user 0) = [] then
      some { s with phase := .returned }
    else none
  | .done =>
    if s.phase = .serving ∧ s.session.done then some { s with phase := .returned } else none
  | .session l =>
    if others l ∧ s.session.started then
      (s.session.step json l).map fun session =>
        { s with
          session := session,
          socket := if closesConn s.session l then s.transport.close s.socket else s.socket }
    else none

/-- When `handleConnection` has returned, both directions are closed. -/
def Released (s : Serving) : Prop :=
  s.phase = .returned → s.socket.receiving = false ∧ s.socket.sending = false

/-- The ways out that close the connection: over QUIC only those that use `closeFallback`, over TCP all
    but the end of a session whose connection `Session.Close` has not closed yet. -/
def releases (s : Serving) : Label → Bool
  | .refused | .closed => decide (s.transport = .tcp)
  | .start => !s.session.closed || decide (s.transport = .tcp)
  | .admitted =>
    match s.phase with
    | .limit role => decide (role = roleClient ∨ role = roleExit ∨ s.transport = .tcp)
    | _ => true
  | .done => decide (s.transport = .tcp) && !s.socket.receiving
  | _ => true

/-! ## The invariant -/

variable {json : Codec} {s s' : Serving} {l : Label}

/-- The phases before the session is started: nobody else has it. -/
def early : ServePhase → Bool
  | .admission | .handshake | .limit _ | .starting _ => true
  | _ => false

structure Inv (s : Serving) : Prop where
  wf : s.session.Wf
  fresh : early s.phase = true → s.session = Session.new 0
  started : early s.phase = false → s.phase = .returned ∨ s.session.started = true
  /-- Over QUIC the receiving side is closed only on the way out. -/
  quic : s.transport = .quic → s.phase = .returned ∨ s.socket.receiving = true
  /-- Over TCP both sides are closed together. -/
  tcp : s.transport = .tcp → s.socket.receiving = s.socket.sending
  /-- `Session.Close` ends with `conn.Close`. -/
  closing : s.phase = .closing → (s.session.threads (.user 0)).getLast? = some .closeConn ∨
    s.session.threads (.user 0) = [] ∧ (s.transport = .tcp → s.socket.receiving = false)

theorem new_inv (transport : Transport) : (new transport).Inv where
  wf := Session.new_wf 0
  fresh := fun _ => rfl
  started := by simp [new, early]
  quic := by simp [new]
  tcp := fun _ => rfl
  closing := by simp [new]

@[simp] theorem close_tcp (socket : Socket) : Transport.tcp.close socket = ⟨false, false⟩ := rfl

@[simp] theorem close_quic (socket : Socket) :
    Transport.quic.close socket = { socket with sending := false } := rfl

@[simp] theorem closeFully_eq (transport : Transport) (socket : Socket) :
    transport.closeFully socket = ⟨false, false⟩ := by
  cases transport <;> rfl

/-! ## What a step does -/

/-- A step by what it does to the connection and the session: the handler goes on in its own code, calls
    the session or returns, or another goroutine has its turn. -/
inductive Steps (json : Codec) (s : Serving) : Label → Serving → Prop where
  | advance {l : Label} {phase : ServePhase} (hl : s.releases l = true)
      (hphase : phase ≠ .returned) (hclosing : phase ≠ .closing)
      (hearly : early phase = early s.phase) (hreturned : s.phase ≠ .returned) :
      Steps json s l { s with phase := phase }
  | call {l : Label} {op : Op} {session : Session} {phase : ServePhase} (hl : s.releases l = true)
      (hphase : phase ≠ .returned) (hlate : early phase = false) (hreturned : s.phase ≠ .returned)
      (hclosing : phase = .closing → op = .close)
      (hstart : early s.phase = true → op = .start true)
      (h : s.session.step json (.call (.user 0) op) = some session) :
      Steps json s l { s with session := session, phase := phase }
  | closeFully {l : Label} (hl : s.releases l = true) : Steps json s l s.closeFully
  | closeConn {l : Label} (hl : s.releases l = decide (s.transport = .tcp))
      (hreturned : s.phase ≠ .returned) : Steps json s l s.closeConn
  | closed (hphase : s.phase = .closing) (hidle : s.session.threads (.user 0) = []) :
      Steps json s .closed { s with phase := .returned }
  | done (hphase : s.phase = .serving) (hdone : s.session.done = true) :
      Steps json s .done { s with phase := .returned }
  | session {l : LnProxy.Label} {session : Session} (hothers : others l = true)
      (hstarted : s.session.started = true) (h : s.session.step json l = some session) :
      Steps json s (.session l)
        { s with
          session := session,
          socket := if closesConn s.session l then s.transport.close s.socket else s.socket }

theorem call_eq_some {op : Op} {phase : ServePhase} (h : s.call json op phase = some s') :
    ∃ session, s.session.step json (.call (.user 0) op) = some session ∧
      s' = { s with session := session, phase := phase } := by
  obtain ⟨session, hstep, rfl⟩ := Option.map_eq_some_iff.1 h
  exact ⟨session, hstep, rfl⟩

/-- **Inversion of a step.** -/
theorem step_steps (h : s.step json l = some s') : Steps json s l s' := by
  cases l with
  | allowed | authenticated role | register =>
    obtain ⟨hphase, rfl⟩ := eq_of_ite_some h
    exact .advance rfl (by simp) (by simp) (by simp [early, hphase]) (by simp [hphase])
  | refused =>
    obtain ⟨hphase, rfl⟩ := eq_of_ite_some h
    exact .closeConn rfl (by simp [hphase])
  | rejected =>
    obtain ⟨hphase, rfl⟩ := eq_of_ite_some h
    exact .closeFully rfl
  | limitReached =>
    simp only [step] at h
    split at h
    · cases h
      exact .closeFully rfl
    · cases h
  | admitted =>
    simp only [step] at h
    split at h
    · next role hphase =>
      split at h
      · next hrole =>
        cases h
        refine .advance ?_ (by simp) (by simp) (by simp [early, hphase]) (by simp [hphase])
        rcases hrole with hrole | hrole <;> simp [releases, hphase, hrole]
      · next hrole =>
        cases h
        simp only [not_or] at hrole
        exact .closeConn (by simp [releases, hphase, hrole]) (by simp [hphase])
    · cases h
  | start =>
    simp only [step] at h
    split at h
    · next role hphase =>
      split at h
      · next hclosed =>
        cases h
        exact .closeConn (by simp [releases, hclosed]) (by simp [hphase])
      · next hclosed =>
        obtain ⟨session, hstep, rfl⟩ := call_eq_some h
        refine .call (by simp [releases, hclosed]) ?_ ?_ (by simp [hphase]) ?_ (fun _ => rfl)
          hstep
        · split <;> simp
        · split <;> rfl
        · split <;> simp
    · cases h
  | install | serve =>
    obtain ⟨hphase, h⟩ := Option.ite_none_right_eq_some.1 h
    obtain ⟨session, hstep, rfl⟩ := call_eq_some h
    exact .call rfl (by simp) rfl (by simp [hphase]) (by simp) (by simp [early, hphase]) hstep
  | registerFailed =>
    obtain ⟨hphase, h⟩ := Option.ite_none_right_eq_some.1 h
    obtain ⟨session, hstep, rfl⟩ := call_eq_some h
    exact .call rfl (by simp) rfl (by simp [hphase]) (fun _ => rfl) (by simp [early, hphase]) hstep
  | closed =>
    obtain ⟨⟨hphase, hidle⟩, rfl⟩ := eq_of_ite_some h
    exact .closed hphase hidle
  | done =>
    obtain ⟨⟨hphase, hdone⟩, rfl⟩ := eq_of_ite_some h
    exact .done hphase hdone
  | session l =>
    obtain ⟨⟨hothers, hstarted⟩, h⟩ := Option.ite_none_right_eq_some.1 h
    obtain ⟨session, hstep, rfl⟩ := Option.map_eq_some_iff.1 h
    exact .session hothers hstarted hstep

/-! ## Preservation -/

theorem started_step {m m' : Session} {l : LnProxy.Label} (hstarted : m.started = true)
    (h : m.step json l = some m') : m'.started = true := by
  obtain ⟨-, hsteps⟩ := Session.step_steps h
  cases hsteps with
  | call _ _ hcalled => cases hcalled <;> first | exact hstarted | rfl
  | run _ hran => exact hran.started_eq.trans hstarted

/-- Other goroutines leave the handler's own goroutine alone, and it does not skip the `conn.Close` at
    the end of `Session.Close`. -/
theorem closeConn_stays {m m' : Session} {l : LnProxy.Label} (hw : m.Wf)
    (hstarted : m.started = true) (hothers : others l = true) (h : m.step json l = some m')
    (hlast : (m.threads (.user 0)).getLast? = some .closeConn) :
    (m'.threads (.user 0)).getLast? = some .closeConn ∨
      m'.threads (.user 0) = [] ∧ closesConn m l = true := by
  obtain ⟨-, hsteps⟩ := Session.step_steps h
  cases hsteps with
  | @call t op s₁ acts hcalls hidle hcalled =>
    have ht : Tid.user 0 ≠ t := by
      rintro rfl
      simp [others] at hothers
    rw [hcalled.threads_of_ne ht rfl]
    exact Or.inl hlast
  | @run t a k c s₁ acts hthread hran =>
    by_cases ht : Tid.user 0 = t
    · subst ht
      rw [hthread] at hlast
      rw [Session.goto_threads_self]
      cases k with
      | nil =>
        -- the last section is `conn.Close` itself
        cases hlast
        cases hran with
        | moves hmoves =>
          cases hmoves
          exact Or.inr ⟨rfl, by simp [closesConn, hthread, hstarted]⟩
      | cons b k =>
        obtain ⟨new, rfl⟩ := hran.append_of_calls hw hthread rfl
        rw [List.getLast?_cons_cons] at hlast
        rw [List.getLast?_append, hlast]
        exact Or.inl rfl
    · rw [hran.threads_of_ne ht (by simp)]
      exact Or.inl hlast

theorem idle_stays {m m' : Session} {l : LnProxy.Label} (hothers : others l = true)
    (h : m.step json l = some m') (hidle : m.threads (.user 0) = []) :
    m'.threads (.user 0) = [] := by
  obtain ⟨-, hsteps⟩ := Session.step_steps h
  cases hsteps with
  | @call t op s₁ acts _ _ hcalled =>
    have ht : Tid.user 0 ≠ t := by
      rintro rfl
      simp [others] at hothers
    rw [hcalled.threads_of_ne ht rfl, hidle]
  | @run t a k c s₁ acts hthread hran =>
    have ht : Tid.user 0 ≠ t := by
      rintro rfl
      rw [hidle] at hthread
      cases hthread
    rw [hran.threads_of_ne ht (by simp), hidle]

theorem Inv.session (hinv : s.Inv) {l : LnProxy.Label} {session : Session}
    (hothers : others l = true) (hstarted : s.session.started = true)
    (h : s.session.step json l = some session) :
    Inv { s with
      session := session,
      socket := if closesConn s.session l then s.transport.close s.socket else s.socket } := by
  refine ⟨hinv.wf.steps (Session.step_steps h).2, ?_, ?_, ?_, ?_, ?_⟩
  · intro hearly
    rw [hinv.fresh hearly] at hstarted
    cases hstarted
  · exact fun _ => Or.inr (started_step hstarted h)
  · intro hquic
    have hquic : s.transport = .quic := hquic
    refine (hinv.quic hquic).imp_right fun hopen => ?_
    dsimp only
    split
    · simpa [hquic] using hopen
    · exact hopen
  · intro htcp
    have htcp : s.transport = .tcp := htcp
    dsimp only
    split
    · simp [htcp]
    · exact hinv.tcp htcp
  · intro hphase
    rcases hinv.closing hphase with hlast | ⟨hidle, hclosed⟩
    · refine (closeConn_stays hinv.wf hstarted hothers h hlast).imp_right ?_
      rintro ⟨hidle, hcloses⟩
      refine ⟨hidle, fun htcp => ?_⟩
      have htcp : s.transport = .tcp := htcp
      simp [hcloses, htcp]
    · refine Or.inr ⟨idle_stays hothers h hidle, fun htcp => ?_⟩
      have htcp : s.transport = .tcp := htcp
      dsimp only
      split
      · simp [htcp]
      · exact hclosed htcp

theorem Inv.call (hinv : s.Inv) {op : Op} {session : Session} {phase : ServePhase}
    (hlate : early phase = false) (hreturned : s.phase ≠ .returned)
    (hclosing : phase = .closing → op = .close) (hstart : early s.phase = true → op = .start true)
    (h : s.session.step json (.call (.user 0) op) = some session) :
    Inv { s with session := session, phase := phase } := by
  obtain ⟨-, hsteps⟩ := Session.step_steps h
  refine ⟨hinv.wf.steps hsteps, ?_, ?_, ?_, hinv.tcp, ?_⟩
  · intro hearly
    rw [hlate] at hearly
    cases hearly
  · intro _
    refine Or.inr ?_
    by_cases hearly : early s.phase = true
    · -- the call starts the session, which is new
      obtain rfl := hstart hearly
      rw [hinv.fresh hearly] at h
      cases h
      rfl
    · have hstarted := (hinv.started (by simpa using hearly)).resolve_left hreturned
      exact started_step hstarted h
  · intro hquic
    exact Or.inr ((hinv.quic hquic).resolve_left hreturned)
  · intro hphase
    obtain rfl := hclosing hphase
    refine Or.inl ?_
    cases hsteps with
    | call _ _ hcalled =>
      cases hcalled
      rw [Session.goto_threads_self]
      rfl

theorem Inv.steps (hinv : s.Inv) (h : Steps json s l s') : s'.Inv := by
  cases h with
  | advance _ _ hclosing hearly hreturned =>
    refine ⟨hinv.wf, ?_, ?_, ?_, hinv.tcp, fun heq => absurd heq hclosing⟩
    · intro h
      exact hinv.fresh (hearly ▸ h)
    · intro h
      exact Or.inr ((hinv.started (hearly ▸ h)).resolve_left hreturned)
    · intro hquic
      exact Or.inr ((hinv.quic hquic).resolve_left hreturned)
  | call _ _ hlate hreturned hclosing hstart h =>
    exact hinv.call hlate hreturned hclosing hstart h
  | closeFully _ =>
    exact ⟨hinv.wf, by simp [Serving.closeFully, early], fun _ => Or.inl rfl,
      fun _ => Or.inl rfl, by simp [Serving.closeFully], by simp [Serving.closeFully]⟩
  | closeConn _ _ =>
    refine ⟨hinv.wf, by simp [Serving.closeConn, early], fun _ => Or.inl rfl,
      fun _ => Or.inl rfl, ?_, by simp [Serving.closeConn]⟩
    intro htcp
    have htcp : s.transport = .tcp := htcp
    simp [Serving.closeConn, htcp]
  | closed _ _ | done _ _ =>
    exact ⟨hinv.wf, by simp [early], fun _ => Or.inl rfl, fun _ => Or.inl rfl, hinv.tcp, by simp⟩
  | session hothers hstarted h => exact hinv.session hothers hstarted h

/-! ## The result -/

/-- Before the handler returns, the peer can send over QUIC. -/
theorem Inv.receiving_of_ne_tcp (hinv : s.Inv) (hne : s.transport ≠ .tcp)
    (hreturned : s.phase ≠ .returned) : s.transport = .quic ∧ s.socket.receiving = true := by
  have hquic : s.transport = .quic := by
    cases htransport : s.transport with
    | tcp => exact absurd htransport hne
    | quic => rfl
  exact ⟨hquic, (hinv.quic hquic).resolve_left hreturned⟩

/-- A step keeps the property exactly when it meets the condition. -/
theorem Inv.released_iff (hinv : s.Inv) (hreleased : s.Released) (h : Steps json s l s') :
    s.releases l = true ↔ s'.Released := by
  cases h with
  | advance hl hphase _ _ _ => exact ⟨fun _ heq => absurd heq hphase, fun _ => hl⟩
  | call hl hphase _ _ _ _ _ => exact ⟨fun _ heq => absurd heq hphase, fun _ => hl⟩
  | closeFully hl => exact ⟨fun _ _ => by simp [Serving.closeFully], fun _ => hl⟩
  | closeConn hl hreturned =>
    rw [hl, decide_eq_true_eq]
    constructor
    · intro htcp _
      simp [Serving.closeConn, htcp]
    · intro hreleased'
      by_contra hne
      obtain ⟨hquic, hopen⟩ := hinv.receiving_of_ne_tcp hne hreturned
      have hclosed := (hreleased' rfl).1
      simp [Serving.closeConn, hquic, hopen] at hclosed
  | closed hphase hidle =>
    rcases hinv.closing hphase with hlast | ⟨-, hclosed⟩
    · rw [hidle] at hlast
      cases hlast
    · simp only [releases, decide_eq_true_eq]
      constructor
      · intro htcp _
        exact ⟨hclosed htcp, (hinv.tcp htcp).symm.trans (hclosed htcp)⟩
      · intro hreleased'
        by_contra hne
        obtain ⟨-, hopen⟩ := hinv.receiving_of_ne_tcp hne (by simp [hphase])
        rw [(hreleased' rfl).1] at hopen
        cases hopen
  | done hphase _ =>
    simp only [releases, Bool.and_eq_true, decide_eq_true_eq, Bool.not_eq_true']
    constructor
    · rintro ⟨htcp, hclosed⟩ _
      exact ⟨hclosed, (hinv.tcp htcp).symm.trans hclosed⟩
    · intro hreleased'
      obtain ⟨hclosed, -⟩ := hreleased' rfl
      refine ⟨?_, hclosed⟩
      by_contra hne
      obtain ⟨-, hopen⟩ := hinv.receiving_of_ne_tcp hne (by simp [hphase])
      rw [hclosed] at hopen
      cases hopen
  | session _ _ _ =>
    refine ⟨fun _ hphase => ?_, fun _ => rfl⟩
    obtain ⟨hreceiving, hsending⟩ := hreleased hphase
    dsimp only
    split
    · cases s.transport <;> simp [hreceiving]
    · exact ⟨hreceiving, hsending⟩

/-- **When a connection is released.** In a run of `handleConnection`, over TCP or QUIC, both
    directions of the connection are closed whenever it has returned, if and only if it returns only
    in the ways that close it. -/
theorem released_iff_releases {transport : Transport} {as : List Label}
    (hrun : exec (step json) (new transport) as = some s) :
    Along (step json) (fun m l => m.releases l = true) (new transport) as ↔
      ∀ pre m, pre <+: as → exec (step json) (new transport) pre = some m → m.Released := by
  refine along_iff Inv Released (fun _ _ _ hinv hstep => hinv.steps (step_steps hstep)) ?_
    (new_inv transport) (fun hphase => by cases hphase) hrun
  intro m l m' hinv hreleased hstep
  exact hinv.released_iff hreleased (step_steps hstep)

/-- An exit over TCP does not register; its session is closed. -/
def unregistered : List Label :=
  [.allowed, .authenticated roleExit, .admitted, .start, .install, .registerFailed] ++
    List.replicate 3 (.session (.run (.user 0) .go)) ++ [.closed]

theorem unregistered_released :
    (exec (step sampleCodec) (new .tcp) unregistered).isSome = true ∧
      ∀ pre m, pre <+: unregistered → exec (step sampleCodec) (new .tcp) pre = some m →
        m.Released := by
  have hrun : exec (step sampleCodec) (new .tcp) unregistered =
      some (after (step sampleCodec) (new .tcp) unregistered) := exec_after (by decide +kernel)
  exact ⟨by decide +kernel, (released_iff_releases hrun).1 (by decide +kernel)⟩

/-- A client over TCP ends its side. -/
def hungUp : List Label :=
  [.allowed, .authenticated roleClient, .admitted, .start,
    .session (.run .readLoop (.readErr .eof)), .session (.run .readLoop .go), .done]

/-- A host that has failed too often connects over QUIC. -/
def turnedAway : List Label := [.refused]

/-- The clean end of a session over TCP leaves the connection open in both directions, and a refusal
    over QUIC leaves it open for the peer's data. -/
theorem hungUp_not_released :
    (exec (step sampleCodec) (new .tcp) hungUp).map (fun s => (s.phase, s.socket)) =
        some (.returned, ⟨true, true⟩) ∧
      (exec (step sampleCodec) (new .quic) turnedAway).map (fun s => (s.phase, s.socket)) =
        some (.returned, ⟨true, false⟩) := by
  decide +kernel

end Serving

end LnProxy
