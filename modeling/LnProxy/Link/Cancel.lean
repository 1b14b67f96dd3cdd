import LnProxy.Link.Fidelity

set_option autoImplicit false

/-! # Opens that their context ends

`Session.Open` writes its `FrameOpen` and waits. When the caller's context ends first, it takes the
stream out of the map, closes it and returns, and writes nothing: the peer is not told. The peer may
accept the stream at any time and send data on it. The opener answers data for an id it does not know
with a `FrameClose`, which ends only the peer's reading; the peer goes on sending. So the peer hears
of a cancelled `Open` from the `Open` in no case (`Link.peerTold_iff`). -/

namespace LnProxy

open Protocol Transition

/-! ## What an `Open` writes -/

/-- The sections that clean up behind an `Open`. -/
def Act.tidies : Act → Bool
  | .removeStream _ | .forceClose _ _ | .closeDone _ => true
  | _ => false

namespace Session

variable {json : Codec} {s s' s₁ : Session} {t : Tid} {a : Act} {c : Choice} {k acts : List Act}
  {l : Label} {op : Op} {r : Ref} {request : OpenRequest}

/-- The sections a goroutine in `Open` can have left. -/
inductive OpenLeft (json : Codec) (r : Ref) (request : OpenRequest) : List Act → Prop where
  | insert : OpenLeft json r request [.openInsert r request]
  | emit : OpenLeft json r request [.emit (openFrame json request) (.opening r)]
  | select : OpenLeft json r request [.openSelect r]
  | tidying {acts : List Act} (h : ∀ a ∈ acts, a.tidies = true) : OpenLeft json r request acts

/-- What a section that cleans up leaves are sections that clean up. -/
theorem Ran.tidies (h : Ran json s t k a c s₁ acts) (ha : a.tidies = true)
    (hk : ∀ b ∈ k, b.tidies = true) : ∀ b ∈ acts, b.tidies = true := by
  intro b hb
  cases h with
  | moves h =>
    cases h with
    | forceCloseAgain _ => exact hk b hb
    | _ => cases ha
  | removeStream | closeDone => exact hk b hb
  | forceClose _ =>
    simp only [List.mem_cons] at hb
    rcases hb with rfl | rfl | hb
    · rfl
    · rfl
    · exact hk b hb
  | _ => cases ha

theorem OpenLeft.run (h : Ran json s t k a c s₁ acts) (hleft : OpenLeft json r request (a :: k)) :
    OpenLeft json r request acts := by
  cases hleft with
  | insert =>
    cases h with
    | moves h =>
      cases h
      exact .tidying (by simp)
    | openInsert _ _ => exact .emit
  | emit =>
    cases h with
    | moves h =>
      cases h with
      | oversized _ | failed _ => exact .tidying (by simp [Purpose.onErr, Act.tidies])
    | wrote _ => exact .select
  | select =>
    cases h with
    | moves h => cases h <;> exact .tidying (by simp [Act.tidies])
    | openAccepted _ _ => exact .tidying (by simp)
    | openRejected _ _ => exact .tidying (by simp [Act.tidies])
  | tidying hall =>
    refine .tidying (h.tidies (hall a (List.mem_cons_self ..)) fun b hb => ?_)
    exact hall b (List.mem_cons_of_mem _ hb)

/-- An `Open` puts only its `FrameOpen` on the connection. -/
theorem OpenLeft.emits (hleft : OpenLeft json r request (s.threads t)) {f : Frame}
    (hf : f ∈ s.emits (.run t c)) : f = openFrame json request := by
  unfold Session.emits at hf
  split at hf
  · next u heq =>
    cases heq
    generalize hthread : s.threads t = acts at hleft hf
    cases hleft with
    | emit => simpa using hf
    | insert | select => simp at hf
    | tidying hall =>
      split at hf
      · next frame purpose rest =>
        have := hall _ (List.mem_cons_self ..)
        cases this
      · simp at hf
  · simp at hf

end Session

namespace Link

variable {json : Codec} {k m n : Link} {t : Tid} {r : Ref} {request : OpenRequest}

/-- The frame goroutine `t` of the opener puts on the connection in a step. -/
def emitsBy (k : Link) (t : Tid) : Link.Label → List Frame
  | .opener (.run u c) => if u = t then k.opener.emits (.run u c) else []
  | _ => []

/-- The frames goroutine `t` of the opener puts on the connection in a run. -/
def sentBy (json : Codec) (t : Tid) : Link → List Link.Label → List Frame
  | _, [] => []
  | k, l :: ls =>
    k.emitsBy t l ++
      match k.step json l with
      | none => []
      | some k' => sentBy json t k' ls

theorem opener_steps {l : LnProxy.Label} {k' : Link} (h : k.step json (.opener l) = some k') :
    Session.Steps json k.opener l k'.opener := by
  obtain ⟨c, s, -, hs, rfl⟩ := step_opener h
  exact (Session.step_steps hs).2

theorem step_opener_of_other {l : Link.Label} {k' : Link} (h : k.step json l = some k')
    (hl : ∀ l', l ≠ .opener l') : k'.opener = k.opener := by
  cases l with
  | opener l' => exact absurd rfl (hl l')
  | acceptor l' =>
    simp only [step, Option.bind_eq_some_iff, Option.map_eq_some_iff] at h
    obtain ⟨c, -, s, -, rfl⟩ := h
    rfl
  | hangup opener => cases opener <;> cases h <;> rfl

/-- Other goroutines leave the sections of an `Open` as they are, its own step takes it on. -/
theorem openLeft_step {l : Link.Label} {k' : Link} (hcalls : t.calls = true)
    (hleft : Session.OpenLeft json r request (k.opener.threads t)) (h : k.step json l = some k')
    (hl : ∀ op, l ≠ .opener (.call t op)) :
    Session.OpenLeft json r request (k'.opener.threads t) := by
  by_cases hopener : ∃ l', l = .opener l'
  · obtain ⟨l', rfl⟩ := hopener
    have hstep := opener_steps h
    generalize k'.opener = s' at hstep
    cases hstep with
    | @call u op s₁ acts hu hidle hcalled =>
      have hne : t ≠ u := by
        rintro rfl
        exact hl op rfl
      rwa [hcalled.threads_of_ne hne hcalls]
    | @run u a rest c s₁ acts hthread hran =>
      by_cases hut : t = u
      · subst hut
        rw [Session.goto_threads_self]
        rw [hthread] at hleft
        exact hleft.run hran
      · rwa [hran.threads_of_ne hut (by rintro q rfl; cases hcalls)]
  · rw [step_opener_of_other h fun l' hl' => hopener ⟨l', hl'⟩]
    exact hleft

theorem emitsBy_open {l : Link.Label}
    (hleft : Session.OpenLeft json r request (k.opener.threads t)) {f : Frame}
    (hf : f ∈ k.emitsBy t l) : f = openFrame json request := by
  unfold emitsBy at hf
  split at hf
  · next u c =>
    split at hf
    · next hu =>
      subst hu
      exact hleft.emits hf
    · simp at hf
  · simp at hf

/-- **An `Open` writes nothing but its `FrameOpen`**, whatever else happens until it returns. -/
theorem sentBy_open {ls : List Link.Label} (hcalls : t.calls = true)
    (hleft : Session.OpenLeft json r request (k.opener.threads t))
    (halone : ∀ op, .opener (.call t op) ∉ ls) :
    ∀ f ∈ sentBy json t k ls, f = openFrame json request := by
  induction ls generalizing k with
  | nil =>
    intro f hf
    simp [sentBy] at hf
  | cons l ls ih =>
    intro f hf
    rw [sentBy, List.mem_append] at hf
    rcases hf with hf | hf
    · exact emitsBy_open hleft hf
    · split at hf
      · simp at hf
      · next k' hk' =>
        refine ih (openLeft_step hcalls hleft hk' ?_) (fun op hop => ?_) f hf
        · rintro op rfl
          exact halone op (List.mem_cons_self ..)
        · exact halone op (List.mem_cons_of_mem _ hop)

/-! ## Telling the peer -/

/-- The frame ends the stream with the id. -/
def terminal (id : UInt64) (f : Frame) : Bool :=
  (decide (f.type = frameClose) || decide (f.type = frameError)) && decide (f.id = id)

def dataOn (id : UInt64) (f : Frame) : Bool := decide (f.type = frameData) && decide (f.id = id)

/-- Goroutine `t` calls `Open` in `m`; the context ends the call, and it has returned in `n`, with the
    session still open. -/
structure CancelledOpen (json : Codec) (m n : Link) (t : Tid) (request : OpenRequest)
    (ls : List Link.Label) : Prop where
  calls : exec (step json) m (.opener (.call t (.open request)) :: ls) = some n
  alone : ∀ op, .opener (.call t op) ∉ ls
  cancelled : .opener (.run t .context) ∈ ls
  returned : n.opener.threads t = []
  stays : n.opener.closed = false

/-- The id of the stream. -/
def openID (m : Link) (request : OpenRequest) : UInt64 := (m.opener.openRequest request).requestID

/-- The call has written a frame that ends the stream. -/
def Told (json : Codec) (m : Link) (t : Tid) (request : OpenRequest) (ls : List Link.Label) : Prop :=
  ∃ f ∈ sentBy json t m (.opener (.call t (.open request)) :: ls),
    terminal (m.openID request) f = true

/-- The peer has processed all frames sent to it that end the stream. -/
def Processed (k : Link) (id : UInt64) : Prop :=
  k.acceptor.frames.filter (terminal id) = k.opener.sentFrames.filter (terminal id) ∧
    k.acceptor.threads .readLoop = [.readFrame]

/-- From then on the peer writes no data on the stream. -/
def Quieted (json : Codec) (n : Link) (id : UInt64) (rest : List Link.Label) : Prop :=
  ∀ pre post p q, rest = pre ++ post → exec (step json) n pre = some p → p.Processed id →
    exec (step json) p post = some q →
    q.acceptor.sentFrames.filter (dataOn id) = p.acceptor.sentFrames.filter (dataOn id)

/-- Every `Open` of the run that its context ends tells the peer, and the peer stops sending. -/
def PeerTold (json : Codec) (k₀ : Link) (as : List Link.Label) : Prop :=
  ∀ pre ls rest m n t request, as = pre ++ .opener (.call t (.open request)) :: ls ++ rest →
    exec (step json) k₀ pre = some m → CancelledOpen json m n t request ls →
    Told json m t request ls ∧ Quieted json n (m.openID request) rest

theorem CancelledOpen.not_told {ls : List Link.Label} (h : CancelledOpen json m n t request ls) :
    ¬ Told json m t request ls := by
  rintro ⟨f, hf, hterminal⟩
  obtain ⟨k', hstep, -⟩ := exec_cons_some h.calls
  have hsteps := opener_steps hstep
  generalize hopener : k'.opener = s' at hsteps
  cases hsteps with
  | call hcalls hidle hcalled =>
    cases hcalled with
    | «open» =>
      have hleft : Session.OpenLeft json m.opener.count (m.opener.openRequest request)
          (k'.opener.threads t) := by
        rw [hopener, Session.goto_threads_self]
        exact .insert
      rw [sentBy, hstep] at hf
      have hopen := sentBy_open hcalls hleft h.alone f (by simpa [emitsBy] using hf)
      rw [hopen] at hterminal
      simp [terminal, openFrame, frameOpen, frameClose, frameError] at hterminal

/-- **The peer is told of the cancelled opens of a run exactly if there are none**: an `Open` that its
    context ends while the session stays open never writes a frame that ends its stream. -/
theorem peerTold_iff (json : Codec) (k₀ : Link) (as : List Link.Label) :
    PeerTold json k₀ as ↔
      ∀ pre ls rest m n t request, as = pre ++ .opener (.call t (.open request)) :: ls ++ rest →
        exec (step json) k₀ pre = some m → ¬ CancelledOpen json m n t request ls := by
  constructor
  · intro htold pre ls rest m n t request has hm hcancelled
    exact hcancelled.not_told (htold pre ls rest m n t request has hm hcancelled).1
  · intro hnone pre ls rest m n t request has hm hcancelled
    exact absurd hcancelled (hnone pre ls rest m n t request has hm)

/-- Both sessions start. -/
def bothStart : List Link.Label :=
  [.opener (.call (.user 0) (.start false)), .acceptor (.call (.user 0) (.start true))]

/-- The `FrameOpen` is written, the context ends, and `Open` returns. -/
def cancels : List Link.Label :=
  byOpener (turns (.user 0) [.go, .wrote, .context, .go, .go, .go, .go])

/-- The peer accepts the stream and sends a byte. -/
def peerAccepts : List Link.Label :=
  byAcceptor (turns .readLoop [.frame (openFrame sampleCodec (sampleRequest 1)), .go, .go] ++
    .run .dispatchLoop .go :: calling (.user 0) (.accept 0) [.go, .go, .wrote] ++
    calling (.writer 0) (.write 0 [1]) [.go, .go, .go, .wrote])

/-- The opener knows neither; it answers the data with a `FrameClose`, which the peer processes. -/
def openerAnswers : List Link.Label :=
  byOpener (turns .readLoop [.frame (ackFrame sampleCodec 1 ⟨true, "", "", ""⟩), .go,
      .frame (dataFrame 1 [1]), .go, .go, .wrote]) ++
    byAcceptor (turns .readLoop [.frame (closeFrame 1), .go, .go, .go])

def peerWritesOn : List Link.Label :=
  byAcceptor (calling (.writer 0) (.write 0 [2]) [.go, .go, .go, .wrote])

def cancelledRun : List Link.Label :=
  bothStart ++ .opener (.call (.user 0) (.open (sampleRequest 0))) :: cancels ++
    (peerAccepts ++ openerAnswers ++ peerWritesOn)

/-- The `Open` has told the peer nothing; the peer has processed the `FrameClose` that answered its
    data, has accepted the stream, and has written another byte on it. -/
theorem cancelledRun_not_peerTold :
    (∃ p q, exec (step sampleCodec) (Link.new 0 0)
        (bothStart ++ .opener (.call (.user 0) (.open (sampleRequest 0))) :: cancels ++
          (peerAccepts ++ openerAnswers)) = some p ∧ p.Processed 1 ∧ p.opener.streams 1 = none ∧
        exec (step sampleCodec) p peerWritesOn = some q ∧ (q.acceptor.obj 0).closed = false ∧
        q.acceptor.sentFrames = p.acceptor.sentFrames ++ [dataFrame 1 [2]]) ∧
      ¬ PeerTold sampleCodec (Link.new 0 0) cancelledRun := by
  constructor
  · refine ⟨_, _, exec_after (by decide +kernel), ⟨by decide +kernel, by decide +kernel⟩,
      by decide +kernel, exec_after (by decide +kernel), by decide +kernel, by decide +kernel⟩
  · intro htold
    have hstart : exec (step sampleCodec) (Link.new 0 0) bothStart =
        some (after (step sampleCodec) (Link.new 0 0) bothStart) := exec_after (by decide +kernel)
    have hcancelled : CancelledOpen sampleCodec (after (step sampleCodec) (Link.new 0 0) bothStart)
        (after (step sampleCodec) (after (step sampleCodec) (Link.new 0 0) bothStart)
          (.opener (.call (.user 0) (.open (sampleRequest 0))) :: cancels)) (.user 0)
        (sampleRequest 0) cancels := by
      refine ⟨exec_after (by decide +kernel), ?_, by decide +kernel, by decide +kernel,
        by decide +kernel⟩
      intro op hop
      simp [cancels, byOpener, turns] at hop
    exact hcancelled.not_told (htold _ _ _ _ _ _ _ rfl hstart hcancelled).1

end Link

end LnProxy
