import LnProxy.Session.Delivery

set_option autoImplicit false

/-! # An abandoned stream and the read loop

`Stream.Close` is only `CloseWrite`: the stream stays in the map, its queue keeps its bound and
`done` stays open, so the read loop goes on delivering to a stream nobody reads any more. Here the
read loop's stack is described (`LoopShape`), which frames it can always work off, and when an
abandoned stream stops it: when data arrives for it and its queue is full. -/

namespace LnProxy

open Protocol Transition

/-- The sections of handling one frame. -/
def Act.ofFrame : Act → Bool
  | .handle _ | .sendAck _ _ | .dispatch _ | .deliver _ _ | .remoteClose _ | .closeReads _
  | .forceClose _ _ | .closeDone _ | .writeFrame _ (.reply _) | .emit _ (.reply _) => true
  | _ => false

/-- The stacks of the read loop: not running, between two frames, on its way out, in the middle of a
    frame, or in the middle of a `forceClose` that a frame caused. -/
inductive LoopShape : List Act → Prop where
  | idle : LoopShape []
  | head : LoopShape [.readFrame]
  | ending {k : List Act} (h : k.getLast? = some .readReturn) : LoopShape k
  | frame {a : Act} (h : a.ofFrame = true) : LoopShape [a, .readFrame]
  | removing {q : Ref} : LoopShape [.removeStream q, .closeDone q, .readFrame]

namespace Session

variable {json : Codec} {s s' s₁ : Session} {t : Tid} {a : Act} {c : Choice} {k acts : List Act}
  {l : Label} {op : Op} {r : Ref} {q : Ref}

/-! ## The read loop's stack -/

theorem loopShape_run (hshape : LoopShape (a :: k)) (h : Ran json s t k a c s₁ acts) :
    LoopShape acts := by
  generalize hstack : a :: k = stack at hshape
  cases hshape with
  | idle => cases hstack
  | head =>
    cases hstack
    cases h with
    | moves h =>
      cases h with
      | frame => exact .frame rfl
      | readErr => exact .ending rfl
  | ending hlast =>
    subst hstack
    cases k with
    | nil =>
      cases hlast
      cases h with
      | moves h => cases h
      | readReturn => exact .idle
    | cons b k =>
      rw [List.getLast?_cons_cons] at hlast
      refine .ending ?_
      obtain ⟨new, rest, rfl, rfl | ⟨rfl, hnew⟩, -⟩ := h.pushed
      · rw [List.getLast?_append, hlast]
        rfl
      · rw [List.append_nil, hnew]
  | frame hframe =>
    cases hstack
    cases h with
    | moves h =>
      cases h with
      | overflowDone _ | deliverDone _ _ => exact .frame rfl
      | @writeFrame _ purpose _ =>
        cases purpose with
        | reply n => exact .frame rfl
        | _ => cases hframe
      | @writeFrameRefused _ purpose _ | @oversized _ purpose _ | @failed _ purpose _ _ _ =>
        cases purpose with
        | reply n => exact .head
        | _ => cases hframe
      | _ => first | exact .head | cases hframe
    | @wrote _ purpose _ =>
      cases purpose with
      | reply n => exact .head
      | _ => cases hframe
    | handle h =>
      cases h with
      | ackInvalid _ => exact .ending rfl
      | unexpectedControl _ _ _ _ => exact .ending rfl
      | unknown _ _ => exact .head
      | control _ _ _ _ => exact .head
      | _ => exact .frame rfl
    | remoteClose _ => exact .frame rfl
    | forceClose _ => exact .removing
    | deliverPanic _ _ => exact .frame rfl
    | closeReadsPanic _ => exact .frame rfl
    | _ => first | exact .head | cases hframe
  | removing =>
    cases hstack
    cases h with
    | moves h => cases h
    | removeStream => exact .frame rfl

/-! ## Goroutines inside `forceClose` -/

/-- How a `closeOnce` comes to be running. -/
theorem Ran.closeOnce_running (h : Ran json s t k a c s₁ acts)
    (hq : (s₁.obj q).closeOnce = .running) :
    (s.obj q).closeOnce = .running ∧ a ≠ .closeDone q ∨
      acts = .removeStream q :: .closeDone q :: k := by
  by_cases ha : a = .closeDone q
  · subst ha
    cases h with
    | moves h => cases h
    | closeDone => simp [modify] at hq
  · have htouched := h.touched q
    generalize s₁.obj q = y at htouched hq
    cases htouched with
    | forceClosed _ => exact Or.inr rfl
    | new _ | closeDone => cases hq
    | _ => exact Or.inl ⟨hq, ha⟩

theorem Ran.threads_overflow (h : Ran json s t k a c s₁ acts) (hu : .overflow q ≠ t) :
    (s₁.goto t acts).threads (.overflow q) = s.threads (.overflow q) ∨
      a = .dispatch q ∧ acts = k := by
  rw [goto_threads_of_ne _ _ hu]
  cases h with
  | @dispatchOverflow p _ =>
    by_cases hp : p = q
    · exact Or.inr ⟨by rw [hp], rfl⟩
    · exact Or.inl (goto_threads_of_ne _ _ (by simpa using Ne.symm hp))
  | handle h => cases h <;> exact Or.inl rfl
  | _ => exact Or.inl rfl

/-- The invariant behind progress: the read loop's stack has one of the known shapes, a `forceClose`
    that is running is the next thing some goroutine goes on with, and the goroutine `dispatch`
    starts is a new one. -/
structure Live (s : Session) : Prop where
  shape : LoopShape (s.threads .readLoop)
  running : ∀ q, (s.obj q).closeOnce = .running → ∃ t k,
    s.threads t = .closeDone q :: k ∨ s.threads t = .removeStream q :: .closeDone q :: k
  overflow : ∀ q, s.threads (.overflow q) ≠ [] → q < s.count ∧ .dispatch q ∉ s.threads .readLoop

theorem new_live (bufferSize : Nat) : (Session.new bufferSize).Live where
  shape := .idle
  running := by simp [Session.new, newStream]
  overflow := by simp [Session.new]

/-- A section does not disturb another goroutine that is at work. -/
theorem Live.threads_busy (hlive : s.Live) (hw : s.Wf) (hthread : s.threads t = a :: k)
    (h : Ran json s t k a c s₁ acts) {u : Tid} (hu : u ≠ t) (hne : s.threads u ≠ []) :
    (s₁.goto t acts).threads u = s.threads u := by
  by_cases hover : ∃ q, u = .overflow q
  · obtain ⟨q, rfl⟩ := hover
    rcases h.threads_overflow hu with heq | ⟨rfl, -⟩
    · exact heq
    · -- the goroutine that `dispatch` starts was not running
      have hmem : .dispatch q ∈ s.threads t := by rw [hthread]; exact List.mem_cons_self ..
      have hrunsOn := hw.runsOn t _ hmem
      simp only [Act.runsOn, decide_eq_true_eq] at hrunsOn
      exact absurd (hrunsOn ▸ hmem) (hlive.overflow q hne).2
  · exact h.threads_of_ne hu (fun q hq => hover ⟨q, hq⟩)

theorem Live.run (hlive : s.Live) (hw : s.Wf) (hthread : s.threads t = a :: k)
    (h : Ran json s t k a c s₁ acts) : (s₁.goto t acts).Live := by
  have hmem := mem_of_head hthread
  refine ⟨?_, ?_, ?_⟩
  · by_cases ht : Tid.readLoop = t
    · subst ht
      rw [goto_threads_self]
      exact loopShape_run (hthread ▸ hlive.shape) h
    · rw [h.threads_of_ne ht (by simp)]
      exact hlive.shape
  · intro q hq
    rcases h.closeOnce_running hq with ⟨hrunning, hne⟩ | rfl
    · obtain ⟨u, k', hu⟩ := hlive.running q hrunning
      by_cases hut : u = t
      · subst hut
        rw [hthread] at hu
        rcases hu with hu | hu
        · cases hu
          exact absurd rfl hne
        · -- the goroutine inside `forceClose` has removed the stream
          cases hu
          cases h with
          | moves h => cases h
          | removeStream => exact ⟨u, k', Or.inl (goto_threads_self ..)⟩
      · refine ⟨u, k', ?_⟩
        rw [hlive.threads_busy hw hthread h hut (by rcases hu with hu | hu <;> simp [hu])]
        exact hu
    · exact ⟨t, k, Or.inr (goto_threads_self ..)⟩
  · intro q hq
    have hold : s.threads (.overflow q) ≠ [] →
        q < s₁.count ∧ .dispatch q ∉ (s₁.goto t acts).threads .readLoop := by
      intro hne
      obtain ⟨hlt, hnot⟩ := hlive.overflow q hne
      refine ⟨Nat.lt_of_lt_of_le hlt h.count_le, fun hb => ?_⟩
      rcases h.mem_threads hthread hb with hb | ⟨-, hb⟩ | ⟨p, hp, -⟩
      · exact hnot hb
      · have := (hb.dispatch q rfl).1
        lia
      · cases hp
    by_cases ht : .overflow q = t
    · exact hold (by rw [ht, hthread]; simp)
    · rcases h.threads_overflow ht with heq | ⟨rfl, hacts⟩
      · exact hold (heq ▸ hq)
      · refine ⟨Nat.lt_of_lt_of_le (hw.refs t _ hmem q (by simp [Act.refs])) h.count_le, ?_⟩
        have hrunsOn := hw.runsOn t _ hmem
        simp only [Act.runsOn, decide_eq_true_eq] at hrunsOn
        subst hrunsOn
        rw [goto_threads_self, hacts]
        intro hb
        have := hw.follows .readLoop _ (by rw [hthread]; exact hb)
        cases this

theorem Called.closeOnce_running (h : Called json s op s₁ acts)
    (hq : (s₁.obj q).closeOnce = .running) : (s.obj q).closeOnce = .running := by
  cases h with
  | «open» | write _ =>
    simp only [alloc, modify, Function.update_apply] at hq
    split at hq <;> simp_all [newStream]
  | _ => exact hq

/-- A call does not disturb a goroutine that is at work. -/
theorem Called.threads_busy (hw : s.Wf) (hidle : s.threads t = []) (h : Called json s op s₁ acts)
    {u : Tid} (hu : s.threads u ≠ []) : (s₁.goto t acts).threads u = s.threads u := by
  have hut : u ≠ t := by
    rintro rfl
    exact hu hidle
  rw [goto_threads_of_ne _ _ hut]
  rcases h.threads with heq | ⟨hstarted, heq⟩
  · rw [heq]
  · obtain ⟨hread, hdispatch⟩ := hw.idle hstarted
    rw [heq, Function.update_of_ne, Function.update_of_ne]
    · rintro rfl
      exact hu hread
    · rintro rfl
      exact hu hdispatch

theorem Live.call (hlive : s.Live) (hw : s.Wf) (hcalls : t.calls = true) (hidle : s.threads t = [])
    (h : Called json s op s₁ acts) : (s₁.goto t acts).Live := by
  refine ⟨?_, ?_, ?_⟩
  · rcases h.readLoop_eq hw hcalls with heq | ⟨-, heq⟩
    · rw [heq]
      exact hlive.shape
    · rw [heq]
      exact .head
  · intro q hq
    obtain ⟨u, k', hu⟩ := hlive.running q (h.closeOnce_running hq)
    refine ⟨u, k', ?_⟩
    rw [h.threads_busy hw hidle (by rcases hu with hu | hu <;> simp [hu])]
    exact hu
  · intro q hq
    have hqt : .overflow q ≠ t := by
      rintro rfl
      cases hcalls
    have heq : (s₁.goto t acts).threads (.overflow q) = s.threads (.overflow q) := by
      rw [goto_threads_of_ne _ _ hqt]
      rcases h.threads with heq | ⟨-, heq⟩ <;> rw [heq]
      rfl
    obtain ⟨hlt, hnot⟩ := hlive.overflow q (heq ▸ hq)
    refine ⟨Nat.lt_of_lt_of_le hlt (by cases h <;> simp [alloc, modify, goto]), ?_⟩
    rcases h.readLoop_eq hw hcalls with heq | ⟨-, heq⟩
    · rwa [heq]
    · rw [heq]
      simp

theorem Live.steps (hlive : s.Live) (hw : s.Wf) (h : Steps json s l s') : s'.Live := by
  cases h with
  | call hcalls hidle h => exact hlive.call hw hcalls hidle h
  | run hthread h => exact hlive.run hw hthread h

theorem live_of_reachable {bufferSize : Nat}
    (h : Reachable (step json) (Session.new bufferSize) s) : s.Live := by
  refine (h.invariant (fun m => m.Wf ∧ m.Live) ?_ ⟨new_wf bufferSize, new_live bufferSize⟩).2
  rintro s₁ l s₂ ⟨hw, hlive⟩ hstep
  obtain ⟨-, hsteps⟩ := step_steps hstep
  exact ⟨hw.steps hsteps, hlive.steps hw hsteps⟩

/-! ## Working a frame off -/

/-- The read loop is not in the middle of a frame: it waits for the next one, or has left the loop. -/
def betweenFrames (s : Session) : Bool :=
  match s.threads .readLoop with
  | [] => true
  | .readFrame :: _ => true
  | k => decide (k.getLast? = some .readReturn)

/-- The steps of the session's goroutines, without the two of the owner of `r`. -/
def ownerIdle (r : Ref) : Label → Bool
  | .run t _ => decide (t ≠ .reader r ∧ t ≠ .writer r)
  | .call _ _ => false

/-- The read loop can finish the current frame without a step of the owner of `r` and without a
    further call of the application. -/
def FinishesFrame (json : Codec) (r : Ref) (s : Session) : Prop :=
  Can (step json) (fun l => ownerIdle r l = true) (fun m => m.betweenFrames = true) s

theorem FinishesFrame.run {m : Session} (hcrashed : s.crashed = false)
    (hthread : s.threads t = a :: k) (ht : t ≠ .reader r ∧ t ≠ .writer r)
    (hact : s.runAct json t k a c = some m) (h : m.FinishesFrame json r) :
    s.FinishesFrame json r := by
  refine Can.next (a := .run t c) ?_ ?_ h
  · simpa [ownerIdle] using ht
  · simp [step, hcrashed, hthread, hact]

/-- The read loop's own next section. -/
theorem FinishesFrame.readLoop {m : Session} (hcrashed : s.crashed = false)
    (hthread : s.threads .readLoop = a :: k) (hact : s.runAct json .readLoop k a c = some m)
    (h : m.FinishesFrame json r) : s.FinishesFrame json r :=
  h.run hcrashed hthread (by simp) hact

theorem finishes_of_head (hthread : s.threads .readLoop = .readFrame :: k) :
    s.FinishesFrame json r :=
  Can.now (by simp [betweenFrames, hthread])

theorem finishes_closeDone (hcrashed : s.crashed = false)
    (hthread : s.threads .readLoop = [.closeDone q, .readFrame]) : s.FinishesFrame json r :=
  .readLoop hcrashed hthread (c := .go) rfl (finishes_of_head (goto_threads_self ..))

theorem finishes_removing (hcrashed : s.crashed = false)
    (hthread : s.threads .readLoop = [.removeStream q, .closeDone q, .readFrame]) :
    s.FinishesFrame json r :=
  .readLoop hcrashed hthread (c := .go) rfl (finishes_closeDone hcrashed (goto_threads_self ..))

theorem finishes_forceClose {err : Err} (hlive : s.Live) (hcrashed : s.crashed = false)
    (hreader : s.threads (.reader r) = []) (hwriter : s.threads (.writer r) = [])
    (hthread : s.threads .readLoop = [.forceClose q err, .readFrame]) :
    s.FinishesFrame json r := by
  have hfinished : ∀ m : Session, m.crashed = false → (m.obj q).closeOnce = .finished →
      m.threads .readLoop = [.forceClose q err, .readFrame] → m.FinishesFrame json r := by
    intro m hm honce hmthread
    refine .readLoop hm hmthread (c := .go) (m := m.goto .readLoop [.readFrame]) ?_
      (finishes_of_head (goto_threads_self ..))
    simp [runAct, honce]
  cases honce : (s.obj q).closeOnce with
  | idle =>
    refine .readLoop hcrashed hthread (c := .go)
      (m := (s.modify q fun y => y.forceClose err).goto .readLoop
        [.removeStream q, .closeDone q, .readFrame]) (by simp [runAct, honce]) ?_
    exact finishes_removing hcrashed (goto_threads_self ..)
  | finished => exact hfinished s hcrashed honce hthread
  | running =>
    -- another goroutine is inside `forceClose`, and needs nobody to get out of it
    have hclose : ∀ (m : Session) (u : Tid) (k' : List Act), m.crashed = false →
        u ≠ .readLoop → u ≠ .reader r ∧ u ≠ .writer r → m.threads u = .closeDone q :: k' →
        m.threads .readLoop = [.forceClose q err, .readFrame] → m.FinishesFrame json r := by
      intro m u k' hm hread hother hu hmthread
      refine .run hm hu hother (c := .go) rfl (hfinished _ hm (by simp [modify]) ?_)
      rw [goto_threads_of_ne _ _ hread.symm]
      exact hmthread
    obtain ⟨u, k', hu⟩ := hlive.running q honce
    have hread : u ≠ .readLoop := by
      rintro rfl
      rcases hu with hu | hu <;> · rw [hthread] at hu; cases hu
    have hother : u ≠ .reader r ∧ u ≠ .writer r := by
      constructor
      · rintro rfl
        rcases hu with hu | hu <;> · rw [hreader] at hu; cases hu
      · rintro rfl
        rcases hu with hu | hu <;> · rw [hwriter] at hu; cases hu
    rcases hu with hu | hu
    · exact hclose s u k' hcrashed hread hother hu hthread
    · refine .run hcrashed hu hother (c := .go) rfl ?_
      refine hclose _ u k' hcrashed hread hother (goto_threads_self ..) ?_
      rw [goto_threads_of_ne _ _ hread.symm]
      exact hthread

theorem finishes_emit {frame : Frame} {n : Nat} (hcrashed : s.crashed = false)
    (hthread : s.threads .readLoop = [.emit frame (.reply n), .readFrame]) :
    s.FinishesFrame json r := by
  by_cases hfits : frame.fits
  · refine .readLoop hcrashed hthread (c := .wrote)
      (m := { s with output := s.output ++ [(frame, Purpose.reply n)] }.goto .readLoop [.readFrame]) ?_
      (finishes_of_head (goto_threads_self ..))
    exact if_pos hfits
  · refine .readLoop hcrashed hthread (c := .go) (m := s.goto .readLoop [.readFrame]) ?_
      (finishes_of_head (goto_threads_self ..))
    exact if_neg hfits

theorem finishes_writeFrame {frame : Frame} {n : Nat} (hcrashed : s.crashed = false)
    (hthread : s.threads .readLoop = [.writeFrame frame (.reply n), .readFrame]) :
    s.FinishesFrame json r := by
  by_cases hrefuses : s.refuses = true
  · refine .readLoop hcrashed hthread (c := .go) (m := s.goto .readLoop [.readFrame]) ?_
      (finishes_of_head (goto_threads_self ..))
    exact if_pos hrefuses
  · refine .readLoop hcrashed hthread (c := .go)
      (m := s.goto .readLoop [.emit frame (.reply n), .readFrame]) ?_
      (finishes_emit hcrashed (goto_threads_self ..))
    exact if_neg hrefuses

theorem finishes_closeReads (hcrashed : s.crashed = false)
    (hopen : (s.obj q).reads.closed = false)
    (hthread : s.threads .readLoop = [.closeReads q, .readFrame]) : s.FinishesFrame json r := by
  refine .readLoop hcrashed hthread (c := .go)
    (m := (s.modify q fun y => { y with reads := y.reads.shut }).goto .readLoop [.readFrame]) ?_
    (finishes_of_head (goto_threads_self ..))
  exact if_neg (by simp [hopen])

theorem finishes_remoteClose (hw : s.Wf) (hcrashed : s.crashed = false)
    (hthread : s.threads .readLoop = [.remoteClose q, .readFrame]) : s.FinishesFrame json r := by
  by_cases heof : (s.obj q).remoteEOF = true
  · refine .readLoop hcrashed hthread (c := .go) (m := s.goto .readLoop [.readFrame]) ?_
      (finishes_of_head (goto_threads_self ..))
    exact if_pos heof
  · have hopen := (hw.ok q).reads_open (Bool.eq_false_of_not_eq_true heof)
    refine .readLoop hcrashed hthread (c := .go)
      (m := (s.modify q fun y => { y with remoteEOF := true }).goto .readLoop
        [.closeReads q, .readFrame]) ?_
      (finishes_closeReads hcrashed (by simpa [modify] using hopen) (goto_threads_self ..))
    exact if_neg heof

theorem finishes_dispatch (hcrashed : s.crashed = false)
    (hthread : s.threads .readLoop = [.dispatch q, .readFrame]) : s.FinishesFrame json r := by
  by_cases hfull : s.incoming.full = true
  · refine .readLoop hcrashed hthread (c := .go)
      (m := (s.goto (.overflow q) [.overflow q]).goto .readLoop [.readFrame]) ?_
      (finishes_of_head (goto_threads_self ..))
    exact if_pos hfull
  · refine .readLoop hcrashed hthread (c := .go)
      (m := { s with incoming := s.incoming.push q }.goto .readLoop [.readFrame]) ?_
      (finishes_of_head (goto_threads_self ..))
    exact if_neg hfull

/-- Delivery to a stream with room, or of nothing. -/
theorem finishes_deliver {data : Bytes} (hcrashed : s.crashed = false)
    (hroom : data ≠ [] → (s.obj q).reads.closed = false ∧ (s.obj q).reads.full = false)
    (hthread : s.threads .readLoop = [.deliver q data, .readFrame]) : s.FinishesFrame json r := by
  by_cases hdata : data = []
  · refine .readLoop hcrashed hthread (c := .go) (m := s.goto .readLoop [.readFrame]) ?_
      (finishes_of_head (goto_threads_self ..))
    exact if_pos hdata
  · obtain ⟨hopen, hfull⟩ := hroom hdata
    refine .readLoop hcrashed hthread (c := .go)
      (m := (s.modify q fun y => { y with reads := y.reads.push data }).goto .readLoop
        [.readFrame]) ?_ (finishes_of_head (goto_threads_self ..))
    calc s.runAct json .readLoop [.readFrame] (.deliver q data) .go
      _ = if (s.obj q).reads.closed then some { s with crashed := true }
          else if (s.obj q).reads.full then none else some _ := if_neg hdata
      _ = if (s.obj q).reads.full then none else some _ := if_neg (by simp [hopen])
      _ = some _ := if_neg (by simp [hfull])

/-! ## Frames for a stream nobody reads -/

/-- The read loop is at work on non-empty data for the id of `r`. -/
def dataFor (s : Session) (r : Ref) : Bool :=
  match s.threads .readLoop with
  | .handle frame :: _ =>
    decide (frame.type = frameData ∧ frame.payload ≠ [] ∧ frame.id = (s.obj r).id)
  | .deliver q data :: _ => decide (q = r ∧ data ≠ [])
  | _ => false

/-- The stream can take one more chunk. -/
def hasRoom (s : Session) (r : Ref) : Bool := !(s.obj r).remoteEOF && !(s.obj r).reads.full

/-- The stream whose queue is full or ended while the read loop is at work on non-empty data for it. -/
def blockedBy (s : Session) : Option Ref :=
  match s.threads .readLoop with
  | .handle frame :: _ =>
    if frame.type = frameData ∧ frame.payload ≠ [] then
      (s.streams frame.id).filter fun q => !s.hasRoom q
    else none
  | .deliver q data :: _ => if data ≠ [] ∧ s.hasRoom q = false then some q else none
  | _ => none

def blockedByOther (s : Session) (r : Ref) : Bool := s.blockedBy.any fun q => q ≠ r

/-- The stream's owner has called `Close` and is gone. -/
def abandoned (s : Session) (r : Ref) : Bool :=
  (s.obj r).owned && ((s.obj r).localEOF || (s.obj r).closed) &&
    decide (s.threads (.reader r) = [] ∧ s.threads (.writer r) = [])

/-- The steps after which the read loop still gets past `r`: the owner makes none, non-empty data for
    `r` arrives only when its queue has room, and `r` is not force-closed while the read loop works
    on such a frame. -/
def leavesRoom (r : Ref) (s : Session) : Label → Bool
  | .call t _ => decide (t ≠ .reader r ∧ t ≠ .writer r)
  | .run t c => decide (t ≠ .reader r ∧ t ≠ .writer r) &&
      match c, s.threads t with
      | .frame frame, _ =>
        !decide (frame.type = frameData ∧ frame.payload ≠ [] ∧ frame.id = (s.obj r).id) ||
          s.hasRoom r
      | .go, .forceClose q _ :: _ =>
        !(decide (q = r ∧ (s.obj r).closeOnce = .idle) && s.dataFor r)
      | _, _ => true

theorem Wf.open_of_hasRoom (hw : s.Wf) (h : s.hasRoom r = true) :
    (s.obj r).reads.closed = false ∧ (s.obj r).reads.full = false := by
  simp only [hasRoom, Bool.and_eq_true, Bool.not_eq_true'] at h
  exact ⟨(hw.ok r).reads_open h.1, h.2⟩

/-- The rest of a frame after the switch. -/
theorem finishes_handled {frame : Frame} (h : Handled json s [.readFrame] frame s₁ acts)
    (hws : s.Wf) (hw : (s₁.goto .readLoop acts).Wf) (hlive : (s₁.goto .readLoop acts).Live)
    (hcrashed : s.crashed = false) (hthread : s.threads .readLoop = [.handle frame, .readFrame])
    (hreader : (s₁.goto .readLoop acts).threads (.reader r) = [])
    (hwriter : (s₁.goto .readLoop acts).threads (.writer r) = [])
    (hfree : s.blockedBy = none) : (s₁.goto .readLoop acts).FinishesFrame json r := by
  have hstack := goto_threads_self s₁ .readLoop acts
  cases h with
  | openInvalid _ _ | unknownData _ _ => exact finishes_writeFrame hcrashed hstack
  | openClosed _ _ _ | error _ _ =>
    exact finishes_forceClose hlive hcrashed hreader hwriter hstack
  | openNew _ _ _ => exact finishes_dispatch hcrashed hstack
  | ackInvalid _ => exact Can.now (by simp [betweenFrames])
  | unexpectedControl _ _ _ _ => exact Can.now (by simp [betweenFrames])
  | unknown _ _ => exact finishes_of_head hstack
  | control _ _ _ _ => exact finishes_of_head hstack
  | ack _ _ =>
    exact .readLoop hcrashed hstack (c := .go) rfl (finishes_of_head (goto_threads_self ..))
  | close _ _ => exact finishes_remoteClose hw hcrashed hstack
  | @data q htype hq =>
    refine finishes_deliver hcrashed (fun hdata => ?_) hstack
    have hroom : s.hasRoom q = true := by simpa [blockedBy, hthread, htype, hdata, hq] using hfree
    exact hws.open_of_hasRoom hroom

/-- **Every frame can be worked off** as long as there is room for the data it carries. -/
theorem finishesFrame_of_room (hw : s.Wf) (hlive : s.Live) (hcrashed : s.crashed = false)
    (hreader : s.threads (.reader r) = []) (hwriter : s.threads (.writer r) = [])
    (hfree : s.blockedBy = none) : s.FinishesFrame json r := by
  have hshape := hlive.shape
  generalize hthread : s.threads .readLoop = stack at hshape
  cases hshape with
  | idle => exact Can.now (by simp [betweenFrames, hthread])
  | head => exact finishes_of_head hthread
  | ending hlast =>
    refine Can.now ?_
    unfold betweenFrames
    split
    · rfl
    · rfl
    · rw [hthread, hlast]
      rfl
  | removing => exact finishes_removing hcrashed hthread
  | @frame a hframe =>
    have hmem : a ∈ s.threads .readLoop := by rw [hthread]; exact List.mem_cons_self ..
    cases a with
    | handle frame =>
      have hran : Ran json s .readLoop [.readFrame] (.handle frame) .go _ _ :=
        .handle (handle_handled json s [.readFrame] frame)
      refine .readLoop hcrashed hthread (c := .go) rfl ?_
      refine finishes_handled (handle_handled json s [.readFrame] frame) hw
        (hw.run hthread hran) (hlive.run hw hthread hran) hcrashed hthread ?_ ?_ hfree
      · rw [hran.threads_of_ne (by simp) (by simp), hreader]
      · rw [hran.threads_of_ne (by simp) (by simp), hwriter]
    | sendAck q ack =>
      exact .readLoop hcrashed hthread (c := .go) rfl (finishes_of_head (goto_threads_self ..))
    | dispatch q => exact finishes_dispatch hcrashed hthread
    | deliver q data =>
      refine finishes_deliver hcrashed (fun hdata => ?_) hthread
      have hroom : s.hasRoom q = true := by simpa [blockedBy, hthread, hdata] using hfree
      exact hw.open_of_hasRoom hroom
    | remoteClose q => exact finishes_remoteClose hw hcrashed hthread
    | closeReads q =>
      exact finishes_closeReads hcrashed (hw.closeReads _ _ hmem).2 hthread
    | forceClose q err => exact finishes_forceClose hlive hcrashed hreader hwriter hthread
    | closeDone q => exact finishes_closeDone hcrashed hthread
    | writeFrame frame purpose =>
      cases purpose with
      | reply n => exact finishes_writeFrame hcrashed hthread
      | _ => cases hframe
    | emit frame purpose =>
      cases purpose with
      | reply n => exact finishes_emit hcrashed hthread
      | _ => cases hframe
    | _ => cases hframe

/-! ## Runs in which the queue never overflows -/

/-- A goroutine other than the read loop takes no room from `r`, unless it force-closes it. -/
theorem Ran.hasRoom (h : Ran json s t k a c s₁ acts) (hrunsOn : a.runsOn t = true)
    (ht : t ≠ .readLoop)
    (hforce : ∀ err, a = .forceClose r err → c = .go → (s.obj r).closeOnce ≠ .idle)
    (hroom : s.hasRoom r = true) : s₁.hasRoom r = true := by
  cases h with
  | handle _ | deliver _ _ _ | remoteClose _ | closeReads _ =>
    simp only [Act.runsOn, decide_eq_true_eq] at hrunsOn
    exact absurd hrunsOn ht
  | @forceClose q err hidle =>
    have hqr : r ≠ q := by
      rintro rfl
      exact hforce err rfl rfl hidle
    simpa [Session.hasRoom, modify, hqr] using hroom
  | @readChunk q _ _ _ hbuf =>
    by_cases hqr : r = q
    · subst hqr
      simp only [Session.hasRoom, Bool.and_eq_true, Bool.not_eq_true'] at hroom
      simp [Session.hasRoom, modify, hroom.1, Chan.pop_full hroom.2]
    · simpa [Session.hasRoom, modify, hqr] using hroom
  | openInsert _ _ | openAccepted _ _ | openRejected _ _ | sendAck | dispatchHandler _ | readCopy _
  | readEOF _ _ _ | closeWrite _ _ | closeDone | source | sourceErr =>
    simp only [Session.hasRoom, modify, register, Function.update_apply] at hroom ⊢
    split <;> simp_all [Stream.copyOut]
  | _ => exact hroom

theorem Called.hasRoom (h : Called json s op s₁ acts) (hr : r < s.count)
    (hroom : s.hasRoom r = true) : s₁.hasRoom r = true := by
  obtain ⟨p, hobj, -⟩ := h.obj_eq hr
  rw [Session.hasRoom, hobj]
  exact hroom

/-- What holds after every step that leaves room for `r`. -/
structure Roomy (r : Ref) (s : Session) : Prop where
  wf : s.Wf
  live : s.Live
  lt : r < s.count
  reader : s.threads (.reader r) = []
  writer : s.threads (.writer r) = []
  room : s.dataFor r = true → s.hasRoom r = true
  crashed : s.crashed = true → s.blockedByOther r = true

theorem dataFor_of_threads_eq (hthreads : s'.threads .readLoop = s.threads .readLoop)
    (hid : (s'.obj r).id = (s.obj r).id) : s'.dataFor r = s.dataFor r := by
  rw [dataFor, dataFor, hthreads, hid]

theorem Roomy.call (h : s.Roomy r) (hok : leavesRoom r s (.call t op) = true)
    (hcalls : t.calls = true) (hidle : s.threads t = []) (hcrashed : s.crashed = false)
    (hcalled : Called json s op s₁ acts) : (s₁.goto t acts).Roomy r := by
  simp only [leavesRoom, decide_eq_true_eq] at hok
  have hkeep : ∀ u : Tid, u ≠ t → u ≠ .readLoop → u ≠ .dispatchLoop →
      (s₁.goto t acts).threads u = s.threads u := by
    intro u hu hread hdispatch
    rw [goto_threads_of_ne _ _ hu]
    rcases hcalled.threads with heq | ⟨-, heq⟩
    · rw [heq]
    · rw [heq, Function.update_of_ne hdispatch, Function.update_of_ne hread]
  refine ⟨h.wf.call hcalls hcalled, h.live.call h.wf hcalls hidle hcalled, ?_, ?_, ?_, ?_, ?_⟩
  · exact Nat.lt_of_lt_of_le h.lt (by cases hcalled <;> simp [alloc, modify, goto])
  · rw [hkeep _ (Ne.symm hok.1) (by simp) (by simp), h.reader]
  · rw [hkeep _ (Ne.symm hok.2) (by simp) (by simp), h.writer]
  · intro hdata
    refine hcalled.hasRoom h.lt (h.room ?_)
    rcases hcalled.readLoop_eq h.wf hcalls with heq | ⟨-, heq⟩
    · rwa [dataFor_of_threads_eq heq ((hcalled.changed r).id_eq h.lt)] at hdata
    · simp [dataFor, heq] at hdata
  · intro hbad
    have : s₁.crashed = s.crashed := by cases hcalled <;> rfl
    rw [goto_crashed, this, hcrashed] at hbad
    cases hbad

theorem dataFor_iff : s.dataFor r = true ↔
    (∃ frame k, s.threads .readLoop = .handle frame :: k ∧ frame.type = frameData ∧
      frame.payload ≠ [] ∧ frame.id = (s.obj r).id) ∨
    ∃ data k, s.threads .readLoop = .deliver r data :: k ∧ data ≠ [] := by
  unfold dataFor
  split
  · next frame k hthread => simp [hthread]
  · next q data k hthread =>
    simp only [hthread, decide_eq_true_eq, List.cons.injEq, reduceCtorEq, false_and,
      exists_false, false_or, Act.deliver.injEq]
    constructor
    · rintro ⟨rfl, hdata⟩
      exact ⟨data, k, ⟨⟨rfl, rfl⟩, rfl⟩, hdata⟩
    · rintro ⟨data', k', ⟨⟨rfl, rfl⟩, rfl⟩, hdata⟩
      exact ⟨rfl, hdata⟩
  · next hhandle hdeliver =>
    simp only [Bool.false_eq_true, false_iff]
    rintro (⟨frame, k, hthread, -⟩ | ⟨data, k, hthread, -⟩)
    · exact hhandle frame k hthread
    · exact hdeliver r data k hthread

theorem Roomy.run (h : s.Roomy r) (hok : leavesRoom r s (.run t c) = true)
    (hthread : s.threads t = a :: k) (hcrashed : s.crashed = false)
    (hran : Ran json s t k a c s₁ acts) : (s₁.goto t acts).Roomy r := by
  simp only [leavesRoom, Bool.and_eq_true, decide_eq_true_eq] at hok
  obtain ⟨⟨hreader, hwriter⟩, hok⟩ := hok
  have hmem := mem_of_head hthread
  have hrunsOn := h.wf.runsOn t a hmem
  have hbehind : ∀ b ∈ k, b.follows = true := by
    intro b hb
    exact h.wf.follows t b (by rw [hthread]; exact hb)
  have hopen : s.dataFor r = true →
      (s.obj r).reads.closed = false ∧ (s.obj r).reads.full = false := fun hdata =>
    h.wf.open_of_hasRoom (h.room hdata)
  refine ⟨h.wf.run hthread hran, h.live.run h.wf hthread hran,
    Nat.lt_of_lt_of_le h.lt hran.count_le, ?_, ?_, ?_, ?_⟩
  · rw [hran.threads_of_ne (Ne.symm hreader) (by simp), h.reader]
  · rw [hran.threads_of_ne (Ne.symm hwriter) (by simp), h.writer]
  · intro hdata
    by_cases ht : Tid.readLoop = t
    · subst ht
      rcases dataFor_iff.1 hdata with ⟨frame, k', hhead, htype, hpayload, hid⟩ |
        ⟨data, k', hhead, hpayload⟩
      · -- the frame has just been read
        rw [goto_threads_self] at hhead
        have hb : .handle frame ∈ acts := by rw [hhead]; exact List.mem_cons_self ..
        obtain ⟨rfl, rfl, rfl⟩ := hran.handle_mem hb (fun hb => by cases hbehind _ hb)
        rw [goto_obj] at hid
        have : s₁.hasRoom r = true := by simpa [htype, hpayload, hid] using hok
        exact this
      · -- the stream has just been looked up
        have hmem' : .deliver r data ∈ (s₁.goto .readLoop acts).threads .readLoop := by
          rw [hhead]; exact List.mem_cons_self ..
        have hgone : a ≠ .deliver r data := by
          rintro rfl
          have hroom := hopen (dataFor_iff.2 (Or.inr ⟨data, k, hthread, hpayload⟩))
          rw [goto_threads_self] at hmem'
          exact deliver_gone h.wf hthread hran hpayload hroom.1 hmem'
        rcases hran.mem_threads hthread hmem' with hb | ⟨-, hpushed⟩ | ⟨q, hq, -⟩
        · exact absurd (h.wf.head_eq hthread hb rfl).symm hgone
        · rcases hpushed.deliver r data rfl with heq | ⟨frame, rfl, htype, rfl, hr, hobj⟩
          · exact absurd heq.symm hgone
          · have hfor : s.dataFor r = true := dataFor_iff.2 (Or.inl ⟨frame, k, hthread, htype,
              hpayload, (h.wf.streams _ _ hr).2.symm⟩)
            have hroom := h.room hfor
            rwa [Session.hasRoom, ← hobj] at hroom
        · cases hq
    · rw [dataFor_of_threads_eq (hran.threads_of_ne ht (by simp)) (hran.id_eq h.wf hthread h.lt)]
        at hdata
      refine hran.hasRoom hrunsOn (Ne.symm ht) ?_ (h.room hdata)
      rintro err rfl rfl hidle
      simp [hthread, hidle, hdata] at hok
  · intro hbad
    obtain ⟨rfl, rfl, q, data, rfl, rfl, hdata, hclosed⟩ :=
      hran.crashed h.wf hthread hcrashed hbad
    have hqr : q ≠ r := by
      rintro rfl
      rw [(hopen (dataFor_iff.2 (Or.inr ⟨data, k, hthread, hdata⟩))).1] at hclosed
      cases hclosed
    have hnoRoom : s.hasRoom q = false := by
      by_contra hroom
      rw [(h.wf.open_of_hasRoom (Bool.eq_true_of_not_eq_false hroom)).1] at hclosed
      cases hclosed
    have hblocked : blockedBy (goto { s with crashed := true } .readLoop (.deliver q data :: k)) =
        some q := by
      simp only [blockedBy, goto_threads_self]
      exact if_pos ⟨hdata, hnoRoom⟩
    simp [blockedByOther, hblocked, hqr]

theorem Roomy.not_blocked (h : s.Roomy r) (hother : s.blockedByOther r = false) :
    s.blockedBy = none := by
  cases hblocked : s.blockedBy with
  | none => rfl
  | some q =>
    have hq : q = r := by simpa [blockedByOther, hblocked] using hother
    subst hq
    -- the stream in the way is the abandoned one, and that has room
    have hdata : s.dataFor q = true ∧ s.hasRoom q = false := by
      unfold blockedBy at hblocked
      split at hblocked
      · next frame k hthread =>
        split at hblocked
        · next hframe =>
          obtain ⟨hstream, hroom⟩ := Option.filter_eq_some_iff.1 hblocked
          refine ⟨dataFor_iff.2 (Or.inl ⟨frame, k, hthread, hframe.1, hframe.2, ?_⟩), ?_⟩
          · exact (h.wf.streams _ _ hstream).2.symm
          · simpa using hroom
        · cases hblocked
      · next p data k hthread =>
        split at hblocked
        · next hdata =>
          cases hblocked
          exact ⟨dataFor_iff.2 (Or.inr ⟨data, k, hthread, hdata.1⟩), hdata.2⟩
        · cases hblocked
      · cases hblocked
    rw [h.room hdata.1] at hdata
    cases hdata.2

/-- The read loop receives a frame and works on it. -/
def receive (frame : Frame) : List Label :=
  turns .readLoop [.frame frame, .go, .go]

/-- A peer opens stream 1, the handler gets it and calls `Close` on it. -/
def openThenClose : List Label :=
  [.call (.user 0) (.start true)] ++ receive (openFrame sampleCodec (sampleRequest 1)) ++
    .run .dispatchLoop .go :: calling (.writer 0) (.closeWrite 0) [.go, .go, .wrote]

/-- **An abandoned stream with room does not stall its session.** Take a reachable state in which the
    owner of `r` has called `Close` and is gone, and a run from there in which the owner makes no
    step and data for `r` arrives only while its queue has room. In every state of the run the read
    loop can finish the frame it is working on, whatever the frame is, unless it carries data for
    another stream whose own queue is full or ended. -/
theorem abandoned_finishesFrame {bufferSize : Nat} {as : List Label}
    (hs : Reachable (step json) (Session.new bufferSize) s) (habandoned : s.abandoned r = true)
    (hroom : s.dataFor r = true → s.hasRoom r = true)
    (hrunning : s.crashed = false)
    (hok : Along (step json) (fun m l => leavesRoom r m l = true) s as)
    (hrun : exec (step json) s as = some s') :
    s'.FinishesFrame json r ∨ s'.blockedByOther r = true := by
  have hinv : s'.Roomy r := by
    refine exec_invariant (Roomy r) ?_ ?_ hok hrun
    · intro s₁ l s₂ hroomy hl hstep
      obtain ⟨hcrashed, hsteps⟩ := step_steps hstep
      cases hsteps with
      | call hcalls hidle h => exact hroomy.call hl hcalls hidle hcrashed h
      | run hthread h => exact hroomy.run hl hthread hcrashed h
    · simp only [abandoned, Bool.and_eq_true, decide_eq_true_eq] at habandoned
      obtain ⟨⟨howned, -⟩, hreader, hwriter⟩ := habandoned
      have hw := wf_of_reachable hs
      refine ⟨hw, live_of_reachable hs, hw.owned_lt howned, hreader, hwriter, hroom, ?_⟩
      intro hcrashed
      rw [hrunning] at hcrashed
      cases hcrashed
  by_cases hother : s'.blockedByOther r = true
  · exact Or.inr hother
  · refine Or.inl (finishesFrame_of_room hinv.wf hinv.live ?_ hinv.reader hinv.writer ?_)
    · by_contra hcrashed
      exact hother (hinv.crashed (Bool.eq_true_of_not_eq_false hcrashed))
    · exact hinv.not_blocked (Bool.eq_false_of_not_eq_true hother)

/-- The peer sends as many chunks as the queue of 32 holds; the last one is still to be handled. -/
def useQueue : List Label :=
  (List.replicate 31 (receive (dataFrame 1 [120]))).flatten ++
    [.run .readLoop (.frame (dataFrame 1 [120]))]

/-- The state the handler leaves behind. -/
def leftOpen : Session := after (step sampleCodec) (Session.new 0) openThenClose

theorem leftOpen_finishesFrame :
    exec (step sampleCodec) (Session.new 0) openThenClose = some leftOpen ∧
      leftOpen.abandoned 0 = true ∧ (after (step sampleCodec) leftOpen useQueue).dataFor 0 = true ∧
      (after (step sampleCodec) leftOpen useQueue).FinishesFrame sampleCodec 0 := by
  have hopened : exec (step sampleCodec) (Session.new 0) openThenClose = some leftOpen :=
    exec_after (by decide +kernel)
  have habandoned : leftOpen.abandoned 0 = true := by decide +kernel
  refine ⟨hopened, habandoned, by decide +kernel, ?_⟩
  exact (abandoned_finishesFrame ⟨_, hopened⟩ habandoned (by decide +kernel) (by decide +kernel)
    (by decide +kernel) (exec_after (by decide +kernel))).resolve_right (by decide +kernel)

/-! ## A full queue -/

/-- With a full queue nothing moves: when the read loop waits for room in the queue of `r` and every
    other goroutine of the session is idle, no section of the session can run. -/
theorem not_finishesFrame_of_full {data : Bytes}
    (hthread : s.threads .readLoop = [.deliver r data, .readFrame]) (hdata : data ≠ [])
    (hopen : (s.obj r).reads.closed = false) (hfull : (s.obj r).reads.full = true)
    (hdone : (s.obj r).done = false) (hdispatch : s.threads .dispatchLoop = [.dispatchLoop])
    (hincoming : s.incoming.buf = []) (hsession : s.done = false)
    (hidle : ∀ t, t ≠ .readLoop → t ≠ .dispatchLoop → s.threads t = []) :
    ¬ s.FinishesFrame json r := by
  intro h
  have hstuck : ∀ l, ownerIdle r l = true → s.step json l = none := by
    intro l hl
    cases l with
    | call t op => cases hl
    | run t c =>
      simp only [step]
      split
      · rfl
      · by_cases hread : t = .readLoop
        · subst hread
          rw [hthread]
          cases c with
          | go =>
            refine (if_neg hdata).trans ((if_neg ?_).trans (if_pos hfull))
            simp [hopen]
          | done => exact if_neg (by simp [hdone])
          | _ => rfl
        · by_cases hdis : t = .dispatchLoop
          · subst hdis
            rw [hdispatch]
            cases c with
            | go => simp only [runAct, hincoming]
            | sessionDone => exact if_neg (by simp [hsession])
            | _ => rfl
          · rw [hidle t hread hdis]
  have := Can.of_stuck hstuck h
  simp [betweenFrames, hthread] at this

/-- The goroutine a label belongs to. -/
def Label.tid : Label → Tid
  | .call t _ | .run t _ => t

theorem exec_threads_of_not_mem {as : List Label} {u : Tid} (hu : u.calls = true)
    (hnot : ∀ l ∈ as, Label.tid l ≠ u) (h : exec (step json) s as = some s') :
    s'.threads u = s.threads u := by
  induction as generalizing s with
  | nil =>
    cases h
    rfl
  | cons l as ih =>
    obtain ⟨m, hstep, hrest⟩ := exec_cons_some h
    rw [ih (fun l' hl' => hnot l' (List.mem_cons_of_mem l hl')) hrest]
    have hl := hnot l (List.mem_cons_self ..)
    obtain ⟨-, hsteps⟩ := step_steps hstep
    cases hsteps with
    | @call t op s₁ acts hcalls hidle hcalled =>
      have hut : u ≠ t := Ne.symm hl
      rw [goto_threads_of_ne _ _ hut]
      rcases hcalled.threads with heq | ⟨-, heq⟩
      · rw [heq]
      · rw [heq, Function.update_of_ne, Function.update_of_ne] <;>
          · rintro rfl
            cases hu
    | run hthread hran =>
      refine hran.threads_of_ne (Ne.symm hl) ?_
      rintro q rfl
      cases hu

/-- The peer sends one more chunk than the queue of 32 holds. -/
def fillQueue : List Label :=
  (List.replicate 32 (receive (dataFrame 1 [120]))).flatten ++
    turns .readLoop [.frame (dataFrame 1 [120]), .go]

def stalled : Session := after (step sampleCodec) (Session.new 0) (openThenClose ++ fillQueue)

theorem stalled_eq :
    exec (step sampleCodec) (Session.new 0) (openThenClose ++ fillQueue) = some stalled :=
  exec_after (by decide +kernel)

/-- After a run of two callers only the loops of the session have something left to do. -/
theorem idle_of_run {bufferSize : Nat} {as : List Label}
    (hrun : exec (step json) (Session.new bufferSize) as = some s)
    (htids : ∀ l ∈ as, Label.tid l ∈ [Tid.user 0, .writer 0, .readLoop, .dispatchLoop])
    (hcallers : s.threads (.user 0) = [] ∧ s.threads (.writer 0) = [])
    (hover : ∀ q < s.count, s.threads (.overflow q) = []) (t : Tid) (hread : t ≠ .readLoop)
    (hdispatch : t ≠ .dispatchLoop) : s.threads t = [] := by
  by_cases hcalls : t.calls = true
  · by_cases ht : t = .user 0 ∨ t = .writer 0
    · rcases ht with rfl | rfl
      · exact hcallers.1
      · exact hcallers.2
    · rw [exec_threads_of_not_mem hcalls ?_ hrun]
      · rfl
      · rintro l hl rfl
        have hmem := htids l hl
        simp only [List.mem_cons, List.not_mem_nil, or_false, hread, hdispatch] at hmem
        exact ht hmem
  · cases t with
    | overflow q =>
      by_contra hne
      exact hne (hover q ((live_of_reachable ⟨_, hrun⟩).overflow q hne).1)
    | readLoop => exact absurd rfl hread
    | dispatchLoop => exact absurd rfl hdispatch
    | _ => exact absurd rfl hcalls

/-- The owner has closed the stream, the read loop waits for it, and nothing the session does by
    itself lets it go on. -/
theorem stalled_not_finishesFrame :
    Reachable (step sampleCodec) (Session.new 0) stalled ∧ stalled.abandoned 0 = true ∧
      stalled.crashed = false ∧ stalled.blockedByOther 0 = false ∧
      ¬ stalled.FinishesFrame sampleCodec 0 := by
  refine ⟨⟨_, stalled_eq⟩, by decide +kernel, by decide +kernel, by decide +kernel, ?_⟩
  have hthread : stalled.threads .readLoop = [.deliver 0 [120], .readFrame] := by decide +kernel
  have hidle := idle_of_run stalled_eq (by decide +kernel) (by decide +kernel) (by decide +kernel)
  refine not_finishesFrame_of_full hthread ?_ ?_ ?_ ?_ ?_ ?_ ?_ hidle <;> decide +kernel

end Session

end LnProxy
