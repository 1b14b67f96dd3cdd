import LnProxy.Lib.Pipe
import LnProxy.Session.Frames

set_option autoImplicit false

/-! # Two sessions over one connection

A `Link` joins two sessions by a connection: one byte pipe in each direction, and a flag at each end
that says whether that end was closed. One side opens streams, the other one only accepts them. What
`ReadFrame` returns is what `readFrame` decodes from the bytes in the pipe, and what `Writer.Write`
puts into the pipe is `encodeFrame` of the frame. Frames therefore arrive in the order they were
written (`Link.Inv`), and from this it follows that the acceptor's streams have new ids whenever the
opener's have. -/

namespace LnProxy

open Protocol Transition

/-! ## The connection -/

/-- One end of a connection, as its session sees it. -/
structure Conn where
  closed : Bool
  peerClosed : Bool
  incoming : Pipe UInt8
  outgoing : Pipe UInt8

/-- The bytes ahead announce a frame above the limit. -/
def oversized (bytes : Bytes) : Bool :=
  match readFrame bytes with
  | .error (.frameSize _) => true
  | _ => false

/-- What a step of the session at this end does to the connection; `none` where the connection does
    not let the step happen. A read fails only at a closed or torn connection or at an oversized
    frame, a write only at a closed or torn one, and a write that fails has written an initial part
    of the frame. -/
def Conn.step (c : Conn) (s : Session) : Label → Option Conn
  | .call _ _ => some c
  | .run t choice =>
    match choice, s.threads t with
    | .frame frame, _ =>
      if c.closed then none
      else
        match readFrame c.incoming.bytes with
        | .ok (f, rest) =>
          if f = frame then some { c with incoming := c.incoming.pull rest } else none
        | .error _ => none
    | .readErr _, _ =>
      if c.closed || c.peerClosed || c.incoming.torn || oversized c.incoming.bytes then some c
      else none
    | .wrote, .emit frame _ :: _ =>
      if c.closed || c.outgoing.torn then none
      else some { c with outgoing := c.outgoing.push (encodeFrame frame) }
    | .failed n _, .emit frame _ :: _ =>
      if (c.closed || c.peerClosed || c.outgoing.torn) && decide (n < (encodeFrame frame).length)
      then some { c with
        outgoing := if c.closed || c.outgoing.torn then c.outgoing
          else c.outgoing.cut (encodeFrame frame) n }
      else none
    | .go, .closeConn :: _ => some { c with closed := true }
    | _, _ => some c

/-- Two sessions and the connection between them. -/
structure Link where
  opener : Session
  acceptor : Session
  /-- From the opener to the acceptor. -/
  forward : Pipe UInt8
  backward : Pipe UInt8
  openerClosed : Bool
  acceptorClosed : Bool

inductive Link.Label where
  | opener (l : LnProxy.Label)
  | acceptor (l : LnProxy.Label)
  /-- Code outside the session closes one end of the connection. -/
  | hangup (opener : Bool)
  deriving DecidableEq, Repr

namespace Link

def new (openerBuffer acceptorBuffer : Nat) : Link where
  opener := Session.new openerBuffer
  acceptor := Session.new acceptorBuffer
  forward := Pipe.empty
  backward := Pipe.empty
  openerClosed := false
  acceptorClosed := false

def openerConn (k : Link) : Conn := ⟨k.openerClosed, k.acceptorClosed, k.backward, k.forward⟩

def acceptorConn (k : Link) : Conn := ⟨k.acceptorClosed, k.openerClosed, k.forward, k.backward⟩

/-- One step of one of the sessions, together with the connection. -/
def step (json : Codec) (k : Link) : Link.Label → Option Link
  | .opener l =>
    (k.openerConn.step k.opener l).bind fun c =>
      (k.opener.step json l).map fun s =>
        { k with opener := s, openerClosed := c.closed, backward := c.incoming,
                 forward := c.outgoing }
  | .acceptor l =>
    (k.acceptorConn.step k.acceptor l).bind fun c =>
      (k.acceptor.step json l).map fun s =>
        { k with acceptor := s, acceptorClosed := c.closed, forward := c.incoming,
                 backward := c.outgoing }
  | .hangup true => some { k with openerClosed := true }
  | .hangup false => some { k with acceptorClosed := true }

/-- Steps of the opener alone. -/
def byOpener (ls : List LnProxy.Label) : List Link.Label := ls.map .opener

/-- Steps of the acceptor alone. -/
def byAcceptor (ls : List LnProxy.Label) : List Link.Label := ls.map .acceptor

end Link

/-! ## Frames in and out of a session -/

/-- The frame a step takes from the connection. -/
def Label.reads : Label → List Frame
  | .run _ (.frame frame) => [frame]
  | _ => []

namespace Session

variable {json : Codec} {s s' s₁ : Session} {t : Tid} {a : Act} {c : Choice} {k acts : List Act}
  {l : Label} {op : Op} {r : Ref}

/-- The frame a step puts on the connection. -/
def emits (s : Session) : Label → List Frame
  | .run t .wrote =>
    match s.threads t with
    | .emit frame _ :: _ => [frame]
    | _ => []
  | _ => []

/-- The frames taken from the connection: those handled, and the one before the switch. -/
def taken (s : Session) : List Frame :=
  s.frames ++
    match s.threads .readLoop with
    | .handle frame :: _ => [frame]
    | _ => []

/-- The frames written to the connection. -/
def sentFrames (s : Session) : List Frame := s.output.map Prod.fst

theorem taken_of_handle {frame : Frame} (h : s.threads .readLoop = .handle frame :: k) :
    s.taken = s.frames ++ [frame] := by
  simp [taken, h]

theorem taken_of_no_handle (h : ∀ frame, .handle frame ∉ s.threads .readLoop) :
    s.taken = s.frames := by
  unfold taken
  split
  · next frame k hthread => exact absurd (mem_of_head hthread) (h frame)
  · rw [List.append_nil]

theorem frames_prefix_taken (s : Session) : s.frames <+: s.taken := List.prefix_append ..

theorem Ran.taken (hw : s.Wf) (hthread : s.threads t = a :: k) (h : Ran json s t k a c s₁ acts) :
    (s₁.goto t acts).taken = s.taken ++ Label.reads (.run t c) := by
  have hamem := mem_of_head hthread
  have hk : ∀ frame, .handle frame ∉ k := by
    intro frame hmem
    have := hw.follows t _ (by rw [hthread]; exact hmem)
    cases this
  by_cases hread : ∃ frame, c = .frame frame
  · obtain ⟨frame, rfl⟩ := hread
    cases h with
    | moves h =>
      cases h with
      | frame =>
        have ht : t = .readLoop := of_decide_eq_true (hw.runsOn t .readFrame hamem)
        subst ht
        have hbefore : s.taken = s.frames := by
          refine taken_of_no_handle fun f hmem => ?_
          rw [hthread, List.mem_cons] at hmem
          rcases hmem with hmem | hmem
          · cases hmem
          · exact hk f hmem
        rw [taken_of_handle (by rw [goto_threads_self]; rfl), hbefore]
        rfl
  · have hreads : Label.reads (.run t c) = [] := by
      cases c with
      | frame frame => exact absurd ⟨frame, rfl⟩ hread
      | _ => rfl
    rw [hreads, List.append_nil]
    by_cases ht : Tid.readLoop = t
    · subst ht
      -- no new frame is before the switch
      have hafter : (s₁.goto .readLoop acts).taken = (s₁.goto .readLoop acts).frames := by
        refine taken_of_no_handle fun f hmem => ?_
        rw [goto_threads_self] at hmem
        obtain ⟨-, hc, -⟩ := h.handle_mem hmem (hk f)
        exact hread ⟨f, hc⟩
      rw [hafter]
      by_cases hhandle : ∃ frame, a = .handle frame
      · obtain ⟨frame, rfl⟩ := hhandle
        obtain ⟨tag, hinput⟩ := h.input_handle
        rw [taken_of_handle hthread]
        simp [frames, hinput]
      · have hbefore : s.taken = s.frames := by
          refine taken_of_no_handle fun f hmem => ?_
          rw [hthread, List.mem_cons] at hmem
          rcases hmem with hmem | hmem
          · exact hhandle ⟨f, hmem.symm⟩
          · exact hk f hmem
        rw [hbefore]
        rcases h.input with heq | ⟨frame, tag, rfl, -⟩
        · simp [frames, heq]
        · exact absurd ⟨frame, rfl⟩ hhandle
    · have hthreads := h.threads_of_ne ht (by simp)
      have hframes : (s₁.goto t acts).frames = s.frames := by
        rcases h.input with heq | ⟨frame, tag, rfl, -⟩
        · simp [frames, heq]
        · exact absurd (of_decide_eq_true (hw.runsOn t (.handle frame) hamem)).symm ht
      simp only [Session.taken, hthreads, hframes]

/-- A step takes the frames it reads. -/
theorem taken_steps (hw : s.Wf) (h : Steps json s l s') : s'.taken = s.taken ++ l.reads := by
  cases h with
  | @call t op s₁ acts hcalls hidle h =>
    have hframes : (s₁.goto t acts).frames = s.frames := by simp [frames, h.streams_eq.2.2]
    rw [show Label.reads (.call t op) = [] from rfl, List.append_nil]
    rcases h.readLoop_eq hw hcalls with heq | ⟨hnil, heq⟩
    · simp only [taken, heq, hframes]
    · simp only [taken, heq, hnil, hframes]
  | run hthread h => exact h.taken hw hthread

/-- A step sends the frames it emits, and they fit. -/
theorem sentFrames_steps (h : Steps json s l s') :
    s'.sentFrames = s.sentFrames ++ s.emits l ∧ ∀ f ∈ s.emits l, f.fits := by
  cases h with
  | call hcalls hidle h =>
    refine ⟨?_, by simp [emits]⟩
    simp [sentFrames, h.streams_eq.2.1, emits]
  | @run t a k c s₁ acts hthread h =>
    cases h with
    | wrote hfits => exact ⟨by simp [sentFrames, emits, hthread], by simpa [emits, hthread] using hfits⟩
    | moves h =>
      have hnone : s.emits (.run t c) = [] := by cases h <;> rfl
      simp [hnone, sentFrames]
    | handle h =>
      have hnone : s.emits (.run t .go) = [] := rfl
      cases h <;> simp [hnone, sentFrames, note, register, alloc]
    | _ => exact ⟨by simp [sentFrames, emits, modify, register, forget], by simp [emits]⟩

/-! ## The invariant of one session -/

/-- The invariants of a session whose users keep to the discipline and whose streams have different
    ids. -/
structure Inv (json : Codec) (s : Session) : Prop where
  wf : s.Wf
  owned : s.Owned
  received : s.Received
  sends : s.Sends
  written : s.Written json

theorem new_inv (json : Codec) (bufferSize : Nat) : (Session.new bufferSize).Inv json :=
  ⟨new_wf _, new_owned _, new_received _, new_sends _, new_written json _⟩

theorem Inv.steps (hs : s.Inv json) (h : Steps json s l s') (hd : s.disciplined l = true)
    (hfresh : s.FreshID json l) : s'.Inv json := by
  have howned := hs.owned.steps hs.wf h hd hfresh
  exact ⟨hs.wf.steps h, howned, hs.received.steps hs.owned hs.wf h hfresh,
    hs.sends.steps hs.owned hs.wf h hd,
    hs.written.steps hs.sends hs.owned hs.wf h howned hfresh⟩

/-! ## A session that only accepts -/

/-- The session has never called `Open`: all its streams come from frames. -/
structure Accepting (json : Codec) (s : Session) : Prop where
  noOpens : ∀ t, ∀ a ∈ s.threads t, ∀ r, a.opens r = false
  output : ∀ e ∈ s.output, ∀ r, e.2 ≠ .opening r
  origin : ∀ q < s.count, ∃ f ∈ s.frames, f.type = frameOpen ∧
    ∃ request, decodeOpen json f = .ok request ∧ request.requestID = (s.obj q).id
  /-- The stream a `FrameOpen` was handed to has the id in the frame. -/
  handed : ∀ f q, (f, some q) ∈ s.input → f.type = frameOpen → q < s.count ∧
    ∃ request, decodeOpen json f = .ok request ∧ request.requestID = (s.obj q).id

theorem Handled.open_handed {frame : Frame} (h : Handled json s k frame s₁ acts)
    (htype : frame.type = frameOpen) {q : Ref}
    (hinput : s₁.input = s.input ++ [(frame, some q)]) : q < s₁.count ∧
    ∃ request, decodeOpen json frame = .ok request ∧ request.requestID = (s₁.obj q).id := by
  cases h with
  | @openNew request _ hdecode _ =>
    obtain rfl : s.count = q := by simpa [note, register, alloc] using hinput
    exact ⟨by simp [note, register, alloc], request, hdecode,
      by simp [note, register, alloc, newStream]⟩
  | openInvalid _ _ | openClosed _ _ _ => simp [note, alloc] at hinput
  | unexpectedControl _ hopen _ _ | control _ hopen _ _ => exact absurd htype hopen
  | unknown htype' _ =>
    rw [htype] at htype'
    exact absurd htype' (by decide)
  | ackInvalid htype' | ack htype' _ | unknownData htype' _ | data htype' _ | close htype' _
  | error htype' _ =>
    rw [htype] at htype'
    exact absurd htype' (by decide)

theorem new_accepting (json : Codec) (bufferSize : Nat) :
    (Session.new bufferSize).Accepting json where
  noOpens := by simp [Session.new]
  output := by simp [Session.new]
  origin := by simp [Session.new]
  handed := by simp [Session.new]

theorem Accepting.steps (hacc : s.Accepting json) (hw : s.Wf) (h : Steps json s l s')
    (hop : ∀ t request, l ≠ .call t (.open request)) : s'.Accepting json := by
  cases h with
  | @call t op s₁ acts hcalls hidle h =>
    obtain ⟨-, hout, hinput⟩ := h.streams_eq
    have hcount : s₁.count = s.count := by
      rcases h.count_eq with hcount | ⟨request, rfl, -⟩
      · exact hcount
      · exact absurd rfl (hop t request)
    refine ⟨?_, ?_, ?_, ?_⟩
    · intro u b hb r
      refine Bool.eq_false_of_not_eq_true fun hr => ?_
      rcases h.opens_mem hb hr with hmem | ⟨rfl, -, request, rfl⟩
      · rw [hacc.noOpens u b hmem r] at hr
        cases hr
      · -- only `Open` begins with this section
        rw [goto_threads_self] at hb
        cases h with
        | «open» => exact absurd rfl (hop u _)
        | _ => simp at hb
    · intro e he
      exact hacc.output e (by rwa [goto_output, hout] at he)
    · intro q hq
      rw [goto_count, hcount] at hq
      obtain ⟨f, hf, htype, request, hdecode, hid⟩ := hacc.origin q hq
      refine ⟨f, by simpa [frames, hinput] using hf, htype, request, hdecode, ?_⟩
      rw [goto_obj, (h.changed q).id_eq hq]
      exact hid
    · intro f q hf htype
      rw [goto_input, hinput] at hf
      obtain ⟨hq, hopened⟩ := hacc.handed f q hf htype
      rw [goto_count, goto_obj, hcount, (h.changed q).id_eq hq]
      exact ⟨hq, hopened⟩
  | @run t a k c s₁ acts hthread h =>
    have hamem := mem_of_head hthread
    refine ⟨?_, ?_, ?_, ?_⟩
    · intro u b hb r
      refine Bool.eq_false_of_not_eq_true fun hr => ?_
      obtain ⟨b', hb', hr'⟩ := h.opens_mem hthread hb hr
      rw [hacc.noOpens u b' hb' r] at hr'
      cases hr'
    · intro e he r heq
      rcases h.mem_output he with he | rfl
      · exact hacc.output e he r heq
      · have := hacc.noOpens t _ hamem r
        simp [heq, Act.opens] at this
    · intro q hq
      obtain ⟨tail, htail⟩ := h.frames_prefix
      by_cases hlt : q < s.count
      · obtain ⟨f, hf, htype, request, hdecode, hid⟩ := hacc.origin q hlt
        refine ⟨f, ?_, htype, request, hdecode, ?_⟩
        · rw [← htail]
          exact List.mem_append_left _ hf
        · rw [goto_obj, h.id_eq hw hthread hlt]
          exact hid
      · rcases h.count_eq with hcount | ⟨-, frame, request, rfl, htype, hdecode, hcount, hnew⟩
        · exact absurd (hcount ▸ hq) hlt
        · obtain ⟨tag, hinput⟩ := h.input_handle
          have hqc : q = s.count := by
            rw [goto_count] at hq
            lia
          refine ⟨frame, by simp [frames, hinput], htype, request, hdecode, ?_⟩
          rw [hqc]
          exact hnew.symm
    · intro f q hf htype
      have hkeep : (f, some q) ∈ s.input → q < s₁.count ∧ ∃ request,
          decodeOpen json f = .ok request ∧ request.requestID = (s₁.obj q).id := by
        intro hmem
        obtain ⟨hq, hopened⟩ := hacc.handed f q hmem htype
        rw [h.id_eq hw hthread hq]
        exact ⟨Nat.lt_of_lt_of_le hq h.count_le, hopened⟩
      rw [goto_input] at hf
      rcases h.input with heq | ⟨frame, tag, rfl, heq⟩
      · exact hkeep (heq ▸ hf)
      · rw [heq, List.mem_append, List.mem_singleton] at hf
        rcases hf with hf | hf
        · exact hkeep hf
        · cases hf
          cases h with
          | moves h => cases h
          | handle h => exact h.open_handed htype heq

end Session

/-! ## Frames in order -/

/-- The frames `received` are the first of the frames `sent`, and the pipe holds the others. -/
def Fifo (sent received : List Frame) (p : Pipe UInt8) : Prop :=
  ∃ ms, sent = received ++ ms ∧ p.Holds encodeFrame Frame.fits ms

theorem encodeFrame_prefixFree : Pipe.PrefixFree encodeFrame Frame.fits :=
  fun _ _ _ _ hm hn h => encodeFrame_inj_of_append hm hn h

theorem encodeFrame_ne_nil (f : Frame) : encodeFrame f ≠ [] := by
  simp [encodeFrame, encodeHeader]

/-- What a step of the session does to its end of the connection. -/
inductive Conn.Moved (c : Conn) (s : Session) : Label → Conn → Prop where
  | read {t : Tid} {frame : Frame} {rest : Bytes} (hopen : c.closed = false)
      (hread : readFrame c.incoming.bytes = .ok (frame, rest)) :
      Moved c s (.run t (.frame frame)) { c with incoming := c.incoming.pull rest }
  | wrote {t : Tid} {frame : Frame} {purpose : Purpose} {k : List Act}
      (hthread : s.threads t = .emit frame purpose :: k) (hopen : c.closed = false)
      (hwhole : c.outgoing.torn = false) :
      Moved c s (.run t .wrote) { c with outgoing := c.outgoing.push (encodeFrame frame) }
  | cut {t : Tid} {frame : Frame} {purpose : Purpose} {k : List Act} {n : Nat} {err : Err}
      (hthread : s.threads t = .emit frame purpose :: k) (hwhole : c.outgoing.torn = false)
      (hn : n < (encodeFrame frame).length) :
      Moved c s (.run t (.failed n err))
        { c with outgoing := c.outgoing.cut (encodeFrame frame) n }
  | close {t : Tid} {k : List Act} (hthread : s.threads t = .closeConn :: k) :
      Moved c s (.run t .go) { c with closed := true }
  | same {l : Label} (hreads : l.reads = []) (hemits : s.emits l = []) : Moved c s l c

theorem Conn.step_moved {c c' : Conn} {s : Session} {l : Label} (h : c.step s l = some c') :
    c.Moved s l c' := by
  cases l with
  | call t op =>
    cases h
    exact .same rfl rfl
  | run t choice =>
    simp only [Conn.step] at h
    split at h
    · split at h
      · cases h
      · next hopen =>
        split at h
        · next f rest hread =>
          split at h
          · next hf =>
            cases h
            subst hf
            exact .read (by simpa using hopen) hread
          · cases h
        · cases h
    · split at h
      · cases h
        exact .same rfl rfl
      · cases h
    · next hthread =>
      split at h
      · cases h
      · next hopen =>
        cases h
        simp only [Bool.or_eq_true, not_or, Bool.not_eq_true] at hopen
        exact .wrote hthread hopen.1 hopen.2
    · next hthread =>
      split at h
      · next hfail =>
        cases h
        simp only [Bool.and_eq_true, decide_eq_true_eq] at hfail
        split
        · exact .same rfl rfl
        · next hwhole =>
          simp only [Bool.or_eq_true, not_or, Bool.not_eq_true] at hwhole
          exact .cut hthread hwhole.2 hfail.2
      · cases h
    · next hthread =>
      cases h
      exact .close hthread
    · next hframe hreadErr hwrote hfailed hclose =>
      cases h
      refine .same ?_ ?_
      · unfold Label.reads
        split
        · next t' f hl =>
          cases hl
          exact absurd rfl (hframe f)
        · rfl
      · unfold Session.emits
        split
        · next t' hl =>
          cases hl
          split
          · next f purpose k hthread => exact absurd hthread (hwrote f purpose k rfl)
          · rfl
        · rfl

/-- Frames leave in the order they are written. -/
theorem Conn.step_outgoing {json : Codec} {s s' : Session} {c c' : Conn} {l : Label}
    (hc : c.step s l = some c') (h : Session.Steps json s l s') {received : List Frame}
    (hfifo : Fifo s.sentFrames received c.outgoing) :
    Fifo s'.sentFrames received c'.outgoing := by
  obtain ⟨hsent, hfits⟩ := Session.sentFrames_steps h
  obtain ⟨ms, hms, hholds⟩ := hfifo
  have hkeep : s.emits l = [] → s'.sentFrames = received ++ ms := by
    intro hnone
    rw [hsent, hnone, List.append_nil, hms]
  cases Conn.step_moved hc with
  | read _ _ => exact ⟨ms, hkeep rfl, hholds⟩
  | @wrote t frame purpose k hthread _ hwhole =>
    have hemits : s.emits (.run t .wrote) = [frame] := by simp [Session.emits, hthread]
    refine ⟨ms ++ [frame], ?_, hholds.push hwhole frame⟩
    rw [hsent, hemits, hms, List.append_assoc]
  | @cut t frame purpose k n err hthread hwhole hn =>
    refine ⟨ms, hkeep rfl, hholds.cut hwhole ?_ hn⟩
    cases h with
    | run hthread' hran =>
      rw [hthread] at hthread'
      cases hthread'
      cases hran with
      | moves hm =>
        cases hm with
        | failed hfits => exact hfits
  | close _ => exact ⟨ms, hkeep rfl, hholds⟩
  | same _ hemits => exact ⟨ms, hkeep hemits, hholds⟩

/-- Frames arrive in the order they were written. -/
theorem Conn.step_incoming {json : Codec} {s s' : Session} {c c' : Conn} {l : Label}
    (hc : c.step s l = some c') (hw : s.Wf) (h : Session.Steps json s l s') {sent : List Frame}
    (hfits : ∀ f ∈ sent, f.fits) (hfifo : Fifo sent s.taken c.incoming) :
    Fifo sent s'.taken c'.incoming := by
  rw [Session.taken_steps hw h]
  obtain ⟨ms, rfl, hholds⟩ := hfifo
  cases Conn.step_moved hc with
  | @read t frame rest _ hread =>
    obtain ⟨hbytes, hframe⟩ := readFrame_ok hread
    have hms : ∀ m ∈ ms, m.fits := fun m hm => hfits m (List.mem_append_right _ hm)
    obtain ⟨ms', rfl, hrest⟩ := hholds.pull encodeFrame_prefixFree hms hframe
      (encodeFrame_ne_nil frame) hbytes
    exact ⟨ms', by simp [Label.reads], hrest⟩
  | same hreads _ => exact ⟨ms, by rw [hreads, List.append_nil], hholds⟩
  | wrote _ _ _ | cut _ _ _ | close _ => exact ⟨ms, by simp [Label.reads], hholds⟩

end LnProxy
