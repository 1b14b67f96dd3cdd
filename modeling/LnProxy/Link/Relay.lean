import LnProxy.Link.Fidelity

set_option autoImplicit false

/-! # How a relayed stream ends (`session.Relay`)

The server relays a client's stream: `copyDirection` reads from a source (an exit's stream or a
destination) and writes to the client's stream, and when the source ends it calls `CloseWrite`. It
does so whether the source ended with `io.EOF` or with an error, which it drops. `CloseWrite` writes
a `FrameClose`, and this is what the client's `Read` turns into `io.EOF`. An error of the source thus
stays an error only where the connection to the client is lost before the `FrameClose` gets out
(`Link.lostFirst`); the client's streams then end with the error of its session. -/

namespace LnProxy

open Protocol Transition

/-- The error a section is going to close streams with. -/
def Act.error : Act → Option Err
  | .shutdown err | .forceCloseAll _ err | .forceClose _ err => some err
  | _ => none

namespace Session

variable {json : Codec} {s s' s₁ : Session} {t : Tid} {a : Act} {c : Choice} {k acts : List Act}
  {l : Label} {op : Op} {r : Ref}

/-! ## When a source fails -/

theorem Ran.source_failed (h : Ran json s t k a c s₁ acts)
    (hr : (s₁.obj r).sourceErr ≠ none) :
    (s.obj r).sourceErr ≠ none ∨ a = .copyLoop r ∧ ∃ err, c = .sourceEnd (some err) := by
  have htouched := h.touched r
  generalize s₁.obj r = y at htouched hr
  cases htouched with
  | new hcount => exact absurd rfl hr
  | sourceErr => exact Or.inr ⟨rfl, _, rfl⟩
  | _ => exact Or.inl hr

/-- A call does not end a stream. -/
theorem Called.ends_eq (hw : s.Wf) (h : Called json s op s₁ acts) (r : Ref) :
    (s₁.obj r).sourceErr = (s.obj r).sourceErr ∧ (s₁.obj r).readErr = (s.obj r).readErr := by
  by_cases hlt : r < s.count
  · obtain ⟨p, hp, -⟩ := h.obj_eq hlt
    rw [hp]
    exact ⟨rfl, rfl⟩
  · obtain ⟨n, id, request, born, hnew⟩ := h.new_obj hw (Nat.le_of_not_lt hlt)
    rw [hnew, hw.fresh r (Nat.le_of_not_lt hlt)]
    exact ⟨rfl, rfl⟩

/-- A stream whose source has failed is there, and its id stays. -/
theorem sourceErr_steps (hw : s.Wf) (h : Steps json s l s') (hr : (s'.obj r).sourceErr ≠ none) :
    r < s.count ∧ (s'.obj r).id = (s.obj r).id ∧ ((s.obj r).sourceErr ≠ none ∨
      ∃ t err k, s.threads t = .copyLoop r :: k ∧ l = .run t (.sourceEnd (some err))) := by
  have hlt_of : (s.obj r).sourceErr ≠ none → r < s.count := by
    intro hfailed
    by_contra hge
    rw [hw.fresh r (Nat.le_of_not_lt hge)] at hfailed
    exact hfailed rfl
  cases h with
  | call hcalls hidle h =>
    have hfailed := (h.ends_eq hw r).1 ▸ hr
    exact ⟨hlt_of hfailed, (h.changed r).id_eq (hlt_of hfailed), Or.inl hfailed⟩
  | @run t a k c s₁ acts hthread h =>
    rcases h.source_failed hr with hfailed | ⟨rfl, err, rfl⟩
    · exact ⟨hlt_of hfailed, h.id_eq hw hthread (hlt_of hfailed), Or.inl hfailed⟩
    · have hlt : r < s.count := hw.refs t (.copyLoop r)
        (mem_of_head hthread) r (by simp [Act.refs])
      exact ⟨hlt, h.id_eq hw hthread hlt, Or.inr ⟨t, err, k, hthread, rfl⟩⟩

/-! ## The errors of streams -/

/-- The session closes streams with errors that are not `io.EOF`. -/
structure Failing (s : Session) : Prop where
  pending : ∀ t, ∀ a ∈ s.threads t, a.error ≠ some .eof
  readErr : ∀ r, (s.obj r).readErr ≠ some .eof

theorem new_failing (bufferSize : Nat) : (Session.new bufferSize).Failing where
  pending := by simp [Session.new]
  readErr := by simp [Session.new, newStream]

theorem shutdownErr_ne (err : Err) : shutdownErr err ≠ .eof := by
  unfold shutdownErr
  split
  · simp
  · next hne => exact fun heq => hne (Or.inl heq)

theorem onErr_error {err : Err} (purpose : Purpose) (hne : err ≠ .eof) :
    ∀ b ∈ purpose.onErr err, b.error ≠ some .eof := by
  cases purpose with
  | chunk q rest inCopy => cases inCopy <;> simp [Purpose.onErr, Act.error, hne]
  | _ => simp [Purpose.onErr, Act.error, hne]

theorem onOk_error (purpose : Purpose) : ∀ b ∈ purpose.onOk, b.error = none := by
  cases purpose with
  | chunk q rest inCopy =>
    simp only [Purpose.onOk]
    split
    · cases inCopy <;> simp [Act.error]
    · simp [Act.error]
  | _ => simp [Purpose.onOk, Act.error]

/-- Only a failed write brings in an `io.EOF`. -/
theorem Moves.error (h : Moves json s a c acts) (ha : a.error ≠ some .eof)
    (hc : ∀ n err, c = .failed n err → err ≠ .eof) : ∀ b ∈ acts, b.error ≠ some .eof := by
  cases h with
  | failed _ => exact onErr_error _ (hc _ _ rfl)
  | writeFrameRefused _ | oversized _ => exact onErr_error _ (by simp)
  | readErr => simp [Act.error, shutdownErr_ne]
  | pick _ => exact List.forall_mem_cons.2 ⟨ha, List.forall_mem_singleton.2 ha⟩
  | @writeEmpty _ inCopy | @writeRefused _ _ inCopy _ =>
    cases inCopy <;> simp [afterEmptyWrite, afterRefusedWrite, Act.error]
  | _ => simp [Act.error]

theorem Ran.error (h : Ran json s t k a c s₁ acts) (ha : a.error ≠ some .eof)
    (hk : ∀ b ∈ k, b.error ≠ some .eof) (hc : ∀ n err, c = .failed n err → err ≠ .eof) :
    ∀ b ∈ acts, b.error ≠ some .eof := by
  cases h with
  | moves h => exact List.forall_mem_append.2 ⟨h.error ha hc, hk⟩
  | wrote h =>
    refine List.forall_mem_append.2 ⟨fun b hb => ?_, hk⟩
    simp [onOk_error _ b hb]
  | shutdown h => exact List.forall_mem_cons.2 ⟨ha, hk⟩
  | handle h => cases h <;> simp_all [Act.error]
  | _ => simp_all [Act.error]

theorem Failing.run (hfailing : s.Failing) (hthread : s.threads t = a :: k)
    (h : Ran json s t k a c s₁ acts) (hc : ∀ n err, c = .failed n err → err ≠ .eof) :
    (s₁.goto t acts).Failing := by
  have ha := hfailing.pending t a (mem_of_head hthread)
  have hk : ∀ b ∈ k, b.error ≠ some .eof := fun b hb =>
    hfailing.pending t b (mem_of_tail hthread hb)
  refine ⟨fun u b hb => ?_, fun r => ?_⟩
  · rcases h.mem_acts hb with ⟨-, hb⟩ | ⟨rfl, hacts⟩ | ⟨q, -, rfl, -⟩
    · exact hfailing.pending u b hb
    · exact h.error ha hk hc b hacts
    · simp [Act.error]
  · have htouched := h.touched r
    rw [goto_obj]
    generalize s₁.obj r = y at htouched
    have hold := hfailing.readErr r
    cases htouched with
    | new hcount => simp [newStream]
    | @forceClosed err _ =>
      show (s.obj r).readErr.or (some err) ≠ some .eof
      cases hread : (s.obj r).readErr with
      | none => exact ha
      | some e =>
        rw [hread] at hold
        exact hold
    | _ => exact hold

theorem Failing.steps (hfailing : s.Failing) (hw : s.Wf) (h : Steps json s l s')
    (hl : ∀ t n err, l = .run t (.failed n err) → err ≠ .eof) : s'.Failing := by
  cases h with
  | @call t op s₁ acts hcalls hidle h =>
    have hnew : ∀ b ∈ acts, b.error ≠ some .eof := by cases h <;> simp [Act.error]
    refine ⟨fun u b hb => ?_, fun r => ?_⟩
    · rcases h.mem_threads hb with hb | ⟨-, hb⟩ | ⟨-, rfl⟩ | ⟨-, rfl⟩
      · exact hfailing.pending u b hb
      · exact hnew b hb
      · simp [Act.error]
      · simp [Act.error]
    · rw [goto_obj, (h.ends_eq hw r).2]
      exact hfailing.readErr r
  | run hthread h => exact hfailing.run hthread h fun n err heq => hl _ n err (by rw [heq])

end Session

namespace Link

variable {json : Codec} {k k' : Link} {l : Link.Label}

/-! ## The condition -/

/-- Nothing that the server writes from now on gets to the client. -/
def lost (k : Link) : Bool := k.openerClosed || k.acceptorClosed || k.backward.torn

/-- When the server comes to write the `FrameClose` of a stream whose source has failed, the
    connection is lost; a source that fails does so before the `FrameClose` of its stream; and a write
    of the client does not fail with `io.EOF`. -/
def lostFirst (k : Link) : Link.Label → Bool
  | .acceptor (.run t (.sourceEnd (some _))) =>
    match k.acceptor.threads t with
    | .copyLoop q :: _ =>
      k.acceptor.sentFrames.all fun f =>
        decide (f.type ≠ frameClose ∨ f.id ≠ (k.acceptor.obj q).id)
    | _ => true
  | .acceptor (.run t _) =>
    match k.acceptor.threads t with
    | .emit f _ :: _ =>
      k.lost || decide (f.type ≠ frameClose) ||
        (List.range k.acceptor.count).all fun q =>
          decide ((k.acceptor.obj q).id ≠ f.id ∨ (k.acceptor.obj q).sourceErr = none)
    | _ => true
  | .opener (.run _ (.failed _ err)) => decide (err ≠ .eof)
  | _ => true

/-- No `FrameClose` among the frames has this id. -/
def Spared (id : UInt64) (frames : List Frame) : Prop :=
  ∀ f ∈ frames, f.type = frameClose → f.id ≠ id

/-- No `FrameClose` has the id of a stream whose source has failed, or it comes too late for the
    client. -/
def Unclosed (k : Link) : Prop :=
  ∀ q, (k.acceptor.obj q).sourceErr ≠ none → Spared (k.acceptor.obj q).id k.acceptor.sentFrames ∨
    k.openerClosed = true ∧ Spared (k.acceptor.obj q).id k.opener.taken

theorem Unclosed.spared (hk : k.Inv json) (h : k.Unclosed) {q : Ref}
    (hfailed : (k.acceptor.obj q).sourceErr ≠ none) : Spared (k.acceptor.obj q).id k.opener.taken := by
  rcases h q hfailed with hsent | ⟨-, htaken⟩
  · exact fun f hf => hsent f (hk.backward_prefix.subset hf)
  · exact htaken

/-- A closed end stays closed, and takes no more frames. -/
theorem Conn.step_of_closed {c c' : Conn} {s : Session} {l : LnProxy.Label}
    (h : c.step s l = some c') (hclosed : c.closed = true) : c'.closed = true ∧ l.reads = [] := by
  cases Conn.step_moved h with
  | read hopen hread =>
    rw [hopen] at hclosed
    cases hclosed
  | close hthread => exact ⟨rfl, rfl⟩
  | same hreads hemits => exact ⟨hclosed, hreads⟩
  | _ => exact ⟨hclosed, rfl⟩

/-- A `FrameClose` of a failed stream is written only when the client does not read any more. -/
theorem spared_emits {t : Tid} {ch : Choice} {c : Conn}
    (hok : k.lostFirst (.acceptor (.run t ch)) = true)
    (hconn : k.acceptorConn.step k.acceptor (.run t ch) = some c) {q : Ref}
    (hq : q < k.acceptor.count) (hfailed : (k.acceptor.obj q).sourceErr ≠ none)
    (hopen : k.openerClosed = false) :
    Spared (k.acceptor.obj q).id (k.acceptor.emits (.run t ch)) := by
  intro f hf htype
  cases Conn.step_moved hconn with
  | @wrote t g purpose rest hthread hclosed hwhole =>
    simp only [Session.emits, hthread, List.mem_singleton] at hf
    subst hf
    have hlost : k.lost = false := by
      rw [lost, hopen, show k.acceptorClosed = false from hclosed,
        show k.backward.torn = false from hwhole]
      rfl
    simp only [lostFirst, hthread, hlost, htype, Bool.false_or, ne_eq, not_true_eq_false,
      decide_false, List.all_eq_true, List.mem_range, decide_eq_true_eq] at hok
    intro hid
    exact (hok q hq).elim (fun hne => hne hid.symm) hfailed
  | same _ hemits =>
    rw [hemits] at hf
    cases hf
  | _ => cases hf

/-- **A step that meets the condition closes no failed stream for the client.** -/
theorem Unclosed.step (hk : k.Inv json) (h : k.Unclosed) (hok : k.lostFirst l = true)
    (hstep : k.step json l = some k') : k'.Unclosed := by
  cases l with
  | opener l =>
    obtain ⟨c, s, hconn, hs, rfl⟩ := step_opener hstep
    intro q hfailed
    refine (h q hfailed).imp id ?_
    rintro ⟨hclosed, htaken⟩
    refine ⟨(Conn.step_of_closed hconn hclosed).1, ?_⟩
    rw [Session.taken_steps hk.opener.wf (Session.step_steps hs).2,
      (Conn.step_of_closed hconn hclosed).2, List.append_nil]
    exact htaken
  | hangup side =>
    cases side <;> cases hstep
    · exact h
    · exact fun q hfailed => (h q hfailed).imp id fun hlate => ⟨rfl, hlate.2⟩
  | acceptor l =>
    obtain ⟨c, s, hconn, hs, rfl⟩ := step_acceptor hstep
    have hsteps := (Session.step_steps hs).2
    intro q hfailed
    obtain ⟨hq, hid, hcase⟩ := Session.sourceErr_steps hk.acceptor.wf hsteps hfailed
    have hsent := (Session.sentFrames_steps hsteps).1
    show Spared (s.obj q).id s.sentFrames ∨ k.openerClosed = true ∧ Spared (s.obj q).id k.opener.taken
    rw [hid, hsent]
    rcases hcase with hfailed | ⟨t, err, rest, hthread, rfl⟩
    · cases hopen : k.openerClosed with
      | true => exact Or.inr ⟨rfl, h.spared hk hfailed⟩
      | false =>
        -- the client still reads
        have hold : Spared (k.acceptor.obj q).id k.acceptor.sentFrames :=
          (h q hfailed).resolve_right (by simp [hopen])
        refine Or.inl (List.forall_mem_append.2 ⟨hold, ?_⟩)
        cases l with
        | call t op => exact fun f hf => by cases hf
        | run t c => exact spared_emits hok hconn hq hfailed hopen
    · -- the source fails now, so no frame is written
      refine Or.inl (List.forall_mem_append.2 ⟨fun f hf htype => ?_, fun f hf => by cases hf⟩)
      simp only [lostFirst, hthread, List.all_eq_true, decide_eq_true_eq] at hok
      exact (hok f hf).resolve_left (not_not_intro htype)

/-! ## The result -/

/-- For a stream whose source failed at the server, no `Read` of the client has returned `io.EOF`, and
    at the end of the stream `Read` returns an error. -/
def FailuresReported (k : Link) : Prop :=
  ∀ r < k.opener.count, ∀ q < k.acceptor.count, (k.opener.obj r).id = (k.acceptor.obj q).id →
    (k.acceptor.obj q).sourceErr ≠ none → (k.opener.obj r).gotEOF = false ∧
      ((k.opener.obj r).reads.closed = true → ∃ err, (k.opener.obj r).readErr = some err ∧ err ≠ .eof)

theorem failing_step (hk : k.Inv json) (h : k.opener.Failing) (hok : k.lostFirst l = true)
    (hstep : k.step json l = some k') : k'.opener.Failing := by
  cases l with
  | opener l =>
    obtain ⟨c, s, -, hs, rfl⟩ := step_opener hstep
    refine h.steps hk.opener.wf (Session.step_steps hs).2 ?_
    rintro t n err rfl
    simpa [lostFirst] using hok
  | acceptor l =>
    obtain ⟨c, s, -, -, rfl⟩ := step_acceptor hstep
    exact h
  | hangup side => cases side <;> cases hstep <;> exact h

theorem Inv.failuresReported (hk : k.Inv json) (hfailing : k.opener.Failing) (h : k.Unclosed) :
    k.FailuresReported := by
  intro r hr q hq hid hfailed
  have hspared := h.spared hk hfailed
  -- `io.EOF` comes from a `FrameClose` of the server
  have hends : ¬ k.opener.Ends r := by
    rintro ⟨pre, f, post, hframes, htype, hfid, -⟩
    refine hspared f (k.opener.frames_prefix_taken.subset ?_) htype (hfid.trans hid)
    rw [hframes]
    simp
  refine ⟨Bool.eq_false_of_not_eq_true fun heof => ?_, fun hclosed => ?_⟩
  · exact hends (hk.opener.received.eof r hr heof).2.2.2
  · have hok := hk.opener.wf.ok r
    have hforced : (k.opener.obj r).closed = true := by
      by_contra hopen
      exact hends (hk.opener.received.ended r hr (hok.readsEOF hclosed) (by simpa using hopen))
    obtain ⟨err, herr⟩ := Option.ne_none_iff_exists'.1 (hok.readErr.1 hforced)
    exact ⟨err, herr, fun heq => hfailing.readErr r (by rw [herr, heq])⟩

/-- **A failure stays a failure** in every state of every run in which the connection to the client is
    lost before the `FrameClose` of a stream whose source has failed can be written. -/
theorem failuresReported_of_lostFirst {m n : Nat} {as : List Link.Label}
    (hcounted : Along (Link.step json) (fun k l => k.counted l = true) (Link.new m n) as)
    (hok : Along (Link.step json) (fun k l => k.lostFirst l = true) (Link.new m n) as)
    (hrun : exec (Link.step json) (Link.new m n) as = some k) : k.FailuresReported := by
  have hinv : (k.Inv json ∧ Numbered k.opener) ∧ k.opener.Failing ∧ k.Unclosed := by
    refine exec_invariant
      (fun k => (k.Inv json ∧ Numbered k.opener) ∧ k.opener.Failing ∧ k.Unclosed) ?_
      ⟨⟨new_inv json m n, new_numbered m⟩, Session.new_failing m, ?_⟩ (hcounted.and hok) hrun
    · rintro k₁ l k₂ ⟨hnum, hfailing, hun⟩ ⟨hl, hl'⟩ hstep
      exact ⟨numbered_step hnum hl hstep, failing_step hnum.1 hfailing hl' hstep, hun.step hnum.1 hl' hstep⟩
    · intro q hfailed
      exact absurd rfl hfailed
  exact hinv.1.1.failuresReported hinv.2.1 hinv.2.2

/-- The server relays two bytes to the client's stream. -/
def relayTwo : List Link.Label :=
  byAcceptor (calling (.writer 0) (.relay 0) [.source [1, 2], .go, .go, .go, .wrote]) ++
    byOpener (turns .readLoop [.frame (dataFrame 1 [1, 2]), .go, .go])

/-- The client reads once. -/
def readOnce : List Link.Label :=
  byOpener (calling (.reader 0) (.read 0 8) [.go, .go])

/-- The server loses the client's connection before the source fails; the client's session ends with
    an error. -/
def hungUp : Link :=
  after (Link.step sampleCodec) (Link.new 0 0)
    (handshake ++ relayTwo ++ .hangup false ::
      byAcceptor (turns (.writer 0) [.sourceEnd (some .closed), .go, .go, .failed 0 .closed]) ++
      byOpener (turns .readLoop [.readErr .unexpectedEOF, .go, .pick 0, .go] ++
        calling (.reader 0) (.read 0 8) [.go]))

theorem hungUp_failuresReported :
    (hungUp.acceptor.obj 0).sourceErr = some .closed ∧
      (hungUp.opener.obj 0).readErr = some .unexpectedEOF ∧ hungUp.FailuresReported := by
  refine ⟨by decide +kernel, by decide +kernel, ?_⟩
  exact failuresReported_of_lostFirst (by decide +kernel) (by decide +kernel)
    (exec_after (by decide +kernel))

/-- The exit's session is lost after two bytes, and `Relay` ends the client's stream. -/
def truncation : List Link.Label :=
  handshake ++ relayTwo ++
    byAcceptor (turns (.writer 0) [.sourceEnd (some .closed), .go, .go, .wrote]) ++
    byOpener (turns .readLoop [.frame (closeFrame 1), .go, .go, .go]) ++
    readOnce ++ [.opener (.run (.reader 0) .go)] ++ readOnce

def truncated : Link := after (Link.step sampleCodec) (Link.new 0 0) truncation

theorem truncated_not_failuresReported :
    Along (Link.step sampleCodec) (fun k l => k.counted l = true) (Link.new 0 0) truncation ∧
      exec (Link.step sampleCodec) (Link.new 0 0) truncation = some truncated ∧
      (truncated.acceptor.obj 0).sourceErr = some .closed ∧
      (truncated.opener.obj 0).got = [1, 2] ∧ (truncated.opener.obj 0).gotEOF = true ∧
      ¬ truncated.FailuresReported := by
  have heof : (truncated.opener.obj 0).gotEOF = true := by decide +kernel
  refine ⟨by decide +kernel, exec_after (by decide +kernel), by decide +kernel, by decide +kernel,
    heof, fun hreported => ?_⟩
  have hnone := hreported 0 (by decide +kernel) 0 (by decide +kernel) (by decide +kernel)
    (by decide +kernel)
  rw [heof] at hnone
  cases hnone.1

end Link

end LnProxy
