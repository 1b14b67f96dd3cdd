import LnProxy.Link.Invariant

set_option autoImplicit false

/-! # Byte fidelity of a stream

The two one-sided results meet at the pipe: the bytes a reader got are the first bytes of the data in
the frames its session handled (`Received`), these frames are the first of the frames the peer wrote
(`Fifo`), and the data in those is the first part of what was written to the peer's stream
(`Written`). An end of stream was a `FrameClose`, and the data before it is all that was written. -/

namespace LnProxy

open Protocol Transition

/-! ## From writer to reader -/

/-- What the reader of stream `q` gets of what was written to stream `r` at the other end: a first
    part of it, and all of it by the time of `io.EOF`, unless one of the two was closed by force. -/
def Carried (s : Session) (r : Ref) (s' : Session) (q : Ref) : Prop :=
  (s'.obj q).got <+: (s.obj r).written ∧
    ((s'.obj q).gotEOF = true → (s.obj r).closed = false → (s'.obj q).closed = false →
      (s'.obj q).got = (s.obj r).written)

theorem carried_of_initial {json : Codec} {s s' : Session} (hs : s.Inv json) (hs' : s'.Inv json)
    (hfifo : s'.taken <+: s.sentFrames) {r q : Ref} (hr : r < s.count) (hq : q < s'.count)
    (hid : (s.obj r).id = (s'.obj q).id) : Carried s r s' q := by
  have hframes : s'.frames <+: s.sentFrames := s'.frames_prefix_taken.trans hfifo
  refine ⟨?_, fun heof hopen _ => ?_⟩
  · have hread := hs'.received.got_prefix hq
    have hwritten := hs.written.data_prefix hs.sends hs.owned hs.wf hr
    rw [hid] at hwritten
    exact hread.trans ((dataOf_isPrefix _ hframes).trans hwritten)
  · obtain ⟨pre, f, post, hpre, htype, hfid, hgot⟩ := hs'.received.got_of_eof hq heof
    -- the same `FrameClose` stands in the writer's output, with the same frames before it
    obtain ⟨tail, htail⟩ := hframes
    rw [hpre, List.append_assoc, List.cons_append, Session.sentFrames] at htail
    obtain ⟨es, es', hout, hes, hes'⟩ := List.map_eq_append_iff.1 htail.symm
    obtain ⟨⟨g, purpose⟩, rest, rfl, hg, -⟩ := List.map_eq_cons_iff.1 hes'
    have hg : g = f := hg
    subst hg
    rw [hgot, ← hid, ← hes]
    exact hs.written.data_before_close hs.sends hs.owned hs.wf hr hopen hout htype (hfid.trans hid.symm)

/-! ## Ids counted from one -/

namespace Link

variable {json : Codec} {k k' : Link}

/-- The opener gives no ids of its own and opens fewer than `2 ^ 64` streams; the acceptor opens
    none; both keep to one writer and one reader for each stream. -/
def counted (k : Link) : Link.Label → Bool
  | .opener l =>
    k.opener.disciplined l &&
      match l with
      | .call _ (.open request) =>
        decide (request.requestID = 0 ∧ k.opener.count + 1 < 2 ^ 64)
      | _ => true
  | .acceptor l => k.acceptor.disciplined l && l.noOpen
  | .hangup _ => true

/-- The streams are numbered in the order of their `Open`s, from 1. -/
structure Numbered (s : Session) : Prop where
  next : s.nextID.toNat = s.count
  ids : ∀ r < s.count, (s.obj r).id.toNat = r + 1

end Link

namespace Session

variable {json : Codec} {s s₁ : Session} {t : Tid} {a : Act} {c : Choice} {k acts : List Act}
  {op : Op}

theorem Called.nextID (h : Called json s op s₁ acts) :
    s₁.nextID = s.nextID ∧ s₁.count = s.count ∨
      ∃ request, op = .open request ∧ s₁.nextID = s.nextID + 1 ∧ s₁.count = s.count + 1 ∧
        (s₁.obj s.count).id = (s.openRequest request).requestID := by
  cases h with
  | «open» => exact Or.inr ⟨_, rfl, rfl, rfl, by simp [alloc, newStream]⟩
  | _ => exact Or.inl ⟨rfl, rfl⟩

theorem Ran.nextID (h : Ran json s t k a c s₁ acts) : s₁.nextID = s.nextID := by
  cases h with
  | handle h => cases h <;> rfl
  | _ => rfl

end Session

namespace Link

variable {json : Codec} {k k' : Link}

theorem Numbered.newIDs {s : Session} {l : LnProxy.Label} (h : Numbered s)
    (hzero : ∀ t request, l = .call t (.open request) →
      request.requestID = 0 ∧ s.count + 1 < 2 ^ 64) : s.newIDs l = true := by
  unfold Session.newIDs
  split
  · next t request =>
    obtain ⟨hreq, hcount⟩ := hzero t request rfl
    simp only [List.all_eq_true, List.mem_range, decide_eq_true_eq]
    intro r hr heq
    have hid := h.ids r hr
    have hnext := h.next
    rw [heq, Session.openRequest, if_pos hreq, UInt64.toNat_add, hnext] at hid
    simp only [UInt64.toNat_one] at hid
    omega
  · rfl

/-- **Streams stay numbered** over a step of a session that gives no ids and gets no `FrameOpen`. -/
theorem Numbered.steps {s s' : Session} {l : LnProxy.Label} (h : Numbered s) (hw : s.Wf)
    (hzero : ∀ t request, l = .call t (.open request) →
      request.requestID = 0 ∧ s.count + 1 < 2 ^ 64)
    (hopen : ∀ t frame k, s.threads t = .handle frame :: k → frame.type ≠ frameOpen)
    (hsteps : Session.Steps json s l s') : Numbered s' := by
  cases hsteps with
  | @call t op s₁ acts hcalls hidle hcalled =>
    have hold : ∀ r < s.count, (s₁.obj r).id.toNat = r + 1 := by
      intro r hr
      rw [(hcalled.changed r).id_eq hr, h.ids r hr]
    rcases hcalled.nextID with ⟨hnext, hcount⟩ | ⟨request, rfl, hnext, hcount, hnew⟩
    · refine ⟨?_, fun r hr => hold r (hcount ▸ hr)⟩
      show s₁.nextID.toNat = s₁.count
      rw [hnext, hcount, h.next]
    · obtain ⟨hreq, hfew⟩ := hzero t request rfl
      have hid : (s.nextID + 1).toNat = s.count + 1 := by
        rw [UInt64.toNat_add, h.next, UInt64.toNat_one]
        omega
      refine ⟨?_, ?_⟩
      · show s₁.nextID.toNat = s₁.count
        rw [hnext, hcount, hid]
      · intro r hr
        have hr : r < s.count + 1 := hcount ▸ hr
        rcases Nat.lt_succ_iff_lt_or_eq.1 hr with hr | rfl
        · exact hold r hr
        · show (s₁.obj s.count).id.toNat = s.count + 1
          rw [hnew, Session.openRequest, if_pos hreq, hid]
  | @run t a rest choice s₁ acts hthread hran =>
    have hcount : s₁.count = s.count := by
      rcases hran.count_eq with hcount | ⟨-, frame, request, rfl, htype, -⟩
      · exact hcount
      · exact absurd htype (hopen t frame rest hthread)
    refine ⟨?_, ?_⟩
    · show s₁.nextID.toNat = s₁.count
      rw [hran.nextID, hcount, h.next]
    · intro r hr
      have hr : r < s.count := hcount ▸ hr
      show (s₁.obj r).id.toNat = r + 1
      rw [hran.id_eq hw hthread hr, h.ids r hr]

theorem Numbered.step (hk : k.Inv json) (h : Numbered k.opener) {l : Link.Label}
    (hok : k.counted l = true) (hstep : k.step json l = some k') : Numbered k'.opener := by
  cases l with
  | acceptor l =>
    obtain ⟨c, s, -, -, rfl⟩ := step_acceptor hstep
    exact h
  | hangup side => cases side <;> cases hstep <;> exact h
  | opener l =>
    obtain ⟨c, s, -, hs, rfl⟩ := step_opener hstep
    refine h.steps hk.opener.wf ?_ (fun t frame rest hthread => hk.not_open hthread)
      (Session.step_steps hs).2
    rintro t request rfl
    simp only [counted, Bool.and_eq_true, decide_eq_true_eq] at hok
    exact hok.2

theorem Numbered.usable (h : Numbered k.opener) {l : Link.Label} (hok : k.counted l = true) :
    k.usable l = true := by
  cases l with
  | acceptor l => exact hok
  | hangup side => rfl
  | opener l =>
    simp only [counted, Bool.and_eq_true] at hok
    rw [Link.usable, hok.1, Bool.true_and]
    refine h.newIDs ?_
    rintro t request rfl
    exact of_decide_eq_true hok.2

theorem new_numbered (n : Nat) : Numbered (Session.new n) :=
  ⟨rfl, fun r hr => absurd hr (Nat.not_lt_zero r)⟩

theorem numbered_step (h : k.Inv json ∧ Numbered k.opener) {l : Link.Label}
    (hok : k.counted l = true) (hstep : k.step json l = some k') :
    k'.Inv json ∧ Numbered k'.opener :=
  ⟨h.1.step (h.2.usable hok) hstep, h.2.step h.1 hok hstep⟩

theorem numbered_of_run {m n : Nat} {as : List Link.Label}
    (hok : Along (Link.step json) (fun k l => k.counted l = true) (Link.new m n) as)
    (hrun : exec (Link.step json) (Link.new m n) as = some k) :
    k.Inv json ∧ Numbered k.opener :=
  exec_invariant (fun k => k.Inv json ∧ Numbered k.opener)
    (fun _ _ _ h hl hstep => numbered_step h hl hstep) ⟨new_inv json m n, new_numbered m⟩ hok hrun

/-! ## The result -/

/-- **Byte fidelity.** In every state of every run of two sessions over a connection, in which the
    opener opens fewer than `2 ^ 64` streams without ids of its own, every stream of the acceptor has
    a peer with its id at the opener, and in both directions the bytes read from a stream are a first
    part of the bytes written to its peer, and all of them once `Read` has returned `io.EOF`, unless
    one of the two was closed by force. -/
theorem streams_carry_bytes {m n : Nat} {as : List Link.Label}
    (hok : Along (Link.step json) (fun k l => k.counted l = true) (Link.new m n) as)
    (hrun : exec (Link.step json) (Link.new m n) as = some k) :
    (∀ q < k.acceptor.count, ∃ r < k.opener.count, (k.opener.obj r).id = (k.acceptor.obj q).id) ∧
      ∀ r < k.opener.count, ∀ q < k.acceptor.count, (k.opener.obj r).id = (k.acceptor.obj q).id →
        Carried k.opener r k.acceptor q ∧ Carried k.acceptor q k.opener r := by
  obtain ⟨hinv, -⟩ := numbered_of_run hok hrun
  refine ⟨fun q hq => ?_, fun r hr q hq hid => ⟨?_, ?_⟩⟩
  · obtain ⟨r, hr, hid, -⟩ := hinv.peer hq
    exact ⟨r, hr, hid⟩
  · exact carried_of_initial hinv.opener hinv.acceptor hinv.forward_prefix hr hq hid
  · exact carried_of_initial hinv.acceptor hinv.opener hinv.backward_prefix hq hr hid.symm

/-- Both sessions start, the opener opens a stream and the acceptor accepts it. -/
def handshake : List Link.Label :=
  byOpener (.call (.user 0) (.start false) ::
      calling (.user 0) (.open (sampleRequest 0)) [.go, .wrote]) ++
    byAcceptor (.call (.user 0) (.start true) ::
      turns .readLoop [.frame (openFrame sampleCodec (sampleRequest 1)), .go, .go] ++
      .run .dispatchLoop .go :: calling (.user 0) (.accept 0) [.go, .go, .wrote]) ++
    byOpener (turns .readLoop [.frame (ackFrame sampleCodec 1 ⟨true, "", "", ""⟩), .go, .go] ++
      [.run (.user 0) .ack])

/-- The opener writes three bytes and ends its side. -/
def writeThree : List Link.Label :=
  byOpener (calling (.writer 0) (.write 0 [1, 2, 3]) [.go, .go, .go, .wrote] ++
      calling (.writer 0) (.closeWrite 0) [.go, .go, .wrote]) ++
    byAcceptor (turns .readLoop [.frame (dataFrame 1 [1, 2, 3]), .go, .go, .frame (closeFrame 1), .go,
      .go, .go])

/-- The acceptor reads with a buffer of two bytes until `io.EOF`. -/
def readAll : List Link.Label :=
  byAcceptor (calling (.reader 0) (.read 0 2) [.go, .go, .go] ++
    calling (.reader 0) (.read 0 2) [.go] ++ calling (.reader 0) (.read 0 2) [.go, .go])

def transfer : Link := after (Link.step sampleCodec) (Link.new 0 0) (handshake ++ writeThree ++ readAll)

theorem transfer_carries_bytes :
    (transfer.acceptor.obj 0).got = [1, 2, 3] ∧ (transfer.acceptor.obj 0).gotEOF = true ∧
      Carried transfer.opener 0 transfer.acceptor 0 ∧
      Carried transfer.acceptor 0 transfer.opener 0 := by
  refine ⟨by decide +kernel, by decide +kernel, ?_⟩
  exact (streams_carry_bytes (by decide +kernel) (exec_after (by decide +kernel))).2 0
    (by decide +kernel) 0 (by decide +kernel) (by decide +kernel)

end Link

end LnProxy
