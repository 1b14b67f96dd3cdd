import LnProxy.Link.Basic

set_option autoImplicit false

/-! # The invariant of a link

Each session keeps its own invariants as long as its new streams have new ids. For the opener this is
a condition on its calls of `Open` (`newIDs`). For the acceptor it is a consequence: its ids come from
the opener's `FrameOpen`s, each of which is written once and before the stream's data. -/

namespace LnProxy

open Protocol Transition

/-- The step is no call of `Open`. -/
def Label.noOpen : Label → Bool
  | .call _ (.open _) => false
  | _ => true

/-- A call of `Open` gets an id that no earlier stream of the session has. -/
def Session.newIDs (s : Session) : Label → Bool
  | .call _ (.open request) =>
    (List.range s.count).all fun r =>
      decide ((s.obj r).id ≠ (s.openRequest request).requestID)
  | _ => true

theorem Session.newIDs_open {s : Session} {t : Tid} {request : OpenRequest}
    (h : s.newIDs (.call t (.open request)) = true) :
    ∀ r < s.count, (s.obj r).id ≠ (s.openRequest request).requestID := by
  intro r hr
  simp only [Session.newIDs, List.all_eq_true, List.mem_range, decide_eq_true_eq] at h
  exact h r hr

/-- The id a peer decodes from a `FrameOpen` is the one that was sent. -/
theorem decodeOpen_openFrame {json : Codec} {request decoded : OpenRequest}
    (h : decodeOpen json (openFrame json request) = .ok decoded) :
    decoded.requestID = request.requestID := by
  obtain ⟨payload, hpayload, hid⟩ := json.requestID_exact request
  have hfilled := @decodeOpen_requestID json (openFrame json request) decoded payload hpayload h
  rw [hfilled, hid]
  split
  · rfl
  · rfl

namespace Link

variable {json : Codec} {k k' : Link}

/-- The uses of a link the results are about: both sides keep to one writer and one reader for each
    stream, the opener opens streams with new ids, and the acceptor opens none. -/
def usable (k : Link) : Link.Label → Bool
  | .opener l => k.opener.disciplined l && k.opener.newIDs l
  | .acceptor l => k.acceptor.disciplined l && l.noOpen
  | .hangup _ => true

structure Inv (json : Codec) (k : Link) : Prop where
  opener : k.opener.Inv json
  acceptor : k.acceptor.Inv json
  accepting : k.acceptor.Accepting json
  forward : Fifo k.opener.sentFrames k.acceptor.taken k.forward
  backward : Fifo k.acceptor.sentFrames k.opener.taken k.backward

theorem new_inv (json : Codec) (m n : Nat) : (Link.new m n).Inv json where
  opener := Session.new_inv json m
  acceptor := Session.new_inv json n
  accepting := Session.new_accepting json n
  forward := ⟨[], rfl, Pipe.holds_empty⟩
  backward := ⟨[], rfl, Pipe.holds_empty⟩

/-! ## Where frames and streams come from -/

theorem Inv.forward_prefix (h : k.Inv json) : k.acceptor.taken <+: k.opener.sentFrames := by
  obtain ⟨ms, hms, -⟩ := h.forward
  exact ⟨ms, hms.symm⟩

theorem Inv.backward_prefix (h : k.Inv json) : k.opener.taken <+: k.acceptor.sentFrames := by
  obtain ⟨ms, hms, -⟩ := h.backward
  exact ⟨ms, hms.symm⟩

/-- A `FrameOpen` of the opener carries the id of the stream it opens. -/
theorem Inv.open_frame (h : k.Inv json) {f : Frame} {purpose : Purpose}
    (hmem : (f, purpose) ∈ k.opener.output) (htype : f.type = frameOpen) :
    ∃ r < k.opener.count, purpose = .opening r ∧ ∀ request, decodeOpen json f = .ok request →
      request.requestID = (k.opener.obj r).id := by
  obtain ⟨r, request, rfl, rfl, hid⟩ := (h.opener.written.output _ hmem).1.of_open htype
  refine ⟨r, h.opener.wf.output _ hmem r (by simp [Purpose.refs]), rfl, ?_⟩
  intro decoded hdecode
  rw [decodeOpen_openFrame hdecode, hid]

/-- **Every stream of the acceptor has its peer**: the stream of the opener with the same id, whose
    `FrameOpen` was written. -/
theorem Inv.peer (h : k.Inv json) {q : Ref} (hq : q < k.acceptor.count) :
    ∃ r < k.opener.count, (k.opener.obj r).id = (k.acceptor.obj q).id ∧
      ∃ f, (f, .opening r) ∈ k.opener.output := by
  obtain ⟨f, hf, htype, request, hdecode, hid⟩ := h.accepting.origin q hq
  have hsent : f ∈ k.opener.sentFrames :=
    h.forward_prefix.subset ((k.acceptor.frames_prefix_taken).subset hf)
  rw [Session.sentFrames, List.mem_map] at hsent
  obtain ⟨⟨f', purpose⟩, hmem, rfl⟩ := hsent
  obtain ⟨r, hr, rfl, hdecoded⟩ := h.open_frame hmem htype
  exact ⟨r, hr, by rw [← hdecoded request hdecode, hid], f', hmem⟩

/-- The opener gets no `FrameOpen`. -/
theorem Inv.not_open (h : k.Inv json) {t : Tid} {frame : Frame} {rest : List Act}
    (hthread : k.opener.threads t = .handle frame :: rest) : frame.type ≠ frameOpen := by
  intro htype
  have hamem : .handle frame ∈ k.opener.threads t := by rw [hthread]; exact List.mem_cons_self ..
  have ht : t = .readLoop := of_decide_eq_true (h.opener.wf.runsOn t (.handle frame) hamem)
  subst ht
  have hsent : frame ∈ k.acceptor.sentFrames := by
    refine h.backward_prefix.subset ?_
    rw [Session.taken_of_handle hthread]
    simp
  rw [Session.sentFrames, List.mem_map] at hsent
  obtain ⟨⟨f, purpose⟩, hmem, rfl⟩ := hsent
  obtain ⟨r, -, rfl, -⟩ := (h.acceptor.written.output _ hmem).1.of_open htype
  exact h.accepting.output _ hmem r rfl

/-! ## New ids -/

theorem Inv.fresh_opener (h : k.Inv json) {l : LnProxy.Label} (hids : k.opener.newIDs l = true) :
    k.opener.FreshID json l := by
  unfold Session.FreshID
  split
  · next t request => exact Session.newIDs_open hids
  · next t =>
    split
    · next frame rest hthread => exact fun htype => absurd htype (h.not_open hthread)
    · next r request rest hthread =>
      -- data for an id comes after the `FrameOpen` with the id
      intro e he htype hid
      have hamem : .openInsert r request ∈ k.opener.threads t := by
        rw [hthread]; exact List.mem_cons_self ..
      have hr : r < k.opener.count := h.opener.wf.refs t _ hamem r (by simp [Act.refs])
      have hsent : e.1 ∈ k.acceptor.sentFrames := by
        refine h.backward_prefix.subset ((k.opener.frames_prefix_taken).subset ?_)
        exact List.mem_map_of_mem he
      rw [Session.sentFrames, List.mem_map] at hsent
      obtain ⟨⟨f, purpose⟩, hmem, hf⟩ := hsent
      have hf : f = e.1 := hf
      subst hf
      obtain ⟨q, rest', inCopy, rfl, hq⟩ := (h.acceptor.written.output _ hmem).1.of_data htype
      obtain ⟨r', hr', hpeer, f, hopened⟩ :=
        h.peer (h.acceptor.wf.output _ hmem q (by simp [Purpose.refs]))
      obtain rfl : r' = r := h.opener.owned.ids r' hr' r hr (hpeer.trans (hq.symm.trans hid))
      exact (h.opener.owned.inserting t r' request hamem).2.2.1 _ hopened rfl
    · trivial
  · trivial

theorem Inv.fresh_acceptor (h : k.Inv json) {l : LnProxy.Label} (hopen : l.noOpen = true) :
    k.acceptor.FreshID json l := by
  unfold Session.FreshID
  split
  · cases hopen
  · next t =>
    split
    · next frame rest hthread =>
      intro htype request hdecode
      have hamem : .handle frame ∈ k.acceptor.threads t := by
        rw [hthread]; exact List.mem_cons_self ..
      have ht : t = .readLoop :=
        of_decide_eq_true (h.acceptor.wf.runsOn t (.handle frame) hamem)
      subst ht
      -- the frames handled so far stand before this one in the opener's output
      obtain ⟨ms, hms, -⟩ := h.forward
      rw [Session.taken_of_handle hthread, List.append_assoc, List.singleton_append,
        Session.sentFrames] at hms
      obtain ⟨pre, post, hout, hpre, hpost⟩ := List.map_eq_append_iff.1 hms
      obtain ⟨⟨f, purpose⟩, post', rfl, hf, -⟩ := List.map_eq_cons_iff.1 hpost
      have hf : f = frame := hf
      subst hf
      have hmem : (f, purpose) ∈ k.opener.output := by rw [hout]; simp
      have hmem' : ∀ e ∈ pre, e ∈ k.opener.output := fun e he => by
        rw [hout]; exact List.mem_append_left _ he
      obtain ⟨r, hr, rfl, hdecoded⟩ := h.open_frame hmem htype
      have hid := hdecoded request hdecode
      have hfirst := h.opener.written.opened pre f post' r hout
      have hframe : ∀ g ∈ k.acceptor.frames, ∃ p, (g, p) ∈ pre := by
        intro g hg
        rw [← hpre, List.mem_map] at hg
        obtain ⟨⟨g', p⟩, hg', rfl⟩ := hg
        exact ⟨p, hg'⟩
      refine ⟨?_, ?_⟩
      · intro q hq hqid
        obtain ⟨g, hg, hgtype, request', hdecode', hid'⟩ := h.accepting.origin q hq
        obtain ⟨p, hgp⟩ := hframe g hg
        obtain ⟨r', hr', rfl, hdecoded'⟩ := h.open_frame (hmem' _ hgp) hgtype
        obtain rfl : r' = r := h.opener.owned.ids r' hr' r hr
          ((hdecoded' request' hdecode').symm.trans (hid'.trans (hqid.trans hid)))
        exact (hfirst _ hgp).1 rfl
      · intro e he hdata heid
        obtain ⟨p, hep⟩ := hframe e.1 (List.mem_map_of_mem he)
        obtain ⟨r', rest', inCopy, rfl, hr'⟩ :=
          (h.opener.written.output _ (hmem' _ hep)).1.of_data hdata
        have hlt : r' < k.opener.count :=
          h.opener.wf.output _ (hmem' _ hep) r' (by simp [Purpose.refs])
        obtain rfl : r' = r := h.opener.owned.ids r' hlt r hr (hr'.symm.trans (heid.trans hid))
        exact (hfirst _ hep).2 _ _ rfl
    · next r request rest hthread =>
      have := h.accepting.noOpens t (.openInsert r request) (Session.mem_of_head hthread) r
      simp [Act.opens] at this
    · trivial
  · trivial

/-! ## Preservation -/

/-- A step of a link, taken apart. -/
theorem step_opener {l : LnProxy.Label} (h : k.step json (.opener l) = some k') :
    ∃ c s, k.openerConn.step k.opener l = some c ∧ k.opener.step json l = some s ∧
      k' = { k with opener := s, openerClosed := c.closed, backward := c.incoming,
                    forward := c.outgoing } := by
  simp only [step, Option.bind_eq_some_iff, Option.map_eq_some_iff] at h
  obtain ⟨c, hc, s, hs, rfl⟩ := h
  exact ⟨c, s, hc, hs, rfl⟩

theorem step_acceptor {l : LnProxy.Label} (h : k.step json (.acceptor l) = some k') :
    ∃ c s, k.acceptorConn.step k.acceptor l = some c ∧ k.acceptor.step json l = some s ∧
      k' = { k with acceptor := s, acceptorClosed := c.closed, forward := c.incoming,
                    backward := c.outgoing } := by
  simp only [step, Option.bind_eq_some_iff, Option.map_eq_some_iff] at h
  obtain ⟨c, hc, s, hs, rfl⟩ := h
  exact ⟨c, s, hc, hs, rfl⟩

theorem fits_of_sent {s : Session} (h : s.Inv json) : ∀ f ∈ s.sentFrames, f.fits := by
  intro f hf
  rw [Session.sentFrames, List.mem_map] at hf
  obtain ⟨e, he, rfl⟩ := hf
  exact (h.written.output e he).2

/-- **Every usable step keeps the invariant of the link.** -/
theorem Inv.step (h : k.Inv json) {l : Link.Label} (hok : k.usable l = true)
    (hstep : k.step json l = some k') : k'.Inv json := by
  cases l with
  | opener l =>
    simp only [usable, Bool.and_eq_true] at hok
    obtain ⟨c, s, hc, hs, rfl⟩ := step_opener hstep
    have hsteps := (Session.step_steps hs).2
    refine ⟨h.opener.steps hsteps hok.1 (h.fresh_opener hok.2), h.acceptor, h.accepting, ?_, ?_⟩
    · exact Conn.step_outgoing hc hsteps h.forward
    · exact Conn.step_incoming hc h.opener.wf hsteps (fits_of_sent h.acceptor) h.backward
  | acceptor l =>
    simp only [usable, Bool.and_eq_true] at hok
    obtain ⟨c, s, hc, hs, rfl⟩ := step_acceptor hstep
    have hsteps := (Session.step_steps hs).2
    have hno : ∀ t request, l ≠ .call t (.open request) := by
      rintro t request rfl
      cases hok.2
    refine ⟨h.opener, h.acceptor.steps hsteps hok.1 (h.fresh_acceptor hok.2),
      h.accepting.steps h.acceptor.wf hsteps hno, ?_, ?_⟩
    · exact Conn.step_incoming hc h.acceptor.wf hsteps (fits_of_sent h.opener) h.forward
    · exact Conn.step_outgoing hc hsteps h.backward
  | hangup side =>
    cases side <;> cases hstep <;>
      exact ⟨h.opener, h.acceptor, h.accepting, h.forward, h.backward⟩

end Link

end LnProxy
