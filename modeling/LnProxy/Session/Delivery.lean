import LnProxy.Session.Invariants

set_option autoImplicit false

/-! # Delivery to a stream

`deliver` runs in the read loop and sends on the stream's `reads` channel without the stream's lock;
`remoteClose` and `forceClose` close that channel. A send on a closed channel panics. This module
says exactly which steps lead to such a send: a non-empty `FrameData` handled for a stream whose
remote end is already closed, and a `forceClose` that begins while the read loop is delivering. -/

namespace LnProxy

open Protocol Transition

namespace Session

variable {json : Codec} {s s' : Session} {l : Label}

/-- The read loop is at (or blocked in) a send on a channel that has been closed. -/
def sendsOnClosed (s : Session) : Bool :=
  match s.threads .readLoop with
  | .deliver r data :: _ => decide (data ≠ []) && (s.obj r).reads.closed
  | _ => false

/-- The read loop is delivering data to `r`. -/
def delivering (s : Session) (r : Ref) : Bool :=
  match s.threads .readLoop with
  | .deliver q data :: _ => decide (q = r ∧ data ≠ [])
  | _ => false

/-- The steps that cannot bring a send on a closed channel about: non-empty data is handled only for
    a stream whose remote end is open, and no stream is force-closed while data is being delivered
    to it. -/
def keepsReadsOpen (s : Session) : Label → Bool
  | .run t .go =>
    match s.threads t with
    | .handle frame :: _ =>
      match s.streams frame.id with
      | some r =>
        !(decide (frame.type = frameData ∧ frame.payload ≠ []) && (s.obj r).remoteEOF)
      | none => true
    | .forceClose r _ :: _ => !(decide ((s.obj r).closeOnce = .idle) && s.delivering r)
    | _ => true
  | _ => true

theorem sendsOnClosed_iff : s.sendsOnClosed = true ↔
    ∃ r data k, s.threads .readLoop = .deliver r data :: k ∧ data ≠ [] ∧
      (s.obj r).reads.closed = true := by
  unfold sendsOnClosed
  split
  · next r data k hthread => 
      simp only [Bool.and_eq_true, decide_eq_true_eq]
      constructor
      · rintro ⟨hdata, hclosed⟩
        exact ⟨r, data, k, hthread, hdata, hclosed⟩
      · rintro ⟨r', data', k', hthread', hdata, hclosed⟩
        rw [hthread] at hthread'
        cases hthread'
        exact ⟨hdata, hclosed⟩
  · next hne =>
    simp only [Bool.false_eq_true, false_iff]
    rintro ⟨r, data, k, hthread, -⟩
    exact hne r data k hthread

theorem delivering_iff {r : Ref} : s.delivering r = true ↔
    ∃ data k, s.threads .readLoop = .deliver r data :: k ∧ data ≠ [] := by
  unfold delivering
  split
  · next q data k hthread =>
    simp only [decide_eq_true_eq]
    constructor
    · rintro ⟨rfl, hdata⟩
      exact ⟨data, k, hthread, hdata⟩
    · rintro ⟨data', k', hthread', hdata⟩
      rw [hthread] at hthread'
      cases hthread'
      exact ⟨rfl, hdata⟩
  · next hne =>
    simp only [Bool.false_eq_true, false_iff]
    rintro ⟨data, k, hthread, -⟩
    exact hne r data k hthread

/-! ## A step that keeps the channel open -/

/-- A delivery that runs on an open channel is over. -/
theorem deliver_gone {s₁ : Session} {r q : Ref} {data data' : Bytes} {t : Tid} {k acts : List Act}
    {c : Choice} (hw : s.Wf) (hthread : s.threads t = .deliver r data :: k)
    (h : Ran json s t k (.deliver r data) c s₁ acts) (hdata : data ≠ [])
    (hopen : (s.obj r).reads.closed = false) : .deliver q data' ∉ acts := by
  have hk : .deliver q data' ∉ k := by
    intro hmem
    have := hw.follows t _ (by rw [hthread]; exact hmem)
    cases this
  cases h with
  | moves h =>
    cases h with
    | deliverEmpty => exact absurd rfl hdata
    | deliverDone _ _ => simpa using hk
  | deliver _ _ _ => exact hk
  | deliverPanic _ hclosed =>
    rw [hopen] at hclosed
    cases hclosed

theorem Ran.handle_go {s₁ : Session} {frame : Frame} {t : Tid} {k acts : List Act} {c : Choice}
    (h : Ran json s t k (.handle frame) c s₁ acts) : c = .go := by
  cases h with
  | moves h => cases h
  | handle _ => rfl

/-- **One step.** A step that meets the condition does not bring the read loop to a send on a closed
    channel. -/
theorem sendsOnClosed_step (hw : s.Wf) (hsafe : s.sendsOnClosed = false) (hok : s.keepsReadsOpen l = true)
    (h : Steps json s l s') : s'.sendsOnClosed = false := by
  rw [Bool.eq_false_iff, ne_eq, sendsOnClosed_iff] at hsafe ⊢
  rintro ⟨r, data, k', hthread', hdata, hclosed⟩
  have hmem' : .deliver r data ∈ s'.threads .readLoop := by rw [hthread']; exact List.mem_cons_self ..
  have hbefore : ∀ k, s.threads .readLoop = .deliver r data :: k →
      (s.obj r).reads.closed = false := by
    intro k hthread
    by_contra hne
    exact hsafe ⟨r, data, k, hthread, hdata, Bool.eq_true_of_not_eq_false hne⟩
  cases h with
  | call hcalls hidle h =>
    rcases h.readLoop_eq hw hcalls with heq | ⟨-, heq⟩
    · rw [heq] at hthread'
      obtain ⟨p, hobj, -⟩ := h.obj_eq (hw.refs .readLoop _ (mem_of_head hthread') r
        (by simp [Act.refs]))
      rw [goto_obj, hobj, hbefore k' hthread'] at hclosed
      cases hclosed
    · rw [heq] at hthread'
      cases hthread'
  | @run t a k c s₁ acts hthread h =>
    rcases h.mem_threads hthread hmem' with hmem | ⟨rfl, hpushed⟩ | ⟨q, hq, -⟩
    · -- the read loop was delivering before the step
      by_cases ht : Tid.readLoop = t
      · subst ht
        obtain rfl := hw.head_eq hthread hmem rfl
        rw [goto_threads_self] at hmem'
        exact deliver_gone hw hthread h hdata (hbefore k hthread) hmem'
      · rw [h.threads_of_ne ht (by simp)] at hthread'
        have hopen := hbefore k' hthread'
        rcases h.reads_closed hclosed with hc | ⟨rfl, -⟩ | ⟨-, rfl, hidle, err, rfl⟩
        · rw [hopen] at hc
          cases hc
        · have := hw.runsOn t _ (mem_of_head hthread)
          simp only [Act.runsOn, decide_eq_true_eq] at this
          exact ht this.symm
        · have hdel := delivering_iff.2 ⟨data, k', hthread', hdata⟩
          simp [keepsReadsOpen, hthread, hidle, hdel] at hok
    · -- the read loop has just looked the stream up
      rcases hpushed.deliver r data rfl with rfl | ⟨frame, rfl, htype, rfl, hr, hobj⟩
      · rw [goto_threads_self] at hmem'
        exact deliver_gone hw hthread h hdata (hbefore k hthread) hmem'
      · have heof := (hw.ok r).readsEOF (by rw [← hobj]; exact hclosed)
        have hgo : c = .go := h.handle_go
        subst hgo
        simp [keepsReadsOpen, hthread, hr, htype, hdata, heof] at hok
    · cases hq

/-- How a section panics: a send on a closed channel (no channel is closed twice). -/
theorem Ran.crashed {s₁ : Session} {t : Tid} {a : Act} {k acts : List Act} {c : Choice}
    (h : Ran json s t k a c s₁ acts) (hw : s.Wf) (hthread : s.threads t = a :: k)
    (hrun : s.crashed = false) (hcrashed : s₁.crashed = true) :
    t = .readLoop ∧ s₁ = { s with crashed := true } ∧ ∃ r data, a = .deliver r data ∧
      acts = .deliver r data :: k ∧ data ≠ [] ∧ (s.obj r).reads.closed = true := by
  have hmem := mem_of_head hthread
  have hsame : s₁.crashed = s.crashed → False := by
    intro heq
    rw [heq, hrun] at hcrashed
    cases hcrashed
  cases h with
  | deliverPanic hdata hclosed =>
    have hrunsOn := hw.runsOn t _ hmem
    simp only [Act.runsOn, decide_eq_true_eq] at hrunsOn
    exact ⟨hrunsOn, rfl, _, _, rfl, rfl, hdata, hclosed⟩
  | closeReadsPanic hclosed =>
    rw [(hw.closeReads t _ hmem).2] at hclosed
    cases hclosed
  | handle h => cases h <;> exact (hsame rfl).elim
  | _ => exact (hsame rfl).elim

theorem crashed_step (hw : s.Wf) (hsafe : s.sendsOnClosed = false) (hrun : s.crashed = false)
    (h : Steps json s l s') : s'.crashed = false := by
  cases h with
  | call hcalls hidle h => cases h <;> exact hrun
  | @run t a k c s₁ acts hthread h =>
    by_contra hcrashed
    obtain ⟨rfl, -, r, data, rfl, -, hdata, hclosed⟩ :=
      h.crashed hw hthread hrun (Bool.eq_true_of_not_eq_false hcrashed)
    rw [sendsOnClosed_iff.2 ⟨r, data, k, hthread, hdata, hclosed⟩] at hsafe
    cases hsafe

/-! ## A step that does not -/

/-- **The condition is exact**: a step that breaks it leaves the read loop at a send on a closed
    channel. -/
theorem sendsOnClosed_of_not_keepsReadsOpen (hw : s.Wf) (hok : s.keepsReadsOpen l = false)
    (h : Steps json s l s') : s'.sendsOnClosed = true := by
  cases h with
  | call hcalls hidle h => cases hok
  | @run t a k c s₁ acts hthread h =>
    have hrunsOn := hw.runsOn t a (mem_of_head hthread)
    rw [sendsOnClosed_iff]
    cases c with
    | go =>
      simp only [keepsReadsOpen, hthread] at hok
      split at hok
      · next frame _ hacts =>
        cases hacts
        simp only [Act.runsOn, decide_eq_true_eq] at hrunsOn
        subst hrunsOn
        split at hok
        · next r hr =>
          simp only [Bool.not_eq_false', Bool.and_eq_true, decide_eq_true_eq] at hok
          obtain ⟨⟨htype, hdata⟩, heof⟩ := hok
          have hclosed := hw.reads_closed hthread (by simp) heof
          cases h with
          | moves h => cases h
          | handle h =>
            cases h with
            | data _ hr' =>
              rw [hr] at hr'
              cases hr'
              exact ⟨r, _, k, goto_threads_self .., hdata, hclosed⟩
            | _ => simp_all [frameData, frameOpen, frameOpenAck, frameClose, frameError]
        · cases hok
      · next r err k' hacts =>
        cases hacts
        simp only [Bool.not_eq_false', Bool.and_eq_true, decide_eq_true_eq] at hok
        obtain ⟨hidle, hdelivering⟩ := hok
        obtain ⟨data, k', hread, hdata⟩ := delivering_iff.1 hdelivering
        have ht : Tid.readLoop ≠ t := by
          rintro rfl
          rw [hthread] at hread
          cases hread
        refine ⟨r, data, k', by rw [h.threads_of_ne ht (by simp)]; exact hread, hdata, ?_⟩
        cases h with
        | moves h =>
          cases h with
          | forceCloseAgain hfinished =>
            rw [hidle] at hfinished
            cases hfinished
        | forceClose _ =>
          by_cases heof : (s.obj r).remoteEOF = true
          · have hclosed := hw.reads_closed hread (by simp) heof
            simp [modify, Stream.forceClose, heof, hclosed]
          · simp [modify, Stream.forceClose, heof]
      · cases hok
    | _ => cases hok

/-! ## Runs -/

/-- **Sends on a closed channel, exactly.** The read loop never stands at a send on a closed channel
    in the course of a run, and no goroutine panics, if and only if every step of the run meets
    `keepsReadsOpen`. -/
theorem run_never_sendsOnClosed_iff {bufferSize : Nat} {as : List Label}
    (hrun : exec (step json) (Session.new bufferSize) as = some s) :
    Along (step json) (fun m l => m.keepsReadsOpen l = true) (Session.new bufferSize) as ↔
      ∀ pre m, pre <+: as → exec (step json) (Session.new bufferSize) pre = some m →
        m.sendsOnClosed = false ∧ m.crashed = false := by
  refine along_iff Wf (fun m => m.sendsOnClosed = false ∧ m.crashed = false)
    (fun _ _ _ hw hstep => hw.steps (step_steps hstep).2) ?_ (new_wf bufferSize) ⟨rfl, rfl⟩ hrun
  rintro s₁ l s₂ hw ⟨hsafe, hcrashed⟩ hstep
  obtain ⟨-, hsteps⟩ := step_steps hstep
  constructor
  · intro hl
    exact ⟨sendsOnClosed_step hw hsafe hl hsteps, crashed_step hw hsafe hcrashed hsteps⟩
  · rintro ⟨hsafe', -⟩
    by_contra hl
    rw [sendsOnClosed_of_not_keepsReadsOpen hw (Bool.eq_false_of_not_eq_true hl) hsteps] at hsafe'
    cases hsafe'

/-- A peer opens stream 1, sends a byte on it and ends its side. -/
def openDataClose : List Label :=
  .call (.user 0) (.start true) :: turns .readLoop
    [.frame (openFrame sampleCodec (sampleRequest 1)), .go, .go, .frame (dataFrame 1 [120]), .go, .go,
      .frame (closeFrame 1), .go, .go, .go]

theorem openDataClose_never_sendsOnClosed :
    (exec (step sampleCodec) (Session.new 0) openDataClose).isSome = true ∧
      ∀ pre m, pre <+: openDataClose → exec (step sampleCodec) (Session.new 0) pre = some m →
        m.sendsOnClosed = false ∧ m.crashed = false :=
  ⟨rfl, (run_never_sendsOnClosed_iff (s := _) rfl).1 (by decide +kernel)⟩

/-- The same frames with `FrameClose` before `FrameData`. -/
def openCloseData : List Label :=
  .call (.user 0) (.start true) :: turns .readLoop
    [.frame (openFrame sampleCodec (sampleRequest 1)), .go, .go, .frame (closeFrame 1), .go, .go, .go,
      .frame (dataFrame 1 [120]), .go]

theorem openCloseData_sendsOnClosed :
    (exec (step sampleCodec) (Session.new 0) openCloseData).map sendsOnClosed = some true ∧
      (exec (step sampleCodec) (Session.new 0) (openCloseData ++ [.run .readLoop .go])).map
        Session.crashed = some true := by
  decide +kernel

end Session

end LnProxy
