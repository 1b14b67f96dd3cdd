import LnProxy.Session.Sender
import LnProxy.Session.Stall

set_option autoImplicit false

/-! # Streams that both sides have closed

Nothing on the graceful path removes a stream from the map: `CloseWrite` sets `localEOF` and writes a
`FrameClose`, `remoteClose` sets `remoteEOF`, and `finishClose`, which would remove the entry, has no
caller. A stream that is finished in both directions therefore stays in the map until `forceClose`
takes it out, and only if that happens to every finished stream is the map kept clean. -/

namespace LnProxy

open Protocol Transition

/-- The section writes the `FrameClose` of `CloseWrite` on stream `r`. -/
def Act.closing (r : Ref) : Act → Bool
  | .writeFrame _ (.closing q) | .emit _ (.closing q) => decide (q = r)
  | _ => false

namespace Session

variable {json : Codec} {s s' s₁ : Session} {t : Tid} {a : Act} {c : Choice} {k acts : List Act}
  {l : Label} {op : Op} {r : Ref}

/-- The read loop has handed a `FrameClose` to stream `r`. -/
def peerClosed (s : Session) (r : Ref) : Bool :=
  s.input.any fun e => e.1.type = frameClose && e.2 = some r

/-- Both directions are finished: `CloseWrite` has completed, and the peer's `FrameClose` has been
    processed. -/
structure Finished (s : Session) (r : Ref) : Prop where
  localEOF : (s.obj r).localEOF = true
  written : ∀ t, ∀ a ∈ s.threads t, a.closing r = false
  remoteEOF : (s.obj r).remoteEOF = true
  peerClosed : s.peerClosed r = true
  processed : .remoteClose r ∉ s.threads .readLoop ∧ .closeReads r ∉ s.threads .readLoop

open Classical in
/-- No finished stream is in the map, whose size is then at most the number of streams with an open
    direction. -/
structure Reclaimed (s : Session) : Prop where
  removed : ∀ r, s.Finished r → ∀ i, s.streams i ≠ some r
  bounded : s.registered.length ≤ ((List.range s.count).filter fun r => ¬ s.Finished r).length

/-- `forceClose` has closed the stream, and nobody in it has still to take it out of the map. -/
def ForceClosed (s : Session) (r : Ref) : Prop :=
  (s.obj r).closed = true ∧ ∀ t k, s.threads t ≠ .removeStream r :: .closeDone r :: k

/-! ## The invariant -/

/-- Only the owner of a stream closes it for writing, and a closed stream of the map is just about to
    be taken out. -/
structure Tended (s : Session) : Prop where
  writer : ∀ t, ∀ a ∈ s.threads t, ∀ r, a.onWriter r = true → (s.obj r).owned = true
  localEOF : ∀ r, (s.obj r).localEOF = true → (s.obj r).owned = true
  removing : ∀ i r, s.streams i = some r → (s.obj r).closed = true →
    ∃ t k, s.threads t = .removeStream r :: .closeDone r :: k

theorem new_tended (bufferSize : Nat) : (Session.new bufferSize).Tended where
  writer := by simp [Session.new]
  localEOF := by simp [Session.new, newStream]
  removing := by simp [Session.new]

theorem forget_streams_ne {i : UInt64} (h : s.streams i = some r) (hid : (s.obj r).id = i) :
    (s.forget r).streams i ≠ some r := by
  subst hid
  simp [forget, h]

theorem Tended.run (htended : s.Tended) (hw : s.Wf) (hlive : s.Live) (hlisted : s.Listed)
    (hthread : s.threads t = a :: k) (h : Ran json s t k a c s₁ acts) :
    (s₁.goto t acts).Tended := by
  have hamem := mem_of_head hthread
  refine ⟨fun u b hb r hr => ?_, fun r hr => ?_, fun i r hi hclosed => ?_⟩
  · rcases h.onWriter_mem hthread hb hr with hmem | ⟨-, ha, -⟩
    · exact (h.keeps hw hthread r).owned (htended.writer u b hmem r hr)
    · exact (h.keeps hw hthread r).owned (htended.writer t a hamem r ha)
  · rcases h.localEOF hr with hr | rfl
    · exact (h.keeps hw hthread r).owned (htended.localEOF r hr)
    · refine (h.keeps hw hthread r).owned (htended.writer t _ hamem r ?_)
      simp [Act.onWriter, Act.closes]
  · rcases h.closes hclosed with hbefore | ⟨err, rfl, rfl⟩
    · rcases h.streams hi with hi' | ⟨-, ⟨request, rfl⟩ | ⟨hcount, -⟩⟩
      · obtain ⟨u, k', hu⟩ := htended.removing i r hi' hbefore
        by_cases hut : u = t
        · -- the goroutine takes the stream out now
          subst hut
          rw [hthread] at hu
          cases hu
          cases h with
          | moves h => cases h
          | removeStream => exact absurd hi (forget_streams_ne hi' (hw.streams i r hi').2)
        · exact ⟨u, k', by rw [hlive.threads_busy hw hthread h hut (by simp [hu]), hu]⟩
      · rw [(hlisted.inserting t r request hamem).2.2.2.1] at hbefore
        cases hbefore
      · rw [hw.fresh r (Nat.le_of_eq hcount)] at hbefore
        cases hbefore
    · exact ⟨t, k, goto_threads_self ..⟩

theorem Tended.call (htended : s.Tended) (hw : s.Wf) (hidle : s.threads t = [])
    (h : Called json s op s₁ acts) : (s₁.goto t acts).Tended := by
  have hnew : ∀ b ∈ acts, ∀ r, b.onWriter r = true → (s.obj r).owned = true := by
    cases h <;> simp_all [Act.onWriter, Act.writes, Act.closes]
  refine ⟨fun u b hb r hr => ?_, fun r hr => ?_, fun i r hi hclosed => ?_⟩
  · rw [goto_obj, (h.fields hw r).1]
    rcases h.mem_threads hb with hmem | ⟨-, hb⟩ | ⟨-, rfl⟩ | ⟨-, rfl⟩
    · exact htended.writer u b hmem r hr
    · exact hnew b hb r hr
    · cases hr
    · cases hr
  · rw [goto_obj, (h.fields hw r).2.2.1] at hr
    rw [goto_obj, (h.fields hw r).1]
    exact htended.localEOF r hr
  · rw [goto_streams, h.streams_eq.1] at hi
    rw [goto_obj, (h.fields hw r).2.1] at hclosed
    obtain ⟨u, k', hu⟩ := htended.removing i r hi hclosed
    exact ⟨u, k', by rw [h.threads_busy hw hidle (by simp [hu]), hu]⟩

/-- **A finished stream stays in the map until it is force-closed**, in every run in which new streams
    get new ids; and the map is clean in every state in which each finished stream has been
    force-closed. -/
theorem finished_stays {bufferSize : Nat} {as : List Label}
    (hok : Along (step json) (fun m l => m.newID json l = true) (Session.new bufferSize) as)
    (hrun : exec (step json) (Session.new bufferSize) as = some s) :
    (∀ r, s.Finished r → (s.obj r).closed = false → s.streams (s.obj r).id = some r) ∧
      ((∀ r, s.Finished r → s.ForceClosed r) → s.Reclaimed) := by
  have hinv : s.Wf ∧ s.Live ∧ s.Listed ∧ s.Tended := by
    refine exec_invariant (fun m => m.Wf ∧ m.Live ∧ m.Listed ∧ m.Tended) ?_
      ⟨new_wf bufferSize, new_live bufferSize, new_listed bufferSize, new_tended bufferSize⟩ hok hrun
    rintro m l m' ⟨hw, hlive, hlisted, htended⟩ hl hstep
    obtain ⟨-, hsteps⟩ := step_steps hstep
    refine ⟨hw.steps hsteps, hlive.steps hw hsteps, hlisted.steps hw hsteps hl, ?_⟩
    cases hsteps with
    | call _ hidle h => exact htended.call hw hidle h
    | run hthread h => exact htended.run hw hlive hlisted hthread h
  obtain ⟨hw, -, hlisted, htended⟩ := hinv
  refine ⟨fun r hfinished hopen => ?_, fun hforced => ?_⟩
  · have howned := htended.localEOF r hfinished.localEOF
    exact hlisted.registered r (hw.owned_lt howned) hopen (Or.inl (Or.inl howned))
  · have hremoved : ∀ r, s.Finished r → ∀ i, s.streams i ≠ some r := by
      intro r hfinished i hi
      obtain ⟨hclosed, hout⟩ := hforced r hfinished
      obtain ⟨t, k, hthread⟩ := htended.removing i r hi hclosed
      exact hout t k hthread
    refine ⟨hremoved, List.Sublist.length_le (List.monotone_filter_right _ fun r hr => ?_)⟩
    have hnot : ¬ s.Finished r := fun hfinished => hremoved r hfinished _ (of_decide_eq_true hr)
    simpa using hnot

/-! ## Runs -/

/-- Both sides close the stream, one after the other. -/
def closeThenClose : List Label :=
  openThenClose ++ turns .readLoop [.frame (closeFrame 1), .go, .go, .go]

/-- Later the peer ends the stream with an error, which removes the entry. -/
def closeThenError : List Label :=
  closeThenClose ++ turns .readLoop [.frame (errorFrame sampleCodec 1 "gone"), .go, .go, .go, .go]

def closedTwice : Session := after (step sampleCodec) (Session.new 0) closeThenClose

def closedThrice : Session := after (step sampleCodec) (Session.new 0) closeThenError

theorem closedTwice_eq :
    exec (step sampleCodec) (Session.new 0) closeThenClose = some closedTwice :=
  exec_after (by decide +kernel)

theorem closedThrice_eq :
    exec (step sampleCodec) (Session.new 0) closeThenError = some closedThrice :=
  exec_after (by decide +kernel)

/-- Where only the loops have something to do, what they all avoid nobody does. -/
theorem forall_threads_of_idle {P : Act → Prop}
    (hidle : ∀ t, t ≠ .readLoop → t ≠ .dispatchLoop → s.threads t = [])
    (hloops : ∀ t ∈ [Tid.readLoop, .dispatchLoop], ∀ a ∈ s.threads t, P a) (t : Tid) :
    ∀ a ∈ s.threads t, P a := by
  by_cases ht : t ∈ [Tid.readLoop, .dispatchLoop]
  · exact hloops t ht
  · simp only [List.mem_cons, List.not_mem_nil, or_false, not_or] at ht
    simp [hidle t ht.1 ht.2]

/-- A stream that both sides have closed is still in the map. -/
theorem closedTwice_not_reclaimed :
    Reachable (step sampleCodec) (Session.new 0) closedTwice ∧ closedTwice.Finished 0 ∧
      closedTwice.streams 1 = some 0 ∧ ¬ closedTwice.Reclaimed := by
  have hidle := idle_of_run closedTwice_eq (by decide +kernel) (by decide +kernel) (by decide +kernel)
  have hfinished : closedTwice.Finished 0 :=
    ⟨by decide +kernel, forall_threads_of_idle hidle (by decide +kernel), by decide +kernel,
      by decide +kernel, by decide +kernel⟩
  have hstream : closedTwice.streams 1 = some 0 := by decide +kernel
  exact ⟨⟨_, closedTwice_eq⟩, hfinished, hstream, fun h => h.removed 0 hfinished 1 hstream⟩

/-- The stream of `closeThenError` is finished, and its error has taken it out of the map. -/
theorem closeThenError_reclaimed :
    closedThrice.Finished 0 ∧ closedThrice.streams 1 = none ∧ closedThrice.Reclaimed := by
  have hidle := idle_of_run closedThrice_eq (by decide +kernel) (by decide +kernel) (by decide +kernel)
  have hfinished : closedThrice.Finished 0 :=
    ⟨by decide +kernel, forall_threads_of_idle hidle (by decide +kernel), by decide +kernel,
      by decide +kernel, by decide +kernel⟩
  refine ⟨hfinished, by decide +kernel,
    (finished_stays (by decide +kernel) closedThrice_eq).2 fun r hr => ?_⟩
  have hout : ∀ t, ∀ a ∈ closedThrice.threads t, a ≠ .removeStream 0 :=
    forall_threads_of_idle hidle (by decide +kernel)
  -- there is no other stream
  have hzero : r = 0 := by
    by_contra hne
    have hfresh := (wf_of_reachable ⟨_, closedThrice_eq⟩).fresh r
      (show closedThrice.count ≤ r from Nat.one_le_iff_ne_zero.2 hne)
    have hlocal := hr.localEOF
    rw [hfresh] at hlocal
    cases hlocal
  subst hzero
  exact ⟨by decide +kernel, fun t k h => hout t _ (by rw [h]; exact List.mem_cons_self ..) rfl⟩

end Session

end LnProxy
