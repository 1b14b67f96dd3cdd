import Mathlib.Data.List.Nodup
import LnProxy.Session.Answers
import LnProxy.Session.Shutdown

set_option autoImplicit false

/-! # Where an incoming stream is (`dispatch`, `dispatchLoop`)

`readLoop` creates a stream for every valid open request and hands it to `dispatch`, which queues it
or, if the queue is full, leaves it to a goroutine of its own; `dispatchLoop` takes streams out of the
queue and calls the handler. `Place` lists where a stream can be on that way. The account is a count
(`places`): the creation puts the stream in one place, every later section takes it from one place to
the next, and the only section that takes it out for good is the goroutine of `dispatch` when it sees
`done`. A stream created after the shutdown has no place; the read loop closes it at once. -/

namespace LnProxy

open Protocol Transition

/-! ## A session and the streams its read loop has created -/

/-- A session, with the streams `readLoop` has created, in order. -/
structure Traced where
  session : Session
  created : List Ref

namespace Traced

/-- `New`, before any frame. -/
def new (bufferSize : Nat) : Traced := ⟨.new bufferSize, []⟩

/-- The stream a section creates. Of all sections only the read loop's switch allocates. -/
def creates (s s' : Session) : Label → List Ref
  | .call _ _ => []
  | .run _ _ => if s'.count = s.count then [] else [s.count]

def step (json : Codec) (x : Traced) (l : Label) : Option Traced :=
  (x.session.step json l).map fun s' => ⟨s', x.created ++ creates x.session s' l⟩

end Traced

namespace Session

variable {json : Codec} {s s' s₁ : Session} {t : Tid} {a : Act} {c : Choice} {k acts : List Act}
  {op : Op} {r : Ref}

/-! ## Places -/

/-- Where a stream is between its creation and the handler. -/
inductive Place where
  /-- `readLoop` is about to call `dispatch` with it. -/
  | reading
  /-- In the queue `s.incoming`. -/
  | queued
  /-- With the goroutine `dispatch` has started for it. -/
  | spilled
  /-- Passed to the handler. -/
  | handed
  /-- In none of the others: the session has ended without the handler. -/
  | dropped
  deriving DecidableEq, Repr

/-- How often stream `r` is at a place. -/
def tally (s : Session) (r : Ref) : Place → Nat
  | .reading => if .dispatch r ∈ s.threads .readLoop then 1 else 0
  | .queued => s.incoming.buf.count r
  | .spilled => if .overflow r ∈ s.threads (.overflow r) then 1 else 0
  | .handed => s.handled.count r
  | .dropped => 0

/-- How often stream `r` is somewhere between `readLoop` and the handler, the handler included. -/
def places (s : Session) (r : Ref) : Nat :=
  s.tally r .reading + s.tally r .queued + s.tally r .spilled + s.tally r .handed

/-- The session is closed, and stream `r` is closed too or the goroutine that gave it up is about to
    close it. -/
def GivenUp (s : Session) (r : Ref) : Prop :=
  s.done = true ∧ ((s.obj r).closed = true ∨
    (s.threads .readLoop).head? = some (.forceClose r .closed) ∨
    (s.threads (.overflow r)).head? = some (.forceClose r .closed))

/-- Stream `r` is at a place, once. -/
def At (s : Session) (r : Ref) : Place → Prop
  | .dropped => s.places r = 0 ∧ s.GivenUp r
  | place => s.tally r place = 1

@[simp] theorem goto_queued (s : Session) (t : Tid) (k : List Act) :
    (s.goto t k).tally r .queued = s.tally r .queued := rfl

@[simp] theorem goto_handed (s : Session) (t : Tid) (k : List Act) :
    (s.goto t k).tally r .handed = s.tally r .handed := rfl

theorem goto_reading (s : Session) (k : List Act) (ht : Tid.readLoop ≠ t) :
    (s.goto t k).tally r .reading = s.tally r .reading := by
  simp only [tally, goto_threads_of_ne s k ht]

theorem goto_spilled (s : Session) (k : List Act) (ht : Tid.overflow r ≠ t) :
    (s.goto t k).tally r .spilled = s.tally r .spilled := by
  simp only [tally, goto_threads_of_ne s k ht]

/-- A stream counted once is at exactly one place. -/
theorem existsUnique_at_of_places (h : s.places r = 1) : ∃! place, s.At r place := by
  have hplace : s.tally r .reading = 1 ∨ s.tally r .queued = 1 ∨ s.tally r .spilled = 1 ∨
      s.tally r .handed = 1 := by
    unfold places at h
    omega
  -- a second place would count the stream twice
  have hunique : ∀ p q, s.At r p → s.At r q → p = q := by
    intro p q hp hq
    cases p <;> cases q <;> simp only [At] at hp hq <;> first | rfl | (unfold places at *; omega)
  rcases hplace with hat | hat | hat | hat
  · exact ⟨.reading, hat, fun q hq => hunique q .reading hq hat⟩
  · exact ⟨.queued, hat, fun q hq => hunique q .queued hq hat⟩
  · exact ⟨.spilled, hat, fun q hq => hunique q .spilled hq hat⟩
  · exact ⟨.handed, hat, fun q hq => hunique q .handed hq hat⟩

/-- A stream that is counted nowhere and was given up is dropped. -/
theorem existsUnique_at_of_givenUp (h : s.places r = 0) (hgiven : s.GivenUp r) :
    ∃! place, s.At r place := by
  refine ⟨.dropped, ⟨h, hgiven⟩, fun place hat => ?_⟩
  unfold places at h
  cases place <;> simp only [At] at hat <;> first | rfl | omega

/-! ## Sections that move no stream -/

/-- A section leaves the stacks of all goroutines but its own, and the one `dispatch` starts. -/
theorem Ran.threads_eq (h : Ran json s t k a c s₁ acts) {u : Tid} (hu : u ≠ t)
    (hover : ∀ q, a = .dispatch q → u ≠ .overflow q) : (s₁.goto t acts).threads u = s.threads u := by
  rw [goto_threads_of_ne _ _ hu]
  cases h with
  | @dispatchOverflow q _ => exact goto_threads_of_ne _ _ (hover q rfl)
  | handle h => cases h <;> rfl
  | _ => rfl

theorem Act.follows_of_hands {a : Act} (h : a.hands r = true) : a.follows = false := by
  cases a <;> first | rfl | cases h

/-- A section that hands over stream `r` appears and disappears only with a section of that stream
    or with its creation. -/
theorem Ran.hands_mem_iff (hw : s.Wf) (hthread : s.threads t = a :: k)
    (h : Ran json s t k a c s₁ acts) (ha : a.hands r = false)
    (hr : r ≠ s.count ∨ s₁.count = s.count) {u : Tid} {b : Act} (hb : b.hands r = true)
    (hon : b.runsOn u = true) :
    b ∈ (s₁.goto t acts).threads u ↔ b ∈ s.threads u := by
  constructor
  · intro hmem
    rcases h.mem_threads hthread hmem with hmem | ⟨-, hpushed⟩ | ⟨q, -, rfl, rfl⟩
    · exact hmem
    · rcases hpushed.hands r hb with hands | ⟨hcount, hmade, -⟩
      · rw [ha] at hands
        cases hands
      · lia
    · have hands : Act.hands r (.dispatch q) = true := hb
      rw [ha] at hands
      cases hands
  · intro hmem
    have hu : u ≠ t := by
      rintro rfl
      rw [hw.head_eq hthread hmem (Act.follows_of_hands hb), ha] at hb
      cases hb
    rw [h.threads_eq hu]
    · exact hmem
    · rintro q rfl rfl
      -- the goroutine of stream `q` would hand over stream `r`
      have hq : b = .overflow q := by
        cases b <;> first | cases hb | cases hon | skip
        simp only [Act.runsOn, decide_eq_true_eq, Tid.overflow.injEq] at hon
        rw [hon]
      rw [hq] at hb
      have hands : Act.hands r (.dispatch q) = true := hb
      rw [ha] at hands
      cases hands

/-- Only the sections of a stream and `dispatchLoop` touch it in the queue, and `dispatchLoop` passes
    what it takes out to the handler. -/
theorem Ran.queued_add_handed (h : Ran json s t k a c s₁ acts) (ha : a.hands r = false)
    (hhandler : a = .dispatchLoop → s.handler = true) :
    s₁.incoming.buf.count r + s₁.handled.count r = s.incoming.buf.count r + s.handled.count r := by
  cases h with
  | handle h => cases h <;> rfl
  | dispatch hfull | overflow hfull =>
    have hne := of_decide_eq_false ha
    rw [Chan.push_buf hfull, List.count_append, List.count_singleton, if_neg (by simpa using hne)]
    rfl
  | @dispatchHandler q qs hbuf =>
    show (s.incoming.pop.buf).count r + (s.handled ++ [q]).count r = _
    rw [Chan.pop_buf, hbuf, List.tail_cons, List.count_append, List.count_singleton, List.count_cons]
    omega
  | dispatchDrop _ hnone =>
    rw [hhandler rfl] at hnone
    cases hnone
  | _ => rfl

/-- A section of another stream, or of none, leaves the places of stream `r`. -/
theorem Ran.places_of_other (hw : s.Wf) (hthread : s.threads t = a :: k)
    (h : Ran json s t k a c s₁ acts) (ha : a.hands r = false)
    (hr : r ≠ s.count ∨ s₁.count = s.count) (hhandler : a = .dispatchLoop → s.handler = true) :
    (s₁.goto t acts).places r = s.places r := by
  have hreading : (s₁.goto t acts).tally r .reading = s.tally r .reading := by
    have hiff := h.hands_mem_iff hw hthread ha hr (u := .readLoop) (b := .dispatch r)
      (by simp [Act.hands]) rfl
    simp only [tally, hiff]
  have hspilled : (s₁.goto t acts).tally r .spilled = s.tally r .spilled := by
    have hiff := h.hands_mem_iff hw hthread ha hr (u := .overflow r) (b := .overflow r)
      (by simp [Act.hands]) (by simp [Act.runsOn])
    simp only [tally, hiff]
  have hrest : (s₁.goto t acts).tally r .queued + (s₁.goto t acts).tally r .handed =
      s.tally r .queued + s.tally r .handed := h.queued_add_handed ha hhandler
  unfold places
  omega

/-! ## Sections that move a stream -/

/-- The section that hands over a stream is not behind itself. -/
theorem Wf.not_mem_of_hands (hw : s.Wf) (hthread : s.threads t = a :: k) {b : Act}
    (hb : b.hands r = true) : b ∉ k := by
  intro hmem
  have hfollows := hw.follows t b (by rw [hthread]; exact hmem)
  rw [Act.follows_of_hands hb] at hfollows
  cases hfollows

theorem push_queued (hfull : s.incoming.full = false) :
    tally { s with incoming := s.incoming.push r } r .queued = s.tally r .queued + 1 := by
  simp [tally, Chan.push_buf hfull]

/-- `dispatch` moves the stream into the queue, or to a goroutine of its own. -/
theorem Ran.places_of_dispatch (hw : s.Wf) (hthread : s.threads t = .dispatch r :: k)
    (h : Ran json s t k (.dispatch r) c s₁ acts) (hle : s.places r ≤ 1) :
    (s₁.goto t acts).places r = s.places r := by
  have ht : t = .readLoop := of_decide_eq_true (hw.runsOn t (.dispatch r) (by simp [hthread]))
  subst ht
  have hbefore : s.tally r .reading = 1 := by simp [tally, hthread]
  have hk : .dispatch r ∉ k := hw.not_mem_of_hands (r := r) hthread (by simp [Act.hands])
  have hafter : ∀ s₂ : Session, (s₂.goto .readLoop k).tally r .reading = 0 := by simp [tally, hk]
  have hover : Tid.overflow r ≠ .readLoop := by simp
  unfold places at hle ⊢
  cases h with
  | moves h => cases h
  | dispatchOverflow _ =>
    have hspilled : (s.goto (.overflow r) [.overflow r]).tally r .spilled = 1 := by simp [tally]
    rw [hafter, goto_spilled _ _ hover, hspilled]
    simp only [goto_queued, goto_handed]
    omega
  | dispatch hfull =>
    rw [hafter, goto_spilled _ _ hover, goto_queued, push_queued hfull]
    show 0 + (s.tally r .queued + 1) + s.tally r .spilled + s.tally r .handed = _
    omega

/-- The goroutine of `dispatch` queues the stream, or gives it up when the session is closed. -/
theorem Ran.places_of_overflow (hw : s.Wf) (hthread : s.threads t = .overflow r :: k)
    (h : Ran json s t k (.overflow r) c s₁ acts) :
    (s₁.goto t acts).places r = s.places r ∨
      s.places r = (s₁.goto t acts).places r + 1 ∧ (s₁.goto t acts).GivenUp r := by
  have ht : t = .overflow r := of_decide_eq_true (hw.runsOn t (.overflow r) (by simp [hthread]))
  subst ht
  have hbefore : s.tally r .spilled = 1 := by simp [tally, hthread]
  have hk : .overflow r ∉ k := hw.not_mem_of_hands (r := r) hthread (by simp [Act.hands])
  have hread : Tid.readLoop ≠ .overflow r := by simp
  unfold places
  cases h with
  | moves h =>
    cases h with
    | overflowDone hdone =>
      have hafter : (s.goto (.overflow r) ([.forceClose r .closed] ++ k)).tally r .spilled = 0 := by
        simp [tally, hk]
      refine Or.inr ⟨?_, hdone, Or.inr (Or.inr ?_)⟩
      · rw [hafter, goto_reading _ _ hread, goto_queued, goto_handed]
        omega
      · rw [goto_threads_self]
        rfl
  | overflow hfull =>
    have hafter : ∀ s₂ : Session, (s₂.goto (.overflow r) k).tally r .spilled = 0 := by
      simp [tally, hk]
    left
    rw [hafter, goto_reading _ _ hread, goto_queued, push_queued hfull]
    show s.tally r .reading + (s.tally r .queued + 1) + 0 + s.tally r .handed = _
    omega

/-- A section leaves a stream where it is or takes it one place further, or gives it up. -/
theorem Ran.places_cases (hw : s.Wf) (hthread : s.threads t = a :: k)
    (h : Ran json s t k a c s₁ acts) (hr : r ≠ s.count ∨ s₁.count = s.count)
    (hhandler : a = .dispatchLoop → s.handler = true) (hle : s.places r ≤ 1) :
    (s₁.goto t acts).places r = s.places r ∨
      s.places r = (s₁.goto t acts).places r + 1 ∧ (s₁.goto t acts).GivenUp r := by
  by_cases hands : a.hands r = true
  · cases a with
    | dispatch q =>
      cases of_decide_eq_true hands
      exact Or.inl (h.places_of_dispatch hw hthread hle)
    | overflow q =>
      cases of_decide_eq_true hands
      exact h.places_of_overflow hw hthread
    | _ => cases hands
  · exact Or.inl (h.places_of_other hw hthread (by simpa using hands) hr hhandler)

/-! ## Streams that were given up -/

theorem Ran.done_mono (h : Ran json s t k a c s₁ acts) (hdone : s.done = true) : s₁.done = true := by
  cases h with
  | handle h => cases h <;> exact hdone
  | shutdown _ => rfl
  | _ => exact hdone

/-- The goroutine that is about to close a stream closes it. -/
theorem Ran.closing (hw : s.Wf) (hthread : s.threads t = a :: k) (h : Ran json s t k a c s₁ acts)
    {u : Tid} (hover : ∀ q, a = .dispatch q → u ≠ .overflow q) {err : Err}
    (hhead : (s.threads u).head? = some (.forceClose r err)) : (s₁.obj r).closed = true ∨
      ((s₁.goto t acts).threads u).head? = some (.forceClose r err) := by
  by_cases hu : u = t
  · subst hu
    rw [hthread, List.head?_cons, Option.some.injEq] at hhead
    subst hhead
    exact Or.inl (h.forceClose_closes hw)
  · right
    rw [h.threads_eq hu hover]
    exact hhead

theorem GivenUp.run (hw : s.Wf) (hthread : s.threads t = a :: k) (h : Ran json s t k a c s₁ acts)
    (hnone : s.places r = 0) (hgiven : s.GivenUp r) : (s₁.goto t acts).GivenUp r := by
  -- the read loop does not dispatch a stream that is nowhere
  have hover : ∀ q, a = .dispatch q → Tid.overflow r ≠ .overflow q := by
    rintro q rfl heq
    cases heq
    have ht : t = .readLoop := of_decide_eq_true (hw.runsOn t (.dispatch r) (by simp [hthread]))
    subst ht
    simp [places, tally, hthread] at hnone
  obtain ⟨hdone, hclosed | hhead | hhead⟩ := hgiven
  · have hstays : (s₁.obj r).closed = true := (h.keeps hw hthread r).closed hclosed
    exact ⟨h.done_mono hdone, Or.inl hstays⟩
  · have hread : ∀ q, a = .dispatch q → Tid.readLoop ≠ .overflow q := by simp
    exact ⟨h.done_mono hdone, (h.closing hw hthread hread hhead).imp_right Or.inl⟩
  · exact ⟨h.done_mono hdone, (h.closing hw hthread hover hhead).imp_right Or.inr⟩

/-! ## Creation -/

/-- The read loop makes a stream: it is about to dispatch it or, if the session is closed, to close
    it. -/
theorem Ran.creates (h : Ran json s t k a c s₁ acts) (hcount : s₁.count ≠ s.count) :
    (∃ frame, a = .handle frame) ∧ s₁.threads = s.threads ∧ s₁.incoming = s.incoming ∧
      s₁.handled = s.handled ∧ s₁.done = s.done ∧
      (acts = .dispatch s.count :: k ∨ s.closed = true ∧ acts = .forceClose s.count .closed :: k) := by
  cases h with
  | @handle frame _ _ h =>
    cases h with
    | openClosed _ _ hclosed =>
      exact ⟨⟨frame, rfl⟩, rfl, rfl, rfl, rfl, Or.inr ⟨hclosed, rfl⟩⟩
    | openNew _ _ _ => exact ⟨⟨frame, rfl⟩, rfl, rfl, rfl, rfl, Or.inl rfl⟩
    | _ => exact absurd rfl hcount
  | _ => exact absurd rfl hcount

theorem Ran.places_of_creates (hw : s.Wf) (hthread : s.threads t = a :: k)
    (h : Ran json s t k a c s₁ acts) (hcount : s₁.count ≠ s.count) (hnone : s.places s.count = 0) :
    (s₁.goto t acts).places s.count = 1 ∨
      (s₁.goto t acts).places s.count = 0 ∧ (s₁.goto t acts).GivenUp s.count := by
  obtain ⟨⟨frame, rfl⟩, hthreads, hincoming, hhandled, hdone, hacts⟩ := h.creates hcount
  have ht : t = .readLoop := of_decide_eq_true (hw.runsOn t (.handle frame) (by simp [hthread]))
  subst ht
  have hover : Tid.overflow s.count ≠ .readLoop := by simp
  have hspilled : (s₁.goto .readLoop acts).tally s.count .spilled = s.tally s.count .spilled := by
    rw [goto_spilled _ _ hover]
    simp only [tally, hthreads]
  have hqueued : (s₁.goto .readLoop acts).tally s.count .queued = s.tally s.count .queued := by
    rw [goto_queued]
    simp only [tally, hincoming]
  have hhanded : (s₁.goto .readLoop acts).tally s.count .handed = s.tally s.count .handed := by
    rw [goto_handed]
    simp only [tally, hhandled]
  unfold places at hnone ⊢
  rw [hspilled, hqueued, hhanded]
  rcases hacts with rfl | ⟨hclosed, rfl⟩
  · left
    have hreading : (s₁.goto .readLoop (.dispatch s.count :: k)).tally s.count .reading = 1 := by
      simp [tally]
    omega
  · right
    have hk : .dispatch s.count ∉ k := hw.not_mem_of_hands (r := s.count) hthread (by simp [Act.hands])
    have hreading :
        (s₁.goto .readLoop (.forceClose s.count .closed :: k)).tally s.count .reading = 0 := by
      simp [tally, hk]
    refine ⟨by omega, ?_, Or.inr (Or.inl (by simp))⟩
    show s₁.done = true
    rw [hdone, hw.done]
    exact hclosed

/-! ## Calls -/

theorem Called.hands_mem_iff (hw : s.Wf) (hidle : s.threads t = []) (h : Called json s op s₁ acts)
    {u : Tid} {b : Act} (hb : b.hands r = true) :
    b ∈ (s₁.goto t acts).threads u ↔ b ∈ s.threads u := by
  refine ⟨fun hmem => h.hands_mem hmem hb, fun hmem => ?_⟩
  rw [h.threads_busy hw hidle (List.ne_nil_of_mem hmem)]
  exact hmem

theorem Called.places_eq (hw : s.Wf) (hidle : s.threads t = []) (h : Called json s op s₁ acts) :
    (s₁.goto t acts).places r = s.places r := by
  have hreading := h.hands_mem_iff hw hidle (u := .readLoop) (b := .dispatch r) (r := r)
    (by simp [Act.hands])
  have hspilled := h.hands_mem_iff hw hidle (u := .overflow r) (b := .overflow r) (r := r)
    (by simp [Act.hands])
  have hincoming : (s₁.goto t acts).incoming = s.incoming := h.incoming_eq
  have hhandled : (s₁.goto t acts).handled = s.handled := h.handled_eq
  simp only [places, tally, hreading, hspilled, hincoming, hhandled]

theorem GivenUp.call (hw : s.Wf) (hidle : s.threads t = []) (h : Called json s op s₁ acts)
    (hr : r < s.count) (hgiven : s.GivenUp r) : (s₁.goto t acts).GivenUp r := by
  have hbusy : ∀ u b, (s.threads u).head? = some b → ((s₁.goto t acts).threads u).head? = some b := by
    intro u b hhead
    rw [h.threads_busy hw hidle (by rintro hnil; simp [hnil] at hhead)]
    exact hhead
  obtain ⟨hdone, hpending⟩ := hgiven
  refine ⟨?_, ?_⟩
  · cases h <;> exact hdone
  · rw [goto_obj, h.closed_eq hr]
    exact hpending.imp_right (Or.imp (hbusy _ _) (hbusy _ _))

/-! ## The account -/

theorem Ran.handler_eq (h : Ran json s t k a c s₁ acts) : s₁.handler = s.handler := by
  cases h with
  | handle h => cases h <;> rfl
  | _ => rfl

/-- A call keeps the handler of a session that was started. -/
theorem Called.handler_of_started (h : Called json s op s₁ acts)
    (hafter : s₁.started = true → s₁.handler = true) : s.started = true → s.handler = true := by
  intro hs
  cases h with
  | start hnot =>
    rw [hs] at hnot
    cases hnot
  | _ => exact hafter hs

end Session

namespace Traced

open Session

variable {json : Codec} {x x' : Traced} {l : Label}

/-- The account of the streams `readLoop` has created. A session without a handler drops streams, so
    the two counts are for a session that was started with one, or not yet. -/
structure Ledger (x : Traced) : Prop where
  wf : x.session.Wf
  idle : x.session.started = false → x.created = []
  lt : ∀ r ∈ x.created, r < x.session.count
  nodup : x.created.Nodup
  others : (x.session.started = true → x.session.handler = true) →
    ∀ r ∉ x.created, x.session.places r = 0
  account : (x.session.started = true → x.session.handler = true) →
    ∀ r ∈ x.created, x.session.places r = 1 ∨ x.session.places r = 0 ∧ x.session.GivenUp r

theorem new_ledger (bufferSize : Nat) : (Traced.new bufferSize).Ledger where
  wf := new_wf bufferSize
  idle := fun _ => rfl
  lt := by simp [Traced.new]
  nodup := List.nodup_nil
  others := by simp [Traced.new, Session.new, places, tally]
  account := by simp [Traced.new]

theorem Ledger.call (hx : x.Ledger) {t : Tid} {op : Op} {s₁ : Session} {acts : List Act}
    (hcalls : t.calls = true) (hidle : x.session.threads t = [])
    (h : Called json x.session op s₁ acts) : Ledger ⟨s₁.goto t acts, x.created⟩ where
  wf := hx.wf.call hcalls h
  idle := by
    intro hnot
    apply hx.idle
    by_contra hs
    have hstays : s₁.started = true := h.started_mono (by simpa using hs)
    have hnot : s₁.started = false := hnot
    rw [hstays] at hnot
    cases hnot
  lt := by
    intro r hr
    have hlt := hx.lt r hr
    show r < s₁.count
    rcases h.count_eq with hcount | ⟨-, -, hcount, -⟩ <;> lia
  nodup := hx.nodup
  others := by
    intro hhandler r hr
    show (s₁.goto t acts).places r = 0
    rw [h.places_eq hx.wf hidle]
    exact hx.others (h.handler_of_started hhandler) r hr
  account := by
    intro hhandler r hr
    show (s₁.goto t acts).places r = 1 ∨ (s₁.goto t acts).places r = 0 ∧ (s₁.goto t acts).GivenUp r
    rw [h.places_eq hx.wf hidle]
    exact (hx.account (h.handler_of_started hhandler) r hr).imp_right
      (And.imp_right (GivenUp.call hx.wf hidle h (hx.lt r hr)))

/-- The loop that calls the handler runs only in a session that was started. -/
theorem Ledger.handler (hx : x.Ledger)
    (hhandler : x.session.started = true → x.session.handler = true) {t : Tid} {a : Act}
    {k : List Act} (hthread : x.session.threads t = a :: k) :
    a = .dispatchLoop → x.session.handler = true := by
  rintro rfl
  apply hhandler
  by_contra hnot
  have ht : t = .dispatchLoop :=
    of_decide_eq_true (hx.wf.runsOn t .dispatchLoop (by simp [hthread]))
  rw [ht, (hx.wf.idle (by simpa using hnot)).2] at hthread
  cases hthread

section Run

variable {t : Tid} {a : Act} {k : List Act} {c : Choice} {s₁ : Session} {acts : List Act} {r : Ref}

/-- A stream the read loop has not created has no place after a section, unless the section creates
    it. -/
theorem Ledger.others_run (hx : x.Ledger) (hthread : x.session.threads t = a :: k)
    (h : Ran json x.session t k a c s₁ acts) (hr : r ≠ x.session.count ∨ s₁.count = x.session.count)
    (hhandler : x.session.started = true → x.session.handler = true) (hmem : r ∉ x.created) :
    (s₁.goto t acts).places r = 0 := by
  have hzero := hx.others hhandler r hmem
  have hcases := h.places_cases hx.wf hthread hr (hx.handler hhandler hthread) (by omega)
  omega

/-- A stream the read loop has created keeps a place, or is given up. -/
theorem Ledger.account_run (hx : x.Ledger) (hthread : x.session.threads t = a :: k)
    (h : Ran json x.session t k a c s₁ acts)
    (hhandler : x.session.started = true → x.session.handler = true) (hmem : r ∈ x.created) :
    (s₁.goto t acts).places r = 1 ∨
      (s₁.goto t acts).places r = 0 ∧ (s₁.goto t acts).GivenUp r := by
  have hlt := hx.lt r hmem
  have haccount := hx.account hhandler r hmem
  have hcases := h.places_cases hx.wf hthread (Or.inl (Nat.ne_of_lt hlt))
    (hx.handler hhandler hthread) (by omega)
  rcases haccount with hone | ⟨hzero, hgiven⟩
  · rcases hcases with heq | ⟨heq, hgiven⟩
    · exact Or.inl (heq.trans hone)
    · exact Or.inr ⟨by omega, hgiven⟩
  · rcases hcases with heq | ⟨heq, -⟩
    · exact Or.inr ⟨heq.trans hzero, hgiven.run hx.wf hthread h hzero⟩
    · omega

theorem Ledger.run (hx : x.Ledger) (hthread : x.session.threads t = a :: k)
    (h : Ran json x.session t k a c s₁ acts) :
    Ledger ⟨s₁.goto t acts,
      x.created ++ if s₁.count = x.session.count then [] else [x.session.count]⟩ := by
  have hkeeps : (s₁.started = true → s₁.handler = true) →
      x.session.started = true → x.session.handler = true := by
    rw [h.started_eq, h.handler_eq]
    exact id
  have hfresh : x.session.count ∉ x.created := fun hmem => Nat.lt_irrefl _ (hx.lt _ hmem)
  by_cases hcount : s₁.count = x.session.count
  · rw [if_pos hcount, List.append_nil]
    refine ⟨hx.wf.run hthread h, ?_, ?_, hx.nodup, ?_, ?_⟩
    · intro hnot
      exact hx.idle (h.started_eq ▸ hnot)
    · intro r hr
      exact Nat.lt_of_lt_of_le (hx.lt r hr) h.count_le
    · intro hhandler r hr
      exact hx.others_run hthread h (Or.inr hcount) (hkeeps hhandler) hr
    · intro hhandler r hr
      exact hx.account_run hthread h (hkeeps hhandler) hr
  · rw [if_neg hcount]
    have hone : s₁.count = x.session.count + 1 := by
      rcases h.count_eq with heq | ⟨-, frame, request, -, -, -, hone, -⟩
      · exact absurd heq hcount
      · exact hone
    refine ⟨hx.wf.run hthread h, ?_, ?_, ?_, ?_, ?_⟩
    · -- the read loop runs
      intro hnot
      obtain ⟨⟨frame, rfl⟩, -⟩ := h.creates hcount
      have ht : t = .readLoop :=
        of_decide_eq_true (hx.wf.runsOn t (.handle frame) (by simp [hthread]))
      rw [ht, (hx.wf.idle (h.started_eq ▸ hnot)).1] at hthread
      cases hthread
    · intro r hr
      show r < s₁.count
      rcases List.mem_append.1 hr with hr | hr
      · have hlt := hx.lt r hr
        lia
      · rw [List.mem_singleton] at hr
        lia
    · exact List.nodup_append.2 ⟨hx.nodup, List.nodup_singleton _, fun r hr q hq heq =>
        hfresh (by rw [List.mem_singleton] at hq; rwa [← hq, ← heq])⟩
    · intro hhandler r hr
      rw [List.mem_append, List.mem_singleton, not_or] at hr
      exact hx.others_run hthread h (Or.inl hr.2) (hkeeps hhandler) hr.1
    · intro hhandler r hr
      rcases List.mem_append.1 hr with hr | hr
      · exact hx.account_run hthread h (hkeeps hhandler) hr
      · rw [List.mem_singleton] at hr
        subst hr
        exact h.places_of_creates hx.wf hthread hcount (hx.others (hkeeps hhandler) _ hfresh)

end Run

/-- **Every step keeps the account.** -/
theorem Ledger.step (hx : x.Ledger) (h : x.step json l = some x') : x'.Ledger := by
  obtain ⟨s', hs', rfl⟩ := Option.map_eq_some_iff.1 h
  obtain ⟨-, hsteps⟩ := step_steps hs'
  cases hsteps with
  | call hcalls hidle hcalled =>
    rw [Traced.creates, List.append_nil]
    exact hx.call hcalls hidle hcalled
  | run hthread hran => exact hx.run hthread hran

theorem ledger_of_reachable {bufferSize : Nat}
    (h : Reachable (Traced.step json) (Traced.new bufferSize) x) : x.Ledger :=
  h.invariant Ledger (fun _ _ _ hx hstep => hx.step hstep) (new_ledger bufferSize)

/-- **Incoming streams are dispatched exactly once.** In every reachable state of a session with a
    handler, each stream its read loop has created is at exactly one place: about to be dispatched,
    in the queue, with its own goroutine, passed to the handler (once), or dropped. While the session
    is open no stream is dropped; one that is dropped later is closed, or about to be closed by the
    goroutine that gave it up. The handler gets no stream twice, and none that the read loop did not
    create. -/
theorem dispatched_once {bufferSize : Nat}
    (h : Reachable (Traced.step json) (Traced.new bufferSize) x) (hhandler : x.session.handler = true) :
    (∀ r ∈ x.created, ∃! place, x.session.At r place) ∧
      (x.session.done = false → ∀ r ∈ x.created, x.session.places r = 1) ∧
      x.session.handled.Nodup ∧ ∀ r ∈ x.session.handled, r ∈ x.created := by
  have hx := ledger_of_reachable h
  have hcount : ∀ r ∉ x.created, x.session.handled.count r = 0 := by
    intro r hr
    have hzero := hx.others (fun _ => hhandler) r hr
    have hle : x.session.handled.count r ≤ x.session.places r := Nat.le_add_left _ _
    omega
  refine ⟨fun r hr => ?_, fun hopen r hr => ?_, ?_, fun r hr => ?_⟩
  · rcases hx.account (fun _ => hhandler) r hr with hone | ⟨hzero, hgiven⟩
    · exact existsUnique_at_of_places hone
    · exact existsUnique_at_of_givenUp hzero hgiven
  · rcases hx.account (fun _ => hhandler) r hr with hone | ⟨-, hdone, -⟩
    · exact hone
    · rw [hopen] at hdone
      cases hdone
  · refine List.nodup_iff_count_le_one.2 fun r => ?_
    have hle : x.session.handled.count r ≤ x.session.places r := Nat.le_add_left _ _
    by_cases hr : r ∈ x.created
    · rcases hx.account (fun _ => hhandler) r hr with hone | ⟨hzero, -⟩ <;> omega
    · have hzero := hcount r hr
      omega
  · by_contra hmem
    exact List.count_eq_zero.1 (hcount r hmem) hr

/-- The frame that opens a stream, read, and the switch of `readLoop` for it. -/
def openRead (id : Nat) : List Label :=
  turns .readLoop [.frame (openFrame sampleCodec (sampleRequest (UInt64.ofNat id))), .go]

/-- A peer opens 67 streams before the handler is called: the queue takes 64 of them. Then two of the
    three others find room, one after the other, and the handler gets 65 streams. -/
def flooding : List Label :=
  .call (.user 0) (.start true) ::
    (List.range 67).flatMap (fun i => openRead (i + 1) ++ [.run .readLoop .go]) ++
    [.run .dispatchLoop .go, .run (.overflow 64) .go, .run .dispatchLoop .go,
      .run (.overflow 65) .go] ++ List.replicate 63 (.run .dispatchLoop .go)

def flooded : Traced := after (Traced.step sampleCodec) (Traced.new 0) flooding

theorem flooded_at_one_place : flooded.created = List.range 67 ∧
    flooded.session.At 64 .handed ∧ flooded.session.At 65 .queued ∧ flooded.session.At 66 .spilled ∧
    ∀ r < 67, ∃! place, flooded.session.At r place := by
  have hcreated : flooded.created = List.range 67 := by decide +kernel
  have hat : flooded.session.tally 64 .handed = 1 ∧ flooded.session.tally 65 .queued = 1 ∧
      flooded.session.tally 66 .spilled = 1 := by
    decide +kernel
  refine ⟨hcreated, hat.1, hat.2.1, hat.2.2, fun r hr => ?_⟩
  exact (dispatched_once ⟨flooding, exec_after (by decide +kernel)⟩ (by decide +kernel)).1 r
    (hcreated ▸ List.mem_range.2 hr)

/-- A session with a handler, of which the peer opens a stream; the last label is the switch of
    `readLoop`, after which the stream is in the map. -/
def opening : List Label := .call (.user 0) (.start true) :: openRead 1

def opened : Traced := after (Traced.step sampleCodec) (Traced.new 0) opening

/-- The read loop has created a stream on an open session and not dispatched it yet: it is not in the
    queue, no goroutine has it, the handler was not called, and it is not closed. -/
theorem opened_not_dispatched :
    (exec (Traced.step sampleCodec) (Traced.new 0) opening).isSome = true ∧
      opened.session.handler = true ∧ opened.session.done = false ∧ opened.created = [0] ∧
      0 ∉ opened.session.incoming.buf ∧ opened.session.threads (.overflow 0) = [] ∧
      0 ∉ opened.session.handled ∧ (opened.session.obj 0).closed = false := by
  decide +kernel

end Traced

end LnProxy
