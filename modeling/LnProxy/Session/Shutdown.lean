import LnProxy.Link.Fidelity
import LnProxy.Session.Stall

set_option autoImplicit false

/-! # Shutdown reaches every stream

`shutdown` takes the streams out of the map under the lock that also closes the session, and closes
them one by one. A stream it does not find there has been taken out by somebody who closes it: by
`forceClose` itself, or by its own `Open`, which removes the entry first and closes the stream
afterwards. So when `shutdown` is over and no `Open` is under way, every stream that ever was in the
map is closed.

Two things are not covered. `forceClose` closes the `done` channel last, after it has removed the
entry, so a goroutine that had begun it can be found just before that. And an `Open` on a closed
session drops the stream it has allocated without closing it; nobody holds that stream. -/

namespace LnProxy

open Protocol Transition

/-- The section is the loop of `shutdown`. -/
def Act.sweeps : Act → Bool
  | .forceCloseAll _ _ => true
  | _ => false

/-- `Stream.Err` -/
def Stream.err (x : Stream) : Option Err := x.readErr.or x.writeErr

namespace Session

variable {json : Codec} {s s' s₁ : Session} {t : Tid} {a : Act} {c : Choice} {k acts : List Act}
  {l : Label} {op : Op} {r : Ref}

/-! ## The loop of `shutdown` -/

/-- The stacks of the goroutine in `shutdown`, with the streams it still has to close. -/
inductive Sweeping : List Ref → List Act → Prop where
  | loop {rs : List Ref} {err : Err} {k : List Act} (h : ∀ a ∈ k, a.sweeps = false) :
      Sweeping rs (.forceCloseAll rs err :: k)
  | closing {q : Ref} {rs : List Ref} {err err' : Err} {k : List Act} (h : ∀ a ∈ k, a.sweeps = false) :
      Sweeping (q :: rs) (.forceClose q err :: .forceCloseAll rs err' :: k)
  | removing {q : Ref} {rs : List Ref} {err : Err} {k : List Act} (h : ∀ a ∈ k, a.sweeps = false) :
      Sweeping rs (.removeStream q :: .closeDone q :: .forceCloseAll rs err :: k)
  | ending {q : Ref} {rs : List Ref} {err : Err} {k : List Act} (h : ∀ a ∈ k, a.sweeps = false) :
      Sweeping rs (.closeDone q :: .forceCloseAll rs err :: k)

theorem Sweeping.ne_nil {rs : List Ref} (h : Sweeping rs k) : k ≠ [] := by
  cases h <;> simp

/-- What a section does to the shutdown of the session. -/
inductive Sweeps (s : Session) (k : List Act) : Act → Session → List Act → Prop where
  | same {a : Act} {s₁ : Session} {acts : List Act} (hclose : s₁.close = s.close)
      (hclosed : s₁.closed = s.closed)
      (hacts : ∀ b ∈ acts, b.sweeps = true → b ∈ k ∨ a.sweeps = true) : Sweeps s k a s₁ acts
  | begins {err : Err} (h : s.close = .idle) : Sweeps s k (.shutdown err)
      { s with closed := true, err := some err, done := true, close := .running }
      (.forceCloseAll s.registered err :: k)
  | ends {err : Err} : Sweeps s k (.forceCloseAll [] err) { s with close := .finished } k

theorem onErr_sweeps (purpose : Purpose) (err : Err) :
    ∀ b ∈ purpose.onErr err, b.sweeps = false := by
  cases purpose with
  | chunk q rest inCopy => cases inCopy <;> simp [Purpose.onErr, Act.sweeps]
  | _ => simp [Purpose.onErr, Act.sweeps]

theorem onOk_sweeps (purpose : Purpose) : ∀ b ∈ purpose.onOk, b.sweeps = false := by
  cases purpose with
  | chunk q rest inCopy =>
    simp only [Purpose.onOk]
    split
    · cases inCopy <;> simp [Act.sweeps]
    · simp [Act.sweeps]
  | _ => simp [Purpose.onOk, Act.sweeps]

theorem Moves.sweeps (h : Moves json s a c acts) :
    ∀ b ∈ acts, b.sweeps = true → a.sweeps = true := by
  cases h with
  | pick _ => exact fun _ _ _ => rfl
  | writeFrameRefused _ | oversized _ | failed _ =>
    intro b hb hsweeps
    rw [onErr_sweeps _ _ b hb] at hsweeps
    cases hsweeps
  | @writeEmpty _ inCopy | @writeRefused _ _ inCopy _ =>
    cases inCopy <;> simp [afterEmptyWrite, afterRefusedWrite, Act.sweeps]
  | _ => simp [Act.sweeps]

theorem Ran.sweeps (h : Ran json s t k a c s₁ acts) : Sweeps s k a s₁ acts := by
  cases h with
  | moves h =>
    refine .same rfl rfl ?_
    intro b hb hsweeps
    rcases List.mem_append.1 hb with hb | hb
    · exact Or.inr (h.sweeps b hb hsweeps)
    · exact Or.inl hb
  | @wrote _ purpose _ =>
    refine .same rfl rfl ?_
    intro b hb hsweeps
    rcases List.mem_append.1 hb with hb | hb
    · rw [onOk_sweeps purpose b hb] at hsweeps
      cases hsweeps
    · exact Or.inl hb
  | shutdown h => exact .begins h
  | shutdownEnd => exact .ends
  | handle h => cases h <;> exact .same rfl rfl (by simp +contextual [Act.sweeps])
  | _ => exact .same rfl rfl (by simp +contextual [Act.sweeps])

/-- A closed session registers nothing. -/
theorem Ran.streams_of_closed (h : Ran json s t k a c s₁ acts) (hclosed : s.closed = true)
    {i : UInt64} (hr : s₁.streams i = some r) : s.streams i = some r := by
  cases h with
  | handle h =>
    cases h with
    | openNew _ _ hopen =>
      rw [hclosed] at hopen
      cases hopen
    | _ => exact hr
  | openInsert hopen _ =>
    rw [hclosed] at hopen
    cases hopen
  | @removeStream q =>
    simp only [forget] at hr
    split at hr
    · simp only [Function.update_apply] at hr
      split at hr
      · cases hr
      · exact hr
    · exact hr
  | _ => exact hr

/-- Whoever gets past `forceClose` finds the stream closed. -/
theorem Ran.forceClose_closes {err : Err} (hw : s.Wf) (h : Ran json s t k (.forceClose r err) c s₁ acts) :
    (s₁.obj r).closed = true := by
  cases h with
  | moves h =>
    cases h with
    | forceCloseAgain honce => exact (hw.ok r).once.2 (by simp [honce])
  | forceClose _ => simp [modify, Stream.forceClose]

/-- Where `shutdown` is: it has not begun, or one goroutine closes the streams that were in the map,
    or it is over and every stream in the map is closed. -/
inductive Swept (s : Session) : Prop where
  | idle (hclose : s.close = .idle) (hclosed : s.closed = false)
      (hquiet : ∀ t, ∀ a ∈ s.threads t, a.sweeps = false)
  | running (t : Tid) (rs : List Ref) (hclose : s.close = .running) (hclosed : s.closed = true)
      (hshape : Sweeping rs (s.threads t))
      (hcover : ∀ i q, s.streams i = some q → (s.obj q).closed = true ∨ q ∈ rs)
      (hother : ∀ u, u ≠ t → ∀ a ∈ s.threads u, a.sweeps = false)
  | finished (hclose : s.close = .finished) (hclosed : s.closed = true)
      (hquiet : ∀ t, ∀ a ∈ s.threads t, a.sweeps = false)
      (hcover : ∀ i q, s.streams i = some q → (s.obj q).closed = true)

theorem new_swept (bufferSize : Nat) : (Session.new bufferSize).Swept :=
  .idle rfl rfl (by simp [Session.new])

theorem Swept.over (hswept : s.Swept) (hfinished : s.close = .finished) :
    s.closed = true ∧ ∀ i q, s.streams i = some q → (s.obj q).closed = true := by
  cases hswept with
  | idle hclose | running _ _ hclose =>
    rw [hclose] at hfinished
    cases hfinished
  | finished _ hclosed _ hcover => exact ⟨hclosed, hcover⟩

/-- A section of a goroutine that is not in `shutdown` leaves no loop of `shutdown` behind. -/
theorem quiet_of_ran (hthread : s.threads t = a :: k) (h : Ran json s t k a c s₁ acts)
    (hold : ∀ a ∈ s.threads t, a.sweeps = false) (hacts : ∀ b ∈ acts, b.sweeps = true →
      b ∈ k ∨ a.sweeps = true) {u : Tid} (hother : u ≠ t → ∀ b ∈ s.threads u, b.sweeps = false) :
    ∀ b ∈ (s₁.goto t acts).threads u, b.sweeps = false := by
  intro b hb
  rcases h.mem_acts hb with ⟨hu, hb⟩ | ⟨rfl, hmem⟩ | ⟨q, -, rfl, -⟩
  · exact hother hu b hb
  · by_contra hsweeps
    rcases hacts b hmem (by simpa using hsweeps) with hk | ha
    · exact hsweeps (hold b (mem_of_tail hthread hk))
    · rw [hold a (mem_of_head hthread)] at ha
      cases ha
  · rfl

/-- The goroutine in `shutdown` makes a step. -/
theorem Sweeping.run {rs : List Ref} (hshape : Sweeping rs (a :: k)) (hw : s.Wf)
    (h : Ran json s t k a c s₁ acts) :
    (s₁.close = s.close ∧ ∃ rs', Sweeping rs' acts ∧
      ∀ q ∈ rs, q ∈ rs' ∨ (s₁.obj q).closed = true) ∨
    s₁.close = .finished ∧ rs = [] ∧ ∀ b ∈ acts, b.sweeps = false := by
  generalize hstack : a :: k = stack at hshape
  cases hshape with
  | loop hk =>
    cases hstack
    cases h with
    | moves h =>
      cases h with
      | @pick _ _ q hmem =>
        refine Or.inl ⟨rfl, _, .closing hk, ?_⟩
        intro p hp
        by_cases hpq : p = q
        · exact Or.inl (by simp [hpq])
        · exact Or.inl (List.mem_cons_of_mem _ ((List.mem_erase_of_ne hpq).2 hp))
    | shutdownEnd => exact Or.inr ⟨rfl, rfl, hk⟩
  | @closing q rs err err' _ hk =>
    cases hstack
    have hclosed : (s₁.obj q).closed = true := h.forceClose_closes hw
    have hrest : ∀ p ∈ q :: rs, p ∈ rs ∨ (s₁.obj p).closed = true := by
      intro p hp
      rcases List.mem_cons.1 hp with rfl | hp
      · exact Or.inr hclosed
      · exact Or.inl hp
    cases h with
    | moves h =>
      cases h with
      | forceCloseAgain _ => exact Or.inl ⟨rfl, rs, .loop hk, hrest⟩
    | forceClose _ => exact Or.inl ⟨rfl, rs, .removing hk, hrest⟩
  | removing hk =>
    cases hstack
    cases h with
    | moves h => cases h
    | removeStream => exact Or.inl ⟨rfl, _, .ending hk, fun p hp => Or.inl hp⟩
  | ending hk =>
    cases hstack
    cases h with
    | moves h => cases h
    | closeDone => exact Or.inl ⟨rfl, _, .loop hk, fun p hp => Or.inl hp⟩

theorem Swept.run (hswept : s.Swept) (hw : s.Wf) (hlive : s.Live) (hthread : s.threads t = a :: k)
    (h : Ran json s t k a c s₁ acts) : (s₁.goto t acts).Swept := by
  have hamem := mem_of_head hthread
  have hkeep : s.closed = true → ∀ {p : Ref → Prop}, (∀ i q, s.streams i = some q →
      (s.obj q).closed = true ∨ p q) → ∀ i q, s₁.streams i = some q →
      (s₁.obj q).closed = true ∨ p q := by
    intro hclosed p hold i q hq
    have hq := h.streams_of_closed hclosed hq
    exact (hold i q hq).imp_left (h.keeps hw hthread q).closed
  cases hswept with
  | idle hclose hclosed hquiet =>
    cases h.sweeps with
    | same hclose₁ hclosed₁ hacts =>
      exact .idle (hclose₁.trans hclose) (hclosed₁.trans hclosed) fun u =>
        quiet_of_ran hthread h (hquiet t) hacts fun _ => hquiet u
    | begins _ =>
      refine .running t s.registered rfl rfl ?_ ?_ ?_
      · rw [goto_threads_self]
        exact .loop fun b hb => hquiet t b (mem_of_tail hthread hb)
      · intro i q hq
        obtain ⟨hlt, hid⟩ := hw.streams i q hq
        exact Or.inr (mem_registered.2 ⟨hlt, hid ▸ hq⟩)
      · intro u hu b hb
        rw [goto_threads_of_ne _ _ hu] at hb
        exact hquiet u b hb
    | ends =>
      have := hquiet t _ hamem
      cases this
  | running t₀ rs hclose hclosed hshape hcover hother =>
    by_cases ht : t = t₀
    · subst ht
      rw [hthread] at hshape
      have hquiet : ∀ u, u ≠ t → ∀ b ∈ (s₁.goto t acts).threads u, b.sweeps = false := by
        intro u hu b hb
        rcases h.mem_acts hb with ⟨-, hb⟩ | ⟨hut, -⟩ | ⟨q, -, rfl, -⟩
        · exact hother u hu b hb
        · exact absurd hut hu
        · rfl
      have hclosed₁ : s₁.closed = true := by
        cases h.sweeps with
        | same _ hclosed₁ _ => exact hclosed₁.trans hclosed
        | begins _ => rfl
        | ends => exact hclosed
      rcases hshape.run hw h with ⟨hclose₁, rs', hshape', hrs⟩ | ⟨hclose₁, rfl, hacts⟩
      · refine .running t rs' (hclose₁.trans hclose) hclosed₁ ?_ ?_ hquiet
        · rw [goto_threads_self]
          exact hshape'
        · intro i q hq
          rcases hkeep hclosed hcover i q hq with hclosed | hmem
          · exact Or.inl hclosed
          · exact (hrs q hmem).symm
      · refine .finished hclose₁ hclosed₁ ?_ ?_
        · intro u b hb
          by_cases hu : u = t
          · subst hu
            rw [goto_threads_self] at hb
            exact hacts b hb
          · exact hquiet u hu b hb
        · intro i q hq
          exact (hkeep hclosed hcover i q hq).resolve_right List.not_mem_nil
    · -- another goroutine
      have hquiet := hother t ht
      cases h.sweeps with
      | begins hidle =>
        rw [hclose] at hidle
        cases hidle
      | ends =>
        have := hquiet _ hamem
        cases this
      | same hclose₁ hclosed₁ hacts =>
        refine .running t₀ rs (hclose₁.trans hclose) (hclosed₁.trans hclosed) ?_
          (hkeep hclosed hcover) fun u hu => quiet_of_ran hthread h hquiet hacts fun _ => hother u hu
        rw [hlive.threads_busy hw hthread h (Ne.symm ht) hshape.ne_nil]
        exact hshape
  | finished hclose hclosed hquiet hcover =>
    cases h.sweeps with
    | begins hidle =>
      rw [hclose] at hidle
      cases hidle
    | ends =>
      have := hquiet t _ hamem
      cases this
    | same hclose₁ hclosed₁ hacts =>
      refine .finished (hclose₁.trans hclose) (hclosed₁.trans hclosed)
        (fun u => quiet_of_ran hthread h (hquiet t) hacts fun _ => hquiet u) fun i q hq => ?_
      have hold : ∀ i q, s.streams i = some q → (s.obj q).closed = true ∨ False :=
        fun i q hq => Or.inl (hcover i q hq)
      exact (hkeep hclosed hold i q hq).resolve_right id

theorem Called.sweeps (h : Called json s op s₁ acts) :
    s₁.close = s.close ∧ s₁.closed = s.closed ∧ s₁.streams = s.streams ∧
      ∀ b ∈ acts, b.sweeps = false := by
  cases h <;> exact ⟨rfl, rfl, rfl, by simp [Act.sweeps]⟩

theorem Swept.call (hswept : s.Swept) (hw : s.Wf) (hidle : s.threads t = [])
    (h : Called json s op s₁ acts) : (s₁.goto t acts).Swept := by
  obtain ⟨hclose, hclosed, hstreams, hacts⟩ := h.sweeps
  have hquiet : ∀ u, (∀ b ∈ s.threads u, b.sweeps = false) →
      ∀ b ∈ (s₁.goto t acts).threads u, b.sweeps = false := by
    intro u hold b hb
    rcases h.mem_threads hb with hb | ⟨-, hb⟩ | ⟨-, rfl⟩ | ⟨-, rfl⟩
    · exact hold b hb
    · exact hacts b hb
    · rfl
    · rfl
  have hcovered : ∀ i q, (s₁.goto t acts).streams i = some q →
      s.streams i = some q ∧ ((s₁.goto t acts).obj q).closed = (s.obj q).closed := by
    intro i q hq
    rw [goto_streams, hstreams] at hq
    exact ⟨hq, h.closed_eq (hw.streams i q hq).1⟩
  cases hswept with
  | idle hc hc' hold => exact .idle (hclose.trans hc) (hclosed.trans hc') fun u => hquiet u (hold u)
  | running t₀ rs hc hc' hshape hcover hother =>
    refine .running t₀ rs (hclose.trans hc) (hclosed.trans hc') ?_ (fun i q hq => ?_)
      fun u hu => hquiet u (hother u hu)
    · rw [h.threads_busy hw hidle hshape.ne_nil]
      exact hshape
    · rw [(hcovered i q hq).2]
      exact hcover i q (hcovered i q hq).1
  | finished hc hc' hold hcover =>
    refine .finished (hclose.trans hc) (hclosed.trans hc') (fun u => hquiet u (hold u)) fun i q hq => ?_
    rw [(hcovered i q hq).2]
    exact hcover i q (hcovered i q hq).1

/-! ## The goroutines in `Open` -/

end Session

/-- The call a label makes on goroutine `t`. -/
def Label.callOn (t : Tid) : Label → Option Op
  | .call u op => if u = t then some op else none
  | .run _ _ => none

/-- The last call goroutine `t` made. -/
def lastCall (t : Tid) (past : List Label) : Option Op := (past.filterMap (Label.callOn t)).getLast?

theorem lastCall_concat (t : Tid) (past : List Label) (l : Label) :
    lastCall t (past ++ [l]) = (l.callOn t).or (lastCall t past) := by
  unfold lastCall
  rw [List.filterMap_append]
  cases hl : l.callOn t with
  | none => simp [hl]
  | some op => simp [hl]

def Op.isOpen : Op → Bool
  | .open _ => true
  | _ => false

/-- The last call of goroutine `t` is one of `Open`: unless it is idle, it is in there. -/
def InOpen (past : List Label) (t : Tid) : Prop := (lastCall t past).any Op.isOpen = true

instance (past : List Label) (t : Tid) : Decidable (InOpen past t) :=
  inferInstanceAs (Decidable (_ = true))

section
variable {t : Tid} {past : List Label}

theorem inOpen_run {u : Tid} {c : Choice} : InOpen (past ++ [.run u c]) t ↔ InOpen past t := by
  simp [InOpen, lastCall_concat, Label.callOn]

theorem inOpen_call_of_ne {u : Tid} (hu : t ≠ u) {op : Op} :
    InOpen (past ++ [.call u op]) t ↔ InOpen past t := by
  simp [InOpen, lastCall_concat, Label.callOn, Ne.symm hu]

theorem inOpen_open (request : OpenRequest) : InOpen (past ++ [.call t (.open request)]) t := by
  simp [InOpen, lastCall_concat, Label.callOn, Op.isOpen]

theorem InOpen.mem_tid (h : InOpen past t) : ∃ l ∈ past, Session.Label.tid l = t := by
  obtain ⟨op, hlast, -⟩ := (Option.any_eq_true _ _).1 h
  have hmem := List.mem_of_getLast? hlast
  obtain ⟨l, hl, hop⟩ := List.mem_filterMap.1 hmem
  refine ⟨l, hl, ?_⟩
  cases l with
  | call u op' =>
    simp only [Label.callOn, Option.ite_none_right_eq_some] at hop
    exact hop.1
  | run u c => cases hop

end

namespace Session

variable {json : Codec} {s s' s₁ : Session} {t : Tid} {a : Act} {c : Choice} {k acts : List Act}
  {l : Label} {op : Op} {r : Ref} {past : List Label}

/-- The stream is closed, or in the map, or its `Open` is about to close it. -/
def Kept (past : List Label) (s : Session) (r : Ref) : Prop :=
  (s.obj r).closed = true ∨ s.streams (s.obj r).id = some r ∨
    ∃ t err, InOpen past t ∧ .forceClose r err ∈ s.threads t

/-- An `Open` that gives its stream up closes it. -/
theorem Ran.gives_up (h : Ran json s t k a c s₁ acts) (hw : s.Wf) (ha : a.opens r = true)
    (hb : .removeStream r ∈ acts) : .removeStream r ∈ k ∨ (s₁.obj r).closed = true ∨
      ∃ err, .forceClose r err ∈ acts := by
  cases h with
  | moves h =>
    cases h with
    | openDone hdone =>
      simp only [Act.opens, decide_eq_true_eq] at ha
      subst ha
      exact Or.inr (Or.inl ((hw.ok _).done hdone))
    | openContext =>
      simp only [Act.opens, decide_eq_true_eq] at ha
      subst ha
      exact Or.inr (Or.inr ⟨_, by simp; exact Or.inl rfl⟩)
    | @writeFrameRefused _ purpose _ | @oversized _ purpose _ | @failed _ purpose _ _ _ =>
      cases purpose with
      | opening q =>
        simp only [Act.opens, decide_eq_true_eq] at ha
        subst ha
        exact Or.inr (Or.inr ⟨_, by simp [Purpose.onErr]; exact Or.inl rfl⟩)
      | _ => cases ha
    | openRefused _ | openSession _ | writeFrame _ => exact Or.inl (by simpa using hb)
    | _ => cases ha
  | openRejected _ _ =>
    simp only [Act.opens, decide_eq_true_eq] at ha
    subst ha
    exact Or.inr (Or.inr ⟨_, by simp; exact Or.inl rfl⟩)
  | openInsert _ _ | openAccepted _ _ => exact Or.inl (by simpa using hb)
  | @wrote _ purpose _ =>
    cases purpose with
    | opening q => exact Or.inl (by simpa [Purpose.onOk] using hb)
    | _ => cases ha
  | _ => cases ha

/-- A `forceClose` that a goroutine of the application has before it is run, and then the stream is
    closed. -/
theorem Ran.forceClose_stays (h : Ran json s t k a c s₁ acts) (hw : s.Wf)
    (hthread : s.threads t = a :: k) {u : Tid} {err : Err} (hcalls : u.calls = true)
    (hmem : .forceClose r err ∈ s.threads u) :
    (s₁.obj r).closed = true ∨ .forceClose r err ∈ (s₁.goto t acts).threads u := by
  by_cases hu : u = t
  · subst hu
    rw [hthread] at hmem
    rcases List.mem_cons.1 hmem with rfl | hmem
    · exact Or.inl (h.forceClose_closes hw)
    · refine Or.inr ?_
      obtain ⟨new, rfl⟩ := h.append_of_calls hw hthread hcalls
      rw [goto_threads_self]
      exact List.mem_append_right _ hmem
  · refine Or.inr ?_
    rw [h.threads_of_ne hu]
    · exact hmem
    · rintro q rfl
      cases hcalls

/-! ## The invariant -/

/-- The client's use of a session: it gives its streams no ids and opens fewer than `2 ^ 64` of them,
    and its peer sends no `FrameOpen`. -/
def clientUse (s : Session) : Label → Bool
  | .call _ (.open request) => decide (request.requestID = 0 ∧ s.count + 1 < 2 ^ 64)
  | .run _ (.frame frame) => decide (frame.type ≠ frameOpen)
  | _ => true

structure Reached (past : List Label) (s : Session) : Prop where
  wf : s.Wf
  live : s.Live
  swept : s.Swept
  numbered : Link.Numbered s
  noOpen : ∀ t frame, .handle frame ∈ s.threads t → frame.type ≠ frameOpen
  finished : ∀ q, (s.obj q).closeOnce = .finished → (s.obj q).done = true
  /-- Calls are made by goroutines of the application. -/
  calls : ∀ t, InOpen past t → t.calls = true
  opening : ∀ t, ∀ a ∈ s.threads t, ∀ q, a.opens q = true → InOpen past t
  /-- Who removes a stream has closed it, or is its `Open` and will. -/
  removing : ∀ t q, .removeStream q ∈ s.threads t → (s.obj q).closed = true ∨
    ∃ err, InOpen past t ∧ .forceClose q err ∈ s.threads t
  kept : ∀ q, s.Active q → Kept past s q

theorem new_reached (bufferSize : Nat) : Reached [] (Session.new bufferSize) where
  wf := new_wf bufferSize
  live := new_live bufferSize
  swept := new_swept bufferSize
  numbered := Link.new_numbered bufferSize
  noOpen := by simp [Session.new]
  finished := by simp [Session.new, newStream]
  calls := by simp [InOpen, lastCall]
  opening := by simp [Session.new]
  removing := by simp [Session.new]
  kept := by simp [Active, Held, Session.new, newStream, Chan.make]

theorem Stream.Evolves.finished {x y : Stream} (h : x.Evolves y)
    (hx : x.closeOnce = .finished → x.done = true) : y.closeOnce = .finished → y.done = true := by
  cases h with
  | forceClose _ => simp [Stream.forceClose]
  | closeDone _ => simp
  | _ => exact hx

theorem Changed.finished {P : Ref → Prop} (h : Changed s s₁ P r)
    (hs : (s.obj r).closeOnce = .finished → (s.obj r).done = true) :
    (s₁.obj r).closeOnce = .finished → (s₁.obj r).done = true := by
  cases h with
  | same h => rwa [h]
  | evolves _ h => exact Stream.Evolves.finished h hs
  | alloc _ _ h =>
    obtain ⟨id, request, born, h⟩ := h
    rw [h]
    simp [newStream]

/-- **A stream is kept** over a section. -/
theorem Kept.run (hr : Kept past s r) (hreached : Reached past s) (hthread : s.threads t = a :: k)
    (h : Ran json s t k a c s₁ acts) (hlt : r < s.count) (hw' : (s₁.goto t acts).Wf)
    (hnumbered : Link.Numbered (s₁.goto t acts)) :
    Kept (past ++ [.run t c]) (s₁.goto t acts) r := by
  have hw := hreached.wf
  have hamem := mem_of_head hthread
  have hid : (s₁.obj r).id = (s.obj r).id := h.id_eq hw hthread hlt
  have hclosed₁ : (s.obj r).closed = true → (s₁.obj r).closed = true :=
    (h.keeps hw hthread r).closed
  rcases hr with hclosed | hstream | ⟨u, err, hopen, hmem⟩
  · exact Or.inl (hclosed₁ hclosed)
  · rcases h.streams_keep hstream with hstream | rfl | ⟨q, hstream, hq, -⟩
    · exact Or.inr (Or.inl (by rw [goto_streams, goto_obj, hid]; exact hstream))
    · -- the entry is removed
      rcases hreached.removing t r hamem with hclosed | ⟨err, hopen, hmem⟩
      · exact Or.inl (hclosed₁ hclosed)
      · refine (h.forceClose_stays hw hthread (hreached.calls t hopen) hmem).imp_right fun hmem => ?_
        exact Or.inr ⟨t, err, inOpen_run.2 hopen, hmem⟩
    · -- no other stream has the id
      have hq' := hnumbered.ids q (hw'.streams _ q hstream).1
      have hr' := hnumbered.ids r (Nat.lt_of_lt_of_le hlt h.count_le)
      rw [goto_obj, hq] at hq'
      rw [goto_obj, hid, hq'] at hr'
      cases Nat.add_right_cancel hr'
      exact Or.inr (Or.inl (by rw [goto_streams, goto_obj, hid]; exact hstream))
  · refine (h.forceClose_stays hw hthread (hreached.calls u hopen) hmem).imp_right fun hmem => ?_
    exact Or.inr ⟨u, err, inOpen_run.2 hopen, hmem⟩

theorem Kept.call (hr : Kept past s r) (hreached : Reached past s) (hidle : s.threads t = [])
    (h : Called json s op s₁ acts) (hlt : r < s.count) :
    Kept (past ++ [.call t op]) (s₁.goto t acts) r := by
  rcases hr with hclosed | hstream | ⟨u, err, hopen, hmem⟩
  · exact Or.inl (by rw [goto_obj, h.closed_eq hlt]; exact hclosed)
  · refine Or.inr (Or.inl ?_)
    rw [goto_streams, h.streams_eq.1, goto_obj, (h.changed r).id_eq hlt]
    exact hstream
  · have hbusy : s.threads u ≠ [] := List.ne_nil_of_mem hmem
    have hut : u ≠ t := by
      rintro rfl
      exact hbusy hidle
    refine Or.inr (Or.inr ⟨u, err, (inOpen_call_of_ne hut).2 hopen, ?_⟩)
    rw [h.threads_busy hreached.wf hidle hbusy]
    exact hmem

theorem Reached.run (hreached : Reached past s) (hthread : s.threads t = a :: k)
    (h : Ran json s t k a c s₁ acts) (hok : s.clientUse (.run t c) = true) :
    Reached (past ++ [.run t c]) (s₁.goto t acts) := by
  have hw := hreached.wf
  have hamem := mem_of_head hthread
  have hw' := hw.run hthread h
  have hnumbered : Link.Numbered (s₁.goto t acts) := by
    refine hreached.numbered.steps hw ?_ ?_ (.run hthread h)
    · rintro u request heq
      cases heq
    · intro u frame rest hu
      exact hreached.noOpen u frame (by rw [hu]; exact List.mem_cons_self ..)
  have hkept : ∀ q, q < s.count → Kept past s q → Kept (past ++ [.run t c]) (s₁.goto t acts) q :=
    fun q hlt hq => hq.run hreached hthread h hlt hw' hnumbered
  have hstays : ∀ u q err, InOpen past u → .forceClose q err ∈ s.threads u →
      ((s₁.goto t acts).obj q).closed = true ∨ ∃ err, InOpen (past ++ [.run t c]) u ∧
        .forceClose q err ∈ (s₁.goto t acts).threads u := by
    intro u q err hopen hmem
    refine (h.forceClose_stays hw hthread (hreached.calls u hopen) hmem).imp_right fun hmem => ?_
    exact ⟨err, inOpen_run.2 hopen, hmem⟩
  refine ⟨hw', hreached.live.run hw hthread h, hreached.swept.run hw hreached.live hthread h,
    hnumbered, ?_, ?_, ?_, ?_, ?_, ?_⟩
  · -- noOpen
    intro u frame hb
    rcases h.mem_acts hb with ⟨-, hold⟩ | ⟨rfl, hacts⟩ | ⟨q, -, hq, -⟩
    · exact hreached.noOpen u frame hold
    · by_cases hk : .handle frame ∈ k
      · exact hreached.noOpen u frame (mem_of_tail hthread hk)
      · obtain ⟨rfl, rfl, -⟩ := h.handle_mem hacts hk
        simpa [clientUse] using hok
    · cases hq
  · -- finished
    intro q
    exact (hw.changed hthread h q).finished (hreached.finished q)
  · -- calls
    intro u hopen
    exact hreached.calls u (inOpen_run.1 hopen)
  · -- opening
    intro u b hb q hopens
    obtain ⟨b', hb', hopens'⟩ := h.opens_mem hthread hb hopens
    exact inOpen_run.2 (hreached.opening u b' hb' q hopens')
  · -- removing
    intro u q hb
    have hcase : .removeStream q ∈ s.threads u → _ := fun hold =>
      (hreached.removing u q hold).elim
        (fun hclosed => Or.inl ((h.keeps hw hthread q).closed hclosed))
        (fun ⟨err, hopen, hmem⟩ => hstays u q err hopen hmem)
    rcases h.mem_threads hthread hb with hold | ⟨rfl, hpushed⟩ | ⟨p, -, hp, -⟩
    · exact hcase hold
    · rcases hpushed.removes q rfl with hclosed | ⟨hopens, -⟩
      · exact Or.inl hclosed
      · rw [goto_threads_self] at hb
        rcases h.gives_up hw hopens hb with hk | hclosed | ⟨err, hmem⟩
        · exact hcase (mem_of_tail hthread hk)
        · exact Or.inl hclosed
        · refine Or.inr ⟨err, inOpen_run.2 (hreached.opening u a hamem q hopens), ?_⟩
          rw [goto_threads_self]
          exact hmem
    · cases hp
  · -- kept
    intro q hq
    have hlt' : q < s₁.count := hq.lt hw'
    have hcount : s₁.count = s.count := by
      rcases h.count_eq with hcount | ⟨-, frame, request, rfl, htype, -⟩
      · exact hcount
      · exact absurd htype (hreached.noOpen t frame hamem)
    have hlt : q < s.count := hcount ▸ hlt'
    rcases h.active hthread hq with hq | ⟨-, hstream⟩ | ⟨hq, -⟩
    · exact hkept q hlt (hreached.kept q hq)
    · refine Or.inr (Or.inl ?_)
      rw [goto_streams, goto_obj, h.id_eq hw hthread hlt]
      exact hstream
    · lia

theorem Reached.call (hreached : Reached past s) (hcalls : t.calls = true)
    (hidle : s.threads t = []) (h : Called json s op s₁ acts)
    (hok : s.clientUse (.call t op) = true) :
    Reached (past ++ [.call t op]) (s₁.goto t acts) := by
  have hw := hreached.wf
  refine ⟨hw.call hcalls h, hreached.live.call hw hcalls hidle h, hreached.swept.call hw hidle h,
    ?_, ?_, ?_, ?_, ?_, ?_, ?_⟩
  · refine hreached.numbered.steps hw ?_ ?_ (.call hcalls hidle h)
    · rintro u request heq
      cases heq
      simpa [clientUse] using hok
    · intro u frame rest hu
      exact hreached.noOpen u frame (by rw [hu]; exact List.mem_cons_self ..)
  · -- noOpen
    intro u frame hb
    rcases h.mem_threads hb with hb | ⟨-, hacts⟩ | ⟨-, hb⟩ | ⟨-, hb⟩
    · exact hreached.noOpen u frame hb
    · clear hb
      cases h <;> simp at hacts
    · cases hb
    · cases hb
  · exact fun q => (h.changed q).finished (hreached.finished q)
  · -- calls
    intro u hopen
    by_cases hu : u = t
    · exact hu ▸ hcalls
    · exact hreached.calls u ((inOpen_call_of_ne hu).1 hopen)
  · -- opening
    intro u b hb q hopens
    rcases h.opens_mem hb hopens with hold | ⟨rfl, -, request, rfl⟩
    · have hut : u ≠ t := by
        rintro rfl
        rw [hidle] at hold
        cases hold
      exact (inOpen_call_of_ne hut).2 (hreached.opening u b hold q hopens)
    · rw [goto_threads_self] at hb
      cases h <;> simp at hb
      exact inOpen_open _
  · -- removing
    intro u q hb
    rcases h.mem_threads hb with hold | ⟨-, hb⟩ | ⟨-, hb⟩ | ⟨-, hb⟩
    · have hlt : q < s.count := hw.refs u _ hold q (by simp [Act.refs])
      have hbusy : s.threads u ≠ [] := List.ne_nil_of_mem hold
      have hut : u ≠ t := by
        rintro rfl
        exact hbusy hidle
      rw [goto_obj, h.closed_eq hlt, h.threads_busy hw hidle hbusy]
      refine (hreached.removing u q hold).imp_right ?_
      rintro ⟨err, hopen, hmem⟩
      exact ⟨err, (inOpen_call_of_ne hut).2 hopen, hmem⟩
    · exact absurd rfl (h.not_removes _ hb)
    · cases hb
    · cases hb
  · intro q hq
    have hq := h.active hq
    exact (hreached.kept q hq).call hreached hidle h (hq.lt hw)

theorem Reached.step (hreached : Reached past s) (hok : s.clientUse l = true)
    (h : s.step json l = some s') : Reached (past ++ [l]) s' := by
  obtain ⟨-, hsteps⟩ := step_steps h
  cases hsteps with
  | call hcalls hidle hcalled => exact hreached.call hcalls hidle hcalled hok
  | run hthread hran => exact hreached.run hthread hran hok

theorem reached_of_run {bufferSize : Nat} {as : List Label}
    (hok : Along (Session.step json) (fun m l => m.clientUse l = true) (Session.new bufferSize) as)
    (hrun : exec (Session.step json) (Session.new bufferSize) as = some s) : Reached as s :=
  exec_invariant_past Reached (fun _ _ _ _ hreached hl hstep => hreached.step hl hstep)
    (new_reached bufferSize) hok hrun

theorem Reached.kept_step (hreached : Reached past s) (hr : Kept past s r) (hlt : r < s.count)
    (hok : s.clientUse l = true) (h : s.step json l = some s') :
    Kept (past ++ [l]) s' r ∧ r < s'.count := by
  have hreached' := hreached.step hok h
  obtain ⟨-, hsteps⟩ := step_steps h
  cases hsteps with
  | call hcalls hidle hcalled =>
    refine ⟨hr.call hreached hidle hcalled hlt, Nat.lt_of_lt_of_le hlt ?_⟩
    cases hcalled <;> simp [alloc, modify, goto]
  | run hthread hran =>
    exact ⟨hr.run hreached hthread hran hlt hreached'.wf hreached'.numbered,
      Nat.lt_of_lt_of_le hlt hran.count_le⟩

/-- What was in the map stays kept. -/
theorem kept_of_run {bufferSize : Nat} {pre post : List Label} {m : Session} {i : UInt64}
    (hok : Along (Session.step json) (fun m l => m.clientUse l = true) (Session.new bufferSize)
      (pre ++ post))
    (hpre : exec (Session.step json) (Session.new bufferSize) pre = some m)
    (hr : m.streams i = some r) (hpost : exec (Session.step json) m post = some s) :
    Kept (pre ++ post) s r ∧ r < s.count := by
  obtain ⟨hokpre, hokpost⟩ := along_append hok hpre
  have hreached := reached_of_run hokpre hpre
  obtain ⟨hlt, hid⟩ := hreached.wf.streams i r hr
  have hinv : Reached (pre ++ post) s ∧ Kept (pre ++ post) s r ∧ r < s.count := by
    refine exec_invariant_past (fun past m => Reached past m ∧ Kept past m r ∧ r < m.count) ?_
      ⟨hreached, Or.inr (Or.inl (hid ▸ hr)), hlt⟩ hokpost hpost
    rintro past m l m' ⟨hreached, hkept, hlt⟩ hl hstep
    exact ⟨hreached.step hl hstep, hreached.kept_step hkept hlt hl hstep⟩
  exact hinv.2

/-! ## After the shutdown -/

/-- A stream that a shutdown has reached: it is closed and has an error, its `done` channel is closed
    or is just about to be, a `Read` returns at once and a `Write` writes nothing, be it the
    application's or that of a copy. -/
structure Sealed (json : Codec) (s : Session) (r : Ref) : Prop where
  closed : (s.obj r).closed = true
  err : (s.obj r).err ≠ none
  done : (s.obj r).done = true ∨ ∃ t, .closeDone r ∈ s.threads t
  read : s.crashed = false → ∀ t n k, s.threads t = .read r n :: k →
    ∃ m, s.step json (.run t .go) = some m ∧ m.threads t = k
  write : s.crashed = false → ∀ t p inCopy k, s.threads t = .write r p inCopy :: k →
    s.step json (.run t .go) = some (s.goto t
      ((if p = [] then afterEmptyWrite r inCopy else afterRefusedWrite r inCopy) ++ k))

theorem Reached.sealed (hreached : Reached past s) (hclosed : (s.obj r).closed = true) :
    s.Sealed json r := by
  have hok := hreached.wf.ok r
  have hreadErr := hok.readErr.1 hclosed
  refine ⟨hclosed, ?_, ?_, ?_, ?_⟩
  · obtain ⟨e, he⟩ := Option.ne_none_iff_exists'.1 hreadErr
    simp [Stream.err, he]
  · cases honce : (s.obj r).closeOnce with
    | idle => exact absurd honce (hok.once.1 hclosed)
    | running =>
      obtain ⟨t, k, hthread | hthread⟩ := hreached.live.running r honce
      · exact Or.inr ⟨t, by simp [hthread]⟩
      · exact Or.inr ⟨t, by simp [hthread]⟩
    | finished => exact Or.inl (hreached.finished r honce)
  · intro hcrashed t n k hthread
    by_cases hbuf : (s.obj r).readBuf = []
    · exact ⟨s.goto t k, by simp [Session.step, hcrashed, hthread, runAct, hbuf, hreadErr],
        goto_threads_self ..⟩
    · exact ⟨_, by simp [Session.step, hcrashed, hthread, runAct, hbuf]; rfl, goto_threads_self ..⟩
  · intro hcrashed t p inCopy k hthread
    by_cases hp : p = []
    · simp [Session.step, hcrashed, hthread, runAct, hp]
    · simp [Session.step, hcrashed, hthread, runAct, hp, hclosed]

/-- A closed stream stays closed. -/
theorem closed_step (hw : s.Wf) (hlt : r < s.count) (hclosed : (s.obj r).closed = true)
    (h : s.step json l = some s') : s'.Wf ∧ r < s'.count ∧ (s'.obj r).closed = true := by
  obtain ⟨-, hsteps⟩ := step_steps h
  refine ⟨hw.steps hsteps, ?_⟩
  cases hsteps with
  | call _ _ hcalled =>
    refine ⟨Nat.lt_of_lt_of_le hlt ?_, ?_⟩
    · cases hcalled <;> simp [alloc, modify, goto]
    · rw [goto_obj, hcalled.closed_eq hlt]
      exact hclosed
  | run hthread hran =>
    refine ⟨Nat.lt_of_lt_of_le hlt hran.count_le, ?_⟩
    rw [goto_obj]
    exact (hran.keeps hw hthread r).closed hclosed

/-- The session is closed, and no stream from the `n`-th on has been in use or in the map. -/
structure Over (n : Nat) (s : Session) : Prop where
  closed : s.closed = true
  unused : ∀ q, n ≤ q → ¬ s.Active q ∧ ∀ i, s.streams i ≠ some q

theorem Over.step {n : Nat} (hover : s.Over n) (hreached : Reached past s)
    (h : s.step json l = some s') (hreached' : Reached (past ++ [l]) s') : s'.Over n := by
  obtain ⟨-, hsteps⟩ := step_steps h
  cases hsteps with
  | call hcalls hidle hcalled =>
    obtain ⟨-, hclosed, hstreams, -⟩ := hcalled.sweeps
    refine ⟨hclosed.trans hover.closed, fun q hq => ⟨fun hactive => ?_, ?_⟩⟩
    · exact (hover.unused q hq).1 (hcalled.active hactive)
    · rw [goto_streams, hstreams]
      exact (hover.unused q hq).2
  | @run t a k c s₁ acts hthread hran =>
    have hamem := mem_of_head hthread
    have hclosed : s₁.closed = true := by
      cases hran.sweeps with
      | same _ hclosed _ => exact hclosed.trans hover.closed
      | begins _ => rfl
      | ends => exact hover.closed
    refine ⟨hclosed, fun q hq => ⟨fun hactive => ?_, fun i hi => ?_⟩⟩
    · rcases hran.active hthread hactive with hold | ⟨-, hstream⟩ | ⟨hcount, -⟩
      · exact (hover.unused q hq).1 hold
      · exact (hover.unused q hq).2 _ (hran.streams_of_closed hover.closed hstream)
      · have hlt : q < s₁.count := hactive.lt hreached'.wf
        rcases hran.count_eq with heq | ⟨-, frame, request, rfl, htype, -⟩
        · lia
        · exact hreached.noOpen t frame hamem htype
    · exact (hover.unused q hq).2 i (hran.streams_of_closed hover.closed hi)

/-- The stream was in the map in some state of the run. -/
def WasRegistered (json : Codec) (s₀ : Session) (as : List Label) (r : Ref) : Prop :=
  ∃ pre post m i, as = pre ++ post ∧ exec (Session.step json) s₀ pre = some m ∧ m.streams i = some r

/-- When `shutdown` is over and every `Open` has returned, the streams that were in the map, and those
    the application holds, are closed. -/
theorem closed_of_shutdown {bufferSize : Nat} {as : List Label}
    (hok : Along (Session.step json) (fun m l => m.clientUse l = true) (Session.new bufferSize) as)
    (hrun : exec (Session.step json) (Session.new bufferSize) as = some s)
    (hfinished : s.close = .finished) (hopens : ∀ t, InOpen as t → s.threads t = [])
    (hr : (s.obj r).owned = true ∨ WasRegistered json (Session.new bufferSize) as r) :
    r < s.count ∧ (s.obj r).closed = true := by
  have hreached := reached_of_run hok hrun
  have hkept : Kept as s r ∧ r < s.count := by
    rcases hr with howned | ⟨pre, post, m, i, rfl, hpre, hr⟩
    · exact ⟨hreached.kept r (Or.inl (Or.inl howned)), hreached.wf.owned_lt howned⟩
    · rw [exec_append, hpre, Option.bind_some] at hrun
      exact kept_of_run hok hpre hr hrun
  refine ⟨hkept.2, ?_⟩
  rcases hkept.1 with hclosed | hstream | ⟨t, err, hopen, hmem⟩
  · exact hclosed
  · exact (hreached.swept.over hfinished).2 _ r hstream
  · rw [hopens t hopen] at hmem
    cases hmem

/-- **Shutdown reaches every stream.** Take a run of the client's session to a state in which
    `shutdown` is over and every `Open` has returned. From then on every stream that was ever in the
    map, and every stream an `Open` returned, is sealed; a stream allocated later is never in the map
    and never returned, and its `Open` is refused at once. -/
theorem shutdown_reaches {bufferSize : Nat} {as bs : List Label}
    (hok : Along (Session.step json) (fun m l => m.clientUse l = true) (Session.new bufferSize)
      (as ++ bs))
    (hrun : exec (Session.step json) (Session.new bufferSize) as = some s)
    (hfinished : s.close = .finished) (hopens : ∀ t, InOpen as t → s.threads t = [])
    (hlater : exec (Session.step json) s bs = some s') :
    (∀ r, (s.obj r).owned = true ∨ WasRegistered json (Session.new bufferSize) as r →
      s'.Sealed json r) ∧
    (∀ r, s.count ≤ r → (s'.obj r).owned = false ∧ ∀ i, s'.streams i ≠ some r) ∧
    ∀ t r request k, s'.crashed = false → s'.threads t = .openInsert r request :: k →
      s'.step json (.run t .go) = some (s'.goto t k) := by
  obtain ⟨hokas, hokbs⟩ := along_append hok hrun
  have hreached := reached_of_run hokas hrun
  have hover : s.Over s.count := by
    refine ⟨(hreached.swept.over hfinished).1, fun q hq => ⟨fun hactive => ?_, ?_⟩⟩
    · exact Nat.not_lt.2 hq (hactive.lt hreached.wf)
    · exact fun i hi => Nat.not_lt.2 hq (hreached.wf.streams i q hi).1
  have hend : Reached (as ++ bs) s' ∧ s'.Over s.count := by
    refine exec_invariant_past (fun past m => Reached past m ∧ m.Over s.count) ?_ ⟨hreached, hover⟩
      hokbs hlater
    rintro past m l m' ⟨hm, hmover⟩ hl hstep
    exact ⟨hm.step hl hstep, hmover.step hm hstep (hm.step hl hstep)⟩
  refine ⟨fun r hr => ?_, fun r hr => ?_, ?_⟩
  · obtain ⟨hlt, hclosed⟩ := closed_of_shutdown hokas hrun hfinished hopens hr
    have hstill : s'.Wf ∧ r < s'.count ∧ (s'.obj r).closed = true := by
      refine exec_invariant (fun m => m.Wf ∧ r < m.count ∧ (m.obj r).closed = true) ?_
        ⟨hreached.wf, hlt, hclosed⟩ hokbs hlater
      rintro m l m' ⟨hw, hlt, hclosed⟩ - hstep
      exact closed_step hw hlt hclosed hstep
    exact hend.1.sealed hstill.2.2
  · obtain ⟨hactive, hstreams⟩ := hend.2.unused r hr
    refine ⟨?_, hstreams⟩
    by_contra howned
    exact hactive (Or.inl (Or.inl (by simpa using howned)))
  · intro t r request k hcrashed hthread
    simp [Session.step, hcrashed, hthread, runAct, hend.2.closed]

/-- The client opens a stream and its server accepts it. -/
def openAccepted : List Label :=
  .call (.user 0) (.start false) :: calling (.user 0) (.open (sampleRequest 0)) [.go, .wrote] ++
    receive (ackFrame sampleCodec 1 ⟨true, "", "", ""⟩) ++ [.run (.user 0) .ack]

/-- `Close` with one stream in the map. -/
def openThenShutdown : List Label :=
  openAccepted ++ calling (.user 0) .close [.go, .pick 0, .go, .go, .go, .go, .go]

theorem inOpen_tids {as : List Label} {t : Tid} {tids : List Tid}
    (htids : ∀ l ∈ as, Label.tid l ∈ tids) (h : InOpen as t) : t ∈ tids := by
  obtain ⟨l, hl, rfl⟩ := h.mem_tid
  exact htids l hl

theorem openThenShutdown_sealed :
    ((after (Session.step sampleCodec) (Session.new 0)
      (openThenShutdown ++ [.call (.reader 0) (.read 0 10)])).Sealed sampleCodec 0) := by
  have hrun : exec (Session.step sampleCodec) (Session.new 0) openThenShutdown =
      some (after (Session.step sampleCodec) (Session.new 0) openThenShutdown) :=
    exec_after (by decide +kernel)
  have hlater : exec (Session.step sampleCodec)
      (after (Session.step sampleCodec) (Session.new 0) openThenShutdown)
      [.call (.reader 0) (.read 0 10)] = some (after (Session.step sampleCodec) (Session.new 0)
        (openThenShutdown ++ [.call (.reader 0) (.read 0 10)])) := by
    have hall : exec (Session.step sampleCodec) (Session.new 0)
        (openThenShutdown ++ [.call (.reader 0) (.read 0 10)]) = some _ :=
      exec_after (by decide +kernel)
    rwa [exec_append, hrun, Option.bind_some] at hall
  have htids : ∀ l ∈ openThenShutdown, Label.tid l ∈ [Tid.user 0, .readLoop] := by decide +kernel
  refine (shutdown_reaches (by decide +kernel) hrun (by decide +kernel) ?_ hlater).1 0
    (Or.inl (by decide +kernel))
  intro t hopen
  have hno : ∀ t ∈ [Tid.user 0, .readLoop], ¬ InOpen openThenShutdown t := by decide +kernel
  exact absurd hopen (hno t (inOpen_tids htids hopen))

/-- A `Write` fails and closes its stream; just before it closes `done` the client calls `Close`,
    which finds nothing in the map, and then `Open`, which is refused. -/
def closeInsideWrite : List Label :=
  openAccepted ++ calling (.writer 0) (.write 0 [120])
      [.go, .go, .go, .failed 0 (.transport "connection reset"), .go, .go] ++
    calling (.user 0) .close [.go, .go, .go] ++ calling (.user 0) (.open (sampleRequest 0)) [.go]

/-- `shutdown` is over and every `Open` has returned, but the `done` channel of the first stream is
    not closed yet, and the second stream never is. -/
theorem closeInsideWrite_open :
    let s := after (Session.step sampleCodec) (Session.new 0) closeInsideWrite
    exec (Session.step sampleCodec) (Session.new 0) closeInsideWrite = some s ∧
      Along (Session.step sampleCodec) (fun m l => m.clientUse l = true) (Session.new 0)
        closeInsideWrite ∧
      s.close = .finished ∧ (∀ t, InOpen closeInsideWrite t → s.threads t = []) ∧
      (s.obj 0).owned = true ∧ (s.obj 0).done = false ∧ 1 < s.count ∧ (s.obj 1).closed = false := by
  refine ⟨exec_after (by decide +kernel), by decide +kernel, by decide +kernel, ?_,
    by decide +kernel, by decide +kernel, by decide +kernel, by decide +kernel⟩
  have htids : ∀ l ∈ closeInsideWrite, Label.tid l ∈ [Tid.user 0, .readLoop, .writer 0] := by
    decide +kernel
  have hidle : ∀ t ∈ [Tid.user 0, .readLoop, .writer 0], InOpen closeInsideWrite t →
      (after (Session.step sampleCodec) (Session.new 0) closeInsideWrite).threads t = [] := by
    decide +kernel
  exact fun t hopen => hidle t (inOpen_tids htids hopen) hopen

end Session

end LnProxy
