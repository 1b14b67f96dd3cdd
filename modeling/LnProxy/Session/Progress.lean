import LnProxy.Session.Answers
import LnProxy.Session.Stall

set_option autoImplicit false

/-! # Answers that are certain

On an open session whose writes succeed, a frame that a goroutine is about to write is still to be
written after a step of another goroutine, and is written by a step of its own. `Accept` writes
nothing if the stream is closed; but only `forceClose` closes a stream, and as long as the session is
open and its writes succeed, nothing calls it on a stream of the peer (`Untouched.run`) other than
`Reject`, or a `FrameError` from the peer. -/

namespace LnProxy

open Protocol

namespace Session

variable {json : Codec} {s s' s₁ : Session} {t : Tid} {a : Act} {c : Choice} {k acts : List Act}
  {l : Label} {op : Op} {r : Ref} {τ : Token}

/-! ## Frames that are written -/

/-- A section at the head of its goroutine stays there until it runs. -/
theorem Ran.kept (hw : s.Wf) (hthread : s.threads t = a :: k) (h : Ran json s t k a c s₁ acts)
    {u : Tid} {b : Act} (hb : b ∈ s.threads u) (hover : ∀ r, u ≠ .overflow r)
    (hfollows : b.follows = false) : b ∈ (s₁.goto t acts).threads u ∨ u = t ∧ b = a := by
  by_cases hu : u = t
  · subst hu
    refine Or.inr ⟨rfl, ?_⟩
    have htail := hw.follows u b
    rw [hthread] at hb htail
    rcases List.mem_cons.1 hb with heq | hmem
    · exact heq
    · rw [htail hmem] at hfollows
      cases hfollows
  · rw [h.threads_of_ne hu hover]
    exact Or.inl hb

theorem Called.kept (hw : s.Wf) (hidle : s.threads t = []) (h : Called json s op s₁ acts) {u : Tid}
    {b : Act} (hb : b ∈ s.threads u) : b ∈ (s₁.goto t acts).threads u := by
  rw [h.threads_busy hw hidle (List.ne_nil_of_mem hb)]
  exact hb

/-- On an open session whose writes succeed, a frame that is to be written is written. -/
theorem Ran.frame_progress (h : Ran json s t k a c s₁ acts) (hthread : s.threads t = a :: k)
    (hopen : s.refuses = false) (hok : s.writesSucceed (.run t c) = true) {f : Frame}
    {purpose : Purpose} (ha : a.writesFrame f purpose) :
    (∃ b ∈ acts, b.writesFrame f purpose) ∨ (f, purpose) ∈ s₁.output := by
  rcases ha with rfl | rfl
  · cases h with
    | moves h =>
      cases h with
      | writeFrameRefused hrefuses =>
        rw [hopen] at hrefuses
        cases hrefuses
      | writeFrame _ => exact Or.inl ⟨_, List.mem_cons_self .., Or.inr rfl⟩
  · cases h with
    | moves h =>
      cases h with
      | oversized hbig => simp [writesSucceed, hthread, hbig] at hok
      | failed _ => cases hok
    | wrote _ => exact Or.inr (List.mem_append_right _ (List.mem_singleton.2 rfl))

/-- An invalid request in the switch is answered by the next section of the read loop. -/
theorem Ran.invalid_cases (h : Ran json s t k a c s₁ acts) {n : Nat} {frame : Frame} {cause : String}
    (hn : s₁.input[n]? = some (frame, none)) (htype : frame.type = frameOpen)
    (hdecode : decodeOpen json frame = .error cause) : s.input[n]? = some (frame, none) ∨
      ∃ b ∈ acts, b.writesFrame (errorFrame json frame.id ("invalid open request: " ++ cause))
        (.reply n) := by
  rcases h.input with heq | ⟨frame', tag, rfl, heq⟩
  · rw [heq] at hn
    exact Or.inl hn
  · rw [heq] at hn
    by_cases hlt : n < s.input.length
    · rw [List.getElem?_append_left hlt] at hn
      exact Or.inl hn
    · right
      rw [List.getElem?_append_right (by omega), List.getElem?_singleton] at hn
      split at hn
      · next hlast =>
        obtain rfl : n = s.input.length := by omega
        obtain ⟨rfl, rfl⟩ := Prod.mk.inj (Option.some.inj hn)
        cases h with
        | moves h => cases h
        | handle h =>
          cases h with
          | openInvalid _ hdecode' =>
            obtain rfl := Except.error.inj (hdecode.symm.trans hdecode')
            exact ⟨_, List.mem_cons_self .., Or.inl rfl⟩
          | openClosed _ hdecode' _ | openNew _ hdecode' _ =>
            rw [hdecode] at hdecode'
            cases hdecode'
          | unexpectedControl _ hopen _ _ | control _ hopen _ _ => exact absurd htype hopen
          | unknown htype' _ =>
            rw [htype] at htype'
            exact absurd htype' (by decide)
          | ackInvalid htype' | ack htype' _ | unknownData htype' _ | data htype' _
          | close htype' _ | error htype' _ =>
            rw [htype] at htype'
            exact absurd htype' (by decide)
      · cases hn

theorem Ran.output_prefix (h : Ran json s t k a c s₁ acts) : s.output <+: s₁.output := by
  rcases h.output with heq | ⟨f, purpose, -, -, -, -, heq⟩
  · exact heq.symm ▸ List.prefix_rfl
  · rw [heq]
    exact List.prefix_append ..

theorem answers_ne_nil_of_prefix (h : s.output <+: s₁.output) (hne : s.answers τ ≠ []) :
    s₁.answers τ ≠ [] := by
  obtain ⟨e, he⟩ := List.exists_mem_of_ne_nil _ hne
  have he' : e ∈ s₁.answers τ := (h.sublist.filter _).subset he
  exact List.ne_nil_of_mem he'

theorem answers_ne_nil {f : Frame} {purpose : Purpose} (h : (f, purpose) ∈ s.output)
    (hτ : purpose.token = some τ) : s.answers τ ≠ [] := by
  refine List.ne_nil_of_mem (a := (f, purpose)) ?_
  simp [answers, h, hτ]

/-- On an open session whose writes succeed, an answer that was begun is written, unless `Accept` finds
    the stream closed. -/
theorem Ran.token_progress (h : Ran json s t k a c s₁ acts) (hthread : s.threads t = a :: k)
    (hopen : s.refuses = false) (hok : s.writesSucceed (.run t c) = true) (ha : a.token = some τ)
    (hdone : ∀ r, a = .accept r → (s.obj r).done = false) :
    (∃ b ∈ acts, b.token = some τ) ∨ s₁.answers τ ≠ [] := by
  rcases Act.cases_of_token ha with ⟨r, rfl, rfl⟩ | ⟨f, purpose, hf, hpurpose⟩
  · cases h with
    | moves h =>
      cases h with
      | acceptDone h =>
        rw [hdone r rfl] at h
        cases h
      | accept _ => exact Or.inl ⟨_, List.mem_cons_self .., rfl⟩
  · rcases h.frame_progress hthread hopen hok hf with ⟨b, hb, hbf⟩ | hmem
    · exact Or.inl ⟨b, hb, by rw [Act.token_of_writesFrame hbf, hpurpose]⟩
    · exact Or.inr (answers_ne_nil hmem hpurpose)

/-! ## Streams that stay open -/

theorem Ran.closed_of_closed (h : Ran json s t k a c s₁ acts) (hs : s.closed = true) :
    s₁.closed = true := by
  cases h with
  | handle h => cases h <;> exact hs
  | shutdown _ => rfl
  | _ => exact hs

theorem Called.session_closed (h : Called json s op s₁ acts) : s₁.closed = s.closed := by
  cases h <;> rfl

/-- The sweep over the streams is part of a shutdown. -/
def SweepsClosed (s : Session) : Prop :=
  ∀ t rs err, .forceCloseAll rs err ∈ s.threads t → s.closed = true

theorem SweepsClosed.run (hs : s.SweepsClosed) (hthread : s.threads t = a :: k)
    (h : Ran json s t k a c s₁ acts) : (s₁.goto t acts).SweepsClosed := by
  intro u rs err hb
  show s₁.closed = true
  have hold : ∀ u rs err, .forceCloseAll rs err ∈ s.threads u → s₁.closed = true :=
    fun u rs err hmem => h.closed_of_closed (hs u rs err hmem)
  rcases h.mem_acts hb with ⟨-, hmem⟩ | ⟨rfl, hacts⟩ | ⟨q, -, heq, -⟩
  · exact hold u rs err hmem
  · rcases h.next hthread _ hacts with hmem | hnext
    · exact hold u rs err (mem_of_tail hthread hmem)
    · cases hnext with
      | steady h => cases h
      | sweep hcause =>
        rcases hcause with hclosed | ⟨rs', err', rfl⟩
        · exact hclosed
        · exact hold u rs' err' (mem_of_head hthread)
  · cases heq

theorem SweepsClosed.call (hs : s.SweepsClosed) (h : Called json s op s₁ acts) :
    (s₁.goto t acts).SweepsClosed := by
  intro u rs err hb
  show s₁.closed = true
  rw [h.session_closed]
  rcases h.mem_threads hb with hmem | ⟨-, hacts⟩ | ⟨-, heq⟩ | ⟨-, heq⟩
  · exact hs u rs err hmem
  · clear hb
    cases h <;> simp at hacts
  · cases heq
  · cases heq

/-- The peer has sent a `FrameError` for the stream. -/
def Aborted (s : Session) (r : Ref) : Prop :=
  ∃ frame, (frame, some r) ∈ s.input ∧ frame.type = frameError

/-- The stream is open, and nothing is about to close it. -/
def Untouched (s : Session) (r : Ref) : Prop :=
  (s.obj r).closed = false ∧ ∀ t err, .forceClose r err ∉ s.threads t

/-- Nothing closes a stream of the peer on an open session whose writes succeed, unless the peer aborts
    it. -/
theorem Untouched.run (hw : s.Wf) (hh : s.Handed json) (hin : s.Incoming r) (hun : s.Untouched r)
    (hsweeps : s.SweepsClosed) (hthread : s.threads t = a :: k) (h : Ran json s t k a c s₁ acts)
    (hok : s.writesSucceed (.run t c) = true) (hopen : s.refuses = false)
    (habort : ¬ s₁.Aborted r) : (s₁.goto t acts).Untouched r := by
  have hamem := mem_of_head hthread
  constructor
  · refine Bool.eq_false_of_not_eq_true fun hr => ?_
    rcases h.closes hr with hold | ⟨err, rfl, -⟩
    · exact Bool.eq_false_iff.1 hun.1 hold
    · exact hun.2 t err hamem
  · intro u err hb
    rcases h.mem_acts hb with ⟨-, hmem⟩ | ⟨rfl, hacts⟩ | ⟨q, -, heq, -⟩
    · exact hun.2 u err hmem
    · rcases h.next hthread _ hacts with hmem | hnext
      · exact hun.2 u err (mem_of_tail hthread hmem)
      · cases hnext with
        | steady h => cases h
        | opens hopens => exact Bool.eq_false_iff.1 (hh.noOpens r hin u a hamem) hopens
        | refused hrefuses => exact Bool.eq_false_iff.1 hopen hrefuses
        | failed hfails => exact Bool.eq_false_iff.1 hfails hok
        | swept ha =>
          have hclosed := hsweeps u _ _ (ha ▸ hamem)
          simp [refuses, hclosed] at hopen
        | aborted _ htype hinput => exact habort ⟨_, by rw [hinput]; simp, htype⟩
        | done hdone => exact Bool.eq_false_iff.1 hun.1 ((hw.ok r).done hdone)
    · cases heq

theorem Untouched.call (hw : s.Wf) (hun : s.Untouched r) (h : Called json s op s₁ acts)
    (hop : ∀ message, op ≠ .reject r message) : (s₁.goto t acts).Untouched r := by
  constructor
  · rw [goto_obj, (h.fields hw r).2.1]
    exact hun.1
  · intro u err hb
    rcases h.mem_threads hb with hmem | ⟨-, hacts⟩ | ⟨-, heq⟩ | ⟨-, heq⟩
    · exact hun.2 u err hmem
    · clear hb
      cases h <;> simp at hacts
      case reject q message howned =>
        obtain ⟨rfl, -⟩ := hacts
        exact hop message rfl
    · cases heq
    · cases heq

/-- A stream that the peer has just opened. -/
theorem untouched_of_new (hw : s.Wf) {frame : Frame} (hthread : s.threads t = .handle frame :: k)
    (h : Ran json s t k (.handle frame) c s₁ acts) (htype : frame.type = frameOpen)
    (hr : r = s.count) (hopen : s.refuses = false) : (s₁.goto t acts).Untouched r := by
  have hbefore : ∀ u, ∀ b ∈ s.threads u, r ∉ b.refs := by
    intro u b hb hmem
    have := hw.refs u b hb r hmem
    lia
  have hamem : .handle frame ∈ s.threads t := by rw [hthread]; exact List.mem_cons_self ..
  constructor
  · obtain ⟨n, id, request, born, hnew⟩ := h.new_obj hw hthread (Nat.le_of_eq hr.symm)
    rw [goto_obj, hnew]
    rfl
  · intro u err hb
    rcases h.mem_acts hb with ⟨-, hmem⟩ | ⟨rfl, hacts⟩ | ⟨q, -, heq, -⟩
    · exact hbefore u _ hmem (by simp [Act.refs])
    · rcases h.next hthread _ hacts with hmem | hnext
      · exact hbefore u _ (mem_of_tail hthread hmem) (by simp [Act.refs])
      · cases hnext with
        | steady h => cases h
        | opens hopens => cases hopens
        | refused hrefuses => exact Bool.eq_false_iff.1 hopen hrefuses
        | failed hfails =>
          cases h with
          | moves h => cases h
          | handle _ => simp [writesSucceed, hthread] at hfails
        | swept ha => cases ha
        | aborted ha htype' _ =>
          cases ha
          rw [htype] at htype'
          exact absurd htype' (by decide)
        | done hdone =>
          rw [hw.fresh r (Nat.le_of_eq hr.symm)] at hdone
          cases hdone
    · cases heq

end Session

end LnProxy
